import NetstackSuite.Python.Dict
import NetstackSuite.Python.Exception
import NetstackSuite.Python.Float
import NetstackSuite.Python.Text

/-!
# The values `json.loads` produces, and what Python does with them

A value read from JSON is used without a type check by much ordinary Python code, so each
operation is modelled on **every** value and says when it raises:

* `truthy` is `bool(v)`;
* `hashKey` is the identity of `v` as a dictionary key, `none` where `hash(v)` raises `TypeError`;
  keys are equal exactly when Python's `==` says so (`True == 1 == 1.0`; `json` has one `NaN`
  object, so `NaN` finds itself);
* `add`, `sub` and `iadd` are `+`, `-` and `+=`, with `OverflowError` where an integer is too large
  for the float it meets;
* `asdict` is `dataclasses.asdict`, which copies a record and so walks down all of it.
-/

namespace NetstackSuite.Python

/-- A value produced by `json.loads`.
Source: Python `json`
Kind: D -/
inductive Json where
  | null
  | bool (b : Bool)
  | int (i : Int)
  | float (x : PyFloat)
  | str (s : PyStr)
  | list (xs : List Json)
  | dict (kvs : List (PyStr × Json))

/-- A hashable value up to `==`.
Source: Python `hash`, `==`
Kind: D -/
inductive HashKey where
  | none
  | int (i : Int)
  | float (x : PyFloat)
  | str (s : PyStr)
  deriving DecidableEq

namespace Json

/-! ## Decidable equality -/

mutual

/-- Structural equality test.
Source: none: infrastructure
Kind: D -/
def beq : Json → Json → Bool
  | .null, .null => true
  | .bool a, .bool b => a == b
  | .int a, .int b => a == b
  | .float a, .float b => a == b
  | .str a, .str b => a == b
  | .list xs, .list ys => beqList xs ys
  | .dict kvs, .dict lws => beqMembers kvs lws
  | _, _ => false

/-- Structural equality test on arrays.
Source: none: infrastructure
Kind: D -/
def beqList : List Json → List Json → Bool
  | [], [] => true
  | x :: xs, y :: ys => beq x y && beqList xs ys
  | _, _ => false

/-- Structural equality test on the members of objects.
Source: none: infrastructure
Kind: D -/
def beqMembers : List (PyStr × Json) → List (PyStr × Json) → Bool
  | [], [] => true
  | (k, v) :: kvs, (l, w) :: lws => k == l && beq v w && beqMembers kvs lws
  | _, _ => false

end

mutual

lemma beq_self : ∀ v : Json, beq v v = true
  | .null => rfl
  | .bool _ | .int _ | .float _ | .str _ => by simp [beq]
  | .list xs => by simpa [beq] using beqList_self xs
  | .dict kvs => by simpa [beq] using beqMembers_self kvs

lemma beqList_self : ∀ xs : List Json, beqList xs xs = true
  | [] => rfl
  | x :: xs => by simp [beqList, beq_self x, beqList_self xs]

lemma beqMembers_self : ∀ kvs : List (PyStr × Json), beqMembers kvs kvs = true
  | [] => rfl
  | (k, v) :: kvs => by simp [beqMembers, beq_self v, beqMembers_self kvs]

end

mutual

lemma eq_of_beq : ∀ v w : Json, beq v w = true → v = w
  | .null, w, h => by cases w <;> simp_all [beq]
  | .bool _, w, h => by cases w <;> simp_all [beq]
  | .int _, w, h => by cases w <;> simp_all [beq]
  | .float _, w, h => by cases w <;> simp_all [beq]
  | .str _, w, h => by cases w <;> simp_all [beq]
  | .list xs, .list ys, h => by rw [eq_of_beqList xs ys (by simpa [beq] using h)]
  | .dict kvs, .dict lws, h => by rw [eq_of_beqMembers kvs lws (by simpa [beq] using h)]

lemma eq_of_beqList : ∀ xs ys : List Json, beqList xs ys = true → xs = ys
  | [], [], _ => rfl
  | x :: xs, y :: ys, h => by
      simp only [beqList, Bool.and_eq_true] at h
      rw [eq_of_beq x y h.1, eq_of_beqList xs ys h.2]

lemma eq_of_beqMembers : ∀ kvs lws : List (PyStr × Json), beqMembers kvs lws = true → kvs = lws
  | [], [], _ => rfl
  | (k, v) :: kvs, (l, w) :: lws, h => by
      simp only [beqMembers, Bool.and_eq_true, beq_iff_eq] at h
      rw [h.1.1, eq_of_beq v w h.1.2, eq_of_beqMembers kvs lws h.2]

end

instance : DecidableEq Json := fun v w =>
  if h : beq v w = true then .isTrue (eq_of_beq v w h)
  else .isFalse fun e => h (e ▸ beq_self v)

/-! ## Operations -/

/-- `bool(v)`.
Source: Python truth value testing
Kind: D -/
def truthy : Json → Bool
  | .null => false
  | .bool b => b
  | .int i => i ≠ 0
  | .float x => !x.isZero
  | .str s => !s.isEmpty
  | .list xs => !xs.isEmpty
  | .dict kvs => !kvs.isEmpty

/-- The key `v` is in a dictionary or a set; `none` when `hash(v)` raises `TypeError`.
Source: Python `hash`, `==`
Kind: D -/
def hashKey : Json → Option HashKey
  | .null => some .none
  | .bool b => some (.int (if b then 1 else 0))
  | .int i => some (.int i)
  | .float x => some (match x.toInt? with | some i => .int i | none => .float x)
  | .str s => some (.str s)
  | .list _ | .dict _ => none

/-- `v == s` for a string `s`.
Source: Python `str.__eq__`
Kind: D -/
def eqStr (v : Json) (s : PyStr) : Bool :=
  match v with
  | .str t => t = s
  | _ => false

/-- `d.get(key, default)` on the entries of an object.
Source: Python `dict.get`
Kind: D -/
def getD (kvs : List (PyStr × Json)) (key : PyStr) (default : Json) : Json :=
  (Dict.get kvs key).getD default

/-- `d.get(key)` on the entries of an object.
Source: Python `dict.get`
Kind: D -/
def get (kvs : List (PyStr × Json)) (key : PyStr) : Json := getD kvs key .null

/-- An entry of an object that has to be there, and what is raised when it is not: `KeyError` for
`d[key]`, `TypeError` for an argument of a call.
Source: Python `dict.__getitem__`, calls
Kind: D -/
def require (missing : PyExc) (kvs : List (PyStr × Json)) (key : PyStr) : Except PyExc Json :=
  match Dict.get kvs key with
  | some v => .ok v
  | none => .error missing

/-- A value as a number: `bool` is a subclass of `int`.
Source: Python numeric tower
Kind: D -/
def asNumber : Json → Option (Int ⊕ PyFloat)
  | .bool b => some (.inl (if b then 1 else 0))
  | .int i => some (.inl i)
  | .float x => some (.inr x)
  | _ => none

/-- `float(n)` of a number, as mixed arithmetic performs it.
Source: Python `int` to `float` conversion
Kind: D -/
def toFloat : Int ⊕ PyFloat → Except PyExc PyFloat
  | .inr x => .ok x
  | .inl i => match PyFloat.ofInt i with
      | some x => .ok x
      | none => .error .overflowError

/-- A binary operation on numbers: on two integers exactly, otherwise on floats.
Source: Python numeric tower
Kind: D -/
def arith (onInt : Int → Int → Int) (onFloat : PyFloat → PyFloat → PyFloat) (a b : Int ⊕ PyFloat) :
    Except PyExc Json :=
  match a, b with
  | .inl i, .inl j => .ok (.int (onInt i j))
  | a, b => do
      let x ← toFloat a
      let y ← toFloat b
      return .float (onFloat x y)

/-- `a + b`.
Source: Python `+`
Kind: D -/
def add (a b : Json) : Except PyExc Json :=
  match a.asNumber, b.asNumber with
  | some m, some n => arith (· + ·) PyFloat.add m n
  | _, _ =>
      match a, b with
      | .str s, .str t => .ok (.str (s ++ t))
      | .list xs, .list ys => .ok (.list (xs ++ ys))
      | _, _ => .error .typeError

/-- `a - b`.
Source: Python `-`
Kind: D -/
def sub (a b : Json) : Except PyExc Json :=
  match a.asNumber, b.asNumber with
  | some m, some n => arith (· - ·) PyFloat.sub m n
  | _, _ => .error .typeError

/-- The values `for x in v` visits; `TypeError` when `v` is not iterable.
Source: Python `iter`
Kind: D -/
def iterate : Json → Except PyExc (List Json)
  | .str s => .ok (s.map fun c => .str [c])
  | .list xs => .ok xs
  | .dict kvs => .ok (kvs.map fun kv => .str kv.1)
  | _ => .error .typeError

/-- The value of `a` after `a += b`. A list extends itself by any iterable.
Source: Python `+=`
Kind: D -/
def iadd (a b : Json) : Except PyExc Json :=
  match a with
  | .list xs => do
      let ys ← b.iterate
      return .list (xs ++ ys)
  | _ => add a b

/-- `format(v, ".3f")`: only numbers have it, and an integer is converted to a float.
Source: Python `format`
Kind: D -/
def formatFixed3 (v : Json) : Except PyExc PyStr :=
  match v.asNumber with
  | some n => do
      let x ← toFloat n
      return text x.fixed3
  | none =>
      match v with
      | .str _ => .error .valueError
      | _ => .error .typeError

/-- Is the value a string?
Source: none: infrastructure
Kind: D -/
def isStr : Json → Bool
  | .str _ => true
  | _ => false

/-- Is the value a number, as JSON has numbers? (`bool` is not.)
Source: none: infrastructure
Kind: D -/
def isNumber : Json → Bool
  | .int _ | .float _ => true
  | _ => false

@[simp] lemma hashKey_str (s : PyStr) : (Json.str s).hashKey = some (.str s) := rfl

@[simp] lemma asNumber_float (x : PyFloat) : (Json.float x).asNumber = some (.inr x) := rfl

@[simp] lemma asNumber_int (i : Int) : (Json.int i).asNumber = some (.inl i) := rfl

/-- Adding two floats never raises.
Source: Python `float.__add__`
Kind: L -/
@[simp] lemma iadd_float (x y : PyFloat) :
    iadd (.float x) (.float y) = .ok (.float (x.add y)) := rfl

/-- Adding two integers never raises.
Source: Python `int.__add__`
Kind: L -/
@[simp] lemma iadd_int (i j : Int) : iadd (.int i) (.int j) = .ok (.int (i + j)) := rfl

/-- A string value is its string.
Source: none: infrastructure
Kind: L -/
lemma isStr_iff {v : Json} : v.isStr = true ↔ ∃ s, v = .str s := by
  cases v <;> simp [isStr]

/-- A string key is found exactly by the same string.
Source: Python `str.__hash__`
Kind: L -/
lemma hashKey_eq_str_iff {v : Json} {s : PyStr} :
    v.hashKey = some (.str s) ↔ v = .str s := by
  cases v with
  | float x => cases h : x.toInt? <;> simp [hashKey, h]
  | _ => simp [hashKey]

end Json

/-! ## `dataclasses.asdict` -/

/-- The frames that the recursion limit leaves to `asdict`, and how many of them a container and any other
value take. In Python 3.11 a container takes two, its own and that of the generator over its elements, and
another value three; from 3.12 on it is one each.
Source: Python `dataclasses._asdict_inner`, `sys.getrecursionlimit`
Kind: D -/
structure CopyLimit where
  frames : Nat
  container : Nat
  scalar : Nat

namespace Json

mutual

/-- The frames that are open at a time while a value is copied.
Source: Python `dataclasses._asdict_inner`
Kind: D -/
def copyFrames (limit : CopyLimit) : Json → Nat
  | .list xs => limit.container + copyFramesElements limit xs
  | .dict kvs => limit.container + copyFramesMembers limit kvs
  | _ => limit.scalar

/-- The frames for the elements of an array, one after the other.
Source: Python `dataclasses._asdict_inner`
Kind: D -/
def copyFramesElements (limit : CopyLimit) : List Json → Nat
  | [] => 0
  | v :: vs => max (copyFrames limit v) (copyFramesElements limit vs)

/-- The frames for the members of an object: keys are copied like values.
Source: Python `dataclasses._asdict_inner`
Kind: D -/
def copyFramesMembers (limit : CopyLimit) : List (PyStr × Json) → Nat
  | [] => 0
  | (_, v) :: kvs => max (max limit.scalar (copyFrames limit v)) (copyFramesMembers limit kvs)

end

/-- `dataclasses.asdict` of a record, given as the dictionary of its fields: an equal value, if the recursion
limit admits its copy.
Source: Python `dataclasses.asdict`
Kind: D -/
def asdict (limit : CopyLimit) (v : Json) : Except PyExc Json :=
  if v.copyFrames limit ≤ limit.frames then .ok v else .error .recursionError

variable {limit : CopyLimit}

lemma copyFramesElements_le {n : Nat} {xs : List Json} (h : ∀ x ∈ xs, x.copyFrames limit ≤ n) :
    copyFramesElements limit xs ≤ n := by
  induction xs with
  | nil => exact Nat.zero_le n
  | cons x xs ih =>
      rw [copyFramesElements]
      exact max_le (h x List.mem_cons_self) (ih fun y hy => h y (List.mem_cons_of_mem x hy))

lemma copyFramesMembers_le {n : Nat} {kvs : List (PyStr × Json)} (hscalar : limit.scalar ≤ n)
    (h : ∀ kv ∈ kvs, kv.2.copyFrames limit ≤ n) : copyFramesMembers limit kvs ≤ n := by
  induction kvs with
  | nil => exact Nat.zero_le n
  | cons kv kvs ih =>
      rw [copyFramesMembers]
      exact max_le (max_le hscalar (h kv List.mem_cons_self)) (ih fun y hy => h y (List.mem_cons_of_mem kv hy))

/-- A member's copy is part of its object's.
Source: Python `dataclasses._asdict_inner`
Kind: L -/
lemma copyFrames_le_of_mem {kvs : List (PyStr × Json)} {k : PyStr} {v : Json} (h : (k, v) ∈ kvs) :
    v.copyFrames limit ≤ copyFramesMembers limit kvs := by
  induction kvs with
  | nil => cases h
  | cons first kvs ih =>
      rw [copyFramesMembers]
      rcases List.mem_cons.mp h with rfl | hmem
      · exact le_trans (le_max_right _ _) (le_max_left _ _)
      · exact le_trans (ih hmem) (le_max_right _ _)

/-- Records that are copied one after the other.
Source: Python `dataclasses.asdict`
Kind: L -/
lemma mapM_asdict (records : List Json) : records.mapM (asdict limit) =
    if ∀ v ∈ records, v.copyFrames limit ≤ limit.frames then .ok records else .error .recursionError := by
  induction records with
  | nil => rfl
  | cons v vs ih =>
      have hcons : (∀ w ∈ v :: vs, w.copyFrames limit ≤ limit.frames) ↔
          v.copyFrames limit ≤ limit.frames ∧ ∀ w ∈ vs, w.copyFrames limit ≤ limit.frames :=
        List.forall_mem_cons
      rw [List.mapM_cons, ih, if_congr hcons rfl rfl]
      unfold asdict
      by_cases hv : v.copyFrames limit ≤ limit.frames
      · by_cases hvs : ∀ w ∈ vs, w.copyFrames limit ≤ limit.frames
        · rw [if_pos hv, if_pos hvs, if_pos ⟨hv, hvs⟩]
          rfl
        · rw [if_pos hv, if_neg hvs, if_neg fun hall => hvs hall.2]
          rfl
      · have hnot : ¬ (v.copyFrames limit ≤ limit.frames ∧ ∀ w ∈ vs, w.copyFrames limit ≤ limit.frames) :=
          fun hall => hv hall.1
        rw [if_neg hv, if_neg hnot]
        rfl

end Json

end NetstackSuite.Python
