import NetstackSuite.Python.Json

/-!
# `json.dumps`

The encoder with its defaults (`ensure_ascii`, separators `", "` and `": "`, the non-finite floats as
words): strings with their escapes, integers by `int.__repr__`, which refuses more than 4300
digits, floats by `float.__repr__`, the shortest decimal text that reads back as the same float, and
the recursion limit.

`printableAscii_dumps` is what a line-based log rests on: the text is printable ASCII, whatever the value.
-/

namespace NetstackSuite.Python

/-! ## Numbers -/

/-- The last digits of a number, in front of those already written; the fuel bounds their number.
Source: Python `int.__repr__`
Kind: D -/
def decimalFrom : Nat → Nat → PyStr → PyStr
  | 0, _, acc => acc
  | fuel + 1, n, acc =>
      let acc := chr (0x30 + n % 10) :: acc
      if n / 10 = 0 then acc else decimalFrom fuel (n / 10) acc

/-- The decimal digits of a number; it has at most as many as binary ones.
Source: Python `int.__repr__`
Kind: D -/
def decimal (n : Nat) : PyStr := decimalFrom (n.log2 + 1) n []

/-- `int.__repr__`: too many digits are a `ValueError`.
Source: Python `int.__repr__`, `sys.int_info.default_max_str_digits`
Kind: D -/
def intRepr (i : Int) : Except PyExc PyStr :=
  let digits := decimal i.natAbs
  if 4300 < digits.length then .error .valueError
  else .ok (if i < 0 then text "-" ++ digits else digits)

namespace PyFloat

/-- The position `k` of the decimal point of a ratio that a float can hold:
`10 ^ (k - 1) ≤ num / den < 10 ^ k`.
Source: Python `float.__repr__`
Kind: D -/
def decimalPoint (num den : Nat) : Int :=
  if den ≤ num then (decimal (num / den)).length
  else -(((List.range 400).find? fun j => den ≤ num * 10 ^ (j + 1)).getD 0 : Nat)

/-- The decimal of `n` digits that reads back as `x = num / den`, the nearer one if two do.
Source: Python `float.__repr__`
Kind: D -/
def readsBack (x : PyFloat) (num den n : Nat) : Option (Nat × Int) :=
  let places : Int := n - decimalPoint num den
  let num := if places < 0 then num else num * 10 ^ places.natAbs
  let den := if places < 0 then den * 10 ^ places.natAbs else den
  let lo := num / den
  let nearer := if 2 * (num % den) < den ∨ (2 * (num % den) = den ∧ lo % 2 = 0) then lo else lo + 1
  if ofDecimal false nearer (-places) = x then some (nearer, -places)
  else if ofDecimal false lo (-places) = x then some (lo, -places)
  else if ofDecimal false (lo + 1) (-places) = x then some (lo + 1, -places)
  else none

/-- Where the decimal point goes: `decpt` digits before it, or an exponent if that is far away.
Source: Python `float.__repr__`
Kind: D -/
def layout (digits : PyStr) (decpt : Int) : PyStr :=
  if decpt ≤ -4 ∨ 16 < decpt then
    let magnitude := decimal (decpt - 1).natAbs
    digits.take 1 ++ (if digits.drop 1 = [] then [] else text "." ++ digits.drop 1) ++
      text (if decpt - 1 < 0 then "e-" else "e+") ++
      List.replicate (2 - magnitude.length) 0x30 ++ magnitude
  else if decpt ≤ 0 then text "0." ++ List.replicate decpt.natAbs 0x30 ++ digits
  else if digits.length ≤ decpt.natAbs then
    digits ++ List.replicate (decpt.natAbs - digits.length) 0x30 ++ text ".0"
  else digits.take decpt.natAbs ++ text "." ++ digits.drop decpt.natAbs

/-- `float.__repr__`, with the words `json` has for the non-finite floats. Seventeen digits always read
back.
Source: Python `float.__repr__`, `json.encoder.floatstr`
Kind: D -/
def repr : PyFloat → PyStr
  | .nan => text "NaN"
  | .inf neg => text (if neg then "-Infinity" else "Infinity")
  | .finite neg m e =>
      let sign := text (if neg then "-" else "")
      if m = 0 then sign ++ text "0.0"
      else
        let num := if e < 0 then m else m * 2 ^ e.natAbs
        let den := if e < 0 then 2 ^ e.natAbs else 1
        let (n, exp) := ((List.range 17).findSome? fun i =>
          readsBack (.finite false m e) num den (i + 1)).getD (m, e)
        let digits := decimal n
        sign ++ layout (digits.rdropWhile fun c => c = 0x30) (digits.length + exp)

end PyFloat

/-! ## Strings -/

namespace Json

/-- A lower-case hexadecimal digit.
Source: Python `json.encoder`
Kind: D -/
def hexDigit (n : Nat) : CodePoint := if n % 16 < 10 then chr (0x30 + n % 16) else chr (0x57 + n % 16)

/-- `\uXXXX`.
Source: Python `json.encoder.py_encode_basestring_ascii`
Kind: D -/
def unicodeEscape (n : Nat) : PyStr :=
  text "\\u" ++ [hexDigit (n / 4096), hexDigit (n / 256), hexDigit (n / 16), hexDigit n]

/-- One character of a string literal; beyond U+FFFF it is a surrogate pair.
Source: Python `json.encoder.py_encode_basestring_ascii`
Kind: D -/
def escapeChar (c : CodePoint) : PyStr :=
  if c = 0x22 then text "\\\""
  else if c = 0x5C then text "\\\\"
  else if c = LF then text "\\n"
  else if c = CR then text "\\r"
  else if c = 0x09 then text "\\t"
  else if c = 0x0C then text "\\f"
  else if c = 0x08 then text "\\b"
  else if 0x20 ≤ c ∧ c ≤ 0x7E then [c]
  else if c < 0x10000 then unicodeEscape c.val
  else
    let n := c.val - 0x10000
    unicodeEscape (0xD800 + n / 0x400) ++ unicodeEscape (0xDC00 + n % 0x400)

/-- A string literal.
Source: Python `json.encoder.py_encode_basestring_ascii`
Kind: D -/
def quoted (s : PyStr) : PyStr := text "\"" ++ s.flatMap escapeChar ++ text "\""

/-! ## Values -/

mutual

/-- `json.dumps(v)`; `depth` is how many more containers the recursion limit admits.
Source: Python `json.dumps`
Kind: D -/
def dumps (depth : Nat) : Json → Except PyExc PyStr
  | .null => .ok (text "null")
  | .bool b => .ok (text (if b then "true" else "false"))
  | .int i => intRepr i
  | .float x => .ok x.repr
  | .str s => .ok (quoted s)
  | .list xs =>
      match depth with
      | 0 => .error .recursionError
      | depth + 1 => (dumpsElements depth xs).map fun s => text "[" ++ s ++ text "]"
  | .dict kvs =>
      match depth with
      | 0 => .error .recursionError
      | depth + 1 => (dumpsMembers depth kvs).map fun s => text "\x7b" ++ s ++ text "\x7d"

/-- The elements of an array, separated by `, `.
Source: Python `json.dumps`
Kind: D -/
def dumpsElements (depth : Nat) : List Json → Except PyExc PyStr
  | [] => .ok []
  | v :: vs => do
      let s ← dumps depth v
      let rest ← dumpsElements depth vs
      return if vs.isEmpty then s else s ++ text ", " ++ rest

/-- The members of an object, separated by `, `.
Source: Python `json.dumps`
Kind: D -/
def dumpsMembers (depth : Nat) : List (PyStr × Json) → Except PyExc PyStr
  | [] => .ok []
  | (k, v) :: kvs => do
      let s ← dumps depth v
      let rest ← dumpsMembers depth kvs
      let member := quoted k ++ text ": " ++ s
      return if kvs.isEmpty then member else member ++ text ", " ++ rest

end

end Json

/-! ## The text is printable ASCII -/

/-- All characters lie between the blank and the tilde.
Source: Python `json.encoder.ESCAPE_ASCII`
Kind: D -/
def PrintableAscii (s : PyStr) : Prop := ∀ c ∈ s, 0x20 ≤ c ∧ c ≤ 0x7E

/-- Character by character.
Source: none: infrastructure
Kind: D -/
instance (s : PyStr) : Decidable (PrintableAscii s) :=
  List.decidableBAll (fun c => 0x20 ≤ c ∧ c ≤ 0x7E) s

lemma PrintableAscii.append {s t : PyStr} (hs : PrintableAscii s) (ht : PrintableAscii t) :
    PrintableAscii (s ++ t) := List.forall_mem_append.mpr ⟨hs, ht⟩

lemma PrintableAscii.sublist {s t : PyStr} (ht : PrintableAscii t) (h : s.Sublist t) :
    PrintableAscii s := fun c hc => ht c (h.subset hc)

lemma printableAscii_zeros (n : Nat) : PrintableAscii (List.replicate n 0x30) := by
  intro c hc
  rw [List.eq_of_mem_replicate hc]
  decide

/-- A small offset from a printable character.
Source: none: infrastructure
Kind: L -/
lemma printable_chr {n : Nat} (hlo : 0x20 ≤ n) (hhi : n ≤ 0x7E) :
    0x20 ≤ chr n ∧ chr n ≤ 0x7E := by
  have hval : (chr n).val = n := by
    show n % 0x110000 = n
    omega
  constructor <;> rw [Fin.le_def, hval]
  · exact hlo
  · exact hhi

lemma printableAscii_decimalFrom (fuel n : Nat) {acc : PyStr} (h : PrintableAscii acc) :
    PrintableAscii (decimalFrom fuel n acc) := by
  induction fuel generalizing n acc with
  | zero => exact h
  | succ fuel ih =>
      have hdigit : PrintableAscii (chr (0x30 + n % 10) :: acc) := by
        refine List.forall_mem_cons.mpr ⟨printable_chr ?_ ?_, h⟩ <;> omega
      simp only [decimalFrom]
      split
      · exact hdigit
      · exact ih _ hdigit

lemma printableAscii_decimal (n : Nat) : PrintableAscii (decimal n) :=
  printableAscii_decimalFrom _ _ (by simp [PrintableAscii])

lemma printableAscii_layout {digits : PyStr} (h : PrintableAscii digits) (decpt : Int) :
    PrintableAscii (PyFloat.layout digits decpt) := by
  have htake : ∀ n, PrintableAscii (digits.take n) := fun n => h.sublist (List.take_sublist _ _)
  have hdrop : ∀ n, PrintableAscii (digits.drop n) := fun n => h.sublist (List.drop_sublist _ _)
  have hdot : PrintableAscii (text ".") := by decide
  unfold PyFloat.layout
  split
  · have hfraction : PrintableAscii
        (if digits.drop 1 = [] then [] else text "." ++ digits.drop 1) := by
      split
      · simp [PrintableAscii]
      · exact hdot.append (hdrop 1)
    have hsign : PrintableAscii (text (if decpt - 1 < 0 then "e-" else "e+")) := by
      split <;> decide
    exact ((((htake 1).append hfraction).append hsign).append (printableAscii_zeros _)).append
      (printableAscii_decimal _)
  · split
    · have hzero : PrintableAscii (text "0.") := by decide
      exact (hzero.append (printableAscii_zeros _)).append h
    · split
      · have hend : PrintableAscii (text ".0") := by decide
        exact (h.append (printableAscii_zeros _)).append hend
      · exact ((htake _).append hdot).append (hdrop _)

/-- A float's text is printable.
Source: Python `float.__repr__`
Kind: L -/
lemma printableAscii_repr (x : PyFloat) : PrintableAscii x.repr := by
  cases x with
  | nan => decide
  | inf neg => cases neg <;> decide
  | finite neg m e =>
      have hsign : PrintableAscii (text (if neg then "-" else "")) := by cases neg <;> decide
      simp only [PyFloat.repr]
      split
      · have hzero : PrintableAscii (text "0.0") := by decide
        exact hsign.append hzero
      · refine hsign.append (printableAscii_layout ?_ _)
        exact (printableAscii_decimal _).sublist (List.rdropWhile_prefix _ _).sublist

lemma printableAscii_unicodeEscape (n : Nat) : PrintableAscii (Json.unicodeEscape n) := by
  have hdigit : ∀ n, 0x20 ≤ Json.hexDigit n ∧ Json.hexDigit n ≤ 0x7E := by
    intro n
    unfold Json.hexDigit
    split <;> apply printable_chr <;> omega
  have hu : PrintableAscii (text "\\u") := by decide
  apply hu.append
  simp only [PrintableAscii, List.forall_mem_cons]
  exact ⟨hdigit _, hdigit _, hdigit _, hdigit _, nofun⟩

/-- A string literal is printable, whatever the string.
Source: Python `json.encoder.py_encode_basestring_ascii`
Kind: L -/
lemma printableAscii_quoted (s : PyStr) : PrintableAscii (Json.quoted s) := by
  have hchar : ∀ c, PrintableAscii (Json.escapeChar c) := by
    intro c
    unfold Json.escapeChar
    split; · decide
    split; · decide
    split; · decide
    split; · decide
    split; · decide
    split; · decide
    split; · decide
    split
    · next hc => exact List.forall_mem_cons.mpr ⟨hc, nofun⟩
    · split
      · exact printableAscii_unicodeEscape _
      · exact (printableAscii_unicodeEscape _).append (printableAscii_unicodeEscape _)
  have hquote : PrintableAscii (text "\"") := by decide
  refine (hquote.append ?_).append hquote
  intro c hc
  obtain ⟨d, -, hd⟩ := List.mem_flatMap.mp hc
  exact hchar d c hd

lemma printableAscii_intRepr {i : Int} {t : PyStr} (h : intRepr i = .ok t) : PrintableAscii t := by
  have hminus : PrintableAscii (text "-") := by decide
  simp only [intRepr] at h
  split at h
  · cases h
  · cases h
    split
    · exact hminus.append (printableAscii_decimal _)
    · exact printableAscii_decimal _

mutual

/-- **The text of a value is printable ASCII.**
Source: Python `json.dumps`
Kind: P -/
theorem printableAscii_dumps (depth : Nat) :
    ∀ (v : Json) (t : PyStr), Json.dumps depth v = .ok t → PrintableAscii t
  | .null, t, h => by
      cases h
      decide
  | .bool b, t, h => by
      cases h
      cases b <;> decide
  | .int i, t, h => printableAscii_intRepr h
  | .float x, t, h => by
      cases h
      exact printableAscii_repr x
  | .str s, t, h => by
      cases h
      exact printableAscii_quoted s
  | .list xs, t, h => by
      have hopen : PrintableAscii (text "[") := by decide
      have hclose : PrintableAscii (text "]") := by decide
      cases depth with
      | zero => cases h
      | succ depth =>
          rw [Json.dumps] at h
          rcases hs : Json.dumpsElements depth xs with e | s <;> rw [hs] at h <;> cases h
          exact (hopen.append (printableAscii_dumpsElements depth xs s hs)).append hclose
  | .dict kvs, t, h => by
      have hopen : PrintableAscii (text "\x7b") := by decide
      have hclose : PrintableAscii (text "\x7d") := by decide
      cases depth with
      | zero => cases h
      | succ depth =>
          rw [Json.dumps] at h
          rcases hs : Json.dumpsMembers depth kvs with e | s <;> rw [hs] at h <;> cases h
          exact (hopen.append (printableAscii_dumpsMembers depth kvs s hs)).append hclose

theorem printableAscii_dumpsElements (depth : Nat) :
    ∀ (vs : List Json) (t : PyStr), Json.dumpsElements depth vs = .ok t → PrintableAscii t
  | [], t, h => by
      cases h
      exact nofun
  | v :: vs, t, h => by
      have hcomma : PrintableAscii (text ", ") := by decide
      rw [Json.dumpsElements] at h
      rcases hv : Json.dumps depth v with e | s <;> rw [hv] at h
      · cases h
      · rcases hvs : Json.dumpsElements depth vs with e | rest <;> rw [hvs] at h
        · cases h
        · cases h
          have hs := printableAscii_dumps depth v s hv
          split
          · exact hs
          · exact (hs.append hcomma).append (printableAscii_dumpsElements depth vs rest hvs)

theorem printableAscii_dumpsMembers (depth : Nat) :
    ∀ (kvs : List (PyStr × Json)) (t : PyStr), Json.dumpsMembers depth kvs = .ok t → PrintableAscii t
  | [], t, h => by
      cases h
      exact nofun
  | (k, v) :: kvs, t, h => by
      have hcomma : PrintableAscii (text ", ") := by decide
      have hcolon : PrintableAscii (text ": ") := by decide
      rw [Json.dumpsMembers] at h
      rcases hv : Json.dumps depth v with e | s <;> rw [hv] at h
      · cases h
      · rcases hkvs : Json.dumpsMembers depth kvs with e | rest <;> rw [hkvs] at h
        · cases h
        · cases h
          have hmember := ((printableAscii_quoted k).append hcolon).append
            (printableAscii_dumps depth v s hv)
          split
          · exact hmember
          · exact (hmember.append hcomma).append (printableAscii_dumpsMembers depth kvs rest hkvs)

end

end NetstackSuite.Python
