import NetstackSuite.Python.JsonDumps
import NetstackSuite.Python.JsonLoads

/-!
# Python integers and their text

`int(s)` as Python reads it: whitespace around, a sign, decimal digits of any script with single
underscores between them, at most 4300 of them (`exists_pyInt_iff`). `pyInt_intRepr` says that it reads back
what `str` of an integer prints.
-/

namespace NetstackSuite.Python

/-- The code points of value zero; each starts a run of ten decimal digits.
Source: Python `unicodedata.decimal`
Kind: D -/
def decimalZeros : List Nat :=
  [0x30, 0x660, 0x6F0, 0x7C0, 0x966, 0x9E6, 0xA66, 0xAE6, 0xB66, 0xBE6, 0xC66, 0xCE6, 0xD66, 0xDE6,
    0xE50, 0xED0, 0xF20, 0x1040, 0x1090, 0x17E0, 0x1810, 0x1946, 0x19D0, 0x1A80, 0x1A90, 0x1B50,
    0x1BB0, 0x1C40, 0x1C50, 0xA620, 0xA8D0, 0xA900, 0xA9D0, 0xA9F0, 0xAA50, 0xABF0, 0xFF10, 0x104A0,
    0x10D30, 0x11066, 0x110F0, 0x11136, 0x111D0, 0x112F0, 0x11450, 0x114D0, 0x11650, 0x116C0,
    0x11730, 0x118E0, 0x11950, 0x11C50, 0x11D50, 0x11DA0, 0x16A60, 0x16AC0, 0x16B50, 0x1D7CE,
    0x1D7D8, 0x1D7E2, 0x1D7EC, 0x1D7F6, 0x1E140, 0x1E2F0, 0x1E950, 0x1FBF0]

/-- The value of a decimal digit.
Source: Python `unicodedata.decimal`
Kind: D -/
def decimalDigit (c : CodePoint) : Option Nat :=
  (decimalZeros.find? fun z => z ≤ c.val && c.val < z + 10).map fun z => c.val - z

/-- What `int` takes for whitespace: below U+007F only what C's `isspace` does.
Source: Python `longobject.c` `PyLong_FromUnicodeObject`
Kind: D -/
def isIntSpace (c : CodePoint) : Bool :=
  (0x09 ≤ c && c ≤ 0x0D) || c = 0x20 || (0x7F ≤ c && isSpace c)

/-- The digits of a literal: at least one, with single underscores between them.
Source: Python `longobject.c` `long_from_string_base`
Kind: D -/
def intDigits : PyStr → Option (List Nat)
  | [] => none
  | [c] => (decimalDigit c).map fun v => [v]
  | c :: d :: cs =>
    match decimalDigit c with
    | none => none
    | some v =>
      if d = 0x5F then (intDigits cs).map fun vs => v :: vs
      else (intDigits (d :: cs)).map fun vs => v :: vs

/-- An optional sign, and what follows it.
Source: Python `longobject.c` `PyLong_FromString`
Kind: D -/
def intSign : PyStr → Bool × PyStr
  | [] => (false, [])
  | c :: cs => if c = 0x2D then (true, cs) else if c = 0x2B then (false, cs) else (false, c :: cs)

/-- `int(s)`.
Source: Python `int`, `sys.int_info.default_max_str_digits`
Kind: D -/
def pyInt (s : PyStr) : Except PyExc Int :=
  let (negative, literal) := intSign ((s.dropWhile isIntSpace).rdropWhile isIntSpace)
  match intDigits literal with
  | none => .error .valueError
  | some digits =>
    if 4300 < digits.length then .error .valueError
    else
      let n : Nat := digits.foldl (fun n d => n * 10 + d) 0
      .ok (if negative then -(n : Int) else n)

/-! ## Reading back what `str` prints -/

/-- A string of ASCII digits.
Source: Python `str.isdigit`, `str.isascii`
Kind: D -/
def IsDecimal (s : PyStr) : Prop := s ≠ [] ∧ ∀ c ∈ s, Json.isDigit c = true

instance (s : PyStr) : Decidable (IsDecimal s) :=
  decidable_of_iff (s ≠ [] ∧ s.all Json.isDigit = true) (by unfold IsDecimal; rw [List.all_eq_true])

/-- The number a run of ASCII digits denotes.
Source: Python `int`
Kind: D -/
abbrev decimalValue (s : PyStr) : Nat := Json.ofDigits s

lemma isDigit_iff {c : CodePoint} : Json.isDigit c = true ↔ 0x30 ≤ c.val ∧ c.val ≤ 0x39 := by
  unfold Json.isDigit
  rw [Bool.and_eq_true, decide_eq_true_eq, decide_eq_true_eq]
  exact Iff.rfl

/-- An ASCII digit has its own value.
Source: Python `unicodedata.decimal`
Kind: L -/
lemma decimalDigit_of_isDigit {c : CodePoint} (hc : Json.isDigit c = true) :
    decimalDigit c = some (c.val - 0x30) := by
  obtain ⟨hlow, hhigh⟩ := isDigit_iff.mp hc
  unfold decimalDigit decimalZeros
  rw [List.find?_cons_of_pos]
  · rfl
  · simp only [Bool.and_eq_true, decide_eq_true_eq]
    omega

/-- The digits of a run of ASCII digits.
Source: Python `int`
Kind: L -/
lemma intDigits_of_isDecimal {s : PyStr} (hs : IsDecimal s) :
    intDigits s = some (s.map fun c => c.val - 0x30) := by
  obtain ⟨hne, hall⟩ := hs
  induction s with
  | nil => contradiction
  | cons c s ih =>
      rw [List.forall_mem_cons] at hall
      rcases s with _ | ⟨d, s⟩
      · rw [intDigits, decimalDigit_of_isDigit hall.1]
        rfl
      · have hd : d ≠ 0x5F := by
          intro hd
          have hdigit := isDigit_iff.mp (hall.2 d List.mem_cons_self)
          rw [hd] at hdigit
          exact absurd hdigit.2 (by decide)
        rw [intDigits, decimalDigit_of_isDigit hall.1]
        simp only [if_neg hd]
        rw [ih (List.cons_ne_nil d s) hall.2]
        rfl

/-- A digit is neither whitespace nor a sign.
Source: Python `int`
Kind: L -/
lemma isIntSpace_of_isDigit {c : CodePoint} (hc : Json.isDigit c = true) : isIntSpace c = false := by
  obtain ⟨hlow, hhigh⟩ := isDigit_iff.mp hc
  have hne : c ≠ 0x20 := by
    rintro rfl
    exact absurd hlow (by decide)
  unfold isIntSpace
  rw [decide_eq_false (fun h : c ≤ 0x0D => absurd (show c.val ≤ 0x0D from h) (by omega)),
    decide_eq_false hne, decide_eq_false (fun h : 0x7F ≤ c => absurd (show 0x7F ≤ c.val from h)
      (by omega))]
  simp

/-- `intSign` finds no sign before a digit.
Source: Python `int`
Kind: L -/
lemma intSign_of_isDecimal {s : PyStr} (hs : IsDecimal s) : intSign s = (false, s) := by
  obtain ⟨hne, hall⟩ := hs
  rcases s with _ | ⟨c, s⟩
  · contradiction
  · obtain ⟨hlow, -⟩ := isDigit_iff.mp (hall c List.mem_cons_self)
    have hminus : c ≠ 0x2D := by
      rintro rfl
      exact absurd hlow (by decide)
    have hplus : c ≠ 0x2B := by
      rintro rfl
      exact absurd hlow (by decide)
    rw [intSign, if_neg hminus, if_neg hplus]

/-- Stripping leaves alone a text whose two ends are no whitespace.
Source: Python `int`
Kind: L -/
lemma stripInt_eq_self {c : CodePoint} {s : PyStr} (hc : isIntSpace c = false)
    (hs : ∀ d ∈ s, isIntSpace d = false) :
    ((c :: s).dropWhile isIntSpace).rdropWhile isIntSpace = c :: s := by
  rw [List.dropWhile_cons_of_neg (by rw [hc]; exact Bool.false_ne_true)]
  rw [List.rdropWhile_eq_self_iff]
  intro hne
  rcases List.mem_cons.mp (List.getLast_mem hne) with hlast | hlast
  · rw [hlast, hc]
    exact Bool.false_ne_true
  · rw [hs _ hlast]
    exact Bool.false_ne_true

/-- One more digit at the end.
Source: Python `int`
Kind: L -/
lemma decimalValue_concat (s : PyStr) (c : CodePoint) :
    decimalValue (s ++ [c]) = decimalValue s * 10 + (c.val - 0x30) := by
  unfold decimalValue Json.ofDigits
  rw [List.foldl_append]
  rfl

lemma IsDecimal.append {s t : PyStr} (hs : IsDecimal s) (ht : IsDecimal t) : IsDecimal (s ++ t) :=
  ⟨List.append_ne_nil_of_left_ne_nil hs.1 t, List.forall_mem_append.mpr ⟨hs.2, ht.2⟩⟩

/-- The last digit of a number, as text.
Source: Python `int.__repr__`
Kind: L -/
lemma digit_spec (n : Nat) :
    IsDecimal [chr (0x30 + n % 10)] ∧ (chr (0x30 + n % 10)).val - 0x30 = n % 10 := by
  have hval : (chr (0x30 + n % 10)).val = 0x30 + n % 10 := by
    unfold chr
    rw [Fin.val_ofNat, Nat.mod_eq_of_lt]
    omega
  refine ⟨⟨List.cons_ne_nil _ _, ?_⟩, by omega⟩
  rw [List.forall_mem_singleton, isDigit_iff]
  omega

/-- A number of one digit.
Source: Python `int`
Kind: L -/
lemma decimalValue_digit {n : Nat} (h : n / 10 = 0) : decimalValue [chr (0x30 + n % 10)] = n := by
  have hconcat := decimalValue_concat [] (chr (0x30 + n % 10))
  rw [(digit_spec n).2, List.nil_append, show decimalValue [] = 0 from rfl] at hconcat
  omega

/-- The decimal digits of a number: nonempty, ASCII, and denoting it.
Source: Python `int.__repr__`
Kind: L -/
lemma decimalFrom_spec (fuel n : Nat) (acc : PyStr) (h : n < 2 ^ (fuel + 1)) :
    ∃ ds, decimalFrom (fuel + 1) n acc = ds ++ acc ∧ IsDecimal ds ∧ decimalValue ds = n := by
  induction fuel generalizing n acc with
  | zero =>
      have hlast : n / 10 = 0 := by omega
      rw [decimalFrom]
      simp only [if_pos hlast]
      exact ⟨_, rfl, (digit_spec n).1, decimalValue_digit hlast⟩
  | succ fuel ih =>
      rw [decimalFrom]
      by_cases hlast : n / 10 = 0
      · simp only [if_pos hlast]
        exact ⟨_, rfl, (digit_spec n).1, decimalValue_digit hlast⟩
      · simp only [if_neg hlast]
        have hsmaller : n / 10 < 2 ^ (fuel + 1) := by
          rw [pow_succ] at h
          omega
        obtain ⟨ds, hds, hdecimal, hnumber⟩ := ih (n / 10) (chr (0x30 + n % 10) :: acc) hsmaller
        refine ⟨ds ++ [chr (0x30 + n % 10)], ?_, hdecimal.append (digit_spec n).1, ?_⟩
        · rw [hds, List.append_assoc]
          rfl
        · rw [decimalValue_concat, hnumber, (digit_spec n).2]
          omega

/-- **The decimal digits of a number are ASCII digits that denote it.**
Source: Python `int.__repr__`
Kind: P -/
theorem decimal_spec (n : Nat) : IsDecimal (decimal n) ∧ decimalValue (decimal n) = n := by
  obtain ⟨ds, hds, hspec⟩ := decimalFrom_spec n.log2 n [] Nat.lt_log2_self
  unfold decimal
  rw [hds, List.append_nil]
  exact hspec

/-- `int` on ASCII digits, with or without a minus sign.
Source: Python `int`
Kind: L -/
lemma pyInt_of_isDecimal {s : PyStr} (hs : IsDecimal s) (hlength : s.length ≤ 4300)
    (negative : Bool) :
    pyInt (if negative then text "-" ++ s else s) =
      .ok (if negative then -(decimalValue s : Int) else decimalValue s) := by
  have hspace : ∀ c ∈ s, isIntSpace c = false := fun c hc => isIntSpace_of_isDigit (hs.2 c hc)
  have hread : (intDigits s) = some (s.map fun c => c.val - 0x30) := intDigits_of_isDecimal hs
  have hcount : ¬ 4300 < (s.map fun c => c.val - 0x30).length := by
    rw [List.length_map]
    omega
  have hvalue : (s.map fun c => c.val - 0x30).foldl (fun n d => n * 10 + d) 0 = decimalValue s :=
    List.foldl_map
  have hsplit : intSign (((if negative then text "-" ++ s else s).dropWhile isIntSpace).rdropWhile
      isIntSpace) = (negative, s) := by
    cases negative with
    | true =>
        show intSign ((((0x2D : CodePoint) :: s).dropWhile isIntSpace).rdropWhile isIntSpace) = _
        rw [stripInt_eq_self (by decide) hspace]
        rfl
    | false =>
        obtain ⟨c, t, rfl⟩ := List.exists_cons_of_ne_nil hs.1
        simp only [Bool.false_eq_true, if_false]
        rw [stripInt_eq_self (hspace c List.mem_cons_self)
          fun d hd => hspace d (List.mem_cons_of_mem c hd)]
        exact intSign_of_isDecimal hs
  unfold pyInt
  simp only [hsplit, hread, if_neg hcount, hvalue]

/-- **`int(str(i))` is `i`.**
Source: Python `int`, `int.__repr__`
Kind: P -/
theorem pyInt_intRepr {i : Int} {s : PyStr} (h : intRepr i = .ok s) : pyInt s = .ok i := by
  obtain ⟨hdecimal, hvalue⟩ := decimal_spec i.natAbs
  unfold intRepr at h
  simp only at h
  split at h
  · cases h
  next hlength =>
    have hread := pyInt_of_isDecimal hdecimal (by omega) (decide (i < 0))
    rw [hvalue] at hread
    simp only [decide_eq_true_eq] at hread
    obtain rfl := Except.ok.inj h
    rw [hread]
    split
    · congr 1
      omega
    · congr 1
      omega

example : pyInt (text " +1_0\n") = .ok 10 := by decide +kernel

/-- What a number that is not negative prints as.
Source: Python `int.__repr__`
Kind: L -/
lemma isDecimal_of_intRepr {i : Int} {s : PyStr} (hi : 0 ≤ i) (h : intRepr i = .ok s) : IsDecimal s := by
  unfold intRepr at h
  simp only at h
  split at h
  · cases h
  · rw [if_neg (not_lt.mpr hi)] at h
    obtain rfl := Except.ok.inj h
    exact (decimal_spec i.natAbs).1

lemma not_mem_of_isDecimal {s : PyStr} (h : IsDecimal s) {c : CodePoint} (hc : Json.isDigit c = false) :
    c ∉ s := by
  intro hmem
  rw [h.2 c hmem] at hc
  cases hc

/-- What `int` does not read is a `ValueError`.
Source: Python `int`
Kind: L -/
lemma pyInt_eq_error {s : PyStr} {e : PyExc} (h : pyInt s = .error e) : e = .valueError := by
  unfold pyInt at h
  simp only at h
  split at h
  · exact (Except.error.inj h).symm
  · split at h
    · exact (Except.error.inj h).symm
    · cases h

/-! ## The literals that `int` reads -/

/-- So many decimal digits, with single underscores between them.
Source: Python `int`
Kind: D -/
inductive IsIntDigits : Nat → PyStr → Prop where
  | last {c : CodePoint} (digit : (decimalDigit c).isSome = true) : IsIntDigits 1 [c]
  | digit {c : CodePoint} {n : Nat} {s : PyStr} (digit : (decimalDigit c).isSome = true)
      (rest : IsIntDigits n s) : IsIntDigits (n + 1) (c :: s)
  | underscore {c : CodePoint} {n : Nat} {s : PyStr} (digit : (decimalDigit c).isSome = true)
      (rest : IsIntDigits n s) : IsIntDigits (n + 1) (c :: 0x5F :: s)

/-- White space, a sign or none, at most 4300 digits with single underscores between them, white space.
Source: Python `int`, `sys.int_info.default_max_str_digits`
Kind: D -/
structure IsIntLiteral (s : PyStr) : Prop where
  spelled : ∃ front sign digits back n, s = front ++ (sign ++ digits) ++ back ∧
    (∀ c ∈ front, isIntSpace c = true) ∧ (∀ c ∈ back, isIntSpace c = true) ∧
    sign ∈ [[], text "-", text "+"] ∧ IsIntDigits n digits ∧ n ≤ 4300

lemma IsIntDigits.exists_cons {n : Nat} {s : PyStr} (h : IsIntDigits n s) :
    ∃ c rest, s = c :: rest ∧ (decimalDigit c).isSome = true := by
  cases h with
  | last digit => exact ⟨_, _, rfl, digit⟩
  | digit digit => exact ⟨_, _, rfl, digit⟩
  | underscore digit => exact ⟨_, _, rfl, digit⟩

lemma IsIntDigits.exists_concat {n : Nat} {s : PyStr} (h : IsIntDigits n s) :
    ∃ front c, s = front ++ [c] ∧ (decimalDigit c).isSome = true := by
  induction h with
  | last digit => exact ⟨[], _, rfl, digit⟩
  | @digit c n s digit rest ih =>
      obtain ⟨front, d, rfl, hd⟩ := ih
      exact ⟨c :: front, d, rfl, hd⟩
  | @underscore c n s digit rest ih =>
      obtain ⟨front, d, rfl, hd⟩ := ih
      exact ⟨c :: 0x5F :: front, d, rfl, hd⟩

lemma not_digit_of_mem {c : CodePoint} (h : c ∈ ([0x5F, 0x2D, 0x2B] : List CodePoint)) : decimalDigit c = none := by
  simp only [List.mem_cons, List.not_mem_nil, or_false] at h
  rcases h with rfl | rfl | rfl <;> decide +kernel

/-- **The digits are read exactly if they are spelled so.**
Source: Python `longobject.c` `long_from_string_base`
Kind: P -/
theorem intDigits_iff {s : PyStr} {n : Nat} :
    (∃ digits, intDigits s = some digits ∧ digits.length = n) ↔ IsIntDigits n s := by
  constructor
  · rintro ⟨digits, hread, rfl⟩
    induction s using intDigits.induct generalizing digits with
    | case1 => cases hread
    | case2 c =>
        rw [intDigits] at hread
        obtain ⟨v, hv, rfl⟩ := Option.map_eq_some_iff.mp hread
        exact .last (Option.isSome_of_eq_some hv)
    | case3 c d cs hv =>
        rw [intDigits, hv] at hread
        cases hread
    | case4 c cs v hv ih =>
        rw [intDigits, hv] at hread
        dsimp only at hread
        rw [if_pos rfl] at hread
        obtain ⟨vs, hvs, rfl⟩ := Option.map_eq_some_iff.mp hread
        exact .underscore (Option.isSome_of_eq_some hv) (ih vs hvs)
    | case5 c d cs v hv hd ih =>
        rw [intDigits, hv] at hread
        dsimp only at hread
        rw [if_neg hd] at hread
        obtain ⟨vs, hvs, rfl⟩ := Option.map_eq_some_iff.mp hread
        exact .digit (Option.isSome_of_eq_some hv) (ih vs hvs)
  · intro h
    induction h with
    | @last c digit =>
        obtain ⟨v, hv⟩ := Option.isSome_iff_exists.mp digit
        exact ⟨[v], by rw [intDigits, hv]; rfl, rfl⟩
    | @digit c n s digit rest ih =>
        obtain ⟨v, hv⟩ := Option.isSome_iff_exists.mp digit
        obtain ⟨vs, hvs, rfl⟩ := ih
        obtain ⟨d, cs, rfl, hd⟩ := rest.exists_cons
        have hne : d ≠ 0x5F := by
          rintro rfl
          rw [not_digit_of_mem (by decide)] at hd
          cases hd
        refine ⟨v :: vs, ?_, rfl⟩
        rw [intDigits, hv]
        dsimp only
        rw [if_neg hne, hvs]
        rfl
    | @underscore c n s digit rest ih =>
        obtain ⟨v, hv⟩ := Option.isSome_iff_exists.mp digit
        obtain ⟨vs, hvs, rfl⟩ := ih
        refine ⟨v :: vs, ?_, rfl⟩
        rw [intDigits, hv]
        dsimp only
        rw [if_pos rfl, hvs]
        rfl

/-- White space is no digit.
Source: Python `int`
Kind: L -/
lemma decimalDigit_of_isIntSpace {c : CodePoint} (h : isIntSpace c = true) : decimalDigit c = none := by
  have hlisted : c.val ∈ [0x09, 0x0A, 0x0B, 0x0C, 0x0D, 0x20, 0x85, 0xA0, 0x1680, 0x2000, 0x2001, 0x2002, 0x2003,
      0x2004, 0x2005, 0x2006, 0x2007, 0x2008, 0x2009, 0x200A, 0x2028, 0x2029, 0x202F, 0x205F, 0x3000] := by
    simp only [isIntSpace, isSpace, Bool.or_eq_true, Bool.and_eq_true, decide_eq_true_eq, Fin.le_def, Fin.ext_iff,
      Fin.coe_ofNat_eq_mod] at h
    simp only [List.mem_cons, List.not_mem_nil, or_false]
    omega
  have hnone : ∀ n ∈ [0x09, 0x0A, 0x0B, 0x0C, 0x0D, 0x20, 0x85, 0xA0, 0x1680, 0x2000, 0x2001, 0x2002, 0x2003,
      0x2004, 0x2005, 0x2006, 0x2007, 0x2008, 0x2009, 0x200A, 0x2028, 0x2029, 0x202F, 0x205F, 0x3000],
      (decimalZeros.find? fun z => z ≤ n && n < z + 10) = none := by decide +kernel
  rw [decimalDigit, hnone _ hlisted, Option.map_none]

lemma isIntSpace_of_digit {c : CodePoint} (h : (decimalDigit c).isSome = true) : isIntSpace c = false := by
  rw [← Bool.not_eq_true]
  intro hspace
  rw [decimalDigit_of_isIntSpace hspace] at h
  cases h

/-- White space around a text is stripped from it, if its own ends are none.
Source: Python `int`
Kind: L -/
lemma stripInt_around {front middle back : PyStr} (hfront : ∀ c ∈ front, isIntSpace c = true)
    (hback : ∀ c ∈ back, isIntSpace c = true) (hfirst : ∃ c rest, middle = c :: rest ∧ isIntSpace c = false)
    (hlast : ∃ rest c, middle = rest ++ [c] ∧ isIntSpace c = false) :
    ((front ++ middle ++ back).dropWhile isIntSpace).rdropWhile isIntSpace = middle := by
  have hleft : (front ++ middle ++ back).dropWhile isIntSpace = middle ++ back := by
    obtain ⟨c, rest, rfl, hc⟩ := hfirst
    rw [List.append_assoc, List.dropWhile_append_of_pos hfront]
    exact List.dropWhile_cons_of_neg (by rw [hc]; exact Bool.false_ne_true)
  rw [hleft]
  clear hleft
  obtain ⟨rest, c, rfl, hc⟩ := hlast
  induction back using List.reverseRecOn with
  | nil =>
      rw [List.append_nil]
      exact List.rdropWhile_concat_neg _ _ _ (by rw [hc]; exact Bool.false_ne_true)
  | append_singleton back d ih =>
      rw [← List.append_assoc, List.rdropWhile_concat_pos _ _ _ (hback d (by simp))]
      exact ih fun x hx => hback x (List.mem_append_left _ hx)

lemma intSign_spelled (s : PyStr) : ∃ sign ∈ [[], text "-", text "+"], s = sign ++ (intSign s).2 := by
  rcases s with _ | ⟨c, cs⟩
  · exact ⟨[], by simp, rfl⟩
  · rw [intSign]
    by_cases hminus : c = 0x2D
    · rw [if_pos hminus, hminus]
      exact ⟨text "-", by simp, rfl⟩
    · by_cases hplus : c = 0x2B
      · rw [if_neg hminus, if_pos hplus, hplus]
        exact ⟨text "+", by simp, rfl⟩
      · rw [if_neg hminus, if_neg hplus]
        exact ⟨[], by simp, rfl⟩

lemma intSign_of_digits {sign digits : PyStr} {n : Nat} (hsign : sign ∈ [[], text "-", text "+"])
    (h : IsIntDigits n digits) : (intSign (sign ++ digits)).2 = digits := by
  obtain ⟨c, rest, rfl, hc⟩ := h.exists_cons
  have hne : ∀ d ∈ ([0x5F, 0x2D, 0x2B] : List CodePoint), c ≠ d := by
    rintro d hd rfl
    rw [not_digit_of_mem hd] at hc
    cases hc
  simp only [List.mem_cons, List.not_mem_nil, or_false] at hsign
  rcases hsign with rfl | rfl | rfl
  · rw [List.nil_append, intSign, if_neg (hne _ (by simp)), if_neg (hne _ (by simp))]
  · rfl
  · rfl

/-- **`int` reads just these literals.**
Source: Python `int`
Kind: P -/
theorem exists_pyInt_iff {s : PyStr} : (∃ i, pyInt s = .ok i) ↔ IsIntLiteral s := by
  constructor
  · rintro ⟨i, hi⟩
    unfold pyInt at hi
    dsimp only at hi
    obtain ⟨sign, hsign, hspelled⟩ := intSign_spelled ((s.dropWhile isIntSpace).rdropWhile isIntSpace)
    rcases hread : intDigits (intSign ((s.dropWhile isIntSpace).rdropWhile isIntSpace)).2 with _ | digits
    · rw [hread] at hi
      cases hi
    · rw [hread] at hi
      dsimp only at hi
      by_cases hlong : 4300 < digits.length
      · rw [if_pos hlong] at hi
        cases hi
      · refine ⟨s.takeWhile isIntSpace, sign, _, (s.dropWhile isIntSpace).rtakeWhile isIntSpace, digits.length, ?_,
          fun c hc => List.mem_takeWhile_imp hc, fun c hc => List.mem_rtakeWhile_imp hc, hsign,
          intDigits_iff.mp ⟨digits, hread, rfl⟩, not_lt.mp hlong⟩
        rw [← hspelled, List.append_assoc, List.rdropWhile_append_rtakeWhile, List.takeWhile_append_dropWhile]
  · rintro ⟨front, sign, digits, back, n, rfl, hfront, hback, hsign, hdigits, hlength⟩
    have hfirst : ∃ c rest, sign ++ digits = c :: rest ∧ isIntSpace c = false := by
      obtain ⟨c, rest, rfl, hc⟩ := hdigits.exists_cons
      simp only [List.mem_cons, List.not_mem_nil, or_false] at hsign
      rcases hsign with rfl | rfl | rfl
      · exact ⟨c, rest, rfl, isIntSpace_of_digit hc⟩
      · exact ⟨0x2D, c :: rest, rfl, by decide⟩
      · exact ⟨0x2B, c :: rest, rfl, by decide⟩
    have hlast : ∃ rest c, sign ++ digits = rest ++ [c] ∧ isIntSpace c = false := by
      obtain ⟨rest, c, rfl, hc⟩ := hdigits.exists_concat
      exact ⟨sign ++ rest, c, by rw [List.append_assoc], isIntSpace_of_digit hc⟩
    obtain ⟨values, hread, rfl⟩ := intDigits_iff.mpr hdigits
    rw [pyInt, stripInt_around hfront hback hfirst hlast]
    dsimp only
    rw [intSign_of_digits hsign hdigits, hread]
    dsimp only
    rw [if_neg (not_lt.mpr hlength)]
    exact ⟨_, rfl⟩

/-! ## What `int` reads can be printed -/

/-- A number below a power of ten has at most that many digits.
Source: Python `int.__repr__`
Kind: L -/
lemma decimalFrom_length_le (fuel n count : Nat) (acc : PyStr) (h : n < 10 ^ (count + 1)) :
    (decimalFrom fuel n acc).length ≤ count + 1 + acc.length := by
  induction fuel generalizing n count acc with
  | zero =>
      rw [decimalFrom]
      omega
  | succ fuel ih =>
      rw [decimalFrom]
      by_cases hlast : n / 10 = 0
      · simp only [if_pos hlast, List.length_cons]
        omega
      · simp only [if_neg hlast]
        rcases count with _ | count
        · rw [Nat.zero_add, pow_one] at h
          omega
        · have hsmaller : n / 10 < 10 ^ (count + 1) := by
            rw [pow_succ] at h
            omega
          have hlength := ih (n / 10) count (chr (0x30 + n % 10) :: acc) hsmaller
          rw [List.length_cons] at hlength
          omega

/-- The value of a decimal digit is below ten.
Source: Python `unicodedata.decimal`
Kind: L -/
lemma decimalDigit_lt {c : CodePoint} {v : Nat} (h : decimalDigit c = some v) : v < 10 := by
  unfold decimalDigit at h
  obtain ⟨z, hz, rfl⟩ := Option.map_eq_some_iff.mp h
  have hrange := List.find?_some hz
  simp only [Bool.and_eq_true, decide_eq_true_eq] at hrange
  omega

/-- The digits of a literal are below ten.
Source: Python `int`
Kind: L -/
lemma intDigits_lt {s : PyStr} {digits : List Nat} (h : intDigits s = some digits) :
    ∀ v ∈ digits, v < 10 := by
  induction s using intDigits.induct generalizing digits with
  | case1 => simp [intDigits] at h
  | case2 c =>
      rw [intDigits] at h
      obtain ⟨v, hv, rfl⟩ := Option.map_eq_some_iff.mp h
      exact List.forall_mem_singleton.mpr (decimalDigit_lt hv)
  | case3 c d cs hc =>
      simp [intDigits, hc] at h
  | case4 c cs v hc ih =>
      rw [intDigits, hc] at h
      simp only [if_true] at h
      obtain ⟨vs, hvs, rfl⟩ := Option.map_eq_some_iff.mp h
      exact List.forall_mem_cons.mpr ⟨decimalDigit_lt hc, ih hvs⟩
  | case5 c d cs v hc hd ih =>
      rw [intDigits, hc] at h
      simp only [if_neg hd] at h
      obtain ⟨vs, hvs, rfl⟩ := Option.map_eq_some_iff.mp h
      exact List.forall_mem_cons.mpr ⟨decimalDigit_lt hc, ih hvs⟩

/-- Digits below ten denote a number below the power of ten of their count.
Source: Python `int`
Kind: L -/
lemma foldl_digits_lt {digits : List Nat} (h : ∀ v ∈ digits, v < 10) (start : Nat) :
    digits.foldl (fun n d => n * 10 + d) start < (start + 1) * 10 ^ digits.length := by
  induction digits generalizing start with
  | nil => simp
  | cons v digits ih =>
      rw [List.forall_mem_cons] at h
      have hrest := ih h.2 (start * 10 + v)
      rw [List.foldl_cons, List.length_cons, pow_succ]
      calc digits.foldl (fun n d => n * 10 + d) (start * 10 + v)
          < (start * 10 + v + 1) * 10 ^ digits.length := hrest
        _ ≤ ((start + 1) * 10) * 10 ^ digits.length := Nat.mul_le_mul_right _ (by omega)
        _ = (start + 1) * (10 ^ digits.length * 10) := by rw [Nat.mul_assoc, Nat.mul_comm 10]

/-- A number below a power of ten can be printed, if that power is no more than the digits allowed.
Source: Python `int.__repr__`
Kind: L -/
lemma intRepr_of_natAbs_lt {i : Int} {count : Nat} (hcount : count < 4300)
    (h : i.natAbs < 10 ^ (count + 1)) : ∃ t, intRepr i = .ok t := by
  have hlength := decimalFrom_length_le (i.natAbs.log2 + 1) i.natAbs count [] h
  unfold intRepr decimal
  refine ⟨_, if_neg ?_⟩
  rw [List.length_nil] at hlength
  omega

/-- The number, if there is one, can be printed.
Source: none: specification
Kind: D -/
def Printable (value : Option Int) : Prop := ∀ i ∈ value, ∃ t, intRepr i = .ok t

/-- A small number can be printed.
Source: Python `int.__repr__`
Kind: L -/
lemma intRepr_of_lt {i : Int} (h : i.natAbs < 100000) : ∃ t, intRepr i = .ok t := by
  have hbound : i.natAbs < 10 ^ (4 + 1) := by
    omega
  exact intRepr_of_natAbs_lt (by omega) hbound

/-- **What `int` reads, `str` prints**: both stop at the same number of digits.
Source: Python `int`, `int.__repr__`, `sys.int_info.default_max_str_digits`
Kind: P -/
theorem intRepr_of_pyInt {s : PyStr} {i : Int} (h : pyInt s = .ok i) : ∃ t, intRepr i = .ok t := by
  unfold pyInt at h
  simp only at h
  split at h
  · cases h
  next digits hdigits =>
    split at h
    · cases h
    next hcount =>
      have habs : i.natAbs = digits.foldl (fun n d => n * 10 + d) 0 := by
        obtain rfl := Except.ok.inj h
        split <;> simp
      have hvalue := foldl_digits_lt (intDigits_lt hdigits) 0
      rw [Nat.zero_add, Nat.one_mul, ← habs] at hvalue
      have hpower : 10 ^ digits.length ≤ 10 ^ (digits.length - 1 + 1) :=
        Nat.pow_le_pow_right (by omega) (by omega)
      exact intRepr_of_natAbs_lt (by omega) (lt_of_lt_of_le hvalue hpower)

end NetstackSuite.Python
