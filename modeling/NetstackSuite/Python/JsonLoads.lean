import NetstackSuite.Python.Json

/-!
# `json.loads`

The scanner of CPython's `_json` module, function by function: strings with their escapes and
surrogate pairs, numbers (an integer literal of more than 4300 digits is a `ValueError` that is
**not** a `JSONDecodeError`), the three words and the three non-finite floats, arrays, objects (a
repeated key keeps its first place and its last value), and the recursion limit, which makes a
deeply nested text raise `RecursionError`.

The scanner recurses on a fuel that bounds its steps; `loads` starts it with more than twice the
length of the text, and `loads_eq` shows that any such amount gives the same answer, because every
scanner consumes a character (`scan_leaves`).
-/

namespace NetstackSuite.Python

namespace Json

/-! ## Characters -/

/-- `"`.
Source: none: infrastructure
Kind: D -/
def QUOTE : CodePoint := 0x22
/-- `\`.
Source: none: infrastructure
Kind: D -/
def BACKSLASH : CodePoint := 0x5C
/-- `,`.
Source: none: infrastructure
Kind: D -/
def COMMA : CodePoint := 0x2C
/-- `:`.
Source: none: infrastructure
Kind: D -/
def COLON : CodePoint := 0x3A
/-- `{`.
Source: none: infrastructure
Kind: D -/
def LBRACE : CodePoint := 0x7B
/-- `}`.
Source: none: infrastructure
Kind: D -/
def RBRACE : CodePoint := 0x7D
/-- `[`.
Source: none: infrastructure
Kind: D -/
def LBRACKET : CodePoint := 0x5B
/-- `]`.
Source: none: infrastructure
Kind: D -/
def RBRACKET : CodePoint := 0x5D

/-- JSON's own whitespace, narrower than `str.isspace`.
Source: Python `json.decoder.WHITESPACE`
Kind: D -/
def isWs (c : CodePoint) : Bool := c = 0x20 || c = 0x09 || c = LF || c = CR

/-- Skip whitespace.
Source: Python `json.decoder.WHITESPACE`
Kind: D -/
def skipWs (s : PyStr) : PyStr := s.dropWhile isWs

/-- An ASCII digit.
Source: Python `_json.c`
Kind: D -/
def isDigit (c : CodePoint) : Bool := 0x30 ≤ c && c ≤ 0x39

/-- The number a run of digits denotes.
Source: Python `int(str)`
Kind: D -/
def ofDigits (ds : PyStr) : Nat := ds.foldl (fun n c => n * 10 + (c.val - 0x30)) 0

/-- The value of one hexadecimal digit.
Source: Python `_json.c`
Kind: D -/
def hexVal (c : CodePoint) : Option Nat :=
  if isDigit c then some (c.val - 0x30)
  else if 0x61 ≤ c ∧ c ≤ 0x66 then some (c.val - 0x61 + 10)
  else if 0x41 ≤ c ∧ c ≤ 0x46 then some (c.val - 0x41 + 10)
  else none

/-- The value of four hexadecimal digits.
Source: Python `_json.c`
Kind: D -/
def hex4 (a b c d : CodePoint) : Option Nat := do
  let a ← hexVal a
  let b ← hexVal b
  let c ← hexVal c
  let d ← hexVal d
  return ((a * 16 + b) * 16 + c) * 16 + d

/-- The one-character escapes.
Source: Python `json.decoder.BACKSLASH`
Kind: D -/
def simpleEscape (c : CodePoint) : Option CodePoint :=
  if c = QUOTE ∨ c = BACKSLASH ∨ c = 0x2F then some c
  else if c = 0x62 then some 0x08
  else if c = 0x66 then some 0x0C
  else if c = 0x6E then some LF
  else if c = 0x72 then some CR
  else if c = 0x74 then some 0x09
  else none

/-- A UTF-16 high surrogate.
Source: Python `Py_UNICODE_IS_HIGH_SURROGATE`
Kind: D -/
def isHigh (n : Nat) : Bool := 0xD800 ≤ n && n ≤ 0xDBFF

/-- A UTF-16 low surrogate.
Source: Python `Py_UNICODE_IS_LOW_SURROGATE`
Kind: D -/
def isLow (n : Nat) : Bool := 0xDC00 ≤ n && n ≤ 0xDFFF

/-- The character a surrogate pair stands for.
Source: Python `Py_UNICODE_JOIN_SURROGATES`
Kind: D -/
def joinSurrogates (hi lo : Nat) : CodePoint := chr (0x10000 + (hi - 0xD800) * 0x400 + (lo - 0xDC00))

/-! ## Strings -/

/-- What a scanning function returns: a value and the rest of the text, or an exception.
Source: none: infrastructure
Kind: D -/
abbrev Scan (α : Type) := Except PyExc (α × PyStr)

/-- Put one character in front of a scanned string.
Source: none: infrastructure
Kind: D -/
def emit (c : CodePoint) : Scan PyStr → Scan PyStr
  | .ok (t, rest) => .ok (c :: t, rest)
  | .error e => .error e

/-- Put a high surrogate that found no partner in front of a scanned string.
Source: none: infrastructure
Kind: D -/
def emitHigh : Option Nat → Scan PyStr → Scan PyStr
  | none, r => r
  | some hi, r => emit (chr hi) r

/-- The rest of a string literal, after its opening quote. `high` is a high surrogate just read
from an escape: it joins with a low surrogate if the next character is the escape of one, and
stands alone otherwise.
Source: Python `_json.c` `scanstring_unicode` (strict)
Kind: D -/
def scanString : Option Nat → PyStr → Scan PyStr
  | _, [] => .error .jsonDecodeError
  | high, c :: cs =>
      if c = QUOTE then emitHigh high (.ok ([], cs))
      else if c = BACKSLASH then
        match cs with
        | [] => .error .jsonDecodeError
        | e :: es =>
            if e = 0x75 then
              match es with
              | h₁ :: h₂ :: h₃ :: h₄ :: rest =>
                  match hex4 h₁ h₂ h₃ h₄, high with
                  | none, _ => .error .jsonDecodeError
                  | some n, some hi =>
                      if isLow n then emit (joinSurrogates hi n) (scanString none rest)
                      else if isHigh n then emit (chr hi) (scanString (some n) rest)
                      else emit (chr hi) (emit (chr n) (scanString none rest))
                  | some n, none =>
                      if isHigh n then scanString (some n) rest
                      else emit (chr n) (scanString none rest)
              | _ => .error .jsonDecodeError
            else
              match simpleEscape e with
              | some x => emitHigh high (emit x (scanString none es))
              | none => .error .jsonDecodeError
      else if c < 0x20 then .error .jsonDecodeError
      else emitHigh high (emit c (scanString none cs))

/-! ## Numbers -/

/-- The most digits `int` reads from a text.
Source: Python `sys.int_info.default_max_str_digits`
Kind: D -/
def MAX_STR_DIGITS : Nat := 4300

/-- An optional `.digits`: the digits and the rest.
Source: Python `_json.c` `_match_number_unicode`
Kind: D -/
def scanFraction (s : PyStr) : PyStr × PyStr :=
  match s with
  | dot :: d :: cs =>
      if dot = 0x2E ∧ isDigit d then
        (d :: cs.takeWhile isDigit, cs.dropWhile isDigit)
      else ([], s)
  | _ => ([], s)

/-- An optional sign: whether it is `-`, and the rest.
Source: Python `_json.c` `_match_number_unicode`
Kind: D -/
def skipSign (s : PyStr) : Bool × PyStr :=
  match s with
  | c :: cs => if c = 0x2D then (true, cs) else if c = 0x2B then (false, cs) else (false, s)
  | [] => (false, [])

/-- An optional exponent, as a signed number, and the rest. An `e` without digits is not consumed.
Source: Python `_json.c` `_match_number_unicode`
Kind: D -/
def scanExponent (s : PyStr) : Option Int × PyStr :=
  match s with
  | e :: cs =>
      if (e = 0x65 ∨ e = 0x45) ∧ (skipSign cs).2.takeWhile isDigit ≠ [] then
        let n : Int := ofDigits ((skipSign cs).2.takeWhile isDigit)
        (some (if (skipSign cs).1 then -n else n), (skipSign cs).2.dropWhile isDigit)
      else (none, s)
  | [] => (none, s)

/-- A number whose sign and integer digits have been read.
Source: Python `_json.c` `_match_number_unicode`
Kind: D -/
def finishNumber (neg : Bool) (digits s : PyStr) : Scan Json :=
  let (frac, s) := scanFraction s
  let (exp, s) := scanExponent s
  if frac = [] ∧ exp = none then
    if MAX_STR_DIGITS < digits.length then .error .valueError
    else
      let n : Int := ofDigits digits
      .ok (.int (if neg then -n else n), s)
  else
    .ok (.float (PyFloat.ofDecimal neg (ofDigits (digits ++ frac)) (exp.getD 0 - frac.length)), s)

/-- A number: `-`, then `0` or a run of digits without a leading zero, then fraction and exponent.
Source: Python `_json.c` `_match_number_unicode`
Kind: D -/
def scanNumber (s : PyStr) : Scan Json :=
  let neg : Bool := s.head? = some 0x2D
  match (if neg then s.tail else s) with
  | [] => .error .jsonDecodeError
  | c :: cs =>
      if c = 0x30 then finishNumber neg [c] cs
      else if isDigit c then finishNumber neg (c :: cs.takeWhile isDigit) (cs.dropWhile isDigit)
      else .error .jsonDecodeError

/-! ## Values -/

/-- The words and the non-finite floats.
Source: Python `_json.c` `scan_once_unicode`
Kind: D -/
def words : List (PyStr × Json) :=
  [(text "null", .null), (text "true", .bool true), (text "false", .bool false),
    (text "NaN", .float .nan), (text "Infinity", .float (.inf false)),
    (text "-Infinity", .float (.inf true))]

/-- A word at the front of the text.
Source: Python `_json.c` `scan_once_unicode`
Kind: D -/
def scanWord (s : PyStr) : Option (Json × PyStr) :=
  words.findSome? fun w => if w.1.isPrefixOf s then some (w.2, s.drop w.1.length) else none

/-- Look at the next character; the end of the text is an error.
Source: Python `_json.c`
Kind: D -/
def withHead {α : Type} (s : PyStr) (k : CodePoint → PyStr → Scan α) : Scan α :=
  match s with
  | [] => .error .jsonDecodeError
  | c :: cs => k c cs

/-- Go on with what a scan leaves.
Source: none: infrastructure
Kind: D -/
def andThen {α β : Type} (r : Scan α) (k : α → PyStr → Scan β) : Scan β :=
  match r with
  | .error e => .error e
  | .ok (v, rest) => k v rest

mutual

/-- One value. `depth` is how many more containers the recursion limit admits.
Source: Python `_json.c` `scan_once_unicode`
Kind: D -/
def scanOnce : Nat → Nat → PyStr → Scan Json
  | 0, _, _ => .error .jsonDecodeError
  | fuel + 1, depth, s =>
      withHead s fun c cs =>
        if c = QUOTE then andThen (scanString none cs) fun t rest => .ok (.str t, rest)
        else if c = LBRACE then
          match depth with
          | 0 => .error .recursionError
          | depth + 1 =>
              withHead (skipWs cs) fun d ds =>
                if d = RBRACE then .ok (.dict [], ds) else scanMembers fuel depth [] (d :: ds)
        else if c = LBRACKET then
          match depth with
          | 0 => .error .recursionError
          | depth + 1 =>
              withHead (skipWs cs) fun d ds =>
                if d = RBRACKET then .ok (.list [], ds) else scanElements fuel depth [] (d :: ds)
        else
          match scanWord s with
          | some r => .ok r
          | none => scanNumber s

/-- The members of an object, from a key on; `acc` is the dictionary built so far.
Source: Python `_json.c` `_parse_object_unicode`
Kind: D -/
def scanMembers : Nat → Nat → List (PyStr × Json) → PyStr → Scan Json
  | 0, _, _, _ => .error .jsonDecodeError
  | fuel + 1, depth, acc, s =>
      withHead s fun c cs =>
        if c = QUOTE then
          andThen (scanString none cs) fun key rest =>
            withHead (skipWs rest) fun d rest =>
              if d = COLON then
                andThen (scanOnce fuel depth (skipWs rest)) fun v rest =>
                  withHead (skipWs rest) fun d rest =>
                    if d = RBRACE then .ok (.dict (Dict.set acc key v), rest)
                    else if d = COMMA then
                      scanMembers fuel depth (Dict.set acc key v) (skipWs rest)
                    else .error .jsonDecodeError
              else .error .jsonDecodeError
        else .error .jsonDecodeError

/-- The elements of an array; `acc` is the list built so far.
Source: Python `_json.c` `_parse_array_unicode`
Kind: D -/
def scanElements : Nat → Nat → List Json → PyStr → Scan Json
  | 0, _, _, _ => .error .jsonDecodeError
  | fuel + 1, depth, acc, s =>
      andThen (scanOnce fuel depth s) fun v rest =>
        withHead (skipWs rest) fun d rest =>
          if d = RBRACKET then .ok (.list (acc ++ [v]), rest)
          else if d = COMMA then scanElements fuel depth (acc ++ [v]) (skipWs rest)
          else .error .jsonDecodeError

end

/-- `json.loads(s)` under a recursion limit of `limit` nested containers.
Source: Python `json.loads`, `JSONDecoder.decode`
Kind: D -/
def loads (limit : Nat) (s : PyStr) : Except PyExc Json :=
  if s.head? = some 0xFEFF then .error .jsonDecodeError
  else
    match scanOnce (2 * s.length + 1) limit (skipWs s) with
    | .error e => .error e
    | .ok (v, rest) => if skipWs rest = [] then .ok v else .error .jsonDecodeError

/-! ## Every step consumes a character -/

/-- A scan leaves fewer than `n` characters when it succeeds.
Source: none: infrastructure
Kind: D -/
def Leaves {α : Type} (n : Nat) (r : Scan α) : Prop :=
  ∀ v rest, r = .ok (v, rest) → rest.length < n

lemma Leaves.error {α : Type} {n : Nat} (e : PyExc) : Leaves n (.error e : Scan α) :=
  fun _ _ h => nomatch h

lemma Leaves.ok {α : Type} {n : Nat} {v : α} {rest : PyStr} (h : rest.length < n) :
    Leaves n (.ok (v, rest) : Scan α) := by
  intro v' rest' h'
  cases h'
  exact h

lemma Leaves.mono {α : Type} {m n : Nat} {r : Scan α} (h : Leaves m r) (hmn : m ≤ n) :
    Leaves n r :=
  fun v rest hr => (h v rest hr).trans_le hmn

lemma Leaves.emit {n : Nat} {r : Scan PyStr} (h : Leaves n r) (c : CodePoint) :
    Leaves n (emit c r) := by
  intro t rest hr
  cases r with
  | error e => cases hr
  | ok p =>
      cases hr
      exact h _ _ rfl

lemma Leaves.emitHigh {n : Nat} {r : Scan PyStr} (h : Leaves n r) (high : Option Nat) :
    Leaves n (emitHigh high r) := by
  cases high with
  | none => exact h
  | some hi => exact h.emit _

lemma skipWs_length_le (s : PyStr) : (skipWs s).length ≤ s.length :=
  (List.dropWhile_sublist _).length_le

/-- A string literal takes at least its closing quote.
Source: Python `_json.c` `scanstring_unicode`
Kind: L -/
lemma scanString_leaves (high : Option Nat) (s : PyStr) : Leaves s.length (scanString high s) := by
  fun_induction scanString high s with
  | case1 | case3 | case4 | case10 | case12 | case13 => exact .error _
  | case2 => exact (Leaves.ok (by simp)).emitHigh _
  | case5 _ _ _ _ _ _ _ _ _ _ ih => exact (ih.emit _).mono (by simp; omega)
  | case6 _ _ _ _ _ _ _ _ _ _ _ ih => exact (ih.emit _).mono (by simp; omega)
  | case7 _ _ _ _ _ _ _ _ _ _ _ ih => exact ((ih.emit _).emit _).mono (by simp; omega)
  | case8 _ _ _ _ _ _ _ _ _ ih => exact ih.mono (by simp; omega)
  | case9 _ _ _ _ _ _ _ _ _ ih => exact (ih.emit _).mono (by simp; omega)
  | case11 _ _ _ _ _ _ _ ih => exact ((ih.emit _).emitHigh _).mono (by simp; omega)
  | case14 _ _ _ _ _ _ ih => exact ((ih.emit _).emitHigh _).mono (by simp)

lemma dropDigits_length_le (s : PyStr) : (s.dropWhile isDigit).length ≤ s.length :=
  (List.dropWhile_sublist _).length_le

lemma scanFraction_length_le (s : PyStr) : (scanFraction s).2.length ≤ s.length := by
  unfold scanFraction
  split
  · next dot d cs =>
    split
    · have := dropDigits_length_le cs
      simp only [List.length_cons]
      omega
    · exact Nat.le_refl _
  · exact Nat.le_refl _

lemma skipSign_length_le (s : PyStr) : (skipSign s).2.length ≤ s.length := by
  unfold skipSign
  split
  · split
    · simp
    · split <;> simp
  · simp

lemma scanExponent_length_le (s : PyStr) : (scanExponent s).2.length ≤ s.length := by
  unfold scanExponent
  split
  · next e cs =>
    split
    · have h₁ := dropDigits_length_le (skipSign cs).2
      have h₂ := skipSign_length_le cs
      simp only [List.length_cons]
      omega
    · exact Nat.le_refl _
  · exact Nat.le_refl _

lemma finishNumber_leaves (neg : Bool) (digits s : PyStr) :
    Leaves (s.length + 1) (finishNumber neg digits s) := by
  have h₁ := scanFraction_length_le s
  have h₂ := scanExponent_length_le (scanFraction s).2
  simp only [finishNumber]
  split
  · split
    · exact .error _
    · exact .ok (by omega)
  · exact .ok (by omega)

/-- A number takes at least its first digit.
Source: Python `_json.c` `_match_number_unicode`
Kind: L -/
lemma scanNumber_leaves (s : PyStr) : Leaves s.length (scanNumber s) := by
  simp only [scanNumber]
  split
  · exact .error _
  · next c cs heq =>
    have hle : cs.length + 1 ≤ s.length := by
      rw [← List.length_cons, ← heq]
      split <;> simp
    split
    · exact (finishNumber_leaves _ _ _).mono hle
    · split
      · apply (finishNumber_leaves _ _ _).mono
        have := dropDigits_length_le cs
        omega
      · exact .error _

/-- A word takes its letters.
Source: Python `_json.c` `scan_once_unicode`
Kind: L -/
lemma scanWord_length_lt {s rest : PyStr} {v : Json} (h : scanWord s = some (v, rest)) :
    rest.length < s.length := by
  have hpos : ∀ w ∈ words, 0 < w.1.length := by decide
  obtain ⟨w, hw, h⟩ := List.exists_of_findSome?_eq_some h
  split at h
  · next hpre =>
    cases h
    have := (List.isPrefixOf_iff_prefix.mp hpre).length_le
    have := hpos w hw
    simp only [List.length_drop]
    omega
  · cases h


lemma Leaves.withHead {α : Type} {n : Nat} {s : PyStr} {k : CodePoint → PyStr → Scan α}
    (h : ∀ c cs, s = c :: cs → Leaves n (k c cs)) : Leaves n (withHead s k) := by
  cases s with
  | nil => exact .error _
  | cons c cs => exact h c cs rfl

lemma Leaves.andThen {α β : Type} {m n : Nat} {r : Scan α} {k : α → PyStr → Scan β}
    (hr : Leaves m r) (h : ∀ v rest, rest.length < m → Leaves n (k v rest)) :
    Leaves n (andThen r k) := by
  cases r with
  | error e => exact .error _
  | ok p => exact h p.1 p.2 (hr _ _ rfl)

/-- The character `withHead` hands over is gone from the text.
Source: none: infrastructure
Kind: L -/
lemma length_of_skipWs_eq {s cs : PyStr} {c : CodePoint} (h : skipWs s = c :: cs) :
    cs.length < s.length := by
  have hle := skipWs_length_le s
  rw [h, List.length_cons] at hle
  omega

/-- **Every scanner of values consumes a character**, with any fuel.
Source: Python `_json.c` `scan_once_unicode`
Kind: P -/
theorem scan_leaves (fuel : Nat) :
    (∀ depth s, Leaves s.length (scanOnce fuel depth s)) ∧
      (∀ depth acc s, Leaves s.length (scanMembers fuel depth acc s)) ∧
      ∀ depth acc s, Leaves s.length (scanElements fuel depth acc s) := by
  induction fuel with
  | zero =>
      refine ⟨fun _ s => ?_, fun _ _ s => ?_, fun _ _ s => ?_⟩ <;> exact .error _
  | succ fuel ih =>
      obtain ⟨ihOnce, ihMembers, ihElements⟩ := ih
      refine ⟨?_, ?_, ?_⟩
      · intro depth s
        rw [scanOnce]
        refine .withHead fun c cs hs => ?_
        subst hs
        split
        · exact (scanString_leaves none cs).andThen fun t rest h => .ok (by simp; omega)
        split
        · cases depth with
          | zero => exact .error _
          | succ depth =>
              refine .withHead fun d ds hds => ?_
              have := length_of_skipWs_eq hds
              split
              · exact .ok (by simp; omega)
              · exact (ihMembers _ _ _).mono (by simp; omega)
        split
        · cases depth with
          | zero => exact .error _
          | succ depth =>
              refine .withHead fun d ds hds => ?_
              have := length_of_skipWs_eq hds
              split
              · exact .ok (by simp; omega)
              · exact (ihElements _ _ _).mono (by simp; omega)
        split
        · next r hr => exact .ok (scanWord_length_lt hr)
        · exact scanNumber_leaves _
      · intro depth acc s
        rw [scanMembers]
        refine .withHead fun c cs hs => ?_
        subst hs
        split
        · refine (scanString_leaves none cs).andThen fun key rest h₁ => .withHead fun d rest₁ h₂ => ?_
          have h₂ := length_of_skipWs_eq h₂
          split
          · refine (ihOnce depth _).andThen fun v rest₂ h₃ => .withHead fun d rest₃ h₄ => ?_
            have h₃ := h₃.trans_le (skipWs_length_le rest₁)
            have h₄ := length_of_skipWs_eq h₄
            have h₅ := skipWs_length_le rest₃
            split
            · exact .ok (by simp; omega)
            · split
              · exact (ihMembers _ _ _).mono (by simp; omega)
              · exact .error _
          · exact .error _
        · exact .error _
      · intro depth acc s
        rw [scanElements]
        refine (ihOnce depth s).andThen fun v rest h₁ => .withHead fun d rest₁ h₂ => ?_
        have h₂ := length_of_skipWs_eq h₂
        have h₃ := skipWs_length_le rest₁
        split
        · exact .ok (by omega)
        · split
          · exact (ihElements _ _ _).mono (by omega)
          · exact .error _

/-! ## Any sufficient fuel gives the same answer -/

lemma withHead_congr {α : Type} {s : PyStr} {k k' : CodePoint → PyStr → Scan α}
    (h : ∀ c cs, s = c :: cs → k c cs = k' c cs) : withHead s k = withHead s k' := by
  cases s with
  | nil => rfl
  | cons c cs => exact h c cs rfl

lemma andThen_congr {α β : Type} {m : Nat} {r : Scan α} {k k' : α → PyStr → Scan β}
    (hr : Leaves m r) (h : ∀ v rest, rest.length < m → k v rest = k' v rest) :
    andThen r k = andThen r k' := by
  cases r with
  | error e => rfl
  | ok p => exact h p.1 p.2 (hr _ _ rfl)

/-- With more fuel than twice the characters, one more unit changes nothing.
Source: none: infrastructure
Kind: P -/
lemma scan_fuel_succ (fuel : Nat) :
    (∀ depth s, 2 * s.length < fuel → scanOnce (fuel + 1) depth s = scanOnce fuel depth s) ∧
      (∀ depth acc s, 2 * s.length < fuel →
        scanMembers (fuel + 1) depth acc s = scanMembers fuel depth acc s) ∧
      ∀ depth acc s, 2 * s.length + 1 < fuel →
        scanElements (fuel + 1) depth acc s = scanElements fuel depth acc s := by
  induction fuel with
  | zero => exact ⟨nofun, nofun, nofun⟩
  | succ fuel ih =>
      obtain ⟨ihOnce, ihMembers, ihElements⟩ := ih
      refine ⟨?_, ?_, ?_⟩
      · intro depth s hs
        rw [scanOnce, scanOnce]
        apply withHead_congr
        intro c cs hc
        subst hc
        rw [List.length_cons] at hs
        split_ifs with h₁ h₂ h₃
        · rfl
        · cases depth with
          | zero => rfl
          | succ depth =>
              apply withHead_congr
              intro d ds hds
              have := length_of_skipWs_eq hds
              split_ifs
              · rfl
              · exact ihMembers _ _ _ (by simp; omega)
        · cases depth with
          | zero => rfl
          | succ depth =>
              apply withHead_congr
              intro d ds hds
              have := length_of_skipWs_eq hds
              split_ifs
              · rfl
              · exact ihElements _ _ _ (by simp; omega)
        · rfl
      · intro depth acc s hs
        rw [scanMembers, scanMembers]
        apply withHead_congr
        intro c cs hc
        subst hc
        rw [List.length_cons] at hs
        split_ifs
        · apply andThen_congr (scanString_leaves none cs)
          intro key rest h₁
          apply withHead_congr
          intro d rest₁ h₂
          have h₂ := length_of_skipWs_eq h₂
          have h₃ := skipWs_length_le rest₁
          split_ifs
          · rw [ihOnce depth (skipWs rest₁) (by omega)]
            apply andThen_congr ((scan_leaves fuel).1 depth _)
            intro v rest₂ h₄
            apply withHead_congr
            intro d rest₃ h₅
            have h₅ := length_of_skipWs_eq h₅
            have h₆ := skipWs_length_le rest₃
            split_ifs
            · rfl
            · exact ihMembers _ _ _ (by omega)
            · rfl
          · rfl
        · rfl
      · intro depth acc s hs
        rw [scanElements, scanElements, ihOnce depth s (by omega)]
        apply andThen_congr ((scan_leaves fuel).1 depth s)
        intro v rest h₁
        apply withHead_congr
        intro d rest₁ h₂
        have h₂ := length_of_skipWs_eq h₂
        have h₃ := skipWs_length_le rest₁
        split_ifs
        · rfl
        · exact ihElements _ _ _ (by omega)
        · rfl

/-- **Fuel is not observable**: any fuel beyond twice the length of the text gives the value that
`loads` returns.
Source: Python `json.loads`
Kind: P -/
theorem loads_eq {limit fuel : Nat} {s : PyStr} (hfuel : 2 * s.length < fuel) :
    loads limit s =
      if s.head? = some 0xFEFF then .error .jsonDecodeError
      else
        match scanOnce fuel limit (skipWs s) with
        | .error e => .error e
        | .ok (v, rest) => if skipWs rest = [] then .ok v else .error .jsonDecodeError := by
  have hlen := skipWs_length_le s
  have hscan : scanOnce fuel limit (skipWs s) = scanOnce (2 * s.length + 1) limit (skipWs s) := by
    induction fuel, hfuel using Nat.le_induction with
    | base => rfl
    | succ fuel hf ih => rw [(scan_fuel_succ fuel).1 limit (skipWs s) (by omega), ih]
  rw [loads, hscan]

end Json

end NetstackSuite.Python
