import Mathlib.Tactic.Ring
import NetstackSuite.Python.IpAddress

/-!
# Python `bytes`: single-byte codecs, integers as bytes, splitting, `repr`

What a reader and a writer of wire formats use of `bytes`: the ASCII and Latin-1 codecs,
`int.to_bytes` and `int.from_bytes` in network byte order, addresses from packed bytes, cutting at a
separator, and the `repr` forms that go into error messages.

`fromBigEndian_bigEndian` and `bigEndian_fromBigEndian` are the two directions of the integer codec;
`encodeAscii` and its decoders are inverse on ASCII text.
-/

namespace NetstackSuite.Python

/-! ## Single-byte codecs -/

/-- `data.decode("iso-8859-1")`.
Source: Python `bytes.decode`
Kind: D -/
def decodeLatin1 (data : Bytes) : PyStr := data.map fun b => chr b.toNat

/-- `data.decode("ascii", errors="replace")`.
Source: Python `bytes.decode`
Kind: D -/
def decodeAsciiReplace (data : Bytes) : PyStr :=
  data.map fun b => if b < 0x80 then chr b.toNat else REPLACEMENT

/-- `s.isascii()`.
Source: Python `str.isascii`
Kind: D -/
def isAscii (s : PyStr) : Bool := s.all fun c => c < 0x80

/-- `s.encode("ascii")`; `UnicodeEncodeError` is a `ValueError`.
Source: Python `str.encode`
Kind: D -/
def encodeAscii (s : PyStr) : Except PyExc Bytes :=
  if isAscii s then .ok (s.map fun c => UInt8.ofNat c.val) else .error .valueError

lemma length_encodeAscii {s : PyStr} {data : Bytes} (h : encodeAscii s = .ok data) :
    data.length = s.length := by
  unfold encodeAscii at h
  split at h
  · obtain rfl := Except.ok.inj h
    exact List.length_map _
  · cases h

/-- ASCII text is read back from its bytes.
Source: Python `bytes.decode`
Kind: P -/
theorem decodeAsciiReplace_encodeAscii {s : PyStr} {data : Bytes} (h : encodeAscii s = .ok data) :
    decodeAsciiReplace data = s := by
  unfold encodeAscii at h
  split at h
  next hascii =>
    obtain rfl := Except.ok.inj h
    unfold decodeAsciiReplace
    rw [List.map_map]
    conv_rhs => rw [← List.map_id s]
    apply List.map_congr_left
    intro c hc
    have hlow : c.val < 0x80 := of_decide_eq_true (List.all_eq_true.mp hascii c hc)
    have hbyte : (UInt8.ofNat c.val).toNat = c.val := by
      rw [UInt8.toNat_ofNat']
      omega
    have hsmall : UInt8.ofNat c.val < 0x80 := by
      rw [UInt8.lt_iff_toNat_lt, hbyte]
      exact hlow
    simp only [Function.comp_apply, if_pos hsmall, hbyte, id_eq]
    ext
    unfold chr
    rw [Fin.val_ofNat]
    omega
  · cases h

/-! ## Integers as bytes -/

/-- `bytes(values)` for a list of integers.
Source: Python `bytes`
Kind: D -/
def bytesOf (values : List Int) : Except PyExc Bytes :=
  if values.all fun v => 0 ≤ v && v ≤ 255 then .ok (values.map fun v => UInt8.ofNat v.toNat)
  else .error .valueError

/-- A byte below 256, printed as an integer and read as a byte.
Source: Python `bytes`
Kind: L -/
lemma bytesOf_toNat (data : Bytes) : bytesOf (data.map fun b => (b.toNat : Int)) = .ok data := by
  unfold bytesOf
  have hall : ((data.map fun b => (b.toNat : Int)).all fun v => 0 ≤ v && v ≤ 255) = true := by
    rw [List.all_map, List.all_eq_true]
    intro b _
    have hb := b.toNat_lt
    simp only [Function.comp_apply, Bool.and_eq_true, decide_eq_true_eq]
    omega
  rw [if_pos hall, List.map_map]
  congr 1
  conv_rhs => rw [← List.map_id data]
  apply List.map_congr_left
  intro b _
  simp

/-- `i.to_bytes(length, "big")`.
Source: Python `int.to_bytes`
Kind: D -/
def toBytes (i : Int) (length : Nat) : Except PyExc Bytes :=
  if i < 0 ∨ 256 ^ length ≤ i.toNat then .error .overflowError else .ok (bigEndian i.toNat length)

@[simp] lemma length_bigEndian (n count : Nat) : (bigEndian n count).length = count := by
  induction count with
  | zero => rfl
  | succ count ih => rw [bigEndian, List.length_cons, ih]

/-- More digits after those read.
Source: Python `int.from_bytes`
Kind: L -/
lemma ofBigEndian_cons (base d : Nat) (digits : List Nat) :
    ofBigEndian base (d :: digits) = d * base ^ digits.length + ofBigEndian base digits := by
  have hstart : ∀ start, digits.foldl (fun n d => n * base + d) start =
      start * base ^ digits.length + ofBigEndian base digits := by
    induction digits with
    | nil => simp [ofBigEndian]
    | cons e digits ih =>
        intro start
        unfold ofBigEndian
        rw [List.foldl_cons, List.foldl_cons, ih, ih (0 * base + e), List.length_cons, pow_succ]
        ring
  unfold ofBigEndian
  rw [List.foldl_cons, hstart]
  simp [ofBigEndian]

lemma fromBigEndian_cons (b : UInt8) (data : Bytes) :
    fromBigEndian (b :: data) = b.toNat * 256 ^ data.length + fromBigEndian data := by
  unfold fromBigEndian
  rw [List.map_cons, ofBigEndian_cons, List.length_map]

/-- **A number that fits its bytes is read back.**
Source: Python `int.to_bytes`, `int.from_bytes`
Kind: P -/
theorem fromBigEndian_bigEndian {n count : Nat} (h : n < 256 ^ count) :
    fromBigEndian (bigEndian n count) = n := by
  suffices hmod : ∀ count, fromBigEndian (bigEndian n count) = n % 256 ^ count by
    rw [hmod, Nat.mod_eq_of_lt h]
  intro count
  induction count with
  | zero => rw [pow_zero, Nat.mod_one]; rfl
  | succ count ih =>
      have hsplit : n % 256 ^ (count + 1) = n % 256 ^ count + 256 ^ count * (n / 256 ^ count % 256) := by
        rw [pow_succ, Nat.mod_mul]
      rw [bigEndian, fromBigEndian_cons, ih, length_bigEndian, UInt8.toNat_ofNat', hsplit,
        Nat.mul_comm (256 ^ count), Nat.add_comm]

/-! ## Addresses from packed bytes -/

/-- `IPv4Address(data)` for packed bytes; `AddressValueError` is a `ValueError`.
Source: Python `ipaddress` `IPv4Address.__init__`
Kind: D -/
def ipv4OfPacked (data : Bytes) : Except PyExc (BitVec 32) :=
  if data.length = 4 then .ok (BitVec.ofNat 32 (fromBigEndian data)) else .error .valueError

/-- `IPv6Address(data)` for packed bytes.
Source: Python `ipaddress` `IPv6Address.__init__`
Kind: D -/
def ipv6OfPacked (data : Bytes) : Except PyExc (BitVec 128) :=
  if data.length = 16 then .ok (BitVec.ofNat 128 (fromBigEndian data)) else .error .valueError

/-! ## Cutting at a separator -/

/-- The parts before and after the first occurrence of a separator.
Source: Python `bytes.split`, `str.split`
Kind: D -/
def cut {α : Type} [DecidableEq α] (sep : List α) : List α → Option (List α × List α)
  | [] => if sep = [] then some ([], []) else none
  | a :: as =>
    if sep.isPrefixOf (a :: as) then some ([], (a :: as).drop sep.length)
    else (cut sep as).map fun (front, rest) => (a :: front, rest)

/-- There is a first occurrence if there is any.
Source: Python `bytes.__contains__`
Kind: L -/
lemma isSome_cut {α : Type} [DecidableEq α] {sep s : List α} :
    (cut sep s).isSome = true ↔ sep <:+: s := by
  induction s with
  | nil =>
      rw [cut, List.infix_nil]
      split <;> simp_all
  | cons a s ih =>
      rw [cut, List.infix_cons_iff]
      by_cases hhere : sep <+: a :: s
      · rw [if_pos (List.isPrefixOf_iff_prefix.mpr hhere)]
        simp [hhere]
      · have hthere : ¬ sep.isPrefixOf (a :: s) = true := fun h =>
          hhere (List.isPrefixOf_iff_prefix.mp h)
        rw [if_neg hthere, Option.isSome_map, ih]
        simp [hhere]

/-- A text is cut at the first of its separators.
Source: Python `str.split`
Kind: L -/
lemma cut_append_cons {α : Type} [DecidableEq α] {a : α} {front : List α} (h : a ∉ front)
    (rest : List α) : cut [a] (front ++ a :: rest) = some (front, rest) := by
  induction front with
  | nil =>
      have hhere : [a].isPrefixOf (a :: rest) = true := List.isPrefixOf_iff_prefix.mpr ⟨rest, rfl⟩
      rw [List.nil_append, cut, if_pos hhere]
      rfl
  | cons b front ih =>
      have hne : a ≠ b := fun hab => h (hab ▸ List.mem_cons_self)
      have hnot : ¬ [a].isPrefixOf (b :: (front ++ a :: rest)) = true := by
        rw [List.isPrefixOf_iff_prefix, List.cons_prefix_cons]
        exact fun hab => hne hab.1
      rw [List.cons_append, cut, if_neg hnot, ih fun hmem => h (List.mem_cons_of_mem b hmem)]
      rfl

/-- A text without the separator is not cut.
Source: Python `str.split`
Kind: L -/
lemma cut_of_not_mem {α : Type} [DecidableEq α] {a : α} {s : List α} (h : a ∉ s) : cut [a] s = none := by
  rw [← Option.not_isSome_iff_eq_none, isSome_cut]
  exact fun hsub => h (hsub.subset List.mem_cons_self)

/-- `s.split(sep, 1)[0]`: the part before the first separator, all of it if there is none.
Source: Python `bytes.split`
Kind: D -/
def before {α : Type} [DecidableEq α] (sep s : List α) : List α := ((cut sep s).map Prod.fst).getD s

lemma before_of_isPrefix {α : Type} [DecidableEq α] {sep s : List α} (h : sep <+: s) (hne : s ≠ []) :
    before sep s = [] := by
  obtain ⟨a, s, rfl⟩ := List.exists_cons_of_ne_nil hne
  unfold before
  rw [cut, if_pos (List.isPrefixOf_iff_prefix.mpr h)]
  rfl

lemma before_cons_of_not_isPrefix {α : Type} [DecidableEq α] {sep s : List α} {a : α}
    (h : ¬ sep <+: a :: s) : before sep (a :: s) = a :: before sep s := by
  unfold before
  rw [cut, if_neg fun hprefix => h (List.isPrefixOf_iff_prefix.mp hprefix)]
  rcases cut sep s with _ | ⟨front, rest⟩
  · rfl
  · rfl

/-- What comes before the first separator starts the text.
Source: Python `bytes.split`
Kind: L -/
lemma before_isPrefix {α : Type} [DecidableEq α] (sep s : List α) : before sep s <+: s := by
  induction s with
  | nil =>
      unfold before
      rw [cut]
      split
      · exact List.prefix_rfl
      · exact List.prefix_rfl
  | cons a s ih =>
      by_cases h : sep <+: a :: s
      · rw [before_of_isPrefix h (List.cons_ne_nil a s)]
        exact List.nil_prefix
      · rw [before_cons_of_not_isPrefix h, List.cons_prefix_cons]
        exact ⟨rfl, ih⟩

/-- `s.split(sep, maxsplit)`.
Source: Python `str.split`
Kind: D -/
def splitAtMost {α : Type} [DecidableEq α] (sep : List α) : Nat → List α → List (List α)
  | 0, s => [s]
  | n + 1, s =>
    match cut sep s with
    | none => [s]
    | some (front, rest) => front :: splitAtMost sep n rest

/-- `s.split(sep)`: no more cuts than there are elements.
Source: Python `bytes.split`
Kind: D -/
def split {α : Type} [DecidableEq α] (sep s : List α) : List (List α) := splitAtMost sep s.length s

/-! ## Case of Latin-1 text -/

/-- `c.upper()` of a Latin-1 character.
Source: Python `str.upper`
Kind: D -/
def upperLatin1Char (c : CodePoint) : PyStr :=
  let n := c.val
  if (0x61 ≤ n ∧ n ≤ 0x7A) ∨ (0xE0 ≤ n ∧ n ≤ 0xFE ∧ n ≠ 0xF7) then [chr (n - 0x20)]
  else if n = 0xB5 then [chr 0x39C]
  else if n = 0xDF then text "SS"
  else if n = 0xFF then [chr 0x178]
  else [c]

/-- `s.upper()` of Latin-1 text.
Source: Python `str.upper`
Kind: D -/
def upperLatin1 (s : PyStr) : PyStr := s.flatMap upperLatin1Char

/-- `s.lower()` of Latin-1 text.
Source: Python `str.lower`
Kind: D -/
def lowerLatin1 (s : PyStr) : PyStr :=
  s.map fun c =>
    let n := c.val
    if (0x41 ≤ n ∧ n ≤ 0x5A) ∨ (0xC0 ≤ n ∧ n ≤ 0xDE ∧ n ≠ 0xD7) then chr (n + 0x20) else c

/-- The character is this capital letter or its lower case, or it is this character.
Source: Python `str.upper`
Kind: D -/
def IsCaseOf (c u : CodePoint) : Prop :=
  c.val = u.val ∨ 0x41 ≤ u.val ∧ u.val ≤ 0x5A ∧ c.val = u.val + 0x20

/-- A text in upper case starts with an ASCII character that is no lower-case letter, and no `S`, which `ß` has too,
exactly if the text starts with it or with its lower case.
Source: Python `str.upper`
Kind: L -/
lemma cons_prefix_upperLatin1 {u c : CodePoint} {name s : PyStr} (hu : u.val < 0x61) (hS : u.val ≠ 0x53) :
    u :: name <+: upperLatin1 (c :: s) ↔ IsCaseOf c u ∧ name <+: upperLatin1 s := by
  have hval : ∀ n, n < 0x110000 → (chr n).val = n := fun n hn => Nat.mod_eq_of_lt hn
  have hc := c.isLt
  have hone : ∀ d : CodePoint, (u.val = d.val ↔ IsCaseOf c u) →
      (u :: name <+: [d] ++ upperLatin1 s ↔ IsCaseOf c u ∧ name <+: upperLatin1 s) := by
    intro d hd
    rw [List.singleton_append, List.cons_prefix_cons, Fin.ext_iff, hd]
  unfold IsCaseOf at hone ⊢
  rw [upperLatin1, List.flatMap_cons, ← upperLatin1, upperLatin1Char]
  split_ifs with hletter hmicro hsharp hdiaeresis
  · apply hone
    rw [hval _ (by omega)]
    omega
  · apply hone
    rw [hval _ (by omega)]
    omega
  · have hdouble : text "SS" = [0x53, 0x53] := rfl
    rw [hdouble, List.cons_append, List.cons_prefix_cons, Fin.ext_iff]
    refine iff_of_false (fun h => hS h.1) ?_
    omega
  · apply hone
    rw [hval _ (by omega)]
    omega
  · apply hone
    omega

/-- **A prefix of a text in upper case is a prefix of the text in any case.**
Source: Python `str.upper`, `str.startswith`
Kind: P -/
theorem prefix_upperLatin1_iff {name s : PyStr} (hname : ∀ u ∈ name, u.val < 0x61 ∧ u.val ≠ 0x53) :
    name <+: upperLatin1 s ↔ List.Forall₂ IsCaseOf (s.take name.length) name := by
  induction name generalizing s with
  | nil => exact iff_of_true List.nil_prefix .nil
  | cons u name ih =>
      obtain ⟨⟨hu, hS⟩, hrest⟩ := List.forall_mem_cons.mp hname
      rcases s with _ | ⟨c, s⟩
      · refine iff_of_false (fun h => ?_) (fun h => ?_)
        · exact List.cons_ne_nil u name (List.prefix_nil.mp h)
        · cases h
      · rw [cons_prefix_upperLatin1 hu hS, List.length_cons, List.take_succ_cons, List.forall₂_cons, ih hrest]

/-! ## `repr` -/

/-- Two lowercase hexadecimal digits.
Source: Python `format(n, "02x")`
Kind: D -/
def hex02 (b : UInt8) : PyStr := [hexDigit (b.toNat / 16), hexDigit (b.toNat % 16)]

/-- The quote `repr` puts around a text: double if there is a single quote in it and no double one.
Source: Python `str.__repr__`, `bytes.__repr__`
Kind: D -/
def reprQuote (s : PyStr) : CodePoint := if 0x27 ∈ s ∧ (0x22 : CodePoint) ∉ s then 0x22 else 0x27

/-- One byte of a `repr`; `printable` says which characters above ASCII stand for themselves.
Source: Python `str.__repr__`, `bytes.__repr__`
Kind: D -/
def reprChar (quote : CodePoint) (printable : UInt8 → Bool) (b : UInt8) : PyStr :=
  let c := chr b.toNat
  if c = quote ∨ c = 0x5C then [0x5C, c]
  else if c = 0x09 then text "\\t"
  else if c = 0x0A then text "\\n"
  else if c = 0x0D then text "\\r"
  else if 0x20 ≤ b ∧ b < 0x7F then [c]
  else if printable b then [c]
  else text "\\x" ++ hex02 b

/-- `repr(data)`.
Source: Python `bytes.__repr__`
Kind: D -/
def reprBytes (data : Bytes) : PyStr :=
  let quote := reprQuote (decodeLatin1 data)
  text "b" ++ [quote] ++ data.flatMap (reprChar quote fun _ => false) ++ [quote]

/-- `repr(s)` of Latin-1 text: of the characters above ASCII, the C1 controls, the no-break space and
the soft hyphen are not printable.
Source: Python `str.__repr__`
Kind: D -/
def reprLatin1 (s : PyStr) : PyStr :=
  let quote := reprQuote s
  let escaped := s.flatMap fun c =>
    reprChar quote (fun b => 0xA0 < b && b ≠ 0xAD) (UInt8.ofNat c.val)
  [quote] ++ escaped ++ [quote]

end NetstackSuite.Python
