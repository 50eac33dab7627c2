import Mathlib.Tactic.IntervalCases
import NetstackSuite.Python.Text

/-!
# UTF-8 decodes what it encodes

`decodeReplace_encode`: the lossy decoder gives back every text that can be encoded. Each character is
read from exactly its own bytes (`decodeFrom_encodeChar`), by cases on the length of its encoding.
-/

namespace NetstackSuite.Python

/-- A continuation byte in the range that is asked for.
Source: Python `bytes.decode`
Kind: L -/
lemma decodeFrom_continuation (p : Pending) {bits : Nat} (hbits : bits < 64)
    (hlo : p.lo.toNat ≤ 0x80 + bits) (hhi : 0x80 + bits ≤ p.hi.toNat) (rest : Bytes) :
    decodeFrom (some p) (UInt8.ofNat (0x80 + bits) :: rest) =
      match p.owed with
      | 0 => chr (p.bits * 64 + bits) :: decodeFrom none rest
      | n + 1 => decodeFrom (some ⟨p.bits * 64 + bits, n, 0x80, 0xBF, by decide⟩) rest := by
  have hbyte : (UInt8.ofNat (0x80 + bits)).toNat = 0x80 + bits := toNat_ofNat_of_lt (by omega)
  have hin : p.lo ≤ UInt8.ofNat (0x80 + bits) ∧ UInt8.ofNat (0x80 + bits) ≤ p.hi := by
    rw [UInt8.le_iff_toNat_le, UInt8.le_iff_toNat_le, hbyte]
    exact ⟨hlo, hhi⟩
  have hvalue : p.bits * 64 + ((UInt8.ofNat (0x80 + bits)).toNat - 0x80) = p.bits * 64 + bits := by
    rw [hbyte]
    omega
  rw [decodeFrom, if_pos hin]
  rcases p.owed with _ | n
  · exact congrArg (fun value => chr value :: decodeFrom none rest) hvalue
  · exact congrArg (fun value => decodeFrom (some ⟨value, n, 0x80, 0xBF, by decide⟩) rest) hvalue

/-- The last continuation byte of a character.
Source: Python `bytes.decode`
Kind: L -/
lemma decodeFrom_last (p : Pending) {bits n : Nat} {c : CodePoint} (howed : p.owed = 0)
    (hbits : bits < 64) (hlo : p.lo.toNat ≤ 0x80 + bits) (hhi : 0x80 + bits ≤ p.hi.toNat)
    (hn : p.bits * 64 + bits = n) (hc : n = c.val) (rest : Bytes) :
    decodeFrom (some p) (UInt8.ofNat (0x80 + bits) :: rest) = c :: decodeFrom none rest := by
  rw [decodeFrom_continuation p hbits hlo hhi, howed]
  have hchr : chr (p.bits * 64 + bits) = c := by
    have hval := c.isLt
    ext
    unfold chr
    rw [Fin.val_ofNat]
    omega
  rw [hchr]

/-- The lead byte of a character of two bytes.
Source: Python `bytes.decode`
Kind: L -/
lemma lead_two {k : Nat} (hlow : 2 ≤ k) (hhigh : k < 32) :
    ∃ hlo, lead (UInt8.ofNat (0xC0 + k)) = .more ⟨k, 0, 0x80, 0xBF, hlo⟩ := by
  interval_cases k <;> exact ⟨_, rfl⟩

/-- The lead byte of a character of three bytes, and the bytes that may follow it: no overlong forms
after the first, no surrogates after the fourteenth.
Source: Python `bytes.decode`
Kind: L -/
lemma lead_three {k : Nat} (h : k < 16) :
    ∃ p : Pending, lead (UInt8.ofNat (0xE0 + k)) = .more p ∧ p.bits = k ∧ p.owed = 1 ∧
      ∀ bits < 64, (k = 0 → 32 ≤ bits) → (k = 13 → bits < 32) →
        p.lo.toNat ≤ 0x80 + bits ∧ 0x80 + bits ≤ p.hi.toNat := by
  interval_cases k <;> refine ⟨_, rfl, rfl, rfl, fun bits hbits hoverlong hsurrogate => ?_⟩ <;>
    simp only [UInt8.reduceToNat] <;> omega

/-- The lead byte of a character of four bytes, and the bytes that may follow it: no overlong forms
after the first, nothing above U+10FFFF after the last.
Source: Python `bytes.decode`
Kind: L -/
lemma lead_four {k : Nat} (h : k < 5) :
    ∃ p : Pending, lead (UInt8.ofNat (0xF0 + k)) = .more p ∧ p.bits = k ∧ p.owed = 2 ∧
      ∀ bits < 64, (k = 0 → 16 ≤ bits) → (k = 4 → bits < 16) →
        p.lo.toNat ≤ 0x80 + bits ∧ 0x80 + bits ≤ p.hi.toNat := by
  interval_cases k <;> refine ⟨_, rfl, rfl, rfl, fun bits hbits hoverlong hrange => ?_⟩ <;>
    simp only [UInt8.reduceToNat] <;> omega

/-- A character of one byte.
Source: Python `bytes.decode`
Kind: L -/
lemma decodeFrom_one {c : CodePoint} (h : c.val < 0x80) (rest : Bytes) :
    decodeFrom none (UInt8.ofNat c.val :: rest) = c :: decodeFrom none rest := by
  have hval := toNat_ofNat_of_lt (show c.val < 256 by omega)
  have hbyte : UInt8.ofNat c.val < 0x80 := by
    rw [UInt8.lt_iff_toNat_lt, hval]
    exact h
  have hchr : chr (UInt8.ofNat c.val).toNat = c := by
    rw [hval]
    ext
    unfold chr
    rw [Fin.val_ofNat]
    omega
  rw [decodeFrom, lead_of_ascii hbyte]
  simp only [hchr]

/-- **A character is read from exactly its own bytes.**
Source: Python `str.encode`, `bytes.decode`
Kind: P -/
lemma decodeFrom_encodeChar {c : CodePoint} {data : Bytes} (h : encodeChar c = .ok data)
    (rest : Bytes) : decodeFrom none (data ++ rest) = c :: decodeFrom none rest := by
  have hval := c.isLt
  unfold encodeChar at h
  simp only at h
  split at h
  next hone =>
    obtain rfl := Except.ok.inj h
    exact decodeFrom_one hone rest
  next hone =>
    split at h
    next htwo =>
      obtain rfl := Except.ok.inj h
      obtain ⟨hlo, hlead⟩ := lead_two (k := c.val / 64) (by omega) (by omega)
      simp only [List.cons_append, List.nil_append]
      rw [decodeFrom, hlead]
      refine decodeFrom_last _ rfl (by omega) ?_ ?_ rfl ?_ rest
      · simp only [UInt8.reduceToNat]
        omega
      · simp only [UInt8.reduceToNat]
        omega
      · simp only
        omega
    next htwo =>
      split at h
      · cases h
      next hsurrogate =>
        split at h
        next hthree =>
          obtain rfl := Except.ok.inj h
          obtain ⟨p, hlead, hbits, howed, hrange⟩ := lead_three (k := c.val / 4096) (by omega)
          have hsecond := hrange (c.val / 64 % 64) (by omega) (by omega) (by omega)
          simp only [List.cons_append, List.nil_append]
          rw [decodeFrom, hlead]
          simp only
          rw [decodeFrom_continuation p (by omega) hsecond.1 hsecond.2, howed]
          refine decodeFrom_last _ rfl (by omega) ?_ ?_ rfl ?_ rest
          · simp only [UInt8.reduceToNat]
            omega
          · simp only [UInt8.reduceToNat]
            omega
          · simp only [hbits]
            omega
        next hthree =>
          obtain rfl := Except.ok.inj h
          obtain ⟨p, hlead, hbits, howed, hrange⟩ := lead_four (k := c.val / 262144) (by omega)
          have hsecond := hrange (c.val / 4096 % 64) (by omega) (by omega) (by omega)
          simp only [List.cons_append, List.nil_append]
          rw [decodeFrom, hlead]
          simp only
          rw [decodeFrom_continuation p (by omega) hsecond.1 hsecond.2, howed]
          simp only
          rw [decodeFrom_continuation _ (by omega)]
          · refine decodeFrom_last _ rfl (by omega) ?_ ?_ rfl ?_ rest
            · simp only [UInt8.reduceToNat]
              omega
            · simp only [UInt8.reduceToNat]
              omega
            · simp only [hbits]
              omega
          · simp only [UInt8.reduceToNat]
            omega
          · simp only [UInt8.reduceToNat]
            omega

/-- **The lossy decoder gives back every text that can be encoded.**
Source: Python `str.encode`, `bytes.decode`
Kind: P -/
theorem decodeReplace_encode {s : PyStr} {data : Bytes} (h : encode s = .ok data) :
    decodeReplace data = s := by
  induction s generalizing data with
  | nil =>
      obtain rfl := Except.ok.inj h
      rfl
  | cons c s ih =>
      rw [encode] at h
      obtain ⟨front, hfront, h⟩ := bind_eq_ok.mp h
      obtain ⟨rest, hrest, h⟩ := bind_eq_ok.mp h
      obtain rfl := Except.ok.inj h
      rw [decodeReplace, decodeFrom_encodeChar hfront]
      exact congrArg (c :: ·) (ih hrest)

end NetstackSuite.Python
