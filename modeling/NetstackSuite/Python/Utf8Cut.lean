import Mathlib.Data.List.Basic
import NetstackSuite.Python.Utf8

/-!
# Decoding bytes that are cut off

Where bytes leave the lossy decoder (`DecodesAt`): between two characters, or inside one of which it holds some bytes.
A character is read wherever the decoder stands, so decoded bytes end with a character exactly if the bytes end with
its own (`getLast?_decodeReplace`). The rest of a character that was cut off is read on to one character, and afresh
to replacement characters (`decodeFrom_some`).
-/

namespace NetstackSuite.Python

/-! ## Where bytes leave the decoder -/

/-- The bytes read of a character that the decoder waits for.
Source: Python `bytes.decode`
Kind: D -/
inductive Held : Option Pending → Bytes → Prop where
  | none : Held none []
  | lead {b : UInt8} {p : Pending} (first : lead b = .more p) : Held (some p) [b]
  | next {p q : Pending} {read : Bytes} {b : UInt8} (held : Held (some p) read) (inRange : p.lo ≤ b ∧ b ≤ p.hi)
      (bits : q.bits = p.bits * 64 + (b.toNat - 0x80)) (owed : p.owed = q.owed + 1) (lo : q.lo = 0x80)
      (hi : q.hi = 0xBF) : Held (some q) (read ++ [b])

/-- Where bytes leave the decoder: with this text, and maybe inside a character of which these bytes are read.
Source: Python `bytes.decode`
Kind: D -/
structure DecodesAt (data : Bytes) (t : PyStr) (state : Option Pending) (read : Bytes) : Prop where
  decodes : ∀ rest, decodeReplace (data ++ rest) = t ++ decodeFrom state rest
  held : Held state read
  suffix : read <:+ data

/-- Source: Python `bytes.decode`. Kind: L -/
lemma DecodesAt.lead_step {data : Bytes} {t : PyStr} {b : UInt8}
    (h : ∀ rest, decodeReplace (data ++ b :: rest) = t ++ decodeFrom none (b :: rest)) :
    ∃ t state read, DecodesAt (data ++ [b]) t state read := by
  have hsplit (rest : Bytes) : data ++ [b] ++ rest = data ++ b :: rest := by simp
  cases hlead : lead b with
  | char c =>
      refine ⟨t ++ [c], none, [], fun rest => ?_, .none, List.nil_suffix⟩
      rw [hsplit, h, decodeFrom, hlead, List.append_assoc]
      rfl
  | more p =>
      refine ⟨t, some p, [b], fun rest => ?_, .lead hlead, List.suffix_append _ _⟩
      rw [hsplit, h, decodeFrom, hlead]
  | bad =>
      refine ⟨t ++ [REPLACEMENT], none, [], fun rest => ?_, .none, List.nil_suffix⟩
      rw [hsplit, h, decodeFrom, hlead, List.append_assoc]
      rfl

/-- A byte that a character cannot go on with is read afresh.
Source: Python `bytes.decode`
Kind: L -/
lemma decodeFrom_resync {p : Pending} {b : UInt8} (hb : ¬ (p.lo ≤ b ∧ b ≤ p.hi)) (rest : Bytes) :
    decodeFrom (some p) (b :: rest) = REPLACEMENT :: decodeFrom none (b :: rest) := by
  simp only [decodeFrom, if_neg hb]

/-- Source: Python `bytes.decode`. Kind: L -/
lemma exists_decodesAt (data : Bytes) : ∃ t state read, DecodesAt data t state read := by
  induction data using List.reverseRecOn with
  | nil => exact ⟨[], none, [], fun rest => rfl, .none, List.nil_suffix⟩
  | append_singleton data b ih =>
      obtain ⟨t, state, read, hdecodes, hheld, hsuffix⟩ := ih
      cases state with
      | none => exact DecodesAt.lead_step fun rest => hdecodes (b :: rest)
      | some p =>
          by_cases hb : p.lo ≤ b ∧ b ≤ p.hi
          · cases howed : p.owed with
            | zero =>
                refine ⟨t ++ [chr (p.bits * 64 + (b.toNat - 0x80))], none, [], fun rest => ?_, .none, List.nil_suffix⟩
                rw [List.append_assoc, List.singleton_append, hdecodes, decodeFrom, if_pos hb, howed]
                simp
            | succ n =>
                refine ⟨t, some ⟨p.bits * 64 + (b.toNat - 0x80), n, 0x80, 0xBF, by decide⟩, read ++ [b], fun rest => ?_,
                  ?_, ?_⟩
                · rw [List.append_assoc, List.singleton_append, hdecodes, decodeFrom, if_pos hb, howed]
                · exact .next hheld hb rfl howed rfl rfl
                · obtain ⟨front, rfl⟩ := hsuffix
                  exact ⟨front, by simp⟩
          · apply DecodesAt.lead_step (t := t ++ [REPLACEMENT])
            intro rest
            rw [hdecodes, decodeFrom_resync hb, List.append_assoc]
            rfl

/-! ## The bytes of a character -/

/-- The first byte of a character of two, three or four bytes.
Source: Python `bytes.decode`
Kind: L -/
lemma lead_more {b : UInt8} {p : Pending} (h : lead b = .more p) :
    p.hi.toNat ≤ 0xBF ∧
      ((p.owed = 0 ∧ 0xC2 ≤ b.toNat ∧ b.toNat < 0xE0 ∧ p.bits = b.toNat - 0xC0) ∨
        (p.owed = 1 ∧ 0xE0 ≤ b.toNat ∧ b.toNat < 0xF0 ∧ p.bits = b.toNat - 0xE0 ∧
          32 ≤ p.bits * 64 + (p.lo.toNat - 0x80) ∧ (p.bits = 0xD → p.hi.toNat ≤ 0x9F)) ∨
        (p.owed = 2 ∧ 0xF0 ≤ b.toNat ∧ b.toNat < 0xF5 ∧ p.bits = b.toNat - 0xF0 ∧
          16 ≤ p.bits * 64 + (p.lo.toNat - 0x80) ∧ p.bits * 64 + (p.hi.toNat - 0x80) < 0x110)) := by
  have hnat {c : UInt8} (hc : ¬ b < c) : c.toNat ≤ b.toNat := Nat.le_of_not_lt hc
  have hne {c : UInt8} (hc : ¬ b = c) : b.toNat ≠ c.toNat := fun heq => hc (UInt8.toNat_inj.1 heq)
  have htail : (0xBF : UInt8).toNat ≤ 0xBF := Nat.le_refl _
  unfold lead at h
  by_cases h80 : b < 0x80
  · rw [if_pos h80] at h
    cases h
  rw [if_neg h80] at h
  by_cases hC2 : b < 0xC2
  · rw [if_pos hC2] at h
    cases h
  rw [if_neg hC2] at h
  by_cases hE0 : b < 0xE0
  · rw [if_pos hE0] at h
    obtain rfl := Lead.more.inj h
    exact ⟨htail, Or.inl ⟨rfl, hnat hC2, hE0, rfl⟩⟩
  rw [if_neg hE0] at h
  have hlow : 0xE0 ≤ b.toNat := hnat hE0
  by_cases hE0' : b = 0xE0
  · rw [if_pos hE0'] at h
    obtain rfl := Lead.more.inj h
    subst hE0'
    exact ⟨htail, Or.inr (Or.inl ⟨rfl, by decide, by decide, rfl, by decide, by decide⟩)⟩
  rw [if_neg hE0'] at h
  have hne' : b.toNat ≠ 0xE0 := hne hE0'
  by_cases hED : b = 0xED
  · rw [if_pos hED] at h
    obtain rfl := Lead.more.inj h
    subst hED
    exact ⟨by decide, Or.inr (Or.inl ⟨rfl, by decide, by decide, rfl, by decide, by decide⟩)⟩
  rw [if_neg hED] at h
  have hneED : b.toNat ≠ 0xED := hne hED
  by_cases hF0 : b < 0xF0
  · rw [if_pos hF0] at h
    obtain rfl := Lead.more.inj h
    have hfirst : 32 ≤ (b.toNat - 0xE0) * 64 + ((0x80 : UInt8).toNat - 0x80) := by
      simp only [UInt8.reduceToNat]
      omega
    have hsurrogate : b.toNat - 0xE0 ≠ 0xD := by omega
    exact ⟨htail, Or.inr (Or.inl ⟨rfl, hlow, hF0, rfl, hfirst, fun hD => absurd hD hsurrogate⟩)⟩
  rw [if_neg hF0] at h
  have hlow' : 0xF0 ≤ b.toNat := hnat hF0
  by_cases hF0' : b = 0xF0
  · rw [if_pos hF0'] at h
    obtain rfl := Lead.more.inj h
    subst hF0'
    exact ⟨htail, Or.inr (Or.inr ⟨rfl, by decide, by decide, rfl, by decide, by decide⟩)⟩
  rw [if_neg hF0'] at h
  have hne'' : b.toNat ≠ 0xF0 := hne hF0'
  by_cases hF4 : b < 0xF4
  · rw [if_pos hF4] at h
    obtain rfl := Lead.more.inj h
    have hhigh : b.toNat < 0xF4 := hF4
    have hfirst : 16 ≤ (b.toNat - 0xF0) * 64 + ((0x80 : UInt8).toNat - 0x80) := by
      simp only [UInt8.reduceToNat]
      omega
    have hlast : (b.toNat - 0xF0) * 64 + ((0xBF : UInt8).toNat - 0x80) < 0x110 := by
      simp only [UInt8.reduceToNat]
      omega
    exact ⟨htail, Or.inr (Or.inr ⟨rfl, hlow', by omega, rfl, hfirst, hlast⟩)⟩
  rw [if_neg hF4] at h
  by_cases hF4' : b = 0xF4
  · rw [if_pos hF4'] at h
    obtain rfl := Lead.more.inj h
    subst hF4'
    exact ⟨by decide, Or.inr (Or.inr ⟨rfl, by decide, by decide, rfl, by decide, by decide⟩)⟩
  rw [if_neg hF4'] at h
  cases h

/-- A character has no more than three bytes after its first.
Source: Python `bytes.decode`
Kind: L -/
lemma Held.owed_le {p : Pending} {read : Bytes} (h : Held (some p) read) : p.owed ≤ 2 ∧ p.hi.toNat ≤ 0xBF := by
  generalize hstate : some p = state at h
  induction h generalizing p with
  | none => cases hstate
  | lead first =>
      obtain rfl := Option.some.inj hstate
      have hmore := lead_more first
      omega
  | next held inRange bits owed lo hi ih =>
      obtain rfl := Option.some.inj hstate
      have hprevious := (ih rfl).1
      have hhi := congrArg UInt8.toNat hi
      simp only [UInt8.reduceToNat] at hhi
      omega

/-- A continuation byte.
Source: Python `bytes.decode`
Kind: L -/
lemma Held.tail_bounds {p : Pending} {read : Bytes} {b : UInt8} (h : Held (some p) read)
    (hb : p.lo ≤ b ∧ b ≤ p.hi) :
    0x80 ≤ p.lo.toNat ∧ p.lo.toNat ≤ b.toNat ∧ b.toNat ≤ p.hi.toNat ∧ b.toNat ≤ 0xBF := by
  have hlo : 0x80 ≤ p.lo.toNat := p.lo_ge
  have hhi : b.toNat ≤ p.hi.toNat := hb.2
  exact ⟨hlo, hb.1, hhi, hhi.trans h.owed_le.2⟩

/-- A byte is what its number says.
Source: none: infrastructure
Kind: L -/
lemma ofNat_eq_of_toNat {b : UInt8} {n : Nat} (h : n = b.toNat) : UInt8.ofNat n = b := by
  rw [h, UInt8.ofNat_toNat]

/-- Source: none: infrastructure. Kind: L -/
lemma val_chr {n : Nat} (h : n < 0x110000) : (chr n).val = n := by
  unfold chr
  rw [Fin.val_ofNat]
  exact Nat.mod_eq_of_lt h

/-- **The character that a byte completes** is not in ASCII, and these are its bytes.
Source: Python `bytes.decode`
Kind: L -/
lemma Held.completes {p : Pending} {read : Bytes} {b : UInt8} {n : Nat} (h : Held (some p) read)
    (hb : p.lo ≤ b ∧ b ≤ p.hi) (howed : p.owed = 0) (hn : n = p.bits * 64 + (b.toNat - 0x80)) :
    0x80 ≤ n ∧ n < 0x110000 ∧ encodeChar (chr n) = .ok (read ++ [b]) := by
  have hbyte := h.tail_bounds hb
  cases h with
  | @lead b₀ _ first =>
      have hmore := lead_more first
      have hval : (chr n).val = n := val_chr (by omega)
      refine ⟨by omega, by omega, ?_⟩
      unfold encodeChar
      simp only [hval]
      rw [if_neg (by omega), if_pos (by omega), ofNat_eq_of_toNat (b := b₀) (by omega),
        ofNat_eq_of_toNat (b := b) (by omega)]
      rfl
  | @next p₁ _ read₁ b₁ held inRange bits owed lo hi =>
      have hbyte₁ := held.tail_bounds inRange
      cases held with
      | @lead b₀ _ first =>
          have hmore := lead_more first
          have hval : (chr n).val = n := val_chr (by omega)
          refine ⟨by omega, by omega, ?_⟩
          unfold encodeChar
          simp only [hval]
          rw [if_neg (by omega), if_neg (by omega), if_neg (by omega), if_pos (by omega),
            ofNat_eq_of_toNat (b := b₀) (by omega), ofNat_eq_of_toNat (b := b₁) (by omega),
            ofNat_eq_of_toNat (b := b) (by omega)]
          rfl
      | @next p₂ _ read₂ b₂ held₂ inRange₂ bits₂ owed₂ lo₂ hi₂ =>
          have hbyte₂ := held₂.tail_bounds inRange₂
          cases held₂ with
          | @lead b₀ _ first =>
              have hmore := lead_more first
              have hval : (chr n).val = n := val_chr (by omega)
              refine ⟨by omega, by omega, ?_⟩
              unfold encodeChar
              simp only [hval]
              rw [if_neg (by omega), if_neg (by omega), if_neg (by omega), if_neg (by omega),
                ofNat_eq_of_toNat (b := b₀) (by omega), ofNat_eq_of_toNat (b := b₂) (by omega),
                ofNat_eq_of_toNat (b := b₁) (by omega), ofNat_eq_of_toNat (b := b) (by omega)]
              rfl
          | next held₃ inRange₃ bits₃ owed₃ lo₃ hi₃ =>
              have hmany := held₃.owed_le
              omega

/-- A character of one byte.
Source: Python `bytes.decode`
Kind: L -/
lemma lead_char {b : UInt8} {c : CodePoint} (h : lead b = .char c) : encodeChar c = .ok [b] ∧ b < 0x80 := by
  have hascii : b < 0x80 := by
    by_contra hb
    unfold lead at h
    rw [if_neg hb] at h
    repeat' split at h
    all_goals cases h
  rw [lead_of_ascii hascii] at h
  obtain rfl := Lead.char.inj h
  have hval : (chr b.toNat).val = b.toNat := val_chr (by have := b.toNat_lt; omega)
  have hbyte : b.toNat < 0x80 := hascii
  refine ⟨?_, hascii⟩
  unfold encodeChar
  simp only [hval]
  rw [if_pos hbyte, UInt8.ofNat_toNat]

/-- The first byte of a character goes on with no other.
Source: Python `str.encode`
Kind: L -/
lemma encodeChar_first {c : CodePoint} {data : Bytes} (h : encodeChar c = .ok data) :
    ∃ b rest, data = b :: rest ∧ (b.toNat < 0x80 ∨ 0xC0 ≤ b.toNat) := by
  have hval := c.isLt
  unfold encodeChar at h
  simp only at h
  split at h
  · cases h
    refine ⟨_, _, rfl, Or.inl ?_⟩
    rw [toNat_ofNat_of_lt (by omega)]
    omega
  · split at h
    · cases h
      refine ⟨_, _, rfl, Or.inr ?_⟩
      rw [toNat_ofNat_of_lt (by omega)]
      omega
    · split at h
      · cases h
      · split at h
        · cases h
          refine ⟨_, _, rfl, Or.inr ?_⟩
          rw [toNat_ofNat_of_lt (by omega)]
          omega
        · cases h
          refine ⟨_, _, rfl, Or.inr ?_⟩
          rw [toNat_ofNat_of_lt (by omega)]
          omega

/-- A whole character is read wherever the decoder stands.
Source: Python `bytes.decode`
Kind: L -/
lemma getLast?_decodeFrom_encodeChar {state : Option Pending} {read data : Bytes} {c : CodePoint}
    (hheld : Held state read) (h : encodeChar c = .ok data) : (decodeFrom state data).getLast? = some c := by
  have hwhole : decodeFrom none data = [c] := by simpa [decodeFrom] using decodeFrom_encodeChar h []
  cases state with
  | none => simp [hwhole]
  | some p =>
      obtain ⟨b, rest, rfl, hfirst⟩ := encodeChar_first h
      have hout : ¬ (p.lo ≤ b ∧ b ≤ p.hi) := by
        intro hin
        have htail := hheld.tail_bounds hin
        omega
      simp [decodeFrom_resync hout, hwhole]

/-- A character begun comes out, if only as a replacement character.
Source: Python `bytes.decode`
Kind: L -/
lemma decodeFrom_some_ne_nil (p : Pending) (data : Bytes) : decodeFrom (some p) data ≠ [] := by
  induction data generalizing p with
  | nil => simp [decodeFrom]
  | cons b data ih =>
      rw [decodeFrom]
      split
      · simp only
        split
        · simp
        · exact ih _
      · simp

/-- Source: Python `bytes.decode`. Kind: L -/
lemma decodeFrom_ne_nil (state : Option Pending) {data : Bytes} (h : data ≠ []) : decodeFrom state data ≠ [] := by
  cases state with
  | some p => exact decodeFrom_some_ne_nil p data
  | none =>
      cases data with
      | nil => exact absurd rfl h
      | cons b data =>
          rw [decodeFrom]
          split
          · simp
          · exact decodeFrom_some_ne_nil _ _
          · simp

/-- One more byte, read between two characters.
Source: Python `bytes.decode`
Kind: L -/
lemma encodeChar_of_getLast?_lead {b : UInt8} {c : CodePoint} (hc : c ≠ REPLACEMENT)
    (h : (decodeFrom none [b]).getLast? = some c) : encodeChar c = .ok [b] := by
  rw [decodeFrom] at h
  split at h
  · next d hlead =>
    obtain rfl : d = c := by simpa [decodeFrom] using h
    exact (lead_char hlead).1
  · exact absurd (by simpa [decodeFrom] using h.symm) hc
  · exact absurd (by simpa [decodeFrom] using h.symm) hc

/-- **What decoded bytes end with is what they end with**, unless it is a replacement character.
Source: Python `bytes.decode`, `str.encode`
Kind: P -/
theorem getLast?_decodeReplace {c : CodePoint} {boundary : Bytes} (hc : c ≠ REPLACEMENT)
    (h : encodeChar c = .ok boundary) (data : Bytes) :
    (decodeReplace data).getLast? = some c ↔ boundary <:+ data := by
  constructor
  · intro hlast
    rcases data.eq_nil_or_concat with rfl | ⟨front, b, rfl⟩
    · cases hlast
    · rw [List.concat_eq_append] at hlast ⊢
      obtain ⟨t, state, read, hdecodes, hheld, hsuffix⟩ := exists_decodesAt front
      rw [hdecodes, List.getLast?_append_of_ne_nil _ (decodeFrom_ne_nil state (by simp))] at hlast
      cases state with
      | none =>
          obtain rfl := Except.ok.inj (h.symm.trans (encodeChar_of_getLast?_lead hc hlast))
          exact List.suffix_append _ _
      | some p =>
          by_cases hb : p.lo ≤ b ∧ b ≤ p.hi
          · rw [decodeFrom, if_pos hb] at hlast
            cases howed : p.owed with
            | zero =>
                obtain ⟨-, -, hbytes⟩ := hheld.completes hb howed rfl
                obtain rfl : chr (p.bits * 64 + (b.toNat - 0x80)) = c := by simpa [howed, decodeFrom] using hlast
                obtain rfl := Except.ok.inj (h.symm.trans hbytes)
                obtain ⟨rest, rfl⟩ := hsuffix
                exact ⟨rest, by simp⟩
            | succ n => exact absurd (by simpa [howed, decodeFrom] using hlast.symm) hc
          · rw [decodeFrom_resync hb, List.getLast?_cons_of_ne_nil (decodeFrom_ne_nil none (by simp))] at hlast
            obtain rfl := Except.ok.inj (h.symm.trans (encodeChar_of_getLast?_lead hc hlast))
            exact List.suffix_append _ _
  · rintro ⟨front, rfl⟩
    obtain ⟨t, state, read, hdecodes, hheld, hsuffix⟩ := exists_decodesAt front
    rw [hdecodes, List.getLast?_append, getLast?_decodeFrom_encodeChar hheld h]
    rfl

/-! ## Decoding on from inside a character -/

/-- A continuation byte is the first of no character.
Source: Python `bytes.decode`
Kind: L -/
lemma lead_tail {b : UInt8} (hlo : 0x80 ≤ b.toNat) (hhi : b.toNat ≤ 0xBF) : lead b = .bad := by
  have hascii : ¬ b < 0x80 := Nat.not_lt.2 hlo
  have htail : b < 0xC2 := Nat.lt_of_le_of_lt hhi (by decide)
  rw [lead, if_neg hascii, if_pos htail]

/-- **The rest of a character**, read on and read afresh: one character, or a replacement character for each of its
bytes; from there on the two agree.
Source: Python `bytes.decode`
Kind: L -/
lemma decodeFrom_some {p : Pending} {read : Bytes} (hheld : Held (some p) read) (rest : Bytes) :
    ∃ x k v, decodeFrom (some p) rest = x :: v ∧ decodeReplace rest = List.replicate k REPLACEMENT ++ v ∧
      0x80 ≤ x.val := by
  have hreplacement : 0x80 ≤ REPLACEMENT.val := by decide
  induction rest generalizing p read with
  | nil => exact ⟨REPLACEMENT, 0, [], rfl, rfl, hreplacement⟩
  | cons b rest ih =>
      by_cases hb : p.lo ≤ b ∧ b ≤ p.hi
      · have htail := hheld.tail_bounds hb
        have hafresh : decodeReplace (b :: rest) = REPLACEMENT :: decodeReplace rest := by
          rw [decodeReplace, decodeFrom, lead_tail (by omega) htail.2.2.2]
          rfl
        cases howed : p.owed with
        | zero =>
            obtain ⟨hlow, hhigh, -⟩ := hheld.completes hb howed rfl
            refine ⟨chr (p.bits * 64 + (b.toNat - 0x80)), 1, decodeReplace rest, ?_, ?_, ?_⟩
            · rw [decodeFrom, if_pos hb, howed]
              rfl
            · exact hafresh
            · rw [val_chr hhigh]
              exact hlow
        | succ n =>
            obtain ⟨x, k, v, hread, hreplaced, hx⟩ :=
              ih (p := ⟨p.bits * 64 + (b.toNat - 0x80), n, 0x80, 0xBF, by decide⟩) (.next hheld hb rfl howed rfl rfl)
            refine ⟨x, k + 1, v, ?_, ?_, hx⟩
            · rw [decodeFrom, if_pos hb, howed]
              exact hread
            · rw [hafresh, hreplaced, List.replicate_succ]
              rfl
      · exact ⟨REPLACEMENT, 0, decodeReplace (b :: rest), decodeFrom_resync hb rest, rfl, hreplacement⟩

/-- Decoded bytes start with a `\n` if they start with its byte.
Source: Python `bytes.decode`
Kind: L -/
lemma head?_decodeReplace_LF (data : Bytes) : (decodeReplace data).head? = some LF ↔ data.head? = some 0x0A := by
  have hLF : lead 0x0A = .char LF := rfl
  cases data with
  | nil => simp
  | cons b rest =>
      rw [decodeReplace, decodeFrom, List.head?_cons, Option.some_inj]
      cases hlead : lead b with
      | char c =>
          simp only [List.head?_cons, Option.some_inj]
          constructor
          · rintro rfl
            exact (List.singleton_inj.1 (Except.ok.inj ((show encodeChar LF = .ok [0x0A] from rfl).symm.trans
              (lead_char hlead).1))).symm
          · rintro rfl
            exact (Lead.char.inj (hLF.symm.trans hlead)).symm
      | more p =>
          obtain ⟨x, k, v, hread, -, hx⟩ := decodeFrom_some (.lead hlead) rest
          simp only [hread, List.head?_cons, Option.some_inj]
          constructor
          · rintro rfl
            exact absurd hx (by decide)
          · rintro rfl
            cases hLF.symm.trans hlead
      | bad =>
          simp only [List.head?_cons, Option.some_inj]
          constructor
          · intro hreplacement
            exact absurd hreplacement (by decide)
          · rintro rfl
            cases hLF.symm.trans hlead

end NetstackSuite.Python
