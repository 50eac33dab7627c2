import NetstackSuite.Python.Utf8Cut

/-!
# Text files

`Path.write_text` and `Path.read_text` with `encoding="utf-8"`: writing turns each line feed into the
platform's line separator, reading decodes strictly and turns every kind of line end back into a line
feed. `readText_writeText`: a text without carriage returns is read back as it was written.
-/

namespace NetstackSuite.Python

/-- The text a file holds for a text written to it.
Source: Python `io.TextIOWrapper.write`, `os.linesep`
Kind: D -/
def translateNewlines (windows : Bool) (s : PyStr) : PyStr :=
  s.flatMap fun c => if c = LF ∧ windows then [CR, LF] else [c]

/-- `path.write_text(s, encoding="utf-8")`: the bytes of the file.
Source: Python `pathlib.Path.write_text`
Kind: D -/
def writeText (windows : Bool) (s : PyStr) : Except PyExc Bytes := encode (translateNewlines windows s)

/-- Text without lone surrogates.
Source: Python `str.encode`
Kind: D -/
def Writable (s : PyStr) : Prop := ∀ c ∈ s, ¬ (0xD800 ≤ c.val ∧ c.val ≤ 0xDFFF)

/-- Source: Python `str.encode`. Kind: L -/
lemma exists_encodeChar {c : CodePoint} (hc : ¬ (0xD800 ≤ c.val ∧ c.val ≤ 0xDFFF)) :
    ∃ data, encodeChar c = .ok data := by
  unfold encodeChar
  dsimp only
  split_ifs
  all_goals exact ⟨_, rfl⟩

/-- Source: Python `str.encode`. Kind: L -/
lemma Writable.exists_encode {s : PyStr} (hs : Writable s) : ∃ data, encode s = .ok data := by
  induction s with
  | nil => exact ⟨[], rfl⟩
  | cons c s ih =>
      obtain ⟨front, hfront⟩ := exists_encodeChar (hs c List.mem_cons_self)
      obtain ⟨rest, hrest⟩ := ih fun d hd => hs d (List.mem_cons_of_mem c hd)
      refine ⟨front ++ rest, ?_⟩
      rw [encode, hfront, hrest]
      rfl

/-- **Text without lone surrogates can be written**, on either platform.
Source: Python `pathlib.Path.write_text`
Kind: L -/
lemma Writable.exists_writeText {s : PyStr} (hs : Writable s) (windows : Bool) :
    ∃ data, writeText windows s = .ok data := by
  apply Writable.exists_encode
  intro c hc
  obtain ⟨d, hd, hline⟩ := List.mem_flatMap.1 hc
  split at hline
  · rcases List.mem_pair.1 hline with rfl | rfl <;> decide
  · obtain rfl := List.mem_singleton.1 hline
    exact hs c hd

/-! ## What was decoded can be encoded -/

/-- Numbers from `least` to `greatest` make no surrogate, whichever `owed` continuation bytes follow.
Source: Python `bytes.decode`
Kind: D -/
def NoSurrogate (least greatest owed : Nat) : Prop :=
  (greatest + 1) * 64 ^ owed ≤ 0xD800 ∨
    0xE000 ≤ least * 64 ^ owed ∧ (greatest + 1) * 64 ^ owed ≤ 0x110000

lemma NoSurrogate.mono {least greatest least' greatest' owed : Nat} (h : NoSurrogate least greatest owed)
    (hleast : least ≤ least') (hgreatest : greatest' ≤ greatest) : NoSurrogate least' greatest' owed := by
  have hlow : least * 64 ^ owed ≤ least' * 64 ^ owed := Nat.mul_le_mul_right _ hleast
  have hhigh : (greatest' + 1) * 64 ^ owed ≤ (greatest + 1) * 64 ^ owed := Nat.mul_le_mul_right _ (by omega)
  obtain hbelow | ⟨habove, hmax⟩ := h
  · exact .inl (hhigh.trans hbelow)
  · exact .inr ⟨habove.trans hlow, hhigh.trans hmax⟩

/-- One of the continuation bytes read.
Source: Python `bytes.decode`
Kind: L -/
lemma NoSurrogate.next {value owed : Nat} (h : NoSurrogate value value (owed + 1)) :
    NoSurrogate (value * 64) (value * 64 + 63) owed := by
  have hsucc : value * 64 + 63 + 1 = (value + 1) * 64 := by omega
  unfold NoSurrogate at h ⊢
  rw [pow_succ', ← mul_assoc, ← mul_assoc] at h
  rwa [hsucc]

/-- The character a decoder waits for will be no surrogate.
Source: Python `bytes.decode`
Kind: D -/
def Pending.NoSurrogate (p : Pending) : Prop :=
  Python.NoSurrogate (p.bits * 64 + (p.lo.toNat - 0x80)) (p.bits * 64 + (p.hi.toNat - 0x80)) p.owed

/-- Source: Python `bytes.decode`. Kind: L -/
lemma noSurrogate_of_lead {b : UInt8} {p : Pending} (h : lead b = .more p) : p.NoSurrogate := by
  have hlo : 0x80 ≤ p.lo.toNat := p.lo_ge
  unfold Pending.NoSurrogate NoSurrogate
  obtain ⟨hhi, hshort | hmiddle | hlong⟩ := lead_more h
  · obtain ⟨howed, -, hlast, hbits⟩ := hshort
    rw [howed, pow_zero]
    omega
  · obtain ⟨howed, -, hlast, hbits, -, hsurrogate⟩ := hmiddle
    rw [howed, pow_one]
    omega
  · obtain ⟨howed, -, hlast, hbits, hleast, hgreatest⟩ := hlong
    rw [howed]
    omega

/-- **Decoded bytes can be encoded**: the decoder makes no surrogates.
Source: Python `bytes.decode`
Kind: P -/
lemma writable_decodeFrom {state : Option Pending} (hstate : ∀ p, state = some p → p.NoSurrogate)
    (data : Bytes) : Writable (decodeFrom state data) := by
  have hreplacement : ¬ (0xD800 ≤ REPLACEMENT.val ∧ REPLACEMENT.val ≤ 0xDFFF) := by decide
  have hnone : ∀ p : Pending, none = some p → p.NoSurrogate := nofun
  have hcons {c : CodePoint} {s : PyStr} (hc : ¬ (0xD800 ≤ c.val ∧ c.val ≤ 0xDFFF)) (hs : Writable s) :
      Writable (c :: s) := List.forall_mem_cons.mpr ⟨hc, hs⟩
  induction data generalizing state with
  | nil =>
      cases state with
      | none => exact List.forall_mem_nil _
      | some p => exact List.forall_mem_singleton.mpr hreplacement
  | cons b data ih =>
      -- a byte read between two characters
      have hlead : Writable (decodeFrom none (b :: data)) := by
        rw [decodeFrom]
        cases hb : lead b with
        | char c =>
            have hascii : b.toNat < 0x80 := (lead_char hb).2
            rw [lead_of_ascii (lead_char hb).2] at hb
            obtain rfl := Lead.char.inj hb
            refine hcons ?_ (ih hnone)
            unfold chr
            rw [Fin.val_ofNat]
            omega
        | more p =>
            apply ih
            intro q hq
            obtain rfl := Option.some.inj hq
            exact noSurrogate_of_lead hb
        | bad => exact hcons hreplacement (ih hnone)
      cases state with
      | none => exact hlead
      | some p =>
          by_cases hb : p.lo ≤ b ∧ b ≤ p.hi
          · have hlo : p.lo.toNat ≤ b.toNat := hb.1
            have hhi : b.toNat ≤ p.hi.toNat := hb.2
            have hread : NoSurrogate (p.bits * 64 + (b.toNat - 0x80)) (p.bits * 64 + (b.toNat - 0x80)) p.owed :=
              NoSurrogate.mono (hstate p rfl) (by omega) (by omega)
            rw [decodeFrom, if_pos hb]
            rcases howed : p.owed with _ | owed
            · rw [howed, NoSurrogate, pow_zero] at hread
              refine hcons ?_ (ih hnone)
              unfold chr
              rw [Fin.val_ofNat]
              omega
            · rw [howed] at hread
              apply ih
              intro q hq
              obtain rfl := Option.some.inj hq
              simpa only [Pending.NoSurrogate, UInt8.reduceToNat, Nat.sub_self, Nat.reduceSub, Nat.add_zero] using
                hread.next
          · rw [decodeFrom_resync hb]
            exact hcons hreplacement hlead

lemma writable_decodeReplace (data : Bytes) : Writable (decodeReplace data) := writable_decodeFrom (by simp) data

/-! ## Reading -/

/-- Every line end read as a line feed.
Source: Python `io.IncrementalNewlineDecoder`
Kind: D -/
def universalNewlines : PyStr → PyStr
  | [] => []
  | [c] => [if c = CR then LF else c]
  | c :: d :: s =>
      if c = CR ∧ d = LF then LF :: universalNewlines s
      else (if c = CR then LF else c) :: universalNewlines (d :: s)

/-- `data.decode("utf-8")`: bytes that are no encoding are a `UnicodeDecodeError`, a `ValueError`.
Source: Python `bytes.decode`
Kind: D -/
def decodeStrict (data : Bytes) : Except PyExc PyStr :=
  match encode (decodeReplace data) with
  | .ok again => if again = data then .ok (decodeReplace data) else .error .valueError
  | .error _ => .error .valueError

/-- `path.read_text(encoding="utf-8")`.
Source: Python `pathlib.Path.read_text`
Kind: D -/
def readText (data : Bytes) : Except PyExc PyStr := (decodeStrict data).map universalNewlines

/-- Source: Python `str.encode`, `bytes.decode`. Kind: L -/
lemma decodeStrict_encode {s : PyStr} {data : Bytes} (h : encode s = .ok data) :
    decodeStrict data = .ok s := by
  unfold decodeStrict
  rw [decodeReplace_encode h, h]
  exact if_pos rfl

/-- A line end of the platform is read as a line feed.
Source: Python `io.IncrementalNewlineDecoder`
Kind: L -/
lemma universalNewlines_translateNewlines (windows : Bool) {s : PyStr} (hs : CR ∉ s) :
    universalNewlines (translateNewlines windows s) = s := by
  have plain : ∀ (c : CodePoint) (t : PyStr), c ≠ CR →
      universalNewlines (c :: t) = c :: universalNewlines t := by
    intro c t hc
    rcases t with _ | ⟨d, t⟩
    · show [if c = CR then LF else c] = [c]
      rw [if_neg hc]
    · rw [universalNewlines, if_neg fun h => hc h.1, if_neg hc]
  induction s with
  | nil => rfl
  | cons c s ih =>
      have hc : c ≠ CR := fun h => hs (by rw [h]; exact List.mem_cons_self)
      have hrest := ih fun h => hs (List.mem_cons_of_mem c h)
      unfold translateNewlines at hrest ⊢
      rw [List.flatMap_cons]
      split
      · next hline =>
          rw [hline.1]
          rw [List.cons_append, List.singleton_append, universalNewlines, if_pos ⟨rfl, rfl⟩, hrest]
      · rw [List.singleton_append, plain c _ hc, hrest]

/-- **A text without carriage returns is read back as it was written.**
Source: Python `pathlib.Path.write_text`, `read_text`
Kind: P -/
theorem readText_writeText {windows : Bool} {s : PyStr} {data : Bytes} (hs : CR ∉ s)
    (h : writeText windows s = .ok data) : readText data = .ok s := by
  unfold readText
  rw [decodeStrict_encode h]
  show Except.ok (universalNewlines (translateNewlines windows s)) = .ok s
  rw [universalNewlines_translateNewlines windows hs]

/-- An ASCII text can be written.
Source: Python `pathlib.Path.write_text`
Kind: L -/
lemma exists_writeText (windows : Bool) {s : PyStr} (hs : ∀ c ∈ s, c < 0x80) :
    ∃ data, writeText windows s = .ok data := by
  have hascii : ∀ c ∈ translateNewlines windows s, c < 0x80 := by
    intro c hc
    obtain ⟨d, hd, hc⟩ := List.mem_flatMap.mp hc
    split at hc
    · rcases List.mem_cons.mp hc with rfl | hc
      · decide
      · rw [List.mem_singleton.mp hc]
        decide
    · rw [List.mem_singleton.mp hc]
      exact hs d hd
  obtain ⟨data, hdata, -⟩ := encode_of_ascii hascii
  exact ⟨data, hdata⟩

end NetstackSuite.Python
