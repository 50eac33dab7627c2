import NetstackSuite.Python.JsonDumps

/-!
# `json.dumps` with an indentation

The encoder in both its layouts: on one line, which is `dumps` again (`dumpsWith_none`), and with
every element and member on a line of its own, as `indent=2` asks for. Scalars are written the same way
in both.

Either text is printable ASCII and line feeds (`plainText_dumpsWith`), so a text file of any encoding
in use holds it unchanged.
-/

namespace NetstackSuite.Python

namespace Json

/-! ## The layout -/

/-- What stands before an element: a new line and its indentation, nothing in the compact layout.
Source: Python `json.encoder._make_iterencode`
Kind: D -/
def newlineIndent (indent : Option Nat) (level : Nat) : PyStr :=
  match indent with
  | none => []
  | some width => LF :: List.replicate (width * level) 0x20

/-- What stands between two elements, up to the new line.
Source: Python `json.JSONEncoder`
Kind: D -/
def itemSeparator (indent : Option Nat) : PyStr :=
  match indent with
  | none => text ", "
  | some _ => text ","

mutual

/-- `json.dumps(v, indent=indent)`, `level` containers deep; `depth` is how many more containers the
recursion limit admits.
Source: Python `json.dumps`, `json.encoder._make_iterencode`
Kind: D -/
def dumpsWith (indent : Option Nat) (level depth : Nat) : Json → Except PyExc PyStr
  | .null => dumps depth .null
  | .bool b => dumps depth (.bool b)
  | .int i => dumps depth (.int i)
  | .float x => dumps depth (.float x)
  | .str s => dumps depth (.str s)
  | .list xs =>
      match depth with
      | 0 => .error .recursionError
      | depth + 1 =>
          if xs.isEmpty then .ok (text "[]")
          else
            (dumpsElementsWith indent (level + 1) depth xs).map fun s =>
              text "[" ++ newlineIndent indent (level + 1) ++ s ++ newlineIndent indent level ++
                text "]"
  | .dict kvs =>
      match depth with
      | 0 => .error .recursionError
      | depth + 1 =>
          if kvs.isEmpty then .ok (text "\x7b\x7d")
          else
            (dumpsMembersWith indent (level + 1) depth kvs).map fun s =>
              text "\x7b" ++ newlineIndent indent (level + 1) ++ s ++ newlineIndent indent level ++
                text "\x7d"

/-- The elements of an array.
Source: Python `json.encoder._make_iterencode`, `_iterencode_list`
Kind: D -/
def dumpsElementsWith (indent : Option Nat) (level depth : Nat) : List Json → Except PyExc PyStr
  | [] => .ok []
  | v :: vs => do
      let s ← dumpsWith indent level depth v
      let rest ← dumpsElementsWith indent level depth vs
      return if vs.isEmpty then s else s ++ itemSeparator indent ++ newlineIndent indent level ++ rest

/-- The members of an object.
Source: Python `json.encoder._make_iterencode`, `_iterencode_dict`
Kind: D -/
def dumpsMembersWith (indent : Option Nat) (level depth : Nat) :
    List (PyStr × Json) → Except PyExc PyStr
  | [] => .ok []
  | (k, v) :: kvs => do
      let s ← dumpsWith indent level depth v
      let rest ← dumpsMembersWith indent level depth kvs
      let member := quoted k ++ text ": " ++ s
      return if kvs.isEmpty then member
        else member ++ itemSeparator indent ++ newlineIndent indent level ++ rest

end

mutual

/-- **The compact layout is the encoder's default.**
Source: Python `json.dumps`
Kind: P -/
theorem dumpsWith_none (level depth : Nat) : ∀ v : Json, dumpsWith none level depth v = dumps depth v
  | .null | .bool _ | .int _ | .float _ | .str _ => by rw [dumpsWith]
  | .list xs => by
      rcases depth with _ | depth
      · rw [dumpsWith, dumps]
      · rw [dumpsWith, dumps]
        rcases xs with _ | ⟨x, xs⟩
        · rfl
        · simp only [List.isEmpty_cons, Bool.false_eq_true, if_false, newlineIndent, List.append_nil]
          rw [dumpsElementsWith_none]
  | .dict kvs => by
      rcases depth with _ | depth
      · rw [dumpsWith, dumps]
      · rw [dumpsWith, dumps]
        rcases kvs with _ | ⟨kv, kvs⟩
        · rfl
        · simp only [List.isEmpty_cons, Bool.false_eq_true, if_false, newlineIndent, List.append_nil]
          rw [dumpsMembersWith_none]

/-- Source: Python `json.dumps`. Kind: L -/
theorem dumpsElementsWith_none (level depth : Nat) :
    ∀ vs : List Json, dumpsElementsWith none level depth vs = dumpsElements depth vs
  | [] => by rw [dumpsElementsWith, dumpsElements]
  | v :: vs => by
      rw [dumpsElementsWith, dumpsElements, dumpsWith_none level depth v,
        dumpsElementsWith_none level depth vs]
      simp only [itemSeparator, newlineIndent, List.append_nil]

/-- Source: Python `json.dumps`. Kind: L -/
theorem dumpsMembersWith_none (level depth : Nat) :
    ∀ kvs : List (PyStr × Json), dumpsMembersWith none level depth kvs = dumpsMembers depth kvs
  | [] => by rw [dumpsMembersWith, dumpsMembers]
  | (k, v) :: kvs => by
      rw [dumpsMembersWith, dumpsMembers, dumpsWith_none level depth v,
        dumpsMembersWith_none level depth kvs]
      simp only [itemSeparator, newlineIndent, List.append_nil]

end

/-! ## The characters of the text -/

/-- Printable ASCII and line feeds.
Source: Python `json.encoder.ESCAPE_ASCII`
Kind: D -/
def PlainText (s : PyStr) : Prop := ∀ c ∈ s, c = LF ∨ 0x20 ≤ c ∧ c ≤ 0x7E

lemma PlainText.append {s t : PyStr} (hs : PlainText s) (ht : PlainText t) : PlainText (s ++ t) :=
  List.forall_mem_append.mpr ⟨hs, ht⟩

/-- Source: none: infrastructure. Kind: L -/
lemma plainText_of_printable {s : PyStr} (hs : PrintableAscii s) : PlainText s :=
  fun c hc => Or.inr (hs c hc)

lemma plainText_newlineIndent (indent : Option Nat) (level : Nat) :
    PlainText (newlineIndent indent level) := by
  intro c hc
  unfold newlineIndent at hc
  rcases indent with _ | width
  · cases hc
  · rcases List.mem_cons.mp hc with hnewline | hblank
    · exact Or.inl hnewline
    · right
      rw [List.eq_of_mem_replicate hblank]
      decide

/-- What stands between brackets, indented, is plain if the brackets and it are.
Source: none: infrastructure
Kind: L -/
lemma PlainText.between {opening s closing : PyStr} (hs : PlainText s) (hopen : PlainText opening)
    (hclose : PlainText closing) (indent : Option Nat) (level : Nat) :
    PlainText (opening ++ newlineIndent indent (level + 1) ++ s ++ newlineIndent indent level ++ closing) := by
  apply PlainText.append _ hclose
  apply PlainText.append _ (plainText_newlineIndent indent level)
  apply PlainText.append _ hs
  exact hopen.append (plainText_newlineIndent indent (level + 1))

lemma plainText_itemSeparator (indent : Option Nat) : PlainText (itemSeparator indent) := by
  apply plainText_of_printable
  rcases indent with _ | width
  · show PrintableAscii (text ", ")
    decide
  · show PrintableAscii (text ",")
    decide

mutual

/-- **The text of a value is printable ASCII and line feeds.**
Source: Python `json.dumps`
Kind: P -/
theorem plainText_dumpsWith (indent : Option Nat) (level depth : Nat) :
    ∀ (v : Json) (t : PyStr), dumpsWith indent level depth v = .ok t → PlainText t
  | .null, t, h | .bool _, t, h | .int _, t, h | .float _, t, h | .str _, t, h => by
      rw [dumpsWith] at h
      exact plainText_of_printable (printableAscii_dumps depth _ t h)
  | .list xs, t, h => by
      have hopen : PlainText (text "[") := plainText_of_printable (by decide)
      have hclose : PlainText (text "]") := plainText_of_printable (by decide)
      rcases depth with _ | depth
      · cases h
      · rw [dumpsWith] at h
        split at h
        · obtain rfl := Except.ok.inj h
          exact plainText_of_printable (by decide)
        · obtain ⟨s, hs, rfl⟩ := map_eq_ok.mp h
          have hbody := plainText_dumpsElementsWith indent (level + 1) depth xs s hs
          exact hbody.between hopen hclose indent level
  | .dict kvs, t, h => by
      have hopen : PlainText (text "\x7b") := plainText_of_printable (by decide)
      have hclose : PlainText (text "\x7d") := plainText_of_printable (by decide)
      rcases depth with _ | depth
      · cases h
      · rw [dumpsWith] at h
        split at h
        · obtain rfl := Except.ok.inj h
          exact plainText_of_printable (by decide)
        · obtain ⟨s, hs, rfl⟩ := map_eq_ok.mp h
          have hbody := plainText_dumpsMembersWith indent (level + 1) depth kvs s hs
          exact hbody.between hopen hclose indent level

/-- Source: Python `json.dumps`. Kind: L -/
theorem plainText_dumpsElementsWith (indent : Option Nat) (level depth : Nat) :
    ∀ (vs : List Json) (t : PyStr), dumpsElementsWith indent level depth vs = .ok t → PlainText t
  | [], t, h => by
      obtain rfl := Except.ok.inj h
      exact nofun
  | v :: vs, t, h => by
      rw [dumpsElementsWith] at h
      obtain ⟨s, hs, h⟩ := bind_eq_ok.mp h
      obtain ⟨rest, hrest, h⟩ := bind_eq_ok.mp h
      obtain rfl := Except.ok.inj h
      have hfirst := plainText_dumpsWith indent level depth v s hs
      split
      · exact hfirst
      · exact ((hfirst.append (plainText_itemSeparator _)).append (plainText_newlineIndent _ _)).append
          (plainText_dumpsElementsWith indent level depth vs rest hrest)

/-- Source: Python `json.dumps`. Kind: L -/
theorem plainText_dumpsMembersWith (indent : Option Nat) (level depth : Nat) :
    ∀ (kvs : List (PyStr × Json)) (t : PyStr),
      dumpsMembersWith indent level depth kvs = .ok t → PlainText t
  | [], t, h => by
      obtain rfl := Except.ok.inj h
      exact nofun
  | (k, v) :: kvs, t, h => by
      have hcolon : PlainText (text ": ") := plainText_of_printable (by decide)
      rw [dumpsMembersWith] at h
      obtain ⟨s, hs, h⟩ := bind_eq_ok.mp h
      obtain ⟨rest, hrest, h⟩ := bind_eq_ok.mp h
      obtain rfl := Except.ok.inj h
      have hfirst := ((plainText_of_printable (printableAscii_quoted k)).append hcolon).append
        (plainText_dumpsWith indent level depth v s hs)
      split
      · exact hfirst
      · exact ((hfirst.append (plainText_itemSeparator _)).append (plainText_newlineIndent _ _)).append
          (plainText_dumpsMembersWith indent level depth kvs rest hrest)

end

/-! ## What is refused, and what is not -/

/-- What the encoder raises: an integer is too long to print, or the containers are nested too deep.
Source: Python `json.dumps`
Kind: D -/
def IsRefusal (e : PyExc) : Prop := e = .valueError ∨ e = .recursionError

mutual

/-- **What `json.dumps` raises.**
Source: Python `json.dumps`
Kind: P -/
theorem dumpsWith_error (indent : Option Nat) (level depth : Nat) :
    ∀ (v : Json) (e : PyExc), dumpsWith indent level depth v = .error e → IsRefusal e
  | .null, e, h | .bool _, e, h | .str _, e, h => by
      rw [dumpsWith, dumps] at h
      cases h
  | .float _, e, h => by
      rw [dumpsWith, dumps] at h
      cases h
  | .int i, e, h => by
      rw [dumpsWith, dumps] at h
      unfold intRepr at h
      simp only at h
      split at h
      · exact Or.inl (Except.error.inj h).symm
      · cases h
  | .list xs, e, h => by
      rcases depth with _ | depth
      · exact Or.inr (Except.error.inj h).symm
      · rw [dumpsWith] at h
        split at h
        · cases h
        · exact dumpsElementsWith_error indent (level + 1) depth xs e (map_eq_error.mp h)
  | .dict kvs, e, h => by
      rcases depth with _ | depth
      · exact Or.inr (Except.error.inj h).symm
      · rw [dumpsWith] at h
        split at h
        · cases h
        · exact dumpsMembersWith_error indent (level + 1) depth kvs e (map_eq_error.mp h)

/-- Source: Python `json.dumps`. Kind: L -/
theorem dumpsElementsWith_error (indent : Option Nat) (level depth : Nat) :
    ∀ (vs : List Json) (e : PyExc), dumpsElementsWith indent level depth vs = .error e → IsRefusal e
  | [], e, h => by cases h
  | v :: vs, e, h => by
      rw [dumpsElementsWith] at h
      rcases bind_eq_error.mp h with h | ⟨s, -, h⟩
      · exact dumpsWith_error indent level depth v e h
      · rcases bind_eq_error.mp h with h | ⟨rest, -, h⟩
        · exact dumpsElementsWith_error indent level depth vs e h
        · cases h

/-- Source: Python `json.dumps`. Kind: L -/
theorem dumpsMembersWith_error (indent : Option Nat) (level depth : Nat) :
    ∀ (kvs : List (PyStr × Json)) (e : PyExc),
      dumpsMembersWith indent level depth kvs = .error e → IsRefusal e
  | [], e, h => by cases h
  | (k, v) :: kvs, e, h => by
      rw [dumpsMembersWith] at h
      rcases bind_eq_error.mp h with h | ⟨s, -, h⟩
      · exact dumpsWith_error indent level depth v e h
      · rcases bind_eq_error.mp h with h | ⟨rest, -, h⟩
        · exact dumpsMembersWith_error indent level depth kvs e h
        · cases h

end

/-- Elements that can be written are written in an array.
Source: Python `json.dumps`
Kind: L -/
lemma exists_dumpsElementsWith {indent : Option Nat} {level depth : Nat} {vs : List Json}
    (h : ∀ v ∈ vs, ∃ s, dumpsWith indent level depth v = .ok s) :
    ∃ t, dumpsElementsWith indent level depth vs = .ok t := by
  induction vs with
  | nil => exact ⟨[], rfl⟩
  | cons v vs ih =>
      obtain ⟨⟨s, hs⟩, hvs⟩ := List.forall_mem_cons.mp h
      obtain ⟨rest, hrest⟩ := ih hvs
      rw [dumpsElementsWith, hs, hrest]
      exact ⟨_, rfl⟩

/-- Members that can be written are written in an object.
Source: Python `json.dumps`
Kind: L -/
lemma exists_dumpsMembersWith {indent : Option Nat} {level depth : Nat} {kvs : List (PyStr × Json)}
    (h : ∀ kv ∈ kvs, ∃ s, dumpsWith indent level depth kv.2 = .ok s) :
    ∃ t, dumpsMembersWith indent level depth kvs = .ok t := by
  induction kvs with
  | nil => exact ⟨[], rfl⟩
  | cons kv kvs ih =>
      obtain ⟨⟨s, hs⟩, hkvs⟩ := List.forall_mem_cons.mp h
      obtain ⟨rest, hrest⟩ := ih hkvs
      obtain ⟨k, v⟩ := kv
      rw [dumpsMembersWith, hs, hrest]
      exact ⟨_, rfl⟩

/-- A container whose elements can be written one level less can be written.
Source: Python `json.dumps`
Kind: L -/
lemma exists_dumpsWith_list {indent : Option Nat} {level depth : Nat} {vs : List Json}
    (h : ∀ v ∈ vs, ∃ s, dumpsWith indent (level + 1) depth v = .ok s) :
    ∃ t, dumpsWith indent level (depth + 1) (.list vs) = .ok t := by
  obtain ⟨s, hs⟩ := exists_dumpsElementsWith h
  rw [dumpsWith, hs]
  split
  · exact ⟨_, rfl⟩
  · exact ⟨_, rfl⟩

/-- Source: Python `json.dumps`. Kind: L -/
lemma exists_dumpsWith_dict {indent : Option Nat} {level depth : Nat} {kvs : List (PyStr × Json)}
    (h : ∀ kv ∈ kvs, ∃ s, dumpsWith indent (level + 1) depth kv.2 = .ok s) :
    ∃ t, dumpsWith indent level (depth + 1) (.dict kvs) = .ok t := by
  obtain ⟨s, hs⟩ := exists_dumpsMembersWith h
  rw [dumpsWith, hs]
  split
  · exact ⟨_, rfl⟩
  · exact ⟨_, rfl⟩

end Json

end NetstackSuite.Python
