import NetstackSuite.Python.Codec

/-!
# Paths

`pathlib` without a file system, in both of its flavours: a path is its drive, its root and its parts; `parse`
reads it from a text, `str` prints it. `AbsPath` is an absolute path that is read back as it was printed
(`parse_str`), which is a property of its drive and root and of each part alone, so a part can be added at
its end or taken off there.
-/

namespace NetstackSuite.Python

/-- A path: `path.drive`, `path.root`, and the parts behind them.
Source: Python `pathlib.PurePath`
Kind: D -/
structure PurePath where
  drive : PyStr
  root : PyStr
  parts : List PyStr
  deriving DecidableEq

/-- The path with some parts more.
Source: Python `pathlib.PurePath.joinpath`
Kind: D -/
def PurePath.extend (p : PurePath) (parts : List PyStr) : PurePath := { p with parts := p.parts ++ parts }

/-- `path.parent`.
Source: Python `pathlib.PurePath.parent`
Kind: D -/
def PurePath.parent (p : PurePath) : PurePath := { p with parts := p.parts.dropLast }

lemma PurePath.extend_extend (p : PurePath) (parts more : List PyStr) :
    (p.extend parts).extend more = p.extend (parts ++ more) := by
  unfold extend
  rw [List.append_assoc]

/-- The parent of what a path was extended with.
Source: Python `pathlib.PurePath.parent`
Kind: L -/
@[simp] lemma PurePath.parent_extend (p : PurePath) (name : PyStr) : (p.extend [name]).parent = p := by
  unfold parent extend
  rw [List.dropLast_concat]

/-- A character of plain file names: an ASCII letter or digit, `-`, `_` or `.`.
Source: none: infrastructure
Kind: D -/
def isFileNameChar (c : CodePoint) : Bool :=
  (0x30 ≤ c && c ≤ 0x39) || (0x41 ≤ c && c ≤ 0x5A) || (0x61 ≤ c && c ≤ 0x7A) ||
    c = 0x2D || c = 0x5F || c = DOT

/-- A plain file name.
Source: none: infrastructure
Kind: D -/
def IsName (name : PyStr) : Prop := name ≠ [] ∧ name ≠ [DOT] ∧ name.all isFileNameChar = true

instance (name : PyStr) : Decidable (IsName name) := inferInstanceAs (Decidable (_ ∧ _ ∧ _))

lemma IsName.chars {name : PyStr} (h : IsName name) : ∀ c ∈ name, isFileNameChar c = true :=
  List.all_eq_true.mp h.2.2

/-- What the two flavours differ in, and that plain file names mean the same in both.
Source: Python `pathlib.PurePath.parser`
Kind: D -/
structure PathFlavour where
  sep : CodePoint
  altsep : Option CodePoint
  /-- Drive, root and rest of a text. -/
  splitroot : PyStr → PyStr × PyStr × PyStr
  /-- A root without a drive is not enough for an absolute path. -/
  needsDrive : Bool
  /-- The form in which two parts are compared. -/
  fold : PyStr → PyStr
  sep_special : isFileNameChar sep = false
  altsep_special : ∀ c, altsep = some c → isFileNameChar c = false
  splitroot_name : ∀ name, (∀ c ∈ name, isFileNameChar c = true) → splitroot name = ([], [], name)

/-! ## The two flavours -/

/-- Source: Python `posixpath.splitroot`. Kind: D -/
def posixSplitroot (p : PyStr) : PyStr × PyStr × PyStr :=
  if p.take 1 ≠ [SLASH] then ([], [], p)
  else if (p.drop 1).take 1 ≠ [SLASH] ∨ (p.drop 2).take 1 = [SLASH] then ([], p.take 1, p.drop 1)
  else ([], p.take 2, p.drop 2)

/-- `s.find(c, start)`.
Source: Python `str.find`
Kind: D -/
def findFrom (s : PyStr) (c : CodePoint) (start : Nat) : Option Nat :=
  ((s.drop start).findIdx? (· = c)).map (· + start)

/-- Of a text with backslashes only.
Source: Python `ntpath.splitroot`
Kind: D -/
def ntSplitroot (p : PyStr) : PyStr × PyStr × PyStr :=
  if p.take 1 = [Json.BACKSLASH] then
    if (p.drop 1).take 1 = [Json.BACKSLASH] then
      -- a share, `\\server\share`, or a device
      let start := if upperLatin1 (p.take 8) = text "\\\\?\\UNC\\" then 8 else 2
      match findFrom p Json.BACKSLASH start with
      | none => (p, [], [])
      | some index =>
        match findFrom p Json.BACKSLASH (index + 1) with
        | none => (p, [], [])
        | some index => (p.take index, (p.drop index).take 1, p.drop (index + 1))
    else ([], p.take 1, p.drop 1)
  else if (p.drop 1).take 1 = [COLON] then
    if (p.drop 2).take 1 = [Json.BACKSLASH] then (p.take 2, (p.drop 2).take 1, p.drop 3)
    else (p.take 2, [], p.drop 2)
  else ([], [], p)

/-- Plain file names have no character in front that a flavour looks for.
Source: none: infrastructure
Kind: L -/
lemma take_one_ne {name : PyStr} (h : ∀ c ∈ name, isFileNameChar c = true) {c : CodePoint}
    (hc : isFileNameChar c = false) : name.take 1 ≠ [c] := by
  intro htake
  have hmem : c ∈ name := List.mem_of_mem_take (htake ▸ List.mem_singleton_self c)
  rw [h c hmem] at hc
  cases hc

/-- Source: Python `pathlib.PurePosixPath`. Kind: D -/
def posix : PathFlavour where
  sep := SLASH
  altsep := none
  splitroot := posixSplitroot
  needsDrive := false
  fold := id
  sep_special := by decide
  altsep_special := nofun
  splitroot_name := by
    intro name hname
    rw [posixSplitroot, if_pos (take_one_ne hname (by decide))]

/-- `lower` is `str.lower`.
Source: Python `pathlib.PureWindowsPath`
Kind: D -/
def windowsFlavour (lower : PyStr → PyStr) : PathFlavour where
  sep := Json.BACKSLASH
  altsep := some SLASH
  splitroot := ntSplitroot
  needsDrive := true
  fold := lower
  sep_special := by decide
  altsep_special := by
    rintro c ⟨⟩
    decide
  splitroot_name := by
    intro name hname
    have htail : ∀ c ∈ name.drop 1, isFileNameChar c = true := fun c hc => hname c (List.mem_of_mem_drop hc)
    rw [ntSplitroot, if_neg (take_one_ne hname (by decide)), if_neg (take_one_ne htail (by decide))]

/-! ## Reading, printing, joining -/

namespace PathFlavour

variable (F : PathFlavour)

/-- `path.replace(altsep, sep)`, one character.
Source: Python `pathlib.PurePath._parse_path`
Kind: D -/
def toSep (c : CodePoint) : CodePoint := if F.altsep = some c then F.sep else c

/-- The root of a share that is named without one.
Source: Python `pathlib.PurePath._parse_path`
Kind: D -/
def shareRoot (drive root : PyStr) : PyStr :=
  let pieces := drive.splitOn F.sep
  if root = [] ∧ drive.head? = some F.sep ∧ drive.getLast? ≠ some F.sep ∧
      ((pieces.length = 4 ∧ pieces.getD 2 [] ∉ [[], text "?", text ".", text "?."]) ∨ pieces.length = 6) then
    [F.sep]
  else root

/-- `Path(t)`: empty parts and dots are dropped.
Source: Python `pathlib.PurePath._parse_path`
Kind: D -/
def parse (t : PyStr) : PurePath :=
  let (drive, root, rest) := F.splitroot (t.map F.toSep)
  { drive
    root := F.shareRoot drive root
    parts := (rest.splitOn F.sep).filter fun part => part ≠ [] ∧ part ≠ [DOT] }

/-- `str(path)`; a first part that would be read as a drive gets a dot in front.
Source: Python `pathlib.PurePath._format_parsed_parts`
Kind: D -/
def str (p : PurePath) : PyStr :=
  let tail := join [F.sep] p.parts
  if p.drive ≠ [] ∨ p.root ≠ [] then p.drive ++ p.root ++ tail
  else if (F.splitroot (p.parts.headD [])).1 ≠ [] then DOT :: F.sep :: tail
  else if tail = [] then [DOT]
  else tail

/-- `p / q`: a part that is absolute replaces what is in front of it.
Source: Python `posixpath.join`, `ntpath.join`
Kind: D -/
def truediv (p q : PurePath) : PurePath :=
  if q.root ≠ [] then
    if q.drive ≠ [] ∨ p.drive = [] then q else { q with drive := p.drive }
  else if q.drive ≠ [] ∧ F.fold q.drive ≠ F.fold p.drive then q
  else
    { drive := if q.drive ≠ [] then q.drive else p.drive
      root := p.root
      parts := p.parts ++ q.parts }

/-- Source: Python `pathlib.PurePath.is_absolute`. Kind: D -/
def isAbsolute (p : PurePath) : Bool := p.root ≠ [] && (p.drive ≠ [] || !F.needsDrive)

/-- `p == q`.
Source: Python `pathlib.PurePath.__eq__`
Kind: D -/
def Same (p q : PurePath) : Prop :=
  F.fold p.drive = F.fold q.drive ∧ p.root = q.root ∧ p.parts.map F.fold = q.parts.map F.fold

lemma Same.refl (p : PurePath) : F.Same p p := ⟨rfl, rfl, rfl⟩

/-- A part of a path that is read back by itself.
Source: Python `pathlib.PurePath._parse_path`
Kind: D -/
def IsPart (part : PyStr) : Prop := part ≠ [] ∧ part ≠ [DOT] ∧ ∀ c ∈ part, F.toSep c ≠ F.sep

variable {F}

lemma toSep_of_ne {c : CodePoint} (h : F.toSep c ≠ F.sep) : F.toSep c = c := by
  unfold toSep at h ⊢
  split at h
  · exact absurd rfl h
  · next halt => rw [if_neg halt]

lemma toSep_of_isFileNameChar {c : CodePoint} (h : isFileNameChar c = true) : F.toSep c = c ∧ c ≠ F.sep := by
  constructor
  · unfold toSep
    split
    · next halt =>
      rw [F.altsep_special c halt] at h
      cases h
    · rfl
  · rintro rfl
    rw [F.sep_special] at h
    cases h

/-- Plain file names are parts.
Source: none: infrastructure
Kind: L -/
lemma isPart_of_name {name : PyStr} (h : IsName name) : F.IsPart name := by
  refine ⟨h.1, h.2.1, ?_⟩
  intro c hc
  obtain ⟨hsame, hsep⟩ := toSep_of_isFileNameChar (F := F) (h.chars c hc)
  rwa [hsame]

lemma isPart_of_names {names : List PyStr} (h : ∀ name ∈ names, IsName name) : ∀ name ∈ names, F.IsPart name :=
  fun name hname => isPart_of_name (h name hname)

/-- The separators between parts are those of the text.
Source: Python `pathlib.PurePath._parse_path`
Kind: L -/
lemma splitOn_join {parts : List PyStr} (h : ∀ part ∈ parts, F.IsPart part) :
    ((join [F.sep] parts).splitOn F.sep).filter (fun part => part ≠ [] ∧ part ≠ [DOT]) = parts := by
  have hkeep : ∀ part ∈ parts, decide (part ≠ [] ∧ part ≠ [DOT]) = true := by
    intro part hpart
    exact decide_eq_true ⟨(h part hpart).1, (h part hpart).2.1⟩
  have hsep : ∀ part ∈ parts, F.sep ∉ part := by
    intro part hpart hmem
    apply (h part hpart).2.2 F.sep hmem
    exact toSep_of_ne ((h part hpart).2.2 F.sep hmem)
  rcases parts with _ | ⟨first, parts⟩
  · rfl
  · rw [join, List.splitOn_intercalate F.sep hsep (List.cons_ne_nil first parts)]
    exact List.filter_eq_self.mpr hkeep

/-- Parts have no alternative separators in them.
Source: Python `pathlib.PurePath._parse_path`
Kind: L -/
lemma map_toSep_join {parts : List PyStr} (h : ∀ part ∈ parts, F.IsPart part) :
    (join [F.sep] parts).map F.toSep = join [F.sep] parts := by
  have hsep : F.toSep F.sep = F.sep := by
    unfold toSep
    split <;> rfl
  induction parts with
  | nil => rfl
  | cons part parts ih =>
      obtain ⟨hpart, hparts⟩ := List.forall_mem_cons.mp h
      have hsame : part.map F.toSep = part := by
        rw [List.map_congr_left fun c hc => toSep_of_ne (hpart.2.2 c hc), List.map_id']
      by_cases hnil : parts = []
      · rw [hnil, join, List.intercalate_singleton]
        exact hsame
      · have ih := ih hparts
        rw [join] at ih ⊢
        rw [List.intercalate_cons_of_ne_nil hnil, List.map_append, List.map_append, hsame, ih, List.map_singleton,
          hsep]

/-- One part more.
Source: Python `str.join`
Kind: L -/
lemma join_concat (sep : PyStr) {parts : List PyStr} (h : parts ≠ []) (part : PyStr) :
    join sep (parts ++ [part]) = join sep parts ++ sep ++ part := by
  unfold join
  induction parts with
  | nil => exact absurd rfl h
  | cons first parts ih =>
      by_cases hnil : parts = []
      · rw [hnil, List.intercalate_singleton, List.singleton_append, List.intercalate_cons_cons,
          List.intercalate_singleton]
      · rw [List.cons_append, List.intercalate_cons_of_ne_nil (by simp), List.intercalate_cons_of_ne_nil hnil,
          ih hnil, ← List.append_assoc, ← List.append_assoc]

/-- The parts do not begin with a separator.
Source: Python `pathlib.PurePath._parse_path`
Kind: L -/
lemma head?_join_ne {parts : List PyStr} (h : ∀ part ∈ parts, F.IsPart part) :
    (join [F.sep] parts).head? ≠ some F.sep := by
  rcases parts with _ | ⟨_ | ⟨c, part⟩, parts⟩
  · rintro ⟨⟩
  · exact absurd rfl (h [] List.mem_cons_self).1
  · have hc : F.toSep c ≠ F.sep := (h (c :: part) List.mem_cons_self).2.2 c List.mem_cons_self
    have hhead : (join [F.sep] ((c :: part) :: parts)).head? = some c := by
      rw [join]
      by_cases hnil : parts = []
      · rw [hnil, List.intercalate_singleton]
        rfl
      · rw [List.intercalate_cons_of_ne_nil hnil]
        rfl
    rw [hhead]
    rintro ⟨⟩
    exact hc (toSep_of_ne hc)

/-- A plain file name is a path of its own.
Source: Python `pathlib.PurePath._parse_path`
Kind: L -/
lemma parse_name {name : PyStr} (h : IsName name) :
    F.parse name = { drive := [], root := [], parts := [name] } := by
  have hone : ∀ part ∈ [name], F.IsPart part := List.forall_mem_singleton.mpr (isPart_of_name h)
  have hmap := map_toSep_join hone
  have hsplit := splitOn_join hone
  rw [join, List.intercalate_singleton] at hmap hsplit
  have hroot : F.shareRoot [] [] = [] := by
    unfold PathFlavour.shareRoot
    apply if_neg
    rintro ⟨-, ⟨⟩, -⟩
  simp only [parse, hmap, F.splitroot_name name h.chars, hsplit, hroot]

/-- `p / name` has the name as its last part.
Source: Python `pathlib.PurePath.__truediv__`
Kind: L -/
lemma truediv_name (p : PurePath) {name : PyStr} (h : IsName name) :
    F.truediv p (F.parse name) = p.extend [name] := by
  rw [parse_name h]
  simp [truediv, PurePath.extend]

/-- Parts behind both paths do not matter.
Source: Python `pathlib.PurePath.__eq__`
Kind: L -/
lemma same_extend_iff {p q : PurePath} (parts : List PyStr) :
    F.Same (p.extend parts) (q.extend parts) ↔ F.Same p q := by
  unfold Same PurePath.extend
  rw [List.map_append, List.map_append, List.append_cancel_right_eq]

end PathFlavour

/-! ## Absolute paths -/

/-- An absolute path that is read back as it was printed: its drive and root are split off whatever follows
them, and its parts are parts.
Source: Python `pathlib.PurePath.is_absolute`
Kind: D -/
structure AbsPath (F : PathFlavour) where
  path : PurePath
  absolute : F.isAbsolute path = true
  plain : ∀ c ∈ path.drive ++ path.root, F.toSep c = c
  reads : ∀ rest : PyStr, rest.head? ≠ some F.sep →
    F.splitroot (path.drive ++ path.root ++ rest) = (path.drive, path.root, rest)
  isPart : ∀ part ∈ path.parts, F.IsPart part

namespace AbsPath

variable {F : PathFlavour} (p : AbsPath F)

lemma root_ne : p.path.root ≠ [] := by
  have h := p.absolute
  unfold PathFlavour.isAbsolute at h
  rw [Bool.and_eq_true] at h
  exact of_decide_eq_true h.1

/-- **An absolute path is read back as it was printed.**
Source: Python `pathlib.PurePath`
Kind: P -/
theorem parse_str : F.parse (F.str p.path) = p.path := by
  have hroot := p.root_ne
  have hstr : F.str p.path = p.path.drive ++ p.path.root ++ join [F.sep] p.path.parts := by
    rw [PathFlavour.str, if_pos (.inr hroot)]
  have hmap : (F.str p.path).map F.toSep = F.str p.path := by
    rw [hstr, List.map_append, PathFlavour.map_toSep_join p.isPart, List.map_congr_left p.plain, List.map_id']
  have hshare : F.shareRoot p.path.drive p.path.root = p.path.root := if_neg fun hnone => hroot hnone.1
  have hsplit := p.reads _ (PathFlavour.head?_join_ne p.isPart)
  rw [← hstr] at hsplit
  simp only [PathFlavour.parse, hmap, hsplit, hshare, PathFlavour.splitOn_join p.isPart]

/-- The same for an absolute path.
Source: Python `pathlib.PurePath.joinpath`
Kind: D -/
def extend (parts : List PyStr) (h : ∀ part ∈ parts, F.IsPart part) : AbsPath F where
  path := p.path.extend parts
  absolute := p.absolute
  plain := p.plain
  reads := p.reads
  isPart := List.forall_mem_append.mpr ⟨p.isPart, h⟩

/-- The path without its last parts, `path.parents[count - 1]`.
Source: Python `pathlib.PurePath.parents`
Kind: D -/
def up (count : Nat) : AbsPath F where
  path := { p.path with parts := p.path.parts.take (p.path.parts.length - count) }
  absolute := p.absolute
  plain := p.plain
  reads := p.reads
  isPart := fun part hpart => p.isPart part (List.mem_of_mem_take hpart)

end AbsPath

/-- A POSIX path from the root directory.
Source: Python `pathlib.PurePosixPath`
Kind: D -/
def posixPath (parts : List PyStr) (h : ∀ part ∈ parts, posix.IsPart part) : AbsPath posix where
  path := { drive := [], root := [SLASH], parts }
  absolute := rfl
  plain := fun _ _ => rfl
  reads := by
    intro rest hrest
    have htake : rest.take 1 ≠ [SLASH] := by
      rcases rest with _ | ⟨c, rest⟩
      · exact nofun
      · intro hc
        exact hrest (congrArg some (List.head_eq_of_cons_eq hc))
    change posixSplitroot (SLASH :: rest) = _
    rw [posixSplitroot, if_neg (fun hne => hne rfl), if_pos (.inl htake)]
    rfl
  isPart := h

/-- Source: Python `posixpath.splitroot`. Kind: L -/
lemma posixSplitroot_fst (p : PyStr) : (posixSplitroot p).1 = [] := by
  unfold posixSplitroot
  split
  · rfl
  · split <;> rfl

/-- Source: Python `pathlib.PurePosixPath.drive`. Kind: L -/
lemma AbsPath.posix_drive (p : AbsPath posix) : p.path.drive = [] := by
  have hsplit := congrArg Prod.fst (p.reads [] nofun)
  exact hsplit.symm.trans (posixSplitroot_fst _)

/-- The text of a POSIX path.
Source: Python `pathlib.PurePosixPath.__str__`
Kind: L -/
lemma posix_str {p : PurePath} (hdrive : p.drive = []) (hne : p.parts ≠ [])
    (h : ∀ part ∈ p.parts, posix.IsPart part) : posix.str p = p.root ++ join [SLASH] p.parts := by
  have hhead : (posix.splitroot (p.parts.headD [])).1 = [] := posixSplitroot_fst _
  have htail : join [posix.sep] p.parts ≠ [] := by
    intro hnil
    have hsplit := PathFlavour.splitOn_join h
    rw [hnil] at hsplit
    exact hne hsplit.symm
  unfold PathFlavour.str
  by_cases hroot : p.root = []
  · simp only [hdrive, hroot, hhead, htail, ne_eq, not_true_eq_false, or_self, if_false]
    rfl
  · rw [if_pos (.inr hroot), hdrive]
    rfl

/-- A Windows path on a drive.
Source: Python `pathlib.PureWindowsPath`
Kind: D -/
def drivePath (lower : PyStr → PyStr) (letter : CodePoint) (hletter : isFileNameChar letter = true)
    (parts : List PyStr) (h : ∀ part ∈ parts, (windowsFlavour lower).IsPart part) :
    AbsPath (windowsFlavour lower) where
  path := { drive := [letter, COLON], root := [Json.BACKSLASH], parts }
  absolute := rfl
  plain := by
    intro c hc
    rcases List.mem_cons.mp hc with rfl | hc
    · exact (PathFlavour.toSep_of_isFileNameChar hletter).1
    · rcases List.mem_pair.mp hc with rfl | rfl <;> rfl
  reads := by
    intro rest _
    have hfirst : letter ≠ Json.BACKSLASH := by
      rintro rfl
      cases hletter
    have htake : (letter :: COLON :: Json.BACKSLASH :: rest).take 1 ≠ [Json.BACKSLASH] :=
      fun heq => hfirst (List.head_eq_of_cons_eq heq)
    have hcolon : ((letter :: COLON :: Json.BACKSLASH :: rest).drop 1).take 1 = [COLON] := rfl
    have hroot : ((letter :: COLON :: Json.BACKSLASH :: rest).drop 2).take 1 = [Json.BACKSLASH] := rfl
    change ntSplitroot (letter :: COLON :: Json.BACKSLASH :: rest) = _
    rw [ntSplitroot, if_neg htake, if_pos hcolon, if_pos hroot]
    rfl
  isPart := h

end NetstackSuite.Python
