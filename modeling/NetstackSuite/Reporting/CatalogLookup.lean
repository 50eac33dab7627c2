import NetstackSuite.Reporting.Catalog
import NetstackSuite.Reporting.ReportTables

/-!
# Which node ids are joined to the catalog

`find_by_nodeid` normalises the separators of a node id, tries the exact node ids and then the part
behind the last `/`. The index of these tails is right if no tail holds a separator and no two entries
share one (`Catalog.WellFormed`, checked for `CATALOG` in `wellFormed_CATALOG`).

`catalog_join_iff` is the result: whatever stands before the node id of an entry, the entry is found
exactly if pytest appended no parametrization id; the tail of `…::test[id]` is no key, whatever `id` is.
-/

namespace NetstackSuite.Reporting

open NetstackSuite.Python

/-! ## Indexes built from a list -/

section Index

variable {κ ν : Type} [DecidableEq κ] {key : ν → κ} {l : List ν} {d : Dict κ ν} {k : κ} {v : ν}

/-- A key that no entry writes keeps its value.
Source: `src/catalog.py` `_BY_NODEID`, `_BY_SUFFIX`
Kind: L -/
lemma get_index_of_forall_ne (h : ∀ w ∈ l, key w ≠ k) :
    Dict.get (l.foldl (fun d w => Dict.set d (key w) w) d) k = Dict.get d k := by
  induction l generalizing d with
  | nil => rfl
  | cons w l ih =>
      rw [List.foldl_cons, ih fun w' hw' => h w' (List.mem_cons_of_mem _ hw')]
      exact Dict.get_set_of_ne d w (Ne.symm (h w List.mem_cons_self))

/-- What an index holds under a key is an entry with that key.
Source: `src/catalog.py` `_BY_NODEID`, `_BY_SUFFIX`
Kind: L -/
lemma mem_of_get_index
    (h : Dict.get (l.foldl (fun d w => Dict.set d (key w) w) d) k = some v) :
    v ∈ l ∧ key v = k ∨ Dict.get d k = some v := by
  induction l generalizing d with
  | nil => exact Or.inr h
  | cons w l ih =>
      rcases ih h with ⟨hv, hk⟩ | hd
      · exact Or.inl ⟨List.mem_cons_of_mem _ hv, hk⟩
      · rw [Dict.get_set] at hd
        split at hd
        · next hk =>
            obtain rfl := Option.some.inj hd
            exact Or.inl ⟨List.mem_cons_self, hk.symm⟩
        · exact Or.inr hd

/-- Under distinct keys every entry is found.
Source: `src/catalog.py` `_BY_NODEID`, `_BY_SUFFIX`
Kind: L -/
lemma get_index_of_mem (hnodup : (l.map key).Nodup) (hv : v ∈ l) :
    Dict.get (l.foldl (fun d w => Dict.set d (key w) w) d) (key v) = some v := by
  induction l generalizing d with
  | nil => exact absurd hv List.not_mem_nil
  | cons w l ih =>
      rw [List.map_cons, List.nodup_cons] at hnodup
      rw [List.foldl_cons]
      rcases List.mem_cons.mp hv with rfl | hv
      · rw [get_index_of_forall_ne, Dict.get_set_self]
        intro w hw heq
        exact hnodup.1 (heq ▸ List.mem_map_of_mem hw)
      · exact ih hnodup.2 hv

end Index

/-! ## Tails -/

/-- The part of an entry's node id behind the last separator.
Source: `src/catalog.py` `_BY_SUFFIX`
Kind: D -/
def TestSpec.tail (spec : TestSpec) : PyStr := spec.file ++ text ".py::" ++ spec.test

/-- `\`, the separator of Windows paths.
Source: none: infrastructure
Kind: D -/
def BACKSLASH : CodePoint := 0x5C

/-- `[`, which opens a parametrization id.
Source: none: infrastructure
Kind: D -/
def LBRACKET : CodePoint := 0x5B

/-- `]`, which closes it.
Source: none: infrastructure
Kind: D -/
def RBRACKET : CodePoint := 0x5D

/-- No tail holds a separator, none ends like a parametrized node id, and no two are the same.
Source: `src/catalog.py` `_BY_SUFFIX`
Kind: D -/
structure Catalog.WellFormed (catalog : Catalog) : Prop where
  flat : ∀ spec ∈ catalog, SLASH ∉ spec.tail ∧ BACKSLASH ∉ spec.tail
  plain : ∀ spec ∈ catalog, spec.tail.getLast? ≠ some RBRACKET
  distinct : (catalog.map TestSpec.tail).Nodup

/-- A node id with `/` for every separator.
Source: `src/catalog.py` `find_by_nodeid`
Kind: D -/
def normalized (nodeid : PyStr) : PyStr := nodeid.map fun c => if c = 0x5C then SLASH else c

/-- An entry's node id is its tail behind a directory.
Source: `src/catalog.py` `TestSpec.nodeid`
Kind: L -/
lemma nodeid_eq_tail (spec : TestSpec) : ∃ dir, spec.nodeid = dir ++ SLASH :: spec.tail := by
  have hpath : ∃ dir, spec.relPath = dir ++ SLASH :: (spec.file ++ text ".py") := by
    unfold TestSpec.relPath
    rcases spec.submodule with _ | _ | ⟨c, cs⟩
    · exact ⟨text "tests" ++ [SLASH] ++ spec.module, by simp [List.intercalate, List.intersperse]⟩
    · exact ⟨text "tests" ++ [SLASH] ++ spec.module, by simp [List.intercalate, List.intersperse]⟩
    · exact ⟨text "tests" ++ [SLASH] ++ spec.module ++ [SLASH] ++ (c :: cs),
        by simp [List.intercalate, List.intersperse]⟩
  obtain ⟨dir, hdir⟩ := hpath
  refine ⟨dir, ?_⟩
  have hsplit : text ".py::" = text ".py" ++ text "::" := by decide
  rw [TestSpec.nodeid, hdir, TestSpec.tail, hsplit]
  simp only [List.append_assoc, List.cons_append]

lemma tail_ne_nil (spec : TestSpec) : spec.tail ≠ [] := by
  have hmid : text ".py::" ≠ [] := by decide
  simp [TestSpec.tail, hmid]

/-- What stands behind the last `/`.
Source: Python `str.rsplit`
Kind: L -/
lemma rtakeWhile_append_slash (dir : PyStr) {tail : PyStr} (h : SLASH ∉ tail) :
    (dir ++ SLASH :: tail).rtakeWhile (fun c => c ≠ SLASH) = tail := by
  rw [List.rtakeWhile, List.reverse_append, List.reverse_cons, List.append_assoc,
    List.takeWhile_append_of_pos]
  · simp
  · intro c hc
    have : c ∈ tail := List.mem_reverse.mp hc
    exact decide_eq_true (fun heq => h (heq ▸ this))

namespace Catalog

variable {catalog : Catalog} {spec : TestSpec} {nodeid : PyStr}

/-- What the look-up returns is an entry whose tail the node id ends with.
Source: `src/catalog.py` `find_by_nodeid`
Kind: L -/
lemma lookup_eq_some (h : catalog.lookup nodeid = some spec) :
    spec ∈ catalog ∧ spec.tail <:+ normalized nodeid := by
  unfold lookup at h
  simp only at h
  split at h
  · next found hfound =>
      obtain rfl := Option.some.inj h
      rcases mem_of_get_index hfound with ⟨hmem, hkey⟩ | hnil
      · obtain ⟨dir, hdir⟩ := nodeid_eq_tail found
        refine ⟨hmem, dir ++ [SLASH], ?_⟩
        rw [normalized, ← hkey, hdir, List.append_assoc, List.singleton_append]
      · exact absurd hnil (by simp)
  · rcases mem_of_get_index h with ⟨hmem, hkey⟩ | hnil
    · refine ⟨hmem, ?_⟩
      change spec.tail = _ at hkey
      rw [hkey]
      exact List.rtakeWhile_suffix _ _
    · exact absurd hnil (by simp)

/-- Two entries with one tail are the same.
Source: `src/catalog.py` `_BY_SUFFIX`
Kind: L -/
lemma WellFormed.tail_inj (hwf : catalog.WellFormed) {spec spec' : TestSpec} (h : spec ∈ catalog)
    (h' : spec' ∈ catalog) (htail : spec.tail = spec'.tail) : spec = spec' :=
  List.inj_on_of_nodup_map hwf.distinct h h' htail

/-- A tail has no separator to normalise.
Source: `src/catalog.py` `find_by_nodeid`
Kind: L -/
lemma WellFormed.normalized_tail (hwf : catalog.WellFormed) (h : spec ∈ catalog) :
    normalized spec.tail = spec.tail := by
  refine (List.map_congr_left fun c hc => ?_).trans (List.map_id _)
  have hne : c ≠ 0x5C := by
    rintro rfl
    exact (hwf.flat spec h).2 hc
  simp [hne]

/-- **A node id that is an entry's behind a separator, or alone, is joined to that entry.**
Source: `src/catalog.py` `find_by_nodeid`
Kind: P -/
theorem WellFormed.lookup_of_dir (hwf : catalog.WellFormed) (h : spec ∈ catalog) (front : PyStr) :
    catalog.lookup (front ++ spec.nodeid) = some spec := by
  obtain ⟨dir, hdir⟩ := nodeid_eq_tail spec
  have hnorm : normalized (front ++ spec.nodeid) = normalized (front ++ dir) ++ SLASH :: spec.tail := by
    have htail := hwf.normalized_tail h
    unfold normalized at htail ⊢
    rw [hdir, ← List.append_assoc, List.map_append, List.map_cons, htail]
    rfl
  have hlast : (normalized (front ++ spec.nodeid)).rtakeWhile (fun c => c ≠ SLASH) = spec.tail := by
    rw [hnorm]
    exact rtakeWhile_append_slash _ (hwf.flat spec h).1
  unfold lookup
  simp only
  split
  · next found hfound =>
      rcases mem_of_get_index hfound with ⟨hmem, hkey⟩ | hnil
      · obtain ⟨dir', hdir'⟩ := nodeid_eq_tail found
        -- an exact match has the same tail, so it is the same entry
        have htail : found.tail = spec.tail := by
          rw [← hlast, normalized, ← hkey, hdir']
          exact (rtakeWhile_append_slash _ (hwf.flat found hmem).1).symm
        rw [hwf.tail_inj hmem h htail]
      · exact absurd hnil (by simp)
  · have hget := get_index_of_mem (d := []) hwf.distinct h
    rw [← hlast] at hget
    exact hget

/-- **No entry is found for a parametrized instance**, whatever its id.
Source: `src/catalog.py` `find_by_nodeid`
Kind: P -/
theorem WellFormed.lookup_bracketed (hwf : catalog.WellFormed) (front : PyStr) :
    catalog.lookup (front ++ [RBRACKET]) = none := by
  apply Option.eq_none_iff_forall_ne_some.mpr
  intro spec hfound
  obtain ⟨hmem, dir, hdir⟩ := lookup_eq_some hfound
  apply hwf.plain spec hmem
  have hlast : (dir ++ spec.tail).getLast? = some RBRACKET := by
    rw [hdir, normalized, List.map_append]
    exact List.getLast?_concat
  rwa [List.getLast?_append_of_ne_nil _ (tail_ne_nil spec)] at hlast

end Catalog

/-! ## The catalog's own tails -/

/-- The tails of a catalog's entries as lists of characters, which compare without decoding a string.
Source: `src/catalog.py` `CATALOG`
Kind: D -/
inductive Spelled : Catalog → List (List Char) → Prop
  | nil : Spelled [] []
  | cons {spec : TestSpec} {catalog : Catalog} {file test : List Char} {names : List (List Char)}
      (hfile : spec.file = text (String.ofList file))
      (htest : spec.test = text (String.ofList test)) (rest : Spelled catalog names) :
      Spelled (spec :: catalog) ((file ++ ['.', 'p', 'y', ':', ':'] ++ test) :: names)

lemma chr_toNat_injective : Function.Injective fun c : Char => chr c.toNat := by
  intro c d hcd
  have htext : text (String.ofList [c]) = text (String.ofList [d]) := by
    rw [text_spelled rfl, text_spelled rfl]
    exact congrArg (fun x => [x]) hcd
  exact List.singleton_injective (String.ofList_injective (text_inj.mp htext))

lemma Spelled.tails {catalog : Catalog} {names : List (List Char)} (h : Spelled catalog names) :
    catalog.map TestSpec.tail = names.map fun cs => cs.map fun c => chr c.toNat := by
  induction h with
  | nil => rfl
  | cons hfile htest _ ih =>
      have hmid : text ".py::" = ['.', 'p', 'y', ':', ':'].map fun c => chr c.toNat := rfl
      rw [List.map_cons, List.map_cons, ih, TestSpec.tail, hfile, htest, hmid, text_spelled rfl,
        text_spelled rfl, List.map_append, List.map_append]

/-- A catalog is well formed if the spellings of its tails are.
Source: `src/catalog.py` `_BY_SUFFIX`
Kind: L -/
lemma Spelled.wellFormed {catalog : Catalog} {names : List (List Char)} (h : Spelled catalog names)
    (hchars : ∀ cs ∈ names, '/' ∉ cs ∧ '\\' ∉ cs ∧ cs.getLast? ≠ some ']')
    (hnodup : (names.map List.reverse).Nodup) : catalog.WellFormed := by
  have hspelled : ∀ spec ∈ catalog, ∃ cs ∈ names, spec.tail = cs.map fun c => chr c.toNat := by
    intro spec hspec
    have hmem := List.mem_map_of_mem (f := TestSpec.tail) hspec
    rw [h.tails] at hmem
    obtain ⟨cs, hcs, heq⟩ := List.mem_map.mp hmem
    exact ⟨cs, hcs, heq.symm⟩
  constructor
  case flat =>
    intro spec hspec
    obtain ⟨cs, hcs, heq⟩ := hspelled spec hspec
    obtain ⟨hslash, hback, -⟩ := hchars cs hcs
    rw [heq]
    exact ⟨fun hmem => hslash ((List.mem_map_of_injective chr_toNat_injective).mp hmem),
      fun hmem => hback ((List.mem_map_of_injective chr_toNat_injective).mp hmem)⟩
  case plain =>
    intro spec hspec hlast
    obtain ⟨cs, hcs, heq⟩ := hspelled spec hspec
    rw [heq, List.getLast?_map, Option.map_eq_some_iff] at hlast
    obtain ⟨c, hc, hbracket⟩ := hlast
    have hclose : c = ']' := chr_toNat_injective hbracket
    exact (hchars cs hcs).2.2 (hclose ▸ hc)
  case distinct =>
    rw [h.tails]
    exact (List.Nodup.of_map _ hnodup).map (List.map_injective_iff.mpr chr_toNat_injective)

/-- **The shipped catalog is well formed.**
Source: `src/catalog.py` `CATALOG`
Kind: P -/
theorem wellFormed_CATALOG : CATALOG.WellFormed := by
  apply Spelled.wellFormed
  · unfold CATALOG
    dsimp only
    repeat (apply Spelled.cons; rfl; rfl)
    exact .nil
  · decide +kernel
  · decide +kernel

/-! ## Every form of a test's node id -/

/-- The separators of a path.
Source: `src/catalog.py` `find_by_nodeid`
Kind: D -/
inductive Separator
  | slash
  | backslash

/-- Source: `src/catalog.py` `find_by_nodeid`
Kind: D -/
def Separator.char : Separator → CodePoint
  | .slash => SLASH
  | .backslash => BACKSLASH

/-- What stands before a node id: nothing, or a path that ends in a separator.
Source: `src/catalog.py` `find_by_nodeid`
Kind: D -/
inductive PathPrefix
  | empty
  | dir (path : PyStr) (sep : Separator)

/-- Source: `src/catalog.py` `find_by_nodeid`
Kind: D -/
def PathPrefix.text : PathPrefix → PyStr
  | .empty => []
  | .dir path sep => path ++ [sep.char]

/-- What pytest appends to the node id of a parametrized test.
Source: `tests/tcp/syn/test_invalid_syn_flags.py` `pytest.mark.parametrize`
Kind: D -/
def paramText : Option PyStr → PyStr
  | none => []
  | some id => LBRACKET :: id ++ [RBRACKET]

/-- A node id is joined to an entry: it is found, and every failed or errored test of that node id has
a finding with the entry's clause and description.
Source: `src/catalog.py` `find_by_nodeid`, `src/reporting/report_data.py` `build_findings`
Kind: D -/
structure Joined (catalog : Catalog) (spec : TestSpec) (nodeid : PyStr) : Prop where
  found : catalog.lookup nodeid = some spec
  finding : ∀ result : TestRunResult,
    (∀ t ∈ result.tests, isProblem t = true → t.nodeid.isStr = true) →
    ∃ findings, buildFindings catalog result = .ok findings ∧
      (∀ t ∈ result.tests, isProblem t = true → t.nodeid = .str nodeid →
        ∃ f ∈ findings, f.event = t) ∧
      ∀ f ∈ findings, f.event.nodeid = .str nodeid →
        f.rfc = spec.rfc ∧ f.description = spec.description

/-- What the look-up finds, the findings carry.
Source: `src/reporting/report_data.py` `build_findings`
Kind: L -/
lemma Joined.of_found {catalog : Catalog} {spec : TestSpec} {nodeid : PyStr}
    (h : catalog.lookup nodeid = some spec) : Joined catalog spec nodeid := by
  refine ⟨h, ?_⟩
  intro result hstr
  refine ⟨_, buildFindings_eq_ok hstr, ?_, ?_⟩
  · intro t ht hproblem _
    exact ⟨_, List.mem_map_of_mem (mem_sortedProblems.mpr ⟨ht, hproblem⟩), rfl⟩
  · intro f hf hid
    obtain ⟨t, -, rfl⟩ := List.mem_map.mp hf
    have hspec : catalog.lookup (nodeidText t.nodeid) = some spec := by
      rw [show t.nodeid = .str nodeid from hid]
      exact h
    simp only [Finding.rfc, Finding.description, hspec, and_self]

/-- **A catalogued test is joined to its entry exactly if its node id carries no parametrization id**,
whatever path stands before it and whatever the id is.
Source: `src/catalog.py` `find_by_nodeid`, `src/reporting/report_data.py` `build_findings`
Kind: P -/
theorem catalog_join_iff (i : Fin CATALOG.length) (front : PathPrefix) (id : Option PyStr) :
    Joined CATALOG (CATALOG.get i) (front.text ++ (CATALOG.get i).nodeid ++ paramText id) ↔
      id = none := by
  have hmem : CATALOG.get i ∈ CATALOG := List.get_mem CATALOG i
  constructor
  · intro hjoined
    rcases id with _ | id
    · rfl
    · have hnone : CATALOG.lookup (front.text ++ (CATALOG.get i).nodeid ++ paramText (some id)) =
          none := by
        rw [paramText, ← List.append_assoc]
        exact wellFormed_CATALOG.lookup_bracketed _
      exact absurd (hnone.symm.trans hjoined.found) (by simp)
  · rintro rfl
    apply Joined.of_found
    rw [paramText, List.append_nil]
    exact wellFormed_CATALOG.lookup_of_dir hmem front.text

/-- The node id `…/test_invalid_syn_flags.py::test_contradictory_flag_combination_…[SF-syn_fin]` of
this repository's suite is joined to no entry.
Source: `tests/tcp/syn/test_invalid_syn_flags.py`
Kind: P -/
theorem catalog_misses_syn_fin :
    (CATALOG.get ⟨32, by decide⟩).test =
        text "test_contradictory_flag_combination_does_not_establish_connection" ∧
      ¬ Joined CATALOG (CATALOG.get ⟨32, by decide⟩)
        (PathPrefix.empty.text ++ (CATALOG.get ⟨32, by decide⟩).nodeid ++
          paramText (some (text "SF-syn_fin"))) := by
  refine ⟨rfl, ?_⟩
  intro hjoined
  have hfound := hjoined.found
  rw [paramText, ← List.append_assoc, wellFormed_CATALOG.lookup_bracketed] at hfound
  exact absurd hfound (by simp)

end NetstackSuite.Reporting
