import NetstackSuite.Plotting.Metrics
import NetstackSuite.Runner.Parse

/-!
# The two record formats, read off the parsers

Which records the parsers of `NetstackSuite.Runner.Parse` make an event of, which they ignore and on which they
raise, as conditions on the record's fields (`carriesVerdict`, `readable`, `acceptedPacket`); and which
records are well formed (`wellFormedReport`, `wellFormedPacket`), which asks more: every field has its
JSON type. `parseReport_of_carries` and `packetEventOf_of_accepted` connect the two.
-/

namespace NetstackSuite.Runner

open NetstackSuite.Python NetstackSuite.Reporting NetstackSuite.Plotting

/-! ## Report records -/

section

variable (data : List (PyStr × Json))

/-- `data.get("outcome", "")`.
Source: `src/runner.py` `parse_report_log_line`
Kind: D -/
def reportOutcome : Json := Json.getD data (text "outcome") (.str [])

/-- `data.get("nodeid", "<unknown>")`.
Source: `src/runner.py` `parse_report_log_line`
Kind: D -/
def reportNodeid : Json := Json.getD data (text "nodeid") (.str (text "<unknown>"))

/-- `data.get("duration", 0.0)`.
Source: `src/runner.py` `parse_report_log_line`
Kind: D -/
def reportDuration : Json := Json.getD data (text "duration") (.float (PyFloat.zero false))

/-- `data.get("keywords", {})`.
Source: `src/runner.py` `parse_report_log_line`
Kind: D -/
def reportKeywords : Json := Json.getD data (text "keywords") (.dict [])

/-- Is the report of the given phase?
Source: `src/runner.py` `parse_report_log_line`
Kind: D -/
def isPhase (phase : String) : Bool := (Json.get data (text "when")).eqStr (text phase)

/-- Does the report decide the test? A passing setup or teardown does not.
Source: `src/runner.py` `parse_report_log_line`
Kind: D -/
def carriesVerdict : Bool :=
  (Json.get data (text "$report_type")).eqStr (text "TestReport") &&
    (isPhase data "call" ||
      isPhase data "setup" && !(reportOutcome data).eqStr (text "passed") ||
      isPhase data "teardown" && (reportOutcome data).eqStr (text "failed"))

/-- The outcome a deciding report gives the test.
Source: `src/runner.py` `parse_report_log_line`
Kind: D -/
def verdict : TestOutcome :=
  if isPhase data "call" && (reportOutcome data).eqStr (text "passed") then .passed
  else if isPhase data "call" && (reportOutcome data).eqStr (text "failed") then .failed
  else if !isPhase data "teardown" && (reportOutcome data).eqStr (text "skipped") then .skipped
  else .error

/-- Can the message be extracted? A `reprcrash` is falsy or an object.
Source: `src/runner.py` `_extract_message`
Kind: D -/
def readableLongrepr : Bool :=
  match Json.get data (text "longrepr") with
  | .dict kvs =>
      match Json.get kvs (text "reprcrash") with
      | .dict _ => true
      | crash => !crash.truthy
  | _ => true

/-- Can the markers be selected? The keywords are iterable, and their elements hashable.
Source: `src/runner.py` `parse_report_log_line`
Kind: D -/
def readableKeywords : Bool :=
  match reportKeywords data with
  | .str _ | .dict _ => true
  | .list ks => ks.all fun k => k.hashKey.isSome
  | _ => false

/-- Can a deciding report be parsed?
Source: `src/runner.py` `parse_report_log_line`
Kind: D -/
def parses : Bool :=
  (!isPhase data "call" || (reportOutcome data).hashKey.isSome) &&
    (verdict data = .passed || readableLongrepr data) && readableKeywords data

/-- Can a deciding report be parsed, and its nodeid be looked up?
Source: `src/runner.py` `parse_report_log_line`, `drain_test_events`
Kind: D -/
def readable : Bool := parses data && (reportNodeid data).hashKey.isSome

/-- Is the `longrepr` one that pytest writes?
Source: `src/runner.py` `_extract_message`
Kind: D -/
def wellFormedLongrepr : Bool :=
  match Json.get data (text "longrepr") with
  | .null | .str _ | .list _ => true
  | .dict kvs =>
      match Json.get kvs (text "reprcrash") with
      | .null => true
      | .dict crash =>
          Json.get crash (text "message") = .null || (Json.get crash (text "message")).isStr
      | _ => false
  | _ => false

/-- Is the value an object?
Source: none: infrastructure
Kind: D -/
def isDict : Json → Bool
  | .dict _ => true
  | _ => false

/-- A test report whose fields have their JSON types.
Source: `src/reporting/models.py` `TestEvent`, `src/runner.py` `parse_report_log_line`
Kind: D -/
def wellFormedReport : Bool :=
  (Json.get data (text "$report_type")).eqStr (text "TestReport") && (reportNodeid data).isStr &&
    (reportOutcome data).isStr && isDict (reportKeywords data) && (reportDuration data).isNumber &&
    wellFormedLongrepr data

end

/-! ## What the report parser does with a record -/

variable {R : Runtime} {data : List (PyStr × Json)}

lemma eqStr_iff {v : Json} {s : PyStr} : v.eqStr s = true ↔ v = .str s := by
  cases v <;> simp [Json.eqStr]

/-- A value equals at most one string.
Source: none: infrastructure
Kind: L -/
lemma eqStr_eq_false {v : Json} {s t : PyStr} (h : v.eqStr s = true) (hne : s ≠ t) :
    v.eqStr t = false := by
  rw [eqStr_iff.mp h]
  simpa [Json.eqStr] using hne

lemma isSome_hashKey_of_isStr {v : Json} (h : v.isStr = true) : v.hashKey.isSome = true := by
  obtain ⟨s, rfl⟩ := Json.isStr_iff.mp h
  rfl

/-- A report is of one phase at most.
Source: `src/runner.py` `parse_report_log_line`
Kind: L -/
lemma isPhase_eq_false {p q : String} (h : isPhase data p = true) (hne : text p ≠ text q) :
    isPhase data q = false := eqStr_eq_false h hne

/-- The phases, in the order the parser asks for them.
Source: `src/runner.py` `parse_report_log_line`
Kind: L -/
lemma phaseOutcome_eq (data : List (PyStr × Json)) :
    phaseOutcome (Json.get data (text "when")) (reportOutcome data) =
      if isPhase data "call" then (callOutcome (reportOutcome data)).map some
      else if isPhase data "setup" then
        if (reportOutcome data).eqStr (text "passed") then .ok none
        else if (reportOutcome data).eqStr (text "skipped") then .ok (some .skipped)
        else .ok (some .error)
      else if isPhase data "teardown" then
        if (reportOutcome data).eqStr (text "failed") then .ok (some .error) else .ok none
      else .ok none := by
  unfold phaseOutcome isPhase
  split
  · cases callOutcome (reportOutcome data) <;> rfl
  · rfl

/-- A report that decides nothing is ignored, whatever else is in it.
Source: `src/runner.py` `parse_report_log_line`
Kind: P -/
lemma parseReport_of_not_carries (h : carriesVerdict data = false) :
    parseReport R data = .ok none := by
  unfold parseReport
  by_cases htype : (Json.get data (text "$report_type")).eqStr (text "TestReport") = false
  · rw [if_pos htype]
    rfl
  · rw [if_neg htype]
    have hphase : phaseOutcome (Json.get data (text "when")) (reportOutcome data) = .ok none := by
      simp only [carriesVerdict, Bool.not_eq_false] at h htype
      simp only [htype, Bool.true_and, Bool.or_eq_false_iff] at h
      obtain ⟨⟨hcall, hsetup⟩, hteardown⟩ := h
      rw [phaseOutcome_eq, hcall, if_neg (by simp)]
      split
      · next hs =>
        rw [hs, Bool.true_and, Bool.not_eq_false'] at hsetup
        rw [if_pos hsetup]
      · split
        · next ht =>
          rw [ht, Bool.true_and] at hteardown
          rw [hteardown]
          rfl
        · rfl
    show (bind (phaseOutcome (Json.get data (text "when")) (reportOutcome data)) _) = _
    rw [hphase]
    rfl

/-- The look-up of the outcome of a `call` report.
Source: `src/runner.py` `parse_report_log_line`
Kind: L -/
lemma callOutcome_eq (v : Json) :
    callOutcome v =
      if v.hashKey.isSome then
        .ok (if v.eqStr (text "passed") then .passed
          else if v.eqStr (text "failed") then .failed
          else if v.eqStr (text "skipped") then .skipped else .error)
      else .error .typeError := by
  unfold callOutcome
  rcases hk : v.hashKey with _ | k
  · rfl
  · have hkey : ∀ s, k = .str s ↔ v.eqStr s = true := by
      intro s
      rw [eqStr_iff, ← Json.hashKey_eq_str_iff, hk, Option.some_inj]
    simp only [hkey, Option.isSome_some, if_true]
    split
    · rfl
    · split
      · rfl
      · split <;> rfl

/-- **The phase of a deciding report gives its verdict**, unless a `call` report's outcome is
unhashable.
Source: `src/runner.py` `parse_report_log_line`
Kind: P -/
lemma phaseOutcome_of_carries (h : carriesVerdict data = true) :
    phaseOutcome (Json.get data (text "when")) (reportOutcome data) =
      if isPhase data "call" && !(reportOutcome data).hashKey.isSome then .error .typeError
      else .ok (some (verdict data)) := by
  simp only [carriesVerdict, Bool.and_eq_true, Bool.or_eq_true, Bool.not_eq_true'] at h
  have hcall_setup : isPhase data "call" = true → isPhase data "setup" = false :=
    fun hc => isPhase_eq_false hc (by decide)
  have hcall_teardown : isPhase data "call" = true → isPhase data "teardown" = false :=
    fun hc => isPhase_eq_false hc (by decide)
  have hsetup_teardown : isPhase data "setup" = true → isPhase data "teardown" = false :=
    fun hs => isPhase_eq_false hs (by decide)
  have hfailed : (reportOutcome data).eqStr (text "failed") = true →
      (reportOutcome data).eqStr (text "skipped") = false :=
    fun hf => eqStr_eq_false hf (by decide)
  rw [phaseOutcome_eq, callOutcome_eq, verdict]
  rcases h.2 with (hcall | ⟨hsetup, hout⟩) | ⟨hteardown, hout⟩
  · simp only [hcall, hcall_teardown hcall, if_true, Bool.true_and, Bool.not_false]
    cases (reportOutcome data).hashKey <;> rfl
  · have hcall : isPhase data "call" = false := by
      by_contra hne
      rw [hcall_setup (Bool.not_eq_false _ ▸ hne)] at hsetup
      cases hsetup
    simp only [hcall, hsetup, hsetup_teardown hsetup, hout, Bool.false_and, Bool.not_false,
      Bool.true_and, Bool.false_eq_true, if_false, if_true]
    split <;> rfl
  · have hcall : isPhase data "call" = false := by
      by_contra hne
      rw [hcall_teardown (Bool.not_eq_false _ ▸ hne)] at hteardown
      cases hteardown
    have hsetup : isPhase data "setup" = false := by
      by_contra hne
      rw [hsetup_teardown (Bool.not_eq_false _ ▸ hne)] at hteardown
      cases hteardown
    simp only [hcall, hsetup, hteardown, hout, Bool.false_and, Bool.not_true, Bool.false_eq_true,
      if_false, if_true]

/-! ## Messages and markers -/

/-- A list is extracted as its third element or as its text.
Source: `src/runner.py` `_extract_message`
Kind: L -/
lemma extractMessage_list {xs : List Json} (h : Json.get data (text "longrepr") = .list xs) :
    ∃ m, extractMessage R data = .ok m ∧ (m = .null ∨ m.isStr = true) := by
  unfold extractMessage
  rw [h]
  dsimp only
  split
  · exact ⟨_, rfl, .inl rfl⟩
  · split <;> first | exact ⟨_, rfl, .inr rfl⟩ | contradiction

/-- A string is extracted as its last line.
Source: `src/runner.py` `_extract_message`
Kind: L -/
lemma extractMessage_str {s : PyStr} (h : Json.get data (text "longrepr") = .str s) :
    ∃ m, extractMessage R data = .ok m ∧ (m = .null ∨ m.isStr = true) := by
  unfold extractMessage
  rw [h]
  dsimp only
  split
  · exact ⟨_, rfl, .inl rfl⟩
  · split
    · exact ⟨_, rfl, .inr rfl⟩
    · exact ⟨_, rfl, .inl rfl⟩

/-- An object is extracted as the message of its `reprcrash`, which has to be falsy or an object.
Source: `src/runner.py` `_extract_message`
Kind: L -/
lemma extractMessage_dict {kvs : List (PyStr × Json)}
    (h : Json.get data (text "longrepr") = .dict kvs) :
    extractMessage R data =
      match Json.get kvs (text "reprcrash") with
      | .dict crash => .ok (if crash.isEmpty then .null else Json.get crash (text "message"))
      | crash => if crash.truthy then .error .attributeError else .ok .null := by
  unfold extractMessage
  rw [h]
  cases kvs with
  | nil => rfl
  | cons kv kvs =>
      simp only [Json.truthy, List.isEmpty_cons, Bool.not_false, Bool.true_eq_false, if_false]
      rcases Json.get (kv :: kvs) (text "reprcrash") with _ | b | i | x | s | xs | crash
      · rfl
      · cases b <;> rfl
      · by_cases hi : i = 0 <;> simp [hi]
      · cases hx : x.isZero <;> simp [hx]
      · cases s <;> rfl
      · cases xs <;> rfl
      · cases crash <;> rfl

/-- **A readable `longrepr` has a message, and any other raises**; the message of a well-formed one is a
string or none.
Source: `src/runner.py` `_extract_message`
Kind: P -/
lemma extractMessage_spec (R : Runtime) (data : List (PyStr × Json)) :
    (readableLongrepr data = true → ∃ m, extractMessage R data = .ok m) ∧
      (readableLongrepr data = false → ∃ e, extractMessage R data = .error e) ∧
      (wellFormedLongrepr data = true →
        ∃ m, extractMessage R data = .ok m ∧ (m = .null ∨ m.isStr = true)) := by
  unfold readableLongrepr wellFormedLongrepr
  rcases hlong : Json.get data (text "longrepr") with _ | b | i | x | s | xs | kvs
  · have hm : extractMessage R data = .ok .null := by
      rw [extractMessage, hlong]
      rfl
    exact ⟨fun _ => ⟨_, hm⟩, nofun, fun _ => ⟨_, hm, .inl rfl⟩⟩
  · refine ⟨?_, nofun, nofun⟩
    intro _
    rw [extractMessage, hlong]
    cases b <;> exact ⟨_, rfl⟩
  · refine ⟨?_, nofun, nofun⟩
    intro _
    rw [extractMessage, hlong]
    cases (Json.int i).truthy <;> simp
  · refine ⟨?_, nofun, nofun⟩
    intro _
    rw [extractMessage, hlong]
    cases (Json.float x).truthy <;> simp
  · obtain ⟨m, hm, htype⟩ := extractMessage_str (R := R) hlong
    exact ⟨fun _ => ⟨m, hm⟩, nofun, fun _ => ⟨m, hm, htype⟩⟩
  · obtain ⟨m, hm, htype⟩ := extractMessage_list (R := R) hlong
    exact ⟨fun _ => ⟨m, hm⟩, nofun, fun _ => ⟨m, hm, htype⟩⟩
  · -- any `reprcrash` but an object is readable exactly if it is falsy
    have hfalsy : ∀ t : Bool,
        ((!t) = true → ∃ m : Json, (if t then .error .attributeError else .ok .null) =
          (.ok m : Except PyExc Json)) ∧
        ((!t) = false → ∃ e, (if t then .error .attributeError else .ok .null) =
          (.error e : Except PyExc Json)) := by
      intro t
      cases t
      · exact ⟨fun _ => ⟨_, rfl⟩, nofun⟩
      · exact ⟨nofun, fun _ => ⟨_, rfl⟩⟩
    rw [extractMessage_dict hlong]
    dsimp only
    rcases Json.get kvs (text "reprcrash") with _ | b | i | x | s | xs | crash
    · exact ⟨fun _ => ⟨_, rfl⟩, nofun, fun _ => ⟨_, rfl, .inl rfl⟩⟩
    · exact ⟨(hfalsy _).1, (hfalsy _).2, nofun⟩
    · exact ⟨(hfalsy _).1, (hfalsy _).2, nofun⟩
    · exact ⟨(hfalsy _).1, (hfalsy _).2, nofun⟩
    · exact ⟨(hfalsy _).1, (hfalsy _).2, nofun⟩
    · exact ⟨(hfalsy _).1, (hfalsy _).2, nofun⟩
    · refine ⟨fun _ => ⟨_, rfl⟩, nofun, fun hmessage => ⟨_, rfl, ?_⟩⟩
      split
      · exact .inl rfl
      · simpa using hmessage

/-- **Markers can be selected exactly if the keywords are iterable and their elements hashable.**
Source: `src/runner.py` `parse_report_log_line`
Kind: P -/
lemma selectMarkers_spec (known : List PyStr) (ks : List Json) :
    ((∀ k ∈ ks, k.hashKey.isSome = true) → ∃ markers, selectMarkers known ks = .ok markers) ∧
      (¬ (∀ k ∈ ks, k.hashKey.isSome = true) → ∃ e, selectMarkers known ks = .error e) := by
  induction ks with
  | nil => exact ⟨fun _ => ⟨[], rfl⟩, fun h => absurd (by simp) h⟩
  | cons k ks ih =>
      obtain ⟨hok, herror⟩ := ih
      rw [List.forall_mem_cons, selectMarkers]
      rcases hk : k.hashKey with _ | key
      · exact ⟨fun h => absurd h.1 (by simp), fun _ => ⟨_, rfl⟩⟩
      · have hrest : ∀ P : Prop, (((some key).isSome = true ∧ P) ↔ P) := by simp
        rw [hrest]
        constructor
        · intro h
          obtain ⟨markers, hm⟩ := hok h
          rw [hm]
          cases key <;> exact ⟨_, rfl⟩
        · intro h
          obtain ⟨e, he⟩ := herror h
          rw [he]
          cases key <;> exact ⟨_, rfl⟩

/-- The markers of a report.
Source: `src/runner.py` `parse_report_log_line`
Kind: D -/
def reportMarkers (R : Runtime) (data : List (PyStr × Json)) : Except PyExc (List PyStr) := do
  let keywords ← (reportKeywords data).iterate
  selectMarkers R.knownMarkers keywords

lemma reportMarkers_spec (R : Runtime) (data : List (PyStr × Json)) :
    (readableKeywords data = true → ∃ markers, reportMarkers R data = .ok markers) ∧
      (readableKeywords data = false → ∃ e, reportMarkers R data = .error e) := by
  unfold readableKeywords reportMarkers
  rcases reportKeywords data with _ | b | i | x | s | ks | kvs
  · exact ⟨nofun, fun _ => ⟨_, rfl⟩⟩
  · exact ⟨nofun, fun _ => ⟨_, rfl⟩⟩
  · exact ⟨nofun, fun _ => ⟨_, rfl⟩⟩
  · exact ⟨nofun, fun _ => ⟨_, rfl⟩⟩
  · refine ⟨?_, nofun⟩
    intro _
    exact (selectMarkers_spec _ _).1 (by simp)
  · obtain ⟨hok, herror⟩ := selectMarkers_spec R.knownMarkers ks
    refine ⟨fun h => hok (by simpa using h), fun h => herror ?_⟩
    simpa using h
  · refine ⟨?_, nofun⟩
    intro _
    apply (selectMarkers_spec _ _).1
    intro k hk
    obtain ⟨kv, -, rfl⟩ := List.mem_map.mp hk
    rfl

/-! ## The event of a deciding report -/

/-- The event made of a deciding report.
Source: `src/runner.py` `parse_report_log_line`
Kind: D -/
def reportEvent (data : List (PyStr × Json)) (message : Json) (markers : List PyStr) : TestEvent where
  nodeid := reportNodeid data
  outcome := verdict data
  durationS := reportDuration data
  markers := markers
  message := message

/-- The parser behind the phase.
Source: `src/runner.py` `parse_report_log_line`
Kind: L -/
lemma parseReport_of_phase (R : Runtime) {outcome : TestOutcome}
    (htype : (Json.get data (text "$report_type")).eqStr (text "TestReport") = true)
    (hphase : phaseOutcome (Json.get data (text "when")) (reportOutcome data) = .ok (some outcome)) :
    parseReport R data =
      (if outcome = .passed then .ok .null else extractMessage R data).bind fun message =>
        (reportMarkers R data).map fun markers =>
          some { reportEvent data message markers with outcome := outcome } := by
  unfold parseReport reportMarkers
  rw [htype, if_neg (by simp)]
  show bind (phaseOutcome _ (reportOutcome data)) _ = _
  rw [hphase]
  have hrest : ∀ message,
      (bind (reportKeywords data).iterate fun keywords =>
        bind (selectMarkers R.knownMarkers keywords) fun markers =>
          Except.ok (some { reportEvent data message markers with outcome := outcome })) =
        (bind (reportKeywords data).iterate (selectMarkers R.knownMarkers)).map fun markers =>
          some { reportEvent data message markers with outcome := outcome } := by
    intro message
    rcases (reportKeywords data).iterate with e | keywords
    · rfl
    · show bind (selectMarkers R.knownMarkers keywords) _ =
        Except.map _ (selectMarkers R.knownMarkers keywords)
      rcases selectMarkers R.knownMarkers keywords with e | markers <;> rfl
  by_cases hpassed : outcome = .passed
  · subst hpassed
    exact hrest .null
  · rw [if_neg hpassed]
    show (if outcome = .passed then _ else bind (extractMessage R data) _) = _
    rw [if_neg hpassed]
    rcases extractMessage R data with e | message
    · rfl
    · exact hrest message

/-- **A deciding report is made an event of if it can be parsed, and raises otherwise**; the message is
a string or none if the `longrepr` is well formed.
Source: `src/runner.py` `parse_report_log_line`
Kind: P -/
theorem parseReport_of_carries (R : Runtime) (h : carriesVerdict data = true) :
    (parses data = true → ∃ message markers,
        parseReport R data = .ok (some (reportEvent data message markers)) ∧
          (wellFormedLongrepr data = true → message = .null ∨ message.isStr = true)) ∧
      (parses data = false → ∃ e, parseReport R data = .error e) := by
  have htype : (Json.get data (text "$report_type")).eqStr (text "TestReport") = true := by
    rw [carriesVerdict, Bool.and_eq_true] at h
    exact h.1
  have hphase := phaseOutcome_of_carries h
  obtain ⟨hmarkers, hmarkers'⟩ := reportMarkers_spec R data
  obtain ⟨hmessage, hmessage', hwf⟩ := extractMessage_spec R data
  by_cases hcall : isPhase data "call" = true ∧ (reportOutcome data).hashKey.isSome = false
  · -- an outcome that cannot be looked up
    have hnot : parses data = false := by simp [parses, hcall]
    rw [hcall.1, hcall.2] at hphase
    refine ⟨fun hp => absurd (hnot.symm.trans hp) (by simp), fun _ => ⟨.typeError, ?_⟩⟩
    unfold parseReport
    rw [htype, if_neg (by simp)]
    show bind (phaseOutcome _ (reportOutcome data)) _ = _
    rw [hphase]
    rfl
  · have hcall' : (isPhase data "call" && !(reportOutcome data).hashKey.isSome) = false := by
      by_contra hne
      simp only [Bool.not_eq_false, Bool.and_eq_true, Bool.not_eq_true'] at hne
      exact hcall hne
    have hlook : (!isPhase data "call" || (reportOutcome data).hashKey.isSome) = true := by
      rw [Bool.and_eq_false_iff, Bool.not_eq_false'] at hcall'
      rw [Bool.or_eq_true, Bool.not_eq_true']
      exact hcall'
    rw [hcall', if_neg (by simp)] at hphase
    rw [parseReport_of_phase R htype hphase, parses, hlook, Bool.true_and]
    by_cases hpassed : verdict data = .passed
    · rw [if_pos hpassed, hpassed]
      simp only [decide_true, Bool.true_or, Bool.true_and]
      constructor
      · intro hk
        obtain ⟨markers, hm⟩ := hmarkers hk
        refine ⟨.null, markers, ?_, fun _ => .inl rfl⟩
        rw [hm, reportEvent, hpassed]
        rfl
      · intro hk
        obtain ⟨e, he⟩ := hmarkers' hk
        rw [he]
        exact ⟨e, rfl⟩
    · rw [if_neg hpassed, decide_eq_false hpassed, Bool.false_or]
      constructor
      · intro hp
        rw [Bool.and_eq_true] at hp
        obtain ⟨markers, hm⟩ := hmarkers hp.2
        obtain ⟨message, hmsg⟩ := hmessage hp.1
        refine ⟨message, markers, ?_, ?_⟩
        · rw [hm, hmsg]
          rfl
        · intro hw
          obtain ⟨message', hmsg', htype'⟩ := hwf hw
          rw [hmsg] at hmsg'
          cases hmsg'
          exact htype'
      · intro hp
        rcases hreadable : readableLongrepr data with _ | _
        · obtain ⟨e, he⟩ := hmessage' hreadable
          rw [he]
          exact ⟨e, rfl⟩
        · rw [hreadable, Bool.true_and] at hp
          obtain ⟨message, hmsg⟩ := hmessage hreadable
          obtain ⟨e, he⟩ := hmarkers' hp
          rw [hmsg, he]
          exact ⟨e, rfl⟩

/-- A well-formed `longrepr` is readable.
Source: `src/runner.py` `_extract_message`
Kind: L -/
lemma readableLongrepr_of_wellFormed (h : wellFormedLongrepr data = true) :
    readableLongrepr data = true := by
  revert h
  unfold wellFormedLongrepr readableLongrepr
  rcases Json.get data (text "longrepr") with _ | b | i | x | s | xs | kvs
  · exact fun _ => rfl
  · exact fun _ => rfl
  · exact fun _ => rfl
  · exact fun _ => rfl
  · exact fun _ => rfl
  · exact fun _ => rfl
  · dsimp only
    rcases Json.get kvs (text "reprcrash") with _ | b | i | x | s | xs | crash
    · exact fun _ => rfl
    · exact nofun
    · exact nofun
    · exact nofun
    · exact nofun
    · exact nofun
    · exact fun _ => rfl

/-- **A well-formed report can be parsed, and its nodeid looked up.**
Source: `src/runner.py` `parse_report_log_line`
Kind: P -/
lemma readable_of_wellFormed (h : wellFormedReport data = true) : readable data = true := by
  simp only [wellFormedReport, Bool.and_eq_true] at h
  obtain ⟨⟨⟨⟨⟨-, hnodeid⟩, houtcome⟩, hkeywords⟩, -⟩, hlongrepr⟩ := h
  have hk : readableKeywords data = true := by
    unfold readableKeywords
    cases hkw : reportKeywords data with
    | dict kvs => rfl
    | _ => simp [hkw, isDict] at hkeywords
  simp [readable, parses, isSome_hashKey_of_isStr houtcome, isSome_hashKey_of_isStr hnodeid, hk,
    readableLongrepr_of_wellFormed hlongrepr]

/-! ## Packet records -/

/-- Does the packet parser make an event of the value? It has the four required keys, and its
direction is one of the two.
Source: `src/runner.py` `drain_packet_events`
Kind: D -/
def acceptedPacket : Json → Bool
  | .dict kvs =>
      (Dict.get kvs (text "timestamp")).isSome &&
        ((Json.get kvs (text "direction")).eqStr (text "sent") ||
          (Json.get kvs (text "direction")).eqStr (text "received")) &&
        (Dict.get kvs (text "summary")).isSome && (Dict.get kvs (text "size_bytes")).isSome
  | _ => false

/-- A packet record whose fields have their JSON types.
Source: `src/reporting/models.py` `PacketEvent`
Kind: D -/
def wellFormedPacket (data : Json) : Bool :=
  match data with
  | .dict kvs =>
      acceptedPacket data && (Json.get kvs (text "timestamp")).isNumber &&
        (Json.get kvs (text "summary")).isStr && isInt (Json.get kvs (text "size_bytes"))
  | _ => false

/-- A present key is found by both look-ups.
Source: Python `dict.get`
Kind: L -/
lemma item_dict (kvs : List (PyStr × Json)) (key : PyStr) :
    item (.dict kvs) key =
      if (Dict.get kvs key).isSome then .ok (Json.get kvs key) else .error .keyError := by
  simp only [item, Json.get, Json.getD]
  rcases Dict.get kvs key with _ | v <;> rfl

/-- The directions that are looked up by value.
Source: `src/reporting/models.py` `PacketDirection`
Kind: L -/
lemma ofValue_spec (v : Json) :
    ((v.eqStr (text "sent") || v.eqStr (text "received")) = true →
        ∃ direction, PacketDirection.ofValue v = .ok direction) ∧
      ((v.eqStr (text "sent") || v.eqStr (text "received")) = false →
        PacketDirection.ofValue v = .error .valueError) := by
  unfold PacketDirection.ofValue PacketDirection.value
  cases v.eqStr (text "sent") with
  | true => exact ⟨fun _ => ⟨.sent, rfl⟩, nofun⟩
  | false =>
      cases v.eqStr (text "received") with
      | true => exact ⟨fun _ => ⟨.received, rfl⟩, nofun⟩
      | false => exact ⟨nofun, fun _ => rfl⟩

/-- **The packet parser makes an event of a record exactly if it is accepted, with the record's own
values; on any other value it raises what the drain catches.**
Source: `src/runner.py` `drain_packet_events`
Kind: P -/
theorem packetEventOf_spec (data : Json) :
    (acceptedPacket data = true → ∃ kvs event, data = .dict kvs ∧
        packetEventOf data = .ok event ∧ event.timestamp = Json.get kvs (text "timestamp") ∧
          event.summary = Json.get kvs (text "summary") ∧
          event.sizeBytes = Json.get kvs (text "size_bytes")) ∧
      (acceptedPacket data = false → ∃ e, packetEventOf data = .error e ∧ isSkipped e = true) := by
  cases data with
  | dict kvs =>
      unfold packetEventOf acceptedPacket
      simp only [item_dict]
      cases Dict.get kvs (text "timestamp") with
      | none => exact ⟨Bool.noConfusion, fun _ => ⟨.keyError, rfl, rfl⟩⟩
      | some timestamp =>
          cases hd : Dict.get kvs (text "direction") with
          | none =>
              have hget : Json.get kvs (text "direction") = .null := by
                rw [Json.get, Json.getD, hd]
                rfl
              rw [hget]
              exact ⟨Bool.noConfusion, fun _ => ⟨.keyError, rfl, rfl⟩⟩
          | some _ =>
              obtain ⟨hvalid, hinvalid⟩ := ofValue_spec (Json.get kvs (text "direction"))
              cases hv : ((Json.get kvs (text "direction")).eqStr (text "sent") ||
                  (Json.get kvs (text "direction")).eqStr (text "received")) with
              | false =>
                  refine ⟨Bool.noConfusion, fun _ => ⟨.valueError, ?_, rfl⟩⟩
                  show bind (PacketDirection.ofValue (Json.get kvs (text "direction"))) _ = _
                  rw [hinvalid hv]
                  rfl
              | true =>
                  obtain ⟨direction, hdirection⟩ := hvalid hv
                  simp only [Option.isSome_some, if_true, bind, Except.bind, hdirection]
                  cases Dict.get kvs (text "summary") with
                  | none => exact ⟨Bool.noConfusion, fun _ => ⟨.keyError, rfl, rfl⟩⟩
                  | some _ =>
                      cases Dict.get kvs (text "size_bytes") with
                      | none => exact ⟨Bool.noConfusion, fun _ => ⟨.keyError, rfl, rfl⟩⟩
                      | some _ => exact ⟨fun _ => ⟨kvs, _, rfl, rfl, rfl, rfl, rfl⟩, Bool.noConfusion⟩
  | _ => exact ⟨Bool.noConfusion, fun _ => ⟨.typeError, rfl, rfl⟩⟩

end NetstackSuite.Runner
