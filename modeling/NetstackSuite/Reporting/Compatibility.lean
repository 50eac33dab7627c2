import NetstackSuite.Reporting.RunArtifacts

/-!
# Results of other versions

A later version may write keys this one does not know, an earlier one may lack fields that have a default.
`from_dict` of `src/reporting/models.py` is written three ways: `TestRunResult` goes through its own fields,
`TestEvent` filters the keys by them, `PacketEvent` passes all keys on. `loads_iff` says which edits of a
saved run still load, and as what: every one that gives no packet event a new key.
-/

namespace NetstackSuite.Reporting

open NetstackSuite.Python

/-! ## Edits of one object -/

/-- The entries of an object.
Source: none: infrastructure
Kind: D -/
def entries : Json → List (PyStr × Json)
  | .dict kvs => kvs
  | _ => []

/-- The fields of a dataclass, and those of them that have a default.
Source: Python `dataclasses.fields`
Kind: D -/
structure Fields where
  names : List PyStr
  defaulted : List PyStr

/-- An object made from another one by removing some fields that have a default and adding other keys,
in any order.
Source: none: specification
Kind: D -/
structure Edit (fields : Fields) (data : List (PyStr × Json)) where
  dropped : List PyStr
  edited : List (PyStr × Json)
  dropped_subset : dropped ⊆ fields.defaulted
  get_edited : ∀ name ∈ fields.names,
    Dict.get edited name = if name ∈ dropped then none else Dict.get data name

namespace Edit

variable {fields : Fields} {data : List (PyStr × Json)} (e : Edit fields data)

/-- Some key is none of the fields.
Source: none: specification
Kind: D -/
def AddsKeys : Prop := ∃ name ∈ Dict.keys e.edited, name ∉ fields.names

/-- A field without a default is still there.
Source: none: infrastructure
Kind: L -/
lemma get_of_required {name : PyStr} (hname : name ∈ fields.names) (hrequired : name ∉ fields.defaulted) :
    Dict.get e.edited name = Dict.get data name := by
  rw [e.get_edited name hname, if_neg fun h => hrequired (e.dropped_subset h)]

lemma require_eq (missing : PyExc) (name : PyStr) (hname : name ∈ fields.names)
    (hrequired : name ∉ fields.defaulted) :
    Json.require missing e.edited name = Json.require missing data name := by
  unfold Json.require
  rw [e.get_of_required hname hrequired]

/-- A field that was removed reads as its default.
Source: none: infrastructure
Kind: L -/
lemma getD_eq (name : PyStr) (hname : name ∈ fields.names) (default : Json) :
    Json.getD e.edited name default = if name ∈ e.dropped then default else Json.getD data name default := by
  unfold Json.getD
  rw [e.get_edited name hname]
  split <;> rfl

end Edit

/-! ## Test events -/

/-- Source: `src/reporting/models.py` `TestEvent`. Kind: D -/
def testEventFields : Fields where
  names := [text "nodeid", text "outcome", text "duration_s", text "markers", text "message"]
  defaulted := [text "markers", text "message"]

/-- The event with the removed fields at their defaults.
Source: `src/reporting/models.py` `TestEvent`
Kind: D -/
def TestEventObject.without (dropped : List PyStr) (t : TestEventObject) : TestEventObject :=
  { t with
    markers := if text "markers" ∈ dropped then .list [] else t.markers
    message := if text "message" ∈ dropped then .null else t.message }

/-- A test of a saved run, edited.
Source: none: specification
Kind: D -/
structure EditedTest where
  original : TestEvent
  edit : Edit testEventFields (entries original.object.toDict)

/-- What the edited test should be read as.
Source: none: specification
Kind: D -/
def EditedTest.expected (t : EditedTest) : TestEventObject := t.original.object.without t.edit.dropped

/-- **Every edit of a test event still loads.**
Source: `src/reporting/models.py` `TestEvent.from_dict`
Kind: P -/
lemma EditedTest.fromDict (t : EditedTest) :
    TestEventObject.fromDict (.dict t.edit.edited) = .ok t.expected := by
  rcases t with ⟨original, e⟩
  have houtcome := e.require_eq .keyError (text "outcome") (by simp [testEventFields]) (by simp [testEventFields])
  have hnodeid := e.require_eq .typeError (text "nodeid") (by simp [testEventFields]) (by simp [testEventFields])
  have hduration :=
    e.require_eq .typeError (text "duration_s") (by simp [testEventFields]) (by simp [testEventFields])
  have hmarkers := e.getD_eq (text "markers") (by simp [testEventFields]) (.list [])
  have hmessage := e.getD_eq (text "message") (by simp [testEventFields]) .null
  unfold TestEventObject.fromDict
  simp only [Json.get, houtcome, hnodeid, hduration, hmarkers, hmessage]
  simp [entries, TestEventObject.toDict, expected, TestEventObject.without, Json.require, Json.getD,
    Dict.get, bind, Except.bind, pure, Except.pure]

/-! ## Packet events -/

/-- Source: `src/reporting/models.py` `PacketEvent`. Kind: D -/
def packetFields : Fields where
  names := packetEventFields
  defaulted := [text "test_nodeid"]

/-- The event with the removed fields at their defaults.
Source: `src/reporting/models.py` `PacketEvent`
Kind: D -/
def PacketEvent.without (dropped : List PyStr) (e : PacketEvent) : PacketEvent :=
  { e with testNodeid := if text "test_nodeid" ∈ dropped then .null else e.testNodeid }

/-- A packet event of a saved run, edited.
Source: none: specification
Kind: D -/
structure EditedPacket where
  original : PacketEvent
  edit : Edit packetFields (entries original.toDict)

/-- What the edited packet event should be read as.
Source: none: specification
Kind: D -/
def EditedPacket.expected (p : EditedPacket) : PacketEvent := p.original.without p.edit.dropped

/-- **An edited packet event loads exactly if it has no new key**: one is an unexpected argument.
Source: `src/reporting/models.py` `PacketEvent.from_dict`
Kind: P -/
lemma EditedPacket.fromDict_iff (p : EditedPacket) :
    PacketEvent.fromDict (.dict p.edit.edited) = .ok p.expected ↔ ¬ p.edit.AddsKeys := by
  rcases p with ⟨original, e⟩
  have hdirection := e.require_eq .keyError (text "direction")
    (by simp [packetFields, packetEventFields]) (by simp [packetFields])
  have htimestamp := e.require_eq .typeError (text "timestamp")
    (by simp [packetFields, packetEventFields]) (by simp [packetFields])
  have hsummary := e.require_eq .typeError (text "summary")
    (by simp [packetFields, packetEventFields]) (by simp [packetFields])
  have hsize := e.require_eq .typeError (text "size_bytes")
    (by simp [packetFields, packetEventFields]) (by simp [packetFields])
  have hnodeid := e.getD_eq (text "test_nodeid") (by simp [packetFields, packetEventFields]) .null
  have hadds : e.AddsKeys ↔ ¬ ∀ key ∈ Dict.keys e.edited, key ∈ packetEventFields := by
    unfold Edit.AddsKeys
    push Not
    rfl
  unfold PacketEvent.fromDict
  simp only [Json.get, hdirection, htimestamp, hsummary, hsize, hnodeid, hadds]
  by_cases hknown : ∀ key ∈ Dict.keys e.edited, key ∈ packetEventFields
  · refine iff_of_true ?_ (not_not.mpr hknown)
    simpa [entries, PacketEvent.toDict, expected, PacketEvent.without, Json.require, Json.getD, Dict.get,
      bind, Except.bind, pure, Except.pure] using hknown
  · refine iff_of_false ?_ (not_not.mpr hknown)
    simp [hknown, entries, PacketEvent.toDict, Json.require, Dict.get, bind, Except.bind, throw, throwThe,
      MonadExceptOf.throw]

/-! ## Runs -/

/-- Source: `src/reporting/models.py` `TestRunResult`. Kind: D -/
def testRunFields : Fields where
  names := [text "run_id", text "started_at", text "finished_at", text "target_ip", text "target_stack",
    text "host_platform", text "payload_mode", text "role", text "proxy_leg", text "tests",
    text "packet_events", text "pytest_returncode"]
  defaulted := [text "payload_mode", text "role", text "proxy_leg", text "tests", text "packet_events",
    text "pytest_returncode"]

/-- The entries of a run's dictionary, with other test events and packet events in their place.
Source: `src/reporting/models.py` `TestRunResult.to_dict`
Kind: D -/
def entriesWith (iso : IsoFormat) (r : TestRunResult) (tests packetEvents : List Json) :
    List (PyStr × Json) :=
  Dict.set (Dict.set (entries (r.object.toDict iso)) (text "tests") (.list tests)) (text "packet_events")
    (.list packetEvents)

/-- A saved run, edited at every level.
Source: none: specification
Kind: D -/
structure EditedRun (iso : IsoFormat) where
  original : TestRunResult
  tests : List EditedTest
  packetEvents : List EditedPacket
  tests_eq : tests.map EditedTest.original = original.tests
  packetEvents_eq : packetEvents.map EditedPacket.original = original.packetEvents
  edit : Edit testRunFields (entriesWith iso original (tests.map fun t => .dict t.edit.edited)
    (packetEvents.map fun p => .dict p.edit.edited))

/-- What the edited run should be loaded as: the run, with exactly the removed fields at their defaults.
Source: none: specification
Kind: D -/
def EditedRun.expected {iso : IsoFormat} (e : EditedRun iso) : TestRunObject :=
  let dropped := e.edit.dropped
  { e.original.object with
    payloadMode :=
      if text "payload_mode" ∈ dropped then .str (text "random") else .str e.original.payloadMode
    role := if text "role" ∈ dropped then .str (text "client") else .str e.original.role
    proxyLeg := if text "proxy_leg" ∈ dropped then .null else optStr e.original.proxyLeg
    tests := if text "tests" ∈ dropped then [] else e.tests.map EditedTest.expected
    packetEvents := if text "packet_events" ∈ dropped then [] else e.packetEvents.map EditedPacket.expected
    pytestReturncode :=
      if text "pytest_returncode" ∈ dropped then .null else optInt e.original.pytestReturncode }

/-- A list of records is read as expected exactly if every record is.
Source: none: infrastructure
Kind: L -/
lemma mapM_eq_ok_iff {α β : Type} {json : α → Json} {fromDict : Json → Except PyExc β} {expected : α → β}
    (xs : List α) :
    (xs.map json).mapM fromDict = .ok (xs.map expected) ↔
      ∀ x ∈ xs, fromDict (json x) = .ok (expected x) := by
  induction xs with
  | nil => exact iff_of_true rfl (List.forall_mem_nil _)
  | cons x xs ih =>
      rw [List.map_cons, List.map_cons, List.mapM_cons, List.forall_mem_cons, ← ih]
      rcases fromDict (json x) with exc | b
      · simp [bind, Except.bind]
      · rcases (xs.map json).mapM fromDict with exc | bs <;> simp [bind, Except.bind, pure, Except.pure]

/-- Whatever the edit, only the packet events decide whether the run loads.
Source: `src/reporting/models.py` `TestRunResult.from_dict`
Kind: L -/
lemma EditedRun.fromDict_eq {iso : IsoFormat} (e : EditedRun iso)
    (hstarted : IsoInverse iso.startedAt iso.fromisoformat e.original.startedAt)
    (hfinished : ∀ t ∈ e.original.finishedAt, IsoInverse iso.finishedAt iso.fromisoformat t) :
    TestRunObject.fromDict iso (.dict e.edit.edited) =
      (if text "packet_events" ∈ e.edit.dropped then .ok []
        else (e.packetEvents.map fun p => Json.dict p.edit.edited).mapM PacketEvent.fromDict).map
        fun packetEvents => { e.expected with packetEvents } := by
  have htests := (mapM_eq_ok_iff e.tests).mpr fun t _ => t.fromDict
  have hstart : readDateTime iso.fromisoformat (writeDateTime iso.startedAt (some e.original.startedAt)) =
      .ok (some e.original.startedAt) :=
    readDateTime_writeDateTime fun t ht => Option.some.inj ht ▸ hstarted
  have hfinish := readDateTime_writeDateTime hfinished
  have required := e.edit.require_eq .typeError
  have hid := required (text "run_id") (by simp [testRunFields]) (by simp [testRunFields])
  have hip := required (text "target_ip") (by simp [testRunFields]) (by simp [testRunFields])
  have hstack := required (text "target_stack") (by simp [testRunFields]) (by simp [testRunFields])
  have hplatform := required (text "host_platform") (by simp [testRunFields]) (by simp [testRunFields])
  have field := e.edit.getD_eq
  have hstartedAt := field (text "started_at") (by simp [testRunFields]) .null
  have hfinishedAt := field (text "finished_at") (by simp [testRunFields]) .null
  have hmode := field (text "payload_mode") (by simp [testRunFields]) (.str (text "random"))
  have hrole := field (text "role") (by simp [testRunFields]) (.str (text "client"))
  have hleg := field (text "proxy_leg") (by simp [testRunFields]) .null
  have htestsField := field (text "tests") (by simp [testRunFields]) (.list [])
  have hpacketsField := field (text "packet_events") (by simp [testRunFields]) (.list [])
  have hcode := field (text "pytest_returncode") (by simp [testRunFields]) .null
  have hnotStarted : text "started_at" ∉ e.edit.dropped := fun h =>
    absurd (e.edit.dropped_subset h) (by simp [testRunFields])
  have hnotFinished : text "finished_at" ∉ e.edit.dropped := fun h =>
    absurd (e.edit.dropped_subset h) (by simp [testRunFields])
  rw [if_neg hnotStarted] at hstartedAt
  rw [if_neg hnotFinished] at hfinishedAt
  have hiterate : ∀ (dropped : Prop) [Decidable dropped] (xs : List Json),
      (if dropped then Json.list [] else .list xs).iterate = .ok (if dropped then [] else xs) := by
    intro dropped _ xs
    split <;> rfl
  have hreadTests : (if text "tests" ∈ e.edit.dropped then []
      else e.tests.map fun t => Json.dict t.edit.edited).mapM TestEventObject.fromDict =
        .ok e.expected.tests := by
    unfold expected
    simp only
    split
    · rfl
    · exact htests
  have hreadPackets : (if text "packet_events" ∈ e.edit.dropped then []
      else e.packetEvents.map fun p => Json.dict p.edit.edited).mapM PacketEvent.fromDict =
        if text "packet_events" ∈ e.edit.dropped then .ok []
        else (e.packetEvents.map fun p => Json.dict p.edit.edited).mapM PacketEvent.fromDict := by
    split <;> rfl
  unfold TestRunObject.fromDict
  simp only [Json.get, hid, hip, hstack, hplatform, hstartedAt, hfinishedAt, hmode, hrole, hleg,
    htestsField, hpacketsField, hcode]
  obtain ⟨read, hread⟩ : ∃ read, (if text "packet_events" ∈ e.edit.dropped then .ok []
      else (e.packetEvents.map fun p => Json.dict p.edit.edited).mapM PacketEvent.fromDict) = read := ⟨_, rfl⟩
  rw [hread] at hreadPackets ⊢
  rcases read with exc | packets
  all_goals
    simp [entriesWith, entries, TestRunObject.toDict, TestRunResult.object, Dict.set, Json.require, Json.getD,
      Dict.get, hstart, hfinish, hiterate, hreadTests, hreadPackets, bind, Except.bind, pure, Except.pure,
      Except.map, expected]

/-- **Which edits still load.** An edited run loads as the run with exactly the removed fields at their
defaults if and only if no packet event has a new key, or the packet events are removed altogether.
Source: `src/reporting/models.py` `TestRunResult.from_dict`
Kind: P -/
theorem loads_iff (iso : IsoFormat) (e : EditedRun iso)
    (hstarted : IsoInverse iso.startedAt iso.fromisoformat e.original.startedAt)
    (hfinished : ∀ t ∈ e.original.finishedAt, IsoInverse iso.finishedAt iso.fromisoformat t) :
    TestRunObject.fromDict iso (.dict e.edit.edited) = .ok e.expected ↔
      text "packet_events" ∈ e.edit.dropped ∨ ∀ p ∈ e.packetEvents, ¬ p.edit.AddsKeys := by
  have hpackets : (∀ p ∈ e.packetEvents, ¬ p.edit.AddsKeys) ↔
      (e.packetEvents.map fun p => Json.dict p.edit.edited).mapM PacketEvent.fromDict =
        .ok (e.packetEvents.map EditedPacket.expected) := by
    rw [mapM_eq_ok_iff]
    exact forall₂_congr fun p _ => p.fromDict_iff.symm
  rw [e.fromDict_eq hstarted hfinished, hpackets]
  by_cases hdropped : text "packet_events" ∈ e.edit.dropped
  · rw [if_pos hdropped]
    refine iff_of_true ?_ (Or.inl hdropped)
    simp [Except.map, EditedRun.expected, hdropped]
  · rw [if_neg hdropped, or_iff_right hdropped]
    generalize List.mapM PacketEvent.fromDict (e.packetEvents.map fun p => Json.dict p.edit.edited) = read
    rcases read with exc | packets
    · simp [Except.map]
    · simp [Except.map, EditedRun.expected, hdropped]

/-! ## Two edits -/

/-- An object with more keys behind its own.
Source: none: infrastructure
Kind: D -/
def Edit.adding (fields : Fields) (data more : List (PyStr × Json))
    (h : ∀ name ∈ fields.names, Dict.get (data ++ more) name = Dict.get data name) : Edit fields data where
  dropped := []
  edited := data ++ more
  dropped_subset := List.nil_subset _
  get_edited := fun name hname => by rw [h name hname, if_neg List.not_mem_nil]

/-- Source: none: infrastructure. Kind: D -/
def sampleTest : TestEvent where
  nodeid := .str (text "tests/ip/test_x.py::test_a")
  outcome := .failed
  durationS := .float (.ofDecimal false 25 (-2))
  markers := [text "client"]

/-- Source: none: infrastructure. Kind: D -/
def samplePacket : PacketEvent where
  timestamp := .float (.ofDecimal false 15 (-1))
  direction := .sent
  summary := .str (text "IP / TCP")
  sizeBytes := .int 60
  testNodeid := .null

/-- Source: none: infrastructure. Kind: D -/
def sampleRun : TestRunResult := { plainHeader with tests := [sampleTest], packetEvents := [samplePacket] }

/-- A run of a later version, in which every record but the packet event has a new key, and which has no
payload mode.
Source: none: infrastructure
Kind: D -/
def laterRun : EditedRun sampleIso where
  original := sampleRun
  tests := [⟨sampleTest, .adding _ _ [(text "retries", .int 2)] (by decide +kernel)⟩]
  packetEvents := [⟨samplePacket, .adding _ _ [] (by decide +kernel)⟩]
  tests_eq := rfl
  packetEvents_eq := rfl
  edit :=
    { dropped := [text "payload_mode"]
      edited := (text "schema", .int 3) :: (entriesWith sampleIso sampleRun
        [.dict (entries sampleTest.object.toDict ++ [(text "retries", .int 2)])]
        [samplePacket.toDict]).filter fun kv => kv.1 ≠ text "payload_mode"
      dropped_subset := by decide +kernel
      get_edited := by decide +kernel }

/-- It loads.
Source: `src/reporting/models.py` `TestRunResult.from_dict`
Kind: P -/
theorem laterRun_loads :
    TestRunObject.fromDict sampleIso (.dict laterRun.edit.edited) = .ok laterRun.expected := by
  apply (loads_iff sampleIso laterRun ?_ ?_).mpr
  · right
    intro p hp
    rw [List.mem_singleton.mp hp]
    rintro ⟨name, hname, hnew⟩
    revert name
    decide +kernel
  · exact ⟨by decide +kernel, by decide +kernel⟩
  · intro t ht
    cases ht

/-- The same run, whose packet event has a new key.
Source: none: infrastructure
Kind: D -/
def taggedRun : EditedRun sampleIso where
  original := sampleRun
  tests := [⟨sampleTest, .adding _ _ [] (by decide +kernel)⟩]
  packetEvents := [⟨samplePacket, .adding _ _ [(text "vlan", .int 7)] (by decide +kernel)⟩]
  tests_eq := rfl
  packetEvents_eq := rfl
  edit := .adding _ _ [] (by decide +kernel)

/-- **One new key in one packet event and the run does not load**, though nothing else was changed.
Source: `src/reporting/models.py` `PacketEvent.from_dict`
Kind: P -/
theorem taggedRun_does_not_load :
    taggedRun.expected = sampleRun.object ∧
      TestRunObject.fromDict sampleIso (.dict taggedRun.edit.edited) = .error .typeError := by
  constructor
  · decide +kernel
  · decide +kernel

end NetstackSuite.Reporting
