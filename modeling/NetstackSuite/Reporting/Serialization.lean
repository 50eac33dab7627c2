import NetstackSuite.Config.DutConfig
import NetstackSuite.Python.JsonRoundTrip
import NetstackSuite.Reporting.Models

/-!
# Dictionaries of results and configurations

`to_dict` and `from_dict` of `src/reporting/models.py` and of `DUTConfig` (`src/config.py`). A
`from_dict` decides the types of enumerations, points in time and nested records; it copies every other
value as it is. What it returns is therefore an object whose other fields hold any JSON value
(`TestEventObject`, `TestRunObject`, `DutConfigObject`), and a result or a configuration of the declared
types is one of these objects (`TestRunResult.object`, `DutConfig.object`).

Each `from_dict` inverts its `to_dict` (`fromDict_toDict`), and each dictionary is one that JSON gives
back if the values of its fields are (`readsBack_toDict`).
-/

namespace NetstackSuite.Reporting

open NetstackSuite.Python NetstackSuite.Config

/-- `TestOutcome(v)`: a lookup by value, `ValueError` for anything else.
Source: `src/reporting/models.py` `TestOutcome`
Kind: D -/
def TestOutcome.ofValue (v : Json) : Except PyExc TestOutcome :=
  if v.eqStr TestOutcome.passed.value then .ok .passed
  else if v.eqStr TestOutcome.failed.value then .ok .failed
  else if v.eqStr TestOutcome.skipped.value then .ok .skipped
  else if v.eqStr TestOutcome.error.value then .ok .error
  else .error .valueError

@[simp] lemma TestOutcome.ofValue_value (o : TestOutcome) : TestOutcome.ofValue (.str o.value) = .ok o := by
  cases o <;> decide +kernel

/-- A text or `None`.
Source: none: infrastructure
Kind: D -/
def optStr (s : Option PyStr) : Json :=
  match s with
  | some s => .str s
  | none => .null

/-- An integer or `None`.
Source: none: infrastructure
Kind: D -/
def optInt (i : Option Int) : Json :=
  match i with
  | some i => .int i
  | none => .null

/-! ## Packet events -/

/-- The names of the fields of a packet event.
Source: `src/reporting/models.py` `PacketEvent`
Kind: D -/
def packetEventFields : List PyStr :=
  [text "timestamp", text "direction", text "summary", text "size_bytes", text "test_nodeid"]

/-- Unknown keys are unexpected keyword arguments.
Source: `src/reporting/models.py` `PacketEvent.from_dict`
Kind: D -/
def PacketEvent.fromDict : Json → Except PyExc PacketEvent
  | .dict data => do
      let direction ← PacketDirection.ofValue (← Json.require .keyError data (text "direction"))
      if ¬ ∀ key ∈ Dict.keys data, key ∈ packetEventFields then throw .typeError
      let timestamp ← Json.require .typeError data (text "timestamp")
      let summary ← Json.require .typeError data (text "summary")
      let sizeBytes ← Json.require .typeError data (text "size_bytes")
      return { timestamp, direction, summary, sizeBytes, testNodeid := Json.get data (text "test_nodeid") }
  | _ => .error .typeError

/-! ## Test events -/

/-- A test event as `from_dict` makes it: the markers are not looked at.
Source: `src/reporting/models.py` `TestEvent`
Kind: D -/
structure TestEventObject where
  nodeid : Json
  outcome : TestOutcome
  durationS : Json
  markers : Json
  message : Json
  deriving DecidableEq

/-- Source: `src/reporting/models.py` `TestEvent`. Kind: D -/
def TestEvent.object (t : TestEvent) : TestEventObject where
  nodeid := t.nodeid
  outcome := t.outcome
  durationS := t.durationS
  markers := .list (t.markers.map .str)
  message := t.message

/-- Source: `src/reporting/models.py` `TestEvent.to_dict`. Kind: D -/
def TestEventObject.toDict (t : TestEventObject) : Json :=
  .dict [(text "nodeid", t.nodeid), (text "outcome", .str t.outcome.value),
    (text "duration_s", t.durationS), (text "markers", t.markers), (text "message", t.message)]

/-- Unknown keys are dropped.
Source: `src/reporting/models.py` `TestEvent.from_dict`
Kind: D -/
def TestEventObject.fromDict : Json → Except PyExc TestEventObject
  | .dict data => do
      let outcome ← TestOutcome.ofValue (← Json.require .keyError data (text "outcome"))
      let nodeid ← Json.require .typeError data (text "nodeid")
      let durationS ← Json.require .typeError data (text "duration_s")
      return { nodeid, outcome, durationS, markers := Json.getD data (text "markers") (.list []),
               message := Json.get data (text "message") }
  | _ => .error .attributeError

/-! ## Runs -/

/-- `datetime.isoformat` of the two points in time of a run, each in its own time zone, and
`datetime.fromisoformat`. Aware datetimes are equal when they are the same point in time.
Source: Python `datetime`
Kind: D -/
structure IsoFormat where
  startedAt : DateTime → PyStr
  finishedAt : DateTime → PyStr
  fromisoformat : PyStr → Except PyExc DateTime

/-- A run as `from_dict` makes it.
Source: `src/reporting/models.py` `TestRunResult`
Kind: D -/
structure TestRunObject where
  runId : Json
  startedAt : Option DateTime
  finishedAt : Option DateTime
  targetIp : Json
  targetStack : Json
  hostPlatform : Json
  payloadMode : Json
  role : Json
  proxyLeg : Json
  tests : List TestEventObject
  packetEvents : List PacketEvent
  pytestReturncode : Json
  deriving DecidableEq

/-- Source: `src/reporting/models.py` `TestRunResult`. Kind: D -/
def TestRunResult.object (r : TestRunResult) : TestRunObject where
  runId := .str r.runId
  startedAt := some r.startedAt
  finishedAt := r.finishedAt
  targetIp := .str r.targetIp
  targetStack := .str r.targetStack
  hostPlatform := .str r.hostPlatform
  payloadMode := .str r.payloadMode
  role := .str r.role
  proxyLeg := optStr r.proxyLeg
  tests := r.tests.map TestEvent.object
  packetEvents := r.packetEvents
  pytestReturncode := optInt r.pytestReturncode

/-- `value.isoformat() if value else None`.
Source: `src/reporting/models.py` `TestRunResult.to_dict`
Kind: D -/
def writeDateTime (isoformat : DateTime → PyStr) (value : Option DateTime) : Json :=
  optStr (value.map isoformat)

/-- `datetime.fromisoformat(raw) if raw else None`.
Source: `src/reporting/models.py` `TestRunResult.from_dict`
Kind: D -/
def readDateTime (fromisoformat : PyStr → Except PyExc DateTime) (raw : Json) :
    Except PyExc (Option DateTime) :=
  if raw.truthy then
    match raw with
    | .str s => (fromisoformat s).map some
    | _ => .error .typeError
  else .ok none

/-- The dictionary that `to_dict` returns.
Source: `src/reporting/models.py` `TestRunResult.to_dict`
Kind: D -/
def TestRunObject.toDict (iso : IsoFormat) (r : TestRunObject) : Json :=
  .dict [(text "run_id", r.runId),
    (text "started_at", writeDateTime iso.startedAt r.startedAt),
    (text "finished_at", writeDateTime iso.finishedAt r.finishedAt),
    (text "target_ip", r.targetIp), (text "target_stack", r.targetStack),
    (text "host_platform", r.hostPlatform), (text "payload_mode", r.payloadMode),
    (text "role", r.role), (text "proxy_leg", r.proxyLeg),
    (text "tests", .list (r.tests.map TestEventObject.toDict)),
    (text "packet_events", .list (r.packetEvents.map PacketEvent.toDict)),
    (text "pytest_returncode", r.pytestReturncode)]

/-- The records of a run.
Source: `src/reporting/models.py` `TestRunResult.to_dict`
Kind: D -/
def TestRunObject.records (r : TestRunObject) : List Json :=
  r.tests.map TestEventObject.toDict ++ r.packetEvents.map PacketEvent.toDict

/-- `to_dict` of a run: the dictionary, if `asdict` can copy each record in it.
Source: `src/reporting/models.py` `TestRunResult.to_dict`, `TestEvent.to_dict`, `PacketEvent.to_dict`
Kind: D -/
def TestRunObject.toDictWithin (limit : CopyLimit) (iso : IsoFormat) (r : TestRunObject) :
    Except PyExc Json := do
  let _ ← r.records.mapM (Json.asdict limit)
  return r.toDict iso

/-- Source: `src/reporting/models.py` `TestRunResult.to_dict`. Kind: L -/
lemma TestRunObject.toDictWithin_eq (limit : CopyLimit) (iso : IsoFormat) (r : TestRunObject) :
    r.toDictWithin limit iso = if ∀ v ∈ r.records, v.copyFrames limit ≤ limit.frames then .ok (r.toDict iso)
      else .error .recursionError := by
  unfold TestRunObject.toDictWithin
  rw [Json.mapM_asdict]
  split
  · rfl
  · rfl

/-- What `from_dict` raises for a value that is no object: its first question is whether `run_id` is in
it, its second one is `data.get`.
Source: `src/reporting/models.py` `TestRunResult.from_dict`
Kind: D -/
def notAnObject : Json → PyExc
  | .list xs => if xs.any (·.eqStr (text "run_id")) then .typeError else .attributeError
  | .str s => if s.tails.any (text "run_id").isPrefixOf then .typeError else .attributeError
  | _ => .typeError

/-- Unknown keys are dropped, and absent ones leave a field its default.
Source: `src/reporting/models.py` `TestRunResult.from_dict`
Kind: D -/
def TestRunObject.fromDict (iso : IsoFormat) : Json → Except PyExc TestRunObject
  | .dict data => do
      let startedAt ← readDateTime iso.fromisoformat (Json.get data (text "started_at"))
      let finishedAt ← readDateTime iso.fromisoformat (Json.get data (text "finished_at"))
      let tests ← (← (Json.getD data (text "tests") (.list [])).iterate).mapM TestEventObject.fromDict
      let packetEvents ←
        (← (Json.getD data (text "packet_events") (.list [])).iterate).mapM PacketEvent.fromDict
      let runId ← Json.require .typeError data (text "run_id")
      let targetIp ← Json.require .typeError data (text "target_ip")
      let targetStack ← Json.require .typeError data (text "target_stack")
      let hostPlatform ← Json.require .typeError data (text "host_platform")
      return { runId, startedAt, finishedAt, targetIp, targetStack, hostPlatform,
               payloadMode := Json.getD data (text "payload_mode") (.str (text "random")),
               role := Json.getD data (text "role") (.str (text "client")),
               proxyLeg := Json.get data (text "proxy_leg"), tests, packetEvents,
               pytestReturncode := Json.get data (text "pytest_returncode") }
  | v => .error (notAnObject v)

/-! ## Configurations -/

/-- A configuration as `from_dict` makes it.
Source: `src/config.py` `DUTConfig`
Kind: D -/
structure DutConfigObject where
  interface : Json
  targetIp : Json
  targetStack : Json
  targetMac : Json
  targetPort : Json
  sourcePort : Json
  timeout : Json
  role : Role
  proxyLeg : Option ProxyLeg
  allowedTargets : List Json
  deriving DecidableEq

/-- Source: `src/config.py` `DUTConfig`. Kind: D -/
def configObject (config : DutConfig) : DutConfigObject where
  interface := optStr config.interface
  targetIp := optStr config.targetIp
  targetStack := optStr config.targetStack
  targetMac := optStr config.targetMac
  targetPort := optInt config.targetPort
  sourcePort := optInt config.sourcePort
  timeout := .float config.timeout
  role := config.role
  proxyLeg := config.proxyLeg
  allowedTargets := config.allowedTargets.map .str

/-- Source: `src/config.py` `DUTConfig.to_dict`. Kind: D -/
def DutConfigObject.toDict (config : DutConfigObject) : Json :=
  .dict [(text "interface", config.interface), (text "target_ip", config.targetIp),
    (text "target_stack", config.targetStack), (text "target_mac", config.targetMac),
    (text "target_port", config.targetPort), (text "source_port", config.sourcePort),
    (text "timeout", config.timeout), (text "role", .str config.role.value),
    (text "proxy_leg", optStr (config.proxyLeg.map ProxyLeg.value)),
    (text "allowed_targets", .list config.allowedTargets)]

/-- `Role(value)` of any value.
Source: `src/config.py` `Role`
Kind: D -/
def roleOf : Json → Except PyExc Role
  | .str s => Role.ofValue s
  | _ => .error .valueError

/-- `ProxyLeg(value)` of any value.
Source: `src/config.py` `ProxyLeg`
Kind: D -/
def proxyLegOf : Json → Except PyExc ProxyLeg
  | .str s => ProxyLeg.ofValue s
  | _ => .error .valueError

/-- Unknown keys are dropped; a leg is set if its value is truthy.
Source: `src/config.py` `DUTConfig.from_dict`
Kind: D -/
def DutConfigObject.fromDict : Json → Except PyExc DutConfigObject
  | .dict data => do
      let allowedTargets ← (Json.getD data (text "allowed_targets") (.list [])).iterate
      let role ← roleOf (Json.getD data (text "role") (.str (text "client")))
      let proxyLeg ←
        if (Json.get data (text "proxy_leg")).truthy then
          (proxyLegOf (Json.get data (text "proxy_leg"))).map some
        else .ok none
      let interface ← Json.require .typeError data (text "interface")
      let targetIp ← Json.require .typeError data (text "target_ip")
      let targetStack ← Json.require .typeError data (text "target_stack")
      return { interface, targetIp, targetStack, targetMac := Json.get data (text "target_mac"),
               targetPort := Json.get data (text "target_port"),
               sourcePort := Json.get data (text "source_port"),
               timeout := Json.getD data (text "timeout") (.float (.ofDecimal false 2 0)),
               role, proxyLeg, allowedTargets }
  | _ => .error .attributeError

/-! ## The dictionaries are read back -/

lemma PacketEvent.fromDict_toDict (e : PacketEvent) : PacketEvent.fromDict e.toDict = .ok e := by
  unfold PacketEvent.toDict PacketEvent.fromDict
  simp [Json.require, Json.get, Json.getD, Dict.get, Dict.keys, packetEventFields, bind, Except.bind,
    pure, Except.pure]

lemma TestEventObject.fromDict_toDict (t : TestEventObject) :
    TestEventObject.fromDict t.toDict = .ok t := by
  unfold TestEventObject.toDict TestEventObject.fromDict
  simp [Json.require, Json.get, Json.getD, Dict.get, bind, Except.bind, pure, Except.pure]

/-- A list of records is read back if every record is.
Source: none: infrastructure
Kind: L -/
lemma mapM_fromDict {α : Type} {toDict : α → Json} {fromDict : Json → Except PyExc α}
    (h : ∀ a, fromDict (toDict a) = .ok a) (xs : List α) :
    (xs.map toDict).mapM fromDict = .ok xs := by
  induction xs with
  | nil => rfl
  | cons x xs ih =>
      rw [List.map_cons, List.mapM_cons, h, ih]
      rfl

/-- A point in time is written so that it can be read.
Source: Python `datetime.isoformat`, `datetime.fromisoformat`
Kind: D -/
def IsoInverse (isoformat : DateTime → PyStr) (fromisoformat : PyStr → Except PyExc DateTime)
    (value : DateTime) : Prop := isoformat value ≠ [] ∧ fromisoformat (isoformat value) = .ok value

lemma readDateTime_writeDateTime {isoformat : DateTime → PyStr}
    {fromisoformat : PyStr → Except PyExc DateTime} {value : Option DateTime}
    (h : ∀ t ∈ value, IsoInverse isoformat fromisoformat t) :
    readDateTime fromisoformat (writeDateTime isoformat value) = .ok value := by
  rcases value with _ | t
  · rfl
  · obtain ⟨hne, hinverse⟩ := h t rfl
    obtain ⟨c, s, hs⟩ := List.exists_cons_of_ne_nil hne
    unfold writeDateTime readDateTime optStr
    simp only [Option.map_some]
    rw [hs] at hinverse ⊢
    rw [if_pos (by rfl), hinverse]
    rfl

/-- **A run is read back from its dictionary.**
Source: `src/reporting/models.py` `TestRunResult.to_dict`, `from_dict`
Kind: P -/
theorem TestRunObject.fromDict_toDict {iso : IsoFormat} {r : TestRunObject}
    (hstarted : ∀ t ∈ r.startedAt, IsoInverse iso.startedAt iso.fromisoformat t)
    (hfinished : ∀ t ∈ r.finishedAt, IsoInverse iso.finishedAt iso.fromisoformat t) :
    TestRunObject.fromDict iso (r.toDict iso) = .ok r := by
  have htests := mapM_fromDict TestEventObject.fromDict_toDict r.tests
  have hpackets := mapM_fromDict PacketEvent.fromDict_toDict r.packetEvents
  unfold TestRunObject.toDict TestRunObject.fromDict
  simp [Json.require, Json.get, Json.getD, Dict.get, Json.iterate, readDateTime_writeDateTime hstarted,
    readDateTime_writeDateTime hfinished, htests, hpackets, bind, Except.bind, pure, Except.pure]

/-- **A configuration is read back from its dictionary.**
Source: `src/config.py` `DUTConfig.to_dict`, `from_dict`
Kind: P -/
theorem DutConfigObject.fromDict_toDict (config : DutConfigObject) :
    DutConfigObject.fromDict config.toDict = .ok config := by
  unfold DutConfigObject.toDict DutConfigObject.fromDict
  obtain ⟨interface, targetIp, targetStack, targetMac, targetPort, sourcePort, timeout, role, leg,
    allowed⟩ := config
  have hfront : text "front" ≠ [] := by decide
  have hback : text "back" ≠ [] := by decide
  rcases leg with _ | _ | _ <;>
    simp [hfront, hback, Json.require, Json.get, Json.getD, Dict.get, Json.iterate, roleOf,
      proxyLegOf, optStr, Json.truthy, ProxyLeg.value, ProxyLeg.ofValue, Except.map, bind,
      Except.bind, pure, Except.pure]

/-! ## The dictionaries survive JSON -/

/-- A record survives JSON if its fields do.
Source: Python `json`
Kind: L -/
lemma readsBack_record {n : Nat} (names : List PyStr) {kvs : List (PyStr × Json)}
    (hnames : Dict.keys kvs = names) (hnodup : names.Nodup) (hplain : ∀ name ∈ names, Json.NoSplitPair name)
    (hvalues : ∀ kv ∈ kvs, Json.ReadsBack n kv.2) : Json.ReadsBack (n + 1) (.dict kvs) := by
  refine .dict (hnames ▸ hnodup) ?_ hvalues
  intro kv hkv
  apply Json.loads_quoted
  apply hplain
  rw [← hnames]
  exact List.mem_map_of_mem hkv

/-- The scalars among the fields of a packet event.
Source: none: specification
Kind: D -/
def PacketEvent.scalars (e : PacketEvent) : List Json :=
  [e.timestamp, e.summary, e.sizeBytes, e.testNodeid]

/-- The scalars among the fields of a test event.
Source: none: specification
Kind: D -/
def TestEvent.scalars (t : TestEvent) : List Json :=
  [t.nodeid, t.durationS, t.message] ++ t.markers.map .str

/-- The scalars of a run's dictionary that are not written by an enumeration.
Source: none: specification
Kind: D -/
def TestRunResult.scalars (iso : IsoFormat) (r : TestRunResult) : List Json :=
  [.str r.runId, writeDateTime iso.startedAt (some r.startedAt),
    writeDateTime iso.finishedAt r.finishedAt, .str r.targetIp, .str r.targetStack, .str r.hostPlatform,
    .str r.payloadMode, .str r.role, optStr r.proxyLeg, optInt r.pytestReturncode] ++
  r.tests.flatMap TestEvent.scalars ++ r.packetEvents.flatMap PacketEvent.scalars

/-- The scalars of a configuration's dictionary that are not written by an enumeration.
Source: none: specification
Kind: D -/
def configScalars (config : DutConfig) : List Json :=
  [optStr config.interface, optStr config.targetIp, optStr config.targetStack, optStr config.targetMac,
    optInt config.targetPort, optInt config.sourcePort, .float config.timeout] ++
  config.allowedTargets.map .str

lemma readsBack_packetEvent {n : Nat} {e : PacketEvent} (h : ∀ v ∈ e.scalars, Json.ReadsBack n v) :
    Json.ReadsBack (n + 1) e.toDict := by
  have hdirection : Json.ReadsBack n (.str e.direction.value) :=
    Json.readsBack_str (by cases e.direction <;> decide +kernel) n
  simp only [PacketEvent.scalars, List.forall_mem_cons] at h
  obtain ⟨htimestamp, hsummary, hsize, hnodeid, -⟩ := h
  apply readsBack_record packetEventFields rfl (by decide +kernel) (by decide +kernel)
  simp only [List.forall_mem_cons]
  exact ⟨htimestamp, hdirection, hsummary, hsize, hnodeid, nofun⟩

lemma readsBack_testEvent {t : TestEvent} (h : ∀ v ∈ t.scalars, Json.ReadsBack 0 v) :
    Json.ReadsBack 2 t.object.toDict := by
  have houtcome : Json.ReadsBack 1 (.str t.outcome.value) :=
    Json.readsBack_str (by cases t.outcome <;> decide +kernel) 1
  unfold TestEvent.scalars at h
  obtain ⟨hfields, hmarkers⟩ := List.forall_mem_append.mp h
  simp only [List.forall_mem_cons] at hfields
  obtain ⟨hnodeid, hduration, hmessage, -⟩ := hfields
  refine readsBack_record [text "nodeid", text "outcome", text "duration_s", text "markers",
    text "message"] rfl (by decide +kernel) (by decide +kernel) ?_
  simp only [List.forall_mem_cons]
  exact ⟨hnodeid.mono (by decide), houtcome, hduration.mono (by decide), .list hmarkers,
    hmessage.mono (by decide), nofun⟩

/-- The records of a run of the declared types have two containers at most.
Source: `src/reporting/models.py` `TestEvent`, `PacketEvent`
Kind: L -/
lemma readsBack_records {iso : IsoFormat} {r : TestRunResult}
    (h : ∀ v ∈ r.scalars iso, Json.ReadsBack 0 v) : ∀ v ∈ r.object.records, Json.ReadsBack 2 v := by
  unfold TestRunResult.scalars at h
  obtain ⟨hrest, hpackets⟩ := List.forall_mem_append.mp h
  obtain ⟨-, htests⟩ := List.forall_mem_append.mp hrest
  refine List.forall_mem_append.mpr ⟨?_, ?_⟩
  · intro v hv
    obtain ⟨object, hobject, rfl⟩ := List.mem_map.mp hv
    obtain ⟨t, ht, rfl⟩ := List.mem_map.mp hobject
    exact readsBack_testEvent fun v hv => htests v (List.mem_flatMap.mpr ⟨t, ht, hv⟩)
  · intro v hv
    obtain ⟨e, he, rfl⟩ := List.mem_map.mp hv
    exact (readsBack_packetEvent fun v hv => hpackets v (List.mem_flatMap.mpr ⟨e, he, hv⟩)).mono
      (by decide)

/-- **The dictionary of a run survives JSON if its scalars do.**
Source: `src/reporting/models.py` `TestRunResult.to_dict`
Kind: P -/
lemma readsBack_testRun {iso : IsoFormat} {r : TestRunResult}
    (h : ∀ v ∈ r.scalars iso, Json.ReadsBack 0 v) : Json.ReadsBack 4 (r.object.toDict iso) := by
  have hrecords := readsBack_records h
  unfold TestRunResult.scalars at h
  obtain ⟨hfields, -⟩ := List.forall_mem_append.mp (List.forall_mem_append.mp h).1
  simp only [List.forall_mem_cons] at hfields
  obtain ⟨hrun, hstarted, hfinished, hip, hstack, hplatform, hmode, hrole, hleg, hcode, -⟩ := hfields
  have hfour : 0 ≤ 3 := by decide
  refine readsBack_record [text "run_id", text "started_at", text "finished_at",
    text "target_ip", text "target_stack", text "host_platform", text "payload_mode", text "role",
    text "proxy_leg", text "tests", text "packet_events", text "pytest_returncode"] rfl
    (by decide +kernel) (by decide +kernel) ?_
  simp only [List.forall_mem_cons]
  refine ⟨hrun.mono hfour, hstarted.mono hfour, hfinished.mono hfour, hip.mono hfour, hstack.mono hfour,
    hplatform.mono hfour, hmode.mono hfour, hrole.mono hfour, hleg.mono hfour, .list ?_, .list ?_,
    hcode.mono hfour, nofun⟩
  · exact fun v hv => hrecords v (List.mem_append_left _ hv)
  · exact fun v hv => hrecords v (List.mem_append_right _ hv)

/-- **The dictionary of a configuration survives JSON if its scalars do.**
Source: `src/config.py` `DUTConfig.to_dict`
Kind: P -/
lemma readsBack_config {config : DutConfig} (h : ∀ v ∈ configScalars config, Json.ReadsBack 0 v) :
    Json.ReadsBack 2 (configObject config).toDict := by
  have hrole : Json.ReadsBack 1 (.str config.role.value) :=
    Json.readsBack_str (by cases config.role <;> decide +kernel) 1
  have hleg : Json.ReadsBack 1 (optStr (config.proxyLeg.map ProxyLeg.value)) := by
    rcases config.proxyLeg with _ | leg
    · exact Json.readsBack_null 1
    · exact Json.readsBack_str (by cases leg <;> decide +kernel) 1
  unfold configScalars at h
  obtain ⟨hfields, hallowed⟩ := List.forall_mem_append.mp h
  simp only [List.forall_mem_cons] at hfields
  obtain ⟨hinterface, hip, hstack, hmac, hport, hsource, htimeout, -⟩ := hfields
  have hone : 0 ≤ 1 := by decide
  refine readsBack_record [text "interface", text "target_ip", text "target_stack",
    text "target_mac", text "target_port", text "source_port", text "timeout", text "role",
    text "proxy_leg", text "allowed_targets"] rfl (by decide +kernel) (by decide +kernel) ?_
  simp only [List.forall_mem_cons]
  exact ⟨hinterface.mono hone, hip.mono hone, hstack.mono hone, hmac.mono hone, hport.mono hone,
    hsource.mono hone, htimeout.mono hone, hrole, hleg, .list hallowed, nofun⟩

end NetstackSuite.Reporting
