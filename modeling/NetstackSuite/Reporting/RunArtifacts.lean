import NetstackSuite.Python.TextFile
import NetstackSuite.Reporting.Serialization

/-!
# `results.json`

`RunArtifacts.save` and `RunArtifacts.load` of `src/run_artifacts.py`. `round_trip` is the result: what
was saved is loaded again, whatever the platform's line ends, and a configuration survives its own
dictionary and JSON. It assumes of JSON only that the scalars in the record read back, and of ISO 8601
only that the record's points in time do.
-/

namespace NetstackSuite.Reporting

open NetstackSuite.Python NetstackSuite.Config

/-- Source: `src/errors.py` `RunArtifactError`. Kind: D -/
def runArtifactError : PyExc := .other "RunArtifactError"

/-- Source: Python `FileNotFoundError`. Kind: D -/
def fileNotFoundError : PyExc := .other "FileNotFoundError"

/-- What the operating system allows: making the run's directory and writing the file.
Source: `src/run_artifacts.py` `RunArtifacts.save`
Kind: D -/
structure FileAccess where
  mkdir : Bool
  write : Bool

/-- The contents of `results.json` in a run's directory.
Source: `src/run_artifacts.py` `RunArtifacts.results`
Kind: D -/
structure RunDirectory where
  results : Option Bytes

/-- How many nested containers the interpreter's recursion limit leaves to the encoder and to the
decoder, and what it leaves to the copies of `asdict`. A run's dictionary has four containers, two of them in
a record; the limit is a thousand by default.
Source: Python `sys.getrecursionlimit`
Kind: D -/
structure RecursionLimits where
  dumps : Nat
  loads : Nat
  asdict : CopyLimit
  four_le_dumps : 4 ≤ dumps
  four_le_loads : 4 ≤ loads
  two_le_asdict : 2 * asdict.container + asdict.scalar ≤ asdict.frames

/-- Every record with two containers can be copied.
Source: Python `dataclasses.asdict`
Kind: L -/
lemma RecursionLimits.copies (limits : RecursionLimits) {v : Json} (h : Json.ReadsBack 2 v) :
    v.copyFrames limits.asdict ≤ limits.asdict.frames :=
  le_trans h.copyFrames_le limits.two_le_asdict

/-- Source: `src/run_artifacts.py` `RunArtifacts.save`. Kind: D -/
def save (iso : IsoFormat) (limits : RecursionLimits) (windows : Bool) (access : FileAccess)
    (result : TestRunObject) : Except PyExc RunDirectory := do
  if ¬ access.mkdir then throw runArtifactError
  let content ← Json.dumpsWith (some 2) 0 limits.dumps (← result.toDictWithin limits.asdict iso)
  if ¬ access.write then throw runArtifactError
  let data ← writeText windows content
  return { results := some data }

/-- Source: `src/run_artifacts.py` `RunArtifacts.load`. Kind: D -/
def load (iso : IsoFormat) (limits : RecursionLimits) (directory : RunDirectory) :
    Except PyExc TestRunObject :=
  match directory.results with
  | none => .error fileNotFoundError
  | some data => do
      let content ← readText data
      let value ← Json.loads limits.loads content
      TestRunObject.fromDict iso value

/-- `DUTConfig.from_dict(json.loads(json.dumps(config.to_dict())))`.
Source: `src/config.py` `DUTConfig.to_dict`, `from_dict`
Kind: D -/
def throughJson (limits : RecursionLimits) (config : DutConfigObject) : Except PyExc DutConfigObject := do
  let content ← Json.dumps limits.dumps (← Json.asdict limits.asdict config.toDict)
  let value ← Json.loads limits.loads content
  DutConfigObject.fromDict value

/-- JSON printing and parsing are inverse on a scalar.
Source: Python `json`
Kind: D -/
def JsonInverse (v : Json) : Prop := ∃ s, Json.dumps 0 v = .ok s ∧ Json.loads 0 s = .ok v

lemma JsonInverse.readsBack {v : Json} (h : JsonInverse v) : Json.ReadsBack 0 v := by
  obtain ⟨s, hdumps, hloads⟩ := h
  exact .scalar hdumps hloads

/-- A saved result is loaded again.
Source: `src/run_artifacts.py` `RunArtifacts.save`, `RunArtifacts.load`
Kind: L -/
lemma load_save {iso : IsoFormat} (limits : RecursionLimits) (windows : Bool) {result : TestRunResult}
    (hscalars : ∀ v ∈ result.scalars iso, JsonInverse v)
    (hstarted : IsoInverse iso.startedAt iso.fromisoformat result.startedAt)
    (hfinished : ∀ t ∈ result.finishedAt, IsoInverse iso.finishedAt iso.fromisoformat t) :
    ∃ directory, save iso limits windows ⟨true, true⟩ result.object = .ok directory ∧
      load iso limits directory = .ok result.object := by
  have hreads := readsBack_testRun fun v hv => (hscalars v hv).readsBack
  have hrecords := readsBack_records fun v hv => (hscalars v hv).readsBack
  have hdict : result.object.toDictWithin limits.asdict iso = .ok (result.object.toDict iso) := by
    rw [TestRunObject.toDictWithin_eq, if_pos fun v hv => limits.copies (hrecords v hv)]
  obtain ⟨content, hcontent, hloads⟩ :=
    Json.loads_dumpsWith hreads (some 2) limits.four_le_dumps limits.four_le_loads
  have hplain := Json.plainText_dumpsWith (some 2) 0 limits.dumps _ content hcontent
  have hascii : ∀ c ∈ content, c < 0x80 := by
    intro c hc
    rcases hplain c hc with rfl | ⟨-, hhigh⟩
    · decide
    · exact lt_of_le_of_lt hhigh (by decide)
  have hreturn : CR ∉ content := by
    intro hmem
    rcases hplain CR hmem with hline | ⟨hlow, -⟩
    · exact absurd hline (by decide)
    · exact absurd hlow (by decide)
  obtain ⟨data, hdata⟩ := exists_writeText windows hascii
  have hfromDict : TestRunObject.fromDict iso (result.object.toDict iso) = .ok result.object := by
    apply TestRunObject.fromDict_toDict
    · intro t ht
      rwa [← Option.some.inj ht]
    · exact hfinished
  refine ⟨{ results := some data }, ?_, ?_⟩
  · unfold save
    rw [hdict]
    simp [hcontent, hdata, bind, Except.bind, pure, Except.pure]
  · show (readText data >>= fun content => Json.loads limits.loads content >>= fun value =>
      TestRunObject.fromDict iso value) = _
    rw [readText_writeText hreturn hdata]
    show (Json.loads limits.loads content >>= fun value => TestRunObject.fromDict iso value) = _
    rw [hloads]
    exact hfromDict

/-- A configuration survives its dictionary and JSON.
Source: `src/config.py` `DUTConfig.to_dict`, `from_dict`
Kind: L -/
lemma throughJson_eq {config : DutConfig} (limits : RecursionLimits)
    (hscalars : ∀ v ∈ configScalars config, JsonInverse v) :
    throughJson limits (configObject config) = .ok (configObject config) := by
  have hreads := readsBack_config fun v hv => (hscalars v hv).readsBack
  have hdepth : 2 ≤ limits.dumps := le_trans (by decide) limits.four_le_dumps
  have hlimit : 2 ≤ limits.loads := le_trans (by decide) limits.four_le_loads
  obtain ⟨content, hcontent, hloads⟩ := Json.loads_dumpsWith hreads none hdepth hlimit
  rw [Json.dumpsWith_none] at hcontent
  unfold throughJson Json.asdict
  rw [if_pos (limits.copies hreads)]
  show (Json.dumps limits.dumps (configObject config).toDict >>= fun content =>
    Json.loads limits.loads content >>= fun value => DutConfigObject.fromDict value) = _
  rw [hcontent]
  show (Json.loads limits.loads content >>= fun value => DutConfigObject.fromDict value) = _
  rw [hloads]
  exact DutConfigObject.fromDict_toDict _

lemma optStr_injective : Function.Injective optStr := by
  rintro (_ | s) (_ | t) h
  · rfl
  · cases h
  · cases h
  · rw [Json.str.inj h]

lemma optInt_injective : Function.Injective optInt := by
  rintro (_ | i) (_ | j) h
  · rfl
  · cases h
  · cases h
  · rw [Json.int.inj h]

lemma markers_injective : Function.Injective (List.map Json.str) :=
  List.map_injective_iff.mpr fun _ _ h => Json.str.inj h

/-- The values of a test event determine it.
Source: `src/reporting/models.py` `TestEvent`
Kind: L -/
lemma testEvent_object_injective : Function.Injective TestEvent.object := by
  rintro ⟨nodeid, outcome, duration, markers, message⟩ ⟨nodeid', outcome', duration', markers', message'⟩ h
  simp only [TestEvent.object, TestEventObject.mk.injEq, Json.list.injEq] at h
  obtain ⟨rfl, rfl, rfl, hmarkers, rfl⟩ := h
  rw [markers_injective hmarkers]

/-- The values of a result determine it.
Source: `src/reporting/models.py` `TestRunResult`
Kind: L -/
lemma testRun_object_injective : Function.Injective TestRunResult.object := by
  intro r r' h
  simp only [TestRunResult.object, TestRunObject.mk.injEq, Json.str.injEq, Option.some.injEq] at h
  obtain ⟨hrun, hstarted, hfinished, hip, hstack, hplatform, hmode, hrole, hleg, htests, hpackets,
    hcode⟩ := h
  have htests' : r.tests = r'.tests := List.map_injective_iff.mpr testEvent_object_injective htests
  have hleg' : r.proxyLeg = r'.proxyLeg := optStr_injective hleg
  have hcode' : r.pytestReturncode = r'.pytestReturncode := optInt_injective hcode
  cases r
  cases r'
  simp_all

/-- The values of a configuration determine it.
Source: `src/config.py` `DUTConfig`
Kind: L -/
lemma configObject_injective : Function.Injective configObject := by
  intro c c' h
  simp only [configObject, DutConfigObject.mk.injEq, Json.float.injEq] at h
  obtain ⟨hinterface, hip, hstack, hmac, hport, hsource, htimeout, hrole, hleg, hallowed⟩ := h
  have hinterface' := optStr_injective hinterface
  have hip' := optStr_injective hip
  have hstack' := optStr_injective hstack
  have hmac' := optStr_injective hmac
  have hport' := optInt_injective hport
  have hsource' := optInt_injective hsource
  have hallowed' := markers_injective hallowed
  cases c
  cases c'
  simp_all

/-- **Results and configurations are read back as they were written.** For every result whose scalars
JSON gives back and whose points in time ISO 8601 gives back, saving succeeds and loading then gives an
equal result; for every configuration whose scalars JSON gives back, so does its dictionary.
Source: `src/run_artifacts.py` `RunArtifacts.save`, `RunArtifacts.load`; `src/config.py`
`DUTConfig.to_dict`, `DUTConfig.from_dict`
Kind: P -/
theorem round_trip (iso : IsoFormat) (limits : RecursionLimits) (windows : Bool)
    (result : TestRunResult) (config : DutConfig)
    (hresult : ∀ v ∈ result.scalars iso, JsonInverse v)
    (hstarted : IsoInverse iso.startedAt iso.fromisoformat result.startedAt)
    (hfinished : ∀ t ∈ result.finishedAt, IsoInverse iso.finishedAt iso.fromisoformat t)
    (hconfig : ∀ v ∈ configScalars config, JsonInverse v) :
    (∃ directory, save iso limits windows ⟨true, true⟩ result.object = .ok directory ∧
      load iso limits directory = .ok result.object) ∧
    (∀ other : TestRunResult, other.object = result.object → other = result) ∧
    throughJson limits (configObject config) = .ok (configObject config) ∧
    ∀ other : DutConfig, configObject other = configObject config → other = config := by
  refine ⟨load_save limits windows hresult hstarted hfinished, ?_, throughJson_eq limits hconfig, ?_⟩
  · exact fun other h => testRun_object_injective h
  · exact fun other h => configObject_injective h

/-- Source: none: infrastructure. Kind: D -/
def epochText : PyStr := text "1970-01-01T00:00:00+00:00"

/-- Source: none: infrastructure. Kind: D -/
def secondText : PyStr := text "1970-01-01T01:00:01+01:00"

/-- ISO 8601 of the epoch, in UTC, and of the second after it, an hour to the east.
Source: none: infrastructure
Kind: D -/
def sampleIso : IsoFormat where
  startedAt := fun _ => epochText
  finishedAt := fun _ => secondText
  fromisoformat := fun s =>
    if s = epochText then .ok 0 else if s = secondText then .ok 1000000 else .error .valueError

/-- Source: none: infrastructure. Kind: D -/
def sampleLimits : RecursionLimits where
  dumps := 4 + 896
  loads := 4 + 896
  asdict := { frames := 2 * 2 + 3 + 896, container := 2, scalar := 3 }
  four_le_dumps := Nat.le_add_right 4 896
  four_le_loads := Nat.le_add_right 4 896
  two_le_asdict := Nat.le_add_right (2 * 2 + 3) 896

/-- A finished run with a failed test and a packet.
Source: none: infrastructure
Kind: D -/
def sampleResult : TestRunResult :=
  { plainHeader with
    finishedAt := some 1000000
    tests := [{ nodeid := .str (text "tests/ip/test_x.py::test_a"), outcome := .failed,
                durationS := .float (.ofDecimal false 25 (-2)), markers := [text "client"],
                message := .str (text "E   \"é\" \n") }]
    packetEvents := [{ timestamp := .float (.ofDecimal false 15 (-1)), direction := .sent,
                       summary := .str (text "IP / TCP"), sizeBytes := .int 60, testNodeid := .null }]
    pytestReturncode := some 1 }

/-- Source: none: infrastructure. Kind: D -/
def sampleConfig : DutConfig where
  interface := some (text "eth0")
  targetIp := some (text "192.0.2.1")
  targetStack := some (text "linux")
  targetPort := some 443
  proxyLeg := some .front
  allowedTargets := [text "192.0.2.0/24"]

lemma jsonInverse_str {s : PyStr} (hs : Json.NoSplitPair s) : JsonInverse (.str s) :=
  ⟨Json.quoted s, rfl, Json.loads_quoted hs⟩

lemma jsonInverse_null : JsonInverse .null := ⟨text "null", rfl, by decide +kernel⟩

/-- A result and a configuration that come back.
Source: `src/run_artifacts.py` `RunArtifacts.save`, `RunArtifacts.load`
Kind: L -/
theorem round_trip_sample :
    (∃ directory, save sampleIso sampleLimits true ⟨true, true⟩ sampleResult.object = .ok directory ∧
      load sampleIso sampleLimits directory = .ok sampleResult.object) ∧
    (∀ other : TestRunResult, other.object = sampleResult.object → other = sampleResult) ∧
    throughJson sampleLimits (configObject sampleConfig) = .ok (configObject sampleConfig) ∧
    ∀ other : DutConfig, configObject other = configObject sampleConfig → other = sampleConfig := by
  refine round_trip sampleIso sampleLimits true sampleResult sampleConfig ?_ ?_ ?_ ?_
  · simp only [TestRunResult.scalars, sampleResult, plainHeader, List.flatMap_cons, List.flatMap_nil,
      TestEvent.scalars, PacketEvent.scalars, List.map_cons, List.map_nil, List.append_nil,
      List.cons_append, List.nil_append, List.forall_mem_cons, writeDateTime, optStr, optInt, Option.map]
    have half : JsonInverse (.float (.ofDecimal false 25 (-2))) :=
      ⟨text "0.25", by decide +kernel, by decide +kernel⟩
    have time : JsonInverse (.float (.ofDecimal false 15 (-1))) :=
      ⟨text "1.5", by decide +kernel, by decide +kernel⟩
    have sixty : JsonInverse (.int 60) := ⟨text "60", by decide +kernel, by decide +kernel⟩
    have one : JsonInverse (.int 1) := ⟨text "1", by decide +kernel, by decide +kernel⟩
    refine ⟨jsonInverse_str ?_, jsonInverse_str ?_, jsonInverse_str ?_, jsonInverse_str ?_,
      jsonInverse_str ?_, jsonInverse_str ?_, jsonInverse_str ?_, jsonInverse_str ?_, jsonInverse_null, one,
      jsonInverse_str ?_, half, jsonInverse_str ?_, jsonInverse_str ?_, time, jsonInverse_str ?_, sixty,
      jsonInverse_null, List.forall_mem_nil _⟩ <;>
      decide +kernel
  · exact ⟨by decide +kernel, by decide +kernel⟩
  · intro t ht
    obtain rfl := Option.some.inj ht
    exact ⟨by decide +kernel, by decide +kernel⟩
  · simp only [configScalars, sampleConfig, optStr, optInt, List.map_cons, List.map_nil, List.cons_append,
      List.nil_append, List.forall_mem_cons]
    have port : JsonInverse (.int 443) := ⟨text "443", by decide +kernel, by decide +kernel⟩
    have two : JsonInverse (.float (.ofDecimal false 2 0)) :=
      ⟨text "2.0", by decide +kernel, by decide +kernel⟩
    refine ⟨jsonInverse_str ?_, jsonInverse_str ?_, jsonInverse_str ?_, jsonInverse_null, port,
      jsonInverse_null, two, jsonInverse_str ?_, List.forall_mem_nil _⟩ <;>
      decide +kernel

end NetstackSuite.Reporting
