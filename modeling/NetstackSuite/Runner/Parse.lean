import NetstackSuite.Python.JsonLoads
import NetstackSuite.Reporting.Models

/-!
# The two record parsers of `src/runner.py`

`parseReportLogLine` maps one line of pytest's report log to a test event, `parsePacketEventLine` one
line of the packet-event log to a packet event. Both read an arbitrary JSON value through accesses
that check little, so each returns in `Except PyExc`: an exception that the code does not catch is
an `.error`, a line it skips is `.ok none`.

The two differ in what they catch: the report-log parser only `JSONDecodeError`, around `json.loads`
alone; the packet parser `JSONDecodeError`, `KeyError`, `TypeError` and `ValueError`, around the
construction of the event as well.
-/

namespace NetstackSuite.Runner

open NetstackSuite.Python NetstackSuite.Reporting

/-- What the parsers take from their surroundings.
Source: none: infrastructure
Kind: D -/
structure Runtime where
  /-- Nested containers the interpreter's recursion limit admits in `json.loads`. -/
  recursionLimit : Nat
  /-- The marker declarations in `pyproject.toml`, if the file can be read. -/
  markerEntries : Option (List PyStr)
  /-- `str(v)` of a value that is no string. -/
  str : Json → PyStr

/-- The markers declared in pyproject.toml: the text before the first `:` of each entry, stripped;
none if the file cannot be read.
Source: `src/runner.py` `_registered_markers`
Kind: D -/
def registeredMarkers (entries : Option (List PyStr)) : List PyStr :=
  (entries.getD []).map fun entry => strip (entry.takeWhile fun c => c ≠ Json.COLON)

/-- Source: `src/runner.py` `KNOWN_MARKERS`
Kind: D -/
def Runtime.knownMarkers (R : Runtime) : List PyStr := registeredMarkers R.markerEntries

/-- Plain surroundings, for concrete runs on records that need no `str`.
Source: none: infrastructure
Kind: D -/
def plainRuntime : Runtime where
  recursionLimit := 1000
  markerEntries := some [text "tcp: TCP (RFC 9293) layer tests"]
  str _ := []

/-! ## Report-log lines -/

/-- The text shown for a report that is not a pass. A `reprcrash` that is neither falsy nor an
object has no `.get`.
Source: `src/runner.py` `_extract_message`
Kind: D -/
def extractMessage (R : Runtime) (data : List (PyStr × Json)) : Except PyExc Json :=
  let longrepr := Json.get data (text "longrepr")
  if longrepr.truthy = false then .ok .null
  else
    match longrepr with
    | .dict kvs =>
        let reprcrash := Json.get kvs (text "reprcrash")
        if reprcrash.truthy = false then .ok .null
        else
          match reprcrash with
          | .dict crash => .ok (Json.get crash (text "message"))
          | _ => .error .attributeError
    | .list [_, _, .str reason] =>
        -- skips are serialized as [path, lineno, "Skipped: <reason>"]
        .ok (.str reason)
    | .list xs => .ok (.str (R.str (.list xs)))
    | .str s =>
        match (splitlines (strip s)).getLast? with
        | some line => .ok (.str line)
        | none => .ok .null
    | v => .ok (.str (R.str v))

/-- The outcome of a `call` report: a dictionary lookup, so the key must be hashable.
Source: `src/runner.py` `parse_report_log_line`
Kind: D -/
def callOutcome (outcomeStr : Json) : Except PyExc TestOutcome :=
  match outcomeStr.hashKey with
  | none => .error .typeError
  | some k =>
      if k = .str (text "passed") then .ok .passed
      else if k = .str (text "failed") then .ok .failed
      else if k = .str (text "skipped") then .ok .skipped
      else .ok .error

/-- The outcome a phase carries, `none` for a report that carries no verdict.
Source: `src/runner.py` `parse_report_log_line`
Kind: D -/
def phaseOutcome (phase outcomeStr : Json) : Except PyExc (Option TestOutcome) :=
  if phase.eqStr (text "call") then do
    let outcome ← callOutcome outcomeStr
    return some outcome
  else if phase.eqStr (text "setup") then
    if outcomeStr.eqStr (text "passed") then .ok none
    else if outcomeStr.eqStr (text "skipped") then .ok (some .skipped)
    else .ok (some .error)
  else if phase.eqStr (text "teardown") then
    if outcomeStr.eqStr (text "failed") then .ok (some .error) else .ok none
  else .ok none

/-- `[k for k in keywords if k in KNOWN_MARKERS]`: each element is hashed.
Source: `src/runner.py` `parse_report_log_line`
Kind: D -/
def selectMarkers (known : List PyStr) : List Json → Except PyExc (List PyStr)
  | [] => .ok []
  | k :: ks =>
      match k.hashKey with
      | none => .error .typeError
      | some (.str s) => do
          let rest ← selectMarkers known ks
          return if s ∈ known then s :: rest else rest
      | some _ => selectMarkers known ks

/-- Map one report to a test event, or `none` to ignore it.
Source: `src/runner.py` `parse_report_log_line`
Kind: D -/
def parseReport (R : Runtime) (data : List (PyStr × Json)) : Except PyExc (Option TestEvent) := do
  if (Json.get data (text "$report_type")).eqStr (text "TestReport") = false then return none
  let some outcome ← phaseOutcome (Json.get data (text "when"))
      (Json.getD data (text "outcome") (.str [])) | return none
  let message ← if outcome = .passed then pure .null else extractMessage R data
  let keywords ← (Json.getD data (text "keywords") (.dict [])).iterate
  let markers ← selectMarkers R.knownMarkers keywords
  return some {
    nodeid := Json.getD data (text "nodeid") (.str (text "<unknown>"))
    outcome := outcome
    durationS := Json.getD data (text "duration") (.float (PyFloat.zero false))
    markers := markers
    message := message }

/-- Map one report-log line to a test event, or `none` to ignore it. Only `JSONDecodeError` is
caught.
Source: `src/runner.py` `parse_report_log_line`
Kind: D -/
def parseReportLogLine (R : Runtime) (line : PyStr) : Except PyExc (Option TestEvent) :=
  match Json.loads R.recursionLimit line with
  | .error .jsonDecodeError => .ok none
  | .error e => .error e
  | .ok (.dict data) => parseReport R data
  | .ok _ => .ok none

/-! ## Packet-event lines -/

/-- `data[key]` for a string key: a list or a string has no such index, and only objects have keys.
Source: `src/runner.py` `drain_packet_events`
Kind: D -/
def item (data : Json) (key : PyStr) : Except PyExc Json :=
  match data with
  | .dict kvs =>
      match Dict.get kvs key with
      | some v => .ok v
      | none => .error .keyError
  | _ => .error .typeError

/-- `data.get(key)`: only objects have it.
Source: `src/runner.py` `drain_packet_events`
Kind: D -/
def getAttr (data : Json) (key : PyStr) : Except PyExc Json :=
  match data with
  | .dict kvs => .ok (Json.get kvs key)
  | _ => .error .attributeError

/-- The event of one record.
Source: `src/runner.py` `drain_packet_events`
Kind: D -/
def packetEventOf (data : Json) : Except PyExc PacketEvent := do
  let timestamp ← item data (text "timestamp")
  let directionValue ← item data (text "direction")
  let direction ← PacketDirection.ofValue directionValue
  let summary ← item data (text "summary")
  let sizeBytes ← item data (text "size_bytes")
  let testNodeid ← getAttr data (text "test_nodeid")
  return { timestamp, direction, summary, sizeBytes, testNodeid }

/-- The classes the packet drain catches.
Source: `src/runner.py` `drain_packet_events`
Kind: D -/
def isSkipped (e : PyExc) : Bool :=
  e.isValueError || e == .keyError || e == .typeError

/-- Map one packet-event line to an event, or `none` to skip it.
Source: `src/runner.py` `drain_packet_events`
Kind: D -/
def parsePacketEventLine (R : Runtime) (line : PyStr) : Except PyExc (Option PacketEvent) :=
  match (Json.loads R.recursionLimit line).bind packetEventOf with
  | .ok event => .ok (some event)
  | .error e => if isSkipped e then .ok none else .error e

end NetstackSuite.Runner
