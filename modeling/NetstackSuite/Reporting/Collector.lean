import NetstackSuite.Python.JsonDumps
import NetstackSuite.Reporting.Models

/-!
# The records of `src/reporting/collector.py`

What `PacketEventLogWriter` appends for an event: the JSON text of its dictionary and a newline, encoded
as UTF-8. On Windows a text file translates the newline. `record_spec` is
what a reader may rely on: the text is printable ASCII, so it has one byte for each character.
-/

namespace NetstackSuite.Reporting

open NetstackSuite.Python

/-- What a text file writes for `"\n"`.
Source: Python `open`
Kind: D -/
def linesep (windows : Bool) : Bytes := if windows then bytes "\r\n" else bytes "\n"

/-- `json.dumps(event.to_dict())`. The fields of an event that the suite makes are texts and numbers, so
`to_dict` copies them under any recursion limit.
Source: `src/reporting/collector.py` `PacketEventLogWriter.__call__`
Kind: D -/
def eventLine (depth : Nat) (event : PacketEvent) : Except PyExc PyStr :=
  Json.dumps depth event.toDict

/-- `file.write(line + "\n")`: the bytes.
Source: `src/reporting/collector.py` `PacketEventLogWriter.__call__`
Kind: D -/
def writeLine (windows : Bool) (line : PyStr) : Except PyExc Bytes := do
  let b ← encode line
  return b ++ linesep windows

/-- What the log gets for an event; nothing for one that cannot be encoded.
Source: `src/reporting/collector.py` `PacketEventLogWriter.__call__`
Kind: D -/
def record (depth : Nat) (windows : Bool) (event : PacketEvent) : Bytes :=
  match eventLine depth event with
  | .ok line => (writeLine windows line).toOption.getD []
  | .error _ => []

/-- **The record of an event**: its text, one byte for each character, and the newline.
Source: `src/reporting/collector.py` `PacketEventLogWriter.__call__`
Kind: P -/
lemma record_spec {depth : Nat} {event : PacketEvent} {line : PyStr}
    (h : eventLine depth event = .ok line) (windows : Bool) :
    writeLine windows line = .ok (record depth windows event) ∧
      ∃ b : Bytes, record depth windows event = b ++ linesep windows ∧ (∀ x ∈ b, x < 0x80) ∧
        decodeReplace b = line ∧ b = line.map fun c => UInt8.ofNat c.val := by
  have hascii : ∀ c ∈ line, c < 0x80 := fun c hc =>
    lt_of_le_of_lt (printableAscii_dumps depth _ _ h c hc).2 (by decide)
  obtain ⟨b, hb, hlow, hdecode, hmap⟩ := encode_of_ascii hascii
  have hwrite : writeLine windows line = .ok (b ++ linesep windows) := by
    unfold writeLine
    rw [hb]
    rfl
  have hrecord : record depth windows event = b ++ linesep windows := by
    rw [record, h]
    show (writeLine windows line).toOption.getD [] = _
    rw [hwrite]
    rfl
  exact ⟨hrecord ▸ hwrite, b, hrecord, hlow, hdecode, hmap⟩

/-- The text of an event starts with a brace.
Source: `src/reporting/models.py` `PacketEvent.to_dict`
Kind: L -/
lemma eventLine_head {depth : Nat} {event : PacketEvent} {line : PyStr}
    (h : eventLine depth event = .ok line) : ∃ rest, line = chr 0x7B :: rest := by
  unfold eventLine PacketEvent.toDict at h
  cases depth with
  | zero => cases h
  | succ depth =>
      rw [Json.dumps] at h
      rcases hs : Json.dumpsMembers depth [(text "timestamp", event.timestamp),
        (text "direction", .str event.direction.value), (text "summary", event.summary),
        (text "size_bytes", event.sizeBytes), (text "test_nodeid", event.testNodeid)] with e | s <;>
        rw [hs] at h
      · cases h
      · cases h
        exact ⟨_, rfl⟩

end NetstackSuite.Reporting
