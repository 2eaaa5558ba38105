/-
  AnalysisDiagram.Wire.Payload
  ────────────────────────────
  Payloads: diagrams as JSON text.

  A draft that cannot be written is replaced by an error node that says why,
  and the journal gets a record of it.  Three faults are refused outright: a
  node that lacks a field, and an indent that cannot be counted or has no room.
-/
import AnalysisDiagram.Journal.Record
import AnalysisDiagram.Wire.Writer

namespace AnalysisDiagram

open AnalysisDiagram.Journal

/-- The payload in place of one that cannot be written. -/
def fallbackPayload (fault : WriteFault) : String :=
  "\x7b\"type\": \"error\", \"message\": "
    ++ Json.encodeAscii ("Serialization error: " ++ fault.message) ++ "\x7d"

/-- The record of a payload that could not be written. -/
def fallbackRecord (fault : WriteFault) : Record :=
  { logger := "pad_compiler.compiler.encode"
    level := Severity.error.level
    message := "PAD tree serialization failed: " ++ fault.message }

/-- The payload of a draft, or the fault that stops everything. -/
def Draft.payload (layout : Layout) (d : Draft) : Report (Except WriteFault LooseText) :=
  match d.render layout with
  | .ok t => .plain (.ok t)
  | .error fault =>
      if fault.isFatal then .plain (.error fault)
      else ⟨[fallbackRecord fault], .ok (fallbackPayload fault)⟩

/-- The payload of a diagram, in which no surrogate code stands alone. -/
def Diagram.payload (layout : Layout) (d : Diagram) : Report (Except WriteFault String) :=
  (d.toDraft.payload layout).map fun made => made.map LooseText.string

end AnalysisDiagram
