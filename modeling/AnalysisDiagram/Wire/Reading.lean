/-
  AnalysisDiagram.Wire.Reading
  ────────────────────────────
  Reading payloads back.

  A payload is read strictly as JSON and then checked against the six sorts of
  nodes: no field may be missing or unknown, and nothing is converted.  All
  problems are reported, field by field in their fixed order and then the
  unknown keys as they were written, each key once, with the path to it.

      readPayload  — the diagram of a payload, or its problems
-/
import AnalysisDiagram.Json.Reader
import AnalysisDiagram.Text.Utf8
import AnalysisDiagram.Wire.Draft

namespace AnalysisDiagram

/-! ## §1. Problems. -/

/-- What may be wrong with a payload. -/
inductive WireDefect where
  /-- The payload is neither text nor bytes. -/
  | notPayload
  /-- The text is not JSON. -/
  | notJson
  /-- The text has no UTF-8 form. -/
  | notUnicode
  /-- A node was expected, and something else found. -/
  | notObject
  /-- An object without a tag. -/
  | noTag
  /-- A tag that is none of the six; the tag as messages show it. -/
  | unknownTag (shown : String)
  /-- A field is missing. -/
  | missing
  /-- A key that the node does not have. -/
  | unexpected
  /-- A text was expected. -/
  | notText
  /-- An array was expected. -/
  | notArray
  deriving Repr, DecidableEq

/-- The code of a defect. -/
def WireDefect.code : WireDefect → String
  | .notPayload => "json_type"
  | .notJson => "json_invalid"
  | .notUnicode => "string_unicode"
  | .notObject => "dict_type"
  | .noTag => "union_tag_not_found"
  | .unknownTag _ => "union_tag_invalid"
  | .missing => "missing"
  | .unexpected => "extra_forbidden"
  | .notText => "string_type"
  | .notArray => "list_type"

/-- The tags as messages list them. -/
def tagList : String :=
  String.intercalate ", " (Tag.all.map fun tag => "'" ++ tag.name ++ "'")

/-- A defect in words; a text that is not JSON has none. -/
def WireDefect.message? : WireDefect → Option String
  | .notPayload => some "JSON input should be string, bytes or bytearray"
  | .notJson => none
  | .notUnicode =>
      some "Input should be a valid string, unable to parse raw data as a unicode string"
  | .notObject => some "Input should be an object"
  | .noTag => some "Unable to extract tag using discriminator 'type'"
  | .unknownTag shown =>
      some ("Input tag '" ++ shown ++ "' found using 'type' does not match any of the "
        ++ "expected tags: " ++ tagList)
  | .missing => some "Field required"
  | .unexpected => some "Extra inputs are not permitted"
  | .notText => some "Input should be a valid string"
  | .notArray => some "Input should be a valid array"

/-- A step on the way to a problem. -/
inductive PathItem where
  | key (name : String)
  | index (n : Nat)
  deriving Repr, DecidableEq

/-- A defect, and where it is. -/
structure WireProblem where
  path : List PathItem
  defect : WireDefect
  deriving Repr, DecidableEq

/-- A problem seen from further up. -/
def WireProblem.under (items : List PathItem) (p : WireProblem) : WireProblem :=
  { p with path := items ++ p.path }

/-! ## §2. Results with all their problems. -/

/-- A result, or the problems that stand in its way. -/
abbrev Checked (α : Type) := Except (List WireProblem) α

namespace Checked

/-- A single defect, right here. -/
def fail {α : Type} (defect : WireDefect) : Checked α := .error [⟨[], defect⟩]

/-- The problems of a result. -/
def problems {α : Type} : Checked α → List WireProblem
  | .ok _ => []
  | .error ps => ps

/-- A result seen from further up. -/
def under {α : Type} (items : List PathItem) : Checked α → Checked α
  | .ok a => .ok a
  | .error ps => .error (ps.map (·.under items))

/-- Two results together; the problems of the first come first. -/
def both {α β γ : Type} (f : α → β → γ) : Checked α → Checked β → Checked γ
  | .ok a, .ok b => .ok (f a b)
  | a, b => .error (a.problems ++ b.problems)

/-- A result that stands only if there are no further problems. -/
def barring {α : Type} (a : Checked α) (more : List WireProblem) : Checked α :=
  match a, more with
  | .ok a, [] => .ok a
  | a, more => .error (a.problems ++ more)

end Checked

/-! ## §3. Fields. -/

/-- A value read in each of the ways in which a field may ask for it. -/
structure Candidate where
  isNull : Bool
  asText : Checked String
  asNode : Checked Diagram
  asNodes : Checked (List Diagram)

/-- A field that must be there, in one of the ways to read it. -/
def required {α : Type} (read : Candidate → Checked α) (fields : List (String × Candidate))
    (field : Field) : Checked α :=
  match Value.lookup field.name fields with
  | none => Checked.under [.key field.name] (.fail .missing)
  | some c => (read c).under [.key field.name]

/-- The children of a node; none if the field is missing. -/
def childrenOf (fields : List (String × Candidate)) : Checked (List Diagram) :=
  match Value.lookup Field.children.name fields with
  | none => .ok []
  | some c => c.asNodes.under [.key Field.children.name]

/-- The alternative of a choice; none if the field is missing or null. -/
def alternativeOf (fields : List (String × Candidate)) : Checked (Option Diagram) :=
  match Value.lookup Field.elseBlock.name fields with
  | none => .ok none
  | some c =>
      if c.isNull then .ok none
      else (c.asNode.under [.key Field.elseBlock.name]).map some

/-- The keys that a node of this tag does not have, each where it came first. -/
def unexpectedKeys (tag : Tag) (fields : List (String × Candidate)) : List WireProblem :=
  let unknown := (fields.map (·.1)).filter fun key =>
    key != "type" && !(tag.fields.map Field.name).contains key
  unknown.eraseDups.map fun key => ⟨[.key key], .unexpected⟩

/-- The node of a tag from its fields. -/
def nodeOf (tag : Tag) (fields : List (String × Candidate)) : Checked Diagram :=
  let text := required Candidate.asText fields
  let node := required Candidate.asNode fields
  let made : Checked Diagram := match tag with
    | .sequence => (childrenOf fields).map Diagram.sequence
    | .block => Checked.both Diagram.block (text .label) (childrenOf fields)
    | .branch =>
        Checked.both (fun f e => f e)
          (Checked.both Diagram.branch (text .condition) (node .thenBlock))
          (alternativeOf fields)
    | .loop => Checked.both Diagram.loop (text .condition) (node .body)
    | .command => (text .label).map Diagram.command
    | .error => (text .message).map Diagram.error
  (Checked.barring made (unexpectedKeys tag fields)).under [.key tag.name]

/-- How deep a payload may nest. -/
def payloadDepth : Nat := 200

/-- The node of an object from its tag and its fields.  What stands in the place
of a tag nests less than the payload and can be shown. -/
def objectOf (tag : Option Value) (fields : List (String × Candidate)) : Checked Diagram :=
  match tag with
  | none => .fail .noTag
  | some (.text name) =>
      match Tag.ofName? name with
      | some tag => nodeOf tag fields
      | none => .fail (.unknownTag name)
  | some v => .fail (.unknownTag (v.printable payloadDepth))

/-! ## §4. Whole payloads. -/

mutual

/-- A value read in each way. -/
def candidate : Value → Candidate
  | .null =>
      { isNull := true, asText := .fail .notText, asNode := .fail .notObject,
        asNodes := .fail .notArray }
  | .text s =>
      { isNull := false, asText := .ok s, asNode := .fail .notObject,
        asNodes := .fail .notArray }
  | .list items =>
      { isNull := false, asText := .fail .notText, asNode := .fail .notObject,
        asNodes := nodes 0 items }
  | .object entries =>
      { isNull := false, asText := .fail .notText,
        asNode := objectOf (Value.lookup "type" entries) (candidates entries),
        asNodes := .fail .notArray }
  | _ =>
      { isNull := false, asText := .fail .notText, asNode := .fail .notObject,
        asNodes := .fail .notArray }

/-- The entries of an object, each read in each way. -/
def candidates : List (String × Value) → List (String × Candidate)
  | [] => []
  | (key, v) :: rest => (key, candidate v) :: candidates rest

/-- The items of an array as nodes, the first at index `i`. -/
def nodes (i : Nat) : List Value → Checked (List Diagram)
  | [] => .ok []
  | v :: rest =>
      Checked.both List.cons ((candidate v).asNode.under [.index i]) (nodes (i + 1) rest)

end

/-- The diagram that a value represents. -/
def diagramOf (v : Value) : Checked Diagram := (candidate v).asNode

/-- The diagram of a payload, or its problems. -/
def readPayload (payload : String) : Checked Diagram :=
  match Json.read? payloadDepth payload.toList with
  | none => .fail .notJson
  | some v => diagramOf v

/-- The diagram of a payload in bytes, or its problems. -/
def readPayloadBytes (bytes : List UInt8) : Checked Diagram :=
  match Text.decodeStrict? bytes with
  | none => .fail .notJson
  | some payload => readPayload payload

/-- The diagram of a payload given as a value, or its problems. -/
def readPayloadValue : Value → Checked Diagram
  | .text payload => readPayload payload
  | .loose _ => .fail .notUnicode
  | .bytes bytes => readPayloadBytes bytes
  | _ => .fail .notPayload

end AnalysisDiagram
