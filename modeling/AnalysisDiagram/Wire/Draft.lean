/-
  AnalysisDiagram.Wire.Draft
  ──────────────────────────
  What the writer of payloads is handed: trees that nobody has checked.

  A draft has the shape of a diagram, but any field of a node may hold
  anything, or nothing at all; the field that should hold its tag is no
  exception.  A field that was never set is `absent`; one that was set to
  nothing is `null`.

      Draft.ofValue    — a draft from a value: an object with one of the six
                         tags is a node, any other object is foreign
      Diagram.toDraft  — the draft of a diagram, which has every field
-/
import AnalysisDiagram.Diagram
import AnalysisDiagram.Value

namespace AnalysisDiagram

/-! ## §1. Tags and fields. -/

/-- The sorts of nodes. -/
inductive Tag where
  | sequence
  | block
  | branch
  | loop
  | command
  | error
  deriving Repr, DecidableEq

/-- The name of a tag in a payload. -/
def Tag.name : Tag → String
  | .sequence => "sequence"
  | .block => "block"
  | .branch => "if"
  | .loop => "loop"
  | .command => "command"
  | .error => "error"

/-- All tags, in the order in which messages list them. -/
def Tag.all : List Tag := [.sequence, .block, .branch, .loop, .command, .error]

/-- The tag of a given name. -/
def Tag.ofName? (name : String) : Option Tag := Tag.all.find? (·.name == name)

/-- The fields of nodes. -/
inductive Field where
  /-- What should be the name of the node's own tag. -/
  | tag
  | children
  | label
  | condition
  | thenBlock
  | elseBlock
  | body
  | message
  deriving Repr, DecidableEq

/-- The name of a field in a payload. -/
def Field.name : Field → String
  | .tag => "type"
  | .children => "children"
  | .label => "label"
  | .condition => "condition"
  | .thenBlock => "then_block"
  | .elseBlock => "else_block"
  | .body => "body"
  | .message => "message"

/-- The fields of each sort of node, the tag apart, in the order in which they
are written. -/
def Tag.fields : Tag → List Field
  | .sequence => [.children]
  | .block => [.label, .children]
  | .branch => [.condition, .thenBlock, .elseBlock]
  | .loop => [.condition, .body]
  | .command => [.label]
  | .error => [.message]

/-- All fields of each sort of node, in the order in which they are written. -/
def Tag.allFields (tag : Tag) : List Field := .tag :: tag.fields

/-! ## §2. Drafts. -/

/-- A tree that nobody has checked. -/
inductive Draft where
  | text (t : LooseText)
  | list (items : List Draft)
  /-- A node of a sort, with what each of its fields holds. -/
  | node (tag : Tag) (fields : List (Field × Draft))
  /-- Nothing, on purpose. -/
  | null
  /-- Never set. -/
  | absent
  /-- A value that has no place in a payload, by the name of its type. -/
  | foreign (typeName : String)
  deriving Repr, Inhabited

namespace Draft

/-- What a field of a node holds when nothing is said about it. -/
def unset (tag : Tag) : Field → Draft
  | .tag => .text tag.name
  | .children => .list []
  | .elseBlock => .null
  | _ => .absent

/-- The node of a tag with the fields that are given by name; other names are
passed over. -/
def ofFields (tag : Tag) (entries : List (String × Draft)) : Draft :=
  .node tag (tag.allFields.map fun field =>
    (field, (Value.lookup field.name entries).getD (unset tag field)))

/-- The tag that an object names. -/
def tagOf? (entries : List (String × Value)) : Option Tag :=
  match Value.lookup "type" entries with
  | some (.text name) => Tag.ofName? name
  | _ => none

mutual

/-- A value taken as a draft. -/
def ofValue : Value → Draft
  | .text s => .text s
  | .loose t => .text t
  | .list items => .list (ofValues items)
  | .null => .null
  | .object entries =>
      match tagOf? entries with
      | some tag => ofFields tag (ofEntries entries)
      | none => .foreign (Value.object entries).typeName
  | v => .foreign v.typeName

/-- Several values taken as drafts. -/
def ofValues : List Value → List Draft
  | [] => []
  | v :: rest => ofValue v :: ofValues rest

/-- The entries of an object taken as drafts. -/
def ofEntries : List (String × Value) → List (String × Draft)
  | [] => []
  | (key, v) :: rest => (key, ofValue v) :: ofEntries rest

end

end Draft

/-- A node whose first field names its tag, with what its other fields hold. -/
def Draft.tagged (tag : Tag) (fields : List (Field × Draft)) : Draft :=
  .node tag ((.tag, .text tag.name) :: fields)

mutual

/-- The draft of a diagram. -/
def Diagram.toDraft : Diagram → Draft
  | .sequence children => .tagged .sequence [(.children, .list (toDrafts children))]
  | .block label children =>
      .tagged .block [(.label, .text label), (.children, .list (toDrafts children))]
  | .branch condition t e =>
      .tagged .branch
        [(.condition, .text condition), (.thenBlock, t.toDraft), (.elseBlock, toDraft? e)]
  | .loop condition body =>
      .tagged .loop [(.condition, .text condition), (.body, body.toDraft)]
  | .command label => .tagged .command [(.label, .text label)]
  | .error message => .tagged .error [(.message, .text message)]

/-- The drafts of several diagrams. -/
def Diagram.toDrafts : List Diagram → List Draft
  | [] => []
  | d :: rest => d.toDraft :: toDrafts rest

/-- The draft of a diagram that may be absent. -/
def Diagram.toDraft? : Option Diagram → Draft
  | none => .null
  | some d => d.toDraft

end

end AnalysisDiagram
