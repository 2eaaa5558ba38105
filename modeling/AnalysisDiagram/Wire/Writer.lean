/-
  AnalysisDiagram.Wire.Writer
  ───────────────────────────
  Writing drafts as JSON text.

  The fields of a node come in their fixed order, the tag first; a field that
  is null is left out.  The text is compact, or every item stands on a line of
  its own, indented by its level, and so does a closing bracket; a line end
  that is not written is not computed.  There are two writers:

      Draft.write   — by recursion on the draft
      Draft.render  — by a list of pieces and drafts still to be written, so
                      that nesting costs no call stack

  Of several faults the first one met is reported: at a node, a missing field
  comes before an indent that cannot be used, and that before anything inside.
-/
import AnalysisDiagram.Json.Text
import AnalysisDiagram.Wire.Draft

namespace AnalysisDiagram

/-! ## §1. Layouts. -/

/-- Why a draft cannot be written. -/
inductive WriteFault where
  /-- A node lacks a field. -/
  | missingField
  /-- The indent is no whole number. -/
  | unusableIndent (problem : String)
  /-- A line would be indented by a number that no counter can hold. -/
  | indentOverflow
  /-- A line would be indented by more than there is room for. -/
  | noRoom
  /-- A value has no place in a payload. -/
  | foreign (typeName : String)
  deriving Repr, DecidableEq

/-- Whether a fault stops everything; of any other a payload can tell. -/
def WriteFault.isFatal : WriteFault → Bool
  | .missingField => true
  | .indentOverflow => true
  | .noRoom => true
  | _ => false

/-- A fault in words. -/
def WriteFault.message : WriteFault → String
  | .missingField => "A node lacks a field"
  | .unusableIndent problem => problem
  | .indentOverflow => "The indent is out of range"
  | .noRoom => "The indent is too great"
  | .foreign typeName => "Object of type " ++ typeName ++ " is not part of the PAD wire format"

/-- Where lines end. -/
inductive Layout where
  /-- Nowhere. -/
  | compact
  /-- Before every item, which is indented by `width` for each level; a width
  below zero indents like zero.  There is room for `room` blanks in a line. -/
  | indented (width : Int) (room : Nat)
  /-- An indent that cannot be used; that shows at the first line end. -/
  | unusable (problem : String)
  deriving Repr, DecidableEq

namespace Layout

/-- The layout that an indent of any shape asks for. -/
def ofValue (room : Nat) : Value → Layout
  | .null => .compact
  | .int i => .indented i room
  | .bool b => .indented (if b then 1 else 0) room
  | .object _ => .unusable "unsupported operand type(s) for *: 'dict' and 'int'"
  | v => .unusable ("can't multiply sequence by non-int of type '" ++ v.typeName ++ "'")

/-- What stands between a key and its value. -/
def colon : Layout → String
  | .compact => ":"
  | _ => ": "

/-- The first number that a counter of blanks, with 64 bits and a sign, cannot
hold. -/
def countLimit : Int := 0x8000000000000000

/-- The end of a line and the indent of the next one.  The number of blanks must
fit into a counter, whatever its sign. -/
def newline (layout : Layout) (level : Nat) : Except WriteFault String :=
  match layout with
  | .compact => .ok ""
  | .indented width room =>
      let blanks := width * level
      if blanks < -countLimit ∨ countLimit ≤ blanks then .error .indentOverflow
      else if room < blanks then .error .noRoom
      else .ok (String.ofList ('\n' :: List.replicate blanks.toNat ' '))
  | .unusable problem => .error (.unusableIndent problem)

end Layout

namespace Draft

/-! ## §2. Fields in use. -/

/-- Whether a draft was never set. -/
def isAbsent : Draft → Bool
  | .absent => true
  | _ => false

/-- Whether a draft is null. -/
def isNull : Draft → Bool
  | .null => true
  | _ => false

/-- Whether a node lacks a field. -/
def lacksField (fields : List (Field × Draft)) : Bool := fields.any (·.2.isAbsent)

/-- Whether no field of a node is written. -/
def isHollow (fields : List (Field × Draft)) : Bool := fields.all (·.2.isNull)

/-- The line end before each field of a node. -/
def fieldLine (layout : Layout) (level : Nat) (fields : List (Field × Draft)) :
    Except WriteFault String :=
  if isHollow fields then .ok "" else layout.newline level

/-- The start of a field, after what stands before it. -/
def fieldStart (layout : Layout) (before : String) (field : Field) : String :=
  before ++ Json.encode field.name ++ layout.colon

/-! ## §3. Writing by recursion. -/

mutual

/-- A draft as JSON text. -/
def write (layout : Layout) (level : Nat) : Draft → Except WriteFault LooseText
  | .text t => .ok (Json.encodeLoose t)
  | .list [] => .ok (LooseText.ofString "[]")
  | .list (d :: items) => do
      let inner ← layout.newline (level + 1)
      let outer ← layout.newline level
      let first ← write layout (level + 1) d
      let rest ← writeItems layout (level + 1) inner items
      return ("[" ++ inner) ++ first ++ rest ++ (outer ++ "]")
  | .node _ fields =>
      if lacksField fields then .error .missingField
      else do
        let inner ← fieldLine layout (level + 1) fields
        let outer ← layout.newline level
        let written ← writeFields layout (level + 1) inner inner fields
        return "\x7b" ++ written ++ (outer ++ "\x7d")
  | .null => .error (.foreign Value.null.typeName)
  | .absent => .error .missingField
  | .foreign typeName => .error (.foreign typeName)

/-- The items of a list after the first. -/
def writeItems (layout : Layout) (level : Nat) (inner : String) :
    List Draft → Except WriteFault LooseText
  | [] => .ok (LooseText.ofString "")
  | d :: items => do
      let first ← write layout level d
      let rest ← writeItems layout level inner items
      return ("," ++ inner) ++ first ++ rest

/-- The fields of a node, with a text before the first that is written; those
that are null are left out. -/
def writeFields (layout : Layout) (level : Nat) (inner before : String) :
    List (Field × Draft) → Except WriteFault LooseText
  | [] => .ok (LooseText.ofString "")
  | (field, d) :: fields =>
      if d.isNull then writeFields layout level inner before fields
      else do
        let first ← write layout level d
        let rest ← writeFields layout level inner ("," ++ inner) fields
        return fieldStart layout before field ++ first ++ rest

end

/-! ## §4. Writing with a list of what is to come. -/

/-- What is still to be written. -/
inductive Pending where
  /-- Finished text. -/
  | piece (t : LooseText)
  /-- A draft at its level. -/
  | draft (d : Draft) (level : Nat)

/-- The items of a list after the first, with what stands between them. -/
def pendingItems (level : Nat) (inner : String) : List Draft → List Pending
  | [] => []
  | d :: items => .piece ("," ++ inner) :: .draft d level :: pendingItems level inner items

/-- The fields of a node, with what stands between them. -/
def pendingFields (layout : Layout) (level : Nat) (inner before : String) :
    List (Field × Draft) → List Pending
  | [] => []
  | (field, d) :: fields =>
      if d.isNull then pendingFields layout level inner before fields
      else .piece (fieldStart layout before field) :: .draft d level
        :: pendingFields layout level inner ("," ++ inner) fields

/-- A draft taken apart by one level. -/
def expand (layout : Layout) (level : Nat) : Draft → Except WriteFault (List Pending)
  | .text t => .ok [.piece (Json.encodeLoose t)]
  | .list [] => .ok [.piece "[]"]
  | .list (d :: items) => do
      let inner ← layout.newline (level + 1)
      let outer ← layout.newline level
      return .piece ("[" ++ inner) :: .draft d (level + 1)
        :: (pendingItems (level + 1) inner items ++ [.piece (outer ++ "]")])
  | .node _ fields =>
      if lacksField fields then .error .missingField
      else do
        let inner ← fieldLine layout (level + 1) fields
        let outer ← layout.newline level
        return .piece "\x7b"
          :: (pendingFields layout (level + 1) inner inner fields ++ [.piece (outer ++ "\x7d")])
  | .null => .error (.foreign Value.null.typeName)
  | .absent => .error .missingField
  | .foreign typeName => .error (.foreign typeName)

mutual

/-- The number of turns that writing a draft takes at most. -/
def weight : Draft → Nat
  | .list items => 4 + weights items
  | .node _ fields => 3 + fieldWeights fields
  | _ => 2

/-- The turns for the items of a list. -/
def weights : List Draft → Nat
  | [] => 0
  | d :: rest => 1 + weight d + weights rest

/-- The turns for the fields of a node. -/
def fieldWeights : List (Field × Draft) → Nat
  | [] => 0
  | (_, d) :: rest => 1 + weight d + fieldWeights rest

end

/-- The turns for one thing that is still to be written. -/
def Pending.weight : Pending → Nat
  | .piece _ => 1
  | .draft d _ => d.weight

/-- The turns for all that is still to be written. -/
def turns : List Pending → Nat
  | [] => 0
  | p :: rest => p.weight + turns rest

@[simp]
theorem turns_nil : turns [] = 0 := rfl

@[simp]
theorem turns_cons (p : Pending) (rest : List Pending) :
    turns (p :: rest) = p.weight + turns rest := rfl

@[simp]
theorem turns_append (ps qs : List Pending) : turns (ps ++ qs) = turns ps + turns qs := by
  induction ps with
  | nil => simp
  | cons p ps ih => simp [ih, Nat.add_assoc]

theorem turns_pendingItems (level : Nat) (inner : String) (items : List Draft) :
    turns (pendingItems level inner items) = weights items := by
  induction items with
  | nil => rfl
  | cons d items ih => simp [pendingItems, weights, Pending.weight, ih]; omega

theorem turns_pendingFields_le (layout : Layout) (level : Nat) (inner before : String)
    (fields : List (Field × Draft)) :
    turns (pendingFields layout level inner before fields) ≤ fieldWeights fields := by
  induction fields generalizing before with
  | nil => simp [pendingFields, fieldWeights]
  | cons f fields ih =>
    obtain ⟨field, d⟩ := f
    rw [pendingFields, fieldWeights]
    split
    · have := ih before
      omega
    · have := ih ("," ++ inner)
      simp only [turns_cons, Pending.weight]
      omega

/-- Taking a draft apart leaves less to do. -/
theorem turns_expand_lt {layout : Layout} {level : Nat} {d : Draft} {ps : List Pending}
    (h : expand layout level d = .ok ps) : turns ps < d.weight := by
  cases d with
  | text s => cases h; simp [weight, Pending.weight]
  | list items =>
    cases items with
    | nil => cases h; simp [weight, weights, Pending.weight]
    | cons d items =>
      rw [expand] at h
      cases hi : layout.newline (level + 1) with
      | error e => rw [hi] at h; cases h
      | ok inner =>
        cases ho : layout.newline level with
        | error e => rw [hi, ho] at h; cases h
        | ok outer =>
          rw [hi, ho] at h
          cases h
          simp only [turns_cons, turns_append, turns_nil, turns_pendingItems, Pending.weight,
            weight, weights]
          omega
  | node tag fields =>
    rw [expand] at h
    split at h
    · cases h
    · cases hi : fieldLine layout (level + 1) fields with
      | error e => rw [hi] at h; cases h
      | ok inner =>
        cases ho : layout.newline level with
        | error e => rw [hi, ho] at h; cases h
        | ok outer =>
          rw [hi, ho] at h
          cases h
          have := turns_pendingFields_le layout (level + 1) inner inner fields
          simp only [turns_cons, turns_append, turns_nil, Pending.weight, weight]
          omega
  | null => cases h
  | absent => cases h
  | foreign typeName => cases h

/-- Writes all that is still to come after the text written so far. -/
def flush (layout : Layout) : List Pending → LooseText → Except WriteFault LooseText
  | [], out => .ok out
  | .piece t :: rest, out => flush layout rest (out ++ t)
  | .draft d level :: rest, out =>
      match _h : expand layout level d with
      | .error e => .error e
      | .ok ps => flush layout (ps ++ rest) out
termination_by pending => turns pending
decreasing_by
  · simp [Pending.weight]
  · have := turns_expand_lt _h
    simp only [turns_cons, turns_append, Pending.weight]
    omega

/-- A draft as JSON text, with a list of what is still to come. -/
def render (layout : Layout) (d : Draft) : Except WriteFault LooseText :=
  flush layout [.draft d 0] (LooseText.ofString "")

end Draft

end AnalysisDiagram
