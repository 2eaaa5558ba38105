/-
  AnalysisDiagram.Proofs.Wire.Defects
  ───────────────────────────────────
  What may be wrong with a value that is to be read as a diagram, and where.

      Reached j path v    — the node at `path` in the value `j` is `v`
      Flaw v steps d      — what is wrong with a node apart from the nodes in it
      Defective j path d  — what is wrong at some node of a value
      follow path j       — what a path leads to, its tags read as labels

      defective_iff       — the defects of a value are its own flaws and the
                            defects of the nodes in its fields
      leads_of_defective  — the path of a defect leads to it

  Nothing here says how a value is read: under a key the last entry counts, and
  what stands under an unknown key is not looked at.
-/
import AnalysisDiagram.Proofs.Wire.Grammar

namespace AnalysisDiagram

/-! ## §1. Positions. -/

/-- Fields that hold a text. -/
def Field.holdsText : Field → Bool
  | .tag | .label | .condition | .message => true
  | _ => false

/-- Fields that hold a single node. -/
def Field.holdsNode : Field → Bool
  | .thenBlock | .elseBlock | .body => true
  | _ => false

/-- Fields that must be there. -/
def Field.isRequired : Field → Bool
  | .children | .elseBlock => false
  | _ => true

/-- The nodes that a field of an object holds, each with the steps that lead to
it.  An alternative that is null is none. -/
inductive FieldHolds (entries : List (String × Value)) (field : Field) :
    List PathItem → Value → Prop
  | node {v : Value} :
      field.holdsNode = true → Counts entries field.name v → ¬ (field = .elseBlock ∧ v = .null) →
      FieldHolds entries field [.key field.name] v
  | item {vs : List Value} {i : Nat} {v : Value} :
      field = .children → Counts entries field.name (.list vs) → vs[i]? = some v →
      FieldHolds entries field [.key field.name, .index i] v

/-- The nodes that an object with one of the six tags holds in its fields. -/
inductive Holds (entries : List (String × Value)) : List PathItem → Value → Prop
  | field {tag : Tag} {field : Field} {steps : List PathItem} {v : Value} :
      Counts entries "type" (.text tag.name) → field ∈ tag.fields →
      FieldHolds entries field steps v → Holds entries (.key tag.name :: steps) v

/-- The positions of nodes in a value, with the paths that lead to them. -/
inductive Reached (j : Value) : List PathItem → Value → Prop
  | root : Reached j [] j
  | part {path steps : List PathItem} {entries : List (String × Value)} {v : Value} :
      Reached j path (.object entries) → Holds entries steps v → Reached j (path ++ steps) v

/-! ## §2. Defects. -/

/-- What is wrong with a field of an object. -/
inductive FieldFlaw (entries : List (String × Value)) (field : Field) :
    List PathItem → WireDefect → Prop
  /-- A required field is absent: `missing`. -/
  | missing :
      field.isRequired = true → Lacks entries field.name →
      FieldFlaw entries field [.key field.name] .missing
  /-- A text field is no string: `string_type`. -/
  | notText {v : Value} :
      field.holdsText = true → Counts entries field.name v → (∀ s, v ≠ .text s) →
      FieldFlaw entries field [.key field.name] .notText
  /-- Children that are there are no array: `list_type`. -/
  | notArray {v : Value} :
      field = .children → Counts entries field.name v → (∀ vs, v ≠ .list vs) →
      FieldFlaw entries field [.key field.name] .notArray

/-- What is wrong with a node, apart from the nodes in it. -/
inductive Flaw : Value → List PathItem → WireDefect → Prop
  /-- The node is no object: `dict_type`. -/
  | notObject {v : Value} : (∀ entries, v ≠ .object entries) → Flaw v [] .notObject
  /-- The object has no tag: `union_tag_not_found`. -/
  | noTag {entries : List (String × Value)} :
      Lacks entries "type" → Flaw (.object entries) [] .noTag
  /-- The tag is none of the six: `union_tag_invalid`. -/
  | unknownName {entries : List (String × Value)} {name : String} :
      Counts entries "type" (.text name) → (∀ tag : Tag, name ≠ tag.name) →
      Flaw (.object entries) [] (.unknownTag name)
  /-- The tag is not even a text: `union_tag_invalid`. -/
  | oddTag {entries : List (String × Value)} {v : Value} :
      Counts entries "type" v → (∀ name, v ≠ .text name) →
      Flaw (.object entries) [] (.unknownTag (v.printable payloadDepth))
  /-- A field of the tag is wrong. -/
  | field {entries : List (String × Value)} {tag : Tag} {field : Field} {steps : List PathItem}
      {defect : WireDefect} :
      Counts entries "type" (.text tag.name) → field ∈ tag.fields →
      FieldFlaw entries field steps defect → Flaw (.object entries) (.key tag.name :: steps) defect
  /-- A key is none of the tag's: `extra_forbidden`. -/
  | unexpected {entries : List (String × Value)} {tag : Tag} {key : String} {v : Value} :
      Counts entries "type" (.text tag.name) → Counts entries key v → key ≠ "type" →
      (∀ field ∈ tag.fields, key ≠ field.name) →
      Flaw (.object entries) [.key tag.name, .key key] .unexpected

/-- What is wrong at some position of a value. -/
inductive Defective (j : Value) : List PathItem → WireDefect → Prop
  | flaw {path steps : List PathItem} {v : Value} {defect : WireDefect} :
      Reached j path v → Flaw v steps defect → Defective j (path ++ steps) defect

/-- Whether a defect is found at a key of an object, and not at a node as a
whole. -/
def WireDefect.atKey : WireDefect → Bool
  | .missing | .unexpected | .notText | .notArray => true
  | _ => false

theorem Flaw.length_steps {v : Value} {steps : List PathItem} {defect : WireDefect}
    (h : Flaw v steps defect) : steps.length = if defect.atKey then 2 else 0 := by
  cases h with
  | field _ _ hflaw => cases hflaw <;> rfl
  | _ => rfl

theorem Counts.unique {entries : List (String × Value)} {key : String} {v w : Value}
    (hv : Counts entries key v) (hw : Counts entries key w) : v = w :=
  Option.some.inj ((lookup_eq_some_iff.2 hv).symm.trans (lookup_eq_some_iff.2 hw))

theorem Lacks.not_counts {entries : List (String × Value)} {key : String} {v : Value}
    (h : Lacks entries key) (hv : Counts entries key v) : False :=
  h _ hv.mem rfl

/-- An object names one tag at most. -/
theorem Counts.tag_unique {entries : List (String × Value)} {tag tag' : Tag}
    (h : Counts entries "type" (.text tag.name)) (h' : Counts entries "type" (.text tag'.name)) :
    tag = tag' := by
  have hname : tag.name = tag'.name := by
    injection h.unique h'
  exact Option.some.inj ((Tag.ofName?_eq_some_iff.2 rfl).symm.trans
    (Tag.ofName?_eq_some_iff.2 hname))

/-- What is reached from what is reached is reached. -/
theorem Reached.trans {j v w : Value} {path more : List PathItem} (hv : Reached j path v)
    (hw : Reached v more w) : Reached j (path ++ more) w := by
  induction hw with
  | root =>
    rw [List.append_nil]
    exact hv
  | part _ hholds ih =>
    rw [← List.append_assoc]
    exact ih.part hholds

/-- The first step on the way to a position. -/
theorem Reached.cases_head {j w : Value} {path : List PathItem} (h : Reached j path w) :
    (path = [] ∧ w = j) ∨
    ∃ entries steps v rest, j = .object entries ∧ Holds entries steps v ∧ Reached v rest w ∧
      path = steps ++ rest := by
  induction h with
  | root => exact .inl ⟨rfl, rfl⟩
  | @part path steps entries v hreached hholds ih =>
    rcases ih with ⟨rfl, rfl⟩ | ⟨entries', steps', u, rest, rfl, hholds', hrest, rfl⟩
    · exact .inr ⟨entries, steps, v, [], rfl, hholds, .root, by simp⟩
    · exact .inr ⟨entries', steps', u, rest ++ steps, rfl, hholds', hrest.part hholds,
        List.append_assoc _ _ _⟩

/-- The defects of a value are its own flaws, and the defects of the nodes in
its fields. -/
theorem defective_iff {j : Value} {path : List PathItem} {defect : WireDefect} :
    Defective j path defect ↔
      Flaw j path defect ∨
      ∃ entries steps v rest, j = .object entries ∧ Holds entries steps v ∧
        Defective v rest defect ∧ path = steps ++ rest := by
  constructor
  · rintro ⟨hreached, hflaw⟩
    rcases hreached.cases_head with ⟨rfl, rfl⟩ | ⟨entries, steps, v, rest, rfl, hholds, hrest, rfl⟩
    · exact .inl hflaw
    · exact .inr ⟨entries, steps, v, _, rfl, hholds, .flaw hrest hflaw, List.append_assoc _ _ _⟩
  · rintro (hflaw | ⟨entries, steps, v, rest, rfl, hholds, ⟨hrest, hflaw⟩, rfl⟩)
    · exact .flaw .root hflaw
    · rw [← List.append_assoc]
      exact .flaw ((Reached.root.part hholds).trans hrest) hflaw

/-! ## §3. Paths. -/

/-- What a path leads to from a value.  At an object the next two steps are its
tag, as a label, and a key; at an array the next step is an index. -/
def follow : List PathItem → Value → Option Value
  | [], v => some v
  | .key label :: .key key :: rest, .object entries =>
      match Value.lookup "type" entries with
      | some (.text name) =>
          if name = label then (Value.lookup key entries).bind (follow rest) else none
      | _ => none
  | .index i :: rest, .list vs => vs[i]?.bind (follow rest)
  | _, _ => none

section Paths

variable {entries : List (String × Value)} {j v : Value} {path : List PathItem}

theorem follow_key {label key : String} (h : Counts entries "type" (.text label))
    (rest : List PathItem) :
    follow (.key label :: .key key :: rest) (.object entries)
      = (Value.lookup key entries).bind (follow rest) := by
  rw [follow, lookup_eq_some_iff.2 h]
  simp

theorem follow_key_of_counts {label key : String} (h : Counts entries "type" (.text label))
    (hv : Counts entries key v) (rest : List PathItem) :
    follow (.key label :: .key key :: rest) (.object entries) = follow rest v := by
  rw [follow_key h, lookup_eq_some_iff.2 hv]
  rfl

theorem follow_key_of_lacks {label key : String} (h : Counts entries "type" (.text label))
    (hlacks : Lacks entries key) (rest : List PathItem) :
    follow (.key label :: .key key :: rest) (.object entries) = none := by
  rw [follow_key h, lookup_eq_none_iff.2 hlacks]
  rfl

theorem Holds.follow_append {steps : List PathItem} (h : Holds entries steps v)
    (more : List PathItem) : follow (steps ++ more) (.object entries) = follow more v := by
  obtain ⟨htag, _, hholds⟩ := h
  cases hholds with
  | node _ hv _ => exact follow_key_of_counts htag hv more
  | @item vs i _ _ hvs hv =>
    show follow (_ :: _ :: .index i :: more) _ = _
    rw [follow_key_of_counts htag hvs, follow, hv]
    rfl

/-- A path that goes on from a position leads on from there. -/
theorem Reached.follow_append (h : Reached j path v) (more : List PathItem) :
    follow (path ++ more) j = follow more v := by
  induction h generalizing more with
  | root => rfl
  | part _ hholds ih => rw [List.append_assoc, ih, hholds.follow_append]

theorem Reached.follow_eq (h : Reached j path v) : follow path j = some v := by
  have hfollow := h.follow_append []
  rw [List.append_nil] at hfollow
  rw [hfollow, follow]

/-- What it means that a path leads to the defect that it is reported for. -/
def Leads (j : Value) (path : List PathItem) : WireDefect → Prop
  | .notObject => ∃ v, follow path j = some v ∧ ∀ entries, v ≠ .object entries
  | .noTag => ∃ entries, follow path j = some (.object entries) ∧ Lacks entries "type"
  | .unknownTag _ => ∃ entries v, follow path j = some (.object entries) ∧
      Counts entries "type" v ∧ ∀ tag : Tag, v ≠ .text tag.name
  | .missing => follow path j = none ∧ ∃ site tag field entries,
      path = site ++ [.key (Tag.name tag), .key (Field.name field)] ∧
      follow site j = some (.object entries) ∧ Counts entries "type" (.text tag.name) ∧
      field ∈ tag.fields ∧ field.isRequired = true ∧ Lacks entries field.name
  | .notText => ∃ v, follow path j = some v ∧ ∀ s, v ≠ .text s
  | .notArray => ∃ v, follow path j = some v ∧ ∀ vs, v ≠ .list vs
  | .unexpected => (∃ v, follow path j = some v) ∧ ∃ site tag key entries,
      path = site ++ [.key (Tag.name tag), .key key] ∧ follow site j = some (.object entries) ∧
      Counts entries "type" (.text tag.name) ∧ key ≠ "type" ∧ ∀ field ∈ tag.fields, key ≠ field.name
  | _ => False

/-- The path of a defect leads to it. -/
theorem leads_of_defective {defect : WireDefect} (h : Defective j path defect) :
    Leads j path defect := by
  obtain ⟨hreached, hflaw⟩ := h
  cases hflaw with
  | notObject hv =>
    rw [List.append_nil]
    exact ⟨_, hreached.follow_eq, hv⟩
  | noTag hlacks =>
    rw [List.append_nil]
    exact ⟨_, hreached.follow_eq, hlacks⟩
  | unknownName hname hunknown =>
    rw [List.append_nil]
    refine ⟨_, _, hreached.follow_eq, hname, fun tag heq => hunknown tag ?_⟩
    injection heq
  | oddTag hv hodd =>
    rw [List.append_nil]
    exact ⟨_, _, hreached.follow_eq, hv, fun tag => hodd tag.name⟩
  | field htag hfield hflaw =>
    cases hflaw with
    | missing hrequired hlacks =>
      refine ⟨?_, _, _, _, _, rfl, hreached.follow_eq, htag, hfield, hrequired, hlacks⟩
      rw [hreached.follow_append, follow_key_of_lacks htag hlacks]
    | notText _ hv htext =>
      refine ⟨_, ?_, htext⟩
      rw [hreached.follow_append, follow_key_of_counts htag hv, follow]
    | notArray _ hv hlist =>
      refine ⟨_, ?_, hlist⟩
      rw [hreached.follow_append, follow_key_of_counts htag hv, follow]
  | unexpected htag hv hkey hunknown =>
    refine ⟨⟨_, hreached.follow_append _ |>.trans (follow_key_of_counts htag hv [])⟩, _, _, _, _,
      rfl, hreached.follow_eq, htag, hkey, hunknown⟩

end Paths

end AnalysisDiagram
