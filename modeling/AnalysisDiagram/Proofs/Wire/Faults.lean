/-
  AnalysisDiagram.Proofs.Wire.Faults
  ──────────────────────────────────
  What the writer makes of any draft, however broken.

      Outline.dumps   — the usual layout of JSON text, said on its own
      Draft.outline   — what a draft says: the fields of a node in declared
                        order, the tag first, those that are null left out
      Draft.faults    — all that is wrong with a draft, in the order in which
                        a reader from the top comes to it

      write_settles   — the writer reports the first fault, and writes the
                        outline of a draft that has none
      payload_of_first_fault
                      — and so a payload is that text, or tells of the first
                        fault, unless the first fault stops everything

  The writer settles its line ends before it looks inside a list or a node,
  and looks for missing fields before that; `faults` lists them that way.  It
  keeps the usual layout but for nodes without any field to write, the braces
  of which stand on two lines.
-/
import AnalysisDiagram.Proofs.Wire.Writing

namespace AnalysisDiagram

open AnalysisDiagram.Outcome

/-! ## §1. The layout of JSON text. -/

namespace Layout

/-- A line end and the indent of the line after it. -/
def lineEnd (layout : Layout) (level : Nat) : String :=
  match layout with
  | .indented width _ => String.ofList ('\n' :: List.replicate (width * level).toNat ' ')
  | _ => ""

/-- What is wrong with a line end. -/
def fault? (layout : Layout) (level : Nat) : Option WriteFault :=
  match layout with
  | .compact => none
  | .indented width room =>
      if width * level < -countLimit ∨ countLimit ≤ width * level then some .indentOverflow
      else if room < width * level then some .noRoom
      else none
  | .unusable problem => some (.unusableIndent problem)

/-- Pieces between brackets, each on a line of its own unless the layout is
compact; `bare` is what brackets enclose that have none. -/
def bracket (layout : Layout) (level : Nat) (left bare right : String) :
    List LooseText → LooseText
  | [] => LooseText.ofString (left ++ bare ++ right)
  | pieces =>
      LooseText.ofString (left ++ layout.lineEnd (level + 1))
        ++ LooseText.intercalate (LooseText.ofString ("," ++ layout.lineEnd (level + 1))) pieces
        ++ LooseText.ofString (layout.lineEnd level ++ right)

end Layout

/-- A JSON text before it is laid out. -/
inductive Outline where
  | text (t : LooseText)
  | array (items : List Outline)
  | object (members : List (String × Outline))

namespace Outline

mutual

/-- An outline as JSON text; `bare` is what the braces of an object enclose that
has no members, by the level of the object. -/
def laidOut (bare : Nat → String) (layout : Layout) (level : Nat) : Outline → LooseText
  | .text t => Json.encodeLoose t
  | .array items =>
      layout.bracket level "[" "" "]" (laidOutItems bare layout (level + 1) items)
  | .object members =>
      layout.bracket level "\x7b" (bare level) "\x7d"
        (laidOutMembers bare layout (level + 1) members)

/-- The texts of several outlines. -/
def laidOutItems (bare : Nat → String) (layout : Layout) (level : Nat) :
    List Outline → List LooseText
  | [] => []
  | o :: items => laidOut bare layout level o :: laidOutItems bare layout level items

/-- The texts of members, each with its key. -/
def laidOutMembers (bare : Nat → String) (layout : Layout) (level : Nat) :
    List (String × Outline) → List LooseText
  | [] => []
  | (key, o) :: members =>
      (LooseText.ofString (Json.encode key ++ layout.colon) ++ laidOut bare layout level o)
        :: laidOutMembers bare layout level members

end

/-- An outline as JSON text in the usual layout, in which an object without
members is a pair of braces. -/
def dumps (layout : Layout) (level : Nat) (o : Outline) : LooseText :=
  o.laidOut (fun _ => "") layout level

mutual

/-- Whether there is an object without members in an outline. -/
def hasBare : Outline → Bool
  | .text _ => false
  | .array items => anyBare items
  | .object [] => true
  | .object (member :: members) => member.2.hasBare || anyBareMember members

/-- Whether there is one in any of several outlines. -/
def anyBare : List Outline → Bool
  | [] => false
  | o :: items => o.hasBare || anyBare items

/-- Whether there is one in any of several members. -/
def anyBareMember : List (String × Outline) → Bool
  | [] => false
  | (_, o) :: members => o.hasBare || anyBareMember members

end

variable {bare bare' : Nat → String} {layout : Layout}

mutual

/-- What objects without members enclose matters only where there are some. -/
theorem laidOut_of_not_hasBare (level : Nat) : (o : Outline) → o.hasBare = false →
    o.laidOut bare layout level = o.laidOut bare' layout level
  | .text _, _ => rfl
  | .array items, h => by
      rw [laidOut, laidOut, laidOutItems_of_not_anyBare (level + 1) items h]
  | .object [], h => by cases h
  | .object ((key, o) :: members), h => by
      obtain ⟨ho, hmembers⟩ := Bool.or_eq_false_iff.1 h
      rw [laidOut, laidOut, laidOutMembers, laidOutMembers, laidOut_of_not_hasBare (level + 1) o ho,
        laidOutMembers_of_not_anyBare (level + 1) members hmembers]
      rfl

theorem laidOutItems_of_not_anyBare (level : Nat) : (items : List Outline) →
    anyBare items = false →
    laidOutItems bare layout level items = laidOutItems bare' layout level items
  | [], _ => rfl
  | o :: items, h => by
      obtain ⟨ho, hitems⟩ := Bool.or_eq_false_iff.1 h
      rw [laidOutItems, laidOutItems, laidOut_of_not_hasBare level o ho,
        laidOutItems_of_not_anyBare level items hitems]

theorem laidOutMembers_of_not_anyBare (level : Nat) : (members : List (String × Outline)) →
    anyBareMember members = false →
    laidOutMembers bare layout level members = laidOutMembers bare' layout level members
  | [], _ => rfl
  | (_, o) :: members, h => by
      obtain ⟨ho, hmembers⟩ := Bool.or_eq_false_iff.1 h
      rw [laidOutMembers, laidOutMembers, laidOut_of_not_hasBare level o ho,
        laidOutMembers_of_not_anyBare level members hmembers]

end

end Outline

/-! ## §2. What a draft says, and what is wrong with it. -/

namespace Draft

/-- The members of a node, in the order in which its fields are declared. -/
def members (tag : Tag) (said : List (Field × Option Outline)) : List (String × Outline) :=
  tag.allFields.filterMap fun field =>
    ((said.lookup field).getD none).map fun o => (field.name, o)

mutual

/-- What a draft says. -/
def outline : Draft → Outline
  | .text t => .text t
  | .list items => .array (outlines items)
  | .node tag fields => .object (members tag (fieldOutlines fields))
  | _ => .array []

/-- What the items of a list say. -/
def outlines : List Draft → List Outline
  | [] => []
  | d :: items => d.outline :: outlines items

/-- What the fields of a node say; those that are null say nothing. -/
def fieldOutlines : List (Field × Draft) → List (Field × Option Outline)
  | [] => []
  | (field, d) :: fields =>
      (field, if d.isNull then none else some d.outline) :: fieldOutlines fields

end

mutual

/-- All that is wrong with a draft, from the top: fields that are missing, line
ends that cannot be written, and values that have no place there. -/
def faults (layout : Layout) (level : Nat) : Draft → List WriteFault
  | .text _ => []
  | .list [] => []
  | .list (d :: items) =>
      (layout.fault? (level + 1)).toList
        ++ (faults layout (level + 1) d ++ itemFaults layout (level + 1) items)
  | .node _ fields =>
      (if lacksField fields then [.missingField] else [])
        ++ ((layout.fault? (if isHollow fields then level else level + 1)).toList
          ++ fieldFaults layout (level + 1) fields)
  | .null => [.foreign Value.null.typeName]
  | .absent => [.missingField]
  | .foreign typeName => [.foreign typeName]

/-- What is wrong with the items of a list. -/
def itemFaults (layout : Layout) (level : Nat) : List Draft → List WriteFault
  | [] => []
  | d :: items => faults layout level d ++ itemFaults layout level items

/-- What is wrong with the fields of a node; a null is not. -/
def fieldFaults (layout : Layout) (level : Nat) : List (Field × Draft) → List WriteFault
  | [] => []
  | (_, d) :: fields =>
      (if d.isNull then [] else faults layout level d) ++ fieldFaults layout level fields

end

mutual

/-- Every node has the fields of its tag, in order, though some of them may
never have been set. -/
def Proper : Draft → Prop
  | .list items => ProperItems items
  | .node tag fields => fields.map Prod.fst = tag.allFields ∧ ProperFields fields
  | .absent => False
  | _ => True

/-- All items of a list are proper. -/
def ProperItems : List Draft → Prop
  | [] => True
  | d :: items => d.Proper ∧ ProperItems items

/-- All fields of a node that were set are proper. -/
def ProperFields : List (Field × Draft) → Prop
  | [] => True
  | (_, d) :: fields => (d.isAbsent = true ∨ d.Proper) ∧ ProperFields fields

end

end Draft

/-! ## §3. Values taken as drafts. -/

namespace Draft

theorem properItems_ofValues {vs : List Value} (h : ∀ v ∈ vs, (ofValue v).Proper) :
    ProperItems (ofValues vs) := by
  induction vs with
  | nil => exact trivial
  | cons v vs ih =>
    obtain ⟨hv, hvs⟩ := List.forall_mem_cons.1 h
    exact ⟨hv, ih hvs⟩

theorem mem_ofEntries {entries : List (String × Value)} {e : String × Draft}
    (h : e ∈ ofEntries entries) : ∃ f ∈ entries, e.2 = ofValue f.2 := by
  induction entries with
  | nil => cases h
  | cons f entries ih =>
    obtain ⟨key, v⟩ := f
    rcases List.mem_cons.1 h with rfl | h
    · exact ⟨(key, v), List.mem_cons_self, rfl⟩
    · obtain ⟨f, hf, he⟩ := ih h
      exact ⟨f, List.mem_cons_of_mem _ hf, he⟩

theorem properFields_map {g : Field → Draft} {fields : List Field}
    (h : ∀ field, (g field).isAbsent = true ∨ (g field).Proper) :
    ProperFields (fields.map fun field => (field, g field)) := by
  induction fields with
  | nil => exact trivial
  | cons field fields ih => exact ⟨h field, ih⟩

/-- Every value makes a proper draft. -/
theorem proper_ofValue (v : Value) : (ofValue v).Proper := by
  induction v using Value.induction with
  | list items ih => exact properItems_ofValues ih
  | object entries ih =>
    rw [ofValue]
    cases tagOf? entries with
    | none => exact trivial
    | some tag =>
      refine ⟨?_, properFields_map fun field => ?_⟩
      · rw [List.map_map]
        exact List.map_id _
      · -- what the object says of the field, or what the field is by itself
        cases hfound : Value.lookup field.name (ofEntries entries) with
        | none =>
          rw [Option.getD_none]
          cases field with
          | tag | children | elseBlock => exact .inr trivial
          | _ => exact .inl rfl
        | some d =>
          obtain ⟨e, he, rfl⟩ := Option.map_eq_some_iff.1 hfound
          obtain ⟨f, hf, hd⟩ :=
            mem_ofEntries (List.mem_reverse.1 (List.mem_of_find?_eq_some he))
          rw [Option.getD_some, hd]
          exact .inr (ih f hf)
  | null => exact trivial
  | bool b => exact trivial
  | int i => exact trivial
  | float x => exact trivial
  | text s => exact trivial
  | loose t => exact trivial
  | bytes bs => exact trivial

end Draft

/-! ## §4. The first fault. -/

/-- A computation that meets faults in the given order: it ends with the first,
or with a result if there are none. -/
def Settles {α : Type} (faults : List WriteFault) (x : Except WriteFault α) (a : α) : Prop :=
  x = faults.head?.elim (.ok a) .error

namespace Settles

variable {α β : Type} {fs gs : List WriteFault} {x : Except WriteFault α} {a : α} {b : β}

theorem pure (a : α) : Settles [] (.ok a) a := rfl

/-- One computation after the other meets the faults of both. -/
theorem bind {f : α → Except WriteFault β} (hx : Settles fs x a)
    (hf : fs = [] → Settles gs (f a) b) : Settles (fs ++ gs) (x >>= f) b := by
  cases fs with
  | nil =>
    have hx : x = .ok a := hx
    rw [hx]
    exact hf rfl
  | cons fault fs =>
    have hx : x = .error fault := hx
    rw [hx]
    rfl

end Settles

namespace Layout

theorem newline_settles (layout : Layout) (level : Nat) :
    Settles (layout.fault? level).toList (layout.newline level) (layout.lineEnd level) := by
  cases layout with
  | compact => rfl
  | unusable problem => rfl
  | indented width room =>
    unfold newline fault? lineEnd
    dsimp only
    split
    · rfl
    split
    · rfl
    · rfl

theorem fault?_indented_eq_none {width : Int} {room level : Nat} :
    fault? (.indented width room) level = none ↔ RoomFor room (some width) level := by
  rw [roomFor_some]
  unfold fault?
  dsimp only
  split
  · next hover => exact ⟨nofun, fun h => by omega⟩
  · next hover =>
    split
    · next hmuch => exact ⟨nofun, fun h => by omega⟩
    · next hmuch => exact ⟨fun _ => by omega, fun _ => rfl⟩

/-- Where the inner lines can be written, the outer ones can. -/
theorem fault?_outer {layout : Layout} {level : Nat} (h : layout.fault? (level + 1) = none) :
    layout.fault? level = none := by
  cases layout with
  | compact => rfl
  | unusable problem => cases h
  | indented width room =>
    exact fault?_indented_eq_none.2 ((fault?_indented_eq_none.1 h).mono (Nat.le_succ level))

/-- The two line ends of a list or a node, and then what is in it. -/
theorem lines_settle (layout : Layout) (level : Nat) {gs : List WriteFault}
    {f : String → String → Except WriteFault LooseText} {t : LooseText}
    (hf : Settles gs (f (layout.lineEnd (level + 1)) (layout.lineEnd level)) t) :
    Settles ((layout.fault? (level + 1)).toList ++ gs)
      (do
        let inner ← layout.newline (level + 1)
        let outer ← layout.newline level
        f inner outer) t := by
  refine (newline_settles layout (level + 1)).bind fun hinner => ?_
  have hnone : layout.fault? (level + 1) = none := Option.toList_eq_nil_iff.1 hinner
  have houter := newline_settles layout level
  rw [fault?_outer hnone] at houter
  exact houter.bind fun _ => hf

end Layout

/-! ## §5. Texts one behind the other. -/

namespace LooseText

/-- Texts one after the other, with one text before the first and another before
each that follows. -/
def chained (between : LooseText) : LooseText → List LooseText → LooseText
  | _, [] => ofString ""
  | before, t :: rest => before ++ t ++ chained between between rest

/-- Texts with a text between each two are the first, and then the others with
that text before each. -/
theorem intercalate_cons (between t : LooseText) (rest : List LooseText) :
    intercalate between (t :: rest) = t ++ chained between between rest := by
  induction rest generalizing t with
  | nil =>
    show t = t ++ ofString ""
    rw [append_empty]
  | cons u rest ih =>
    show t ++ between ++ intercalate between (u :: rest)
      = t ++ (between ++ u ++ chained between between rest)
    rw [ih]
    simp only [append_assoc]

end LooseText

/-- Brackets that enclose something are a chain of pieces between them. -/
theorem Layout.bracket_eq_chained (layout : Layout) (level : Nat) (left bare right : String)
    {pieces : List LooseText} (h : pieces ≠ []) :
    layout.bracket level left bare right pieces
      = LooseText.ofString left
        ++ LooseText.chained (LooseText.ofString ("," ++ layout.lineEnd (level + 1)))
          (LooseText.ofString (layout.lineEnd (level + 1))) pieces
        ++ LooseText.ofString (layout.lineEnd level ++ right) := by
  cases pieces with
  | nil => exact absurd rfl h
  | cons t rest =>
    show LooseText.ofString _ ++ LooseText.intercalate _ (t :: rest) ++ LooseText.ofString _ = _
    rw [LooseText.intercalate_cons, LooseText.chained, ← LooseText.ofString_append]
    simp only [LooseText.append_assoc]

namespace Draft

open AnalysisDiagram.Outline

variable {layout : Layout}

theorem nodup_allFields (tag : Tag) : tag.allFields.Nodup := by
  cases tag <;> decide

/-- If fields stand in declared order, the members are found in passing. -/
theorem members_eq {tag : Tag} {said : List (Field × Option Outline)}
    (h : said.map Prod.fst = tag.allFields) :
    members tag said = said.filterMap fun s => s.2.map fun o => (s.1.name, o) := by
  unfold members
  have hnodup := nodup_allFields tag
  rw [← h] at hnodup ⊢
  clear h
  induction said with
  | nil => rfl
  | cons s said ih =>
    obtain ⟨field, o⟩ := s
    rw [List.map_cons] at hnodup ⊢
    obtain ⟨hfresh, hnodup⟩ := List.nodup_cons.1 hnodup
    -- a field further on is not the first one, so it is looked up among the others
    have htail : (said.map Prod.fst).filterMap (fun key =>
          ((((field, o) :: said).lookup key).getD none).map fun o => (key.name, o))
        = (said.map Prod.fst).filterMap fun key =>
          ((said.lookup key).getD none).map fun o => (key.name, o) := by
      apply List.filterMap_congr
      intro key hkey
      have hne : (key == field) = false := by
        rw [beq_eq_false_iff_ne]
        intro heq
        exact hfresh (heq ▸ hkey)
      rw [List.lookup_cons, hne]
    rw [List.filterMap_cons, List.filterMap_cons, htail, ih hnodup, List.lookup_cons_self]
    rfl

theorem map_fst_fieldOutlines (fields : List (Field × Draft)) :
    (fieldOutlines fields).map Prod.fst = fields.map Prod.fst := by
  induction fields with
  | nil => rfl
  | cons f fields ih =>
    obtain ⟨field, d⟩ := f
    rw [fieldOutlines, List.map_cons, List.map_cons, ih]

theorem proper_of_mem {items : List Draft} (h : ProperItems items) {d : Draft} (hd : d ∈ items) :
    d.Proper := by
  induction items with
  | nil => cases hd
  | cons e items ih =>
    rcases List.mem_cons.1 hd with rfl | hd
    · exact h.1
    · exact ih h.2 hd

theorem proper_of_mem_fields {fields : List (Field × Draft)} (h : ProperFields fields)
    (hall : lacksField fields = false) {f : Field × Draft} (hf : f ∈ fields) : f.2.Proper := by
  induction fields with
  | nil => cases hf
  | cons g fields ih =>
    unfold lacksField at ih hall
    rw [List.any_cons, Bool.or_eq_false_iff] at hall
    rcases List.mem_cons.1 hf with rfl | hf
    · rcases h.1 with habsent | hproper
      · exact absurd habsent (by rw [hall.1]; exact Bool.false_ne_true)
      · exact hproper
    · exact ih h.2 hall.2 hf

/-- What the fields of a node say that say something. -/
def spoken (fields : List (Field × Draft)) : List (String × Outline) :=
  (fieldOutlines fields).filterMap fun s => s.2.map fun o => (s.1.name, o)

theorem spoken_cons_null {field : Field} {d : Draft} {fields : List (Field × Draft)}
    (hnull : d.isNull = true) : spoken ((field, d) :: fields) = spoken fields := by
  unfold spoken
  rw [fieldOutlines, hnull]
  rfl

theorem spoken_cons {field : Field} {d : Draft} {fields : List (Field × Draft)}
    (hnull : d.isNull = false) :
    spoken ((field, d) :: fields) = (field.name, d.outline) :: spoken fields := by
  unfold spoken
  rw [fieldOutlines, hnull]
  rfl

/-- A node says nothing exactly if no field of it is written. -/
theorem spoken_eq_nil_iff {fields : List (Field × Draft)} :
    spoken fields = [] ↔ isHollow fields = true := by
  induction fields with
  | nil => exact ⟨fun _ => rfl, fun _ => rfl⟩
  | cons f fields ih =>
    obtain ⟨field, d⟩ := f
    unfold isHollow at ih ⊢
    rw [List.all_cons]
    cases hnull : d.isNull with
    | true => rw [spoken_cons_null hnull, Bool.true_and, ih]
    | false =>
      rw [spoken_cons hnull]
      exact ⟨nofun, nofun⟩

/-- What it means that a draft is written as its outline, up to its first
fault; the braces of a node without a field to write enclose a line end. -/
def WritesOutline (layout : Layout) (d : Draft) : Prop :=
  ∀ level, Settles (faults layout level d) (write layout level d)
    (d.outline.laidOut layout.lineEnd layout level)

theorem writeItems_settles {items : List Draft} (h : ∀ d ∈ items, WritesOutline layout d)
    (level : Nat) (inner : String) :
    Settles (itemFaults layout level items) (writeItems layout level inner items)
      (LooseText.chained (LooseText.ofString ("," ++ inner)) (LooseText.ofString ("," ++ inner))
        (laidOutItems layout.lineEnd layout level (outlines items))) := by
  induction items with
  | nil => rfl
  | cons d items ih =>
    obtain ⟨hd, hitems⟩ := List.forall_mem_cons.1 h
    rw [itemFaults, writeItems, outlines, laidOutItems, LooseText.chained]
    refine (hd level).bind fun _ => ?_
    rw [← List.append_nil (itemFaults layout level items)]
    exact (ih hitems).bind fun _ => Settles.pure _

theorem writeFields_settles {fields : List (Field × Draft)}
    (h : ∀ f ∈ fields, f.2.isNull = false → WritesOutline layout f.2) (level : Nat)
    (inner before : String) :
    Settles (fieldFaults layout level fields) (writeFields layout level inner before fields)
      (LooseText.chained (LooseText.ofString ("," ++ inner)) (LooseText.ofString before)
        (laidOutMembers layout.lineEnd layout level (spoken fields))) := by
  induction fields generalizing before with
  | nil => rfl
  | cons f fields ih =>
    obtain ⟨field, d⟩ := f
    obtain ⟨hd, hfields⟩ := List.forall_mem_cons.1 h
    rw [fieldFaults, writeFields]
    cases hnull : d.isNull with
    | true =>
      rw [spoken_cons_null hnull]
      exact ih hfields before
    | false =>
      rw [spoken_cons hnull, if_neg Bool.false_ne_true, if_neg Bool.false_ne_true]
      refine (hd hnull level).bind fun _ => ?_
      rw [← List.append_nil (fieldFaults layout level fields)]
      refine (ih hfields ("," ++ inner)).bind fun _ => ?_
      -- what stands before a field, its key and the colon are one piece for the writer
      have hstart : LooseText.ofString (fieldStart layout before field)
          = LooseText.ofString before
            ++ LooseText.ofString (Json.encode field.name ++ layout.colon) := by
        rw [LooseText.ofString_append]
        unfold fieldStart
        rw [String.append_assoc]
      show Settles [] (.ok (LooseText.ofString (fieldStart layout before field) ++ _ ++ _)) _
      rw [hstart, laidOutMembers, LooseText.chained]
      simp only [LooseText.append_assoc]
      exact Settles.pure _

theorem fieldFaults_of_isHollow {fields : List (Field × Draft)} (h : isHollow fields = true)
    (level : Nat) : fieldFaults layout level fields = [] := by
  induction fields with
  | nil => rfl
  | cons f fields ih =>
    obtain ⟨field, d⟩ := f
    unfold isHollow at ih h
    rw [List.all_cons, Bool.and_eq_true] at h
    rw [fieldFaults, if_pos h.1, ih h.2]
    rfl

/-- The line ends of a node, and then its fields. -/
theorem writeNode_settles {fields : List (Field × Draft)}
    (h : ∀ f ∈ fields, f.2.isNull = false → WritesOutline layout f.2) (level : Nat) :
    Settles ((layout.fault? (if isHollow fields then level else level + 1)).toList
        ++ fieldFaults layout (level + 1) fields)
      (do
        let inner ← fieldLine layout (level + 1) fields
        let outer ← layout.newline level
        let written ← writeFields layout (level + 1) inner inner fields
        return LooseText.ofString "\x7b" ++ written ++ LooseText.ofString (outer ++ "\x7d"))
      ((Outline.object (spoken fields)).laidOut layout.lineEnd layout level) := by
  rw [laidOut, fieldLine]
  cases hhollow : isHollow fields with
  | true =>
    -- the inner line end is not asked for, and no field is written
    have hwritten := writeFields_settles h (level + 1) "" ""
    rw [fieldFaults_of_isHollow hhollow] at hwritten ⊢
    rw [spoken_eq_nil_iff.2 hhollow] at hwritten ⊢
    refine (Layout.newline_settles layout level).bind fun _ => ?_
    show Settles ([] ++ []) _ _
    refine hwritten.bind fun _ => ?_
    show Settles [] (.ok (LooseText.ofString _)) (LooseText.ofString _)
    simp only [String.append_assoc]
    exact Settles.pure _
  | false =>
    have hsome : laidOutMembers layout.lineEnd layout (level + 1) (spoken fields) ≠ [] := by
      cases hspoken : spoken fields with
      | nil => rw [spoken_eq_nil_iff.1 hspoken] at hhollow; cases hhollow
      | cons m ms => exact List.cons_ne_nil _ _
    rw [Layout.bracket_eq_chained _ _ _ _ _ hsome]
    refine Layout.lines_settle layout level ?_
    rw [← List.append_nil (fieldFaults layout (level + 1) fields)]
    exact (writeFields_settles h (level + 1) _ _).bind fun _ => Settles.pure _

/-- The writer ends with the first fault of a draft, or else with the text of
its outline. -/
theorem write_settles {d : Draft} (h : d.Proper) : WritesOutline layout d := by
  induction d using Draft.induction with
  | text t => exact fun level => rfl
  | list items ih =>
    intro level
    have hitems : ∀ d ∈ items, WritesOutline layout d :=
      fun d hd => ih d hd (proper_of_mem h hd)
    cases items with
    | nil => rfl
    | cons d items =>
      obtain ⟨hd, hitems⟩ := List.forall_mem_cons.1 hitems
      rw [faults, write, outline, outlines, laidOut, laidOutItems,
        Layout.bracket_eq_chained _ _ _ _ _ (List.cons_ne_nil _ _), LooseText.chained]
      refine Layout.lines_settle layout level ?_
      refine (hd (level + 1)).bind fun _ => ?_
      rw [← List.append_nil (itemFaults layout (level + 1) items)]
      refine (writeItems_settles hitems (level + 1) _).bind fun _ => ?_
      rw [← LooseText.ofString_append (layout.lineEnd level) "]"]
      simp only [LooseText.append_assoc]
      exact Settles.pure _
  | node tag fields ih =>
    intro level
    rw [faults, write]
    cases hlacks : lacksField fields with
    | true => rfl
    | false =>
      rw [if_neg Bool.false_ne_true, if_neg Bool.false_ne_true, List.nil_append]
      have hfields : ∀ f ∈ fields, f.2.isNull = false → WritesOutline layout f.2 :=
        fun f hf _ => ih f hf (proper_of_mem_fields h.2 hlacks hf)
      have horder : (fieldOutlines fields).map Prod.fst = tag.allFields := by
        rw [map_fst_fieldOutlines, h.1]
      rw [outline, members_eq horder]
      exact writeNode_settles hfields level
  | null => exact fun level => rfl
  | absent => exact h.elim
  | foreign typeName => exact fun level => rfl

end Draft

/-! ## §6. Want of room. -/

/-- Whether a fault is want of room for a line's indent. -/
def WriteFault.lacksRoom : WriteFault → Bool
  | .indentOverflow => true
  | .noRoom => true
  | _ => false

namespace Layout

/-- There is room for the lines at a level, if lines are indented at all. -/
def HasRoom (layout : Layout) (level : Nat) : Prop :=
  ∀ width room, layout = .indented width room → RoomFor room (some width) level

variable {layout : Layout}

theorem HasRoom.mono {j k : Nat} (h : layout.HasRoom k) (hjk : j ≤ k) : layout.HasRoom j :=
  fun width room hlayout => (h width room hlayout).mono hjk

theorem HasRoom.line {level : Nat} (h : layout.HasRoom level) :
    ∀ fault ∈ (layout.fault? level).toList, fault.lacksRoom = false := by
  intro fault hfault
  cases layout with
  | compact => cases hfault
  | unusable problem =>
    cases List.mem_singleton.1 hfault
    rfl
  | indented width room =>
    rw [fault?_indented_eq_none.2 (h width room rfl)] at hfault
    cases hfault

end Layout

namespace Draft

open AnalysisDiagram.Layout

variable {layout : Layout}

/-- What it means that a draft has no faults for want of room where its deepest
lines have room. -/
def Roomy (layout : Layout) (d : Draft) : Prop :=
  ∀ level, layout.HasRoom (level + d.nest) →
    ∀ fault ∈ faults layout level d, fault.lacksRoom = false

theorem itemFaults_room {items : List Draft} (h : ∀ d ∈ items, Roomy layout d) {level : Nat}
    (hroom : layout.HasRoom (level + nests items)) :
    ∀ fault ∈ itemFaults layout level items, fault.lacksRoom = false := by
  induction items with
  | nil =>
    intro fault hfault
    cases hfault
  | cons d items ih =>
    obtain ⟨hd, hitems⟩ := List.forall_mem_cons.1 h
    rw [nests] at hroom
    rw [itemFaults]
    exact List.forall_mem_append.2
      ⟨hd level (hroom.mono (by omega)), ih hitems (hroom.mono (by omega))⟩

theorem fieldFaults_room {fields : List (Field × Draft)} (h : ∀ f ∈ fields, Roomy layout f.2)
    {level : Nat} (hroom : layout.HasRoom (level + fieldNests fields)) :
    ∀ fault ∈ fieldFaults layout level fields, fault.lacksRoom = false := by
  induction fields with
  | nil =>
    intro fault hfault
    cases hfault
  | cons f fields ih =>
    obtain ⟨field, d⟩ := f
    obtain ⟨hd, hfields⟩ := List.forall_mem_cons.1 h
    have hd : Roomy layout d := hd
    rw [fieldNests] at hroom
    rw [fieldFaults]
    refine List.forall_mem_append.2 ⟨?_, ih hfields (hroom.mono (by omega))⟩
    cases d.isNull with
    | true =>
      intro fault hfault
      cases hfault
    | false => exact hd level (hroom.mono (by omega))

/-- With room for the deepest lines, nothing is wrong for want of room. -/
theorem faults_room (d : Draft) : Roomy layout d := by
  induction d using Draft.induction with
  | text t =>
    intro level _ fault hfault
    cases hfault
  | list items ih =>
    intro level hroom
    cases items with
    | nil =>
      intro fault hfault
      cases hfault
    | cons d items =>
      obtain ⟨hd, hitems⟩ := List.forall_mem_cons.1 ih
      rw [nest] at hroom
      rw [faults]
      refine List.forall_mem_append.2 ⟨(hroom.mono (by omega)).line, ?_⟩
      exact List.forall_mem_append.2
        ⟨hd (level + 1) (hroom.mono (by omega)), itemFaults_room hitems (hroom.mono (by omega))⟩
  | node tag fields ih =>
    intro level hroom
    rw [nest] at hroom
    rw [faults]
    refine List.forall_mem_append.2 ⟨?_, List.forall_mem_append.2 ?_⟩
    · intro fault hfault
      split at hfault
      · cases List.mem_singleton.1 hfault
        rfl
      · cases hfault
    · cases hhollow : isHollow fields with
      | true =>
        rw [hhollow] at hroom
        rw [fieldFaults_of_isHollow hhollow]
        exact ⟨(hroom.mono (Nat.le_add_right _ _)).line, List.forall_mem_nil _⟩
      | false =>
        rw [hhollow, if_neg Bool.false_ne_true] at hroom
        rw [if_neg Bool.false_ne_true]
        exact ⟨(hroom.mono (by omega)).line, fieldFaults_room ih (hroom.mono (by omega))⟩
  | null =>
    intro level _ fault hfault
    cases List.mem_singleton.1 hfault
    rfl
  | absent =>
    intro level _ fault hfault
    cases List.mem_singleton.1 hfault
    rfl
  | foreign typeName =>
    intro level _ fault hfault
    cases List.mem_singleton.1 hfault
    rfl

/-! ## §7. Payloads of drafts. -/

/-- The writer with a list of what is to come writes what the recursive one
writes, and its payload goes by the first fault.  Without any it is the draft's
outline, in the usual layout if it is compact or every node has a field to
write; else the braces of a node without one enclose a line end.  A missing
field stops everything, and so does want of room; of any other fault the payload
tells.  There is no want of room if the deepest lines have room. -/
theorem payload_of_first_fault (room : Nat) (indent : Value) (d : Draft) (hproper : d.Proper) :
    let layout := Layout.ofValue room indent
    let faults := d.faults layout 0
    d.render layout = d.write layout 0 ∧
    (faults = [] → d.payload layout = .plain (.ok (d.outline.laidOut layout.lineEnd layout 0))) ∧
    (faults = [] → layout = .compact ∨ d.outline.hasBare = false →
      d.payload layout = .plain (.ok (d.outline.dumps layout 0))) ∧
    (faults.head? = some .missingField → d.payload layout = .plain (.error .missingField)) ∧
    (∀ fault, faults.head? = some fault → fault.isFatal = false →
      d.payload layout = ⟨[fallbackRecord fault], .ok (fallbackPayload fault)⟩) ∧
    (∀ fault, faults.head? = some fault → fault.lacksRoom = true →
      d.payload layout = .plain (.error fault)) ∧
    (layout.HasRoom d.nest → ∀ fault ∈ faults, fault.lacksRoom = false) := by
  intro layout faults
  have hsettles : d.render layout
      = faults.head?.elim (.ok (d.outline.laidOut layout.lineEnd layout 0)) .error :=
    (render_eq_write d).trans (write_settles hproper 0)
  have hwritten (hnone : faults = []) :
      d.payload layout = .plain (.ok (d.outline.laidOut layout.lineEnd layout 0)) := by
    unfold payload
    rw [hsettles, hnone]
    rfl
  refine ⟨render_eq_write d, hwritten, fun hnone husual => ?_, fun hhead => ?_,
    fun fault hhead hfatal => ?_, fun fault hhead hlacks => ?_, fun hroom => ?_⟩
  · rw [hwritten hnone]
    rcases husual with hcompact | hbare
    · rw [hcompact]
      rfl
    · rw [Outline.laidOut_of_not_hasBare 0 d.outline hbare]
      rfl
  · unfold payload
    rw [hsettles, hhead]
    rfl
  · unfold payload
    rw [hsettles, hhead]
    show (if fault.isFatal then _ else _) = _
    rw [hfatal, if_neg Bool.false_ne_true]
  · unfold payload
    rw [hsettles, hhead]
    cases fault with
    | indentOverflow => rfl
    | noRoom => rfl
    | _ => cases hlacks
  · have hroom : layout.HasRoom (0 + d.nest) := by
      rw [Nat.zero_add]
      exact hroom
    exact faults_room d 0 hroom

/-- A sequence of a command, a number, and a command without a label. -/
def brokenValue : Value :=
  .object [("type", .text "sequence"), ("children", .list
    [.object [("type", .text "command"), ("label", .text "x")], .int 5,
      .object [("type", .text "command")]])]

/-- The number comes before the missing label, so the payload tells of it. -/
theorem payload_of_first_fault_brokenValue :
    (ofValue brokenValue).faults .compact 0 = [.foreign "int", .missingField, .missingField] ∧
    (ofValue brokenValue).payload (Layout.ofValue 0 .null)
      = ⟨[fallbackRecord (.foreign "int")], .ok (fallbackPayload (.foreign "int"))⟩ := by
  refine ⟨by decide +kernel, ?_⟩
  exact (payload_of_first_fault 0 .null (ofValue brokenValue)
    (proper_ofValue brokenValue)).2.2.2.2.1 (.foreign "int") (by decide +kernel) rfl

/-- A command with nothing in any of its fields. -/
def hollowCommand : Draft := .node .command [(.tag, .null), (.label, .null)]

/-- Nothing is missing or foreign in a single command, and an indent below zero
is a whole number; but far enough below it stops everything all the same.  Nor
is anything wrong with a command that has nothing in its fields; but its payload
is not in the usual layout. -/
theorem payload_stops_without_fault :
    (ofValue (.object [("type", .text "command"), ("label", .text "x")])).faults .compact 0 = [] ∧
    (∀ room, (ofValue (.object [("type", .text "command"), ("label", .text "x")])).payload
        (Layout.ofValue room (.int Layout.farBelow)) = .plain (.error .indentOverflow)) ∧
    hollowCommand.Proper ∧ hollowCommand.faults (Layout.ofValue 2 (.int 2)) 0 = [] ∧
    hollowCommand.payload (Layout.ofValue 2 (.int 2)) = .plain (.ok "\x7b\n\x7d") ∧
    hollowCommand.outline.dumps (Layout.ofValue 2 (.int 2)) 0 = LooseText.ofString "\x7b\x7d" := by
  refine ⟨by decide +kernel, fun room => ?_, ?_, by decide +kernel, ?_, by decide +kernel⟩
  · unfold payload
    rw [render_eq_write]
    rfl
  · exact ⟨rfl, .inr trivial, .inr trivial, trivial⟩
  · unfold payload
    rw [render_eq_write]
    rfl

end Draft

end AnalysisDiagram
