/-
  AnalysisDiagram.Proofs.Wire.Drafts
  ──────────────────────────────────
  Drafts that can be written, and what they say.

      Draft.Sound   — every field is there, every node has one to write, and
                      nothing in it is foreign
      Draft.nest    — how deep the lists and nodes nest that hold something
      Draft.value   — the JSON value that a draft stands for

  The draft of a diagram is sound.  Reading the value of that draft as a node
  gives the diagram back, whatever the diagram is.
-/
import AnalysisDiagram.Wire.Reading
import AnalysisDiagram.Wire.Writer
import Mathlib.Data.List.Basic
import Mathlib.Tactic.Common

namespace AnalysisDiagram

/-! ## §1. Inductions. -/

/-- What holds of lists and nodes whenever it holds of all that is in them
holds of every draft. -/
theorem Draft.induction {P : Draft → Prop} (text : ∀ t, P (.text t))
    (list : ∀ items, (∀ d ∈ items, P d) → P (.list items))
    (node : ∀ tag fields, (∀ f ∈ fields, P f.2) → P (.node tag fields))
    (null : P .null) (absent : P .absent) (foreign : ∀ typeName, P (.foreign typeName))
    (d : Draft) : P d := by
  -- lists of drafts and of fields take the property of all their members
  refine @Draft.rec P (fun items => ∀ d ∈ items, P d) (fun fields => ∀ f ∈ fields, P f.2)
    (fun f => P f.2) text list node null absent foreign ?_ ?_ ?_ ?_ ?_ d
  · exact fun d hd => absurd hd List.not_mem_nil
  · exact fun d items hd hitems => List.forall_mem_cons.2 ⟨hd, hitems⟩
  · exact fun f hf => absurd hf List.not_mem_nil
  · exact fun f fields hf hfields => List.forall_mem_cons.2 ⟨hf, hfields⟩
  · exact fun _ d hd => hd

/-- What holds of a node whenever it holds of all that it contains holds of
every diagram. -/
theorem Diagram.induction {P : Diagram → Prop}
    (sequence : ∀ children, (∀ d ∈ children, P d) → P (.sequence children))
    (block : ∀ label children, (∀ d ∈ children, P d) → P (.block label children))
    (branch : ∀ condition t e, P t → (∀ d, e = some d → P d) → P (.branch condition t e))
    (loop : ∀ condition body, P body → P (.loop condition body))
    (command : ∀ label, P (.command label)) (error : ∀ message, P (.error message))
    (d : Diagram) : P d := by
  refine @Diagram.rec P (fun ds => ∀ d ∈ ds, P d) (fun e => ∀ d, e = some d → P d)
    sequence block branch loop command error ?_ ?_ ?_ ?_ d
  · exact fun d hd => absurd hd List.not_mem_nil
  · exact fun d ds hd hds => List.forall_mem_cons.2 ⟨hd, hds⟩
  · exact nofun
  · intro d hd d' h
    cases h
    exact hd

/-- What holds of lists and objects whenever it holds of all that is in them,
and of all other values, holds of every value. -/
theorem Value.induction {P : Value → Prop} (null : P .null) (bool : ∀ b, P (.bool b))
    (int : ∀ i, P (.int i)) (float : ∀ x, P (.float x)) (text : ∀ s, P (.text s))
    (loose : ∀ t, P (.loose t)) (bytes : ∀ bs, P (.bytes bs))
    (list : ∀ items, (∀ v ∈ items, P v) → P (.list items))
    (object : ∀ entries, (∀ e ∈ entries, P e.2) → P (.object entries)) (v : Value) : P v := by
  refine @Value.rec P (fun items => ∀ v ∈ items, P v) (fun entries => ∀ e ∈ entries, P e.2)
    (fun e => P e.2) null bool int float text loose bytes list object ?_ ?_ ?_ ?_ ?_ v
  · exact fun v hv => absurd hv List.not_mem_nil
  · exact fun v items hv hitems => List.forall_mem_cons.2 ⟨hv, hitems⟩
  · exact fun e he => absurd he List.not_mem_nil
  · exact fun e entries he hentries => List.forall_mem_cons.2 ⟨he, hentries⟩
  · exact fun _ v hv => hv

/-! ## §2. Sound drafts. -/

namespace Draft

mutual

/-- Every field is there, every node has one to write, and nothing in the draft
is foreign. -/
def Sound : Draft → Prop
  | .text t => t.lead = []
  | .list items => SoundItems items
  | .node _ fields => isHollow fields = false ∧ SoundFields fields
  | _ => False

/-- All items of a list are sound. -/
def SoundItems : List Draft → Prop
  | [] => True
  | d :: items => d.Sound ∧ SoundItems items

/-- All fields of a node are sound, or null. -/
def SoundFields : List (Field × Draft) → Prop
  | [] => True
  | (_, d) :: fields => (d.isNull = true ∨ d.Sound) ∧ SoundFields fields

end

theorem lacksField_of_soundFields {fields : List (Field × Draft)} (h : SoundFields fields) :
    lacksField fields = false := by
  induction fields with
  | nil => rfl
  | cons f fields ih =>
    obtain ⟨field, d⟩ := f
    obtain ⟨hd, hfields⟩ := h
    have hpresent : d.isAbsent = false := by
      cases d with
      | absent => rcases hd with hd | hd <;> cases hd
      | _ => rfl
    unfold lacksField at ih ⊢
    rw [List.any_cons, hpresent, ih hfields]
    rfl

mutual

/-- How deep the lists and nodes of a draft nest that hold something. -/
def nest : Draft → Nat
  | .list [] => 0
  | .list (d :: items) => 1 + max d.nest (nests items)
  | .node _ fields => if isHollow fields then 0 else 1 + fieldNests fields
  | _ => 0

/-- The deepest of several drafts. -/
def nests : List Draft → Nat
  | [] => 0
  | d :: items => max d.nest (nests items)

/-- The deepest of several fields. -/
def fieldNests : List (Field × Draft) → Nat
  | [] => 0
  | (_, d) :: fields => max d.nest (fieldNests fields)

end

theorem sound_tagged {tag : Tag} {fields : List (Field × Draft)} (h : SoundFields fields) :
    (tagged tag fields).Sound :=
  ⟨rfl, .inr rfl, h⟩

theorem nest_of_isNull {d : Draft} (h : d.isNull = true) : d.nest = 0 := by
  cases d with
  | null => rfl
  | _ => cases h

mutual

/-- The JSON value that a draft stands for. -/
def value : Draft → Value
  | .text t => .text t.string
  | .list items => .list (values items)
  | .node _ fields => .object (entries fields)
  | _ => .null

/-- The values of several drafts. -/
def values : List Draft → List Value
  | [] => []
  | d :: items => d.value :: values items

/-- The entries of fields; those that are null are left out. -/
def entries : List (Field × Draft) → List (String × Value)
  | [] => []
  | (field, d) :: fields =>
      if d.isNull then entries fields else (field.name, d.value) :: entries fields

end

end Draft

/-! ## §3. The drafts of diagrams. -/

namespace Diagram

open AnalysisDiagram.Draft

theorem soundItems_toDrafts {ds : List Diagram} (h : ∀ d ∈ ds, d.toDraft.Sound) :
    SoundItems (toDrafts ds) := by
  induction ds with
  | nil => exact trivial
  | cons d ds ih =>
    obtain ⟨hd, hds⟩ := List.forall_mem_cons.1 h
    exact ⟨hd, ih hds⟩

/-- The draft of a diagram is sound. -/
theorem sound_toDraft (d : Diagram) : d.toDraft.Sound := by
  induction d using Diagram.induction with
  | sequence children ih => exact sound_tagged ⟨.inr (soundItems_toDrafts ih), trivial⟩
  | block label children ih =>
    exact sound_tagged ⟨.inr rfl, .inr (soundItems_toDrafts ih), trivial⟩
  | branch condition t e iht ihe =>
    refine sound_tagged ⟨.inr rfl, .inr iht, ?_, trivial⟩
    cases e with
    | none => exact .inl rfl
    | some e => exact .inr (ihe e rfl)
  | loop condition body ih => exact sound_tagged ⟨.inr rfl, .inr ih, trivial⟩
  | command label => exact sound_tagged ⟨.inr rfl, trivial⟩
  | error message => exact sound_tagged ⟨.inr rfl, trivial⟩

theorem isNull_toDraft (d : Diagram) : d.toDraft.isNull = false := by
  cases d <;> rfl

/-! ## §4. Values read as nodes. -/

/-- The entry of a field that holds a diagram. -/
theorem entries_toDraft (field : Field) (d : Diagram) (fields : List (Field × Draft)) :
    entries ((field, d.toDraft) :: fields) = (field.name, d.toDraft.value) :: entries fields := by
  rw [entries, if_neg (by rw [isNull_toDraft]; exact Bool.false_ne_true)]

theorem isNull_candidate_value (d : Diagram) : (candidate d.toDraft.value).isNull = false := by
  cases d <;> rfl

/-- Children are read back one after the other. -/
theorem nodes_values {ds : List Diagram} (h : ∀ d ∈ ds, diagramOf d.toDraft.value = .ok d)
    (i : Nat) : nodes i (values (toDrafts ds)) = .ok ds := by
  induction ds generalizing i with
  | nil => rfl
  | cons d ds ih =>
    obtain ⟨hd, hds⟩ := List.forall_mem_cons.1 h
    have hd : (candidate d.toDraft.value).asNode = .ok d := hd
    rw [toDrafts, values, nodes, hd, ih hds]
    rfl

theorem asNodes_children {ds : List Diagram} (h : ∀ d ∈ ds, diagramOf d.toDraft.value = .ok d) :
    (candidate (.list (values (toDrafts ds)))).asNodes = .ok ds := by
  show nodes 0 (values (toDrafts ds)) = .ok ds
  exact nodes_values h 0

/-- A diagram's own value reads back as the diagram. -/
theorem diagramOf_value (d : Diagram) : diagramOf d.toDraft.value = .ok d := by
  have htag (tag : Tag) (fields : List (Field × Draft)) :
      (tagged tag fields).value = .object (("type", .text tag.name) :: entries fields) := rfl
  induction d using Diagram.induction with
  | sequence children ih =>
    -- all keys are known, so the lookups evaluate and only the children are left to read
    show (Checked.barring (((candidate (.list (values (toDrafts children)))).asNodes.under
      [.key "children"]).map Diagram.sequence) []).under [.key "sequence"] = _
    rw [asNodes_children ih]
    rfl
  | block label children ih =>
    show (Checked.barring (Checked.both Diagram.block (.ok label)
      ((candidate (.list (values (toDrafts children)))).asNodes.under [.key "children"]))
      []).under [.key "block"] = _
    rw [asNodes_children ih]
    rfl
  | branch condition t e iht ihe =>
    have ht : (candidate t.toDraft.value).asNode = .ok t := iht
    have hentries : entries [(.condition, .text condition), (.thenBlock, t.toDraft),
          (.elseBlock, toDraft? e)]
        = ("condition", .text condition) :: ("then_block", t.toDraft.value)
          :: entries [(.elseBlock, toDraft? e)] := by
      rw [entries, if_neg nofun, entries_toDraft]
      rfl
    rw [toDraft, htag, hentries]
    cases e with
    | none =>
      show (Checked.barring (Checked.both (fun f e => f e) (Checked.both Diagram.branch
        (.ok condition) ((candidate t.toDraft.value).asNode.under [.key "then_block"])) (.ok none))
        []).under [.key "if"] = _
      rw [ht]
      rfl
    | some e =>
      have he : (candidate e.toDraft.value).asNode = .ok e := ihe e rfl
      rw [toDraft?, entries_toDraft]
      show (Checked.barring (Checked.both (fun f e => f e) (Checked.both Diagram.branch
        (.ok condition) ((candidate t.toDraft.value).asNode.under [.key "then_block"]))
        (if (candidate e.toDraft.value).isNull then .ok none
          else ((candidate e.toDraft.value).asNode.under [.key "else_block"]).map some))
        []).under [.key "if"] = _
      rw [ht, he, isNull_candidate_value]
      rfl
  | loop condition body ih =>
    have hbody : (candidate body.toDraft.value).asNode = .ok body := ih
    rw [toDraft, htag, entries, if_neg nofun, entries_toDraft]
    show (Checked.barring (Checked.both Diagram.loop (.ok condition)
      ((candidate body.toDraft.value).asNode.under [.key "body"])) []).under [.key "loop"] = _
    rw [hbody]
    rfl
  | command label => rfl
  | error message => rfl

end Diagram

end AnalysisDiagram
