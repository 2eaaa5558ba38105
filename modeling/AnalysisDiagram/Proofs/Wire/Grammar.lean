/-
  AnalysisDiagram.Proofs.Wire.Grammar
  ───────────────────────────────────
  The payloads that are read, and as what.

      Represents v d   — the value `v` is the diagram `d` in the wire format
      jsonOf? payload  — the JSON value that a payload in text or bytes holds

      diagramOf_eq_ok_iff      — a value is read as just what it represents
      told_candidate           — what is refused is refused with a problem
      readPayloadValue_grammar — and so for whole payloads

  The relation says nothing of how a value is read: under a key the last entry
  counts, keys stand in any order, and nothing is converted.
-/
import AnalysisDiagram.Proofs.Json.Spelling
import AnalysisDiagram.Proofs.Value
import AnalysisDiagram.Proofs.Wire.Drafts
import Mathlib.Data.List.Forall2

namespace AnalysisDiagram

/-! ## §1. The wire format. -/

/-- The entries of an object name a tag, and have no key that a node of this
tag does not have. -/
structure Tagged (tag : Tag) (entries : List (String × Value)) : Prop where
  named : Counts entries "type" (.text tag.name)
  declared : ∀ entry ∈ entries, entry.1 = "type" ∨ ∃ field ∈ tag.fields, entry.1 = field.name

mutual

/-- A value that is a diagram in the wire format. -/
inductive Represents : Value → Diagram → Prop
  | sequence {entries : List (String × Value)} {children : List Diagram} :
      Tagged .sequence entries → RepresentsChildren entries children →
      Represents (.object entries) (.sequence children)
  | block {entries : List (String × Value)} {label : String} {children : List Diagram} :
      Tagged .block entries → Counts entries "label" (.text label) →
      RepresentsChildren entries children → Represents (.object entries) (.block label children)
  | branch {entries : List (String × Value)} {condition : String} {v : Value} {t : Diagram}
      {e : Option Diagram} :
      Tagged .branch entries → Counts entries "condition" (.text condition) →
      Counts entries "then_block" v → Represents v t → RepresentsElse entries e →
      Represents (.object entries) (.branch condition t e)
  | loop {entries : List (String × Value)} {condition : String} {v : Value} {body : Diagram} :
      Tagged .loop entries → Counts entries "condition" (.text condition) →
      Counts entries "body" v → Represents v body →
      Represents (.object entries) (.loop condition body)
  | command {entries : List (String × Value)} {label : String} :
      Tagged .command entries → Counts entries "label" (.text label) →
      Represents (.object entries) (.command label)
  | error {entries : List (String × Value)} {message : String} :
      Tagged .error entries → Counts entries "message" (.text message) →
      Represents (.object entries) (.error message)

/-- Entries that hold the children of a node, which may be absent if there are
none. -/
inductive RepresentsChildren : List (String × Value) → List Diagram → Prop
  | absent {entries : List (String × Value)} :
      Lacks entries "children" → RepresentsChildren entries []
  | array {entries : List (String × Value)} {vs : List Value} {ds : List Diagram} :
      Counts entries "children" (.list vs) → List.Forall₂ Represents vs ds →
      RepresentsChildren entries ds

/-- Entries that hold the alternative of a choice, which may be absent or null
if there is none. -/
inductive RepresentsElse : List (String × Value) → Option Diagram → Prop
  | absent {entries : List (String × Value)} :
      Lacks entries "else_block" → RepresentsElse entries none
  | null {entries : List (String × Value)} :
      Counts entries "else_block" .null → RepresentsElse entries none
  | node {entries : List (String × Value)} {v : Value} {d : Diagram} :
      Counts entries "else_block" v → Represents v d → RepresentsElse entries (some d)

end

/-! ## §2. Results with all their problems. -/

namespace Checked

variable {α β γ : Type}

theorem under_eq_ok_iff {items : List PathItem} {x : Checked α} {a : α} :
    x.under items = .ok a ↔ x = .ok a := by
  cases x with
  | ok b => exact Iff.rfl
  | error ps => exact ⟨nofun, nofun⟩

theorem map_eq_ok_iff {f : α → β} {x : Checked α} {b : β} :
    x.map f = .ok b ↔ ∃ a, x = .ok a ∧ f a = b := by
  cases x with
  | ok a =>
    constructor
    · intro h
      cases h
      exact ⟨a, rfl, rfl⟩
    · rintro ⟨a', h, rfl⟩
      cases h
      rfl
  | error ps =>
    refine ⟨nofun, ?_⟩
    rintro ⟨a, h, _⟩
    cases h

theorem both_eq_ok_iff {f : α → β → γ} {x : Checked α} {y : Checked β} {c : γ} :
    both f x y = .ok c ↔ ∃ a b, x = .ok a ∧ y = .ok b ∧ f a b = c := by
  constructor
  · intro h
    cases x with
    | error ps => cases h
    | ok a =>
      cases y with
      | error ps => cases h
      | ok b =>
        cases h
        exact ⟨a, b, rfl, rfl, rfl⟩
  · rintro ⟨a, b, rfl, rfl, rfl⟩
    rfl

theorem barring_eq_ok_iff {x : Checked α} {more : List WireProblem} {a : α} :
    x.barring more = .ok a ↔ x = .ok a ∧ more = [] := by
  constructor
  · intro h
    cases x with
    | error ps => cases h
    | ok b =>
      cases more with
      | nil => exact ⟨h, rfl⟩
      | cons p ps => cases h
  · rintro ⟨rfl, rfl⟩
    rfl

/-- A result that is refused comes with a problem. -/
def Told (x : Checked α) : Prop := x ≠ .error []

theorem told_ok (a : α) : Told (.ok a : Checked α) := nofun

theorem told_fail (defect : WireDefect) : Told (fail defect : Checked α) := nofun

theorem Told.under {x : Checked α} (h : x.Told) (items : List PathItem) :
    (x.under items).Told := by
  cases x with
  | ok a => exact told_ok a
  | error ps =>
    cases ps with
    | nil => exact absurd rfl h
    | cons p ps => exact nofun

theorem Told.map {x : Checked α} (h : x.Told) (f : α → β) : Told (x.map f) := by
  cases x with
  | ok a => exact told_ok (f a)
  | error ps =>
    cases ps with
    | nil => exact absurd rfl h
    | cons p ps => exact nofun

theorem Told.both {x : Checked α} {y : Checked β} (hx : x.Told) (hy : y.Told)
    (f : α → β → γ) : Told (both f x y) := by
  cases x with
  | ok a =>
    cases y with
    | ok b => exact told_ok (f a b)
    | error ps => exact fun h => hy (congrArg Except.error (Except.error.inj h))
  | error ps =>
    cases ps with
    | nil => exact absurd rfl hx
    | cons p ps => exact nofun

theorem Told.barring {x : Checked α} (h : x.Told) (more : List WireProblem) :
    (x.barring more).Told := by
  cases x with
  | ok a =>
    cases more with
    | nil => exact told_ok a
    | cons p ps => exact nofun
  | error ps =>
    cases ps with
    | nil => exact absurd rfl h
    | cons p ps => exact nofun

theorem Told.exists_problem {x : Checked α} (h : x.Told) (hnone : ∀ a, x ≠ .ok a) :
    ∃ problem more, x = .error (problem :: more) := by
  cases x with
  | ok a => exact absurd rfl (hnone a)
  | error ps =>
    cases ps with
    | nil => exact absurd rfl h
    | cons p ps => exact ⟨p, ps, rfl⟩

end Checked

/-! ## §3. Fields. -/

open AnalysisDiagram.Checked

theorem candidates_eq_map (entries : List (String × Value)) :
    candidates entries = entries.map fun entry => (entry.1, candidate entry.2) := by
  induction entries with
  | nil => rfl
  | cons entry entries ih =>
    obtain ⟨key, v⟩ := entry
    rw [candidates, ih]
    rfl

/-- Under a key stands what its value is read as. -/
theorem lookup_candidates (key : String) (entries : List (String × Value)) :
    Value.lookup key (candidates entries) = (Value.lookup key entries).map candidate := by
  unfold Value.lookup
  rw [candidates_eq_map, ← List.map_reverse, List.find?_map, Option.map_map, Option.map_map]
  rfl

theorem asText_eq_ok_iff {v : Value} {s : String} :
    (candidate v).asText = .ok s ↔ v = .text s := by
  constructor
  · intro h
    cases v <;> cases h
    rfl
  · rintro rfl
    rfl

theorem isNull_candidate_iff {v : Value} : (candidate v).isNull = true ↔ v = .null := by
  constructor
  · intro h
    cases v <;> cases h
    rfl
  · rintro rfl
    rfl

theorem required_eq_ok_iff {α : Type} {read : Candidate → Checked α}
    {entries : List (String × Value)} {field : Field} {a : α} :
    required read (candidates entries) field = .ok a ↔
      ∃ v, Counts entries field.name v ∧ read (candidate v) = .ok a := by
  unfold required
  rw [lookup_candidates]
  simp only [← lookup_eq_some_iff]
  cases Value.lookup field.name entries with
  | none => exact ⟨nofun, fun ⟨_, h, _⟩ => nomatch h⟩
  | some v =>
    show ((read (candidate v)).under _) = _ ↔ _
    rw [under_eq_ok_iff]
    simp

theorem requiredText_eq_ok_iff {entries : List (String × Value)} {field : Field} {s : String} :
    required Candidate.asText (candidates entries) field = .ok s ↔
      Counts entries field.name (.text s) := by
  rw [required_eq_ok_iff]
  simp only [asText_eq_ok_iff, exists_eq_right]

/-- The keys are those of a node exactly if none of them is reported. -/
theorem unexpectedKeys_eq_nil_iff {tag : Tag} {entries : List (String × Value)} :
    unexpectedKeys tag (candidates entries) = [] ↔
      ∀ entry ∈ entries, entry.1 = "type" ∨ ∃ field ∈ tag.fields, entry.1 = field.name := by
  have hkeys : (candidates entries).map (·.1) = entries.map (·.1) := by
    rw [candidates_eq_map, List.map_map]
    rfl
  unfold unexpectedKeys
  rw [hkeys, List.map_eq_nil_iff, List.eq_nil_iff_forall_not_mem]
  simp only [List.mem_eraseDups, List.mem_filter, List.mem_map]
  constructor
  · intro h entry hentry
    by_contra hunknown
    rw [not_or, not_exists] at hunknown
    refine h entry.1 ⟨⟨entry, hentry, rfl⟩, ?_⟩
    simp only [Bool.and_eq_true, bne_iff_ne, Bool.not_eq_true', List.contains_eq_mem,
      decide_eq_false_iff_not, List.mem_map]
    refine ⟨hunknown.1, ?_⟩
    rintro ⟨field, hfield, hname⟩
    exact hunknown.2 field ⟨hfield, hname.symm⟩
  · rintro h key ⟨⟨entry, hentry, rfl⟩, hunknown⟩
    simp only [Bool.and_eq_true, bne_iff_ne, Bool.not_eq_true', List.contains_eq_mem,
      decide_eq_false_iff_not, List.mem_map] at hunknown
    rcases h entry hentry with htype | ⟨field, hfield, hname⟩
    · exact hunknown.1 htype
    · exact hunknown.2 ⟨field, hfield, hname.symm⟩

/-! ## §4. Nodes. -/

/-- What it means that a value is read as just what it represents, as a node
and as the children of one. -/
structure Faithful (v : Value) : Prop where
  node : ∀ d, (candidate v).asNode = .ok d ↔ Represents v d
  nodes : ∀ ds, (candidate v).asNodes = .ok ds ↔
    ∃ vs, v = .list vs ∧ List.Forall₂ Represents vs ds

/-- Items are read one by one. -/
theorem nodes_eq_ok_iff {vs : List Value} (h : ∀ v ∈ vs, Faithful v) {i : Nat}
    {ds : List Diagram} : nodes i vs = .ok ds ↔ List.Forall₂ Represents vs ds := by
  induction vs generalizing i ds with
  | nil =>
    rw [List.forall₂_nil_left_iff]
    constructor
    · intro hds
      cases hds
      rfl
    · rintro rfl
      rfl
  | cons v vs ih =>
    obtain ⟨hv, hvs⟩ := List.forall_mem_cons.1 h
    rw [nodes, both_eq_ok_iff, List.forall₂_cons_left_iff]
    simp only [under_eq_ok_iff, hv.node, ih hvs]
    constructor
    · rintro ⟨d, ds, hd, hds, rfl⟩
      exact ⟨d, ds, hd, hds, rfl⟩
    · rintro ⟨d, ds, hd, hds, rfl⟩
      exact ⟨d, ds, hd, hds, rfl⟩

section Objects

variable {entries : List (String × Value)}

theorem requiredNode_eq_ok_iff (h : ∀ entry ∈ entries, Faithful entry.2) {field : Field}
    {d : Diagram} :
    required Candidate.asNode (candidates entries) field = .ok d ↔
      ∃ v, Counts entries field.name v ∧ Represents v d := by
  rw [required_eq_ok_iff]
  constructor
  · rintro ⟨v, hv, hd⟩
    exact ⟨v, hv, ((h _ hv.mem).node d).1 hd⟩
  · rintro ⟨v, hv, hd⟩
    exact ⟨v, hv, ((h _ hv.mem).node d).2 hd⟩

theorem childrenOf_eq_ok_iff (h : ∀ entry ∈ entries, Faithful entry.2) {ds : List Diagram} :
    childrenOf (candidates entries) = .ok ds ↔ RepresentsChildren entries ds := by
  unfold childrenOf
  rw [lookup_candidates]
  cases hfound : Value.lookup Field.children.name entries with
  | none =>
    have hlacks := lookup_eq_none_iff.1 hfound
    constructor
    · intro hds
      cases hds
      exact .absent hlacks
    · intro hds
      cases hds with
      | absent _ => rfl
      | array hcounts _ => exact absurd rfl (hlacks _ hcounts.mem)
  | some v =>
    have hcounts := lookup_eq_some_iff.1 hfound
    show (candidate v).asNodes.under _ = _ ↔ _
    rw [under_eq_ok_iff, (h _ hcounts.mem).nodes]
    constructor
    · rintro ⟨vs, rfl, hds⟩
      exact .array hcounts hds
    · intro hds
      cases hds with
      | absent hlacks => exact absurd rfl (hlacks _ hcounts.mem)
      | @array _ vs _ hcounts' hds =>
        -- only one value counts under a key
        cases hfound.symm.trans (lookup_eq_some_iff.2 hcounts')
        exact ⟨vs, rfl, hds⟩

theorem alternativeOf_eq_ok_iff (h : ∀ entry ∈ entries, Faithful entry.2)
    {e : Option Diagram} :
    alternativeOf (candidates entries) = .ok e ↔ RepresentsElse entries e := by
  unfold alternativeOf
  rw [lookup_candidates]
  cases hfound : Value.lookup Field.elseBlock.name entries with
  | none =>
    have hlacks := lookup_eq_none_iff.1 hfound
    constructor
    · intro he
      cases he
      exact .absent hlacks
    · intro he
      cases he with
      | absent _ => rfl
      | null hcounts => exact absurd rfl (hlacks _ hcounts.mem)
      | node hcounts _ => exact absurd rfl (hlacks _ hcounts.mem)
  | some v =>
    have hcounts := lookup_eq_some_iff.1 hfound
    have hunique : ∀ w, Counts entries Field.elseBlock.name w → w = v := fun w hw =>
      Option.some.inj ((lookup_eq_some_iff.2 hw).symm.trans hfound)
    show (if (candidate v).isNull = true then _ else _) = _ ↔ _
    split
    · next hnull =>
      -- a null is no node, so it cannot stand for an alternative that is there
      cases isNull_candidate_iff.1 hnull
      constructor
      · intro he
        cases he
        exact .null hcounts
      · intro he
        cases he with
        | absent _ => rfl
        | null _ => rfl
        | node hcounts' hd =>
          cases hunique _ hcounts'
          cases hd
    · next hnull =>
      rw [map_eq_ok_iff]
      simp only [under_eq_ok_iff, (h _ hcounts.mem).node]
      constructor
      · rintro ⟨d, hd, rfl⟩
        exact .node hcounts hd
      · intro he
        cases he with
        | absent hlacks => exact absurd rfl (hlacks _ hcounts.mem)
        | null hcounts' =>
          cases hunique _ hcounts'
          exact absurd rfl hnull
        | @node _ w d hcounts' hd =>
          cases hunique _ hcounts'
          exact ⟨d, hd, rfl⟩

/-- What is made of the fields of a node stands, if no other key is there. -/
theorem under_barring_eq_ok {tag : Tag} (htagged : Tagged tag entries) {made : Checked Diagram}
    {d : Diagram} (hmade : made = .ok d) :
    (made.barring (unexpectedKeys tag (candidates entries))).under [.key tag.name] = .ok d :=
  under_eq_ok_iff.2
    (barring_eq_ok_iff.2 ⟨hmade, unexpectedKeys_eq_nil_iff.2 htagged.declared⟩)

/-- What is read as a node of the object's tag is represented by the object. -/
theorem represents_of_nodeOf (h : ∀ entry ∈ entries, Faithful entry.2) {tag : Tag}
    (htag : Counts entries "type" (.text tag.name)) {d : Diagram}
    (hnode : nodeOf tag (candidates entries) = .ok d) : Represents (.object entries) d := by
  unfold nodeOf at hnode
  rw [under_eq_ok_iff, barring_eq_ok_iff, unexpectedKeys_eq_nil_iff] at hnode
  obtain ⟨hmade, hdeclared⟩ := hnode
  have htagged : Tagged tag entries := ⟨htag, hdeclared⟩
  cases tag with
  | sequence =>
    obtain ⟨children, hchildren, rfl⟩ := map_eq_ok_iff.1 hmade
    exact .sequence htagged ((childrenOf_eq_ok_iff h).1 hchildren)
  | block =>
    obtain ⟨label, children, hlabel, hchildren, rfl⟩ := both_eq_ok_iff.1 hmade
    exact .block htagged (requiredText_eq_ok_iff.1 hlabel) ((childrenOf_eq_ok_iff h).1 hchildren)
  | branch =>
    obtain ⟨f, e, hf, he, rfl⟩ := both_eq_ok_iff.1 hmade
    obtain ⟨condition, t, hcondition, ht, rfl⟩ := both_eq_ok_iff.1 hf
    obtain ⟨v, hv, ht⟩ := (requiredNode_eq_ok_iff h).1 ht
    exact .branch htagged (requiredText_eq_ok_iff.1 hcondition) hv ht
      ((alternativeOf_eq_ok_iff h).1 he)
  | loop =>
    obtain ⟨condition, body, hcondition, hbody, rfl⟩ := both_eq_ok_iff.1 hmade
    obtain ⟨v, hv, hbody⟩ := (requiredNode_eq_ok_iff h).1 hbody
    exact .loop htagged (requiredText_eq_ok_iff.1 hcondition) hv hbody
  | command =>
    obtain ⟨label, hlabel, rfl⟩ := map_eq_ok_iff.1 hmade
    exact .command htagged (requiredText_eq_ok_iff.1 hlabel)
  | error =>
    obtain ⟨message, hmessage, rfl⟩ := map_eq_ok_iff.1 hmade
    exact .error htagged (requiredText_eq_ok_iff.1 hmessage)

/-- What an object represents is read as a node of the object's tag. -/
theorem nodeOf_of_represents (h : ∀ entry ∈ entries, Faithful entry.2) {d : Diagram}
    (hd : Represents (.object entries) d) :
    ∃ tag, Counts entries "type" (.text tag.name) ∧ nodeOf tag (candidates entries) = .ok d := by
  cases hd with
  | sequence htagged hchildren =>
    exact ⟨.sequence, htagged.named, under_barring_eq_ok htagged
      (map_eq_ok_iff.2 ⟨_, (childrenOf_eq_ok_iff h).2 hchildren, rfl⟩)⟩
  | block htagged hlabel hchildren =>
    exact ⟨.block, htagged.named, under_barring_eq_ok htagged (both_eq_ok_iff.2
      ⟨_, _, requiredText_eq_ok_iff.2 hlabel, (childrenOf_eq_ok_iff h).2 hchildren, rfl⟩)⟩
  | branch htagged hcondition hv ht he =>
    refine ⟨.branch, htagged.named, under_barring_eq_ok htagged (both_eq_ok_iff.2
      ⟨_, _, both_eq_ok_iff.2 ⟨_, _, ?_, ?_, rfl⟩, (alternativeOf_eq_ok_iff h).2 he, rfl⟩)⟩
    · exact requiredText_eq_ok_iff.2 hcondition
    · exact (requiredNode_eq_ok_iff h).2 ⟨_, hv, ht⟩
  | loop htagged hcondition hv hbody =>
    exact ⟨.loop, htagged.named, under_barring_eq_ok htagged (both_eq_ok_iff.2
      ⟨_, _, requiredText_eq_ok_iff.2 hcondition, (requiredNode_eq_ok_iff h).2 ⟨_, hv, hbody⟩,
        rfl⟩)⟩
  | command htagged hlabel =>
    exact ⟨.command, htagged.named, under_barring_eq_ok htagged
      (map_eq_ok_iff.2 ⟨_, requiredText_eq_ok_iff.2 hlabel, rfl⟩)⟩
  | error htagged hmessage =>
    exact ⟨.error, htagged.named, under_barring_eq_ok htagged
      (map_eq_ok_iff.2 ⟨_, requiredText_eq_ok_iff.2 hmessage, rfl⟩)⟩

end Objects

/-! ## §5. Values. -/

theorem Tag.ofName?_eq_some_iff {name : String} {tag : Tag} :
    Tag.ofName? name = some tag ↔ name = tag.name := by
  constructor
  · intro h
    have hname := List.find?_some (p := fun tag : Tag => tag.name == name) h
    exact (eq_of_beq hname).symm
  · rintro rfl
    cases tag <;> rfl

theorem objectOf_eq_ok_iff {entries : List (String × Value)} {fields : List (String × Candidate)}
    {d : Diagram} :
    objectOf (Value.lookup "type" entries) fields = .ok d ↔
      ∃ tag, Counts entries "type" (.text tag.name) ∧ nodeOf tag fields = .ok d := by
  simp only [← lookup_eq_some_iff]
  constructor
  · intro h
    unfold objectOf at h
    split at h
    · cases h
    · next name hname =>
      split at h
      · next tag htag =>
        rw [hname, Tag.ofName?_eq_some_iff.1 htag]
        exact ⟨tag, rfl, h⟩
      · cases h
    · cases h
  · rintro ⟨tag, htag, h⟩
    unfold objectOf
    rw [htag]
    dsimp only
    rw [Tag.ofName?_eq_some_iff.2 rfl]
    exact h

/-- A value that is neither an object nor an array is refused, and represents
nothing. -/
theorem faithful_of_refused {v : Value} (hnode : (candidate v).asNode = .fail .notObject)
    (hnodes : (candidate v).asNodes = .fail .notArray) (hobject : ∀ entries, v ≠ .object entries)
    (hlist : ∀ vs, v ≠ .list vs) : Faithful v where
  node := by
    intro d
    rw [hnode]
    refine ⟨nofun, fun h => ?_⟩
    cases h <;> exact absurd rfl (hobject _)
  nodes := by
    intro ds
    rw [hnodes]
    refine ⟨nofun, ?_⟩
    rintro ⟨vs, hvs, _⟩
    exact absurd hvs (hlist vs)

/-- Every value is read as just what it represents. -/
theorem faithful (v : Value) : Faithful v := by
  induction v using Value.induction with
  | list items ih =>
    refine ⟨fun d => ⟨nofun, nofun⟩, fun ds => ?_⟩
    show nodes 0 items = .ok ds ↔ _
    rw [nodes_eq_ok_iff ih]
    constructor
    · exact fun h => ⟨items, rfl, h⟩
    · rintro ⟨vs, hvs, h⟩
      cases hvs
      exact h
  | object entries ih =>
    refine ⟨fun d => ?_, fun ds => ⟨nofun, ?_⟩⟩
    · show objectOf (Value.lookup "type" entries) (candidates entries) = .ok d ↔ _
      rw [objectOf_eq_ok_iff]
      constructor
      · rintro ⟨tag, htag, hnode⟩
        exact represents_of_nodeOf ih htag hnode
      · exact nodeOf_of_represents ih
    · rintro ⟨vs, hvs, _⟩
      cases hvs
  | null => exact faithful_of_refused rfl rfl nofun nofun
  | bool b => exact faithful_of_refused rfl rfl nofun nofun
  | int i => exact faithful_of_refused rfl rfl nofun nofun
  | float x => exact faithful_of_refused rfl rfl nofun nofun
  | text s => exact faithful_of_refused rfl rfl nofun nofun
  | loose t => exact faithful_of_refused rfl rfl nofun nofun
  | bytes bs => exact faithful_of_refused rfl rfl nofun nofun

theorem diagramOf_eq_ok_iff {v : Value} {d : Diagram} :
    diagramOf v = .ok d ↔ Represents v d :=
  (faithful v).node d

/-! ## §6. Refusals. -/

theorem told_required {α : Type} {read : Candidate → Checked α}
    {entries : List (String × Value)} (h : ∀ entry ∈ entries, (read (candidate entry.2)).Told)
    (field : Field) : (required read (candidates entries) field).Told := by
  unfold required
  rw [lookup_candidates]
  cases hfound : Value.lookup field.name entries with
  | none => exact (told_fail .missing).under _
  | some v => exact (h _ (lookup_eq_some_iff.1 hfound).mem).under _

theorem told_asText (v : Value) : (candidate v).asText.Told := by
  cases v with
  | text s => exact told_ok s
  | _ => exact told_fail .notText

section Objects

variable {entries : List (String × Value)}

theorem told_childrenOf (h : ∀ entry ∈ entries, (candidate entry.2).asNodes.Told) :
    (childrenOf (candidates entries)).Told := by
  unfold childrenOf
  rw [lookup_candidates]
  cases hfound : Value.lookup Field.children.name entries with
  | none => exact told_ok []
  | some v => exact (h _ (lookup_eq_some_iff.1 hfound).mem).under _

theorem told_alternativeOf (h : ∀ entry ∈ entries, (candidate entry.2).asNode.Told) :
    (alternativeOf (candidates entries)).Told := by
  unfold alternativeOf
  rw [lookup_candidates]
  cases hfound : Value.lookup Field.elseBlock.name entries with
  | none => exact told_ok none
  | some v =>
    show Told (if (candidate v).isNull = true then _ else _)
    split
    · exact told_ok none
    · exact ((h _ (lookup_eq_some_iff.1 hfound).mem).under _).map some

theorem told_nodeOf
    (h : ∀ entry ∈ entries, (candidate entry.2).asNode.Told ∧ (candidate entry.2).asNodes.Told)
    (tag : Tag) : (nodeOf tag (candidates entries)).Told := by
  have htext : ∀ field, (required Candidate.asText (candidates entries) field).Told :=
    told_required fun entry _ => told_asText entry.2
  have hnode : ∀ field, (required Candidate.asNode (candidates entries) field).Told :=
    told_required fun entry hentry => (h entry hentry).1
  have hchildren := told_childrenOf fun entry hentry => (h entry hentry).2
  have helse := told_alternativeOf fun entry hentry => (h entry hentry).1
  refine Told.under (Told.barring ?_ _) _
  cases tag with
  | sequence => exact hchildren.map _
  | block => exact (htext .label).both hchildren _
  | branch => exact ((htext .condition).both (hnode .thenBlock) _).both helse _
  | loop => exact (htext .condition).both (hnode .body) _
  | command => exact (htext .label).map _
  | error => exact (htext .message).map _

end Objects

theorem told_nodes {vs : List Value} (h : ∀ v ∈ vs, (candidate v).asNode.Told) (i : Nat) :
    (nodes i vs).Told := by
  induction vs generalizing i with
  | nil => exact told_ok []
  | cons v vs ih =>
    obtain ⟨hv, hvs⟩ := List.forall_mem_cons.1 h
    exact (hv.under _).both (ih hvs (i + 1)) _

/-- Whatever is refused is refused with a problem. -/
theorem told_candidate (v : Value) :
    (candidate v).asNode.Told ∧ (candidate v).asNodes.Told := by
  induction v using Value.induction with
  | list items ih =>
    exact ⟨told_fail _, told_nodes (fun v hv => (ih v hv).1) 0⟩
  | object entries ih =>
    refine ⟨?_, told_fail _⟩
    show (objectOf (Value.lookup "type" entries) (candidates entries)).Told
    unfold objectOf
    split
    · exact told_fail _
    · split
      · exact told_nodeOf ih _
      · exact told_fail _
    · exact told_fail _
  | _ => exact ⟨told_fail _, told_fail _⟩

/-! ## §7. Payloads. -/

/-- The JSON value that a payload in text or in bytes holds. -/
def jsonOf? : Value → Option Value
  | .text payload => Json.read? payloadDepth payload.toList
  | .bytes bytes =>
      (Text.decodeStrict? bytes).bind fun payload => Json.read? payloadDepth payload.toList
  | _ => none

theorem readPayload_cases (payload : String) :
    (∃ j, Json.read? payloadDepth payload.toList = some j ∧ readPayload payload = diagramOf j) ∨
    (Json.read? payloadDepth payload.toList = none ∧ readPayload payload = .fail .notJson) := by
  unfold readPayload
  cases Json.read? payloadDepth payload.toList with
  | none => exact .inr ⟨rfl, rfl⟩
  | some j => exact .inl ⟨j, rfl, rfl⟩

/-- A payload that holds a JSON value is read as that value is; any other is
refused as a whole. -/
theorem readPayloadValue_cases (payload : Value) :
    (∃ j, jsonOf? payload = some j ∧ readPayloadValue payload = diagramOf j) ∨
    (jsonOf? payload = none ∧ ∃ defect, readPayloadValue payload = .fail defect) := by
  cases payload with
  | text payload =>
    rcases readPayload_cases payload with h | ⟨hnone, hfail⟩
    · exact .inl h
    · exact .inr ⟨hnone, _, hfail⟩
  | bytes bytes =>
    show (∃ j, (Text.decodeStrict? bytes).bind _ = some j ∧ readPayloadBytes bytes = _) ∨
      ((Text.decodeStrict? bytes).bind _ = none ∧ ∃ defect, readPayloadBytes bytes = .fail defect)
    unfold readPayloadBytes
    cases Text.decodeStrict? bytes with
    | none => exact .inr ⟨rfl, _, rfl⟩
    | some payload =>
      rcases readPayload_cases payload with h | ⟨hnone, hfail⟩
      · exact .inl h
      · exact .inr ⟨hnone, _, hfail⟩
  | _ => exact .inr ⟨rfl, _, rfl⟩

/-- A payload that holds a JSON value is read as a diagram exactly if the value
represents the diagram.  A payload that holds no value, or one that represents
nothing, is refused with at least one problem. -/
theorem readPayloadValue_grammar (payload : Value) :
    (∀ j, jsonOf? payload = some j →
      ∀ t, readPayloadValue payload = .ok t ↔ Represents j t) ∧
    ((¬ ∃ j t, jsonOf? payload = some j ∧ Represents j t) →
      ∃ problem more, readPayloadValue payload = .error (problem :: more)) := by
  rcases readPayloadValue_cases payload with ⟨j, hj, hread⟩ | ⟨hnone, defect, hread⟩
  · rw [hread, hj]
    refine ⟨fun j' hj' t => ?_, fun hnothing => ?_⟩
    · cases hj'
      exact diagramOf_eq_ok_iff
    · refine (told_candidate j).1.exists_problem fun t ht => hnothing ⟨j, t, rfl, ?_⟩
      exact diagramOf_eq_ok_iff.1 ht
  · rw [hread, hnone]
    exact ⟨nofun, fun _ => ⟨_, _, rfl⟩⟩

/-- A sequence that ends with its tag, around a command whose tag and label are
given twice. -/
def scrambledPayload : String :=
  "\x7b\"children\":[\x7b\"label\":\"x\",\"type\":\"loop\",\"label\":\"y\",\"type\":"
    ++ "\"command\"\x7d],\"type\":\"sequence\"\x7d"

/-- The entries of the command. -/
def scrambledStep : List (String × Value) :=
  [("label", .text "x"), ("type", .text "loop"), ("label", .text "y"), ("type", .text "command")]

/-- The entries of the sequence. -/
def scrambledEntries : List (String × Value) :=
  [("children", .list [.object scrambledStep]), ("type", .text "sequence")]

/-- Of the two tags and the two labels the later ones count. -/
theorem readPayloadValue_grammar_scrambled :
    jsonOf? (.text scrambledPayload) = some (.object scrambledEntries) ∧
    Represents (.object scrambledEntries) (.sequence [.command "y"]) ∧
    readPayloadValue (.text scrambledPayload) = .ok (.sequence [.command "y"]) := by
  have hgap : Json.Gap [] := nofun
  have hspells : Json.Spells 3 scrambledPayload.toList (.object scrambledEntries) := by
    have hstep := Json.Spells.object ((Json.Spells.text "x").consMember "label" hgap hgap
      ((Json.Spells.text "loop").consMember "type" hgap hgap
        ((Json.Spells.text "y").consMember "label" hgap hgap
          ((Json.Spells.text "command").lastMember "type" hgap hgap)))) hgap
    have hsteps := Json.Spells.object ((Json.Spells.list (hstep.lastItem hgap) hgap).consMember
      "children" hgap hgap ((Json.Spells.text "sequence").lastMember "type" hgap hgap)) hgap
    convert hsteps using 1
    · decide
    · decide +kernel
    · rfl
  have hjson : jsonOf? (.text scrambledPayload) = some (.object scrambledEntries) := by
    show Json.read? payloadDepth scrambledPayload.toList = _
    exact hspells.read?_eq (by decide)
  have hstep : Represents (.object scrambledStep) (.command "y") :=
    .command ⟨⟨scrambledStep.take 3, [], rfl, nofun⟩, by decide⟩
      ⟨scrambledStep.take 2, scrambledStep.drop 3, rfl, by decide⟩
  have hsteps : Represents (.object scrambledEntries) (.sequence [.command "y"]) :=
    .sequence ⟨⟨scrambledEntries.take 1, [], rfl, nofun⟩, by decide⟩
      (.array ⟨[], scrambledEntries.drop 1, rfl, by decide⟩ (.cons hstep .nil))
  exact ⟨hjson, hsteps, ((readPayloadValue_grammar _).1 _ hjson _).2 hsteps⟩

end AnalysisDiagram
