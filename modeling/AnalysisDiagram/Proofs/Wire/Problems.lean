/-
  AnalysisDiagram.Proofs.Wire.Problems
  ────────────────────────────────────
  The problems that a payload is refused with.

      problems_nodeOf      — the problems of a node, field by field
      Headed step ps       — problems with distinct paths that begin with `step`
      exactWithin          — the problems of a value are its defects, and no two
                             of them have the same path
      readPayloadValue_problems
                           — and so for whole payloads

  Below a node all paths begin with its tag and go on with a key, below an
  array with an index; so problems from different places differ in their paths.
-/
import AnalysisDiagram.Proofs.Wire.Defects
import Mathlib.Data.List.Nodup

namespace AnalysisDiagram

/-! ## §1. Problems of results. -/

namespace Checked

variable {α β γ : Type}

@[simp]
theorem problems_fail (defect : WireDefect) :
    (fail defect : Checked α).problems = [⟨[], defect⟩] := rfl

@[simp]
theorem problems_under (items : List PathItem) (x : Checked α) :
    (x.under items).problems = x.problems.map (·.under items) := by
  cases x <;> rfl

@[simp]
theorem problems_map (f : α → β) (x : Checked α) : problems (x.map f) = x.problems := by
  cases x <;> rfl

@[simp]
theorem problems_both (f : α → β → γ) (x : Checked α) (y : Checked β) :
    (both f x y).problems = x.problems ++ y.problems := by
  cases x <;> cases y <;> rfl

@[simp]
theorem problems_barring (x : Checked α) (more : List WireProblem) :
    (x.barring more).problems = x.problems ++ more := by
  cases x <;> cases more <;> rfl

end Checked

theorem mem_under_iff {items : List PathItem} {ps : List WireProblem} {q : WireProblem} :
    q ∈ ps.map (·.under items) ↔ ∃ rest, ⟨rest, q.defect⟩ ∈ ps ∧ q.path = items ++ rest := by
  rw [List.mem_map]
  constructor
  · rintro ⟨p, hp, rfl⟩
    exact ⟨p.path, hp, rfl⟩
  · rintro ⟨rest, hp, hpath⟩
    refine ⟨_, hp, ?_⟩
    obtain ⟨path, defect⟩ := q
    cases hpath
    rfl

theorem mem_single_iff {path : List PathItem} {defect : WireDefect} {q : WireProblem} :
    q ∈ [⟨path, defect⟩] ↔ q.path = path ∧ q.defect = defect := by
  obtain ⟨path', defect'⟩ := q
  simp

/-! ## §2. The problems of a node, field by field. -/

open AnalysisDiagram.Checked

/-- The problems of one field. -/
def fieldProblems (fields : List (String × Candidate)) (field : Field) : List WireProblem :=
  match field with
  | .children => (childrenOf fields).problems
  | .elseBlock => (alternativeOf fields).problems
  | .thenBlock | .body => (required Candidate.asNode fields field).problems
  | _ => (required Candidate.asText fields field).problems

theorem problems_nodeOf (tag : Tag) (fields : List (String × Candidate)) :
    (nodeOf tag fields).problems
      = (tag.fields.flatMap (fieldProblems fields) ++ unexpectedKeys tag fields).map
        (·.under [.key tag.name]) := by
  unfold nodeOf
  rw [problems_under, problems_barring]
  cases tag <;> simp [Tag.fields, fieldProblems]

/-- The items of an array have their problems one after the other. -/
theorem problems_nodes (i : Nat) (vs : List Value) :
    (nodes i vs).problems = (vs.zipIdx i).flatMap fun item =>
      (candidate item.1).asNode.problems.map (·.under [.index item.2]) := by
  induction vs generalizing i with
  | nil => rfl
  | cons v vs ih =>
    rw [nodes, problems_both, problems_under, ih, List.zipIdx_cons, List.flatMap_cons]

theorem asText_eq_fail {v : Value} (h : ∀ s, v ≠ .text s) :
    (candidate v).asText = .fail .notText := by
  cases v with
  | text s => exact absurd rfl (h s)
  | _ => rfl

theorem asNodes_eq_fail {v : Value} (h : ∀ vs, v ≠ .list vs) :
    (candidate v).asNodes = .fail .notArray := by
  cases v with
  | list vs => exact absurd rfl (h vs)
  | _ => rfl

theorem asNode_eq_fail {v : Value} (h : ∀ entries, v ≠ .object entries) :
    (candidate v).asNode = .fail .notObject := by
  cases v with
  | object entries => exact absurd rfl (h entries)
  | _ => rfl

theorem lacks_or_counts (entries : List (String × Value)) (key : String) :
    Lacks entries key ∨ ∃ v, Counts entries key v := by
  cases h : Value.lookup key entries with
  | none => exact .inl (lookup_eq_none_iff.1 h)
  | some v => exact .inr ⟨v, lookup_eq_some_iff.1 h⟩

section Fields

variable {entries : List (String × Value)} {field : Field} {v : Value}

theorem lookup_candidates_of_lacks {key : String} (h : Lacks entries key) :
    Value.lookup key (candidates entries) = none := by
  rw [lookup_candidates, lookup_eq_none_iff.2 h]
  rfl

theorem lookup_candidates_of_counts {key : String} (h : Counts entries key v) :
    Value.lookup key (candidates entries) = some (candidate v) := by
  rw [lookup_candidates, lookup_eq_some_iff.2 h]
  rfl

theorem problems_required_of_lacks {α : Type} {read : Candidate → Checked α}
    (h : Lacks entries field.name) :
    (required read (candidates entries) field).problems = [⟨[.key field.name], .missing⟩] := by
  unfold required
  rw [lookup_candidates_of_lacks h]
  rfl

theorem problems_required_of_counts {α : Type} {read : Candidate → Checked α}
    (h : Counts entries field.name v) :
    (required read (candidates entries) field).problems
      = (read (candidate v)).problems.map (·.under [.key field.name]) := by
  unfold required
  rw [lookup_candidates_of_counts h]
  exact problems_under _ _

theorem problems_childrenOf_of_lacks (h : Lacks entries Field.children.name) :
    (childrenOf (candidates entries)).problems = [] := by
  unfold childrenOf
  rw [lookup_candidates_of_lacks h]
  rfl

theorem problems_childrenOf_of_counts (h : Counts entries Field.children.name v) :
    (childrenOf (candidates entries)).problems
      = (candidate v).asNodes.problems.map (·.under [.key Field.children.name]) := by
  unfold childrenOf
  rw [lookup_candidates_of_counts h]
  exact problems_under _ _

theorem problems_alternativeOf_of_lacks (h : Lacks entries Field.elseBlock.name) :
    (alternativeOf (candidates entries)).problems = [] := by
  unfold alternativeOf
  rw [lookup_candidates_of_lacks h]
  rfl

theorem problems_alternativeOf_of_null (h : Counts entries Field.elseBlock.name .null) :
    (alternativeOf (candidates entries)).problems = [] := by
  unfold alternativeOf
  rw [lookup_candidates_of_counts h]
  rfl

theorem problems_alternativeOf_of_counts (h : Counts entries Field.elseBlock.name v)
    (hv : v ≠ .null) :
    (alternativeOf (candidates entries)).problems
      = (candidate v).asNode.problems.map (·.under [.key Field.elseBlock.name]) := by
  unfold alternativeOf
  rw [lookup_candidates_of_counts h]
  dsimp only
  rw [if_neg (mt isNull_candidate_iff.1 hv), problems_map, problems_under]

/-! ## §3. The defects of a field. -/

/-- What is wrong with a field or with the nodes in it. -/
def FieldDefect (entries : List (String × Value)) (field : Field) (path : List PathItem)
    (defect : WireDefect) : Prop :=
  FieldFlaw entries field path defect ∨
  ∃ steps v rest, FieldHolds entries field steps v ∧ Defective v rest defect ∧ path = steps ++ rest

variable {path : List PathItem} {defect : WireDefect}

theorem fieldDefect_of_lacks (h : Lacks entries field.name) :
    FieldDefect entries field path defect ↔
      field.isRequired = true ∧ path = [.key field.name] ∧ defect = .missing := by
  constructor
  · rintro (hflaw | ⟨steps, v, rest, hholds, _, _⟩)
    · cases hflaw with
      | missing hrequired _ => exact ⟨hrequired, rfl, rfl⟩
      | notText _ hcounts _ => exact (h.not_counts hcounts).elim
      | notArray _ hcounts _ => exact (h.not_counts hcounts).elim
    · cases hholds with
      | node _ hcounts _ => exact (h.not_counts hcounts).elim
      | item _ hcounts _ => exact (h.not_counts hcounts).elim
  · rintro ⟨hrequired, rfl, rfl⟩
    exact .inl (.missing hrequired h)

/-- A field that is there can be wrong in one of four ways, each of its own sort
of fields. -/
theorem fieldDefect_of_counts (h : Counts entries field.name v) :
    FieldDefect entries field path defect ↔
      (field.holdsText = true ∧ (∀ s, v ≠ .text s) ∧
        path = [.key field.name] ∧ defect = .notText) ∨
      (field = .children ∧ (∀ vs, v ≠ .list vs) ∧
        path = [.key field.name] ∧ defect = .notArray) ∨
      (field.holdsNode = true ∧ ¬ (field = .elseBlock ∧ v = .null) ∧
        ∃ rest, Defective v rest defect ∧ path = .key field.name :: rest) ∨
      (field = .children ∧ ∃ vs i w rest, v = .list vs ∧ vs[i]? = some w ∧ Defective w rest defect ∧
        path = .key field.name :: .index i :: rest) := by
  constructor
  · rintro (hflaw | ⟨steps, w, rest, hholds, hdefect, rfl⟩)
    · cases hflaw with
      | missing _ hlacks => exact (hlacks.not_counts h).elim
      | notText htext hcounts hv =>
        cases h.unique hcounts
        exact .inl ⟨htext, hv, rfl, rfl⟩
      | notArray hfield hcounts hv =>
        cases h.unique hcounts
        exact .inr (.inl ⟨hfield, hv, rfl, rfl⟩)
    · cases hholds with
      | node hnode hcounts hnull =>
        cases h.unique hcounts
        exact .inr (.inr (.inl ⟨hnode, hnull, rest, hdefect, rfl⟩))
      | item hfield hcounts hw =>
        cases h.unique hcounts
        exact .inr (.inr (.inr ⟨hfield, _, _, _, rest, rfl, hw, hdefect, rfl⟩))
  · rintro (⟨htext, hv, rfl, rfl⟩ | ⟨hfield, hv, rfl, rfl⟩ | ⟨hnode, hnull, rest, hdefect, rfl⟩ |
      ⟨hfield, vs, i, w, rest, rfl, hw, hdefect, rfl⟩)
    · exact .inl (.notText htext h hv)
    · exact .inl (.notArray hfield h hv)
    · exact .inr ⟨_, v, rest, .node hnode h hnull, hdefect, rfl⟩
    · exact .inr ⟨_, w, rest, .item hfield h hw, hdefect, rfl⟩

/-- What it means that the problems of a value are just its defects. -/
structure Exact (v : Value) : Prop where
  mem : ∀ p, p ∈ (candidate v).asNode.problems ↔ Defective v p.path p.defect
  nodup : ((candidate v).asNode.problems.map (·.path)).Nodup

/-- The same of a value and, if it is an array, of its items. -/
structure ExactWithin (v : Value) : Prop extends Exact v where
  items : ∀ vs, v = .list vs → ∀ w ∈ vs, Exact w

theorem mem_text_iff (hfield : field.holdsText = true) {q : WireProblem} :
    q ∈ (required Candidate.asText (candidates entries) field).problems
      ↔ FieldDefect entries field q.path q.defect := by
  have hsort : field.isRequired = true ∧ field.holdsNode = false ∧ field ≠ .children := by
    cases field with
    | tag | label | condition | message => decide
    | _ => cases hfield
  rcases lacks_or_counts entries field.name with h | ⟨v, h⟩
  · rw [problems_required_of_lacks h, fieldDefect_of_lacks h, mem_single_iff]
    simp [hsort]
  · rw [problems_required_of_counts h, fieldDefect_of_counts h]
    by_cases htext : ∃ s, v = .text s
    · obtain ⟨s, rfl⟩ := htext
      simp [hsort, candidate, Checked.problems]
    · have htext := not_exists.1 htext
      rw [asText_eq_fail htext]
      show q ∈ [⟨[.key field.name], .notText⟩] ↔ _
      rw [mem_single_iff]
      simp [hsort, hfield, htext]

/-- A node under a key has its own problems there. -/
theorem mem_under_key_iff (hv : Exact v) {key : String} {q : WireProblem} :
    q ∈ (candidate v).asNode.problems.map (·.under [.key key])
      ↔ ∃ rest, Defective v rest q.defect ∧ q.path = .key key :: rest := by
  rw [mem_under_iff]
  simp only [hv.mem, List.singleton_append]

theorem mem_node_iff (h : ∀ entry ∈ entries, Exact entry.2)
    (hfield : field = .thenBlock ∨ field = .body) {q : WireProblem} :
    q ∈ (required Candidate.asNode (candidates entries) field).problems
      ↔ FieldDefect entries field q.path q.defect := by
  have hsort : field.isRequired = true ∧ field.holdsNode = true ∧ field.holdsText = false ∧
      field ≠ .children ∧ field ≠ .elseBlock := by
    rcases hfield with rfl | rfl <;> decide
  rcases lacks_or_counts entries field.name with hlacks | ⟨v, hv⟩
  · rw [problems_required_of_lacks hlacks, fieldDefect_of_lacks hlacks, mem_single_iff]
    simp [hsort]
  · rw [problems_required_of_counts hv, fieldDefect_of_counts hv, mem_under_key_iff (h _ hv.mem)]
    simp [hsort]

theorem mem_alternative_iff (h : ∀ entry ∈ entries, Exact entry.2) {q : WireProblem} :
    q ∈ (alternativeOf (candidates entries)).problems
      ↔ FieldDefect entries .elseBlock q.path q.defect := by
  have hsort : Field.elseBlock.isRequired = false ∧ Field.elseBlock.holdsNode = true ∧
      Field.elseBlock.holdsText = false := by
    decide
  rcases lacks_or_counts entries Field.elseBlock.name with hlacks | ⟨v, hv⟩
  · rw [problems_alternativeOf_of_lacks hlacks, fieldDefect_of_lacks hlacks]
    simp [hsort]
  · rw [fieldDefect_of_counts hv]
    by_cases hnull : v = .null
    · subst hnull
      rw [problems_alternativeOf_of_null hv]
      simp [hsort]
    · rw [problems_alternativeOf_of_counts hv hnull, mem_under_key_iff (h _ hv.mem)]
      simp [hsort, hnull]

/-- The items of an array have their own problems, each under its index. -/
theorem mem_nodes_iff {vs : List Value} (h : ∀ w ∈ vs, Exact w) {q : WireProblem} :
    q ∈ (nodes 0 vs).problems
      ↔ ∃ i w rest, vs[i]? = some w ∧ Defective w rest q.defect ∧ q.path = .index i :: rest := by
  rw [problems_nodes, List.mem_flatMap]
  constructor
  · rintro ⟨⟨w, i⟩, hitem, hq⟩
    have hw := List.mk_mem_zipIdx_iff_getElem?.1 hitem
    obtain ⟨rest, hrest, hpath⟩ := mem_under_iff.1 hq
    exact ⟨i, w, rest, hw, ((h w (List.mem_of_getElem? hw)).mem _).1 hrest, hpath⟩
  · rintro ⟨i, w, rest, hw, hdefect, hpath⟩
    refine ⟨(w, i), List.mk_mem_zipIdx_iff_getElem?.2 hw, mem_under_iff.2 ⟨rest, ?_, hpath⟩⟩
    exact ((h w (List.mem_of_getElem? hw)).mem _).2 hdefect

theorem mem_children_iff (h : ∀ entry ∈ entries, ExactWithin entry.2) {q : WireProblem} :
    q ∈ (childrenOf (candidates entries)).problems
      ↔ FieldDefect entries .children q.path q.defect := by
  have hsort : Field.children.isRequired = false ∧ Field.children.holdsNode = false ∧
      Field.children.holdsText = false := by
    decide
  rcases lacks_or_counts entries Field.children.name with hlacks | ⟨v, hv⟩
  · rw [problems_childrenOf_of_lacks hlacks, fieldDefect_of_lacks hlacks]
    simp [hsort]
  · rw [problems_childrenOf_of_counts hv, fieldDefect_of_counts hv]
    by_cases hlist : ∃ vs, v = .list vs
    · obtain ⟨vs, rfl⟩ := hlist
      have hitems := (h _ hv.mem).items vs rfl
      show q ∈ (nodes 0 vs).problems.map _ ↔ _
      rw [mem_under_iff]
      constructor
      · rintro ⟨steps, hsteps, hpath⟩
        obtain ⟨i, w, rest, hw, hdefect, rfl⟩ := (mem_nodes_iff hitems).1 hsteps
        exact .inr (.inr (.inr ⟨rfl, vs, i, w, rest, rfl, hw, hdefect, hpath⟩))
      · rintro (⟨htext, _⟩ | ⟨_, hlist, _⟩ | ⟨hnode, _⟩ |
          ⟨_, vs', i, w, rest, hvs, hw, hdefect, hpath⟩)
        · cases htext
        · exact absurd rfl (hlist vs)
        · cases hnode
        · cases hvs
          exact ⟨.index i :: rest, (mem_nodes_iff hitems).2 ⟨i, w, rest, hw, hdefect, rfl⟩, hpath⟩
    · have hlist := not_exists.1 hlist
      rw [asNodes_eq_fail hlist]
      show q ∈ [⟨[.key Field.children.name], .notArray⟩] ↔ _
      rw [mem_single_iff]
      simp [hsort, hlist]

/-- The problems of a field are its defects. -/
theorem mem_fieldProblems_iff (h : ∀ entry ∈ entries, ExactWithin entry.2) {q : WireProblem} :
    q ∈ fieldProblems (candidates entries) field ↔ FieldDefect entries field q.path q.defect := by
  have hexact (entry : String × Value) (hentry : entry ∈ entries) : Exact entry.2 :=
    (h entry hentry).toExact
  cases field with
  | children => exact mem_children_iff h
  | elseBlock => exact mem_alternative_iff hexact
  | thenBlock => exact mem_node_iff hexact (.inl rfl)
  | body => exact mem_node_iff hexact (.inr rfl)
  | tag | label | condition | message => exact mem_text_iff rfl

/-! ## §4. Distinct paths. -/

/-- Problems with distinct paths that all begin with the same step. -/
structure Headed (step : PathItem) (ps : List WireProblem) : Prop where
  nodup : (ps.map (·.path)).Nodup
  head : ∀ p ∈ ps, ∃ rest, p.path = step :: rest

theorem headed_nil (step : PathItem) : Headed step [] := ⟨List.nodup_nil, nofun⟩

/-- A single problem at the end of its path. -/
theorem headed_single (step : PathItem) (defect : WireDefect) : Headed step [⟨[step], defect⟩] where
  nodup := List.nodup_singleton _
  head := by
    intro p hp
    cases List.mem_singleton.1 hp
    exact ⟨[], rfl⟩

/-- Seen from one step further up, distinct paths stay distinct. -/
theorem headed_under {ps : List WireProblem} (h : (ps.map (·.path)).Nodup) (step : PathItem) :
    Headed step (ps.map (·.under [step])) where
  nodup := by
    have hpaths : (ps.map (·.under [step])).map (·.path) = (ps.map (·.path)).map (step :: ·) := by
      rw [List.map_map, List.map_map]
      rfl
    rw [hpaths]
    exact h.map List.cons_injective
  head := by
    intro p hp
    obtain ⟨q, _, rfl⟩ := List.mem_map.1 hp
    exact ⟨q.path, rfl⟩

/-- Problems from places with different first steps have distinct paths. -/
theorem nodup_flatMap_headed {α : Type} {places : List α} (step : α → PathItem)
    {f : α → List WireProblem} (hplaces : (places.map step).Nodup)
    (hf : ∀ a ∈ places, Headed (step a) (f a)) : ((places.flatMap f).map (·.path)).Nodup := by
  rw [List.map_flatMap, List.nodup_flatMap]
  refine ⟨fun a ha => (hf a ha).nodup, ?_⟩
  refine (List.pairwise_map.1 hplaces).imp_of_mem fun {a b} ha hb hne path hpa hpb => hne ?_
  obtain ⟨p, hp, rfl⟩ := List.mem_map.1 hpa
  obtain ⟨q, hq, hpath⟩ := List.mem_map.1 hpb
  obtain ⟨rest, hrest⟩ := (hf a ha).head p hp
  obtain ⟨rest', hrest'⟩ := (hf b hb).head q hq
  rw [hpath, hrest] at hrest'
  exact (List.cons.inj hrest').1

theorem headed_required {α : Type} {read : Candidate → Checked α}
    (h : ∀ entry ∈ entries, ((read (candidate entry.2)).problems.map (·.path)).Nodup)
    (field : Field) :
    Headed (.key field.name) (required read (candidates entries) field).problems := by
  rcases lacks_or_counts entries field.name with hlacks | ⟨v, hv⟩
  · rw [problems_required_of_lacks hlacks]
    exact headed_single _ _
  · rw [problems_required_of_counts hv]
    exact headed_under (h _ hv.mem) _

theorem nodup_asText (v : Value) : ((candidate v).asText.problems.map (·.path)).Nodup := by
  cases v with
  | text s => exact List.nodup_nil
  | _ => exact List.nodup_singleton _

theorem nodup_nodes {vs : List Value} (h : ∀ w ∈ vs, Exact w) :
    ((nodes 0 vs).problems.map (·.path)).Nodup := by
  rw [problems_nodes]
  apply nodup_flatMap_headed fun item => .index item.2
  · have hindex : (vs.zipIdx.map fun item => PathItem.index item.2)
        = (List.range' 0 vs.length).map PathItem.index := by
      rw [← List.zipIdx_map_snd, List.map_map]
      rfl
    rw [hindex]
    exact List.Nodup.map (fun _ _ heq => PathItem.index.inj heq) List.nodup_range'
  · rintro ⟨w, i⟩ hitem
    have hw := List.mk_mem_zipIdx_iff_getElem?.1 hitem
    exact headed_under (h w (List.mem_of_getElem? hw)).nodup _

theorem nodup_asNodes (h : ExactWithin v) :
    ((candidate v).asNodes.problems.map (·.path)).Nodup := by
  cases v with
  | list vs => exact nodup_nodes (h.items vs rfl)
  | _ => exact List.nodup_singleton _

theorem headed_children (h : ∀ entry ∈ entries, ExactWithin entry.2) :
    Headed (.key Field.children.name) (childrenOf (candidates entries)).problems := by
  rcases lacks_or_counts entries Field.children.name with hlacks | ⟨v, hv⟩
  · rw [problems_childrenOf_of_lacks hlacks]
    exact headed_nil _
  · rw [problems_childrenOf_of_counts hv]
    exact headed_under (nodup_asNodes (h _ hv.mem)) _

theorem headed_alternative (h : ∀ entry ∈ entries, Exact entry.2) :
    Headed (.key Field.elseBlock.name) (alternativeOf (candidates entries)).problems := by
  rcases lacks_or_counts entries Field.elseBlock.name with hlacks | ⟨v, hv⟩
  · rw [problems_alternativeOf_of_lacks hlacks]
    exact headed_nil _
  · by_cases hnull : v = .null
    · subst hnull
      rw [problems_alternativeOf_of_null hv]
      exact headed_nil _
    · rw [problems_alternativeOf_of_counts hv hnull]
      exact headed_under (h _ hv.mem).nodup _

/-- The problems of a field have distinct paths, all under its key. -/
theorem headed_fieldProblems (h : ∀ entry ∈ entries, ExactWithin entry.2) (field : Field) :
    Headed (.key field.name) (fieldProblems (candidates entries) field) := by
  have hexact (entry : String × Value) (hentry : entry ∈ entries) : Exact entry.2 :=
    (h entry hentry).toExact
  cases field with
  | children => exact headed_children h
  | elseBlock => exact headed_alternative hexact
  | thenBlock | body => exact headed_required (fun entry hentry => (hexact entry hentry).nodup) _
  | tag | label | condition | message =>
    exact headed_required (fun entry _ => nodup_asText entry.2) _

/-! ## §5. Unknown keys. -/

theorem nodup_eraseDups (keys : List String) : keys.eraseDups.Nodup := by
  cases keys with
  | nil => exact List.nodup_nil
  | cons key keys =>
    rw [List.eraseDups_cons, List.nodup_cons, List.mem_eraseDups]
    exact ⟨by simp, nodup_eraseDups _⟩
termination_by keys.length
decreasing_by exact Nat.lt_succ_of_le (List.length_filter_le _ _)

/-- The keys that a node of the tag does not have. -/
def unknownKeys (tag : Tag) (entries : List (String × Value)) : List String :=
  ((entries.map (·.1)).filter fun key =>
    key != "type" && !(tag.fields.map Field.name).contains key).eraseDups

theorem unexpectedKeys_eq (tag : Tag) :
    unexpectedKeys tag (candidates entries)
      = (unknownKeys tag entries).map fun key => ⟨[.key key], .unexpected⟩ := by
  have hkeys : (candidates entries).map (·.1) = entries.map (·.1) := by
    rw [candidates_eq_map, List.map_map]
    rfl
  unfold unexpectedKeys unknownKeys
  rw [hkeys]

theorem mem_unknownKeys_iff {tag : Tag} {key : String} :
    key ∈ unknownKeys tag entries ↔
      (∃ v, Counts entries key v) ∧ key ≠ "type" ∧ ∀ field ∈ tag.fields, key ≠ field.name := by
  have hthere : key ∈ entries.map (·.1) ↔ ∃ v, Counts entries key v := by
    constructor
    · intro hkey
      obtain ⟨entry, hentry, rfl⟩ := List.mem_map.1 hkey
      exact (lacks_or_counts entries entry.1).resolve_left fun h => h entry hentry rfl
    · rintro ⟨v, hv⟩
      exact List.mem_map_of_mem hv.mem
  unfold unknownKeys
  rw [List.mem_eraseDups, List.mem_filter, hthere]
  simp only [Bool.and_eq_true, bne_iff_ne, Bool.not_eq_true', List.contains_eq_mem,
    decide_eq_false_iff_not, List.mem_map, not_exists, not_and]
  refine and_congr_right' (and_congr_right' ?_)
  exact forall₂_congr fun field _ => ne_comm

/-! ## §6. Objects. -/

/-- None of the six tags counts in an object. -/
def Untagged (entries : List (String × Value)) : Prop :=
  ∀ tag : Tag, ¬ Counts entries "type" (.text tag.name)

/-- Without one of the six tags an object has its own flaw and no more. -/
theorem Untagged.defective_iff_flaw (h : Untagged entries) :
    Defective (.object entries) path defect ↔ Flaw (.object entries) path defect := by
  rw [defective_iff]
  refine or_iff_left ?_
  rintro ⟨_, _, _, _, heq, ⟨htag, _, _⟩, _⟩
  cases heq
  exact h _ htag

theorem Untagged.exists_flaw (h : Untagged entries) :
    ∃ defect, Flaw (.object entries) [] defect := by
  rcases lacks_or_counts entries "type" with hlacks | ⟨v, hv⟩
  · exact ⟨_, .noTag hlacks⟩
  · by_cases htext : ∃ name, v = .text name
    · obtain ⟨name, rfl⟩ := htext
      refine ⟨_, .unknownName hv fun tag hname => ?_⟩
      subst hname
      exact h tag hv
    · exact ⟨_, .oddTag hv (not_exists.1 htext)⟩

/-- The flaw of such an object is what it is refused for. -/
theorem Untagged.asNode_eq_fail (h : Untagged entries)
    (hflaw : Flaw (.object entries) path defect) :
    path = [] ∧ (candidate (.object entries)).asNode = .fail defect := by
  show path = [] ∧ objectOf (Value.lookup "type" entries) (candidates entries) = _
  cases hflaw with
  | notObject hv => exact absurd rfl (hv entries)
  | noTag hlacks =>
    rw [lookup_eq_none_iff.2 hlacks]
    exact ⟨rfl, rfl⟩
  | @unknownName _ name hname hunknown =>
    have hnone : Tag.ofName? name = none := by
      rw [Option.eq_none_iff_forall_ne_some]
      exact fun tag htag => hunknown tag (Tag.ofName?_eq_some_iff.1 htag)
    rw [lookup_eq_some_iff.2 hname]
    simp only [objectOf, hnone, and_self]
  | @oddTag _ v hv hodd =>
    rw [lookup_eq_some_iff.2 hv]
    cases v with
    | text name => exact absurd rfl (hodd name)
    | _ => exact ⟨rfl, rfl⟩
  | field htag _ _ => exact absurd htag (h _)
  | unexpected htag _ _ _ => exact absurd htag (h _)

/-- With one of them, its defects are those of its fields and its unknown keys,
all under the tag. -/
theorem defective_iff_of_tagged {tag : Tag} (htag : Counts entries "type" (.text tag.name)) :
    Defective (.object entries) path defect ↔
      ∃ rest, path = .key tag.name :: rest ∧
        ((∃ field ∈ tag.fields, FieldDefect entries field rest defect) ∨
          ∃ key ∈ unknownKeys tag entries, rest = [.key key] ∧ defect = .unexpected) := by
  rw [defective_iff]
  constructor
  · rintro (hflaw | ⟨_, _, v, rest, heq, ⟨htag', hfield, hholds⟩, hdefect, rfl⟩)
    · cases hflaw with
      | notObject hv => exact absurd rfl (hv entries)
      | noTag hlacks => exact (hlacks.not_counts htag).elim
      | unknownName hname hunknown =>
        cases htag.unique hname
        exact absurd rfl (hunknown tag)
      | oddTag hv hodd => exact absurd (htag.unique hv).symm (hodd _)
      | field htag' hfield hflaw =>
        cases htag.tag_unique htag'
        exact ⟨_, rfl, .inl ⟨_, hfield, .inl hflaw⟩⟩
      | unexpected htag' hv hkey hunknown =>
        cases htag.tag_unique htag'
        exact ⟨_, rfl, .inr ⟨_, mem_unknownKeys_iff.2 ⟨⟨_, hv⟩, hkey, hunknown⟩, rfl, rfl⟩⟩
    · cases heq
      cases htag.tag_unique htag'
      exact ⟨_, rfl, .inl ⟨_, hfield, .inr ⟨_, v, rest, hholds, hdefect, rfl⟩⟩⟩
  · rintro ⟨rest, rfl, ⟨field, hfield, hflaw | ⟨steps, v, more, hholds, hdefect, rfl⟩⟩ |
      ⟨key, hkey, rfl, rfl⟩⟩
    · exact .inl (.field htag hfield hflaw)
    · exact .inr ⟨entries, _, v, more, rfl, .field htag hfield hholds, hdefect, rfl⟩
    · obtain ⟨⟨v, hv⟩, hkey, hunknown⟩ := mem_unknownKeys_iff.1 hkey
      exact .inl (.unexpected htag hv hkey hunknown)

/-- Under its tag, the problems of a node are those of its fields and its
unknown keys. -/
theorem mem_nodeOf_iff (h : ∀ entry ∈ entries, ExactWithin entry.2) {tag : Tag} {q : WireProblem} :
    q ∈ (nodeOf tag (candidates entries)).problems ↔
      ∃ rest, q.path = .key tag.name :: rest ∧
        ((∃ field ∈ tag.fields, FieldDefect entries field rest q.defect) ∨
          ∃ key ∈ unknownKeys tag entries, rest = [.key key] ∧ q.defect = .unexpected) := by
  rw [problems_nodeOf, mem_under_iff, unexpectedKeys_eq]
  refine exists_congr fun rest => ?_
  rw [and_comm, List.mem_append, List.mem_flatMap, List.mem_map]
  simp only [mem_fieldProblems_iff h, WireProblem.mk.injEq, @eq_comm _ _ rest,
    @eq_comm _ _ q.defect, List.singleton_append]

theorem nodup_nodeOf (h : ∀ entry ∈ entries, ExactWithin entry.2) (tag : Tag) :
    ((nodeOf tag (candidates entries)).problems.map (·.path)).Nodup := by
  have hfields :
      ((tag.fields.flatMap (fieldProblems (candidates entries))).map (·.path)).Nodup := by
    apply nodup_flatMap_headed fun field => .key field.name
    · cases tag <;> decide
    · exact fun field _ => headed_fieldProblems h field
  have hkeys : ((unexpectedKeys tag (candidates entries)).map (·.path)).Nodup := by
    rw [unexpectedKeys_eq, List.map_map]
    refine (nodup_eraseDups _).map fun key key' heq => ?_
    injection heq with heq
    exact PathItem.key.inj heq
  rw [problems_nodeOf]
  refine (headed_under ?_ _).nodup
  rw [List.map_append, List.nodup_append]
  refine ⟨hfields, hkeys, ?_⟩
  -- a path into a field begins with a key that is known
  intro path hpath path' hpath' heq
  obtain ⟨p, hp, rfl⟩ := List.mem_map.1 hpath
  obtain ⟨field, hfield, hp⟩ := List.mem_flatMap.1 hp
  obtain ⟨rest, hrest⟩ := (headed_fieldProblems h field).head p hp
  rw [unexpectedKeys_eq, List.map_map] at hpath'
  obtain ⟨key, hkey, rfl⟩ := List.mem_map.1 hpath'
  rw [hrest] at heq
  injection heq with hhead _
  exact (mem_unknownKeys_iff.1 hkey).2.2 field hfield (PathItem.key.inj hhead).symm

end Fields

/-! ## §7. Values. -/

/-- A value with a single problem at its root, which is all that is wrong. -/
theorem exact_of_fail {v : Value} {defect : WireDefect}
    (hread : (candidate v).asNode = .fail defect)
    (h : ∀ path d, Defective v path d ↔ path = [] ∧ d = defect) : Exact v where
  mem := by
    intro p
    rw [hread, problems_fail, mem_single_iff, h]
  nodup := by
    rw [hread, problems_fail]
    exact List.nodup_singleton _

theorem exact_untagged {entries : List (String × Value)} (h : Untagged entries) :
    Exact (.object entries) := by
  obtain ⟨defect, hflaw⟩ := h.exists_flaw
  have hread := (h.asNode_eq_fail hflaw).2
  refine exact_of_fail hread fun path d => ?_
  rw [h.defective_iff_flaw]
  constructor
  · intro hflaw'
    obtain ⟨hpath, hread'⟩ := h.asNode_eq_fail hflaw'
    have hsame : [(⟨[], d⟩ : WireProblem)] = [⟨[], defect⟩] :=
      Except.error.inj (hread'.symm.trans hread)
    cases hsame
    exact ⟨hpath, rfl⟩
  · rintro ⟨rfl, rfl⟩
    exact hflaw

/-- The problems of an object are its defects, if this holds of all its values. -/
theorem exact_object {entries : List (String × Value)}
    (h : ∀ entry ∈ entries, ExactWithin entry.2) : Exact (.object entries) := by
  by_cases htagged : ∃ tag : Tag, Counts entries "type" (.text tag.name)
  · obtain ⟨tag, htag⟩ := htagged
    have hread : (candidate (.object entries)).asNode = nodeOf tag (candidates entries) := by
      show objectOf (Value.lookup "type" entries) (candidates entries) = _
      rw [lookup_eq_some_iff.2 htag]
      simp only [objectOf, Tag.ofName?_eq_some_iff.2 rfl]
    refine ⟨fun p => ?_, ?_⟩
    · rw [hread, mem_nodeOf_iff h, defective_iff_of_tagged htag]
    · rw [hread]
      exact nodup_nodeOf h tag
  · exact exact_untagged (not_exists.1 htagged)

theorem exact_of_notObject {v : Value} (h : ∀ entries, v ≠ .object entries) : Exact v := by
  refine exact_of_fail (asNode_eq_fail h) fun path d => ?_
  rw [defective_iff]
  constructor
  · rintro (hflaw | ⟨entries, _, _, _, heq, _⟩)
    · cases hflaw with
      | notObject _ => exact ⟨rfl, rfl⟩
      | _ => exact absurd rfl (h _)
    · exact absurd heq (h entries)
  · rintro ⟨rfl, rfl⟩
    exact .inl (.notObject h)

/-- The problems of a value are its defects. -/
theorem exactWithin (v : Value) : ExactWithin v := by
  induction v using Value.induction with
  | list items ih =>
    refine ⟨exact_of_notObject nofun, fun vs hvs w hw => ?_⟩
    cases hvs
    exact (ih w hw).toExact
  | object entries ih => exact ⟨exact_object ih, nofun⟩
  | _ => exact ⟨exact_of_notObject nofun, nofun⟩

/-! ## §8. Payloads. -/

theorem mem_problems_diagramOf {j : Value} {p : WireProblem} :
    p ∈ (diagramOf j).problems ↔ Defective j p.path p.defect :=
  (exactWithin j).mem p

/-- A value is read as a diagram exactly if nothing is wrong with it. -/
theorem diagramOf_ok_iff_not_defective {j : Value} :
    (∃ t, diagramOf j = .ok t) ↔ ∀ path defect, ¬ Defective j path defect := by
  constructor
  · rintro ⟨t, ht⟩ path defect hdefect
    have hmem : ⟨path, defect⟩ ∈ (diagramOf j).problems := mem_problems_diagramOf.2 hdefect
    rw [ht] at hmem
    cases hmem
  · intro hnone
    by_contra hrefused
    obtain ⟨p, more, hread⟩ := (told_candidate j).1.exists_problem (not_exists.1 hrefused)
    refine hnone p.path p.defect (mem_problems_diagramOf.1 ?_)
    rw [show diagramOf j = .error (p :: more) from hread]
    exact List.mem_cons_self

theorem readPayloadValue_of_jsonOf {payload j : Value} (hj : jsonOf? payload = some j) :
    readPayloadValue payload = diagramOf j := by
  rcases readPayloadValue_cases payload with ⟨j', hj', hread⟩ | ⟨hnone, _⟩
  · cases hj.symm.trans hj'
    exact hread
  · rw [hnone] at hj
    cases hj

/-- Two defects with the same path are the same: one position, one node there,
one sort. -/
theorem flaw_unique {j v v' : Value} {site site' steps steps' : List PathItem}
    {defect defect' : WireDefect} (hv : Reached j site v) (hflaw : Flaw v steps defect)
    (hv' : Reached j site' v') (hflaw' : Flaw v' steps' defect')
    (hpath : site ++ steps = site' ++ steps') :
    site = site' ∧ v = v' ∧ steps = steps' ∧ defect = defect' := by
  have hmem : ⟨site ++ steps, defect⟩ ∈ (diagramOf j).problems :=
    mem_problems_diagramOf.2 (.flaw hv hflaw)
  have hmem' : ⟨site' ++ steps', defect'⟩ ∈ (diagramOf j).problems :=
    mem_problems_diagramOf.2 (.flaw hv' hflaw')
  have hsame : defect = defect' :=
    congrArg WireProblem.defect (List.inj_on_of_nodup_map (exactWithin j).nodup hmem hmem' hpath)
  subst hsame
  -- the sort of a defect says how much of its path lies below the node
  obtain ⟨hsite, hsteps⟩ :=
    List.append_inj' hpath (hflaw.length_steps.trans hflaw'.length_steps.symm)
  subst hsite
  exact ⟨rfl, Option.some.inj (hv.follow_eq.symm.trans hv'.follow_eq), hsteps, rfl⟩

/-- The problems of a payload that holds a JSON value are the defects of that
value, one problem for each of them: no two problems have the same path, nor
have two defects.  Each path leads to the defect that it is reported for.  The
payload is read as a diagram exactly if there are none. -/
theorem readPayloadValue_problems (payload j : Value) (hj : jsonOf? payload = some j) :
    ((readPayloadValue payload).problems.map (·.path)).Nodup ∧
    (∀ p, p ∈ (readPayloadValue payload).problems ↔ Defective j p.path p.defect) ∧
    (∀ site v steps defect site' v' steps' defect', Reached j site v → Flaw v steps defect →
      Reached j site' v' → Flaw v' steps' defect' → site ++ steps = site' ++ steps' →
      site = site' ∧ v = v' ∧ steps = steps' ∧ defect = defect') ∧
    (∀ p ∈ (readPayloadValue payload).problems, Leads j p.path p.defect) ∧
    ((∃ t, readPayloadValue payload = .ok t) ↔ ∀ path defect, ¬ Defective j path defect) := by
  rw [readPayloadValue_of_jsonOf hj]
  refine ⟨(exactWithin j).nodup, fun p => mem_problems_diagramOf, ?_, fun p hp => ?_,
    diagramOf_ok_iff_not_defective⟩
  · intro site v steps defect site' v' steps' defect' hv hflaw hv' hflaw' hpath
    exact flaw_unique hv hflaw hv' hflaw' hpath
  · exact leads_of_defective (mem_problems_diagramOf.1 hp)

/-- A choice with an array for its condition, an unknown key, and two children
in its first arm that are no nodes. -/
def brokenPayload : String :=
  "\x7b\"type\":\"if\",\"condition\":[],\"then_block\":\x7b\"type\":\"sequence\",\"children\":"
    ++ "[\"a\",\x7b\"type\":\"until\"\x7d]\x7d,\"a\":\"b\"\x7d"

/-- The entries of its first arm. -/
def brokenArm : List (String × Value) :=
  [("type", .text "sequence"), ("children", .list [.text "a", .object [("type", .text "until")]])]

/-- The entries of the choice. -/
def brokenEntries : List (String × Value) :=
  [("type", .text "if"), ("condition", .list []), ("then_block", .object brokenArm),
    ("a", .text "b")]

/-- Its problems, at three depths. -/
def brokenProblems : List WireProblem :=
  [⟨[.key "if", .key "condition"], .notText⟩,
    ⟨[.key "if", .key "then_block", .key "sequence", .key "children", .index 0], .notObject⟩,
    ⟨[.key "if", .key "then_block", .key "sequence", .key "children", .index 1],
      .unknownTag "until"⟩,
    ⟨[.key "if", .key "a"], .unexpected⟩]

/-- These are all its defects, and each path leads to the one that it names. -/
theorem readPayloadValue_problems_broken :
    jsonOf? (.text brokenPayload) = some (.object brokenEntries) ∧
    (readPayloadValue (.text brokenPayload)).problems = brokenProblems ∧
    (∀ p, p ∈ brokenProblems ↔ Defective (.object brokenEntries) p.path p.defect) ∧
    ∀ p ∈ brokenProblems, Leads (.object brokenEntries) p.path p.defect := by
  have hgap : Json.Gap [] := nofun
  have hspells : Json.Spells 4 brokenPayload.toList (.object brokenEntries) := by
    have hchild := Json.Spells.object ((Json.Spells.text "until").lastMember "type" hgap hgap) hgap
    have hchildren := Json.Spells.list
      ((Json.Spells.text "a").consItem hgap (hchild.lastItem hgap)) hgap
    have harm := Json.Spells.object ((Json.Spells.text "sequence").consMember "type" hgap hgap
      (hchildren.lastMember "children" hgap hgap)) hgap
    have hchoice := Json.Spells.object ((Json.Spells.text "if").consMember "type" hgap hgap
      (Json.Spells.nil.consMember "condition" hgap hgap
        (harm.consMember "then_block" hgap hgap
          ((Json.Spells.text "b").lastMember "a" hgap hgap)))) hgap
    convert hchoice using 1
    · decide
    · decide +kernel
    · rfl
  have hjson : jsonOf? (.text brokenPayload) = some (.object brokenEntries) := by
    show Json.read? payloadDepth brokenPayload.toList = _
    exact hspells.read?_eq (by decide)
  have hproblems : (readPayloadValue (.text brokenPayload)).problems = brokenProblems := by
    rw [readPayloadValue_of_jsonOf hjson]
    decide +kernel
  obtain ⟨_, hdefects, _, hleads, _⟩ := readPayloadValue_problems _ _ hjson
  rw [hproblems] at hdefects hleads
  exact ⟨hjson, hproblems, hdefects, hleads⟩

end AnalysisDiagram
