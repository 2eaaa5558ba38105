/-
  AnalysisDiagram.Proofs.Lowering.Completeness
  ────────────────────────────────────────────
  Which functions have no diagram.

  Lowering goes from node to node: `Leads` says where it can go from a node
  that is read in a given mode, and `Lacks` which children that node must have
  and does not have.  Both look at the tree alone.

      Rust.lower_fails_iff_incomplete, JavaScript.lower_fails_iff_incomplete
                      — a function has no diagram exactly if something is
                        lacking at a node that it leads to
      lower_error     — and then the defect is a missing child
-/
import AnalysisDiagram.Proofs.Lowering.Steps
import Mathlib.Logic.Relation

namespace AnalysisDiagram.Dialect

open AnalysisDiagram.Outcome

/-! ## §1. Failing parts. -/

section Parts

variable {dialect : Dialect} {source : Source}

theorem lowerPart_fails_iff {p : Part} :
    Fails (dialect.lowerPart source p)
      ↔ p.node = none ∨ ∃ c, p.node = some c ∧ Fails (dialect.lower source p.mode c) := by
  obtain ⟨mode, node⟩ := p
  cases node with
  | none => exact ⟨fun _ => .inl rfl, fun _ => fails_error _⟩
  | some c =>
    refine ⟨fun h => .inr ⟨c, rfl, h⟩, ?_⟩
    rintro (h | ⟨c', h, hc⟩)
    · cases h
    · cases h
      exact hc

/-- A node fails with any part that its step, if it has one, asks for. -/
theorem fails_of_part {mode : Mode} {n : Node} {p : Part}
    (hfits : ∀ s, dialect.step source mode n = .ok s → s.Fits)
    (hp : ∀ s, dialect.step source mode n = .ok s → p ∈ s.parts)
    (h : Fails (dialect.lowerPart source p)) : Fails (dialect.lower source mode n) := by
  rw [lower_fails_iff hfits]
  cases hs : dialect.step source mode n with
  | error e => exact .inl (fails_error e)
  | ok s => exact .inr ⟨s, rfl, p, hp s hs, h⟩

/-- A node that has a frame fails exactly with one of its parts. -/
theorem framed_fails_iff {mode : Mode} {n : Node} {frame : Frame} {parts : List Part}
    (hstep : dialect.step source mode n = .ok (.framed frame parts))
    (hfits : (Step.framed frame parts).Fits) :
    Fails (dialect.lower source mode n) ↔ ∃ p ∈ parts, Fails (dialect.lowerPart source p) := by
  rw [lower_fails_iff (fun s hs => by rw [hstep] at hs; cases hs; exact hfits), hstep]
  constructor
  · rintro (h | ⟨s, hs, h⟩)
    · exact absurd h (not_fails_ok _)
    · cases hs
      exact h
  · intro h
    exact .inr ⟨_, rfl, h⟩

/-- If steps fail for missing children alone, so does lowering. -/
theorem lower_error {ok : Mode → Prop}
    (hstep : ∀ mode n e, ok mode → dialect.step source mode n = .error e → e = .missingChild)
    (hparts : ∀ mode n s, ok mode → dialect.step source mode n = .ok s → ∀ p ∈ s.parts, ok p.mode)
    {mode : Mode} {n : Node} {e : Defect} (hmode : ok mode)
    (h : dialect.lower source mode n = .error e) : e = .missingChild := by
  induction n using node_induction generalizing mode e with
  | ih n hn =>
    cases hs : dialect.step source mode n with
    | error e' =>
      rw [lower_eq, hs] at h
      cases h
      exact hstep mode n e hmode hs
    | ok s =>
      have hbelow := dialect.step_below source mode n s hs
      have hinner := hparts mode n s hmode hs
      cases s with
      | finished d =>
        rw [lower_finished hs] at h
        cases h
      | framed frame parts =>
        rw [lower_framed hs] at h
        cases hds : parts.mapM (dialect.lowerPart source) with
        | ok ds =>
          rw [hds] at h
          exact Frame.fill_error h
        | error e' =>
          rw [hds] at h
          cases h
          -- the error is that of a part, which is absent or a smaller node
          obtain ⟨⟨mode', node⟩, hp, hpart⟩ := exists_of_mapM_eq_error hds
          cases node with
          | none =>
            cases hpart
            rfl
          | some c => exact hn c (hbelow _ hp c rfl) (hinner _ hp) hpart

end Parts

/-- What holds at a place exactly if something is amiss there or it holds at a
place further down holds exactly if one can get from there to something amiss. -/
theorem reaches_iff {α : Type} {holds amiss ok : α → Prop} {leads : α → α → Prop}
    (measure : α → Nat) (hdown : ∀ v w, leads v w → measure w < measure v)
    (hok : ∀ v w, ok v → leads v w → ok w)
    (hstep : ∀ v, ok v → (holds v ↔ amiss v ∨ ∃ w, leads v w ∧ holds w)) {v : α} (hv : ok v) :
    holds v ↔ ∃ w, Relation.ReflTransGen leads v w ∧ amiss w := by
  induction hm : measure v using Nat.strongRecOn generalizing v with
  | ind m ih =>
    subst hm
    rw [hstep v hv]
    constructor
    · rintro (h | ⟨w, hw, h⟩)
      · exact ⟨v, .refl, h⟩
      · obtain ⟨x, hx, h⟩ := (ih _ (hdown v w hw) (hok v w hv hw) rfl).1 h
        exact ⟨x, .head hw hx, h⟩
    · -- a way down is empty, or starts with a step to where the induction applies
      rintro ⟨x, hx, h⟩
      rcases Relation.ReflTransGen.cases_head hx with rfl | ⟨w, hw, hx⟩
      · exact .inl h
      · exact .inr ⟨w, hw, (ih _ (hdown v w hw) (hok v w hv hw) rfl).2 ⟨x, hx, h⟩⟩

/-- How far down a node can still lead: through smaller nodes, and at the same
node from a statement to its expression to its block. -/
def reach : Mode × Node → Nat
  | (.statement, n) => 3 * n.size + 2
  | (.expression, n) => 3 * n.size + 1
  | (_, n) => 3 * n.size

theorem reach_lt {mode mode' : Mode} {n c : Node} (h : c.size < n.size) :
    reach (mode', c) < reach (mode, n) := by
  cases mode <;> cases mode' <;> simp only [reach] <;> omega

/-! ## §2. Rust. -/

namespace Rust

variable {source : Source}

/-- Where lowering goes from a node that is read in some mode. -/
inductive Leads : Mode × Node → Mode × Node → Prop
  | body {f c : Node} (h : f.child? .body = some c) : Leads (.function, f) (.block, c)
  | statement {b c : Node} (h : c ∈ statements b) : Leads (.block, b) (.statement, c)
  | expression {s e : Node} (h : Holds s e) : Leads (.statement, s) (.expression, e)
  | block {e : Node} (hkind : e.kind = "block") : Leads (.expression, e) (.block, e)
  | consequence {e c : Node} (hkind : e.kind = "if_expression")
      (h : e.child? .consequence = some c) : Leads (.expression, e) (.block, c)
  | alternative {e arm : Node} (hkind : e.kind = "if_expression")
      (h : lexicon.elseArm? e = some arm) : Leads (.expression, e) (.expression, arm)
  | loopBody {e c : Node} (hkind : e.kind = "while_expression" ∨ e.kind = "for_expression")
      (h : e.child? .body = some c) : Leads (.expression, e) (.block, c)

/-- A node lacks a child that it must have when it is read in some mode. -/
def Lacks : Mode × Node → Prop
  | (.function, f) => f.child? .name = none ∨ f.child? .body = none
  | (.expression, e) =>
      (e.kind = "if_expression" ∧ (e.child? .condition = none ∨ e.child? .consequence = none)) ∨
      (e.kind = "while_expression" ∧ (e.child? .condition = none ∨ e.child? .body = none)) ∨
      (e.kind = "for_expression" ∧
        (e.child? .pattern = none ∨ e.child? .value = none ∨ e.child? .body = none))
  | _ => False

/-- A function that leads to a node at which something is lacking. -/
def Incomplete (f : Node) : Prop :=
  ∃ place, Relation.ReflTransGen Leads (.function, f) place ∧ Lacks place

/-- The parts of an expression, whatever its texts are. -/
def expressionParts (n : Node) : List Part :=
  if n.kind = "if_expression" then branchParts lexicon .block .expression n
  else if n.kind = "while_expression" ∨ n.kind = "for_expression" then [⟨.block, n.child? .body⟩]
  else if n.kind = "block" then (statements n).map fun c => ⟨.statement, some c⟩
  else []

theorem parts_expressionStep {n : Node} {s : Step} (h : expressionStep source n = .ok s) :
    s.parts = expressionParts n := by
  unfold expressionParts
  obtain ⟨hkind, c, _, rfl⟩ | ⟨hkind, c, _, rfl⟩ | ⟨hkind, p, v, _, _, rfl⟩ | ⟨hkind, rfl⟩ |
    ⟨hkind, rfl⟩ := expressionStep_cases h
  · simp [hkind, Step.parts]
  · simp [hkind, Step.parts]
  · simp [hkind, Step.parts]
  · simp [hkind, Step.parts, blockStep]
  · simp only [controlKinds, List.mem_cons, List.not_mem_nil, or_false, not_or] at hkind
    simp [hkind, Step.parts]

theorem Holds.unique {s e e' : Node} (h : Holds s e) (h' : Holds s e') : e = e' := by
  cases h with
  | bare _ _ hbare =>
    cases h' with
    | bare => rfl
    | wrapped hkind => exact absurd hkind hbare
  | wrapped hkind hfirst _ =>
    cases h' with
    | bare _ _ hbare => exact absurd hkind hbare
    | wrapped _ hfirst' _ =>
      rw [hfirst] at hfirst'
      cases hfirst'
      rfl

/-- A statement is lowered as the expression that it holds. -/
theorem lower_of_holds {s e : Node} (h : Holds s e) :
    rust.lower source .statement s = rust.lower source .expression e := by
  rcases statementStep_cases source s with ⟨e', he', hstep⟩ | ⟨hnone, _⟩
  · cases h.unique he'
    rw [lower_eq, lower_eq]
    exact congrArg (· >>= _) hstep
  · exact absurd h (hnone e)

/-- An expression in braces is lowered as a block. -/
theorem lower_of_block {e : Node} (hkind : e.kind = "block") :
    rust.lower source .expression e = rust.lower source .block e := by
  have hstep : expressionStep source e = .ok (blockStep e) := by
    unfold expressionStep
    rw [hkind]
    rfl
  rw [lower_eq, lower_eq]
  exact congrArg (· >>= _) hstep

theorem fits_rust (mode : Mode) (n : Node) (s : Step) (h : rust.step source mode n = .ok s) :
    s.Fits := by
  have h : step source mode n = .ok s := h
  exact fits_step h

theorem fails_of_expressionPart {n : Node} {p : Part} (hp : p ∈ expressionParts n)
    (h : Fails (rust.lowerPart source p)) : Fails (rust.lower source .expression n) :=
  fails_of_part (fits_rust .expression n) (fun _ hs => parts_expressionStep hs ▸ hp) h

theorem fails_of_body {f : Node} (h : Fails (rust.lowerPart source ⟨.block, f.child? .body⟩)) :
    Fails (rust.lower source .function f) := by
  refine fails_of_part (fits_rust .function f) (fun s hs => ?_) h
  obtain ⟨c, _, rfl⟩ := functionStep_cases hs
  exact List.mem_singleton_self _

theorem fails_of_step {mode : Mode} {n : Node} (h : Fails (rust.step source mode n)) :
    Fails (rust.lower source mode n) :=
  (lower_fails_iff (fits_rust mode n)).2 (.inl h)

theorem mem_expressionParts_of_if {n : Node} (hkind : n.kind = "if_expression") {p : Part} :
    p ∈ expressionParts n ↔ p ∈ branchParts lexicon .block .expression n := by
  unfold expressionParts
  rw [if_pos hkind]

theorem mem_expressionParts_of_loop {n : Node}
    (hkind : n.kind = "while_expression" ∨ n.kind = "for_expression") {p : Part} :
    p ∈ expressionParts n ↔ p = ⟨.block, n.child? .body⟩ := by
  unfold expressionParts
  rw [if_neg (by rcases hkind with h | h <;> rw [h] <;> decide), if_pos hkind, List.mem_singleton]

/-- A node that lacks something has no diagram. -/
theorem fails_of_lacks {mode : Mode} {n : Node} (h : Lacks (mode, n)) :
    Fails (rust.lower source mode n) := by
  have hmissing : ∀ mode role, n.child? role = none →
      Fails (rust.lowerPart source ⟨mode, n.child? role⟩) :=
    fun mode role h => lowerPart_fails_iff.2 (.inl h)
  cases mode with
  | function =>
    rcases h with hname | hbody
    · exact fails_of_step (functionStep_fails_iff.2 hname)
    · exact fails_of_body (hmissing .block .body hbody)
  | block => exact h.elim
  | statement => exact h.elim
  | expression =>
    -- a missing text stops the step itself, a missing body the lowering of a part
    rcases h with ⟨hkind, h | h⟩ | ⟨hkind, h | h⟩ | ⟨hkind, h | h | h⟩
    · exact fails_of_step (expressionStep_fails_iff.2 (.inl ⟨.inl hkind, h⟩))
    · exact fails_of_expressionPart
        ((mem_expressionParts_of_if hkind).2 (mem_branchParts.2 (.inl rfl)))
        (hmissing .block .consequence h)
    · exact fails_of_step (expressionStep_fails_iff.2 (.inl ⟨.inr hkind, h⟩))
    · exact fails_of_expressionPart ((mem_expressionParts_of_loop (.inl hkind)).2 rfl)
        (hmissing .block .body h)
    · exact fails_of_step (expressionStep_fails_iff.2 (.inr ⟨hkind, .inl h⟩))
    · exact fails_of_step (expressionStep_fails_iff.2 (.inr ⟨hkind, .inr h⟩))
    · exact fails_of_expressionPart ((mem_expressionParts_of_loop (.inr hkind)).2 rfl)
        (hmissing .block .body h)

/-- A node has no diagram if one that it leads to has none. -/
theorem fails_of_leads {v w : Mode × Node} (h : Leads v w)
    (hw : Fails (rust.lower source w.1 w.2)) : Fails (rust.lower source v.1 v.2) := by
  have hpart : ∀ mode c, Fails (rust.lower source mode c) →
      ∀ node, node = some c → Fails (rust.lowerPart source ⟨mode, node⟩) :=
    fun mode c hc node h => lowerPart_fails_iff.2 (.inr ⟨c, h, hc⟩)
  cases h with
  | body h => exact fails_of_body (hpart _ _ hw _ h)
  | @statement b c h =>
    refine fails_of_part (fits_rust .block b) (fun s hs => ?_) (hpart _ _ hw _ rfl)
    cases hs
    exact List.mem_map.2 ⟨c, h, rfl⟩
  | expression h =>
    show Fails (rust.lower source .statement _)
    rw [lower_of_holds h]
    exact hw
  | block hkind =>
    show Fails (rust.lower source .expression _)
    rw [lower_of_block hkind]
    exact hw
  | consequence hkind h =>
    exact fails_of_expressionPart
      ((mem_expressionParts_of_if hkind).2 (mem_branchParts.2 (.inl rfl))) (hpart _ _ hw _ h)
  | alternative hkind h =>
    exact fails_of_expressionPart
      ((mem_expressionParts_of_if hkind).2 (mem_branchParts.2 (.inr ⟨_, h, rfl⟩)))
      (hpart _ _ hw _ rfl)
  | loopBody hkind h =>
    exact fails_of_expressionPart ((mem_expressionParts_of_loop hkind).2 rfl) (hpart _ _ hw _ h)

/-- An expression without a diagram lacks something, or leads to a node without
one. -/
theorem leads_of_expression_fails {n : Node} (h : Fails (rust.lower source .expression n)) :
    Lacks (.expression, n) ∨
      ∃ w, Leads (.expression, n) w ∧ Fails (rust.lower source w.1 w.2) := by
  rcases (lower_fails_iff (fits_rust .expression n)).1 h with hstep | ⟨s, hs, p, hp, hpart⟩
  · rcases expressionStep_fails_iff.1 hstep with ⟨hkind | hkind, h⟩ | ⟨hkind, h | h⟩
    · exact .inl (.inl ⟨hkind, .inl h⟩)
    · exact .inl (.inr (.inl ⟨hkind, .inl h⟩))
    · exact .inl (.inr (.inr ⟨hkind, .inl h⟩))
    · exact .inl (.inr (.inr ⟨hkind, .inr (.inl h)⟩))
  -- all texts are there, so it is a part that fails: which one depends on the kind alone
  rw [parts_expressionStep hs] at hp
  by_cases hif : n.kind = "if_expression"
  · rcases mem_branchParts.1 ((mem_expressionParts_of_if hif).1 hp) with rfl | ⟨arm, harm, rfl⟩
    · rcases lowerPart_fails_iff.1 hpart with h | ⟨c, hc, h⟩
      · exact .inl (.inl ⟨hif, .inr h⟩)
      · exact .inr ⟨_, .consequence hif hc, h⟩
    · exact .inr ⟨_, .alternative hif harm, hpart⟩
  by_cases hloop : n.kind = "while_expression" ∨ n.kind = "for_expression"
  · cases (mem_expressionParts_of_loop hloop).1 hp
    rcases lowerPart_fails_iff.1 hpart with h | ⟨c, hc, h⟩
    · rcases hloop with hkind | hkind
      · exact .inl (.inr (.inl ⟨hkind, .inr h⟩))
      · exact .inl (.inr (.inr ⟨hkind, .inr (.inr h)⟩))
    · exact .inr ⟨_, .loopBody hloop hc, h⟩
  by_cases hblock : n.kind = "block"
  · rw [lower_of_block hblock] at h
    exact .inr ⟨_, .block hblock, h⟩
  · unfold expressionParts at hp
    rw [if_neg hif, if_neg hloop, if_neg hblock] at hp
    cases hp

/-- A node without a diagram lacks something, or leads to a node without one. -/
theorem leads_of_fails {mode : Mode} {n : Node} (h : Fails (rust.lower source mode n)) :
    Lacks (mode, n) ∨ ∃ w, Leads (mode, n) w ∧ Fails (rust.lower source w.1 w.2) := by
  cases mode with
  | function =>
    rcases (lower_fails_iff (fits_rust .function n)).1 h with hstep | ⟨s, hs, p, hp, hpart⟩
    · exact .inl (.inl (functionStep_fails_iff.1 hstep))
    · obtain ⟨c, _, rfl⟩ := functionStep_cases hs
      cases List.mem_singleton.1 hp
      rcases lowerPart_fails_iff.1 hpart with h | ⟨c, hc, h⟩
      · exact .inl (.inr h)
      · exact .inr ⟨_, .body hc, h⟩
  | block =>
    rcases (lower_fails_iff (fits_rust .block n)).1 h with hstep | ⟨s, hs, p, hp, hpart⟩
    · exact absurd hstep (not_fails_ok _)
    · cases hs
      obtain ⟨c, hc, rfl⟩ := List.mem_map.1 hp
      exact .inr ⟨_, .statement hc, hpart⟩
  | statement =>
    rcases statementStep_cases source n with ⟨e, he, _⟩ | ⟨_, label, hlabel⟩
    · rw [lower_of_holds he] at h
      exact .inr ⟨_, .expression he, h⟩
    · have hstep : rust.step source .statement n = .ok (.finished (.command label)) := hlabel
      rw [lower_finished hstep] at h
      exact absurd h (not_fails_ok _)
  | expression => exact leads_of_expression_fails h

theorem reach_of_leads {v w : Mode × Node} (h : Leads v w) : reach w < reach v := by
  -- only `expression` and `block` may stay at the same node, and there the mode counts down
  cases h with
  | body h => exact reach_lt (Node.size_lt_of_child? h)
  | statement h =>
    exact reach_lt (Node.size_lt_of_mem_children
      (Node.mem_children_of_mem_namedChildren (List.mem_filter.1 h).1))
  | expression h =>
    have hle := h.size_le
    simp only [reach]
    omega
  | block hkind =>
    simp only [reach]
    omega
  | consequence hkind h => exact reach_lt (Node.size_lt_of_child? h)
  | alternative hkind h => exact reach_lt (Lexicon.size_lt_of_elseArm? h)
  | loopBody hkind h => exact reach_lt (Node.size_lt_of_child? h)

/-- A function has no diagram exactly if it leads to a node that lacks
something. -/
theorem lower_fails_iff_incomplete {f : Node} :
    Fails (rust.lower source .function f) ↔ Incomplete f := by
  refine @reaches_iff _ (fun v => Fails (rust.lower source v.1 v.2)) Lacks (fun _ => True) Leads
    reach (fun _ _ => reach_of_leads) (fun _ _ _ _ => trivial) (fun v _ => ⟨leads_of_fails, ?_⟩)
    (.function, f) trivial
  rintro (h | ⟨w, hw, h⟩)
  · exact fails_of_lacks h
  · exact fails_of_leads hw h

theorem textOf_error {n : Node} {role : Role} {e : Defect} (h : textOf source n role = .error e) :
    e = .missingChild := by
  unfold textOf at h
  split at h <;> cases h
  rfl

theorem expressionStep_error {n : Node} {e : Defect} (h : expressionStep source n = .error e) :
    e = .missingChild := by
  unfold expressionStep at h
  split at h
  · rcases bind_eq_error h with h | ⟨_, _, h⟩
    · exact textOf_error h
    · cases h
  · rcases bind_eq_error h with h | ⟨_, _, h⟩
    · exact textOf_error h
    · cases h
  · rcases bind_eq_error h with h | ⟨_, _, h⟩
    · exact textOf_error h
    · rcases bind_eq_error h with h | ⟨_, _, h⟩
      · exact textOf_error h
      · cases h
  · cases h
  · cases h

/-- Only missing children stop lowering. -/
theorem lower_eq_error {mode : Mode} {n : Node} {e : Defect}
    (h : rust.lower source mode n = .error e) : e = .missingChild := by
  refine @lower_error rust source (fun _ => True) (fun mode n e _ hstep => ?_)
    (fun _ _ _ _ _ _ _ => trivial) mode n e trivial h
  have hstep : step source mode n = .error e := hstep
  cases mode with
  | function =>
    rcases bind_eq_error hstep with h | ⟨_, _, h⟩
    · exact textOf_error h
    · cases h
  | block => cases hstep
  | statement =>
    have hstep : statementStep source n = .error e := hstep
    rcases statementStep_cases source n with ⟨c, _, hc⟩ | ⟨_, label, hlabel⟩
    · rw [hc] at hstep
      exact expressionStep_error hstep
    · rw [hlabel] at hstep
      cases hstep
  | expression => exact expressionStep_error hstep

end Rust

/-! ## §3. JavaScript. -/

namespace JavaScript

variable {source : Source}

/-- Where lowering goes from a node that is read in some mode. -/
inductive Leads : Mode × Node → Mode × Node → Prop
  | body {f c : Node} (h : f.child? .body = some c) : Leads (.function, f) (.block, c)
  | statement {b c : Node} (h : c ∈ lexicon.inner b) : Leads (.block, b) (.statement, c)
  | block {s : Node} (hkind : s.kind = "statement_block") : Leads (.statement, s) (.block, s)
  | consequence {s c : Node} (hkind : s.kind = "if_statement")
      (h : s.child? .consequence = some c) : Leads (.statement, s) (.statement, c)
  | alternative {s arm : Node} (hkind : s.kind = "if_statement")
      (h : lexicon.elseArm? s = some arm) : Leads (.statement, s) (.statement, arm)
  | loopBody {s c : Node} (hkind : s.kind ∈ loopKinds)
      (h : s.child? .body = some c) : Leads (.statement, s) (.statement, c)

/-- A node lacks a child that it must have when it is read in some mode. -/
def Lacks : Mode × Node → Prop
  | (.function, f) => f.child? .body = none
  | (.statement, s) =>
      (s.kind = "if_statement" ∧ s.child? .consequence = none) ∨
      (s.kind ∈ loopKinds ∧ s.child? .body = none)
  | _ => False

/-- A function that leads to a node at which something is lacking. -/
def Incomplete (f : Node) : Prop :=
  ∃ place, Relation.ReflTransGen Leads (.function, f) place ∧ Lacks place

/-- A statement in braces is lowered as a block. -/
theorem lower_of_block {s : Node} (hkind : s.kind = "statement_block") :
    javaScript.lower source .statement s = javaScript.lower source .block s := by
  have hstep : statementStep source s = blockStep s := by
    unfold statementStep
    rw [hkind]
    rfl
  rw [lower_eq, lower_eq]
  exact congrArg (Except.ok · >>= _) hstep

theorem statementStep_of_if {n : Node} (hkind : n.kind = "if_statement") :
    javaScript.step source .statement n = .ok (.framed (.branch (conditionText source n))
      (branchParts lexicon .statement .statement n)) := by
  show Except.ok (statementStep source n) = _
  unfold statementStep
  rw [hkind]
  rfl

theorem statementStep_of_loop {n : Node} (hkind : n.kind ∈ loopKinds) :
    ∃ condition, javaScript.step source .statement n = .ok (loopStep condition n) := by
  show ∃ condition, Except.ok (statementStep source n) = _
  rcases statementStep_cases source n with ⟨h, _⟩ | ⟨h, _⟩ | ⟨_, condition, hs⟩ | ⟨_, _, h, _⟩
  · exact absurd hkind (by rw [h]; decide)
  · exact absurd hkind (by rw [h]; decide)
  · exact ⟨condition, congrArg _ hs⟩
  · exact absurd hkind h

/-- A loop has no diagram without a body that has one. -/
theorem loop_fails_iff {n : Node} (hkind : n.kind ∈ loopKinds) :
    Fails (javaScript.lower source .statement n) ↔
      Fails (javaScript.lowerPart source ⟨.statement, n.child? .body⟩) := by
  obtain ⟨condition, hstep⟩ := statementStep_of_loop hkind
  rw [framed_fails_iff hstep rfl]
  simp only [List.mem_singleton, exists_eq_left]

/-- A node lacks something, or leads to a node without a diagram, exactly if it
has none itself. -/
theorem fails_iff {v : Mode × Node} (hv : v.1 ≠ .expression) :
    Fails (javaScript.lower source v.1 v.2) ↔
      Lacks v ∨ ∃ w, Leads v w ∧ Fails (javaScript.lower source w.1 w.2) := by
  obtain ⟨mode, n⟩ := v
  cases mode with
  | function =>
    have hstep : javaScript.step source .function n = .ok (functionStep source n) := rfl
    rw [framed_fails_iff hstep trivial]
    simp only [List.mem_singleton, exists_eq_left, lowerPart_fails_iff]
    refine or_congr_right ⟨?_, ?_⟩
    · rintro ⟨c, hc, h⟩
      exact ⟨_, .body hc, h⟩
    · rintro ⟨w, hw, h⟩
      cases hw with
      | body hc => exact ⟨_, hc, h⟩
  | block =>
    have hstep : javaScript.step source .block n = .ok (blockStep n) := rfl
    rw [framed_fails_iff hstep trivial]
    constructor
    · rintro ⟨p, hp, h⟩
      obtain ⟨c, hc, rfl⟩ := List.mem_map.1 hp
      exact .inr ⟨_, .statement hc, h⟩
    · rintro (h | ⟨w, hw, h⟩)
      · exact h.elim
      · cases hw with
        | statement hc => exact ⟨_, List.mem_map.2 ⟨_, hc, rfl⟩, h⟩
  | expression => exact absurd rfl hv
  | statement =>
    constructor
    · intro h
      rcases statementStep_cases source n with ⟨hkind, _⟩ | ⟨hkind, _⟩ | ⟨hkind, _⟩ | ⟨_, _, _, hs⟩
      · rw [lower_of_block hkind] at h
        exact .inr ⟨_, .block hkind, h⟩
      · rw [framed_fails_iff (statementStep_of_if hkind) (fits_branchParts ..)] at h
        obtain ⟨p, hp, h⟩ := h
        rcases mem_branchParts.1 hp with rfl | ⟨arm, harm, rfl⟩
        · rcases lowerPart_fails_iff.1 h with h | ⟨c, hc, h⟩
          · exact .inl (.inl ⟨hkind, h⟩)
          · exact .inr ⟨_, .consequence hkind hc, h⟩
        · exact .inr ⟨_, .alternative hkind harm, h⟩
      · rcases lowerPart_fails_iff.1 ((loop_fails_iff hkind).1 h) with h | ⟨c, hc, h⟩
        · exact .inl (.inr ⟨hkind, h⟩)
        · exact .inr ⟨_, .loopBody hkind hc, h⟩
      · have hstep : javaScript.step source .statement n = .ok (.finished _) := congrArg _ hs
        rw [lower_finished hstep] at h
        exact absurd h (not_fails_ok _)
    · rintro ((⟨hkind, h⟩ | ⟨hkind, h⟩) | ⟨w, hw, h⟩)
      · rw [framed_fails_iff (statementStep_of_if hkind) (fits_branchParts ..)]
        exact ⟨_, mem_branchParts.2 (.inl rfl), lowerPart_fails_iff.2 (.inl h)⟩
      · exact (loop_fails_iff hkind).2 (lowerPart_fails_iff.2 (.inl h))
      · cases hw with
        | block hkind =>
          rw [lower_of_block hkind]
          exact h
        | consequence hkind hc =>
          rw [framed_fails_iff (statementStep_of_if hkind) (fits_branchParts ..)]
          exact ⟨_, mem_branchParts.2 (.inl rfl), lowerPart_fails_iff.2 (.inr ⟨_, hc, h⟩)⟩
        | alternative hkind harm =>
          rw [framed_fails_iff (statementStep_of_if hkind) (fits_branchParts ..)]
          exact ⟨_, mem_branchParts.2 (.inr ⟨_, harm, rfl⟩), h⟩
        | loopBody hkind hc =>
          exact (loop_fails_iff hkind).2 (lowerPart_fails_iff.2 (.inr ⟨_, hc, h⟩))

theorem reach_of_leads {v w : Mode × Node} (h : Leads v w) : reach w < reach v := by
  cases h with
  | body h => exact reach_lt (Node.size_lt_of_child? h)
  | statement h =>
    exact reach_lt (Node.size_lt_of_mem_children (lexicon.mem_children_of_mem_inner h))
  | block hkind =>
    simp only [reach]
    omega
  | consequence hkind h => exact reach_lt (Node.size_lt_of_child? h)
  | alternative hkind h => exact reach_lt (Lexicon.size_lt_of_elseArm? h)
  | loopBody hkind h => exact reach_lt (Node.size_lt_of_child? h)

/-- A function has no diagram exactly if it leads to a node that lacks
something. -/
theorem lower_fails_iff_incomplete {f : Node} :
    Fails (javaScript.lower source .function f) ↔ Incomplete f := by
  refine @reaches_iff _ (fun v => Fails (javaScript.lower source v.1 v.2)) Lacks
    (fun v => v.1 ≠ .expression) Leads reach (fun _ _ => reach_of_leads) ?_
    (fun _ => fails_iff) (.function, f) nofun
  intro v w _ hw
  cases hw <;> nofun

/-- Only missing children stop lowering. -/
theorem lower_eq_error {mode : Mode} {n : Node} {e : Defect} (hmode : mode ≠ .expression)
    (h : javaScript.lower source mode n = .error e) : e = .missingChild := by
  refine @lower_error javaScript source (· ≠ .expression) ?_ ?_ mode n e hmode h
  · intro mode n e hmode hstep
    cases mode with
    | expression => exact absurd rfl hmode
    | _ => cases hstep
  · intro mode n s _ hs p hp
    cases mode with
    | function =>
      cases hs
      cases List.mem_singleton.1 hp
      nofun
    | block =>
      cases hs
      obtain ⟨c, _, rfl⟩ := List.mem_map.1 hp
      nofun
    | expression => cases hs
    | statement =>
      cases hs
      rcases statementStep_cases source n with
        ⟨_, hs⟩ | ⟨_, hs⟩ | ⟨_, condition, hs⟩ | ⟨_, _, _, hs⟩
      · rw [hs] at hp
        obtain ⟨c, _, rfl⟩ := List.mem_map.1 hp
        nofun
      · rw [hs] at hp
        rcases mem_branchParts.1 hp with rfl | ⟨arm, _, rfl⟩ <;> nofun
      · rw [hs] at hp
        cases List.mem_singleton.1 hp
        nofun
      · rw [hs] at hp
        cases hp

end JavaScript

end AnalysisDiagram.Dialect
