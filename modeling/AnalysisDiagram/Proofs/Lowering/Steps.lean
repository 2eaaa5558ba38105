/-
  AnalysisDiagram.Proofs.Lowering.Steps
  ─────────────────────────────────────
  Everything that one step of each dialect can do.

  Later proofs go by these lists of cases and never open a step again:

      fill_cases             — what a frame can be filled to
      Rust.*Step_cases       — what a node can become in Rust, by its kind
      Rust.*Step_fails_iff   — which missing children stop a step
      JavaScript.statementStep_cases
-/
import AnalysisDiagram.Dialect.JavaScript
import AnalysisDiagram.Dialect.Rust
import AnalysisDiagram.Proofs.Lowering.Recursion

namespace AnalysisDiagram

open AnalysisDiagram.Outcome

/-! ## §1. Frames. -/

/-- Everything that a frame can be filled to. -/
theorem Frame.fill_cases {frame : Frame} {ds : List Diagram} {d : Diagram}
    (h : frame.fill ds = .ok d) :
    (frame = .sequence ∧ d = .sequence ds)
    ∨ (∃ label, frame = .block label ∧ d = .block label ds)
    ∨ (∃ condition t, frame = .branch condition ∧ ds = [t] ∧ d = .branch condition t none)
    ∨ (∃ condition t e, frame = .branch condition ∧ ds = [t, e]
        ∧ d = .branch condition t (some e))
    ∨ (∃ condition body, frame = .loop condition ∧ ds = [body] ∧ d = .loop condition body) := by
  unfold Frame.fill at h
  split at h
  · cases h
    exact .inl ⟨rfl, rfl⟩
  · next label =>
    cases h
    exact .inr (.inl ⟨label, rfl, rfl⟩)
  · next condition t =>
    cases h
    exact .inr (.inr (.inl ⟨condition, t, rfl, rfl, rfl⟩))
  · next condition t e =>
    cases h
    exact .inr (.inr (.inr (.inl ⟨condition, t, e, rfl, rfl, rfl⟩)))
  · cases h
  · next condition body =>
    cases h
    exact .inr (.inr (.inr (.inr ⟨condition, body, rfl, rfl, rfl⟩)))
  · cases h

/-- A frame that cannot be filled lacks a child. -/
theorem Frame.fill_error {frame : Frame} {ds : List Diagram} {e : Defect}
    (h : frame.fill ds = .error e) : e = .missingChild := by
  unfold Frame.fill at h
  split at h <;> cases h <;> rfl

namespace Dialect

/-- The parts of a choice: what is to be done, and the `else` if there is one. -/
def branchParts (lex : Lexicon) (thenMode elseMode : Mode) (n : Node) : List Part :=
  ⟨thenMode, n.child? .consequence⟩
    :: ((lex.elseArm? n).map fun arm => ⟨elseMode, some arm⟩).toList

theorem fits_branchParts (lex : Lexicon) (condition : String) (thenMode elseMode : Mode)
    (n : Node) : (Step.framed (.branch condition) (branchParts lex thenMode elseMode n)).Fits := by
  unfold branchParts Step.Fits
  cases lex.elseArm? n with
  | none => exact .inl rfl
  | some arm => exact .inr rfl

theorem mem_branchParts {lex : Lexicon} {thenMode elseMode : Mode} {n : Node} {p : Part} :
    p ∈ branchParts lex thenMode elseMode n
      ↔ p = ⟨thenMode, n.child? .consequence⟩
        ∨ ∃ arm, lex.elseArm? n = some arm ∧ p = ⟨elseMode, some arm⟩ := by
  unfold branchParts
  rw [List.mem_cons, Option.mem_toList, Option.map_eq_some_iff]
  refine or_congr_right (exists_congr fun arm => and_congr_right fun _ => ?_)
  exact eq_comm

/-! ## §2. Rust. -/

namespace Rust

variable {source : Source}

theorem textOf_eq_ok_iff {n : Node} {role : Role} {t : String} :
    textOf source n role = .ok t ↔ ∃ c, n.child? role = some c ∧ t = text source c := by
  unfold textOf
  cases n.child? role with
  | none => exact ⟨nofun, by rintro ⟨c, h, _⟩; cases h⟩
  | some c =>
    refine ⟨fun h => by cases h; exact ⟨c, rfl, rfl⟩, ?_⟩
    rintro ⟨c', h, rfl⟩
    cases h
    rfl

theorem textOf_fails_iff {n : Node} {role : Role} :
    Fails (textOf source n role) ↔ n.child? role = none := by
  unfold textOf
  cases n.child? role with
  | none => exact ⟨fun _ => rfl, fun _ => fails_error _⟩
  | some c => exact ⟨fun h => absurd h (not_fails_ok _), nofun⟩

/-- The kinds of expressions that are not a command. -/
def controlKinds : List String :=
  ["if_expression", "while_expression", "for_expression", "block"]

/-- Everything that an expression can become. -/
theorem expressionStep_cases {n : Node} {s : Step} (h : expressionStep source n = .ok s) :
    (n.kind = "if_expression" ∧ ∃ c, n.child? .condition = some c
      ∧ s = .framed (.branch (tightenMembers (text source c)))
          (branchParts lexicon .block .expression n))
    ∨ (n.kind = "while_expression" ∧ ∃ c, n.child? .condition = some c
      ∧ s = .framed (.loop (text source c)) [⟨.block, n.child? .body⟩])
    ∨ (n.kind = "for_expression" ∧ ∃ p v, n.child? .pattern = some p ∧ n.child? .value = some v
      ∧ s = .framed (.loop ("for " ++ text source p ++ " in " ++ text source v))
          [⟨.block, n.child? .body⟩])
    ∨ (n.kind = "block" ∧ s = blockStep n)
    ∨ (n.kind ∉ controlKinds ∧ s = .finished (.command (text source n))) := by
  unfold expressionStep at h
  split at h
  · next hkind =>
    obtain ⟨t, ht, h⟩ := bind_eq_ok_iff.1 h
    obtain ⟨c, hc, rfl⟩ := textOf_eq_ok_iff.1 ht
    cases h
    exact .inl ⟨hkind, c, hc, rfl⟩
  · next hkind =>
    obtain ⟨t, ht, h⟩ := bind_eq_ok_iff.1 h
    obtain ⟨c, hc, rfl⟩ := textOf_eq_ok_iff.1 ht
    cases h
    exact .inr (.inl ⟨hkind, c, hc, rfl⟩)
  · next hkind =>
    obtain ⟨t, ht, h⟩ := bind_eq_ok_iff.1 h
    obtain ⟨p, hp, rfl⟩ := textOf_eq_ok_iff.1 ht
    obtain ⟨t, ht, h⟩ := bind_eq_ok_iff.1 h
    obtain ⟨v, hv, rfl⟩ := textOf_eq_ok_iff.1 ht
    cases h
    exact .inr (.inr (.inl ⟨hkind, p, v, hp, hv, rfl⟩))
  · next hkind =>
    cases h
    exact .inr (.inr (.inr (.inl ⟨hkind, rfl⟩)))
  · next hif hwhile hfor hblock =>
    cases h
    refine .inr (.inr (.inr (.inr ⟨?_, rfl⟩)))
    simp only [controlKinds, List.mem_cons, List.not_mem_nil, or_false, not_or]
    exact ⟨hif, hwhile, hfor, hblock⟩

/-- The children that an expression must have for its step. -/
theorem expressionStep_fails_iff {n : Node} :
    Fails (expressionStep source n)
      ↔ ((n.kind = "if_expression" ∨ n.kind = "while_expression") ∧ n.child? .condition = none)
        ∨ (n.kind = "for_expression" ∧ (n.child? .pattern = none ∨ n.child? .value = none)) := by
  unfold expressionStep
  split
  · next hkind =>
    rw [bind_fails_iff, textOf_fails_iff]
    simp [hkind, not_fails_ok, pure, Except.pure]
  · next hkind =>
    rw [bind_fails_iff, textOf_fails_iff]
    simp [hkind, not_fails_ok, pure, Except.pure]
  · next hkind =>
    rw [bind_fails_iff, textOf_fails_iff]
    simp only [bind_fails_iff, textOf_fails_iff, hkind]
    -- the value is asked for only once the pattern is there
    cases hp : n.child? .pattern with
    | none => simp
    | some p => simp [textOf, hp, not_fails_ok, pure, Except.pure]
  · next hkind => simp [hkind, not_fails_ok]
  · next hif hwhile hfor hblock =>
    refine ⟨fun h => absurd h (not_fails_ok _), ?_⟩
    rintro (⟨hkind | hkind, _⟩ | ⟨hkind, _⟩)
    · exact absurd hkind hif
    · exact absurd hkind hwhile
    · exact absurd hkind hfor

/-- The expression that a statement is made of: its own, or the one in front of
its semicolon.  Declarations, items and macro calls have none. -/
inductive Holds : Node → Node → Prop
  | bare {s : Node} (hlet : s.kind ≠ "let_declaration") (hitem : s.kind ∉ itemKinds)
      (hwrapped : s.kind ≠ "expression_statement") : Holds s s
  | wrapped {s e : Node} (hkind : s.kind = "expression_statement")
      (hfirst : (lexicon.inner s).head? = some e) (hcall : e.kind ≠ "macro_invocation") :
      Holds s e

/-- A statement is read as the expression that it is made of, or else is a
command. -/
theorem statementStep_cases (source : Source) (n : Node) :
    (∃ e, Holds n e ∧ statementStep source n = expressionStep source e)
    ∨ ((∀ e, ¬ Holds n e) ∧
      ∃ label, statementStep source n = .ok (.finished (.command label))) := by
  -- one test of the step after the other; each that succeeds rules out `Holds`
  unfold statementStep
  split
  · next hkind =>
    have hkind : n.kind = "let_declaration" := by simpa using hkind
    refine .inr ⟨fun e he => ?_, _, rfl⟩
    cases he with
    | bare hlet _ _ => exact hlet hkind
    | wrapped hwrapped _ _ => rw [hkind] at hwrapped; revert hwrapped; decide
  · next hlet =>
    have hlet : n.kind ≠ "let_declaration" := by simpa using hlet
    split
    · next hitem =>
      have hitem : n.kind ∈ itemKinds := by simpa using hitem
      refine .inr ⟨fun e he => ?_, _, rfl⟩
      cases he with
      | bare _ hitem' _ => exact hitem' hitem
      | wrapped hwrapped _ _ => rw [hwrapped] at hitem; revert hitem; decide
    · next hitem =>
      have hitem : n.kind ∉ itemKinds := by simpa using hitem
      split
      · next hwrapped =>
        have hwrapped : n.kind = "expression_statement" := by simpa using hwrapped
        split
        · next hnone =>
          refine .inr ⟨fun e he => ?_, _, rfl⟩
          cases he with
          | bare _ _ hbare => exact hbare hwrapped
          | wrapped _ hfirst _ => rw [hnone] at hfirst; cases hfirst
        · next c rest hinner =>
          have hfirst : (lexicon.inner n).head? = some c := by rw [hinner]; rfl
          split
          · next hcall =>
            have hcall : c.kind = "macro_invocation" := by simpa using hcall
            refine .inr ⟨fun e he => ?_, _, rfl⟩
            cases he with
            | bare _ _ hbare => exact hbare hwrapped
            | wrapped _ hfirst' hcall' =>
              rw [hfirst] at hfirst'
              cases hfirst'
              exact hcall' hcall
          · next hcall =>
            have hcall : c.kind ≠ "macro_invocation" := by simpa using hcall
            exact .inl ⟨c, .wrapped hwrapped hfirst hcall, rfl⟩
      · next hwrapped =>
        have hwrapped : n.kind ≠ "expression_statement" := by simpa using hwrapped
        exact .inl ⟨n, .bare hlet hitem hwrapped, rfl⟩

/-- What a statement holds is the statement or something smaller. -/
theorem Holds.size_le {s e : Node} (h : Holds s e) : e.size ≤ s.size := by
  cases h with
  | bare => exact Nat.le_refl _
  | wrapped _ hfirst _ =>
    have hmem := lexicon.mem_children_of_mem_inner (List.mem_of_mem_head? hfirst)
    exact Nat.le_of_lt (Node.size_lt_of_mem_children hmem)

/-- What becomes of a function, if it has a name. -/
theorem functionStep_cases {n : Node} {s : Step} (h : functionStep source n = .ok s) :
    ∃ c, n.child? .name = some c
      ∧ s = .framed (.block ("fn " ++ text source c ++ "()")) [⟨.block, n.child? .body⟩] := by
  unfold functionStep at h
  obtain ⟨t, ht, h⟩ := bind_eq_ok_iff.1 h
  obtain ⟨c, hc, rfl⟩ := textOf_eq_ok_iff.1 ht
  cases h
  exact ⟨c, hc, rfl⟩

theorem functionStep_fails_iff {n : Node} :
    Fails (functionStep source n) ↔ n.child? .name = none := by
  unfold functionStep
  rw [bind_fails_iff, textOf_fails_iff]
  simp [not_fails_ok, pure, Except.pure]

theorem fits_expressionStep {n : Node} {s : Step} (h : expressionStep source n = .ok s) :
    s.Fits := by
  obtain ⟨_, c, _, rfl⟩ | ⟨_, c, _, rfl⟩ | ⟨_, p, v, _, _, rfl⟩ | ⟨_, rfl⟩ | ⟨_, rfl⟩ :=
    expressionStep_cases h
  · exact fits_branchParts lexicon _ .block .expression n
  · exact rfl
  · exact rfl
  · exact trivial
  · exact trivial

/-- Every step has as many parts as its frame takes. -/
theorem fits_step {mode : Mode} {n : Node} {s : Step} (h : step source mode n = .ok s) :
    s.Fits := by
  cases mode with
  | function =>
    obtain ⟨c, _, rfl⟩ := functionStep_cases h
    exact trivial
  | block =>
    cases h
    exact trivial
  | expression => exact fits_expressionStep h
  | statement =>
    have h : statementStep source n = .ok s := h
    rcases statementStep_cases source n with ⟨e, _, he⟩ | ⟨_, label, hlabel⟩
    · rw [he] at h
      exact fits_expressionStep h
    · rw [hlabel] at h
      cases h
      exact trivial

end Rust

/-! ## §3. JavaScript. -/

namespace JavaScript

variable {source : Source}

/-- The kinds of loops. -/
def loopKinds : List String := ["while_statement", "for_statement", "for_in_statement"]

/-- Everything that a statement can become. -/
theorem statementStep_cases (source : Source) (n : Node) :
    (n.kind = "statement_block" ∧ statementStep source n = blockStep n)
    ∨ (n.kind = "if_statement" ∧ statementStep source n
        = .framed (.branch (conditionText source n)) (branchParts lexicon .statement .statement n))
    ∨ (n.kind ∈ loopKinds ∧ ∃ condition, statementStep source n = loopStep condition n)
    ∨ (n.kind ≠ "statement_block" ∧ n.kind ≠ "if_statement" ∧ n.kind ∉ loopKinds
        ∧ statementStep source n = .finished (.command (text source (some n)))) := by
  unfold statementStep
  split
  · next hkind => exact .inl ⟨hkind, rfl⟩
  · next hkind => exact .inr (.inl ⟨hkind, rfl⟩)
  · next hkind => exact .inr (.inr (.inl ⟨by rw [hkind]; decide, _, rfl⟩))
  · next hkind => exact .inr (.inr (.inl ⟨by rw [hkind]; decide, _, rfl⟩))
  · next hkind => exact .inr (.inr (.inl ⟨by rw [hkind]; decide, _, rfl⟩))
  · next hblock hif hwhile hfor hforIn =>
    refine .inr (.inr (.inr ⟨hblock, hif, ?_, rfl⟩))
    simp only [loopKinds, List.mem_cons, List.not_mem_nil, or_false, not_or]
    exact ⟨hwhile, hfor, hforIn⟩

end JavaScript

end Dialect

end AnalysisDiagram
