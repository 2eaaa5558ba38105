/-
  AnalysisDiagram.Proofs.Lowering.Chains
  ──────────────────────────────────────
  What becomes of `if … else if … else if … else …`.

  In a tree each choice holds the next one in its alternative; in a diagram
  each branch holds the next one in its `else`.  Both are read off as lists:

      Lexicon.elseChain    — the choices of a tree, one after the other
      Diagram.arms         — the conditions of a diagram, each with its `then`
      Diagram.finalElse?   — what is done if no condition holds

  `KeepsChain` says that the two lists agree link by link and end alike.  One
  link is `lower_branch`; the chain follows by induction on the tree.
-/
import AnalysisDiagram.Proofs.Lowering.Completeness
import AnalysisDiagram.Proofs.Lowering.Machine

namespace AnalysisDiagram

open AnalysisDiagram.Outcome

/-! ## §1. Chains. -/

-- the equation named in the match serves the termination proof
set_option linter.unusedVariables false in
/-- A choice of the given kind, then the one in its `else`, and so on for as
long as there is one. -/
def Lexicon.elseChain (lex : Lexicon) (kind : String) (n : Node) : List Node :=
  match h : lex.elseArm? n with
  | none => [n]
  | some arm => if arm.kind = kind then n :: elseChain lex kind arm else [n]
termination_by n.size
decreasing_by exact lex.size_lt_of_elseArm? h

theorem Lexicon.elseChain_next {lex : Lexicon} {kind : String} {n arm : Node}
    (harm : lex.elseArm? n = some arm) (hkind : arm.kind = kind) :
    lex.elseChain kind n = n :: lex.elseChain kind arm := by
  rw [elseChain]
  split
  · next h =>
    rw [harm] at h
    cases h
  · next h =>
    rw [harm] at h
    cases h
    exact if_pos hkind

theorem Lexicon.elseChain_last {lex : Lexicon} {kind : String} {n : Node}
    (h : ∀ arm, lex.elseArm? n = some arm → arm.kind ≠ kind) : lex.elseChain kind n = [n] := by
  rw [elseChain]
  split
  · rfl
  · next arm harm => exact if_neg (h arm harm)

/-- A choice has no `else` if it has no alternative, or one with nothing but
comments in it. -/
theorem Lexicon.elseArm?_eq_none_iff {lex : Lexicon} {n : Node} :
    lex.elseArm? n = none ↔ n.child? .alternative = none
      ∨ ∃ alternative, n.child? .alternative = some alternative ∧ lex.inner alternative = [] := by
  unfold elseArm?
  cases n.child? .alternative with
  | none => simp
  | some alternative => simp

namespace Diagram

mutual

/-- The conditions that are met by following `else` from branch to branch, each
with what is done where it holds. -/
def arms : Diagram → List (String × Diagram)
  | .branch condition t e => (condition, t) :: arms? e
  | _ => []

/-- The conditions of a diagram that may be absent. -/
def arms? : Option Diagram → List (String × Diagram)
  | none => []
  | some d => arms d

end

mutual

/-- What is reached by following `else` from branch to branch, if the last
branch has one. -/
def finalElse? : Diagram → Option Diagram
  | .branch _ _ e => endOf? e
  | d => some d

/-- What is reached from an `else` that may be absent. -/
def endOf? : Option Diagram → Option Diagram
  | none => none
  | some d => finalElse? d

end

/-- Whether the node at the top is a branch. -/
def isBranch : Diagram → Bool
  | .branch _ _ _ => true
  | _ => false

theorem arms_of_not_branch {d : Diagram} (h : d.isBranch = false) : d.arms = [] := by
  cases d with
  | branch condition t e => cases h
  | _ => rfl

theorem finalElse?_of_not_branch {d : Diagram} (h : d.isBranch = false) :
    d.finalElse? = some d := by
  cases d with
  | branch condition t e => cases h
  | _ => rfl

end Diagram

/-- The step makes a branch with the given condition. -/
def Step.Branches (condition : String) : Step → Prop
  | .finished (.branch condition' _ _) => condition' = condition
  | .framed (.branch condition') _ => condition' = condition
  | _ => False

namespace Dialect

/-- The diagram `d` of the choice `n` has one branch for each choice of its
chain, and after the last one the `else` of the last choice. -/
structure KeepsChain (dialect : Dialect) (source : Source) (kind : String)
    (thenMode elseMode : Mode) (reads : Node → String → Prop) (n : Node) (d : Diagram) : Prop where
  /-- Each branch has the condition and the consequence of its choice. -/
  arms : List.Forall₂ (fun m arm => reads m arm.1 ∧ ∃ c, m.child? .consequence = some c
    ∧ dialect.run source thenMode c = .ok arm.2) (dialect.lexicon.elseChain kind n) d.arms
  /-- The last branch has an `else` if something stands in that of its choice,
  and then it is the diagram of that, which is no branch. -/
  last : ∃ m, (dialect.lexicon.elseChain kind n).getLast? = some m
    ∧ (d.finalElse? = none ↔ m.child? .alternative = none
      ∨ ∃ alternative, m.child? .alternative = some alternative
        ∧ dialect.lexicon.inner alternative = [])
    ∧ ∀ e, d.finalElse? = some e → e.isBranch = false ∧ ∃ arm,
        dialect.lexicon.elseArm? m = some arm ∧ arm.kind ≠ kind
          ∧ dialect.run source elseMode arm = .ok e

/-! ## §2. One link. -/

section Link

variable {dialect : Dialect} {source : Source}

/-- A choice becomes a branch around the diagrams of its consequence and, if it
has one, of its `else`. -/
theorem lower_branch {lex : Lexicon} {condition : String} {mode thenMode elseMode : Mode}
    {n : Node} {d : Diagram}
    (hstep : dialect.step source mode n
      = .ok (.framed (.branch condition) (branchParts lex thenMode elseMode n)))
    (h : dialect.lower source mode n = .ok d) :
    ∃ c t, n.child? .consequence = some c ∧ dialect.lower source thenMode c = .ok t
      ∧ ((lex.elseArm? n = none ∧ d = .branch condition t none)
        ∨ ∃ arm e, lex.elseArm? n = some arm ∧ dialect.lower source elseMode arm = .ok e
          ∧ d = .branch condition t (some e)) := by
  rw [lower_framed hstep] at h
  obtain ⟨ds, hds, hfill⟩ := bind_eq_ok_iff.1 h
  have hds := mapM_eq_ok_iff.1 hds
  unfold branchParts at hds
  -- there is one more diagram if there is an `else`
  cases harm : lex.elseArm? n with
  | none =>
    rw [harm] at hds
    obtain ⟨t, rest, ht, hrest, rfl⟩ := List.forall₂_cons_left_iff.1 hds
    cases List.forall₂_nil_left_iff.1 hrest
    obtain ⟨c, hc, ht⟩ := lowerPart_eq_ok_iff.1 ht
    cases hfill
    exact ⟨c, t, hc, ht, .inl ⟨rfl, rfl⟩⟩
  | some arm =>
    rw [harm, Option.map_some, Option.toList_some] at hds
    obtain ⟨t, rest, ht, hrest, rfl⟩ := List.forall₂_cons_left_iff.1 hds
    obtain ⟨e, others, he, hothers, rfl⟩ := List.forall₂_cons_left_iff.1 hrest
    cases List.forall₂_nil_left_iff.1 hothers
    obtain ⟨c, hc, ht⟩ := lowerPart_eq_ok_iff.1 ht
    cases hfill
    exact ⟨c, t, hc, ht, .inr ⟨arm, e, rfl, he, rfl⟩⟩

/-- A branch comes from a step that makes one with its condition. -/
theorem branches_of_lower {mode : Mode} {n : Node} {condition : String} {t : Diagram}
    {e : Option Diagram} (h : dialect.lower source mode n = .ok (.branch condition t e)) :
    ∃ s, dialect.step source mode n = .ok s ∧ s.Branches condition := by
  rw [lower_eq] at h
  obtain ⟨s, hs, h⟩ := bind_eq_ok_iff.1 h
  refine ⟨s, hs, ?_⟩
  cases s with
  | finished d =>
    cases h
    rfl
  | framed frame parts =>
    obtain ⟨ds, _, hfill⟩ := bind_eq_ok_iff.1 h
    obtain ⟨_, hd⟩ | ⟨_, _, hd⟩ | ⟨_, _, rfl, _, hd⟩ | ⟨_, _, _, rfl, _, hd⟩ | ⟨_, _, _, _, hd⟩ :=
      Frame.fill_cases hfill
    · cases hd
    · cases hd
    · cases hd
      rfl
    · cases hd
      rfl
    · cases hd

end Link

/-! ## §3. Whole chains. -/

section Chain

variable {dialect : Dialect} {source : Source} {kind : String} {thenMode elseMode : Mode}
  {reads : Node → String → Prop}

/-- If choices of one kind, and nothing else, become branches, then chains of
them are kept. -/
theorem keepsChain_of_step
    (hchoice : ∀ n s, n.kind = kind → dialect.step source elseMode n = .ok s →
      ∃ condition, reads n condition
        ∧ s = .framed (.branch condition) (branchParts dialect.lexicon thenMode elseMode n))
    (hother : ∀ n d, n.kind ≠ kind → dialect.lower source elseMode n = .ok d → d.isBranch = false)
    {n : Node} {d : Diagram} (hkind : n.kind = kind)
    (h : dialect.lower source elseMode n = .ok d) :
    KeepsChain dialect source kind thenMode elseMode reads n d := by
  -- each `else` is smaller than its choice, and read in the mode that this is about
  induction n using node_induction generalizing d with
  | ih n hn =>
    have hlower := h
    rw [lower_eq] at h
    obtain ⟨s, hs, _⟩ := bind_eq_ok_iff.1 h
    obtain ⟨condition, hreads, rfl⟩ := hchoice n s hkind hs
    obtain ⟨c, t, hc, ht, hcases⟩ := lower_branch hs hlower
    rw [← run_eq_lower] at ht
    have hlink : reads n condition ∧ ∃ c, n.child? .consequence = some c
        ∧ dialect.run source thenMode c = .ok t := ⟨hreads, c, hc, ht⟩
    rcases hcases with ⟨hnone, rfl⟩ | ⟨arm, e, harm, he, rfl⟩
    · have hchain : dialect.lexicon.elseChain kind n = [n] :=
        Lexicon.elseChain_last fun arm harm => by rw [hnone] at harm; cases harm
      constructor
      · rw [hchain]
        exact .cons hlink .nil
      · rw [hchain]
        exact ⟨n, rfl, iff_of_true rfl (Lexicon.elseArm?_eq_none_iff.1 hnone), nofun⟩
    · by_cases hagain : arm.kind = kind
      · -- the chain goes on, and so does the diagram
        have hrest := hn arm (Lexicon.size_lt_of_elseArm? harm) hagain he
        have hchain := Lexicon.elseChain_next harm hagain
        constructor
        · rw [hchain]
          exact .cons hlink hrest.arms
        · obtain ⟨m, hm, hlast⟩ := hrest.last
          refine ⟨m, ?_, hlast⟩
          rw [hchain, List.getLast?_cons, hm]
          rfl
      · have hchain : dialect.lexicon.elseChain kind n = [n] :=
          Lexicon.elseChain_last fun arm' harm' => by
            rw [harm] at harm'
            cases harm'
            exact hagain
        have hbranch := hother arm e hagain he
        have harms : (Diagram.branch condition t (some e)).arms = [(condition, t)] := by
          show (condition, t) :: e.arms = _
          rw [Diagram.arms_of_not_branch hbranch]
        have hend : (Diagram.branch condition t (some e)).finalElse? = some e :=
          Diagram.finalElse?_of_not_branch hbranch
        constructor
        · rw [hchain, harms]
          exact .cons hlink .nil
        · rw [hchain, hend]
          refine ⟨n, rfl, iff_of_false nofun fun hnone => ?_, fun e' he' => ?_⟩
          · rw [Lexicon.elseArm?_eq_none_iff.2 hnone] at harm
            cases harm
          · cases he'
            exact ⟨hbranch, arm, harm, hagain, by rw [run_eq_lower]; exact he⟩

end Chain

/-! ## §4. Rust. -/

namespace Rust

variable {source : Source}

/-- The condition of a choice is the text of its condition, members tightened. -/
def ReadsCondition (source : Source) (n : Node) (condition : String) : Prop :=
  ∃ c, n.child? .condition = some c ∧ condition = tightenMembers (text source c)

theorem expressionStep_of_if {n : Node} {s : Step} (hkind : n.kind = "if_expression")
    (h : expressionStep source n = .ok s) :
    ∃ condition, ReadsCondition source n condition
      ∧ s = .framed (.branch condition) (branchParts lexicon .block .expression n) := by
  obtain ⟨_, c, hc, rfl⟩ | ⟨hk, _⟩ | ⟨hk, _⟩ | ⟨hk, _⟩ | ⟨hk, _⟩ := expressionStep_cases h
  · exact ⟨_, ⟨c, hc, rfl⟩, rfl⟩
  · exact absurd (hkind.symm.trans hk) (by decide)
  · exact absurd (hkind.symm.trans hk) (by decide)
  · exact absurd (hkind.symm.trans hk) (by decide)
  · rw [hkind] at hk
    exact absurd hk (by decide)

theorem holds_self_of_if {n : Node} (hkind : n.kind = "if_expression") : Holds n n := by
  apply Holds.bare <;> rw [hkind] <;> decide

/-- Only a choice becomes a branch. -/
theorem isBranch_of_kind_ne {n : Node} {d : Diagram} (hkind : n.kind ≠ "if_expression")
    (h : rust.lower source .expression n = .ok d) : d.isBranch = false := by
  cases d with
  | branch condition t e =>
    exfalso
    obtain ⟨s, hs, hbranches⟩ := branches_of_lower h
    obtain ⟨hk, _⟩ | ⟨_, _, _, rfl⟩ | ⟨_, _, _, _, _, rfl⟩ | ⟨_, rfl⟩ | ⟨_, rfl⟩ :=
      expressionStep_cases hs
    · exact hkind hk
    · exact hbranches
    · exact hbranches
    · exact hbranches
    · exact hbranches
  | _ => rfl

end Rust

/-! ## §5. JavaScript. -/

namespace JavaScript

variable {source : Source}

/-- The condition of a choice is what stands in its parentheses; if nothing
does, the parentheses themselves. -/
inductive ReadsCondition (source : Source) (n : Node) : String → Prop
  | missing (h : n.child? .condition = none) : ReadsCondition source n ""
  | opened {c first : Node} {rest : List Node} (h : n.child? .condition = some c)
      (hkind : c.kind = "parenthesized_expression") (hinner : lexicon.inner c = first :: rest) :
      ReadsCondition source n (lexicon.excerpt source first)
  | whole {c : Node} (h : n.child? .condition = some c)
      (hkind : c.kind ≠ "parenthesized_expression" ∨ lexicon.inner c = []) :
      ReadsCondition source n (lexicon.excerpt source c)

theorem readsCondition_conditionText (source : Source) (n : Node) :
    ReadsCondition source n (conditionText source n) := by
  unfold conditionText
  cases hc : n.child? .condition with
  | none => exact .missing hc
  | some c =>
    by_cases hkind : c.kind = "parenthesized_expression"
    · simp only [hkind, beq_self_eq_true, if_true]
      cases hinner : lexicon.inner c with
      | nil => exact .whole hc (.inr hinner)
      | cons first rest => exact .opened hc hkind hinner
    · simp only [beq_eq_false_iff_ne.2 hkind]
      exact .whole hc (.inl hkind)

/-- Only a choice becomes a branch. -/
theorem isBranch_of_kind_ne {n : Node} {d : Diagram} (hkind : n.kind ≠ "if_statement")
    (h : javaScript.lower source .statement n = .ok d) : d.isBranch = false := by
  cases d with
  | branch condition t e =>
    exfalso
    obtain ⟨s, hs, hbranches⟩ := branches_of_lower h
    have hs : Except.ok (statementStep source n) = Except.ok s := hs
    obtain ⟨_, heq⟩ | ⟨hk, _⟩ | ⟨_, _, heq⟩ | ⟨_, _, _, heq⟩ := statementStep_cases source n
    · rw [heq] at hs
      cases hs
      exact hbranches
    · exact hkind hk
    · rw [heq] at hs
      cases hs
      exact hbranches
    · rw [heq] at hs
      cases hs
      exact hbranches
  | _ => rfl

end JavaScript

/-! ## §6. Chains in both languages. -/

/-- However long a chain of choices is, every arm of it is kept: the diagram of
a choice that is read as a statement or as an expression has one branch for
each, in order, with its own condition and consequence. -/
theorem run_keepsChain (source : Source) (mode : Mode) (n : Node) (d : Diagram)
    (hmode : mode = .statement ∨ mode = .expression) :
    (n.kind = "if_expression" → rust.run source mode n = .ok d →
      KeepsChain rust source "if_expression" .block .expression
        (Rust.ReadsCondition source) n d) ∧
    (n.kind = "if_statement" → javaScript.run source mode n = .ok d →
      KeepsChain javaScript source "if_statement" .statement .statement
        (JavaScript.ReadsCondition source) n d) := by
  constructor
  · intro hkind h
    rw [run_eq_lower] at h
    have h : rust.lower source .expression n = .ok d := by
      rcases hmode with rfl | rfl
      · rw [← Rust.lower_of_holds (Rust.holds_self_of_if hkind)]
        exact h
      · exact h
    refine keepsChain_of_step ?_ ?_ hkind h
    · intro m s hm hs
      exact Rust.expressionStep_of_if hm hs
    · intro m e hm he
      exact Rust.isBranch_of_kind_ne hm he
  · intro hkind h
    rw [run_eq_lower] at h
    rcases hmode with rfl | rfl
    · refine keepsChain_of_step ?_ ?_ hkind h
      · intro m s hm hs
        rw [JavaScript.statementStep_of_if hm] at hs
        cases hs
        exact ⟨_, JavaScript.readsCondition_conditionText source m, rfl⟩
      · intro m e hm he
        exact JavaScript.isBranch_of_kind_ne hm he
    · -- there are no expressions in this language
      rw [lower_eq] at h
      cases h

/-- A chain that ends with an `else`. -/
def forkedSource : Source := Text.utf8 "if a\x7b\x7delse if b\x7b\x7delse\x7bc\x7d"

/-- The choice of the chain that ends with an `else`. -/
def forkedChoice : Node :=
  .sound "if_expression" 0 24 none
    [.sound "identifier" 3 4 (some .condition) [],
     .sound "block" 4 6 (some .consequence) [],
     .sound "else_clause" 6 24 (some .alternative)
      [.sound "if_expression" 11 24 none
        [.sound "identifier" 14 15 (some .condition) [],
         .sound "block" 15 17 (some .consequence) [],
         .sound "else_clause" 17 24 (some .alternative)
          [.sound "block" 21 24 none
            [.sound "identifier" 22 23 none []]]]]]

/-- A chain that has no last `else`, and a comment in its first. -/
def remarkedChain : Source := Text.utf8 "if(a)b;else/**/if(c)d;"

/-- The choice of the chain with a comment. -/
def remarkedChoice : Node :=
  .sound "if_statement" 0 22 none
    [.sound "parenthesized_expression" 2 5 (some .condition)
      [.sound "identifier" 3 4 none []],
     .sound "expression_statement" 5 7 (some .consequence) [],
     .sound "else_clause" 7 22 (some .alternative)
      [.sound "comment" 11 15 none [],
       .sound "if_statement" 15 22 none
        [.sound "parenthesized_expression" 17 20 (some .condition)
          [.sound "identifier" 18 19 none []],
         .sound "expression_statement" 20 22 (some .consequence) []]]]

/-- Both chains are kept: two branches and a sequence at the end, and two branches
with nothing behind them. -/
theorem run_keepsChain_forkedChoice :
    rust.run forkedSource .statement forkedChoice
      = .ok (.branch "a" (.sequence []) (some (.branch "b" (.sequence [])
          (some (.sequence [.command "c"]))))) ∧
    KeepsChain rust forkedSource "if_expression" .block .expression
      (Rust.ReadsCondition forkedSource) forkedChoice
      (.branch "a" (.sequence []) (some (.branch "b" (.sequence [])
        (some (.sequence [.command "c"]))))) ∧
    javaScript.run remarkedChain .statement remarkedChoice
      = .ok (.branch "a" (.command "b;") (some (.branch "c" (.command "d;") none))) ∧
    KeepsChain javaScript remarkedChain "if_statement" .statement .statement
      (JavaScript.ReadsCondition remarkedChain) remarkedChoice
      (.branch "a" (.command "b;") (some (.branch "c" (.command "d;") none))) := by
  have hrust : rust.run forkedSource .statement forkedChoice
      = .ok (.branch "a" (.sequence []) (some (.branch "b" (.sequence [])
          (some (.sequence [.command "c"]))))) := by
    with_unfolding_all rfl
  have hjavaScript : javaScript.run remarkedChain .statement remarkedChoice
      = .ok (.branch "a" (.command "b;") (some (.branch "c" (.command "d;") none))) := by
    with_unfolding_all rfl
  refine ⟨hrust, ?_, hjavaScript, ?_⟩
  · exact (run_keepsChain forkedSource .statement forkedChoice _ (.inl rfl)).1 rfl hrust
  · exact (run_keepsChain remarkedChain .statement remarkedChoice _ (.inl rfl)).2 rfl hjavaScript

/-- The choice of `if () a;`, with nothing in its parentheses. -/
def hollowChoice : Node :=
  .sound "if_statement" 0 8 none
    [.sound "parenthesized_expression" 3 5 (some .condition)
      [.token "(" 3 4,
       .token ")" 4 5],
     .sound "expression_statement" 6 8 (some .consequence) []]

/-- The choice of `if (a b) c;`, with two things in its parentheses. -/
def crowdedChoice : Node :=
  .sound "if_statement" 0 11 none
    [.sound "parenthesized_expression" 3 8 (some .condition)
      [.token "(" 3 4,
       .sound "identifier" 4 5 none [],
       .sound "identifier" 6 7 none [],
       .token ")" 7 8],
     .sound "expression_statement" 9 11 (some .consequence) []]

/-- A condition is not always what stands between its parentheses: empty ones
are kept, and of two things in them only the first is. -/
theorem condition_keeps_hollow_parentheses :
    javaScript.run (Text.utf8 "if () a;") .statement hollowChoice
      = .ok (.branch "()" (.command "a;") none) ∧
    javaScript.run (Text.utf8 "if (a b) c;") .statement crowdedChoice
      = .ok (.branch "a" (.command "c;") none) := by
  constructor
  · with_unfolding_all rfl
  · with_unfolding_all rfl

end Dialect

end AnalysisDiagram
