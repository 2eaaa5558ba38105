/-
  AnalysisDiagram.Proofs.Lowering.Literals
  ────────────────────────────────────────
  What becomes of the literals in a Rust condition.

  The text of a condition keeps every literal as it is written.  But then the
  spaced dots of the whole text are tightened, and that does not stop at
  quotes:

      readsCondition_of_lower    — where the condition of a branch comes from
      condition_around_literal   — a literal stands in the condition with its
                                   own spaced dots tightened, and only these
      condition_loses_literal    — so `"a . b"` is not in the condition that
                                   it is written in
-/
import AnalysisDiagram.Proofs.Lowering.Chains
import AnalysisDiagram.Proofs.Tree.Excerpt
import AnalysisDiagram.Proofs.Tree.Members

namespace AnalysisDiagram.Dialect.Rust

/-! ## §1. Conditions of branches. -/

variable {source : Source}

/-- In whatever mode a choice is read, if it becomes a branch then its condition
is the one that the choice was written with. -/
theorem readsCondition_of_lower {mode : Mode} {n : Node} {condition : String} {t : Diagram}
    {e : Option Diagram} (hkind : n.kind = "if_expression")
    (h : rust.lower source mode n = .ok (.branch condition t e)) :
    ReadsCondition source n condition := by
  obtain ⟨s, hs, hbranches⟩ := branches_of_lower h
  have hexpression (hs : expressionStep source n = .ok s) : ReadsCondition source n condition := by
    obtain ⟨condition', hreads, rfl⟩ := expressionStep_of_if hkind hs
    have hsame : condition' = condition := hbranches
    rw [← hsame]
    exact hreads
  cases mode with
  | expression => exact hexpression hs
  | statement =>
    rcases statementStep_cases source n with ⟨e', he', hstep⟩ | ⟨hnone, _⟩
    · cases he'.unique (holds_self_of_if hkind)
      exact hexpression (hstep.symm.trans hs)
    · exact absurd (holds_self_of_if hkind) (hnone n)
  | block =>
    cases hs
    exact absurd hbranches id
  | function =>
    obtain ⟨_, _, rfl⟩ := functionStep_cases hs
    exact absurd hbranches id

/-! ## §2. Literals. -/

/-- A literal that no comment hides stands in the text of its node as it is
written. -/
theorem exists_text_around {c m : Node} {s : String} (hm : m ∈ lexicon.exposed c)
    (hliteral : m.kind ∈ lexicon.atomic) (hwidth : m.start < m.stop)
    (hs : (Text.utf8 s).toList = source.slice m.start m.stop) :
    ∃ before after, text source c = before ++ s ++ after := by
  have hspan : m.spanText source = s := by
    unfold Node.spanText
    rw [← hs, Text.decodeLossy_utf8]
  obtain ⟨before, after, htext⟩ :=
    Lexicon.exists_excerpt_around source (Lexicon.mem_tokens_of_exposed hm hliteral hwidth)
  rw [hspan] at htext
  exact ⟨before, after, htext⟩

/-- A literal in the condition of a choice stands in the condition of the branch
with its own spaced dots tightened.  So it stands there as it is written
exactly if it has none. -/
theorem condition_around_literal (source : Source) (mode : Mode) (n c m : Node)
    (condition s : String) (t : Diagram) (e : Option Diagram) (hkind : n.kind = "if_expression")
    (hrun : rust.run source mode n = .ok (.branch condition t e))
    (hcondition : n.child? .condition = some c) (hm : m ∈ lexicon.exposed c)
    (hliteral : m.kind ∈ lexicon.atomic) (hwidth : m.start < m.stop)
    (hs : (Text.utf8 s).toList = source.slice m.start m.stop) :
    ∃ before after, text source c = before ++ s ++ after ∧
      condition = tightenMembers (before ++ s ++ after) ∧
      (isEnclosed s = true →
        condition = tightenMembers before ++ tightenMembers s ++ tightenMembers after ∧
        (tightenMembers s = s ↔ ¬ SpacedDot s.toList) ∧
        (¬ SpacedDot s.toList → s.toList <:+: condition.toList)) := by
  rw [run_eq_lower] at hrun
  obtain ⟨c', hc', hreads⟩ := readsCondition_of_lower hkind hrun
  cases hcondition.symm.trans hc'
  obtain ⟨before, after, htext⟩ := exists_text_around hm hliteral hwidth hs
  rw [htext] at hreads
  refine ⟨before, after, htext, hreads, fun henclosed => ?_⟩
  -- quotes keep what stands around the literal apart from it
  have hparts : condition = tightenMembers before ++ tightenMembers s ++ tightenMembers after := by
    rw [hreads, tightenMembers_around henclosed]
  refine ⟨hparts, tightenMembers_eq_self_iff s, fun hdot => ?_⟩
  rw [(tightenMembers_eq_self_iff s).2 hdot] at hparts
  refine ⟨(tightenMembers before).toList, (tightenMembers after).toList, ?_⟩
  rw [hparts, String.toList_append, String.toList_append]

/-- The literal of `if m . n == "a. b" {}`. -/
def dottedLiteral : Node := .sound "string_literal" 12 18 none []

/-- The condition of `if m . n == "a. b" {}`. -/
def dottedCondition : Node :=
  .sound "binary_expression" 3 18 (some .condition)
    [.sound "field_expression" 3 8 none
      [.sound "identifier" 3 4 none [],
       .token "." 5 6,
       .sound "field_identifier" 7 8 none []],
     .token "==" 9 11,
     dottedLiteral]

/-- The choice of `if m . n == "a. b" {}`. -/
def dottedChoice : Node :=
  .sound "if_expression" 0 21 none
    [dottedCondition, .sound "block" 19 21 (some .consequence) []]

/-- Outside the literal the spaced dot goes, inside it the dot stays. -/
theorem condition_around_literal_dottedChoice :
    rust.run (Text.utf8 "if m . n == \"a. b\" \x7b\x7d") .expression dottedChoice
      = .ok (.branch "m.n == \"a. b\"" (.sequence []) none) ∧
    dottedLiteral ∈ lexicon.exposed dottedCondition ∧
    isEnclosed "\"a. b\"" = true ∧ ¬ SpacedDot "\"a. b\"".toList ∧
    "\"a. b\"".toList <:+: "m.n == \"a. b\"".toList := by
  have hrun : rust.run (Text.utf8 "if m . n == \"a. b\" \x7b\x7d") .expression dottedChoice
      = .ok (.branch "m.n == \"a. b\"" (.sequence []) none) := by
    with_unfolding_all rfl
  have hm : dottedLiteral ∈ lexicon.exposed dottedCondition :=
    .tail _ (.tail _ (.tail _ (.tail _ (.tail _ (.tail _ (.head _))))))
  have henclosed : isEnclosed "\"a. b\"" = true := by decide +kernel
  have hdot : ¬ SpacedDot "\"a. b\"".toList := by decide +kernel
  obtain ⟨_, _, _, _, hparts⟩ := condition_around_literal _ .expression dottedChoice dottedCondition
    dottedLiteral _ "\"a. b\"" _ _ rfl hrun rfl hm (by decide) (by decide) (by decide +kernel)
  exact ⟨hrun, hm, henclosed, hdot, (hparts henclosed).2.2 hdot⟩

/-- The literal of `if s == "a . b" {}`. -/
def spacedLiteral : Node := .sound "string_literal" 8 15 none []

/-- The condition of `if s == "a . b" {}`. -/
def spacedCondition : Node :=
  .sound "binary_expression" 3 15 (some .condition)
    [.sound "identifier" 3 4 none [],
     .token "==" 5 7,
     spacedLiteral]

/-- The choice of `if s == "a . b" {}`. -/
def spacedChoice : Node :=
  .sound "if_expression" 0 18 none
    [spacedCondition, .sound "block" 16 18 (some .consequence) []]

/-- The text of a literal need not be in the condition that it is written in. -/
theorem condition_loses_literal :
    rust.run (Text.utf8 "if s == \"a . b\" \x7b\x7d") .expression spacedChoice
      = .ok (.branch "s == \"a.b\"" (.sequence []) none) ∧
    spacedChoice.child? .condition = some spacedCondition ∧
    spacedLiteral ∈ lexicon.exposed spacedCondition ∧ spacedLiteral.kind ∈ lexicon.atomic ∧
    (Text.utf8 "\"a . b\"").toList
      = Source.slice (Text.utf8 "if s == \"a . b\" \x7b\x7d") spacedLiteral.start
          spacedLiteral.stop ∧
    ¬ "\"a . b\"".toList <:+: "s == \"a.b\"".toList := by
  refine ⟨?_, rfl, .tail _ (.tail _ (.tail _ (.head _))), by decide, by decide +kernel,
    by decide +kernel⟩
  with_unfolding_all rfl

end AnalysisDiagram.Dialect.Rust
