/-
  AnalysisDiagram.Proofs.Lowering.Lookalike
  ─────────────────────────────────────────
  Trees that look alike are lowered alike.

  Two trees, each over a source of its own, are compared node by node.  A
  relation `R` between their nodes is a likeness if related nodes agree in all
  that a step can see of them:

      kind, named, role  — what is known of the node itself
      bare               — its children without the comments, pair by pair
      excerpt            — its text

      lower_congr                  — if related nodes take related steps, they
                                     are lowered alike
      run_lookalike                — so it is for every likeness

  Steps see nothing else, in either dialect: no offset, no byte between two
  tokens, and no comment.
-/
import AnalysisDiagram.Proofs.Lowering.Machine
import AnalysisDiagram.Proofs.Lowering.Steps
import AnalysisDiagram.Proofs.Tree.Tokens

namespace AnalysisDiagram

open AnalysisDiagram.Outcome

/-! ## §1. Likenesses. -/

/-- A relation between nodes of two trees under which related nodes agree in
all that lowering can see of them. -/
structure Lookalike (lex : Lexicon) (source source' : Source) (R : Node → Node → Prop) : Prop where
  kind : ∀ {m n}, R m n → m.kind = n.kind
  named : ∀ {m n}, R m n → m.info.named = n.info.named
  role : ∀ {m n}, R m n → m.info.role = n.info.role
  silent : ∀ {m n}, R m n → lex.Silent m ∧ lex.Silent n
  bare : ∀ {m n}, R m n → List.Forall₂ R (lex.bare m) (lex.bare n)
  excerpt : ∀ {m n}, R m n → lex.excerpt source m = lex.excerpt source' n

section Lists

variable {α β : Type} {R : α → β → Prop} {p : α → Bool} {q : β → Bool}

/-- Tests that agree on related items keep related items. -/
theorem forall₂_filter (hpq : ∀ a b, R a b → p a = q b) {as : List α} {bs : List β}
    (h : List.Forall₂ R as bs) : List.Forall₂ R (as.filter p) (bs.filter q) := by
  apply List.rel_filter _ h
  intro a b hab
  show p a = true ↔ q b = true
  rw [hpq a b hab]

/-- Tests that agree on related items find related items. -/
theorem rel_find? (hpq : ∀ a b, R a b → p a = q b) {as : List α} {bs : List β}
    (h : List.Forall₂ R as bs) : Option.Rel R (as.find? p) (bs.find? q) := by
  induction h with
  | nil => exact .none
  | @cons a b as bs hab _ ih =>
    rw [List.find?_cons, List.find?_cons, hpq a b hab]
    cases q b with
    | true => exact .some hab
    | false => exact ih

/-- Of two related options, both are empty or neither is. -/
theorem rel_cases {x : Option α} {y : Option β} (h : Option.Rel R x y) :
    (x = none ∧ y = none) ∨ ∃ a b, x = some a ∧ y = some b ∧ R a b := by
  cases h with
  | none => exact .inl ⟨rfl, rfl⟩
  | some hab => exact .inr ⟨_, _, rfl, rfl, hab⟩

/-- Functions that agree on related items map to the same list. -/
theorem map_congr_of_forall₂ {γ : Type} {f : α → γ} {g : β → γ} (hfg : ∀ a b, R a b → f a = g b)
    {as : List α} {bs : List β} (h : List.Forall₂ R as bs) : as.map f = bs.map g := by
  rw [← List.forall₂_eq_eq_eq, List.forall₂_map_left_iff, List.forall₂_map_right_iff]
  exact h.imp fun {a b} hab => hfg a b hab

theorem rel_head? {as : List α} {bs : List β} (h : List.Forall₂ R as bs) :
    Option.Rel R as.head? bs.head? := by
  cases h with
  | nil => exact .none
  | cons hab _ => exact .some hab

end Lists

namespace Lookalike

variable {lex : Lexicon} {source source' : Source} {R : Node → Node → Prop} {m n : Node}

theorem isComment (hR : Lookalike lex source source' R) (h : R m n) :
    lex.isComment m = lex.isComment n := by
  unfold Lexicon.isComment
  rw [hR.kind h]

/-- The first children in a role are alike, or lacking on both sides. -/
theorem child? (hR : Lookalike lex source source' R) (h : R m n) (role : Role) :
    Option.Rel R (m.child? role) (n.child? role) := by
  rw [(hR.silent h).1.child?_eq_bare, (hR.silent h).2.child?_eq_bare]
  apply rel_find? _ (hR.bare h)
  intro c d hcd
  rw [hR.role hcd]

/-- The named children that are not comments are alike, pair by pair. -/
theorem inner (hR : Lookalike lex source source' R) (h : R m n) :
    List.Forall₂ R (lex.inner m) (lex.inner n) := by
  rw [lex.inner_eq_bare, lex.inner_eq_bare]
  apply forall₂_filter _ (hR.bare h)
  intro c d hcd
  exact hR.named hcd

theorem elseArm? (hR : Lookalike lex source source' R) (h : R m n) :
    Option.Rel R (lex.elseArm? m) (lex.elseArm? n) := by
  unfold Lexicon.elseArm?
  rcases rel_cases (hR.child? h .alternative) with ⟨hc, hd⟩ | ⟨c, d, hc, hd, hcd⟩
  · rw [hc, hd]
    exact .none
  · rw [hc, hd]
    exact rel_head? (hR.inner hcd)

end Lookalike

/-! ## §2. Steps that are alike. -/

/-- Both computations fail for the same reason, or come to related results. -/
inductive Outcome.Same {ε α β : Type} (r : α → β → Prop) : Except ε α → Except ε β → Prop
  | error (e : ε) : Same r (.error e) (.error e)
  | ok {a : α} {b : β} (h : r a b) : Same r (.ok a) (.ok b)

/-- Two parts are read in the same mode, and their nodes are related. -/
def Part.Alike (R : Node → Node → Prop) (p q : Part) : Prop :=
  p.mode = q.mode ∧ Option.Rel R p.node q.node

/-- Two steps make the same diagram, or the same frame around related parts. -/
inductive Step.Alike (R : Node → Node → Prop) : Step → Step → Prop
  | finished (d : Diagram) : Step.Alike R (.finished d) (.finished d)
  | framed (frame : Frame) {ps qs : List Part} (h : List.Forall₂ (Part.Alike R) ps qs) :
      Step.Alike R (.framed frame ps) (.framed frame qs)

theorem mapM_congr_of_forall₂ {ε α β γ : Type} {f : α → Except ε γ} {g : β → Except ε γ}
    {as : List α} {bs : List β} (h : List.Forall₂ (fun a b => f a = g b) as bs) :
    as.mapM f = bs.mapM g := by
  induction h with
  | nil => rfl
  | cons hab _ ih => rw [List.mapM_cons, List.mapM_cons, hab, ih]

/-- Nodes whose steps are always alike, and lead to such nodes again, are
lowered alike: to the same diagram, or to the same failure. -/
theorem Dialect.lower_congr {dialect : Dialect} {source source' : Source} {R : Node → Node → Prop}
    (hstep : ∀ mode m n, R m n →
      Same (Step.Alike R) (dialect.step source mode m) (dialect.step source' mode n))
    {m n : Node} (h : R m n) (mode : Mode) :
    dialect.lower source mode m = dialect.lower source' mode n := by
  -- by the size of the first node; the parts on the other side come along
  induction m using node_induction generalizing mode n with
  | ih m hm =>
    rw [lower_eq, lower_eq]
    have hbelow := dialect.step_below source mode m
    have hsame := hstep mode m n h
    generalize dialect.step source mode m = x at hsame hbelow
    generalize dialect.step source' mode n = y at hsame
    cases hsame with
    | error e => rfl
    | ok halike =>
      cases halike with
      | finished d => rfl
      | @framed frame ps qs hparts =>
        have hlower : ps.mapM (dialect.lowerPart source) = qs.mapM (dialect.lowerPart source') := by
          apply mapM_congr_of_forall₂
          have hzip := List.forall₂_iff_zip.1 hparts
          refine List.forall₂_iff_zip.2 ⟨hzip.1, fun {p q} hpq => ?_⟩
          have hp := hbelow _ rfl p (List.of_mem_zip hpq).1
          obtain ⟨hmode, hnode⟩ := hzip.2 hpq
          obtain ⟨pmode, pnode⟩ := p
          obtain ⟨qmode, qnode⟩ := q
          cases hmode
          cases hnode with
          | none => rfl
          | some hcd => exact hm _ (hp _ rfl) hcd pmode
        show ps.mapM (dialect.lowerPart source) >>= frame.fill = _
        rw [hlower]
        rfl

namespace Dialect

variable {source source' : Source} {R : Node → Node → Prop} {m n : Node}

/-- Lists of related nodes that are read in one mode. -/
theorem alike_parts {ms ns : List Node} (h : List.Forall₂ R ms ns) (mode : Mode) :
    List.Forall₂ (Part.Alike R) (ms.map fun c => ⟨mode, some c⟩)
      (ns.map fun c => ⟨mode, some c⟩) := by
  rw [List.forall₂_map_left_iff, List.forall₂_map_right_iff]
  exact h.imp fun _ _ hcd => ⟨rfl, .some hcd⟩

theorem alike_child {lex : Lexicon} (hR : Lookalike lex source source' R) (h : R m n) (mode : Mode)
    (role : Role) :
    List.Forall₂ (Part.Alike R) [⟨mode, m.child? role⟩] [⟨mode, n.child? role⟩] :=
  .cons ⟨rfl, hR.child? h role⟩ .nil

theorem alike_branchParts {lex : Lexicon} (hR : Lookalike lex source source' R) (h : R m n)
    (thenMode elseMode : Mode) :
    List.Forall₂ (Part.Alike R) (branchParts lex thenMode elseMode m)
      (branchParts lex thenMode elseMode n) := by
  unfold branchParts
  apply List.Forall₂.cons ⟨rfl, hR.child? h .consequence⟩
  rcases rel_cases (hR.elseArm? h) with ⟨hc, hd⟩ | ⟨c, d, hc, hd, hcd⟩
  · rw [hc, hd]
    exact .nil
  · rw [hc, hd]
    exact .cons ⟨rfl, .some hcd⟩ .nil

/-! ## §3. Rust. -/

namespace Rust

theorem textOf_lookalike (hR : Lookalike lexicon source source' R) (h : R m n) (role : Role) :
    textOf source m role = textOf source' n role := by
  unfold textOf
  rcases rel_cases (hR.child? h role) with ⟨hc, hd⟩ | ⟨c, d, hc, hd, hcd⟩
  · rw [hc, hd]
  · rw [hc, hd]
    show Except.ok (text source c) = Except.ok (text source' d)
    unfold text
    rw [hR.excerpt hcd]

theorem statements_eq_inner (n : Node) :
    statements n = (lexicon.inner n).filter fun c => !notStatements.contains c.kind := by
  unfold statements Lexicon.inner
  rw [List.filter_filter]
  apply List.filter_congr
  intro c _
  -- comments are among the kinds that are no statements
  have hcomment : lexicon.isComment c = true → notStatements.contains c.kind = true := by
    unfold Lexicon.isComment notStatements
    simp only [List.contains_iff_mem, List.mem_append]
    exact .inl
  cases hkind : notStatements.contains c.kind with
  | true => rfl
  | false =>
    cases hc : lexicon.isComment c with
    | true => exact absurd (hcomment hc) (by rw [hkind]; exact Bool.false_ne_true)
    | false => rfl

theorem blockStep_alike (hR : Lookalike lexicon source source' R) (h : R m n) :
    Step.Alike R (blockStep m) (blockStep n) := by
  unfold blockStep
  apply Step.Alike.framed
  apply alike_parts
  rw [statements_eq_inner, statements_eq_inner]
  apply forall₂_filter _ (hR.inner h)
  intro c d hcd
  rw [hR.kind hcd]

theorem command_alike (hR : Lookalike lexicon source source' R) (h : R m n) :
    Same (Step.Alike R) (Except.ok (Step.finished (.command (text source m))) : Except Defect Step)
      (.ok (.finished (.command (text source' n)))) := by
  unfold text
  rw [hR.excerpt h]
  exact .ok (.finished _)

theorem expressionStep_alike (hR : Lookalike lexicon source source' R) (h : R m n) :
    Same (Step.Alike R) (expressionStep source m) (expressionStep source' n) := by
  unfold expressionStep
  rw [hR.kind h, textOf_lookalike hR h .condition, textOf_lookalike hR h .pattern,
    textOf_lookalike hR h .value]
  split
  · cases textOf source' n .condition with
    | error e => exact .error e
    | ok condition => exact .ok (.framed _ (alike_branchParts hR h .block .expression))
  · cases textOf source' n .condition with
    | error e => exact .error e
    | ok condition => exact .ok (.framed _ (alike_child hR h .block .body))
  · cases textOf source' n .pattern with
    | error e => exact .error e
    | ok pattern =>
      cases textOf source' n .value with
      | error e => exact .error e
      | ok value => exact .ok (.framed _ (alike_child hR h .block .body))
  · exact .ok (blockStep_alike hR h)
  · exact command_alike hR h

theorem statementStep_alike (hR : Lookalike lexicon source source' R) (h : R m n) :
    Same (Step.Alike R) (statementStep source m) (statementStep source' n) := by
  unfold statementStep
  rw [hR.kind h]
  split
  · exact command_alike hR h
  split
  · exact .ok (.finished _)
  split
  · -- what the statement is made of is the first thing in it, on both sides
    have hinner := hR.inner h
    generalize lexicon.inner m = ms at hinner ⊢
    generalize lexicon.inner n = ns at hinner ⊢
    cases hinner with
    | nil => exact command_alike hR h
    | @cons c d _ _ hcd _ =>
      show Same _ (if c.kind == "macro_invocation" then _ else expressionStep source c)
        (if d.kind == "macro_invocation" then _ else expressionStep source' d)
      rw [hR.kind hcd]
      split
      · exact command_alike hR h
      · exact expressionStep_alike hR hcd
  · exact expressionStep_alike hR h

theorem functionStep_alike (hR : Lookalike lexicon source source' R) (h : R m n) :
    Same (Step.Alike R) (functionStep source m) (functionStep source' n) := by
  unfold functionStep
  rw [textOf_lookalike hR h .name]
  cases textOf source' n .name with
  | error e => exact .error e
  | ok name => exact .ok (.framed _ (alike_child hR h .block .body))

/-- Rust lowers nodes that look alike to the same diagram, or to the same
failure. -/
theorem lower_lookalike (hR : Lookalike lexicon source source' R) (h : R m n) (mode : Mode) :
    rust.lower source mode m = rust.lower source' mode n := by
  refine lower_congr (fun mode m n h => ?_) h mode
  cases mode with
  | function => exact functionStep_alike hR h
  | block => exact .ok (blockStep_alike hR h)
  | statement => exact statementStep_alike hR h
  | expression => exact expressionStep_alike hR h

end Rust

/-! ## §4. JavaScript. -/

namespace JavaScript

theorem text_lookalike (hR : Lookalike lexicon source source' R) {x y : Option Node}
    (h : Option.Rel R x y) : text source x = text source' y := by
  rcases rel_cases h with ⟨rfl, rfl⟩ | ⟨c, d, rfl, rfl, hcd⟩
  · rfl
  · show lexicon.excerpt source c = lexicon.excerpt source' d
    rw [hR.excerpt hcd]

theorem conditionText_lookalike (hR : Lookalike lexicon source source' R) (h : R m n) :
    conditionText source m = conditionText source' n := by
  unfold conditionText
  rcases rel_cases (hR.child? h .condition) with ⟨hc, hd⟩ | ⟨c, d, hc, hd, hcd⟩
  · rw [hc, hd]
  · rw [hc, hd]
    show (if c.kind == "parenthesized_expression" then _ else text source (some c))
      = (if d.kind == "parenthesized_expression" then _ else text source' (some d))
    -- inside the parentheses, or the condition itself if they hold nothing
    have hfirst : Option.Rel R ((lexicon.inner c).head?.or (some c))
        ((lexicon.inner d).head?.or (some d)) := by
      rcases rel_cases (rel_head? (hR.inner hcd)) with ⟨ha, hb⟩ | ⟨a, b, ha, hb, hab⟩
      · rw [ha, hb]
        exact .some hcd
      · rw [ha, hb]
        exact .some hab
    rw [hR.kind hcd, text_lookalike hR hfirst, text_lookalike hR (.some hcd)]

theorem forText_lookalike (hR : Lookalike lexicon source source' R) (h : R m n) :
    forText source m = forText source' n := by
  have hclause : ∀ role, clauseText source m role = clauseText source' n role := by
    intro role
    unfold clauseText
    rw [text_lookalike hR (hR.child? h role)]
  unfold forText
  rw [hclause .initializer, hclause .condition, hclause .increment]

/-- Comments do not stand between the parentheses. -/
theorem headParts_within_bare (ns : List Node) :
    headParts.within (ns.filter fun c => !lexicon.isComment c) = headParts.within ns := by
  induction ns with
  | nil => rfl
  | cons n ns ih =>
    cases hcomment : lexicon.isComment n with
    | true => simp [hcomment, headParts.within, ih]
    | false => simp [hcomment, headParts.within, ih]

theorem headParts_bare (ns : List Node) :
    headParts (ns.filter fun c => !lexicon.isComment c) = headParts ns := by
  induction ns with
  | nil => rfl
  | cons n ns ih =>
    cases hcomment : lexicon.isComment n with
    | true => simp [hcomment, headParts, ih]
    | false => simp [hcomment, headParts, ih, headParts_within_bare]

theorem headParts_within_alike (hR : Lookalike lexicon source source' R) {ms ns : List Node}
    (h : List.Forall₂ R ms ns) : List.Forall₂ R (headParts.within ms) (headParts.within ns) := by
  induction h with
  | nil => exact .nil
  | @cons c d ms ns hcd _ ih =>
    unfold headParts.within
    rw [hR.isComment hcd, hR.kind hcd]
    split
    · exact ih
    split
    · exact ih
    split
    · exact .nil
    · exact .cons hcd ih

theorem headParts_alike (hR : Lookalike lexicon source source' R) {ms ns : List Node}
    (h : List.Forall₂ R ms ns) : List.Forall₂ R (headParts ms) (headParts ns) := by
  induction h with
  | nil => exact .nil
  | @cons c d ms ns hcd htail ih =>
    unfold headParts
    rw [hR.isComment hcd, hR.kind hcd]
    split
    · exact ih
    split
    · exact headParts_within_alike hR htail
    split
    · exact .nil
    · exact ih

/-- The word `await` is no comment. -/
theorem any_await_bare (n : Node) :
    n.children.any (fun c => c.kind == "await")
      = (lexicon.bare n).any fun c => c.kind == "await" := by
  unfold Lexicon.bare
  rw [List.any_filter]
  apply List.any_congr rfl
  intro c
  cases hawait : c.kind == "await" with
  | false => rw [Bool.and_false]
  | true =>
    have hkind : c.kind = "await" := by simpa using hawait
    have hcomment : lexicon.isComment c = false := by
      unfold Lexicon.isComment
      rw [hkind]
      decide
    rw [hcomment]
    rfl

theorem forInText_lookalike (hR : Lookalike lexicon source source' R) (h : R m n) :
    forInText source m = forInText source' n := by
  have hkinds : (lexicon.bare m).map Node.kind = (lexicon.bare n).map Node.kind :=
    map_congr_of_forall₂ (fun _ _ hcd => hR.kind hcd) (hR.bare h)
  have hawait : m.children.any (fun c => c.kind == "await")
      = n.children.any fun c => c.kind == "await" := by
    rw [any_await_bare, any_await_bare]
    show (lexicon.bare m).any ((fun kind => kind == "await") ∘ Node.kind)
      = (lexicon.bare n).any ((fun kind => kind == "await") ∘ Node.kind)
    rw [← List.any_map, ← List.any_map, hkinds]
  have hparts : (headParts m.children).map (fun c => text source (some c))
      = (headParts n.children).map fun c => text source' (some c) := by
    rw [← headParts_bare m.children, ← headParts_bare n.children]
    apply map_congr_of_forall₂ _ (headParts_alike hR (hR.bare h))
    intro c d hcd
    exact text_lookalike hR (.some hcd)
  unfold forInText
  rw [hawait, hparts]

theorem blockStep_alike (hR : Lookalike lexicon source source' R) (h : R m n) :
    Step.Alike R (blockStep m) (blockStep n) := by
  unfold blockStep
  exact .framed _ (alike_parts (hR.inner h) .statement)

theorem statementStep_alike (hR : Lookalike lexicon source source' R) (h : R m n) :
    Step.Alike R (statementStep source m) (statementStep source' n) := by
  unfold statementStep loopStep
  rw [hR.kind h, conditionText_lookalike hR h, forText_lookalike hR h, forInText_lookalike hR h,
    text_lookalike hR (.some h)]
  split
  · exact blockStep_alike hR h
  · exact .framed _ (alike_branchParts hR h .statement .statement)
  · exact .framed _ (alike_child hR h .statement .body)
  · exact .framed _ (alike_child hR h .statement .body)
  · exact .framed _ (alike_child hR h .statement .body)
  · exact .finished _

theorem functionStep_alike (hR : Lookalike lexicon source source' R) (h : R m n) :
    Step.Alike R (functionStep source m) (functionStep source' n) := by
  unfold functionStep functionName
  rw [text_lookalike hR (hR.child? h .name)]
  exact .framed _ (alike_child hR h .block .body)

/-- JavaScript lowers nodes that look alike to the same diagram, or to the same
failure. -/
theorem lower_lookalike (hR : Lookalike lexicon source source' R) (h : R m n) (mode : Mode) :
    javaScript.lower source mode m = javaScript.lower source' mode n := by
  refine lower_congr (fun mode m n h => ?_) h mode
  cases mode with
  | function => exact .ok (functionStep_alike hR h)
  | block => exact .ok (blockStep_alike hR h)
  | statement => exact .ok (statementStep_alike hR h)
  | expression => exact .error Defect.unknownMode

end JavaScript

/-- Nodes that look alike have the same outcome, in every mode. -/
theorem run_lookalike {dialect : Dialect} (hd : dialect = rust ∨ dialect = javaScript)
    (hR : Lookalike dialect.lexicon source source' R) (h : R m n) (mode : Mode) :
    dialect.run source mode m = dialect.run source' mode n := by
  rw [run_eq_lower, run_eq_lower]
  rcases hd with rfl | rfl
  · exact Rust.lower_lookalike hR h mode
  · exact JavaScript.lower_lookalike hR h mode

end Dialect

end AnalysisDiagram
