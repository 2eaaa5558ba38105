/-
  AnalysisDiagram.Proofs.Lowering.Comments
  ────────────────────────────────────────
  Comments never change a diagram.

      Lexicon.prune     — a tree without its comments; all else stays where
                          it was, with the bytes it had
      Lexicon.Tidy      — comments play no role, and no node that is to be
                          read consists of comments alone
      run_prune         — a tidy tree has the same outcome with its comments
                          and without them, at every node that remains

  A pruned node looks like the node it came from: its bare children are those
  of that node, pruned, and its tokens are the same spans of the same source.
-/
import AnalysisDiagram.Proofs.Lowering.Lookalike

namespace AnalysisDiagram

namespace Lexicon

variable {lex : Lexicon} {source : Source}

/-! ## §1. Trees without comments. -/

mutual

/-- A node with all comments below it taken out. -/
def prune (lex : Lexicon) : Node → Node
  | .mk info children => .mk info (prunes lex children)

/-- Several nodes with all comments among and below them taken out. -/
def prunes (lex : Lexicon) : List Node → List Node
  | [] => []
  | n :: rest =>
      if lex.isComment n then prunes lex rest else prune lex n :: prunes lex rest

end

@[simp]
theorem info_prune (n : Node) : (lex.prune n).info = n.info := by
  cases n with
  | mk info children => rw [prune]; rfl

@[simp]
theorem kind_prune (n : Node) : (lex.prune n).kind = n.kind := by
  unfold Node.kind
  rw [info_prune]

@[simp]
theorem start_prune (n : Node) : (lex.prune n).start = n.start := by
  unfold Node.start
  rw [info_prune]

@[simp]
theorem stop_prune (n : Node) : (lex.prune n).stop = n.stop := by
  unfold Node.stop
  rw [info_prune]

@[simp]
theorem isComment_prune (n : Node) : lex.isComment (lex.prune n) = lex.isComment n := by
  unfold isComment
  rw [kind_prune]

theorem prunes_eq_map (ns : List Node) :
    lex.prunes ns = (ns.filter fun c => !lex.isComment c).map lex.prune := by
  induction ns with
  | nil => rfl
  | cons n ns ih =>
    cases hcomment : lex.isComment n with
    | true => simp [prunes, hcomment, ih]
    | false => simp [prunes, hcomment, ih]

/-- What remains below a node are its bare children. -/
theorem children_prune (n : Node) : (lex.prune n).children = (lex.bare n).map lex.prune := by
  cases n with
  | mk info children =>
    rw [prune]
    exact prunes_eq_map children

theorem bare_prune (n : Node) : lex.bare (lex.prune n) = (lex.bare n).map lex.prune := by
  have hall : ∀ c ∈ (lex.bare n).map lex.prune, (!lex.isComment c) = true := by
    intro c hc
    obtain ⟨d, hd, rfl⟩ := List.mem_map.1 hc
    rw [isComment_prune, (mem_bare.1 hd).2]
    rfl
  show (lex.prune n).children.filter (fun c => !lex.isComment c) = _
  rw [children_prune, List.filter_eq_self.2 hall]

/-- One tree after the other, the nodes of the pruned trees are those that no
comment contains. -/
theorem preorders_prunes {ns : List Node}
    (h : ∀ n ∈ ns, lex.isComment n = false →
      (lex.prune n).preorder = (lex.outside n).map lex.prune) :
    Node.preorders (lex.prunes ns) = (lex.outsides ns).map lex.prune := by
  induction ns with
  | nil => rfl
  | cons n ns ih =>
    have htail := ih fun c hc => h c (List.mem_cons_of_mem n hc)
    rw [prunes, outsides, List.map_append]
    cases hcomment : lex.isComment n with
    | true =>
      rw [if_pos rfl, htail, outside_of_comment hcomment]
      rfl
    | false =>
      rw [if_neg Bool.false_ne_true, Node.preorders, htail, h n List.mem_cons_self hcomment]

/-- The nodes of a pruned tree are the nodes of the tree that no comment
contains, each pruned, in the same order. -/
theorem preorder_prune {n : Node} (h : lex.isComment n = false) :
    (lex.prune n).preorder = (lex.outside n).map lex.prune := by
  induction n using Node.induction with
  | mk info children ih =>
    rw [outside_of_bare h, List.map_cons, prune, Node.preorder, preorders_prunes ih]
    rfl

/-! ## §2. The text of a pruned tree. -/

/-- Comments play no role, and no node that is read through its children has
comments for all of them. -/
structure Tidy (lex : Lexicon) (n : Node) : Prop where
  role : ∀ m ∈ n.preorder, lex.isComment m = true → m.info.role = none
  spoken : ∀ m ∈ n.preorder, lex.isComment m = false → m.kind ∉ lex.atomic → m.children ≠ [] →
    ∃ c ∈ m.children, lex.isComment c = false

theorem Tidy.of_mem {m n : Node} (h : lex.Tidy n) (hm : m ∈ n.preorder) : lex.Tidy m where
  role k hk := h.role k (Node.mem_preorder_trans hk hm)
  spoken k hk := h.spoken k (Node.mem_preorder_trans hk hm)

theorem Tidy.child {c n : Node} (h : lex.Tidy n) (hc : c ∈ n.children) : lex.Tidy c :=
  h.of_mem (Node.mem_preorder_of_child hc (Node.mem_preorder_self c))

theorem Tidy.silent {n : Node} (h : lex.Tidy n) : lex.Silent n := by
  intro c hc hcomment
  exact h.role c (Node.mem_preorder_of_child hc (Node.mem_preorder_self c)) hcomment

/-- A node does not become a token by losing its comments. -/
theorem Tidy.isToken_prune {n : Node} (h : lex.Tidy n) (hn : lex.isComment n = false) :
    lex.isToken (lex.prune n) = lex.isToken n := by
  unfold isToken
  rw [kind_prune]
  cases hatomic : lex.atomic.contains n.kind with
  | true => rw [Bool.or_true, Bool.or_true]
  | false =>
    rw [Bool.or_false, Bool.or_false, children_prune]
    cases hchildren : n.children with
    | nil =>
      have hbare : lex.bare n = [] := by
        unfold bare
        rw [hchildren]
        rfl
      rw [hbare]
      rfl
    | cons c rest =>
      -- there is a child to speak for the node, and pruning keeps it
      have hkind : n.kind ∉ lex.atomic := by
        intro hmem
        rw [List.contains_iff_mem.2 hmem] at hatomic
        cases hatomic
      have hne : n.children ≠ [] := by
        rw [hchildren]
        exact List.cons_ne_nil c rest
      obtain ⟨d, hd, hbare⟩ := h.spoken n (Node.mem_preorder_self n) hn hkind hne
      have hmem : lex.prune d ∈ (lex.bare n).map lex.prune :=
        List.mem_map_of_mem (mem_bare.2 ⟨hd, hbare⟩)
      cases hmap : (lex.bare n).map lex.prune with
      | nil =>
        rw [hmap] at hmem
        cases hmem
      | cons _ _ => rfl

theorem emit_prune (n : Node) : emit (lex.prune n) = (emit n).map lex.prune := by
  unfold emit
  rw [start_prune, stop_prune]
  split
  · rfl
  · rfl

/-- One tree after the other, pruning keeps the tokens. -/
theorem tokenLists_prunes {ns : List Node}
    (h : ∀ n ∈ ns, lex.isComment n = false →
      lex.tokens (lex.prune n) = (lex.tokens n).map lex.prune) :
    lex.tokenLists (lex.prunes ns) = (lex.tokenLists ns).map lex.prune := by
  induction ns with
  | nil => rfl
  | cons n ns ih =>
    have htail := ih fun c hc => h c (List.mem_cons_of_mem n hc)
    rw [prunes, tokenLists, List.map_append]
    cases hcomment : lex.isComment n with
    | true =>
      rw [if_pos rfl, htail, tokens_eq, if_pos hcomment]
      rfl
    | false =>
      rw [if_neg Bool.false_ne_true, tokenLists, htail, h n List.mem_cons_self hcomment]

/-- Pruning keeps the tokens. -/
theorem Tidy.tokens_prune {n : Node} (h : lex.Tidy n) (hn : lex.isComment n = false) :
    lex.tokens (lex.prune n) = (lex.tokens n).map lex.prune := by
  induction n using Node.induction with
  | mk info children ih =>
    have hbelow := tokenLists_prunes fun c hc hcomment => ih c hc (h.child hc) hcomment
    rw [tokens_eq, tokens_eq, isComment_prune, h.isToken_prune hn, hn,
      if_neg Bool.false_ne_true, if_neg Bool.false_ne_true]
    split
    · exact emit_prune _
    · rw [prune]
      exact hbelow

/-- The texts of tokens do not depend on what is below them. -/
theorem pieces_prune (before : Option Nat) (ns : List Node) :
    pieces source before (ns.map lex.prune) = pieces source before ns := by
  induction ns generalizing before with
  | nil => rfl
  | cons n ns ih =>
    have htext : (lex.prune n).spanText source = n.spanText source := by
      unfold Node.spanText
      rw [start_prune, stop_prune]
    have hgap : gap before (lex.prune n) = gap before n := by
      unfold gap
      rw [start_prune]
    rw [List.map_cons, pieces_cons, pieces_cons, htext, hgap, stop_prune, ih]

theorem Tidy.excerpt_prune {n : Node} (h : lex.Tidy n) (hn : lex.isComment n = false) :
    lex.excerpt source (lex.prune n) = lex.excerpt source n := by
  unfold excerpt
  rw [leaves_eq_tokens, leaves_eq_tokens, h.tokens_prune hn, pieces_prune]

/-! ## §3. The diagram of a pruned tree. -/

/-- A pruned node looks like the node that it came from. -/
theorem lookalike_prune (lex : Lexicon) (source : Source) :
    Lookalike lex source source fun m n =>
      lex.Tidy n ∧ lex.isComment n = false ∧ m = lex.prune n where
  kind := by
    rintro _ n ⟨_, _, rfl⟩
    exact kind_prune n
  named := by
    rintro _ n ⟨_, _, rfl⟩
    rw [info_prune]
  role := by
    rintro _ n ⟨_, _, rfl⟩
    rw [info_prune]
  silent := by
    rintro _ n ⟨htidy, _, rfl⟩
    refine ⟨fun c hc hcomment => ?_, htidy.silent⟩
    -- there are no comments left that could play a role
    rw [children_prune] at hc
    obtain ⟨d, hd, rfl⟩ := List.mem_map.1 hc
    rw [isComment_prune, (mem_bare.1 hd).2] at hcomment
    cases hcomment
  bare := by
    rintro _ n ⟨htidy, _, rfl⟩
    rw [bare_prune, List.forall₂_map_left_iff, List.forall₂_same]
    intro c hc
    obtain ⟨hchild, hbare⟩ := mem_bare.1 hc
    exact ⟨htidy.child hchild, hbare, rfl⟩
  excerpt := by
    rintro _ n ⟨htidy, hn, rfl⟩
    exact htidy.excerpt_prune hn

end Lexicon

namespace Dialect

/-- Comments never change a diagram: once they are taken out of a tidy tree,
the nodes that no comment contained are still there, in their order and with
all that is known of them, and each has the outcome that it had. -/
theorem run_prune (dialect : Dialect) (hdialect : dialect = rust ∨ dialect = javaScript)
    (source : Source) (root : Node) (htidy : dialect.lexicon.Tidy root) :
    Node.preorders (dialect.lexicon.prunes [root])
        = (dialect.lexicon.outside root).map dialect.lexicon.prune ∧
    ∀ n ∈ dialect.lexicon.outside root,
      (dialect.lexicon.prune n).info = n.info ∧
      ∀ mode, dialect.run source mode (dialect.lexicon.prune n) = dialect.run source mode n := by
  refine ⟨?_, fun n hn => ⟨Lexicon.info_prune n, fun mode => ?_⟩⟩
  · rw [Lexicon.preorders_prunes fun _ _ => Lexicon.preorder_prune, Lexicon.outsides,
      Lexicon.outsides, List.append_nil]
  obtain ⟨hbare, hmem⟩ := Lexicon.mem_outside hn
  exact run_lookalike hdialect (dialect.lexicon.lookalike_prune source)
    ⟨htidy.of_mem hmem, hbare, rfl⟩ mode

/-- The condition of `fn f(){if a/*x*/.b{c}}`. -/
def remarkedMember : Node :=
  .sound "field_expression" 10 18 (some .condition)
    [.sound "identifier" 10 11 none [],
     .sound "block_comment" 11 16 none [],
     .token "." 16 17,
     .sound "field_identifier" 17 18 none []]

/-- The function of `fn f(){if a/*x*/.b{c}}`. -/
def remarkedFunction : Node :=
  .sound "function_item" 0 22 none
    [.sound "identifier" 3 4 (some .name) [],
     .sound "block" 6 22 (some .body)
      [.sound "expression_statement" 7 21 none
        [.sound "if_expression" 7 21 none
          [remarkedMember,
           .sound "block" 18 21 (some .consequence)
            [.sound "identifier" 19 20 none []]]]]]

/-- A function with a remark in its condition has the outcome of the function
without it, and there the condition reads `a .b`. -/
theorem run_prune_remarkedFunction :
    rust.lexicon.Tidy remarkedFunction ∧
    (rust.lexicon.prune remarkedFunction).size < remarkedFunction.size ∧
    rust.run (Text.utf8 "fn f()\x7bif a/*x*/.b\x7bc\x7d\x7d") .function
        (rust.lexicon.prune remarkedFunction)
      = rust.run (Text.utf8 "fn f()\x7bif a/*x*/.b\x7bc\x7d\x7d") .function remarkedFunction ∧
    rust.run (Text.utf8 "fn f()\x7bif a/*x*/.b\x7bc\x7d\x7d") .expression
        (rust.lexicon.prune remarkedMember)
      = .ok (.command "a .b") := by
  have htidy : rust.lexicon.Tidy remarkedFunction := ⟨by decide +kernel, by decide +kernel⟩
  have hself : remarkedFunction ∈ rust.lexicon.outside remarkedFunction := .head _
  have hmember : remarkedMember ∈ rust.lexicon.outside remarkedFunction :=
    .tail _ (.tail _ (.tail _ (.tail _ (.tail _ (.head _)))))
  have hsame := (run_prune rust (.inl rfl) (Text.utf8 "fn f()\x7bif a/*x*/.b\x7bc\x7d\x7d")
    remarkedFunction htidy).2
  refine ⟨htidy, by decide +kernel, (hsame _ hself).2 .function, ?_⟩
  have htext : Rust.text (Text.utf8 "fn f()\x7bif a/*x*/.b\x7bc\x7d\x7d") remarkedMember
      = "a .b" := by
    decide +kernel
  rw [(hsame _ hmember).2 .expression, run_eq_lower, ← htext]
  exact lower_finished rfl

end Dialect

end AnalysisDiagram
