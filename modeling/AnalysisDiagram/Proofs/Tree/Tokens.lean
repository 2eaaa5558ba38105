/-
  AnalysisDiagram.Proofs.Tree.Tokens
  ──────────────────────────────────
  What of a tree is read when its comments are passed over.

      Lexicon.bare     — the children of a node that are not comments
      Lexicon.outside  — the nodes of a tree that no comment contains
      leaves_eq_tokens — the walk with a stack finds the tokens that recursion
                         on the tree finds

  Everything that lowering asks of a node's children, it asks of the bare
  ones: as long as comments play no role, looking for a child by its role is
  looking for it among these.
-/
import AnalysisDiagram.Dialect.Basic
import Mathlib.Data.List.Basic

namespace AnalysisDiagram

/-! ## §1. Induction on trees. -/

/-- What holds of a node whenever it holds of all its children holds of every
node. -/
theorem Node.induction {P : Node → Prop}
    (mk : ∀ info children, (∀ c ∈ children, P c) → P (.mk info children)) (n : Node) : P n := by
  -- a list of children takes the property of all its members
  apply @Node.rec P (fun children => ∀ c ∈ children, P c) mk
  · intro c hc
    exact absurd hc List.not_mem_nil
  · intro c children hc hchildren
    exact List.forall_mem_cons.2 ⟨hc, hchildren⟩

/-- A tree in pre-order is its root and then the trees below it. -/
theorem Node.preorder_eq (n : Node) : n.preorder = n :: Node.preorders n.children := by
  cases n with
  | mk info children => rw [Node.preorder]; rfl

theorem Node.mem_preorder_self (n : Node) : n ∈ n.preorder := by
  rw [Node.preorder_eq]
  exact List.mem_cons_self

theorem Node.mem_preorders {m : Node} {ns : List Node} :
    m ∈ Node.preorders ns ↔ ∃ n ∈ ns, m ∈ n.preorder := by
  induction ns with
  | nil => simp [Node.preorders]
  | cons n ns ih => rw [Node.preorders, List.mem_append, ih, List.exists_mem_cons_iff]

/-- The nodes below a child are nodes below its parent. -/
theorem Node.mem_preorder_of_child {c m n : Node} (hc : c ∈ n.children) (hm : m ∈ c.preorder) :
    m ∈ n.preorder := by
  rw [Node.preorder_eq]
  exact List.mem_cons_of_mem n (Node.mem_preorders.2 ⟨c, hc, hm⟩)

/-- The nodes below a node of a tree are nodes of the tree. -/
theorem Node.mem_preorder_trans {k m n : Node} (hk : k ∈ m.preorder) (hm : m ∈ n.preorder) :
    k ∈ n.preorder := by
  induction n using Node.induction with
  | mk info children ih =>
    rw [Node.preorder] at hm
    rcases List.mem_cons.1 hm with rfl | hm
    · exact hk
    · obtain ⟨c, hc, hm⟩ := Node.mem_preorders.1 hm
      exact Node.mem_preorder_of_child hc (ih c hc hm)

namespace Lexicon

variable {lex : Lexicon}

/-! ## §2. The walk and the recursion. -/

theorem tokens_eq (lex : Lexicon) (n : Node) :
    lex.tokens n = if lex.isComment n then [] else if lex.isToken n then emit n
      else lex.tokenLists n.children := by
  cases n with
  | mk info children => rw [tokens]; rfl

theorem tokenLists_append (ms ns : List Node) :
    lex.tokenLists (ms ++ ns) = lex.tokenLists ms ++ lex.tokenLists ns := by
  induction ms with
  | nil => simp [tokenLists]
  | cons m ms ih => simp [tokenLists, ih]

/-- The walk finds the tokens of all nodes on its stack, one after the other. -/
theorem walk_eq_tokenLists (stack : List Node) : lex.walk stack = lex.tokenLists stack := by
  induction stack using walk.induct lex with
  | case1 => rw [walk, tokenLists]
  | case2 n stack hcomment ih =>
    rw [walk, if_pos hcomment, tokenLists, tokens_eq, if_pos hcomment, ih]
    rfl
  | case3 n stack hcomment htoken ih =>
    rw [walk, if_neg hcomment, if_pos htoken, tokenLists, tokens_eq, if_neg hcomment,
      if_pos htoken, ih]
  | case4 n stack hcomment htoken ih =>
    rw [walk, if_neg hcomment, if_neg htoken, tokenLists, tokens_eq, if_neg hcomment,
      if_neg htoken, ih, tokenLists_append]

/-- The walk with a stack and the recursion on the tree find the same tokens. -/
theorem leaves_eq_tokens (n : Node) : lex.leaves n = lex.tokens n := by
  unfold leaves
  rw [walk_eq_tokenLists, tokenLists, tokenLists, List.append_nil]

/-- What stands before the text of a token: a space if it did not touch what
came before it. -/
def gap (before : Option Nat) (n : Node) : List String :=
  before.elim [] fun stop => if stop < n.start then [" "] else []

/-- Each token puts its gap and its own text before those of the others. -/
theorem pieces_cons (source : Source) (before : Option Nat) (n : Node) (ns : List Node) :
    pieces source before (n :: ns)
      = gap before n ++ n.spanText source :: pieces source (some n.stop) ns := by
  cases before with
  | none => rfl
  | some stop =>
    show (if stop < n.start then _ else _) = (if stop < n.start then [" "] else []) ++ _
    by_cases h : stop < n.start
    · rw [if_pos h, if_pos h]
      rfl
    · rw [if_neg h, if_neg h]
      rfl

/-! ## §3. Children that are not comments. -/

/-- The children of a node that are not comments. -/
def bare (lex : Lexicon) (n : Node) : List Node := n.children.filter fun c => !lex.isComment c

theorem mem_bare {c n : Node} : c ∈ lex.bare n ↔ c ∈ n.children ∧ lex.isComment c = false := by
  unfold bare
  simp

/-- No comment among the children of a node plays a role in it. -/
def Silent (lex : Lexicon) (n : Node) : Prop :=
  ∀ c ∈ n.children, lex.isComment c = true → c.info.role = none

theorem inner_eq_bare (lex : Lexicon) (n : Node) :
    lex.inner n = (lex.bare n).filter fun c => c.info.named := by
  unfold inner bare Node.namedChildren
  exact List.filter_comm _ _ _

/-- A search that no comment answers may pass over the comments. -/
theorem find?_bare {p : Node → Bool} {ns : List Node}
    (h : ∀ c ∈ ns, lex.isComment c = true → p c = false) :
    (ns.filter fun c => !lex.isComment c).find? p = ns.find? p := by
  induction ns with
  | nil => rfl
  | cons n ns ih =>
    have ih := ih fun c hc => h c (List.mem_cons_of_mem n hc)
    cases hcomment : lex.isComment n with
    | false => simp [hcomment, List.find?_cons, ih]
    | true =>
      have hn := h n List.mem_cons_self hcomment
      simp [hcomment, hn, ih]

/-- If comments play no role, a child with a role is found among the others. -/
theorem Silent.child?_eq_bare {n : Node} (h : lex.Silent n) (role : Role) :
    n.child? role = (lex.bare n).find? fun c => c.info.role == some role := by
  unfold Node.child? bare
  rw [find?_bare]
  intro c hc hcomment
  rw [h c hc hcomment]
  rfl

/-! ## §4. Nodes that no comment contains. -/

mutual

/-- The nodes of a tree that are no comments and that no comment contains,
each before its children. -/
def outside (lex : Lexicon) : Node → List Node
  | .mk info children =>
      if lex.comments.contains info.kind then [] else .mk info children :: outsides lex children

/-- The nodes of several trees that no comment contains. -/
def outsides (lex : Lexicon) : List Node → List Node
  | [] => []
  | n :: rest => outside lex n ++ outsides lex rest

end

theorem outside_of_comment {n : Node} (h : lex.isComment n = true) : lex.outside n = [] := by
  cases n with
  | mk info children =>
    rw [outside]
    exact if_pos h

theorem outside_of_bare {n : Node} (h : lex.isComment n = false) :
    lex.outside n = n :: lex.outsides n.children := by
  cases n with
  | mk info children =>
    have h : ¬ lex.comments.contains info.kind = true := by
      intro h'
      exact absurd (h.symm.trans h') Bool.false_ne_true
    rw [outside, if_neg h]
    rfl

theorem mem_outsides {m : Node} {ns : List Node} :
    m ∈ lex.outsides ns ↔ ∃ n ∈ ns, m ∈ lex.outside n := by
  induction ns with
  | nil => simp [outsides]
  | cons n ns ih => rw [outsides, List.mem_append, ih, List.exists_mem_cons_iff]

/-- A node that no comment contains is not a comment, and is one of the tree. -/
theorem mem_outside {m n : Node} (h : m ∈ lex.outside n) :
    lex.isComment m = false ∧ m ∈ n.preorder := by
  induction n using Node.induction with
  | mk info children ih =>
    cases hcomment : lex.isComment (.mk info children) with
    | true =>
      rw [outside_of_comment hcomment] at h
      cases h
    | false =>
      rw [outside_of_bare hcomment] at h
      rcases List.mem_cons.1 h with rfl | h
      · exact ⟨hcomment, Node.mem_preorder_self _⟩
      · obtain ⟨c, hc, hm⟩ := mem_outsides.1 h
        exact ⟨(ih c hc hm).1, Node.mem_preorder_of_child hc (ih c hc hm).2⟩

end Lexicon

end AnalysisDiagram
