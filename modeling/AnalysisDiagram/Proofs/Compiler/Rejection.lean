/-
  AnalysisDiagram.Proofs.Compiler.Rejection
  ─────────────────────────────────────────
  Which sources are rejected for a fault, and which fault is told.

      Node.Consistent       — a node is flagged exactly if there is a fault in
                              its tree
      searchFault_eq_find?  — below flagged nodes alone, the search finds the
                              first fault of all nodes
      Node.Nested           — spans lie in each other like the nodes do, and
                              those of siblings do not overlap
      parse_faulty_iff      — a text is rejected exactly if its tree has a
                              fault, and the one told is the first: in the
                              order of the tree, and in a nested tree also in
                              the order of the bytes

  What is on the stack of the search stands for whole trees.  Leaving out the
  trees without a flag leaves out no fault, so the first fault of what is on
  the stack stays the same from one turn to the next.
-/
import AnalysisDiagram.Proofs.Compiler.Output
import AnalysisDiagram.Proofs.Tree.Tokens

namespace AnalysisDiagram

namespace Node

/-! ## §1. The search goes through all faults. -/

/-- Flags tell the truth: a node is flagged exactly if it or a node below it is
a fault. -/
def Consistent (root : Node) : Prop :=
  ∀ n ∈ root.preorder, n.info.faulty = true ↔ ∃ m ∈ n.preorder, m.isFault = true

instance (root : Node) : Decidable root.Consistent :=
  inferInstanceAs (Decidable (∀ n ∈ root.preorder,
    n.info.faulty = true ↔ ∃ m ∈ n.preorder, m.isFault = true))

theorem Consistent.child {c n : Node} (h : n.Consistent) (hc : c ∈ n.children) :
    c.Consistent := by
  intro m hm
  exact h m (mem_preorder_of_child hc hm)

theorem Consistent.faulty_iff {n : Node} (h : n.Consistent) :
    n.info.faulty = true ↔ ∃ m ∈ n.preorder, m.isFault = true :=
  h n n.mem_preorder_self

/-- There is nothing to be found in a tree that is not suspected. -/
theorem Consistent.find?_eq_none {n : Node} (h : n.Consistent)
    (hn : ¬ (n.info.faulty || n.info.missing) = true) : n.preorder.find? isFault = none := by
  rw [List.find?_eq_none]
  intro m hm hfault
  have hflag : n.info.faulty = true := h.faulty_iff.2 ⟨m, hm, hfault⟩
  exact hn (by simp [hflag])

theorem preorders_append (ms ns : List Node) :
    preorders (ms ++ ns) = preorders ms ++ preorders ns := by
  induction ms with
  | nil => simp [preorders]
  | cons m ms ih => simp [preorders, ih]

/-- The first fault below some nodes is below those of them that are suspected. -/
theorem find?_preorders_filter {ns : List Node} (h : ∀ n ∈ ns, n.Consistent) :
    (preorders (ns.filter fun c => c.info.faulty || c.info.missing)).find? isFault
      = (preorders ns).find? isFault := by
  induction ns with
  | nil => rfl
  | cons n ns ih =>
    have hn := h n List.mem_cons_self
    have ih := ih fun m hm => h m (List.mem_cons_of_mem n hm)
    by_cases hsuspect : (n.info.faulty || n.info.missing) = true
    · rw [List.filter_cons, if_pos hsuspect, preorders, preorders, List.find?_append,
        List.find?_append, ih]
    · -- the tree is left out, and no fault with it
      rw [List.filter_cons, if_neg hsuspect, preorders, List.find?_append,
        hn.find?_eq_none hsuspect, ih]
      rfl

/-- The search finds the first fault of all trees on its stack, if there is
one. -/
theorem searchFault_eq_find? {stack : List Node} (h : ∀ n ∈ stack, n.Consistent) :
    searchFault stack = (preorders stack).find? isFault := by
  -- along the turns of the search; the trees on the stack keep their first fault
  induction stack using searchFault.induct with
  | case1 => rw [searchFault, preorders, List.find?_nil]
  | case2 n stack hfault =>
    rw [searchFault, if_pos hfault, preorders, preorder_eq, List.cons_append,
      List.find?_cons_of_pos hfault]
  | case3 n stack hfault ih =>
    have hn : n.Consistent := h n List.mem_cons_self
    have hbelow : ∀ c ∈ n.children, c.Consistent := by
      intro c hc
      exact hn.child hc
    have hnext : ∀ m ∈ n.suspects ++ stack, m.Consistent := by
      intro m hm
      rcases List.mem_append.1 hm with hm | hm
      · exact hbelow m (List.mem_filter.1 hm).1
      · exact h m (List.mem_cons_of_mem n hm)
    calc searchFault (n :: stack)
        = searchFault (n.suspects ++ stack) := by rw [searchFault, if_neg hfault]
      _ = (preorders (n.suspects ++ stack)).find? isFault := ih hnext
      _ = ((preorders n.children).find? isFault).or ((preorders stack).find? isFault) := by
          unfold suspects
          rw [preorders_append, List.find?_append, find?_preorders_filter hbelow]
      _ = (preorders (n :: stack)).find? isFault := by
          rw [preorders, preorder_eq, List.cons_append, List.find?_cons_of_neg hfault,
            List.find?_append]

/-- From the root, the search finds the first fault of the tree. -/
theorem Consistent.searchFault_eq {root : Node} (h : root.Consistent) :
    searchFault [root] = root.preorder.find? isFault := by
  rw [searchFault_eq_find? (List.forall_mem_singleton.2 h), preorders, preorders, List.append_nil]

/-- If there is a fault, the root never stands in: what is found is a fault, and
the first one of the tree. -/
theorem Consistent.find?_eq_firstFault {root : Node} (h : root.Consistent)
    (hfault : ∃ m ∈ root.preorder, m.isFault = true) :
    root.preorder.find? isFault = some root.firstFault := by
  obtain ⟨first, hfirst⟩ := Option.isSome_iff_exists.1 (List.find?_isSome.2 hfault)
  unfold firstFault
  rw [h.searchFault_eq, hfirst]
  rfl

/-! ## §2. The order of the bytes. -/

/-- Every node lies in the span of its parent, and of two siblings the first
ends before the second starts. -/
structure Nested (root : Node) : Prop where
  inside : ∀ n ∈ root.preorder, ∀ c ∈ n.children,
    n.start ≤ c.start ∧ c.start ≤ c.stop ∧ c.stop ≤ n.stop
  apart : ∀ n ∈ root.preorder, n.children.Pairwise fun a b => a.stop ≤ b.start

theorem Nested.child {c n : Node} (h : n.Nested) (hc : c ∈ n.children) : c.Nested where
  inside m hm := h.inside m (mem_preorder_of_child hc hm)
  apart m hm := h.apart m (mem_preorder_of_child hc hm)

/-- All nodes of a nested tree lie in the span of its root. -/
theorem Nested.within {n : Node} (h : n.Nested) (hn : n.start ≤ n.stop) {m : Node}
    (hm : m ∈ n.preorder) : n.start ≤ m.start ∧ m.start ≤ m.stop ∧ m.stop ≤ n.stop := by
  induction n using Node.induction with
  | mk info children ih =>
    rw [preorder] at hm
    rcases List.mem_cons.1 hm with rfl | hm
    · exact ⟨Nat.le_refl _, hn, Nat.le_refl _⟩
    · obtain ⟨c, hc, hm⟩ := mem_preorders.1 hm
      have hchild := h.inside _ (mem_preorder_self _) c hc
      have hbelow := ih c hc (h.child hc) hchild.2.1 hm
      omega

/-- Trees that follow each other without overlap have all their nodes in the
order of their first bytes, if each of them does. -/
theorem pairwise_start_preorders {ns : List Node}
    (hspans : ∀ n ∈ ns, ∀ m ∈ n.preorder, n.start ≤ m.start ∧ m.start ≤ n.stop)
    (hapart : ns.Pairwise fun a b => a.stop ≤ b.start)
    (heach : ∀ n ∈ ns, n.preorder.Pairwise fun a b => a.start ≤ b.start) :
    (preorders ns).Pairwise fun a b => a.start ≤ b.start := by
  induction ns with
  | nil => exact .nil
  | cons n ns ih =>
    obtain ⟨hfirst, hrest⟩ := List.pairwise_cons.1 hapart
    have htail := ih (fun m hm => hspans m (List.mem_cons_of_mem n hm)) hrest
      fun m hm => heach m (List.mem_cons_of_mem n hm)
    rw [preorders, List.pairwise_append]
    refine ⟨heach n List.mem_cons_self, htail, ?_⟩
    intro a ha b hb
    obtain ⟨m, hm, hb⟩ := mem_preorders.1 hb
    have hspan := (hspans n List.mem_cons_self a ha).2
    have hgap := hfirst m hm
    have hlater := (hspans m (List.mem_cons_of_mem n hm) b hb).1
    omega

/-- In a nested tree the order of the nodes is the order of their first bytes. -/
theorem Nested.pairwise_start {n : Node} (h : n.Nested) :
    n.preorder.Pairwise fun a b => a.start ≤ b.start := by
  induction n using Node.induction with
  | mk info children ih =>
    have hinside := h.inside _ (mem_preorder_self _)
    have hspans : ∀ c ∈ children, ∀ m ∈ c.preorder, c.start ≤ m.start ∧ m.start ≤ c.stop := by
      intro c hc m hm
      have hm := (h.child hc).within (hinside c hc).2.1 hm
      omega
    rw [preorder, List.pairwise_cons]
    constructor
    · intro m hm
      obtain ⟨c, hc, hm⟩ := mem_preorders.1 hm
      exact Nat.le_trans (hinside c hc).1 (hspans c hc m hm).1
    · exact pairwise_start_preorders hspans (h.apart _ (mem_preorder_self _))
        fun c hc => ih c hc (h.child hc)

/-- What is found first in a list comes before all else that could be found. -/
theorem start_le_of_find? {ns : List Node} {first m : Node} {p : Node → Bool}
    (hsorted : ns.Pairwise fun a b => a.start ≤ b.start) (hfirst : ns.find? p = some first)
    (hm : m ∈ ns) (hp : p m = true) : first.start ≤ m.start := by
  obtain ⟨_, before, after, rfl, hbefore⟩ := List.find?_eq_some_iff_append.1 hfirst
  rcases List.mem_append.1 hm with hm | hm
  · have hnot := hbefore m hm
    simp [hp] at hnot
  · rcases List.mem_cons.1 hm with rfl | hm
    · exact Nat.le_refl _
    · exact (List.pairwise_cons.1 (List.pairwise_append.1 hsorted).2.1).1 m hm

end Node

/-! ## §3. Rejected sources. -/

namespace Compiler

/-- What becomes of a text in a language that is found: the parser's verdict
decides. -/
theorem parse_text {depth : Nat} {registry : Registry} {found : Language} {language : Value}
    (hfound : registry.get? language = some found) (s : String) (tree : Node) :
    parse depth registry (.text s) language tree
      = if tree.info.faulty then .error (.faulty (tree.describeFault (Text.utf8 s)))
        else .ok { language := found, source := Text.utf8 s, root := tree } := by
  unfold parse
  rw [hfound]
  rfl

/-- A text in a language that is found is rejected exactly if there is a fault
anywhere in its tree, so that no parsed source has one.  The fault that is
told is the first of all nodes; and if spans are nested, no fault starts
before it. -/
theorem parse_faulty_iff (depth : Nat) (registry : Registry) (found : Language) (language : Value)
    (s : String) (tree : Node) (hfound : registry.get? language = some found)
    (hflags : tree.Consistent) :
    ((∃ refusal, parse depth registry (.text s) language tree = .error refusal) ↔
      ∃ m ∈ tree.preorder, m.isFault = true) ∧
    (∀ payload p, parse depth registry payload language tree = .ok p →
      p.root = tree ∧ ∀ m ∈ p.root.preorder, m.isFault = false) ∧
    (∀ refusal, parse depth registry (.text s) language tree = .error refusal →
      refusal = .faulty (tree.describeFault (Text.utf8 s)) ∧
      Node.searchFault [tree] = some tree.firstFault ∧
      tree.preorder.find? Node.isFault = some tree.firstFault ∧
      (tree.Nested → ∀ m ∈ tree.preorder, m.isFault = true →
        tree.firstFault.start ≤ m.start)) := by
  -- the flag of the root decides, and it speaks for the whole tree
  have hroot := hflags.faulty_iff
  have hrejected : ∀ refusal, parse depth registry (.text s) language tree = .error refusal →
      tree.info.faulty = true ∧ refusal = .faulty (tree.describeFault (Text.utf8 s)) := by
    intro refusal h
    rw [parse_text hfound] at h
    split at h
    · next hflag =>
      cases h
      exact ⟨hflag, rfl⟩
    · cases h
  refine ⟨⟨?_, ?_⟩, ?_, ?_⟩
  · intro h
    obtain ⟨refusal, h⟩ := h
    exact hroot.1 (hrejected refusal h).1
  · intro h
    refine ⟨.faulty (tree.describeFault (Text.utf8 s)), ?_⟩
    rw [parse_text hfound, if_pos (hroot.2 h)]
  · intro payload p h
    obtain ⟨_, _, hsound, rfl⟩ := parse_eq_ok_iff.1 h
    refine ⟨rfl, ?_⟩
    intro m hm
    cases hfault : m.isFault with
    | false => rfl
    | true =>
      rw [hroot.2 ⟨m, hm, hfault⟩] at hsound
      cases hsound
  · intro refusal h
    obtain ⟨hflag, hrefusal⟩ := hrejected refusal h
    have hfirst := hflags.find?_eq_firstFault (hroot.1 hflag)
    refine ⟨hrefusal, ?_, hfirst, ?_⟩
    · rw [hflags.searchFault_eq, hfirst]
    · intro hnested m hm hfault
      exact Node.start_le_of_find? hnested.pairwise_start hfirst hm hfault

/-- The brace that is missing in `fn f(){a )`. -/
def missingBrace : Node := .missingToken "\x7d" 8

/-- The tree of `fn f(){a )`: a brace is missing behind `a`, and the parenthesis
is an error. -/
def unclosedTree : Node :=
  .broken "source_file" 0 10 none
    [.broken "function_item" 0 8 none
      [.sound "identifier" 3 4 (some .name) [],
       .broken "block" 6 8 (some .body)
        [.sound "identifier" 7 8 none [], missingBrace]],
     .broken "ERROR" 9 10 none
      [.token ")" 9 10]]

/-- Of the two faults of an unclosed function the missing brace is told, which is
three levels below the root. -/
theorem parse_faulty_iff_unclosedTree :
    unclosedTree.Consistent ∧ unclosedTree.Nested ∧
    unclosedTree.firstFault = missingBrace ∧
    parse 1000 Registry.standard (.text "fn f()\x7ba )") (.text "rust") unclosedTree
      = .error (.faulty (unclosedTree.describeFault (Text.utf8 "fn f()\x7ba )"))) ∧
    ∀ m ∈ unclosedTree.preorder, m.isFault = true → missingBrace.start ≤ m.start := by
  have hflags : unclosedTree.Consistent := by decide +kernel
  have hnested : unclosedTree.Nested := ⟨by decide +kernel, by decide +kernel⟩
  obtain ⟨hiff, _, hrejected⟩ := parse_faulty_iff 1000 Registry.standard Language.rust
    (.text "rust") "fn f()\x7ba )" unclosedTree rfl hflags
  obtain ⟨refusal, hrefusal⟩ := hiff.2 (by decide +kernel)
  obtain ⟨htold, _, hfirst, hstart⟩ := hrejected refusal hrefusal
  have hbrace : unclosedTree.firstFault = missingBrace := Option.some.inj hfirst.symm
  rw [hbrace] at hstart
  rw [htold] at hrefusal
  exact ⟨hflags, hnested, hbrace, hrefusal, hstart hnested⟩

/-- Two errors in spans that overlap: the second starts at byte 1, before the
first one, which is inside a node that starts before both. -/
def overlappingTree : Node :=
  .broken "source_file" 0 12 none
    [.broken "block" 0 10 none
      [.broken "ERROR" 5 6 none []],
     .broken "ERROR" 1 12 none []]

/-- It is not enough that siblings start one after the other: where they overlap,
a fault may start before the one that is told. -/
theorem firstFault_overlapping :
    overlappingTree.Consistent ∧
    (∀ n ∈ overlappingTree.preorder, ∀ c ∈ n.children,
      n.start ≤ c.start ∧ c.start ≤ c.stop ∧ c.stop ≤ n.stop) ∧
    (∀ n ∈ overlappingTree.preorder, n.children.Pairwise fun a b => a.start ≤ b.start) ∧
    overlappingTree.firstFault.start = 5 ∧
    ∃ m ∈ overlappingTree.preorder, m.isFault = true ∧ m.start = 1 := by
  have hflags : overlappingTree.Consistent := by decide +kernel
  have hfirst := hflags.find?_eq_firstFault (by decide +kernel)
  have hstart : overlappingTree.firstFault.start = 5 := by
    rw [← Option.some.inj hfirst]
    rfl
  exact ⟨hflags, by decide +kernel, by decide +kernel, hstart, by decide +kernel⟩

end Compiler

end AnalysisDiagram
