/-
  AnalysisDiagram.Proofs.Lowering.Origins
  ───────────────────────────────────────
  No statement is lost, doubled or moved.

  Every node of a lowered function comes from one row of the function's tree,
  namely from the node that was read to make it:

      Origins        — such rows, in the shape of the diagram
      Traced f d o   — `o` tells for each node of `d` the row of `f` that it
                       comes from, and for each sequence also that its steps
                       are the statements of that row, one by one
      lower_origins  — every lowered function is traced by origins that
                       increase strictly from each node to the next

  A step hands its node on to parts that stand in disjoint stretches of rows,
  one after the other and all below the node.  That is said once for each
  step (`Placed`); the rest is an induction on the diagrams that lowering
  makes.
-/
import AnalysisDiagram.Proofs.Lowering.Completeness
import AnalysisDiagram.Proofs.Lowering.Machine
import AnalysisDiagram.Proofs.Lowering.Shape
import AnalysisDiagram.Proofs.Tree.Rows
import AnalysisDiagram.Proofs.Wire.Drafts

namespace AnalysisDiagram

open AnalysisDiagram.Outcome

/-! ## §1. Diagrams and the rows they come from. -/

namespace Diagram

/-- The diagrams that a node of a diagram contains, in order. -/
def parts : Diagram → List Diagram
  | .sequence children => children
  | .block _ children => children
  | .branch _ t e => t :: e.toList
  | .loop _ body => [body]
  | .command _ => []
  | .error _ => []

theorem preorder_eq (d : Diagram) : d.preorder = d :: preorders d.parts := by
  cases d with
  | sequence children => rw [preorder]; rfl
  | block label children => rw [preorder]; rfl
  | branch condition t e =>
    rw [preorder]
    cases e with
    | none => simp [parts, preorders, preorder?]
    | some e => simp [parts, preorders, preorder?]
  | loop condition body =>
    rw [preorder]
    simp [parts, preorders]
  | command label => rw [preorder]; rfl
  | error message => rw [preorder]; rfl

/-- What holds of a diagram whenever it holds of its parts holds of every
diagram. -/
theorem parts_induction {P : Diagram → Prop} (ih : ∀ d, (∀ p ∈ d.parts, P p) → P d)
    (d : Diagram) : P d := by
  induction d using Diagram.induction with
  | sequence children h => exact ih _ h
  | block label children h => exact ih _ h
  | branch condition t e ht he =>
    refine ih _ (List.forall_mem_cons.2 ⟨ht, fun d hd => ?_⟩)
    exact he d (Option.mem_toList.1 hd)
  | loop condition body h => exact ih _ (List.forall_mem_singleton.2 h)
  | command label => exact ih _ fun d hd => absurd hd List.not_mem_nil
  | error message => exact ih _ fun d hd => absurd hd List.not_mem_nil

end Diagram

/-- A filled frame contains what it was filled with, and is a sequence only if
the frame was one. -/
theorem Frame.parts_of_fill {frame : Frame} {ds : List Diagram} {d : Diagram}
    (h : frame.fill ds = .ok d) :
    d.parts = ds ∧ (d.isSequence = true → frame = .sequence) := by
  rcases Frame.fill_cases h with ⟨rfl, rfl⟩ | ⟨_, rfl, rfl⟩ | ⟨_, t, rfl, rfl, rfl⟩
    | ⟨_, t, e, rfl, rfl, rfl⟩ | ⟨_, body, rfl, rfl, rfl⟩
  · exact ⟨rfl, fun _ => rfl⟩
  · exact ⟨rfl, fun h => absurd h Bool.false_ne_true⟩
  · exact ⟨rfl, fun h => absurd h Bool.false_ne_true⟩
  · exact ⟨rfl, fun h => absurd h Bool.false_ne_true⟩
  · exact ⟨rfl, fun h => absurd h Bool.false_ne_true⟩

/-- The row that each node of a diagram comes from, in the diagram's shape. -/
inductive Origins where
  | mk (row : Nat) (below : List Origins)

namespace Origins

/-- The row of the node at the top. -/
def row : Origins → Nat
  | .mk row _ => row

mutual

/-- The rows of all nodes, each before those of what the node contains. -/
def preorder : Origins → List Nat
  | .mk row below => row :: preorders below

/-- The rows of several diagrams, one after the other. -/
def preorders : List Origins → List Nat
  | [] => []
  | o :: rest => preorder o ++ preorders rest

end

theorem row_mem_preorder (o : Origins) : o.row ∈ o.preorder := by
  cases o with
  | mk row below =>
    rw [preorder]
    exact List.mem_cons_self

end Origins

/-- The statements of a node at row `r`, each with its row. -/
def statementRows (isStatement : Node → Bool) (r : Nat) (n : Node) : List (Nat × Node) :=
  (Node.rowsBelow r n).filter fun s => isStatement s.2 && s.2.info.named

section Traced

variable (builds : Node → Diagram → Prop) (isStatement : Node → Bool) (f : Node)

/-- Each node of a diagram was built from the node of `f` at its row, and what
it contains comes from below that row.  The steps of a sequence come, one by
one and in order, from the statements there. -/
inductive Traced : Diagram → Origins → Prop
  | mk {d : Diagram} {row : Nat} {n : Node} {below : List Origins}
      (hrow : f.preorder[row]? = some n)
      (hbuilt : builds n d)
      (hinside : ∀ o ∈ below, row < o.row ∧ o.row < row + n.size)
      (hstatements : d.isSequence = true →
        List.Forall₂ (fun s o => s.1 ≤ o.row ∧ o.row < s.1 + s.2.size)
          (statementRows isStatement row n) below)
      (hparts : List.Forall₂ Traced d.parts below) : Traced d (.mk row below)

end Traced

section Listing

variable {builds : Node → Diagram → Prop} {isStatement : Node → Bool} {f : Node}

theorem listed_preorders {ds : List Diagram} {os : List Origins} {R : Diagram → Nat → Prop}
    (h : List.Forall₂ (fun d o => List.Forall₂ R d.preorder o.preorder) ds os) :
    List.Forall₂ R (Diagram.preorders ds) (Origins.preorders os) := by
  induction h with
  | nil => exact .nil
  | cons hdo _ ih =>
    rw [Diagram.preorders, Origins.preorders]
    exact List.rel_append hdo ih

/-- Listed in order, the nodes of a traced diagram are built from the nodes at
the rows of its origins. -/
theorem Traced.listed {d : Diagram} {o : Origins} (h : Traced builds isStatement f d o) :
    List.Forall₂ (fun x r => ∃ n, f.preorder[r]? = some n ∧ builds n x) d.preorder o.preorder := by
  induction d using Diagram.parts_induction generalizing o with
  | ih d hd =>
    cases h with
    | @mk _ row n below hrow hbuilt hinside hstatements hparts =>
      rw [Diagram.preorder_eq, Origins.preorder]
      refine .cons ⟨n, hrow, hbuilt⟩ (listed_preorders ?_)
      have hzip := List.forall₂_iff_zip.1 hparts
      exact List.forall₂_iff_zip.2
        ⟨hzip.1, fun hpo => hd _ (List.of_mem_zip hpo).1 (hzip.2 hpo)⟩

end Listing

/-! ## §2. Rows in order. -/

namespace Origins

/-- All rows stand in the stretch of a node, and they increase. -/
structure Sorted (s : Nat × Node) (o : Origins) : Prop where
  inside : ∀ x ∈ o.preorder, s.1 ≤ x ∧ x < s.1 + s.2.size
  increasing : o.preorder.Pairwise (· < ·)

theorem Sorted.row {s : Nat × Node} {o : Origins} (h : Sorted s o) :
    s.1 ≤ o.row ∧ o.row < s.1 + s.2.size :=
  h.inside o.row o.row_mem_preorder

theorem exists_of_mem_preorders {rs : List (Nat × Node)} {os : List Origins}
    (h : List.Forall₂ Sorted rs os) {x : Nat} (hx : x ∈ preorders os) :
    ∃ s ∈ rs, s.1 ≤ x ∧ x < s.1 + s.2.size := by
  induction h with
  | nil => cases hx
  | @cons s o rs os hso _ ih =>
    rw [preorders] at hx
    rcases List.mem_append.1 hx with hx | hx
    · exact ⟨s, List.mem_cons_self, hso.inside x hx⟩
    · obtain ⟨t, ht, hxt⟩ := ih hx
      exact ⟨t, List.mem_cons_of_mem s ht, hxt⟩

/-- Rows in stretches that follow each other increase throughout. -/
theorem pairwise_preorders {rs : List (Nat × Node)} {os : List Origins}
    (h : List.Forall₂ Sorted rs os)
    (hordered : rs.Pairwise fun s t => s.1 + s.2.size ≤ t.1) :
    (preorders os).Pairwise (· < ·) := by
  induction h with
  | nil => exact .nil
  | @cons s o rs os hso htail ih =>
    obtain ⟨hhead, hrest⟩ := List.pairwise_cons.1 hordered
    rw [preorders]
    refine List.pairwise_append.2 ⟨hso.increasing, ih hrest, fun x hx y hy => ?_⟩
    obtain ⟨t, ht, hty⟩ := exists_of_mem_preorders htail hy
    have hxs := hso.inside x hx
    have hst := hhead t ht
    omega

end Origins

/-! ## §3. Where the parts of a step are. -/

/-- The parts of a step at row `r` stand in stretches of rows that follow each
other below `m`, and those of a sequence are the statements of `m`. -/
structure Placed (isStatement : Node → Bool) (f : Node) (r : Nat) (m : Node) (frame : Frame)
    (parts : List Part) (rs : List (Nat × Node)) : Prop where
  nodes : List.Forall₂ (fun p s => p.node = some s.2) parts rs
  rows : ∀ s ∈ rs, f.At s.1 s.2
  inside : ∀ s ∈ rs, r < s.1 ∧ s.1 + s.2.size ≤ r + m.size
  ordered : rs.Pairwise fun s t => s.1 + s.2.size ≤ t.1
  statements : frame = .sequence → rs = statementRows isStatement r m

/-- What is done first in a choice comes before what is done otherwise. -/
def Node.Ordered (n : Node) : Prop :=
  ∀ i ∈ n.place? .consequence, ∀ j ∈ n.place? .alternative, i < j

instance (n : Node) : Decidable n.Ordered :=
  inferInstanceAs (Decidable (∀ i ∈ n.place? .consequence, ∀ j ∈ n.place? .alternative, i < j))

namespace Dialect

section Steps

variable {dialect : Dialect} {source : Source} {builds : Node → Diagram → Prop}
  {isStatement : Node → Bool} {f : Node}

/-- The origins of the parts, once each part has some. -/
theorem exists_origins_of_parts {parts : List Part} {ds : List Diagram} {rs : List (Nat × Node)}
    (hds : List.Forall₂ (fun p d => ∀ s : Nat × Node, p.node = some s.2 → f.At s.1 s.2 →
      ∃ o, Traced builds isStatement f d o ∧ Origins.Sorted s o) parts ds)
    (hrs : List.Forall₂ (fun p s => p.node = some s.2) parts rs)
    (hrows : ∀ s ∈ rs, f.At s.1 s.2) :
    ∃ os, List.Forall₂ (Traced builds isStatement f) ds os ∧ List.Forall₂ Origins.Sorted rs os := by
  induction hds generalizing rs with
  | nil =>
    cases hrs
    exact ⟨[], .nil, .nil⟩
  | cons hd _ ih =>
    cases hrs with
    | @cons _ s _ rs hs hrs =>
      obtain ⟨o, hdo, hso⟩ := hd s hs (hrows s List.mem_cons_self)
      obtain ⟨os, hdos, hsos⟩ := ih hrs fun t ht => hrows t (List.mem_cons_of_mem s ht)
      exact ⟨o :: os, .cons hdo hdos, .cons hso hsos⟩

/-- If every diagram is built from a node that places its parts, all that is
lowered from `f` can be traced. -/
theorem exists_origins
    (hfinished : ∀ {mode n d}, dialect.step source mode n = .ok (.finished d) →
      d.parts = [] ∧ d.isSequence = false)
    (hplaced : ∀ {mode n d k}, f.At k n → dialect.lower source mode n = .ok d →
      ∃ r m, f.At r m ∧ k ≤ r ∧ r + m.size ≤ k + n.size ∧ builds m d ∧
        ∀ frame parts, dialect.step source mode n = .ok (.framed frame parts) →
          (∀ p ∈ parts, ∃ c, p.node = some c) → ∃ rs, Placed isStatement f r m frame parts rs)
    {mode : Mode} {n : Node} {d : Diagram} {k : Nat} (hat : f.At k n)
    (h : dialect.lower source mode n = .ok d) :
    ∃ o, Traced builds isStatement f d o ∧ Origins.Sorted (k, n) o := by
  -- by the steps that made the diagram; the row of the node is free in the induction
  refine lower_induction (P := fun mode n d => dialect.lower source mode n = .ok d →
    ∀ k, f.At k n → ∃ o, Traced builds isStatement f d o ∧ Origins.Sorted (k, n) o)
    (fun mode n d hstep h k hat => ?_)
    (fun mode n frame parts ds d hstep hparts hfill h k hat => ?_) h h k hat
  · obtain ⟨r, m, hm, hkr, hrm, hbuilt, _⟩ := hplaced hat h
    obtain ⟨hnone, hseq⟩ := hfinished hstep
    have hpos := m.size_pos
    refine ⟨.mk r [], .mk hm.getElem?_eq hbuilt (fun o ho => ?_) (fun h => ?_) ?_,
      ⟨fun x hx => ?_, ?_⟩⟩
    · cases ho
    · rw [hseq] at h
      cases h
    · rw [hnone]
      exact .nil
    · cases List.mem_singleton.1 hx
      show k ≤ r ∧ r < k + n.size
      omega
    · exact List.pairwise_singleton _ r
  · obtain ⟨r, m, hm, hkr, hrm, hbuilt, hrs⟩ := hplaced hat h
    have hnodes : ∀ p ∈ parts, ∃ c, p.node = some c := by
      intro p hp
      obtain ⟨d', _, c, hc, _⟩ := exists_mem_of_forall₂ hparts.flip hp
      exact ⟨c, hc⟩
    obtain ⟨rs, hrs⟩ := hrs frame parts hstep hnodes
    have hds : List.Forall₂ (fun p d => ∀ s : Nat × Node, p.node = some s.2 → f.At s.1 s.2 →
        ∃ o, Traced builds isStatement f d o ∧ Origins.Sorted s o) parts ds := by
      refine hparts.imp fun p d' hp s hs hsat => ?_
      obtain ⟨c, hc, hlow, ih⟩ := hp
      rw [hc] at hs
      cases hs
      exact ih hlow s.1 hsat
    obtain ⟨os, hdos, hsos⟩ := exists_origins_of_parts hds hrs.nodes hrs.rows
    obtain ⟨hparts_eq, hseq⟩ := Frame.parts_of_fill hfill
    have hpos := m.size_pos
    refine ⟨.mk r os, .mk hm.getElem?_eq hbuilt (fun o ho => ?_) (fun h => ?_) ?_,
      ⟨fun x hx => ?_, ?_⟩⟩
    · obtain ⟨s, hs, hso⟩ := exists_mem_of_forall₂ hsos ho
      have hin := hrs.inside s hs
      have hrow := hso.row
      omega
    · rw [← hrs.statements (hseq h)]
      exact hsos.imp fun _ _ hso => hso.row
    · rw [hparts_eq]
      exact hdos
    · show k ≤ x ∧ x < k + n.size
      rw [Origins.preorder] at hx
      rcases List.mem_cons.1 hx with rfl | hx
      · omega
      · obtain ⟨s, hs, hxs⟩ := Origins.exists_of_mem_preorders hsos hx
        have hin := hrs.inside s hs
        omega
    · rw [Origins.preorder]
      refine .cons (fun x hx => ?_) (Origins.pairwise_preorders hsos hrs.ordered)
      obtain ⟨s, hs, hxs⟩ := Origins.exists_of_mem_preorders hsos hx
      have hin := hrs.inside s hs
      omega

/-! ## §4. Parts that both dialects ask for. -/

variable {r : Nat} {m : Node}

/-- A sequence asks for all statements of its node. -/
theorem placed_statements (hm : f.At r m) (mode : Mode) :
    Placed isStatement f r m .sequence
      ((m.namedChildren.filter isStatement).map fun c => ⟨mode, some c⟩)
      (statementRows isStatement r m) where
  nodes := by
    have hnodes : m.namedChildren.filter isStatement
        = (statementRows isStatement r m).map Prod.snd := by
      unfold Node.namedChildren statementRows Node.rowsBelow
      rw [List.filter_filter]
      nth_rewrite 1 [← Node.map_snd_rowsFrom (r + 1) m.children]
      rw [List.filter_map]
      rfl
    rw [hnodes, List.map_map, List.forall₂_map_left_iff, List.forall₂_same]
    intro s _
    rfl
  rows s hs := hm.below (List.mem_filter.1 hs).1
  inside s hs := Node.rowsBelow_inside (List.mem_filter.1 hs).1
  ordered := (Node.pairwise_rowsFrom (r + 1) m.children).filter _
  statements _ := rfl

/-- A single child stands below its parent. -/
theorem exists_placed_child (hm : f.At r m) {frame : Frame} (hframe : frame ≠ .sequence)
    {mode : Mode} {role : Role} {c : Node} (hc : m.child? role = some c) :
    ∃ rs, Placed isStatement f r m frame [⟨mode, m.child? role⟩] rs := by
  obtain ⟨i, s, _, hs, rfl⟩ := Node.exists_row_of_child? r hc
  have hmem := List.mem_of_getElem? hs
  exact ⟨[s], {
    nodes := .cons hc .nil
    rows := List.forall_mem_singleton.2 (hm.below hmem)
    inside := List.forall_mem_singleton.2 (Node.rowsBelow_inside hmem)
    ordered := List.pairwise_singleton _ s
    statements := fun h => absurd h hframe }⟩

/-- The two arms of a choice stand one after the other. -/
theorem exists_placed_branch (hm : f.At r m) (hordered : m.Ordered) {lex : Lexicon}
    {condition : String} {thenMode elseMode : Mode} {c : Node}
    (hc : m.child? .consequence = some c) :
    ∃ rs, Placed isStatement f r m (.branch condition)
      (branchParts lex thenMode elseMode m) rs := by
  have hframe : Frame.branch condition ≠ .sequence := by
    intro h
    cases h
  unfold branchParts
  cases harm : lex.elseArm? m with
  | none => exact exists_placed_child hm hframe hc
  | some arm =>
    obtain ⟨i, s, hi, hs, hsc⟩ := Node.exists_row_of_child? r hc
    obtain ⟨alternative, halt, hhead⟩ := Option.bind_eq_some_iff.1 harm
    obtain ⟨j, t, hj, ht, rfl⟩ := Node.exists_row_of_child? r halt
    -- the `else` begins inside the alternative, which begins behind the consequence
    have hchild := lex.mem_children_of_mem_inner (List.mem_of_mem_head? hhead)
    obtain ⟨u, hu, rfl⟩ := Node.exists_rowsBelow t.1 hchild
    have hsmem := List.mem_of_getElem? hs
    have htmem := List.mem_of_getElem? ht
    have hst := Node.rowsBelow_of_lt hs ht (hordered i hi j hj)
    have hsin := Node.rowsBelow_inside hsmem
    have htin := Node.rowsBelow_inside htmem
    have huin := Node.rowsBelow_inside hu
    refine ⟨[s, u], {
      nodes := .cons (by rw [hc, hsc]) (.cons rfl .nil)
      rows := List.forall_mem_cons.2 ⟨hm.below hsmem,
        List.forall_mem_singleton.2 ((hm.below htmem).below hu)⟩
      inside := List.forall_mem_cons.2 ⟨hsin, List.forall_mem_singleton.2 ⟨by omega, by omega⟩⟩
      ordered := .cons (List.forall_mem_singleton.2 (by omega)) (List.pairwise_singleton _ u)
      statements := fun h => absurd h hframe }⟩

end Steps

variable {source : Source} {f m : Node} {r : Nat}

/-! ## §5. Rust. -/

namespace Rust

/-- Whether a node in a block is a statement. -/
def isStatement (c : Node) : Bool := !notStatements.contains c.kind

/-- A diagram is built from a node if it is what the node is read as.  A
statement that holds an expression is not read itself: the expression is. -/
def Builds (source : Source) (n : Node) (d : Diagram) : Prop :=
  ∃ mode, rust.run source mode n = .ok d ∧ (mode = .statement → ∀ e, ¬ Holds n e)

theorem parts_of_finished {mode : Mode} {n : Node} {d : Diagram}
    (h : step source mode n = .ok (.finished d)) : d.parts = [] ∧ d.isSequence = false := by
  -- only commands are finished, in whatever mode
  have hexpression : ∀ e, expressionStep source e = .ok (.finished d) →
      d.parts = [] ∧ d.isSequence = false := by
    intro e he
    rcases expressionStep_cases he with ⟨_, _, _, h⟩ | ⟨_, _, _, h⟩ | ⟨_, _, _, _, _, h⟩ | ⟨_, h⟩
      | ⟨_, h⟩
    · cases h
    · cases h
    · cases h
    · cases h
    · cases h
      exact ⟨rfl, rfl⟩
  cases mode with
  | function =>
    obtain ⟨c, _, h⟩ := functionStep_cases h
    cases h
  | block => cases h
  | expression => exact hexpression n h
  | statement =>
    have h : statementStep source n = .ok (.finished d) := h
    rcases statementStep_cases source n with ⟨e, _, he⟩ | ⟨_, label, hlabel⟩
    · rw [he] at h
      exact hexpression e h
    · rw [hlabel] at h
      cases h
      exact ⟨rfl, rfl⟩

/-- The expression that a statement holds stands in the rows of the statement. -/
theorem Holds.exists_row {k : Nat} {n e : Node} (hat : f.At k n) (h : Holds n e) :
    ∃ r, f.At r e ∧ k ≤ r ∧ r + e.size ≤ k + n.size := by
  cases h with
  | bare => exact ⟨k, hat, Nat.le_refl k, Nat.le_refl _⟩
  | wrapped _ hfirst _ =>
    have hchild := lexicon.mem_children_of_mem_inner (List.mem_of_mem_head? hfirst)
    obtain ⟨s, hs, rfl⟩ := Node.exists_rowsBelow k hchild
    have hin := Node.rowsBelow_inside hs
    exact ⟨s.1, hat.below hs, by omega, hin.2⟩

theorem exists_placed_expression (hm : f.At r m) (hordered : m.kind = "if_expression" → m.Ordered)
    {frame : Frame} {parts : List Part} (h : expressionStep source m = .ok (.framed frame parts))
    (hnodes : ∀ p ∈ parts, ∃ c, p.node = some c) :
    ∃ rs, Placed isStatement f r m frame parts rs := by
  rcases expressionStep_cases h with ⟨hkind, _, _, hs⟩ | ⟨_, _, _, hs⟩ | ⟨_, _, _, _, _, hs⟩
    | ⟨_, hs⟩ | ⟨_, hs⟩
  · cases hs
    obtain ⟨c, hc⟩ := hnodes _ List.mem_cons_self
    exact exists_placed_branch hm (hordered hkind) hc
  · cases hs
    obtain ⟨c, hc⟩ := hnodes _ List.mem_cons_self
    exact exists_placed_child hm (fun h => by cases h) hc
  · cases hs
    obtain ⟨c, hc⟩ := hnodes _ List.mem_cons_self
    exact exists_placed_child hm (fun h => by cases h) hc
  · cases hs
    exact ⟨_, placed_statements hm .statement⟩
  · cases hs

/-- Every diagram is built from a node in the rows of the one that was lowered,
and that node places its parts. -/
theorem exists_builder (hordered : ∀ m ∈ f.preorder, m.kind = "if_expression" → m.Ordered)
    {mode : Mode} {n : Node} {d : Diagram} {k : Nat} (hat : f.At k n)
    (h : rust.lower source mode n = .ok d) :
    ∃ r m, f.At r m ∧ k ≤ r ∧ r + m.size ≤ k + n.size ∧ Builds source m d ∧
      ∀ frame parts, rust.step source mode n = .ok (.framed frame parts) →
        (∀ p ∈ parts, ∃ c, p.node = some c) → ∃ rs, Placed isStatement f r m frame parts rs := by
  have hrun : rust.run source mode n = .ok d := by rw [run_eq_lower, h]
  cases mode with
  | function =>
    refine ⟨k, n, hat, Nat.le_refl k, Nat.le_refl _, ⟨_, hrun, fun h => by cases h⟩, ?_⟩
    intro frame parts hstep hnodes
    obtain ⟨_, _, hs⟩ := functionStep_cases hstep
    cases hs
    obtain ⟨c, hc⟩ := hnodes _ List.mem_cons_self
    exact exists_placed_child hat (fun h => by cases h) hc
  | block =>
    refine ⟨k, n, hat, Nat.le_refl k, Nat.le_refl _, ⟨_, hrun, fun h => by cases h⟩, ?_⟩
    intro frame parts hstep _
    cases hstep
    exact ⟨_, placed_statements hat .statement⟩
  | expression =>
    refine ⟨k, n, hat, Nat.le_refl k, Nat.le_refl _, ⟨_, hrun, fun h => by cases h⟩, ?_⟩
    intro frame parts hstep hnodes
    exact exists_placed_expression hat (hordered n hat.mem) hstep hnodes
  | statement =>
    rcases statementStep_cases source n with ⟨e, he, hsame⟩ | ⟨hnone, label, hlabel⟩
    · -- the expression builds what the statement becomes
      obtain ⟨r, hr, hkr, hrn⟩ := he.exists_row hat
      have hrun' : rust.run source .expression e = .ok d := by
        rw [run_eq_lower, ← lower_of_holds he, h]
      refine ⟨r, e, hr, hkr, hrn, ⟨_, hrun', fun h => by cases h⟩, ?_⟩
      intro frame parts hstep hnodes
      exact exists_placed_expression hr (hordered e hr.mem) (hsame.symm.trans hstep) hnodes
    · refine ⟨k, n, hat, Nat.le_refl k, Nat.le_refl _, ⟨_, hrun, fun _ => hnone⟩, ?_⟩
      intro frame parts hstep _
      cases hlabel.symm.trans hstep

end Rust

/-! ## §6. JavaScript. -/

namespace JavaScript

/-- Whether a node in a block is a statement. -/
def isStatement (c : Node) : Bool := !lexicon.isComment c

/-- A diagram is built from a node if it is what the node is read as. -/
def Builds (source : Source) (n : Node) (d : Diagram) : Prop :=
  ∃ mode, javaScript.run source mode n = .ok d

theorem parts_of_finished {mode : Mode} {n : Node} {d : Diagram}
    (h : step source mode n = .ok (.finished d)) : d.parts = [] ∧ d.isSequence = false := by
  cases mode with
  | function => cases h
  | block => cases h
  | expression => cases h
  | statement =>
    have h : statementStep source n = .finished d := Except.ok.inj h
    rcases statementStep_cases source n with ⟨_, hs⟩ | ⟨_, hs⟩ | ⟨_, _, hs⟩ | ⟨_, _, _, hs⟩
    · cases hs.symm.trans h
    · cases hs.symm.trans h
    · cases hs.symm.trans h
    · cases hs.symm.trans h
      exact ⟨rfl, rfl⟩

theorem exists_placed (hordered : ∀ m ∈ f.preorder, m.kind = "if_statement" → m.Ordered)
    (hm : f.At r m) {mode : Mode} {frame : Frame} {parts : List Part}
    (h : step source mode m = .ok (.framed frame parts))
    (hnodes : ∀ p ∈ parts, ∃ c, p.node = some c) :
    ∃ rs, Placed isStatement f r m frame parts rs := by
  cases mode with
  | function =>
    cases h
    obtain ⟨c, hc⟩ := hnodes _ List.mem_cons_self
    exact exists_placed_child hm (fun h => by cases h) hc
  | block =>
    cases h
    exact ⟨_, placed_statements hm .statement⟩
  | expression => cases h
  | statement =>
    have h : statementStep source m = .framed frame parts := Except.ok.inj h
    rcases statementStep_cases source m with ⟨_, hs⟩ | ⟨hkind, hs⟩ | ⟨_, _, hs⟩ | ⟨_, _, _, hs⟩
    · cases hs.symm.trans h
      exact ⟨_, placed_statements hm .statement⟩
    · cases hs.symm.trans h
      obtain ⟨c, hc⟩ := hnodes _ List.mem_cons_self
      exact exists_placed_branch hm (hordered m hm.mem hkind) hc
    · cases hs.symm.trans h
      obtain ⟨c, hc⟩ := hnodes _ List.mem_cons_self
      exact exists_placed_child hm (fun h => by cases h) hc
    · cases hs.symm.trans h

/-- Every diagram is built from the node that was lowered, and that node places
its parts. -/
theorem exists_builder (hordered : ∀ m ∈ f.preorder, m.kind = "if_statement" → m.Ordered)
    {mode : Mode} {n : Node} {d : Diagram} {k : Nat} (hat : f.At k n)
    (h : javaScript.lower source mode n = .ok d) :
    ∃ r m, f.At r m ∧ k ≤ r ∧ r + m.size ≤ k + n.size ∧ Builds source m d ∧
      ∀ frame parts, javaScript.step source mode n = .ok (.framed frame parts) →
        (∀ p ∈ parts, ∃ c, p.node = some c) → ∃ rs, Placed isStatement f r m frame parts rs := by
  have hrun : javaScript.run source mode n = .ok d := by rw [run_eq_lower, h]
  refine ⟨k, n, hat, Nat.le_refl k, Nat.le_refl _, ⟨mode, hrun⟩, ?_⟩
  intro frame parts hstep hnodes
  exact exists_placed hordered hat hstep hnodes

end JavaScript

/-! ## §7. Functions. -/

/-- The origins of a lowered function: they tell where each of its nodes comes
from, and listed like the nodes they increase. -/
def HasOrigins (builds : Node → Diagram → Prop) (isStatement : Node → Bool) (f : Node)
    (d : Diagram) : Prop :=
  ∃ o, Traced builds isStatement f d o ∧
    List.Forall₂ (fun x r => ∃ n, f.preorder[r]? = some n ∧ builds n x) d.preorder o.preorder ∧
    o.preorder.Pairwise (· < ·)

/-- No statement is lost, doubled or moved: every node of a lowered function
comes from a row of the function, these rows increase from each node to the
next, and the steps of a sequence are the statements of its row. -/
theorem lower_origins (source : Source) (f : Node) (d : Diagram) :
    ((∀ m ∈ f.preorder, m.kind = "if_expression" → m.Ordered) →
      rust.run source .function f = .ok d →
      HasOrigins (Rust.Builds source) Rust.isStatement f d) ∧
    ((∀ m ∈ f.preorder, m.kind = "if_statement" → m.Ordered) →
      javaScript.run source .function f = .ok d →
      HasOrigins (JavaScript.Builds source) JavaScript.isStatement f d) := by
  constructor
  · intro hordered h
    rw [run_eq_lower] at h
    obtain ⟨o, htraced, hsorted⟩ := exists_origins (fun h => Rust.parts_of_finished h)
      (fun hat h => Rust.exists_builder hordered hat h) f.at_zero h
    exact ⟨o, htraced, htraced.listed, hsorted.increasing⟩
  · intro hordered h
    rw [run_eq_lower] at h
    obtain ⟨o, htraced, hsorted⟩ := exists_origins (fun h => JavaScript.parts_of_finished h)
      (fun hat h => JavaScript.exists_builder hordered hat h) f.at_zero h
    exact ⟨o, htraced, htraced.listed, hsorted.increasing⟩

/-- The function of `fn f(){a;if b{c}else{d}}`. -/
def forkedFunction : Node :=
  .sound "function_item" 0 24 none
    [.sound "identifier" 3 4 (some .name) [],
     .sound "block" 6 24 (some .body)
      [.sound "expression_statement" 7 9 none
        [.sound "identifier" 7 8 none []],
       .sound "if_expression" 9 23 none
        [.sound "identifier" 12 13 (some .condition) [],
         .sound "block" 13 16 (some .consequence)
          [.sound "identifier" 14 15 none []],
         .sound "else_clause" 16 23 (some .alternative)
          [.sound "block" 20 23 none
            [.sound "identifier" 21 22 none []]]]]]

/-- The diagram of a function with a choice can be traced to its rows. -/
theorem lower_origins_forkedFunction :
    (∀ m ∈ forkedFunction.preorder, m.kind = "if_expression" → m.Ordered) ∧
    rust.run (Text.utf8 "fn f()\x7ba;if b\x7bc\x7delse\x7bd\x7d\x7d") .function forkedFunction
      = .ok (.block "fn f()" [.sequence [.command "a",
          .branch "b" (.sequence [.command "c"]) (some (.sequence [.command "d"]))]]) ∧
    HasOrigins (Rust.Builds (Text.utf8 "fn f()\x7ba;if b\x7bc\x7delse\x7bd\x7d\x7d"))
      Rust.isStatement forkedFunction
      (.block "fn f()" [.sequence [.command "a",
        .branch "b" (.sequence [.command "c"]) (some (.sequence [.command "d"]))]]) := by
  have hordered : ∀ m ∈ forkedFunction.preorder, m.kind = "if_expression" → m.Ordered := by
    decide +kernel
  have hrun : rust.run (Text.utf8 "fn f()\x7ba;if b\x7bc\x7delse\x7bd\x7d\x7d") .function
      forkedFunction
      = .ok (.block "fn f()" [.sequence [.command "a",
          .branch "b" (.sequence [.command "c"]) (some (.sequence [.command "d"]))]]) := by
    with_unfolding_all rfl
  exact ⟨hordered, hrun, (lower_origins _ forkedFunction _).1 hordered hrun⟩

end Dialect

end AnalysisDiagram
