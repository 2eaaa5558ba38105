/-
  AnalysisDiagram.Proofs.Tree.Rows
  ────────────────────────────────
  Where a node stands in a tree that is written row by row.

      At f r n     — the rows of `f` from row `r` on are those of `n`
      rowsBelow    — the children of a node, each with its row
      place?       — the place of the first child in a role

  The children of a node follow it without gaps, so their rows are known from
  their sizes, and a child that comes before another one ends before it.
-/
import AnalysisDiagram.Proofs.Tree.Tokens

namespace AnalysisDiagram.Node

/-! ## §1. Rows of a tree. -/

theorem length_preorders {ns : List Node} (h : ∀ n ∈ ns, n.preorder.length = n.size) :
    (preorders ns).length = sizes ns := by
  induction ns with
  | nil => rfl
  | cons n ns ih =>
    rw [preorders, sizes, List.length_append, h n List.mem_cons_self,
      ih fun m hm => h m (List.mem_cons_of_mem n hm)]

/-- A tree has a row for each node. -/
theorem length_preorder (n : Node) : n.preorder.length = n.size := by
  induction n using Node.induction with
  | mk info children ih =>
    rw [preorder_eq, size_eq, List.length_cons, Nat.add_comm]
    exact congrArg (1 + ·) (length_preorders ih)

/-- The rows of `f` from row `r` on are those of `n`. -/
def At (f : Node) (r : Nat) (n : Node) : Prop :=
  ∃ before after, f.preorder = before ++ n.preorder ++ after ∧ before.length = r

theorem at_zero (f : Node) : f.At 0 f :=
  ⟨[], [], by rw [List.nil_append, List.append_nil], rfl⟩

variable {f n c : Node} {r : Nat}

theorem At.getElem?_eq (h : f.At r n) : f.preorder[r]? = some n := by
  obtain ⟨before, after, hrows, rfl⟩ := h
  rw [hrows, List.append_assoc, List.getElem?_append_right (Nat.le_refl _), Nat.sub_self,
    preorder_eq]
  rfl

theorem At.mem (h : f.At r n) : n ∈ f.preorder :=
  List.mem_of_getElem? h.getElem?_eq

/-! ## §2. Rows of children. -/

/-- Trees that follow each other from row `r` on, each with its first row. -/
def rowsFrom : Nat → List Node → List (Nat × Node)
  | _, [] => []
  | r, n :: rest => (r, n) :: rowsFrom (r + n.size) rest

/-- The children of a node at row `r`, each with its row. -/
def rowsBelow (r : Nat) (n : Node) : List (Nat × Node) := rowsFrom (r + 1) n.children

theorem map_snd_rowsFrom (r : Nat) (ns : List Node) : (rowsFrom r ns).map Prod.snd = ns := by
  induction ns generalizing r with
  | nil => rfl
  | cons n ns ih => rw [rowsFrom, List.map_cons, ih]

theorem rowsFrom_inside {ns : List Node} {s : Nat × Node} (h : s ∈ rowsFrom r ns) :
    r ≤ s.1 ∧ s.1 + s.2.size ≤ r + sizes ns := by
  induction ns generalizing r with
  | nil => cases h
  | cons n ns ih =>
    rw [sizes]
    rcases List.mem_cons.1 h with rfl | h
    · show r ≤ r ∧ r + n.size ≤ _
      omega
    · have := ih h
      omega

/-- Of two trees that follow each other, the first ends before the second. -/
theorem pairwise_rowsFrom (r : Nat) (ns : List Node) :
    (rowsFrom r ns).Pairwise fun s t => s.1 + s.2.size ≤ t.1 := by
  induction ns generalizing r with
  | nil => exact .nil
  | cons n ns ih => exact .cons (fun t ht => (rowsFrom_inside ht).1) (ih (r + n.size))

theorem at_of_mem_rowsFrom {ns before after : List Node} {s : Nat × Node}
    (hrows : f.preorder = before ++ preorders ns ++ after)
    (h : s ∈ rowsFrom before.length ns) : f.At s.1 s.2 := by
  induction ns generalizing before with
  | nil => cases h
  | cons n ns ih =>
    rw [preorders] at hrows
    rcases List.mem_cons.1 h with rfl | h
    · refine ⟨before, preorders ns ++ after, ?_, rfl⟩
      rw [hrows]
      simp only [List.append_assoc]
    · -- what stood before the second tree now includes the first
      have hlen : (before ++ n.preorder).length = before.length + n.size := by
        rw [List.length_append, length_preorder]
      rw [← hlen] at h
      refine ih ?_ h
      rw [hrows]
      simp only [List.append_assoc]

/-- The children of a node stand where their rows say. -/
theorem At.below (h : f.At r n) {s : Nat × Node} (hs : s ∈ rowsBelow r n) : f.At s.1 s.2 := by
  obtain ⟨before, after, hrows, rfl⟩ := h
  have hlen : (before ++ [n]).length = before.length + 1 := List.length_append
  have hbelow : f.preorder = (before ++ [n]) ++ preorders n.children ++ after := by
    rw [hrows, preorder_eq n]
    simp
  unfold rowsBelow at hs
  rw [← hlen] at hs
  exact at_of_mem_rowsFrom hbelow hs

theorem rowsBelow_inside {s : Nat × Node} (h : s ∈ rowsBelow r n) :
    r < s.1 ∧ s.1 + s.2.size ≤ r + n.size := by
  have hinside := rowsFrom_inside h
  rw [size_eq n]
  omega

theorem exists_rowsBelow (r : Nat) (h : c ∈ n.children) : ∃ s ∈ rowsBelow r n, s.2 = c := by
  rw [← map_snd_rowsFrom (r + 1) n.children] at h
  exact List.mem_map.1 h

/-! ## §3. Places of roles. -/

/-- The place among the children of the first one in a role. -/
def place? (n : Node) (role : Role) : Option Nat :=
  n.children.findIdx? fun c => c.info.role == some role

/-- A child in a role has a place, and a row. -/
theorem exists_row_of_child? (r : Nat) {role : Role} (h : n.child? role = some c) :
    ∃ i s, n.place? role = some i ∧ (rowsBelow r n)[i]? = some s ∧ s.2 = c := by
  unfold child? at h
  rw [List.find?_eq_bind_findIdx?_getElem?] at h
  obtain ⟨i, hi, hc⟩ := Option.bind_eq_some_iff.1 h
  rw [← map_snd_rowsFrom (r + 1) n.children, List.getElem?_map] at hc
  obtain ⟨s, hs, hc⟩ := Option.map_eq_some_iff.1 hc
  exact ⟨i, s, hi, hs, hc⟩

/-- A child at an earlier place ends before one at a later place. -/
theorem rowsBelow_of_lt {i j : Nat} {s t : Nat × Node} (hs : (rowsBelow r n)[i]? = some s)
    (ht : (rowsBelow r n)[j]? = some t) (hij : i < j) : s.1 + s.2.size ≤ t.1 := by
  obtain ⟨hi, rfl⟩ := List.getElem?_eq_some_iff.1 hs
  obtain ⟨hj, rfl⟩ := List.getElem?_eq_some_iff.1 ht
  exact List.pairwise_iff_getElem.1 (pairwise_rowsFrom (r + 1) n.children) i j hi hj hij

end AnalysisDiagram.Node
