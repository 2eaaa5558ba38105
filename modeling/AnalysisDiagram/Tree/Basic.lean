/-
  AnalysisDiagram.Tree.Basic
  ──────────────────────────
  Syntax trees, as a parser hands them over.

  A node has a kind, a span of bytes in its source, flags, the role it plays
  in its parent, and its children in source order, tokens included.  The tree
  is taken as given: no flag is derived and no span is checked.

      Node.ofRows?   — a tree from its rows in pre-order
      Node.preorder  — the nodes in that order
      Node.size      — their number, which every walk below goes by
-/

namespace AnalysisDiagram

/-! ## §1. Nodes. -/

/-- The part that a child plays in its parent. -/
inductive Role where
  | name
  | body
  | condition
  | consequence
  | alternative
  | initializer
  | increment
  | pattern
  | value
  deriving Repr, DecidableEq

/-- The role of a given name. -/
def Role.ofName? : String → Option Role
  | "name" => some .name
  | "body" => some .body
  | "condition" => some .condition
  | "consequence" => some .consequence
  | "alternative" => some .alternative
  | "initializer" => some .initializer
  | "increment" => some .increment
  | "pattern" => some .pattern
  | "value" => some .value
  | _ => none

/-- What is known of a node without its children. -/
structure Node.Info where
  /-- The grammar's name for this sort of node. -/
  kind : String
  /-- Named nodes are the grammar's own; the others are bare tokens. -/
  named : Bool
  /-- The parser put this node in where it found nothing. -/
  missing : Bool
  /-- The parser met a fault in or below this node. -/
  faulty : Bool
  /-- The first byte. -/
  start : Nat
  /-- The byte after the last one. -/
  stop : Nat
  /-- The part that the node plays in its parent. -/
  role : Option Role
  deriving Repr, DecidableEq

/-- A node of a syntax tree. -/
inductive Node where
  | mk (info : Node.Info) (children : List Node)
  deriving Repr

namespace Node

/-- What is known of a node without its children. -/
def info : Node → Info
  | .mk info _ => info

/-- The children of a node, in source order. -/
def children : Node → List Node
  | .mk _ children => children

/-- The grammar's name for this sort of node. -/
def kind (n : Node) : String := n.info.kind

/-- The first byte of a node. -/
def start (n : Node) : Nat := n.info.start

/-- The byte after the last one of a node. -/
def stop (n : Node) : Nat := n.info.stop

/-- The children that are not bare tokens. -/
def namedChildren (n : Node) : List Node := n.children.filter (·.info.named)

/-- The first child that plays a given part. -/
def child? (n : Node) (role : Role) : Option Node :=
  n.children.find? (·.info.role == some role)

/-- A named node that the parser met no fault in. -/
def sound (kind : String) (start stop : Nat) (role : Option Role) (children : List Node) : Node :=
  .mk { kind, named := true, missing := false, faulty := false, start, stop, role } children

/-- A named node that the parser met a fault in or below. -/
def broken (kind : String) (start stop : Nat) (role : Option Role) (children : List Node) : Node :=
  .mk { kind, named := true, missing := false, faulty := true, start, stop, role } children

/-- A bare token. -/
def token (kind : String) (start stop : Nat) : Node :=
  .mk { kind, named := false, missing := false, faulty := false, start, stop, role := none } []

/-- A bare token that the parser put in where it found nothing. -/
def missingToken (kind : String) (position : Nat) : Node :=
  .mk { kind, named := false, missing := true, faulty := true, start := position,
        stop := position, role := none } []

/-- A file in which nothing was found. -/
def empty : Node := sound "" 0 0 none []

/-! ## §2. Size and order. -/

mutual

/-- The number of nodes in a tree. -/
def size : Node → Nat
  | .mk _ children => 1 + sizes children

/-- The number of nodes in several trees. -/
def sizes : List Node → Nat
  | [] => 0
  | n :: rest => size n + sizes rest

end

mutual

/-- The nodes of a tree, each before its children. -/
def preorder : Node → List Node
  | .mk info children => .mk info children :: preorders children

/-- The nodes of several trees, one tree after the other. -/
def preorders : List Node → List Node
  | [] => []
  | n :: rest => preorder n ++ preorders rest

end

theorem size_eq (n : Node) : n.size = 1 + sizes n.children := by
  cases n with
  | mk info children => rw [size, Node.children]

theorem size_pos (n : Node) : 0 < n.size := by
  rw [size_eq]; omega

theorem size_le_sizes_of_mem {n : Node} {ns : List Node} (h : n ∈ ns) :
    n.size ≤ sizes ns := by
  induction ns with
  | nil => cases h
  | cons m rest ih =>
    rw [sizes]
    cases h with
    | head => omega
    | tail _ h => have := ih h; omega

/-- A child has fewer nodes than its parent. -/
theorem size_lt_of_mem_children {c n : Node} (h : c ∈ n.children) : c.size < n.size := by
  have := size_le_sizes_of_mem h
  rw [size_eq n]; omega

theorem mem_children_of_mem_namedChildren {c n : Node} (h : c ∈ n.namedChildren) :
    c ∈ n.children :=
  (List.mem_filter.1 h).1

theorem size_lt_of_child? {c n : Node} {role : Role} (h : n.child? role = some c) :
    c.size < n.size :=
  size_lt_of_mem_children (List.mem_of_find?_eq_some h)

theorem sizes_append (ms ns : List Node) : sizes (ms ++ ns) = sizes ms + sizes ns := by
  induction ms with
  | nil => simp [sizes]
  | cons m rest ih => simp [sizes, ih, Nat.add_assoc]

/-! ## §3. Trees from rows. -/

/-- A node of a tree that is written as a list in pre-order: what is known of
it, and how many children follow. -/
structure Row where
  info : Info
  arity : Nat

/-- A row takes its children from the trees that follow it. -/
def graft (row : Row) (after : List Node) : List Node :=
  .mk row.info (after.take row.arity) :: after.drop row.arity

/-- The tree of rows in pre-order. -/
def ofRows? (rows : List Row) : Option Node :=
  (rows.foldr graft []).head?

end Node

end AnalysisDiagram
