/-
  AnalysisDiagram.Tree.Fault
  ──────────────────────────
  Where a parser met a fault, and how that is told.

  The first fault is looked for from the root down, left to right, and only
  below nodes that are flagged.  A missing node is told by its kind, any other
  fault by the first token in it; both with line and column, counted from one,
  the column in bytes.
-/
import AnalysisDiagram.Text.Blank
import AnalysisDiagram.Tree.Excerpt

namespace AnalysisDiagram.Node

/-! ## §1. The first fault. -/

/-- A node at which the parser met a fault. -/
def isFault (n : Node) : Bool := n.info.missing || n.kind == "ERROR"

/-- The children that may hold a fault. -/
def suspects (n : Node) : List Node :=
  n.children.filter fun c => c.info.faulty || c.info.missing

theorem sizes_filter_le (p : Node → Bool) (ns : List Node) :
    sizes (ns.filter p) ≤ sizes ns := by
  induction ns with
  | nil => simp
  | cons n rest ih =>
    simp only [List.filter_cons]
    split <;> simp only [sizes] <;> omega

/-- The first fault below the nodes on a stack, top first. -/
def searchFault : List Node → Option Node
  | [] => none
  | n :: stack => if n.isFault then some n else searchFault (n.suspects ++ stack)
termination_by stack => sizes stack
decreasing_by
  have := size_eq n
  have := sizes_filter_le (fun c => c.info.faulty || c.info.missing) n.children
  simp only [sizes, sizes_append, suspects]
  omega

/-- The first fault of a tree; the root stands in when there is none. -/
def firstFault (root : Node) : Node := (searchFault [root]).getD root

/-! ## §2. Its description. -/

/-- The node's first token: its first child's first token, and so on down. -/
def firstToken : Node → Node
  | .mk info [] => .mk info []
  | .mk _ (c :: _) => firstToken c

/-- Line and column of a byte, both counted from one. -/
def position (source : Source) (offset : Nat) : Nat × Nat :=
  let before := source.slice 0 offset
  let newline : UInt8 := 10
  let line := before.reverse.takeWhile (· != newline)
  (before.count newline + 1, offset - (before.length - line.length) + 1)

/-- What the parser found wrong, and where. -/
def describeFault (source : Source) (root : Node) : String :=
  let fault := root.firstFault
  let (line, column) := position source fault.start
  let token := Text.trimBlank (fault.firstToken.spanText source)
  let detail :=
    if fault.info.missing then "expected `" ++ fault.kind ++ "`"
    else if token.isEmpty then "unexpected end of input"
    else "unexpected `" ++ token ++ "`"
  detail ++ " at line " ++ toString line ++ ", column " ++ toString column

end AnalysisDiagram.Node
