/-
  AnalysisDiagram.Tree.Rows
  ─────────────────────────
  Syntax trees as values.

  A tree is a list of rows in pre-order.  A row is a list too:

      [kind, flags, start, stop, number of children]
      [kind, flags, start, stop, number of children, role]

  Of the flags, 1 marks named nodes, 2 missing ones and 4 those with a fault in
  or below them.
-/
import AnalysisDiagram.Tree.Basic
import AnalysisDiagram.Value

namespace AnalysisDiagram.Node

/-- A row without its role. -/
def rowOf (kind : String) (flags start stop arity : Int) (role : Option Role) : Row :=
  let flag := fun n : Nat => flags.toNat / n % 2 == 1
  { info :=
      { kind, named := flag 1, missing := flag 2, faulty := flag 4, start := start.toNat,
        stop := stop.toNat, role }
    arity := arity.toNat }

/-- The row that a value is. -/
def rowOf? : Value → Option Row
  | .list [.text kind, .int flags, .int start, .int stop, .int arity] =>
      some (rowOf kind flags start stop arity none)
  | .list [.text kind, .int flags, .int start, .int stop, .int arity, .text role] =>
      some (rowOf kind flags start stop arity (Role.ofName? role))
  | _ => none

/-- The tree that a value is. -/
def ofValue? : Value → Option Node
  | .list rows => (rows.mapM rowOf?).bind ofRows?
  | _ => none

end AnalysisDiagram.Node
