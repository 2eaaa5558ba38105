/-
  AnalysisDiagram.Diagram
  ───────────────────────
  Problem Analysis Diagrams: the trees that are drawn for a program.

  A diagram is built from six sorts of nodes.  A function is a block with one
  sequence in it; errors stand for a program that has no diagram.
-/

namespace AnalysisDiagram

/-- A Problem Analysis Diagram. -/
inductive Diagram where
  /-- Steps one after the other, in source order. -/
  | sequence (children : List Diagram)
  /-- A named unit of work. -/
  | block (label : String) (children : List Diagram)
  /-- A choice, with or without an alternative. -/
  | branch (condition : String) (thenBlock : Diagram) (elseBlock : Option Diagram)
  /-- A repetition. -/
  | loop (condition : String) (body : Diagram)
  /-- A single step. -/
  | command (label : String)
  /-- In place of a diagram: why there is none. -/
  | error (message : String)
  deriving Repr, Inhabited

namespace Diagram

mutual

/-- The nodes of a diagram, each before what it contains, a choice's `then`
before its `else`. -/
def preorder : Diagram → List Diagram
  | .sequence children => .sequence children :: preorders children
  | .block label children => .block label children :: preorders children
  | .branch condition t e => .branch condition t e :: (preorder t ++ preorder? e)
  | .loop condition body => .loop condition body :: preorder body
  | .command label => [.command label]
  | .error message => [.error message]

/-- The nodes of several diagrams, one after the other. -/
def preorders : List Diagram → List Diagram
  | [] => []
  | d :: rest => preorder d ++ preorders rest

/-- The nodes of a diagram that may be absent. -/
def preorder? : Option Diagram → List Diagram
  | none => []
  | some d => preorder d

end

/-- Whether the node at the top is an error. -/
def isError : Diagram → Bool
  | .error _ => true
  | _ => false

end Diagram

end AnalysisDiagram
