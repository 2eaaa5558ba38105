/-
  AnalysisDiagram.Dialect.JavaScript
  ──────────────────────────────────
  How JavaScript is read.

  Bodies may be single statements here: a body in braces is a sequence, a
  single statement is a node of its own.

      if (ok) { a(); }   — choice `ok`, then a sequence with the command `a();`
      if (ok) a();       — choice `ok`, then the command `a();`

  The text of a child that is not there is empty; only a body or a consequence
  must be there.
-/
import AnalysisDiagram.Dialect.Basic
import AnalysisDiagram.Text.Blank

namespace AnalysisDiagram.Dialect

namespace JavaScript

/-! ## §1. Kinds and texts. -/

/-- Comments and literals. -/
def lexicon : Lexicon :=
  { comments := ["comment", "html_comment"]
    atomic := ["string", "template_string", "regex"] }

variable (source : Source)

/-- The text of a node, on one line; empty for a node that is not there. -/
def text : Option Node → String
  | none => ""
  | some n => lexicon.excerpt source n

/-- The text of a condition, without the parentheses around it. -/
def conditionText (n : Node) : String :=
  match n.child? .condition with
  | none => ""
  | some c =>
      if c.kind == "parenthesized_expression" then text source ((lexicon.inner c).head?.or (some c))
      else text source (some c)

/-- The text of one of the three clauses of a `for`, without its semicolon. -/
def clauseText (n : Node) (role : Role) : String :=
  Text.trimBlank (Text.trimRight ';' (Text.trimBlank (text source (n.child? role))))

/-- The three clauses of a `for`. -/
def forText (n : Node) : String :=
  let first := clauseText source n .initializer
  let test := clauseText source n .condition
  let update := clauseText source n .increment
  if first.isEmpty && test.isEmpty && update.isEmpty then "for (;;)"
  else "for (" ++ first ++ "; " ++ test ++ "; " ++ update ++ ")"

/-- What stands between the parentheses of a `for … in` or `for … of`. -/
def headParts : List Node → List Node
  | [] => []
  | n :: rest =>
      if lexicon.isComment n then headParts rest
      else if n.kind == "(" then within rest
      else if n.kind == ")" then []
      else headParts rest
where
  /-- The nodes up to the closing parenthesis. -/
  within : List Node → List Node
    | [] => []
    | n :: rest =>
        if lexicon.isComment n then within rest
        else if n.kind == "(" then within rest
        else if n.kind == ")" then []
        else n :: within rest

/-- The head of a `for … in` or `for … of`. -/
def forInText (n : Node) : String :=
  let word := if n.children.any (·.kind == "await") then "for await" else "for"
  let parts := (headParts n.children).map fun c => text source (some c)
  word ++ " (" ++ String.intercalate " " parts ++ ")"

/-! ## §2. Steps. -/

/-- A block is the sequence of its statements. -/
def blockStep (n : Node) : Step :=
  .framed .sequence ((lexicon.inner n).map fun c => ⟨.statement, some c⟩)

/-- A loop around the statement's body. -/
def loopStep (condition : String) (n : Node) : Step :=
  .framed (.loop condition) [⟨.statement, n.child? .body⟩]

/-- What becomes of a statement. -/
def statementStep (n : Node) : Step :=
  match n.kind with
  | "statement_block" => blockStep n
  | "if_statement" =>
      .framed (.branch (conditionText source n))
        (⟨.statement, n.child? .consequence⟩
          :: ((lexicon.elseArm? n).map fun arm => ⟨.statement, some arm⟩).toList)
  | "while_statement" => loopStep (conditionText source n) n
  | "for_statement" => loopStep (forText source n) n
  | "for_in_statement" => loopStep (forInText source n) n
  | _ => .finished (.command (text source (some n)))

/-- A function's name. -/
def functionName (n : Node) : String :=
  let name := text source (n.child? .name)
  if name.isEmpty then "anonymous" else name

/-- What becomes of a function. -/
def functionStep (n : Node) : Step :=
  .framed (.block ("fn " ++ functionName source n ++ "()")) [⟨.block, n.child? .body⟩]

/-- What becomes of a node. -/
def step (mode : Mode) (n : Node) : Except Defect Step :=
  match mode with
  | .function => .ok (functionStep source n)
  | .block => .ok (blockStep n)
  | .statement => .ok (statementStep source n)
  | .expression => .error .unknownMode

/-! ## §3. Steps go down. -/

theorem below_blockStep (n : Node) : (blockStep n).Below n :=
  Step.below_children fun _ hc => lexicon.mem_children_of_mem_inner hc

theorem below_statementStep (n : Node) : (statementStep source n).Below n := by
  unfold statementStep
  split
  · exact below_blockStep n
  · exact Step.below_branch
  · exact Step.below_child
  · exact Step.below_child
  · exact Step.below_child
  · exact Step.below_finished _ n

theorem below_step {mode : Mode} {n : Node} {s : Step} (h : step source mode n = .ok s) :
    s.Below n := by
  cases mode with
  | function => cases h; exact Step.below_child
  | block => cases h; exact below_blockStep n
  | statement => cases h; exact below_statementStep source n
  | expression => cases h

end JavaScript

/-- How JavaScript is read. -/
def javaScript : Dialect :=
  { name := "javascript"
    functionKinds := ["function_declaration", "generator_function_declaration"]
    lexicon := JavaScript.lexicon
    step := JavaScript.step
    step_below := fun source _ _ _ h => JavaScript.below_step source h }

end AnalysisDiagram.Dialect
