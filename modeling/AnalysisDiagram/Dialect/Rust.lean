/-
  AnalysisDiagram.Dialect.Rust
  ────────────────────────────
  How Rust is read.

      fn name … { … }      — a block labelled `fn name()` around a sequence
      { … }                — a sequence, one step for each statement
      let …;  m!(…);       — a command
      if, while, for       — a choice or a loop; `else if` nests in the `else`
      items inside a body  — a command that says they are not supported
      anything else        — a command with the text of the expression

  A node that lacks a child its kind must have has no diagram.
-/
import AnalysisDiagram.Dialect.Basic

namespace AnalysisDiagram.Dialect

namespace Rust

/-! ## §1. Kinds. -/

/-- Comments and literals. -/
def lexicon : Lexicon :=
  { comments := ["line_comment", "block_comment"]
    atomic := ["string_literal", "raw_string_literal", "char_literal"] }

/-- Named nodes in a block that are no statements. -/
def notStatements : List String :=
  lexicon.comments ++ ["attribute_item", "inner_attribute_item", "empty_statement", "label"]

/-- Items, which have no diagram of their own inside a body. -/
def itemKinds : List String :=
  ["function_item", "function_signature_item", "struct_item", "enum_item", "union_item",
   "impl_item", "trait_item", "mod_item", "use_declaration", "const_item", "static_item",
   "type_item", "associated_type", "macro_definition", "extern_crate_declaration",
   "foreign_mod_item"]

/-- The label of an item inside a body. -/
def innerItemLabel : String := "Inner item not supported"

/-! ## §2. Steps. -/

variable (source : Source)

/-- The text of a node, on one line. -/
def text (n : Node) : String := lexicon.excerpt source n

/-- The text of the child that plays a given part. -/
def textOf (n : Node) (role : Role) : Except Defect String :=
  match n.child? role with
  | none => .error .missingChild
  | some c => .ok (text source c)

/-- The statements of a block. -/
def statements (n : Node) : List Node :=
  n.namedChildren.filter fun c => !notStatements.contains c.kind

/-- A block is the sequence of its statements. -/
def blockStep (n : Node) : Step :=
  .framed .sequence ((statements n).map fun c => ⟨.statement, some c⟩)

/-- What becomes of an expression. -/
def expressionStep (n : Node) : Except Defect Step :=
  match n.kind with
  | "if_expression" => do
      let condition ← textOf source n .condition
      return .framed (.branch (tightenMembers condition))
        (⟨.block, n.child? .consequence⟩
          :: ((lexicon.elseArm? n).map fun arm => ⟨.expression, some arm⟩).toList)
  | "while_expression" => do
      let condition ← textOf source n .condition
      return .framed (.loop condition) [⟨.block, n.child? .body⟩]
  | "for_expression" => do
      let pattern ← textOf source n .pattern
      let value ← textOf source n .value
      return .framed (.loop ("for " ++ pattern ++ " in " ++ value)) [⟨.block, n.child? .body⟩]
  | "block" => .ok (blockStep n)
  | _ => .ok (.finished (.command (text source n)))

/-- What becomes of a statement. -/
def statementStep (n : Node) : Except Defect Step :=
  if n.kind == "let_declaration" then .ok (.finished (.command (text source n)))
  else if itemKinds.contains n.kind then .ok (.finished (.command innerItemLabel))
  else if n.kind == "expression_statement" then
    match lexicon.inner n with
    | [] => .ok (.finished (.command (text source n)))
    | c :: _ =>
        if c.kind == "macro_invocation" then .ok (.finished (.command (text source n)))
        else expressionStep source c
  else expressionStep source n

/-- What becomes of a function. -/
def functionStep (n : Node) : Except Defect Step := do
  let name ← textOf source n .name
  return .framed (.block ("fn " ++ name ++ "()")) [⟨.block, n.child? .body⟩]

/-- What becomes of a node. -/
def step (mode : Mode) (n : Node) : Except Defect Step :=
  match mode with
  | .function => functionStep source n
  | .block => .ok (blockStep n)
  | .statement => statementStep source n
  | .expression => expressionStep source n

/-! ## §3. Steps go down. -/

theorem below_of_bind {α : Type} {x : Except Defect α} {f : α → Step} {s : Step} {n : Node}
    (h : (x >>= fun a => pure (f a)) = .ok s) (hf : ∀ a, (f a).Below n) : s.Below n := by
  cases x with
  | error e => cases h
  | ok a => cases h; exact hf a

theorem below_blockStep (n : Node) : (blockStep n).Below n :=
  Step.below_children fun _ hc =>
    Node.mem_children_of_mem_namedChildren (List.mem_filter.1 hc).1

theorem below_expressionStep {n : Node} {s : Step} (h : expressionStep source n = .ok s) :
    s.Below n := by
  unfold expressionStep at h
  split at h
  · exact below_of_bind h fun _ => Step.below_branch
  · exact below_of_bind h fun _ => Step.below_child
  · cases hp : textOf source n .pattern with
    | error e => rw [hp] at h; cases h
    | ok pattern =>
      rw [hp] at h
      exact below_of_bind h fun _ => Step.below_child
  · cases h; exact below_blockStep n
  · cases h; exact Step.below_finished _ n

theorem below_statementStep {n : Node} {s : Step} (h : statementStep source n = .ok s) :
    s.Below n := by
  unfold statementStep at h
  split at h
  · cases h; exact Step.below_finished _ n
  split at h
  · cases h; exact Step.below_finished _ n
  split at h
  · split at h
    · cases h; exact Step.below_finished _ n
    · next c rest hinner =>
      split at h
      · cases h; exact Step.below_finished _ n
      · have hc : c ∈ lexicon.inner n := by rw [hinner]; exact List.mem_cons_self
        have hlt := Node.size_lt_of_mem_children (lexicon.mem_children_of_mem_inner hc)
        exact (below_expressionStep source h).mono (Nat.le_of_lt hlt)
  · exact below_expressionStep source h

theorem below_step {mode : Mode} {n : Node} {s : Step} (h : step source mode n = .ok s) :
    s.Below n := by
  cases mode with
  | function => exact below_of_bind h fun _ => Step.below_child
  | block => cases h; exact below_blockStep n
  | statement => exact below_statementStep source h
  | expression => exact below_expressionStep source h

end Rust

/-- How Rust is read. -/
def rust : Dialect :=
  { name := "rust"
    functionKinds := ["function_item"]
    lexicon := Rust.lexicon
    step := Rust.step
    step_below := fun source _ _ _ h => Rust.below_step source h }

end AnalysisDiagram.Dialect
