/-
  AnalysisDiagram.Dialect.Basic
  ─────────────────────────────
  From syntax trees to diagrams, for any programming language.

  A dialect says what to do at one node: either the node is a finished diagram
  of its own, or it is a frame (sequence, block, choice, loop) around the
  diagrams of some nodes below it.  Whole trees are then lowered in two ways:

      Dialect.lower  — by recursion on the tree
      Dialect.run    — by a machine with a list of tasks and a list of
                       results, so that nesting costs no call stack

  Both end because the parts that a dialect asks for are smaller than the node
  it was asked about; that is a field of the dialect.
-/
import AnalysisDiagram.Diagram
import AnalysisDiagram.Tree.Excerpt

namespace AnalysisDiagram

/-! ## §1. Steps. -/

/-- As what a node is to be read. -/
inductive Mode where
  | function
  | block
  | statement
  | expression
  deriving Repr, DecidableEq

/-- The mode of a given name. -/
def Mode.ofName? : String → Option Mode
  | "function" => some .function
  | "block" => some .block
  | "statement" => some .statement
  | "expression" => some .expression
  | _ => none

/-- Why a node has no diagram. -/
inductive Defect where
  /-- The language does not read nodes in this mode. -/
  | unknownMode
  /-- A node lacks a child that its kind must have. -/
  | missingChild
  deriving Repr, DecidableEq

/-- A node still to be lowered, and as what; the node may be absent. -/
structure Part where
  mode : Mode
  node : Option Node

/-- What stands around the diagrams of a node's parts. -/
inductive Frame where
  | sequence
  | block (label : String)
  | branch (condition : String)
  | loop (condition : String)
  deriving Repr, DecidableEq

/-- A frame filled with the diagrams of its parts. -/
def Frame.fill : Frame → List Diagram → Except Defect Diagram
  | .sequence, ds => .ok (.sequence ds)
  | .block label, ds => .ok (.block label ds)
  | .branch condition, [t] => .ok (.branch condition t none)
  | .branch condition, [t, e] => .ok (.branch condition t (some e))
  | .branch _, _ => .error .missingChild
  | .loop condition, [body] => .ok (.loop condition body)
  | .loop _, _ => .error .missingChild

/-- What a dialect makes of one node. -/
inductive Step where
  /-- A diagram of its own. -/
  | finished (d : Diagram)
  /-- A frame around the diagrams of some parts, in order. -/
  | framed (frame : Frame) (parts : List Part)

/-- The parts that a step asks for. -/
def Step.parts : Step → List Part
  | .finished _ => []
  | .framed _ parts => parts

/-! ## §2. Dialects. -/

/-- The named children of a node that are not comments. -/
def Lexicon.inner (lex : Lexicon) (n : Node) : List Node :=
  n.namedChildren.filter fun c => !lex.isComment c

/-- What stands in a node's `else`: the first thing in its alternative that is
not a comment. -/
def Lexicon.elseArm? (lex : Lexicon) (n : Node) : Option Node :=
  (n.child? .alternative).bind fun alternative => (lex.inner alternative).head?

/-- All parts are smaller than `n`. -/
def Step.Below (s : Step) (n : Node) : Prop :=
  ∀ p ∈ s.parts, ∀ c, p.node = some c → c.size < n.size

theorem Step.below_finished (d : Diagram) (n : Node) : (Step.finished d).Below n := by
  intro p hp
  cases hp

/-- Steps at a node inside `n` stay below `n`. -/
theorem Step.Below.mono {s : Step} {m n : Node} (h : s.Below m) (hmn : m.size ≤ n.size) :
    s.Below n :=
  fun p hp c hc => Nat.lt_of_lt_of_le (h p hp c hc) hmn

theorem Step.below_children {frame : Frame} {mode : Mode} {n : Node} {ns : List Node}
    (h : ∀ c ∈ ns, c ∈ n.children) :
    (Step.framed frame (ns.map fun c => ⟨mode, some c⟩)).Below n := by
  intro p hp c hc
  obtain ⟨m, hm, rfl⟩ := List.mem_map.1 hp
  cases hc
  exact Node.size_lt_of_mem_children (h _ hm)

theorem Step.below_child {frame : Frame} {mode : Mode} {n : Node} {role : Role} :
    (Step.framed frame [⟨mode, n.child? role⟩]).Below n := by
  intro p hp c hc
  cases List.mem_singleton.1 hp
  exact Node.size_lt_of_child? hc

theorem Lexicon.mem_children_of_mem_inner {lex : Lexicon} {c n : Node} (h : c ∈ lex.inner n) :
    c ∈ n.children :=
  Node.mem_children_of_mem_namedChildren (List.mem_filter.1 h).1

theorem Lexicon.size_lt_of_elseArm? {lex : Lexicon} {arm n : Node}
    (h : lex.elseArm? n = some arm) : arm.size < n.size := by
  obtain ⟨alternative, ha, harm⟩ := Option.bind_eq_some_iff.1 h
  have h₁ := Node.size_lt_of_child? ha
  have h₂ := Node.size_lt_of_mem_children
    (lex.mem_children_of_mem_inner (List.mem_of_mem_head? harm))
  omega

theorem Step.below_branch {lex : Lexicon} {condition : String} {mode mode' : Mode} {n : Node}
    {role : Role} :
    (Step.framed (.branch condition)
      (⟨mode, n.child? role⟩ :: ((lex.elseArm? n).map fun arm => ⟨mode', some arm⟩).toList)).Below n
    := by
  intro p hp c hc
  cases hp with
  | head => exact Node.size_lt_of_child? hc
  | tail _ hp =>
    obtain ⟨arm, harm, rfl⟩ := Option.map_eq_some_iff.1 (Option.mem_toList.1 hp)
    cases hc
    exact Lexicon.size_lt_of_elseArm? harm

/-- How one programming language is read. -/
structure Dialect where
  /-- The language's usual name. -/
  name : String
  /-- The kinds of nodes that define a function. -/
  functionKinds : List String
  /-- Comments and literals. -/
  lexicon : Lexicon
  /-- What to do at one node of a source file. -/
  step : Source → Mode → Node → Except Defect Step
  /-- A step only asks for smaller nodes. -/
  step_below : ∀ source mode n s, step source mode n = .ok s → s.Below n

namespace Dialect

variable (dialect : Dialect) (source : Source)

/-! ## §3. Lowering by recursion. -/

-- the equations named in the matches below serve the termination proofs
set_option linter.unusedVariables false

/-- The diagram of a node. -/
def lower (mode : Mode) (n : Node) : Except Defect Diagram :=
  match h : dialect.step source mode n with
  | .error e => .error e
  | .ok (.finished d) => .ok d
  | .ok (.framed frame parts) => do
      let ds ← parts.attach.mapM fun p =>
        match hc : p.1.node with
        | none => .error .missingChild
        | some c => lower p.1.mode c
      frame.fill ds
termination_by n.size
decreasing_by exact dialect.step_below source mode n _ h p.1 p.2 c hc

/-- The diagram of a part. -/
def lowerPart (p : Part) : Except Defect Diagram :=
  match p.node with
  | none => .error .missingChild
  | some c => dialect.lower source p.mode c

/-! ## §4. Lowering with a list of tasks. -/

/-- What the machine has still to do. -/
inductive Task where
  /-- Lower a part. -/
  | visit (p : Part)
  /-- Fill a frame with the last `arity` results. -/
  | build (frame : Frame) (arity : Nat)

/-- The sum of several numbers. -/
def total : List Nat → Nat
  | [] => 0
  | n :: rest => n + total rest

theorem total_append (ms ns : List Nat) : total (ms ++ ns) = total ms + total ns := by
  induction ms with
  | nil => simp [total]
  | cons m ms ih => simp [total, ih, Nat.add_assoc]

/-- The number of tasks that a node gives rise to, itself included. -/
def cost (mode : Mode) (n : Node) : Nat :=
  match h : dialect.step source mode n with
  | .error _ => 1
  | .ok (.finished _) => 1
  | .ok (.framed _ parts) =>
      2 + total (parts.attach.map fun p =>
        match hc : p.1.node with
        | none => 1
        | some c => cost p.1.mode c)
termination_by n.size
decreasing_by exact dialect.step_below source mode n _ h p.1 p.2 c hc

/-- The number of tasks that a task gives rise to, itself included. -/
def taskCost : Task → Nat
  | .visit ⟨_, none⟩ => 1
  | .visit ⟨mode, some c⟩ => dialect.cost source mode c
  | .build _ _ => 1

/-- The tasks of all parts together. -/
theorem total_taskCost_visit (parts : List Part) :
    total ((parts.map Task.visit).map (dialect.taskCost source))
      = total (parts.attach.map fun p =>
          match _hc : p.1.node with
          | none => 1
          | some c => dialect.cost source p.1.mode c) := by
  rw [List.map_map, ← List.attach_map_subtype_val parts, List.map_map]
  congr 1
  rw [List.attach_map_subtype_val]
  refine List.map_congr_left fun p _ => ?_
  obtain ⟨⟨mode, node⟩, hp⟩ := p
  cases node <;> rfl

/-- A frame's parts and its building cost less than the node did. -/
theorem cost_framed {mode : Mode} {n : Node} {frame : Frame} {parts : List Part}
    (h : dialect.step source mode n = .ok (.framed frame parts)) :
    total ((parts.map Task.visit).map (dialect.taskCost source)) + 1
      < dialect.cost source mode n := by
  rw [total_taskCost_visit, cost]
  split
  · next h' => rw [h] at h'; cases h'
  · next h' => rw [h] at h'; cases h'
  · next h' =>
    rw [h] at h'
    cases h'
    omega

theorem cost_pos (mode : Mode) (n : Node) : 0 < dialect.cost source mode n := by
  rw [cost]; split <;> omega

/-- Carries out tasks, first one first, on results, last one first. -/
def machine : List Task → List Diagram → Except Defect (List Diagram)
  | [], results => .ok results
  | .build frame arity :: tasks, results =>
      match frame.fill (results.take arity).reverse with
      | .error e => .error e
      | .ok d => machine tasks (d :: results.drop arity)
  | .visit ⟨_, none⟩ :: _, _ => .error .missingChild
  | .visit ⟨mode, some n⟩ :: tasks, results =>
      match h : dialect.step source mode n with
      | .error e => .error e
      | .ok (.finished d) => machine tasks (d :: results)
      | .ok (.framed frame parts) =>
          machine (parts.map Task.visit ++ .build frame parts.length :: tasks) results
termination_by tasks => total (tasks.map (dialect.taskCost source))
decreasing_by
  · simp [total, taskCost]
  · have := dialect.cost_pos source mode n
    simp [total, taskCost]; omega
  · have := dialect.cost_framed source h
    simp only [List.attach_map_val, List.map_append, List.map_cons, total_append,
      total, taskCost] at this ⊢
    omega

/-- The diagram of a node, by the machine. -/
def run (mode : Mode) (n : Node) : Except Defect Diagram :=
  match dialect.machine source [.visit ⟨mode, some n⟩] [] with
  | .error e => .error e
  | .ok (d :: _) => .ok d
  | .ok [] => .error .missingChild

end Dialect

end AnalysisDiagram
