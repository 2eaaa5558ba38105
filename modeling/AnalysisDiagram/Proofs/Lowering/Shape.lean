/-
  AnalysisDiagram.Proofs.Lowering.Shape
  ─────────────────────────────────────
  Where the six sorts of nodes can stand in a lowered function.

  A function becomes a block around one sequence.  Below that sequence there
  are no blocks and no errors, however deep it nests; and in Rust, what a
  choice does first and what a loop repeats is always a sequence.

      Everywhere q d        — `q` holds at every node of `d`
      Rust.lower_function, JavaScript.lower_function
                            — the block of a function, and what is below it
-/
import AnalysisDiagram.Proofs.Lowering.Steps

namespace AnalysisDiagram

/-! ## §1. Properties of every node. -/

namespace Diagram

/-- Steps of a body: all nodes but blocks and errors. -/
def isStep : Diagram → Bool
  | .block _ _ => false
  | .error _ => false
  | _ => true

/-- Whether the node at the top is a sequence. -/
def isSequence : Diagram → Bool
  | .sequence _ => true
  | _ => false

/-- Whether what a choice does first, or what a loop repeats, is a sequence. -/
def leadsToSequence : Diagram → Bool
  | .branch _ t _ => t.isSequence
  | .loop _ body => body.isSequence
  | _ => true

/-- A property holds at every node of a diagram. -/
def Everywhere (q : Diagram → Prop) (d : Diagram) : Prop := ∀ x ∈ d.preorder, q x

variable {q : Diagram → Prop}

theorem mem_preorders {x : Diagram} {ds : List Diagram} :
    x ∈ preorders ds ↔ ∃ d ∈ ds, x ∈ d.preorder := by
  induction ds with
  | nil => simp [preorders]
  | cons d ds ih => rw [preorders, List.mem_append, ih, List.exists_mem_cons_iff]

theorem everywhere_command {label : String} :
    Everywhere q (.command label) ↔ q (.command label) := by
  unfold Everywhere
  simp [preorder]

theorem everywhere_sequence {ds : List Diagram} :
    Everywhere q (.sequence ds) ↔ q (.sequence ds) ∧ ∀ d ∈ ds, Everywhere q d := by
  unfold Everywhere
  rw [preorder, List.forall_mem_cons]
  refine and_congr_right fun _ => ⟨fun h d hd x hx => h x (mem_preorders.2 ⟨d, hd, hx⟩), ?_⟩
  intro h x hx
  obtain ⟨d, hd, hx⟩ := mem_preorders.1 hx
  exact h d hd x hx

theorem everywhere_branch {condition : String} {t : Diagram} {e : Option Diagram} :
    Everywhere q (.branch condition t e)
      ↔ q (.branch condition t e) ∧ Everywhere q t ∧ ∀ d, e = some d → Everywhere q d := by
  unfold Everywhere
  rw [preorder, List.forall_mem_cons, List.forall_mem_append]
  refine and_congr_right fun _ => and_congr_right fun _ => ?_
  cases e with
  | none => simp [preorder?]
  | some d => simp [preorder?]

theorem everywhere_loop {condition : String} {body : Diagram} :
    Everywhere q (.loop condition body) ↔ q (.loop condition body) ∧ Everywhere q body := by
  unfold Everywhere
  rw [preorder, List.forall_mem_cons]

end Diagram

open AnalysisDiagram.Diagram

/-- A frame other than a block, filled with diagrams that have a property
everywhere, has it everywhere if it has it at the top. -/
theorem Frame.everywhere_fill {q : Diagram → Prop} {frame : Frame} {ds : List Diagram}
    {d : Diagram} (hfill : frame.fill ds = .ok d) (hframe : ∀ label, frame ≠ .block label)
    (hds : ∀ x ∈ ds, Everywhere q x) (hd : q d) : Everywhere q d := by
  obtain ⟨_, rfl⟩ | ⟨label, hlabel, _⟩ | ⟨condition, t, _, rfl, rfl⟩
    | ⟨condition, t, e, _, rfl, rfl⟩ | ⟨condition, body, _, rfl, rfl⟩ := Frame.fill_cases hfill
  · exact everywhere_sequence.2 ⟨hd, hds⟩
  · exact absurd hlabel (hframe label)
  · exact everywhere_branch.2 ⟨hd, hds t List.mem_cons_self, nofun⟩
  · refine everywhere_branch.2 ⟨hd, hds t List.mem_cons_self, ?_⟩
    intro x hx
    cases hx
    exact hds e (List.mem_cons_of_mem t List.mem_cons_self)
  · exact everywhere_loop.2 ⟨hd, hds body List.mem_cons_self⟩

namespace Dialect

open AnalysisDiagram.Outcome

variable {source : Source}

/-! ## §2. Steps inside a body. -/

/-- Steps below a function: none of them makes a block or starts another
function, a block becomes a sequence, and what a choice or a loop leads to is
read in the mode `first`. -/
def StaysInside (first mode : Mode) : Step → Prop
  | .finished d => mode ≠ .block ∧ ∃ label, d = .command label
  | .framed frame parts =>
      (mode = .block → frame = .sequence) ∧ (∀ label, frame ≠ .block label)
        ∧ (∀ p ∈ parts, p.mode ≠ .function)
        ∧ (frame ≠ .sequence → ∀ p ∈ parts.head?, p.mode = first)

/-- What holds at every node below a function: no block, no error, and where
bodies are read as blocks, sequences in their places. -/
def Tidy (first : Mode) (d : Diagram) : Prop :=
  d.isStep = true ∧ (first = .block → d.leadsToSequence = true)

theorem tidy_command (first : Mode) (label : String) : Tidy first (.command label) :=
  ⟨rfl, fun _ => rfl⟩

/-- Steps that stay inside make diagrams that are tidy everywhere. -/
theorem lower_tidy {dialect : Dialect} {first : Mode}
    (hsteps : ∀ mode n s, mode ≠ .function → dialect.step source mode n = .ok s →
      StaysInside first mode s)
    {mode : Mode} {n : Node} {d : Diagram} (hmode : mode ≠ .function)
    (h : dialect.lower source mode n = .ok d) :
    (mode = .block → d.isSequence = true) ∧ Everywhere (Tidy first) d := by
  revert hmode
  refine lower_induction (P := fun mode _ d => mode ≠ .function →
    (mode = .block → d.isSequence = true) ∧ Everywhere (Tidy first) d) ?_ ?_ h
  · intro mode n d hstep hmode
    obtain ⟨hblock, label, rfl⟩ := hsteps mode n _ hmode hstep
    exact ⟨fun h => absurd h hblock, everywhere_command.2 (tidy_command first label)⟩
  · intro mode n frame parts ds d hstep hparts hfill hmode
    obtain ⟨hblock, hframe, hinner, hhead⟩ := hsteps mode n _ hmode hstep
    have hds : ∀ x ∈ ds, Everywhere (Tidy first) x := by
      intro x hx
      obtain ⟨p, hp, c, _, _, hP⟩ := exists_mem_of_forall₂ hparts hx
      exact (hP (hinner p hp)).2
    -- the first diagram of a choice or a loop is a sequence if its part is a block
    have hfirst : frame ≠ .sequence → ∀ x rest, ds = x :: rest → first = .block →
        x.isSequence = true := by
      intro hseq x rest hx hfirst
      subst hx
      obtain ⟨p, ps, ⟨c, _, _, hP⟩, _, rfl⟩ := List.forall₂_cons_right_iff.1 hparts
      have hp : p.mode = .block := hfirst ▸ hhead hseq p rfl
      exact (hP (hinner p List.mem_cons_self)).1 hp
    constructor
    · intro h
      have hseq := hblock h
      subst hseq
      cases hfill
      rfl
    · refine Frame.everywhere_fill hfill hframe hds ?_
      obtain ⟨_, rfl⟩ | ⟨label, hlabel, _⟩ | ⟨condition, t, rfl, rfl, rfl⟩
        | ⟨condition, t, e, rfl, rfl, rfl⟩ | ⟨condition, body, rfl, rfl, rfl⟩ :=
          Frame.fill_cases hfill
      · exact ⟨rfl, fun _ => rfl⟩
      · exact absurd hlabel (hframe label)
      · exact ⟨rfl, hfirst nofun t [] rfl⟩
      · exact ⟨rfl, hfirst nofun t [e] rfl⟩
      · exact ⟨rfl, hfirst nofun body [] rfl⟩

/-- A function whose step is a block around its body becomes that block around
one sequence, below which everything is tidy. -/
theorem lower_function_of_step {dialect : Dialect} {first : Mode}
    (hsteps : ∀ mode n s, mode ≠ .function → dialect.step source mode n = .ok s →
      StaysInside first mode s)
    {n : Node} {label : String} {d : Diagram}
    (hstep : dialect.step source .function n
      = .ok (.framed (.block label) [⟨.block, n.child? .body⟩]))
    (h : dialect.lower source .function n = .ok d) :
    ∃ steps, d = .block label [.sequence steps] ∧ ∀ x ∈ preorders steps, Tidy first x := by
  rw [lower_framed hstep] at h
  obtain ⟨ds, hds, hfill⟩ := bind_eq_ok_iff.1 h
  obtain ⟨body, rest, hbody, hrest, rfl⟩ := List.forall₂_cons_left_iff.1 (mapM_eq_ok_iff.1 hds)
  cases hrest
  cases hfill
  obtain ⟨c, _, hlow⟩ := lowerPart_eq_ok_iff.1 hbody
  have hmode : Mode.block ≠ .function := nofun
  obtain ⟨hseq, htidy⟩ := lower_tidy hsteps hmode hlow
  cases body with
  | sequence steps =>
    refine ⟨steps, rfl, fun x hx => ?_⟩
    obtain ⟨d, hd, hx⟩ := mem_preorders.1 hx
    exact (everywhere_sequence.1 htidy).2 d hd x hx
  | _ => cases hseq rfl

/-! ## §3. The two dialects. -/

namespace Rust

theorem staysInside_expressionStep {mode : Mode} {n : Node} {s : Step} (hmode : mode ≠ .block)
    (h : expressionStep source n = .ok s) : StaysInside .block mode s := by
  obtain ⟨_, c, _, rfl⟩ | ⟨_, c, _, rfl⟩ | ⟨_, p, v, _, _, rfl⟩ | ⟨_, rfl⟩ | ⟨_, rfl⟩ :=
    expressionStep_cases h
  · refine ⟨fun h => absurd h hmode, nofun, fun p hp => ?_, fun _ p hp => ?_⟩
    · rcases mem_branchParts.1 hp with rfl | ⟨arm, _, rfl⟩ <;> nofun
    · cases hp
      rfl
  · refine ⟨fun h => absurd h hmode, nofun, fun p hp => ?_, fun _ p hp => ?_⟩
    · cases List.mem_singleton.1 hp
      nofun
    · cases hp
      rfl
  · refine ⟨fun h => absurd h hmode, nofun, fun p hp => ?_, fun _ p hp => ?_⟩
    · cases List.mem_singleton.1 hp
      nofun
    · cases hp
      rfl
  · refine ⟨fun _ => rfl, nofun, fun p hp => ?_, fun h => absurd rfl h⟩
    obtain ⟨c, _, rfl⟩ := List.mem_map.1 hp
    nofun
  · exact ⟨hmode, _, rfl⟩

theorem staysInside_step {mode : Mode} {n : Node} {s : Step} (hmode : mode ≠ .function)
    (h : step source mode n = .ok s) : StaysInside .block mode s := by
  cases mode with
  | function => exact absurd rfl hmode
  | block =>
    cases h
    refine ⟨fun _ => rfl, nofun, fun p hp => ?_, fun h => absurd rfl h⟩
    obtain ⟨c, _, rfl⟩ := List.mem_map.1 hp
    nofun
  | expression => exact staysInside_expressionStep nofun h
  | statement =>
    have h : statementStep source n = .ok s := h
    rcases statementStep_cases source n with ⟨e, _, he⟩ | ⟨_, label, hlabel⟩
    · rw [he] at h
      exact staysInside_expressionStep nofun h
    · rw [hlabel] at h
      cases h
      exact ⟨nofun, label, rfl⟩

/-- The block of a function: its name around one sequence, below which there
are no blocks and no errors, and all bodies are sequences. -/
def FunctionBlock (source : Source) (n : Node) (d : Diagram) : Prop :=
  ∃ c, n.child? .name = some c ∧ ∃ steps,
    d = .block ("fn " ++ text source c ++ "()") [.sequence steps]
      ∧ ∀ x ∈ preorders steps, x.isStep = true ∧ x.leadsToSequence = true

theorem lower_function {n : Node} {d : Diagram} (h : rust.lower source .function n = .ok d) :
    FunctionBlock source n d := by
  have h' := h
  rw [lower_eq] at h'
  obtain ⟨s, hs, _⟩ := bind_eq_ok_iff.1 h'
  obtain ⟨c, hc, rfl⟩ := functionStep_cases hs
  obtain ⟨steps, hd, htidy⟩ :=
    lower_function_of_step (fun _ _ _ hmode hstep => staysInside_step hmode hstep) hs h
  exact ⟨c, hc, steps, hd, fun x hx => ⟨(htidy x hx).1, (htidy x hx).2 rfl⟩⟩

end Rust

namespace JavaScript

theorem staysInside_blockStep (mode : Mode) (n : Node) :
    StaysInside .statement mode (blockStep n) := by
  refine ⟨fun _ => rfl, nofun, fun p hp => ?_, fun h => absurd rfl h⟩
  obtain ⟨c, _, rfl⟩ := List.mem_map.1 hp
  nofun

theorem staysInside_step {mode : Mode} {n : Node} {s : Step} (hmode : mode ≠ .function)
    (h : step source mode n = .ok s) : StaysInside .statement mode s := by
  cases mode with
  | function => exact absurd rfl hmode
  | block =>
    cases h
    exact staysInside_blockStep .block n
  | expression => cases h
  | statement =>
    cases h
    rcases statementStep_cases source n with
      ⟨_, hs⟩ | ⟨_, hs⟩ | ⟨_, condition, hs⟩ | ⟨_, _, _, hs⟩
    · rw [hs]
      exact staysInside_blockStep .statement n
    · rw [hs]
      refine ⟨nofun, nofun, fun p hp => ?_, fun _ p hp => ?_⟩
      · rcases mem_branchParts.1 hp with rfl | ⟨arm, _, rfl⟩ <;> nofun
      · cases hp
        rfl
    · rw [hs]
      refine ⟨nofun, nofun, fun p hp => ?_, fun _ p hp => ?_⟩
      · cases List.mem_singleton.1 hp
        nofun
      · cases hp
        rfl
    · rw [hs]
      exact ⟨nofun, _, rfl⟩

/-- The block of a function: its name around one sequence, below which there
are no blocks and no errors. -/
def FunctionBlock (source : Source) (n : Node) (d : Diagram) : Prop :=
  ∃ steps, d = .block ("fn " ++ functionName source n ++ "()") [.sequence steps]
    ∧ ∀ x ∈ preorders steps, x.isStep = true

theorem lower_function {n : Node} {d : Diagram}
    (h : javaScript.lower source .function n = .ok d) : FunctionBlock source n d := by
  obtain ⟨steps, hd, htidy⟩ :=
    lower_function_of_step (fun _ _ _ hmode hstep => staysInside_step hmode hstep) rfl h
  exact ⟨steps, hd, fun x hx => (htidy x hx).1⟩

end JavaScript

end Dialect

end AnalysisDiagram
