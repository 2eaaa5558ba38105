/-
  AnalysisDiagram.Proofs.Lowering.Machine
  ───────────────────────────────────────
  The machine with its two lists does what the recursion does.

  One list of results serves all frames that wait to be built.  What keeps
  them apart is the order of the tasks: when a frame is built, the results on
  top are those of its own parts and nothing else.

      machine_visit_node  — visiting a node puts its diagram on the results,
                            or fails as lowering the node does
      run_eq_lower        — hence both ways to lower agree, failures included
      Held                — what the two lists hold after any number of turns
      held_of_turns       — which every turn keeps
-/
import AnalysisDiagram.Proofs.Lowering.Recursion

namespace AnalysisDiagram.Dialect

open AnalysisDiagram.Outcome

variable (dialect : Dialect) (source : Source)

/-! ## §1. The machine against the recursion. -/

theorem machine_nil (results : List Diagram) : dialect.machine source [] results = .ok results := by
  rw [machine]

/-- Building a frame on top of the diagrams of its parts uses up exactly these. -/
theorem machine_build (frame : Frame) (ds : List Diagram) (tasks : List Task)
    (results : List Diagram) :
    dialect.machine source (.build frame ds.length :: tasks) (ds.reverse ++ results)
      = frame.fill ds >>= fun d => dialect.machine source tasks (d :: results) := by
  have htake : ((ds.reverse ++ results).take ds.length).reverse = ds := by
    rw [List.take_left' List.length_reverse, List.reverse_reverse]
  have hdrop : (ds.reverse ++ results).drop ds.length = results :=
    List.drop_left' List.length_reverse
  rw [machine, htake, hdrop]
  cases frame.fill ds with
  | error e => rfl
  | ok d => rfl

/-- Visiting parts one after the other, if visiting each of them does what
lowering it does. -/
theorem machine_visits {parts : List Part}
    (h : ∀ p ∈ parts, ∀ tasks results, dialect.machine source (.visit p :: tasks) results
      = dialect.lowerPart source p >>= fun d => dialect.machine source tasks (d :: results))
    (tasks : List Task) (results : List Diagram) :
    dialect.machine source (parts.map Task.visit ++ tasks) results
      = parts.mapM (dialect.lowerPart source) >>= fun ds =>
          dialect.machine source tasks (ds.reverse ++ results) := by
  induction parts generalizing results with
  | nil => rfl
  | cons p parts ih =>
    have hp := h p List.mem_cons_self (parts.map Task.visit ++ tasks) results
    have ih := ih fun q hq => h q (List.mem_cons_of_mem p hq)
    show dialect.machine source (.visit p :: (parts.map Task.visit ++ tasks)) results = _
    rw [hp, List.mapM_cons]
    cases dialect.lowerPart source p with
    | error e => rfl
    | ok d =>
      show dialect.machine source (parts.map Task.visit ++ tasks) (d :: results) = _
      rw [ih (d :: results)]
      cases parts.mapM (dialect.lowerPart source) with
      | error e => rfl
      | ok ds =>
        show _ = dialect.machine source tasks ((d :: ds).reverse ++ results)
        rw [List.reverse_cons, List.append_assoc]
        rfl

/-- Visiting a node puts its diagram on the results, or fails as lowering it
does. -/
theorem machine_visit_node (mode : Mode) (n : Node) (tasks : List Task) (results : List Diagram) :
    dialect.machine source (.visit ⟨mode, some n⟩ :: tasks) results
      = dialect.lower source mode n >>= fun d => dialect.machine source tasks (d :: results) := by
  induction n using node_induction generalizing mode tasks results with
  | ih n hn =>
    rw [machine]
    split
    · next e h => rw [lower_eq, h]; rfl
    · next d h => rw [lower_finished h]; rfl
    · next frame parts h =>
      -- the parts are smaller than `n`, so each of them may be visited by hypothesis
      have hparts : ∀ p ∈ parts, ∀ tasks results,
          dialect.machine source (.visit p :: tasks) results
            = dialect.lowerPart source p >>= fun d =>
                dialect.machine source tasks (d :: results) := by
        intro p hp tasks results
        have hbelow := dialect.step_below source mode n _ h p hp
        obtain ⟨pmode, node⟩ := p
        cases node with
        | none => rw [machine]; rfl
        | some c => exact hn c (hbelow c rfl) pmode tasks results
      rw [machine_visits dialect source hparts, lower_framed h]
      cases hds : parts.mapM (dialect.lowerPart source) with
      | error e => rfl
      | ok ds =>
        show dialect.machine source (.build frame parts.length :: tasks) (ds.reverse ++ results)
          = frame.fill ds >>= fun d => dialect.machine source tasks (d :: results)
        rw [← machine_build, (mapM_eq_ok_iff.1 hds).length_eq]

/-- Both ways to lower a node agree: in the diagram, and in the failure. -/
theorem run_eq_lower (mode : Mode) (n : Node) :
    dialect.run source mode n = dialect.lower source mode n := by
  rw [run, machine_visit_node]
  simp only [machine_nil]
  cases dialect.lower source mode n with
  | error e => rfl
  | ok d => rfl

/-! ## §2. The machine, turn by turn. -/

/-- What the machine holds between two turns: the tasks, the next one first,
and the results, the last one first. -/
structure State where
  tasks : List Task
  results : List Diagram

/-- The state after a visit whose step is known. -/
def State.visited (tasks : List Task) (results : List Diagram) : Step → State
  | .finished d => ⟨tasks, d :: results⟩
  | .framed frame parts => ⟨parts.map Task.visit ++ .build frame parts.length :: tasks, results⟩

/-- One turn: the next task is carried out.  No task, no turn. -/
def turn (s : State) : Except Defect (Option State) :=
  match s.tasks with
  | [] => .ok none
  | .build frame arity :: tasks => do
      let d ← frame.fill (s.results.take arity).reverse
      return some ⟨tasks, d :: s.results.drop arity⟩
  | .visit ⟨_, none⟩ :: _ => .error .missingChild
  | .visit ⟨mode, some n⟩ :: tasks => do
      let step ← dialect.step source mode n
      return some (.visited tasks s.results step)

theorem turn_build (frame : Frame) (arity : Nat) (tasks : List Task) (results : List Diagram) :
    dialect.turn source ⟨.build frame arity :: tasks, results⟩
      = frame.fill (results.take arity).reverse >>= fun d =>
          .ok (some ⟨tasks, d :: results.drop arity⟩) := rfl

theorem turn_visit (mode : Mode) (n : Node) (tasks : List Task) (results : List Diagram) :
    dialect.turn source ⟨.visit ⟨mode, some n⟩ :: tasks, results⟩
      = dialect.step source mode n >>= fun step =>
          .ok (some (.visited tasks results step)) := rfl

/-- The machine takes turns until there is none to take, or one fails. -/
theorem machine_eq_turn (s : State) :
    dialect.machine source s.tasks s.results
      = dialect.turn source s >>= fun next =>
          match next with
          | none => .ok s.results
          | some t => dialect.machine source t.tasks t.results := by
  obtain ⟨tasks, results⟩ := s
  match tasks with
  | [] => exact machine_nil dialect source results
  | .build frame arity :: tasks =>
    show dialect.machine source (.build frame arity :: tasks) results = _
    rw [machine, turn_build]
    cases frame.fill (results.take arity).reverse with
    | error e => rfl
    | ok d => rfl
  | .visit ⟨mode, none⟩ :: tasks =>
    show dialect.machine source (.visit ⟨mode, none⟩ :: tasks) results = _
    rw [machine]
    rfl
  | .visit ⟨mode, some n⟩ :: tasks =>
    show dialect.machine source (.visit ⟨mode, some n⟩ :: tasks) results = _
    rw [machine, turn_visit]
    split
    · next e h => rw [h]; rfl
    · next d h => rw [h]; rfl
    · next frame parts h => rw [h]; rfl

/-- Everything that a turn can do. -/
theorem turn_cases {s t : State} (h : dialect.turn source s = .ok (some t)) :
    (∃ frame arity tasks d, s.tasks = .build frame arity :: tasks
      ∧ frame.fill (s.results.take arity).reverse = .ok d
      ∧ t = ⟨tasks, d :: s.results.drop arity⟩)
    ∨ (∃ mode n tasks d, s.tasks = .visit ⟨mode, some n⟩ :: tasks
      ∧ dialect.step source mode n = .ok (.finished d) ∧ t = ⟨tasks, d :: s.results⟩)
    ∨ (∃ mode n tasks frame parts, s.tasks = .visit ⟨mode, some n⟩ :: tasks
      ∧ dialect.step source mode n = .ok (.framed frame parts)
      ∧ t = ⟨parts.map Task.visit ++ .build frame parts.length :: tasks, s.results⟩) := by
  obtain ⟨tasks, results⟩ := s
  unfold turn at h
  split at h
  · cases h
  · next frame arity tasks htasks =>
    obtain ⟨d, hd, h⟩ := bind_eq_ok_iff.1 h
    cases h
    exact .inl ⟨frame, arity, tasks, d, htasks, hd, rfl⟩
  · cases h
  · next mode n tasks htasks =>
    obtain ⟨step, hstep, h⟩ := bind_eq_ok_iff.1 h
    cases step with
    | finished d =>
      cases h
      exact .inr (.inl ⟨mode, n, tasks, d, htasks, hstep, rfl⟩)
    | framed frame parts =>
      cases h
      exact .inr (.inr ⟨mode, n, tasks, frame, parts, htasks, hstep, rfl⟩)

/-- The state after a number of turns. -/
inductive Turns : Nat → State → State → Prop
  | zero (s : State) : Turns 0 s s
  | succ {k : Nat} {s t u : State} (h : Turns k s t)
      (hturn : dialect.turn source t = .ok (some u)) :
      Turns (k + 1) s u

/-- Turns do not change what the machine comes to. -/
theorem machine_turns {k : Nat} {s t : State} (h : dialect.Turns source k s t) :
    dialect.machine source s.tasks s.results = dialect.machine source t.tasks t.results := by
  induction h with
  | zero => rfl
  | succ _ hturn ih =>
    rw [ih, machine_eq_turn, hturn]
    rfl

/-! ## §3. The machine stops. -/

/-- What the tasks of a state give rise to, all together. -/
def State.due (s : State) : Nat := total (s.tasks.map (dialect.taskCost source))

/-- Every turn leaves less to do. -/
theorem due_turn_lt {s t : State} (h : dialect.turn source s = .ok (some t)) :
    t.due dialect source < s.due dialect source := by
  unfold State.due
  obtain ⟨frame, arity, tasks, d, hs, _, rfl⟩ | ⟨mode, n, tasks, d, hs, _, rfl⟩
    | ⟨mode, n, tasks, frame, parts, hs, hstep, rfl⟩ := turn_cases dialect source h
  · rw [hs, List.map_cons, total]
    show total (tasks.map _) < 1 + total (tasks.map _)
    omega
  · have hpos := dialect.cost_pos source mode n
    rw [hs, List.map_cons, total]
    show total (tasks.map _) < dialect.cost source mode n + total (tasks.map _)
    omega
  · have hlt := dialect.cost_framed source hstep
    rw [hs, List.map_append, total_append, List.map_cons, total, List.map_cons, total]
    show _ + (1 + total (tasks.map _)) < dialect.cost source mode n + total (tasks.map _)
    omega

theorem turns_add_due_le {k : Nat} {s t : State} (h : dialect.Turns source k s t) :
    k + t.due dialect source ≤ s.due dialect source := by
  induction h with
  | zero => omega
  | succ _ hturn ih =>
    have := due_turn_lt dialect source hturn
    omega

/-- From every state some number of turns leads to one where there is no turn
to take, or where the next one fails. -/
theorem exists_last_turn (s : State) :
    ∃ k t, dialect.Turns source k s t ∧ ∀ u, dialect.turn source t ≠ .ok (some u) := by
  by_contra hnone
  -- otherwise there would be as many turns as we like, each of them with less to do
  have hall : ∀ k, ∃ t, dialect.Turns source k s t := by
    intro k
    induction k with
    | zero => exact ⟨s, .zero s⟩
    | succ k ih =>
      obtain ⟨t, ht⟩ := ih
      by_contra hlast
      refine hnone ⟨k, t, ht, fun u hu => hlast ⟨u, .succ ht hu⟩⟩
  obtain ⟨t, ht⟩ := hall (s.due dialect source + 1)
  have := turns_add_due_le dialect source ht
  omega

/-! ## §4. What the two lists hold. -/

/-- The machine before its first turn. -/
def State.initial (first : Part) : State := ⟨[.visit first], []⟩

/-- The machine just before it visits a node. -/
def State.before (mode : Mode) (n : Node) (rest : List Task) (below : List Diagram) : State :=
  ⟨.visit ⟨mode, some n⟩ :: rest, below⟩

/-- What the machine holds after `k` turns.  Somewhere inside a frame, the
parts that are done have left their diagrams on top of the results, the other
parts are the next tasks, and both lists go on as they stood when the node of
the frame was visited. -/
inductive Held (first : Part) : Nat → State → Prop
  | start : Held first 0 (.initial first)
  | inside {j k : Nat} {mode : Mode} {n : Node} {rest : List Task} {below : List Diagram}
      {frame : Frame} {done todo : List Part} {ds : List Diagram} (hjk : j < k)
      (hvisit : dialect.Turns source j (.initial first) (.before mode n rest below))
      (hbefore : Held first j (.before mode n rest below))
      (hstep : dialect.step source mode n = .ok (.framed frame (done ++ todo)))
      (hdone : done.mapM (dialect.lowerPart source) = .ok ds) :
      Held first k
        ⟨todo.map Task.visit ++ .build frame (done ++ todo).length :: rest, ds.reverse ++ below⟩
  | ended {k : Nat} {d : Diagram} (h : dialect.lowerPart source first = .ok d) :
      Held first k ⟨[], [d]⟩

variable {dialect source}

/-- A visit that is over has put one diagram on the results. -/
theorem Held.advance {first p : Part} {j k : Nat} {rest : List Task} {below : List Diagram}
    {d : Diagram} (h : dialect.Held source first j ⟨.visit p :: rest, below⟩) (hjk : j < k)
    (hd : dialect.lowerPart source p = .ok d) :
    dialect.Held source first k ⟨rest, d :: below⟩ := by
  generalize hs : State.mk (.visit p :: rest) below = s at h
  cases h with
  | start =>
    cases hs
    exact .ended hd
  | @inside i _ mode n outer under frame done todo ds hij hvisit hbefore hstep hdone =>
    match todo with
    | [] => cases hs
    | q :: todo =>
      cases hs
      -- the part that was visited moves from `todo` to `done`
      have hparts : done ++ p :: todo = (done ++ [p]) ++ todo := by rw [List.append_cons]
      have hdone' : (done ++ [p]).mapM (dialect.lowerPart source) = .ok (ds ++ [d]) := by
        rw [List.mapM_append, hdone, List.mapM_cons, hd]
        rfl
      have hresults : d :: (ds.reverse ++ under) = (ds ++ [d]).reverse ++ under := by
        rw [List.reverse_append]
        rfl
      rw [hparts] at hstep ⊢
      rw [hresults]
      exact .inside (by omega) hvisit hbefore hstep hdone'
  | ended h => cases hs

/-- A frame is built on top of the diagrams of its own parts. -/
theorem Held.of_build {first : Part} {k : Nat} {frame : Frame} {arity : Nat} {rest : List Task}
    {results : List Diagram}
    (h : dialect.Held source first k ⟨.build frame arity :: rest, results⟩) :
    ∃ j mode n parts ds below, j < k
      ∧ dialect.Turns source j (.initial first) (.before mode n rest below)
      ∧ dialect.Held source first j (.before mode n rest below)
      ∧ dialect.step source mode n = .ok (.framed frame parts)
      ∧ arity = parts.length
      ∧ parts.mapM (dialect.lowerPart source) = .ok ds
      ∧ results = ds.reverse ++ below := by
  generalize hs : State.mk (.build frame arity :: rest) results = s at h
  cases h with
  | start => cases hs
  | @inside j _ mode n outer below frame' done todo ds hjk hvisit hbefore hstep hdone =>
    match todo with
    | [] =>
      cases hs
      rw [List.append_nil] at hstep ⊢
      exact ⟨j, mode, n, done, ds, below, hjk, hvisit, hbefore, hstep, rfl, hdone, rfl⟩
    | q :: todo => cases hs
  | ended h => cases hs

/-- A machine without tasks holds the diagram of its first part and nothing
else. -/
theorem Held.of_no_task {first : Part} {k : Nat} {results : List Diagram}
    (h : dialect.Held source first k ⟨[], results⟩) :
    ∃ d, results = [d] ∧ dialect.lowerPart source first = .ok d := by
  generalize hs : State.mk [] results = s at h
  cases h with
  | start => cases hs
  | @inside _ _ _ _ _ _ _ _ todo => cases todo <;> cases hs
  | @ended _ d hd =>
    cases hs
    exact ⟨d, rfl, hd⟩

/-- Every turn keeps what the machine holds. -/
theorem Held.turn {first : Part} {k : Nat} {s t : State}
    (h : dialect.Held source first k s) (hturns : dialect.Turns source k (.initial first) s)
    (hturn : dialect.turn source s = .ok (some t)) : dialect.Held source first (k + 1) t := by
  obtain ⟨tasks, results⟩ := s
  obtain ⟨frame, arity, rest, d, hs, hfill, rfl⟩ | ⟨mode, n, rest, d, hs, hstep, rfl⟩
    | ⟨mode, n, rest, frame, parts, hs, hstep, rfl⟩ := turn_cases dialect source hturn
  · have hs : tasks = .build frame arity :: rest := hs
    subst hs
    obtain ⟨j, mode, n, parts, ds, below, hjk, _, hbefore, hstep, rfl, hds, rfl⟩ := h.of_build
    have hlen : ds.length = parts.length := (mapM_eq_ok_iff.1 hds).length_eq.symm
    have hfill : frame.fill ((ds.reverse ++ below).take parts.length).reverse = .ok d := hfill
    rw [← hlen, List.take_left' List.length_reverse, List.reverse_reverse] at hfill
    have hlow : dialect.lowerPart source ⟨mode, some n⟩ = .ok d := by
      rw [lowerPart_some, lower_framed hstep, hds]
      exact hfill
    show dialect.Held source first (k + 1) ⟨rest, d :: (ds.reverse ++ below).drop parts.length⟩
    rw [← hlen, List.drop_left' List.length_reverse]
    exact hbefore.advance (by omega) hlow
  · have hs : tasks = .visit ⟨mode, some n⟩ :: rest := hs
    subst hs
    exact h.advance (Nat.lt_succ_self k) (lower_finished hstep)
  · have hs : tasks = .visit ⟨mode, some n⟩ :: rest := hs
    subst hs
    have hstep : dialect.step source mode n = .ok (.framed frame ([] ++ parts)) := hstep
    have hnone : ([] : List Part).mapM (dialect.lowerPart source) = .ok [] := rfl
    exact .inside (Nat.lt_succ_self k) hturns h hstep hnone

theorem held_of_turns {first : Part} {k : Nat} {s : State}
    (h : dialect.Turns source k (.initial first) s) : dialect.Held source first k s := by
  generalize hfirst : State.initial first = i at h
  induction h with
  | zero =>
    subst hfirst
    exact .start
  | succ hturns hturn ih =>
    subst hfirst
    exact (ih rfl).turn hturns hturn

/-! ## §5. The machine refines the recursion. -/

/-- The last turn of a run decides its outcome. -/
theorem run_of_last_turn {mode : Mode} {n : Node} {k : Nat} {s : State}
    (hturns : dialect.Turns source k (.initial ⟨mode, some n⟩) s)
    (hlast : ∀ u, dialect.turn source s ≠ .ok (some u)) :
    (s.tasks = [] ∧ ∃ d, s.results = [d] ∧ dialect.run source mode n = .ok d)
      ∨ ∃ e, dialect.turn source s = .error e ∧ dialect.run source mode n = .error e := by
  have hmachine : dialect.machine source [.visit ⟨mode, some n⟩] []
      = dialect.machine source s.tasks s.results := machine_turns dialect source hturns
  cases hturn : dialect.turn source s with
  | error e =>
    refine .inr ⟨e, rfl, ?_⟩
    rw [run, hmachine, machine_eq_turn, hturn]
    rfl
  | ok next =>
    cases next with
    | some u => exact absurd hturn (hlast u)
    | none =>
      obtain ⟨tasks, results⟩ := s
      have htasks : tasks = [] := by
        unfold turn at hturn
        split at hturn
        · next htasks => exact htasks
        · obtain ⟨d, _, h⟩ := bind_eq_ok_iff.1 hturn
          cases h
        · cases hturn
        · obtain ⟨step, _, h⟩ := bind_eq_ok_iff.1 hturn
          cases h
      subst htasks
      obtain ⟨d, hresults, hd⟩ := (held_of_turns hturns).of_no_task
      refine .inl ⟨rfl, d, hresults, ?_⟩
      rw [run_eq_lower]
      exact hd

/-- **The machine refines the recursion.**  It comes to what plain recursion
comes to, the same diagram or the same failure; it does so after a bounded
number of turns, with exactly one result left; and whenever it builds a frame,
the results on top are the diagrams of the parts of that very frame, in order,
above what was there when the frame's node was visited. -/
theorem machine_refines_recursion (dialect : Dialect) (source : Source) (mode : Mode) (n : Node) :
    (dialect.run source mode n = dialect.lower source mode n
      ∧ dialect.lower source mode n
        = dialect.step source mode n >>= Step.finish (dialect.lowerPart source))
    ∧ (∀ k s, dialect.Turns source k (.initial ⟨mode, some n⟩) s → k ≤ dialect.cost source mode n)
    ∧ (∃ k s, dialect.Turns source k (.initial ⟨mode, some n⟩) s
      ∧ ((s.tasks = [] ∧ ∃ d, s.results = [d] ∧ dialect.run source mode n = .ok d)
        ∨ ∃ e, dialect.turn source s = .error e ∧ dialect.run source mode n = .error e))
    ∧ (∀ k results, dialect.Turns source k (.initial ⟨mode, some n⟩) ⟨[], results⟩ →
      ∃ d, results = [d] ∧ dialect.lower source mode n = .ok d)
    ∧ (∀ k frame arity rest results,
      dialect.Turns source k (.initial ⟨mode, some n⟩) ⟨.build frame arity :: rest, results⟩ →
      ∃ j mode' n' parts ds below, j < k
        ∧ dialect.Turns source j (.initial ⟨mode, some n⟩) (.before mode' n' rest below)
        ∧ dialect.step source mode' n' = .ok (.framed frame parts)
        ∧ arity = parts.length
        ∧ parts.mapM (dialect.lowerPart source) = .ok ds
        ∧ (results.take arity).reverse = ds
        ∧ results.drop arity = below) := by
  refine ⟨⟨run_eq_lower dialect source mode n, lower_eq mode n⟩, ?_, ?_, ?_, ?_⟩
  · intro k s h
    have hle := turns_add_due_le dialect source h
    have hdue : (State.initial ⟨mode, some n⟩).due dialect source = dialect.cost source mode n := by
      show dialect.cost source mode n + 0 = _
      rw [Nat.add_zero]
    omega
  · obtain ⟨k, s, hturns, hlast⟩ := exists_last_turn dialect source (.initial ⟨mode, some n⟩)
    exact ⟨k, s, hturns, run_of_last_turn hturns hlast⟩
  · intro k results h
    exact (held_of_turns h).of_no_task
  · intro k frame arity rest results h
    obtain ⟨j, mode', n', parts, ds, below, hjk, hvisit, _, hstep, rfl, hds, rfl⟩ :=
      (held_of_turns h).of_build
    have hlen : ds.length = parts.length := (mapM_eq_ok_iff.1 hds).length_eq.symm
    refine ⟨j, mode', n', parts, ds, below, hjk, hvisit, hstep, rfl, hds, ?_, ?_⟩
    · rw [← hlen, List.take_left' List.length_reverse, List.reverse_reverse]
    · rw [← hlen, List.drop_left' List.length_reverse]

end AnalysisDiagram.Dialect
