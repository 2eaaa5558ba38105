/-
  AnalysisDiagram.Proofs.Outcome
  ──────────────────────────────
  Computations that may fail, taken apart.

  Lowering and writing both go from left to right and stop at the first
  failure.  The lemmas say what such a computation must have done:

      bind_eq_ok_iff   — both halves of a bind succeeded
      mapM_eq_ok_iff   — every item of a list succeeded, in order
      mapM_fails_iff   — some item of a list failed
-/
import Mathlib.Data.List.Forall2

namespace AnalysisDiagram.Outcome

variable {ε α β : Type}

/-- Whether a computation fails, whatever the reason. -/
def Fails (x : Except ε α) : Prop := ∃ e, x = .error e

theorem fails_error (e : ε) : Fails (.error e : Except ε α) := ⟨e, rfl⟩

theorem not_fails_ok (a : α) : ¬ Fails (.ok a : Except ε α) := by
  rintro ⟨e, h⟩
  cases h

theorem bind_eq_ok_iff {x : Except ε α} {f : α → Except ε β} {b : β} :
    x >>= f = .ok b ↔ ∃ a, x = .ok a ∧ f a = .ok b := by
  cases x with
  | error e =>
    refine ⟨nofun, ?_⟩
    rintro ⟨a, h, _⟩
    cases h
  | ok a =>
    refine ⟨fun h => ⟨a, rfl, h⟩, ?_⟩
    rintro ⟨a', h, h'⟩
    cases h
    exact h'

theorem bind_eq_error {x : Except ε α} {f : α → Except ε β} {e : ε} (h : x >>= f = .error e) :
    x = .error e ∨ ∃ a, x = .ok a ∧ f a = .error e := by
  cases x with
  | error e' =>
    cases h
    exact .inl rfl
  | ok a => exact .inr ⟨a, rfl, h⟩

theorem bind_fails_iff {x : Except ε α} {f : α → Except ε β} :
    Fails (x >>= f) ↔ Fails x ∨ ∃ a, x = .ok a ∧ Fails (f a) := by
  cases x with
  | error e => exact ⟨fun _ => .inl (fails_error e), fun _ => fails_error e⟩
  | ok a =>
    constructor
    · exact fun h => .inr ⟨a, rfl, h⟩
    · rintro (h | ⟨a', h, h'⟩)
      · exact absurd h (not_fails_ok a)
      · cases h
        exact h'

theorem mapM_eq_ok_iff {f : α → Except ε β} {xs : List α} {ys : List β} :
    xs.mapM f = .ok ys ↔ List.Forall₂ (fun x y => f x = .ok y) xs ys := by
  induction xs generalizing ys with
  | nil =>
    rw [List.mapM_nil, List.forall₂_nil_left_iff]
    exact ⟨fun h => by cases h; rfl, fun h => by rw [h]; rfl⟩
  | cons x xs ih =>
    rw [List.mapM_cons, bind_eq_ok_iff, List.forall₂_cons_left_iff]
    constructor
    · rintro ⟨y, hy, h⟩
      obtain ⟨zs, hzs, h⟩ := bind_eq_ok_iff.1 h
      cases h
      exact ⟨y, zs, hy, ih.1 hzs, rfl⟩
    · rintro ⟨y, zs, hy, hzs, rfl⟩
      exact ⟨y, hy, bind_eq_ok_iff.2 ⟨zs, ih.2 hzs, rfl⟩⟩

theorem mapM_fails_iff {f : α → Except ε β} {xs : List α} :
    Fails (xs.mapM f) ↔ ∃ x ∈ xs, Fails (f x) := by
  induction xs with
  | nil =>
    refine ⟨fun h => absurd h (not_fails_ok []), ?_⟩
    rintro ⟨x, hx, _⟩
    cases hx
  | cons x xs ih =>
    rw [List.mapM_cons, bind_fails_iff, List.exists_mem_cons_iff]
    constructor
    · rintro (h | ⟨y, _, h⟩)
      · exact .inl h
      · rcases bind_fails_iff.1 h with h | ⟨zs, _, h⟩
        · exact .inr (ih.1 h)
        · exact absurd h (not_fails_ok _)
    · intro h
      cases hx : f x with
      | error e => exact .inl (fails_error e)
      | ok y =>
        refine .inr ⟨y, rfl, bind_fails_iff.2 (.inl ?_)⟩
        rcases h with h | h
        · exact absurd (hx ▸ h) (not_fails_ok y)
        · exact ih.2 h

/-- Each result of a list comes from one of its items. -/
theorem exists_mem_of_forall₂ {R : α → β → Prop} {xs : List α} {ys : List β}
    (h : List.Forall₂ R xs ys) {y : β} (hy : y ∈ ys) : ∃ x ∈ xs, R x y := by
  induction h with
  | nil => cases hy
  | @cons x z xs zs hxz _ ih =>
    cases hy with
    | head => exact ⟨x, List.mem_cons_self, hxz⟩
    | tail _ hy =>
      obtain ⟨x', hx', hR⟩ := ih hy
      exact ⟨x', List.mem_cons_of_mem x hx', hR⟩

/-- The first failure of a list is the failure of one of its items. -/
theorem exists_of_mapM_eq_error {f : α → Except ε β} {xs : List α} {e : ε}
    (h : xs.mapM f = .error e) : ∃ x ∈ xs, f x = .error e := by
  induction xs with
  | nil => cases h
  | cons x xs ih =>
    rw [List.mapM_cons] at h
    cases hx : f x with
    | error e' =>
      rw [hx] at h
      cases h
      exact ⟨x, List.mem_cons_self, hx⟩
    | ok y =>
      rw [hx] at h
      cases hxs : xs.mapM f with
      | error e' =>
        have h' : Except.error e' = (.error e : Except ε (List β)) := by
          rw [← h, hxs]; rfl
        cases h'
        obtain ⟨z, hz, hfz⟩ := ih hxs
        exact ⟨z, List.mem_cons_of_mem x hz, hfz⟩
      | ok ys => rw [hxs] at h; cases h

end AnalysisDiagram.Outcome
