/-
  AnalysisDiagram.Proofs.Lowering.Recursion
  ─────────────────────────────────────────
  Lowering by recursion, in the form that proofs use.

      lower mode n = step mode n >>= Step.finish lowerPart

  A step is finished by lowering its parts in order and filling its frame with
  exactly these diagrams.  The equation hides how the recursion ends; what
  remains of that is one induction on the diagrams that lowering makes, and
  one on its failures.
-/
import AnalysisDiagram.Dialect.Basic
import AnalysisDiagram.Proofs.Outcome

namespace AnalysisDiagram

open AnalysisDiagram.Outcome

/-! ## §1. One step, finished. -/

/-- The diagram of a step whose parts are lowered by `lowerPart`, in order. -/
def Step.finish (lowerPart : Part → Except Defect Diagram) : Step → Except Defect Diagram
  | .finished d => .ok d
  | .framed frame parts => do
      let ds ← parts.mapM lowerPart
      frame.fill ds

/-- The frames that take any number of parts that they are given. -/
def Step.Fits : Step → Prop
  | .finished _ => True
  | .framed .sequence _ => True
  | .framed (.block _) _ => True
  | .framed (.branch _) parts => parts.length = 1 ∨ parts.length = 2
  | .framed (.loop _) parts => parts.length = 1

/-- Filling a frame with as many diagrams as it has parts does not fail. -/
theorem Step.Fits.fill {frame : Frame} {parts : List Part} (h : (Step.framed frame parts).Fits)
    {ds : List Diagram} (hlen : ds.length = parts.length) : ∃ d, frame.fill ds = .ok d := by
  cases frame with
  | sequence => exact ⟨_, rfl⟩
  | block label => exact ⟨_, rfl⟩
  | branch condition =>
    have h : parts.length = 1 ∨ parts.length = 2 := h
    rw [← hlen] at h
    match ds, h with
    | [t], _ => exact ⟨_, rfl⟩
    | [t, e], _ => exact ⟨_, rfl⟩
  | loop condition =>
    have h : parts.length = 1 := h
    rw [← hlen] at h
    match ds, h with
    | [body], _ => exact ⟨_, rfl⟩

namespace Dialect

variable {dialect : Dialect} {source : Source}

/-! ## §2. The recursion as one equation. -/

/-- Lowering a node is its step, finished by lowering the parts. -/
theorem lower_eq (mode : Mode) (n : Node) :
    dialect.lower source mode n
      = dialect.step source mode n >>= Step.finish (dialect.lowerPart source) := by
  rw [lower]
  split
  · next e h => rw [h]; rfl
  · next d h => rw [h]; rfl
  · next frame parts h =>
    rw [h]
    show (parts.attach.mapM _ >>= frame.fill) = parts.mapM (dialect.lowerPart source) >>= frame.fill
    congr 1
    -- the recursion carries the proof that a part is a part; here it is dropped
    calc parts.attach.mapM _
        = parts.attach.mapM fun p => dialect.lowerPart source p.1 := by
          congr 1
          funext p
          obtain ⟨⟨mode, node⟩, hp⟩ := p
          cases node <;> rfl
      _ = parts.mapM (dialect.lowerPart source) := by
          show parts.attach.mapM (dialect.lowerPart source ∘ Subtype.val) = _
          rw [← List.mapM_map, List.attach_map_subtype_val]

theorem lower_finished {mode : Mode} {n : Node} {d : Diagram}
    (h : dialect.step source mode n = .ok (.finished d)) : dialect.lower source mode n = .ok d := by
  rw [lower_eq, h]
  rfl

theorem lower_framed {mode : Mode} {n : Node} {frame : Frame} {parts : List Part}
    (h : dialect.step source mode n = .ok (.framed frame parts)) :
    dialect.lower source mode n = parts.mapM (dialect.lowerPart source) >>= frame.fill := by
  rw [lower_eq, h]
  rfl

@[simp]
theorem lowerPart_some (mode : Mode) (c : Node) :
    dialect.lowerPart source ⟨mode, some c⟩ = dialect.lower source mode c := rfl

theorem lowerPart_eq_ok_iff {p : Part} {d : Diagram} :
    dialect.lowerPart source p = .ok d
      ↔ ∃ c, p.node = some c ∧ dialect.lower source p.mode c = .ok d := by
  obtain ⟨mode, node⟩ := p
  cases node with
  | none => exact ⟨nofun, by rintro ⟨c, h, _⟩; cases h⟩
  | some c =>
    refine ⟨fun h => ⟨c, rfl, h⟩, ?_⟩
    rintro ⟨c', h, h'⟩
    cases h
    exact h'

/-! ## §3. Inductions. -/

/-- Steps go down, so what holds at a node once it holds at all smaller ones
holds everywhere. -/
theorem node_induction {P : Node → Prop} (ih : ∀ n, (∀ c, c.size < n.size → P c) → P n) (n : Node) :
    P n := by
  induction h : n.size using Nat.strongRecOn generalizing n with
  | ind k hk =>
    subst h
    exact ih n fun c hc => hk c.size hc c rfl

/-- What holds of every finished step, and of every frame filled with diagrams
of which it holds, holds of all that lowering makes. -/
theorem lower_induction {P : Mode → Node → Diagram → Prop}
    (finished : ∀ mode n d, dialect.step source mode n = .ok (.finished d) → P mode n d)
    (framed : ∀ mode n frame parts ds d, dialect.step source mode n = .ok (.framed frame parts) →
      List.Forall₂ (fun p d => ∃ c, p.node = some c ∧ dialect.lower source p.mode c = .ok d
        ∧ P p.mode c d) parts ds →
      frame.fill ds = .ok d → P mode n d)
    {mode : Mode} {n : Node} {d : Diagram} (h : dialect.lower source mode n = .ok d) :
    P mode n d := by
  -- the parts of a step are smaller, whatever modes they are read in
  induction n using node_induction generalizing mode d with
  | ih n hn =>
    rw [lower_eq] at h
    obtain ⟨s, hs, h⟩ := bind_eq_ok_iff.1 h
    cases s with
    | finished d' =>
      cases h
      exact finished mode n d hs
    | framed frame parts =>
      obtain ⟨ds, hds, hfill⟩ := bind_eq_ok_iff.1 h
      refine framed mode n frame parts ds d hs ?_ hfill
      have hbelow := dialect.step_below source mode n _ hs
      have hds := List.forall₂_iff_zip.1 (mapM_eq_ok_iff.1 hds)
      refine List.forall₂_iff_zip.2 ⟨hds.1, fun {p d'} hp => ?_⟩
      obtain ⟨c, hc, hlow⟩ := lowerPart_eq_ok_iff.1 (hds.2 hp)
      have hlt := hbelow p (List.of_mem_zip hp).1 c hc
      exact ⟨c, hc, hlow, hn c hlt hlow⟩

/-- Where frames fit, lowering fails exactly where the step fails or a part
does. -/
theorem lower_fails_iff {mode : Mode} {n : Node}
    (hfits : ∀ s, dialect.step source mode n = .ok s → s.Fits) :
    Fails (dialect.lower source mode n) ↔ Fails (dialect.step source mode n) ∨
      ∃ s, dialect.step source mode n = .ok s ∧
        ∃ p ∈ s.parts, Fails (dialect.lowerPart source p) := by
  rw [lower_eq, bind_fails_iff]
  refine or_congr_right (exists_congr fun s => and_congr_right fun hs => ?_)
  cases s with
  | finished d =>
    refine ⟨fun h => absurd h (not_fails_ok d), ?_⟩
    rintro ⟨p, hp, _⟩
    cases hp
  | framed frame parts =>
    show Fails (parts.mapM (dialect.lowerPart source) >>= frame.fill) ↔ _
    rw [bind_fails_iff, ← mapM_fails_iff]
    refine ⟨?_, .inl⟩
    -- with a diagram for each part a frame that fits is filled, so it is a part that fails
    rintro (h | ⟨ds, hds, h⟩)
    · exact h
    · obtain ⟨d, hd⟩ := (hfits _ hs).fill (mapM_eq_ok_iff.1 hds).length_eq.symm
      rw [hd] at h
      exact absurd h (not_fails_ok d)

end Dialect

end AnalysisDiagram
