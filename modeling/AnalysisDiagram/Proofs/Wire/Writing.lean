/-
  AnalysisDiagram.Proofs.Wire.Writing
  ───────────────────────────────────
  The two writers agree, and when they come to an end with a text.

      render_eq_write     — the writer with a list of what is to come writes
                            what the recursive one writes, faults included
      newline_needsRoom   — which line ends there is room for
      payload_needsRoom   — a diagram has a payload exactly if there is room
                            for the line ends at its deepest level
-/
import AnalysisDiagram.Proofs.Outcome
import AnalysisDiagram.Proofs.Wire.Drafts
import AnalysisDiagram.Wire.Payload

namespace AnalysisDiagram

open AnalysisDiagram.Outcome

/-! ## §1. Loose texts put together. -/

namespace LooseText

theorem append_def (a b : LooseText) : a ++ b = a.append b := rfl

theorem append_assoc (a b c : LooseText) : a ++ b ++ c = a ++ (b ++ c) := by
  obtain ⟨alead, alast⟩ := a
  obtain ⟨blead, blast⟩ := b
  obtain ⟨clead, clast⟩ := c
  cases blead <;> cases clead <;> simp [append_def, append, String.append_assoc]

theorem append_empty (a : LooseText) : a ++ ofString "" = a := by
  obtain ⟨lead, last⟩ := a
  simp [append_def, append, ofString]

theorem empty_append (a : LooseText) : ofString "" ++ a = a := by
  obtain ⟨lead, last⟩ := a
  cases lead <;> simp [append_def, append, ofString]

/-- A text of characters alone is its own reading. -/
theorem eq_ofString_of_lead {t : LooseText} (h : t.lead = []) : t = ofString t.string := by
  obtain ⟨lead, last⟩ := t
  cases h
  rfl

theorem lead_append {a b : LooseText} (ha : a.lead = []) (hb : b.lead = []) :
    (a ++ b).lead = [] := by
  rw [eq_ofString_of_lead ha, eq_ofString_of_lead hb]
  rfl

end LooseText

namespace Draft

variable {layout : Layout}

/-! ## §2. The two writers. -/

theorem flush_nil (out : LooseText) : flush layout [] out = .ok out := by
  rw [flush]

theorem flush_piece (t : LooseText) (rest : List Pending) (out : LooseText) :
    flush layout (.piece t :: rest) out = flush layout rest (out ++ t) := by
  rw [flush]

theorem flush_draft_eq_expand (d : Draft) (level : Nat) (rest : List Pending) (out : LooseText) :
    flush layout (.draft d level :: rest) out
      = expand layout level d >>= fun ps => flush layout (ps ++ rest) out := by
  rw [flush]
  split
  · next e h => rw [h]; rfl
  · next ps h => rw [h]; rfl

/-- What it means that a draft on top of the list is written as by recursion. -/
def Flushes (layout : Layout) (d : Draft) : Prop :=
  ∀ level rest out, flush layout (.draft d level :: rest) out
    = write layout level d >>= fun t => flush layout rest (out ++ t)

theorem flush_pendingItems {items : List Draft} (h : ∀ d ∈ items, Flushes layout d) (level : Nat)
    (inner : String) (rest : List Pending) (out : LooseText) :
    flush layout (pendingItems level inner items ++ rest) out
      = writeItems layout level inner items >>= fun t => flush layout rest (out ++ t) := by
  induction items generalizing out with
  | nil =>
    show flush layout rest out = flush layout rest (out ++ LooseText.ofString "")
    rw [LooseText.append_empty]
  | cons d items ih =>
    obtain ⟨hd, hitems⟩ := List.forall_mem_cons.1 h
    show flush layout (.piece ("," ++ inner) :: .draft d level
      :: (pendingItems level inner items ++ rest)) out = _
    rw [flush_piece, hd, writeItems]
    simp only [bind_assoc, pure_bind]
    refine bind_congr fun first => ?_
    rw [ih hitems]
    refine bind_congr fun more => ?_
    simp only [LooseText.append_assoc]

theorem flush_pendingFields {fields : List (Field × Draft)}
    (h : ∀ f ∈ fields, Flushes layout f.2) (level : Nat) (inner before : String)
    (rest : List Pending) (out : LooseText) :
    flush layout (pendingFields layout level inner before fields ++ rest) out
      = writeFields layout level inner before fields
        >>= fun t => flush layout rest (out ++ t) := by
  induction fields generalizing before out with
  | nil =>
    show flush layout rest out = flush layout rest (out ++ LooseText.ofString "")
    rw [LooseText.append_empty]
  | cons f fields ih =>
    obtain ⟨field, d⟩ := f
    obtain ⟨hd, hfields⟩ := List.forall_mem_cons.1 h
    have hd : Flushes layout d := hd
    rw [pendingFields, writeFields]
    split
    · exact ih hfields before out
    · show flush layout (.piece (fieldStart layout before field) :: .draft d level
        :: (pendingFields layout level inner ("," ++ inner) fields ++ rest)) out = _
      rw [flush_piece, hd]
      simp only [bind_assoc, pure_bind]
      refine bind_congr fun first => ?_
      rw [ih hfields]
      refine bind_congr fun more => ?_
      simp only [LooseText.append_assoc]

/-- A draft on top of the list is written as by recursion. -/
theorem flush_draft (d : Draft) : Flushes layout d := by
  induction d using Draft.induction with
  | text t =>
    intro level rest out
    rw [flush_draft_eq_expand]
    show flush layout (.piece _ :: rest) out = _
    rw [flush_piece]
    rfl
  | list items ih =>
    intro level rest out
    rw [flush_draft_eq_expand]
    cases items with
    | nil =>
      show flush layout (.piece _ :: rest) out = _
      rw [flush_piece]
      rfl
    | cons d items =>
      -- both writers first settle the line ends, then write the items in order
      obtain ⟨hd, hitems⟩ := List.forall_mem_cons.1 ih
      rw [expand, write]
      simp only [bind_assoc, pure_bind]
      refine bind_congr fun inner => bind_congr fun outer => ?_
      show flush layout (.piece _ :: .draft d (level + 1)
        :: (pendingItems (level + 1) inner items ++ [.piece _] ++ rest)) out = _
      rw [flush_piece, hd]
      refine bind_congr fun first => ?_
      rw [List.append_assoc, flush_pendingItems hitems]
      refine bind_congr fun more => ?_
      show flush layout (.piece _ :: rest) _ = _
      rw [flush_piece]
      simp only [LooseText.append_assoc]
  | node tag fields ih =>
    intro level rest out
    rw [flush_draft_eq_expand, expand, write]
    split
    · rfl
    · simp only [bind_assoc, pure_bind]
      refine bind_congr fun inner => bind_congr fun outer => ?_
      show flush layout (.piece _
        :: (pendingFields layout (level + 1) inner inner fields ++ [.piece _] ++ rest)) out = _
      rw [flush_piece, List.append_assoc, flush_pendingFields ih]
      refine bind_congr fun more => ?_
      show flush layout (.piece _ :: rest) _ = _
      rw [flush_piece]
      simp only [LooseText.append_assoc]
  | null =>
    intro level rest out
    rw [flush_draft_eq_expand]
    rfl
  | absent =>
    intro level rest out
    rw [flush_draft_eq_expand]
    rfl
  | foreign typeName =>
    intro level rest out
    rw [flush_draft_eq_expand]
    rfl

/-- Both writers agree, in the text and in the fault. -/
theorem render_eq_write (d : Draft) : render layout d = write layout 0 d := by
  rw [render, flush_draft]
  cases write layout 0 d with
  | error e => rfl
  | ok t =>
    show flush layout [] (LooseText.ofString "" ++ t) = .ok t
    rw [flush_nil, LooseText.empty_append]

end Draft

/-! ## §3. Room for line ends. -/

namespace Layout

/-- The layout that an indent asks for: none, or a whole number of blanks. -/
def ofIndent (room : Nat) (indent : Option Int) : Layout :=
  Layout.ofValue room (indent.elim .null .int)

/-- Whether a line at the given level can be indented: a counter can hold the
number of blanks, and there is room for them. -/
def RoomFor (room : Nat) (indent : Option Int) (level : Nat) : Prop :=
  ∀ width, indent = some width →
    -countLimit ≤ width * level ∧ width * level < countLimit ∧ width * level ≤ room

variable {room : Nat}

theorem roomFor_none (level : Nat) : RoomFor room none level := nofun

theorem roomFor_some {width : Int} {level : Nat} :
    RoomFor room (some width) level
      ↔ -countLimit ≤ width * level ∧ width * level < countLimit ∧ width * level ≤ room := by
  refine ⟨fun h => h width rfl, fun h width' hwidth => ?_⟩
  cases hwidth
  exact h

theorem roomFor_zero (indent : Option Int) : RoomFor room indent 0 := by
  intro width _
  unfold countLimit
  omega

/-- Outer lines take no more room than inner ones. -/
theorem RoomFor.mono {indent : Option Int} {j k : Nat} (h : RoomFor room indent k)
    (hjk : j ≤ k) : RoomFor room indent j := by
  intro width hwidth
  obtain ⟨hlow, hcount, hroom⟩ := h width hwidth
  have hjk : (j : Int) ≤ k := by omega
  have hj : (0 : Int) ≤ j := by omega
  unfold countLimit at hlow hcount ⊢
  -- the number of blanks lies between zero and that of the inner line, on either side
  rcases Int.le_total 0 width with hw | hw
  · have h₁ : 0 ≤ width * j := Int.mul_nonneg hw hj
    have h₂ : width * j ≤ width * k := Int.mul_le_mul_of_nonneg_left hjk hw
    omega
  · have h₁ : width * j ≤ 0 := Int.mul_nonpos_of_nonpos_of_nonneg hw hj
    have h₂ : width * k ≤ width * j := Int.mul_le_mul_of_nonpos_left hw hjk
    omega

/-- An indent far below zero. -/
def farBelow : Int := -1000000000000000000000000000000

theorem roomFor_add_max {indent : Option Int} {k a b : Nat} :
    RoomFor room indent (k + max a b)
      ↔ RoomFor room indent (k + a) ∧ RoomFor room indent (k + b) := by
  constructor
  · intro h
    exact ⟨h.mono (by omega), h.mono (by omega)⟩
  · rintro ⟨ha, hb⟩
    rcases Nat.le_total a b with hab | hab
    · rw [Nat.max_eq_right hab]
      exact hb
    · rw [Nat.max_eq_left hab]
      exact ha

end Layout

/-- A computation that comes to something good exactly if there is room, and
otherwise fails for want of room. -/
def NeedsRoom {α : Type} (fits : Prop) (good : α → Prop) (x : Except WriteFault α) : Prop :=
  (fits ∧ ∃ a, x = .ok a ∧ good a) ∨ (¬ fits ∧ (x = .error .indentOverflow ∨ x = .error .noRoom))

namespace NeedsRoom

variable {α β : Type} {fits fits' : Prop} {good : α → Prop} {good' : β → Prop}

theorem pure {a : α} (h : good a) : NeedsRoom True good (.ok a) := .inl ⟨trivial, a, rfl, h⟩

theorem congr {x : Except WriteFault α} (h : NeedsRoom fits good x) (hfits : fits ↔ fits') :
    NeedsRoom fits' good x := by
  unfold NeedsRoom at h ⊢
  rw [← hfits]
  exact h

/-- One computation after the other needs the room of both. -/
theorem bind {x : Except WriteFault α} {f : α → Except WriteFault β} (hx : NeedsRoom fits good x)
    (hf : fits → ∀ a, good a → NeedsRoom fits' good' (f a)) :
    NeedsRoom (fits ∧ fits') good' (x >>= f) := by
  rcases hx with ⟨hfits, a, rfl, ha⟩ | ⟨hfits, rfl | rfl⟩
  · rcases hf hfits a ha with ⟨hfits', b, hb, hgood⟩ | ⟨hfits', hfail⟩
    · exact .inl ⟨⟨hfits, hfits'⟩, b, hb, hgood⟩
    · exact .inr ⟨fun h => hfits' h.2, hfail⟩
  · exact .inr ⟨fun h => hfits h.1, .inl rfl⟩
  · exact .inr ⟨fun h => hfits h.1, .inr rfl⟩

theorem exists_ok_iff {x : Except WriteFault α} (h : NeedsRoom fits good x) :
    (∃ a, x = .ok a) ↔ fits := by
  rcases h with ⟨hfits, a, rfl, _⟩ | ⟨hfits, rfl | rfl⟩
  · exact ⟨fun _ => hfits, fun _ => ⟨a, rfl⟩⟩
  · exact ⟨nofun, fun h => absurd h hfits⟩
  · exact ⟨nofun, fun h => absurd h hfits⟩

theorem good_of_ok {a : α} (h : NeedsRoom fits good (.ok a)) : good a := by
  rcases h with ⟨_, b, hb, hgood⟩ | ⟨_, h | h⟩
  · cases hb
    exact hgood
  · cases h
  · cases h

end NeedsRoom

/-- Line ends are blank, and need just their own room. -/
theorem Layout.newline_needsRoom (room : Nat) (indent : Option Int) (level : Nat) :
    NeedsRoom (RoomFor room indent level) (fun s => ∀ c ∈ s.toList, c = '\n' ∨ c = ' ')
      ((ofIndent room indent).newline level) := by
  cases indent with
  | none => exact .inl ⟨roomFor_none level, "", rfl, nofun⟩
  | some width =>
    show NeedsRoom _ _ (newline (.indented width room) level)
    unfold newline
    dsimp only
    split
    · next hover => exact .inr ⟨by rw [roomFor_some]; omega, .inl rfl⟩
    · next hover =>
      split
      · next hmuch => exact .inr ⟨by rw [roomFor_some]; omega, .inr rfl⟩
      · next hmuch =>
        refine .inl ⟨by rw [roomFor_some]; omega, _, rfl, fun c hc => ?_⟩
        rw [String.toList_ofList, List.mem_cons, List.mem_replicate] at hc
        rcases hc with hc | hc
        · exact .inl hc
        · exact .inr hc.2

/-! ## §4. Which drafts have a text. -/

namespace Draft

open AnalysisDiagram.Layout

variable {room : Nat} {indent : Option Int}

/-- What it means that a draft needs room for its deepest lines alone, and
that its text then consists of characters. -/
def Writes (room : Nat) (indent : Option Int) (d : Draft) : Prop :=
  ∀ level, RoomFor room indent level →
    NeedsRoom (RoomFor room indent (level + d.nest)) (fun t => t.lead = [])
      (write (ofIndent room indent) level d)

theorem writeItems_needsRoom {items : List Draft} (h : ∀ d ∈ items, d.Sound → Writes room indent d)
    (hs : SoundItems items) {level : Nat} (hlevel : RoomFor room indent level) (inner : String) :
    NeedsRoom (RoomFor room indent (level + nests items)) (fun t => t.lead = [])
      (writeItems (ofIndent room indent) level inner items) := by
  induction items with
  | nil => exact .inl ⟨hlevel, _, rfl, rfl⟩
  | cons d items ih =>
    obtain ⟨hd, hitems⟩ := List.forall_mem_cons.1 h
    rw [writeItems, nests]
    refine ((hd hs.1 level hlevel).bind fun _ first hfirst => ?_).congr roomFor_add_max.symm
    refine ((ih hitems hs.2).bind fun _ rest hrest => ?_).congr (and_iff_left trivial)
    exact NeedsRoom.pure (LooseText.lead_append (LooseText.lead_append rfl hfirst) hrest)

theorem writeFields_needsRoom {fields : List (Field × Draft)}
    (h : ∀ f ∈ fields, f.2.Sound → Writes room indent f.2) (hs : SoundFields fields) {level : Nat}
    (hlevel : RoomFor room indent level) (inner before : String) :
    NeedsRoom (RoomFor room indent (level + fieldNests fields)) (fun t => t.lead = [])
      (writeFields (ofIndent room indent) level inner before fields) := by
  induction fields generalizing before with
  | nil => exact .inl ⟨hlevel, _, rfl, rfl⟩
  | cons f fields ih =>
    obtain ⟨field, d⟩ := f
    obtain ⟨hd, hfields⟩ := List.forall_mem_cons.1 h
    obtain ⟨hsound, hs⟩ := hs
    rw [writeFields, fieldNests]
    by_cases hnull : d.isNull = true
    · -- a field that is left out needs no room
      rw [if_pos hnull, nest_of_isNull hnull, Nat.zero_max]
      exact ih hfields hs before
    · rw [if_neg hnull]
      have hsound := hsound.resolve_left hnull
      refine ((hd hsound level hlevel).bind fun _ first hfirst => ?_).congr roomFor_add_max.symm
      refine ((ih hfields hs _).bind fun _ rest hrest => ?_).congr (and_iff_left trivial)
      exact NeedsRoom.pure (LooseText.lead_append (LooseText.lead_append rfl hfirst) hrest)

/-- A list or a node that holds something takes two line ends besides what is
in it. -/
theorem needsRoom_of_inside {level deep : Nat} (hlevel : RoomFor room indent level)
    {f : String → String → Except WriteFault LooseText}
    (hf : RoomFor room indent (level + 1) → ∀ inner outer,
      NeedsRoom (RoomFor room indent (level + 1 + deep)) (fun t => t.lead = []) (f inner outer)) :
    NeedsRoom (RoomFor room indent (level + (1 + deep))) (fun t => t.lead = []) (do
      let inner ← (ofIndent room indent).newline (level + 1)
      let outer ← (ofIndent room indent).newline level
      f inner outer) := by
  have hroom : RoomFor room indent (level + 1) ∧ RoomFor room indent level
        ∧ RoomFor room indent (level + 1 + deep) ↔ RoomFor room indent (level + (1 + deep)) := by
    rw [← Nat.add_assoc]
    exact ⟨fun h => h.2.2, fun h => ⟨h.mono (by omega), hlevel, h⟩⟩
  refine ((newline_needsRoom room indent (level + 1)).bind fun hnext inner _ => ?_).congr hroom
  exact (newline_needsRoom room indent level).bind fun _ outer _ => hf hnext inner outer

/-- A sound draft has a text exactly if there is room for its deepest lines. -/
theorem write_needsRoom (room : Nat) (indent : Option Int) (d : Draft) (hs : d.Sound) :
    Writes room indent d := by
  induction d using Draft.induction with
  | text t =>
    intro level hlevel
    refine .inl ⟨hlevel, _, rfl, ?_⟩
    rw [LooseText.eq_ofString_of_lead hs, Json.encodeLoose_ofString]
    rfl
  | list items ih =>
    intro level hlevel
    cases items with
    | nil => exact .inl ⟨hlevel, _, rfl, rfl⟩
    | cons d items =>
      obtain ⟨hd, hitems⟩ := List.forall_mem_cons.1 ih
      -- the inner line end comes first, so below it there is room for the next level
      rw [write, nest]
      refine needsRoom_of_inside hlevel fun hnext inner outer => ?_
      refine ((hd hs.1 _ hnext).bind fun _ first hfirst => ?_).congr roomFor_add_max.symm
      refine ((writeItems_needsRoom hitems hs.2 hnext inner).bind fun _ rest hrest => ?_).congr
        (and_iff_left trivial)
      exact NeedsRoom.pure (LooseText.lead_append
        (LooseText.lead_append (LooseText.lead_append rfl hfirst) hrest) rfl)
  | node tag fields ih =>
    intro level hlevel
    obtain ⟨hfull, hs⟩ := hs
    rw [write, if_neg (by rw [lacksField_of_soundFields hs]; exact Bool.false_ne_true), fieldLine,
      nest, hfull]
    refine needsRoom_of_inside hlevel fun hnext inner outer => ?_
    refine ((writeFields_needsRoom ih hs hnext inner inner).bind fun _ rest hrest => ?_).congr
      (and_iff_left trivial)
    exact NeedsRoom.pure (LooseText.lead_append (LooseText.lead_append rfl hrest) rfl)
  | null => exact hs.elim
  | absent => exact hs.elim
  | foreign typeName => exact hs.elim

/-- Far below zero, the first line end of a node is out of range already. -/
theorem write_node_farBelow (room : Nat) {tag : Tag} {fields : List (Field × Draft)}
    (hs : (Draft.node tag fields).Sound) :
    (Draft.node tag fields).write (ofIndent room (some farBelow)) 0 = .error .indentOverflow := by
  obtain ⟨hfull, hs⟩ := hs
  rw [write, if_neg (by rw [lacksField_of_soundFields hs]; exact Bool.false_ne_true), fieldLine,
    hfull]
  rfl

/-- The payload of a sound draft: its text, or none for want of room. -/
theorem payload_needsRoom (room : Nat) (indent : Option Int) (d : Draft) (hs : d.Sound) :
    NeedsRoom (RoomFor room indent d.nest)
      (fun t => write (ofIndent room indent) 0 d = .ok t ∧ t.lead = [])
      (d.payload (ofIndent room indent)).result := by
  have h := write_needsRoom room indent d hs 0 (roomFor_zero indent)
  rw [Nat.zero_add] at h
  unfold payload
  rw [render_eq_write]
  rcases h with ⟨hroom, t, ht, hlead⟩ | ⟨hroom, he | he⟩
  · rw [ht]
    exact .inl ⟨hroom, t, rfl, rfl, hlead⟩
  · rw [he]
    exact .inr ⟨hroom, .inl rfl⟩
  · rw [he]
    exact .inr ⟨hroom, .inr rfl⟩

end Draft

namespace Diagram

/-- The payload of a diagram is that of its draft, which consists of
characters alone. -/
theorem payload_toDraft (room : Nat) (indent : Option Int) (d : Diagram) :
    (d.toDraft.payload (Layout.ofIndent room indent)).result
      = (d.payload (Layout.ofIndent room indent)).result.map LooseText.ofString := by
  show _ = ((d.toDraft.payload (Layout.ofIndent room indent)).result.map LooseText.string).map _
  rcases Draft.payload_needsRoom room indent d.toDraft d.sound_toDraft with
    ⟨_, t, ht, _, hlead⟩ | ⟨_, he | he⟩
  · rw [ht]
    exact congrArg Except.ok (LooseText.eq_ofString_of_lead hlead)
  · rw [he]
    rfl
  · rw [he]
    rfl

/-- The payload of a diagram: the text of its draft, or none for want of room. -/
theorem payload_needsRoom (room : Nat) (indent : Option Int) (d : Diagram) :
    NeedsRoom (Layout.RoomFor room indent d.toDraft.nest)
      (fun s => d.toDraft.write (Layout.ofIndent room indent) 0 = .ok (LooseText.ofString s))
      (d.payload (Layout.ofIndent room indent)).result := by
  have h := Draft.payload_needsRoom room indent d.toDraft d.sound_toDraft
  rw [payload_toDraft] at h
  cases hresult : (d.payload (Layout.ofIndent room indent)).result with
  | error e =>
    rw [hresult] at h
    rcases h with ⟨_, t, ht, _⟩ | ⟨hroom, he | he⟩
    · cases ht
    · cases he
      exact .inr ⟨hroom, .inl rfl⟩
    · cases he
      exact .inr ⟨hroom, .inr rfl⟩
  | ok s =>
    rw [hresult] at h
    rcases h with ⟨hroom, t, ht, hwrite, _⟩ | ⟨_, he | he⟩
    · cases ht
      exact .inl ⟨hroom, s, rfl, hwrite⟩
    · cases he
    · cases he

/-- With an indent far below zero no diagram has a payload, whatever room there
is. -/
theorem payload_farBelow (room : Nat) (d : Diagram) :
    (d.payload (Layout.ofIndent room (some Layout.farBelow))).result = .error .indentOverflow := by
  have hwrite : d.toDraft.write (Layout.ofIndent room (some Layout.farBelow)) 0
      = .error .indentOverflow := by
    have hs := d.sound_toDraft
    cases d with
    | _ => exact Draft.write_node_farBelow room hs
  unfold payload Draft.payload
  rw [Draft.render_eq_write, hwrite]
  rfl

end Diagram

end AnalysisDiagram
