/-
  AnalysisDiagram.Proofs.Wire.RoundTrip
  ─────────────────────────────────────
  Payloads read back.

      Draft.spells_write   — the text of a sound draft spells its value
      payload_reads_back   — the payload of a diagram is read as the diagram,
                             if it nests no deeper than payloads may; if it
                             does, it may be refused, but is never read as
                             another diagram
      payload_injective    — no two diagrams share a payload, however deep
                             they nest and however they are indented
-/
import AnalysisDiagram.Proofs.Json.Spelling
import AnalysisDiagram.Proofs.Wire.Writing

namespace AnalysisDiagram

open AnalysisDiagram.Outcome AnalysisDiagram.Json

/-! ## §1. What stands between tokens. -/

namespace Layout

theorem gap_newline {room : Nat} {indent : Option Int} {level : Nat} {s : String}
    (h : (ofIndent room indent).newline level = .ok s) : Gap s.toList := by
  have hroom := newline_needsRoom room indent level
  rw [h] at hroom
  intro c hc
  rcases hroom.good_of_ok c hc with rfl | rfl <;> rfl

theorem gap_blank : Gap [' '] := by
  intro c hc
  cases List.mem_singleton.1 hc
  rfl

theorem colon_cases (layout : Layout) :
    ∃ between, layout.colon.toList = ':' :: between ∧ Gap between := by
  cases layout with
  | compact => exact ⟨[], by decide, nofun⟩
  | indented width room =>
    refine ⟨[' '], ?_, gap_blank⟩
    show ": ".toList = _
    decide
  | unusable problem =>
    refine ⟨[' '], ?_, gap_blank⟩
    show ": ".toList = _
    decide

end Layout

/-! ## §2. Texts of drafts. -/

namespace Draft

open AnalysisDiagram.Layout

variable {room : Nat} {indent : Option Int}

/-- What it means that the text of a draft spells its value. -/
def Spelled (room : Nat) (indent : Option Int) (d : Draft) : Prop :=
  ∀ level t, write (ofIndent room indent) level d = .ok t → Spells d.nest t.string.toList d.value

/-- The first item of a list, and the others as they are written. -/
theorem spellsInside_items {items : List Draft} (h : ∀ d ∈ items, d.Sound → Spelled room indent d)
    (hs : SoundItems items) {level n : Nat} {inner outer : String} (hinner : Gap inner.toList)
    (houter : Gap outer.toList) {text : List Char} {v : Value} (hfirst : Spells n text v)
    {more : LooseText} (hmore : writeItems (ofIndent room indent) level inner items = .ok more) :
    SpellsInside items? (max n (nests items))
      (text ++ (more.string.toList ++ (outer.toList ++ [']']))) (v :: values items) := by
  induction items generalizing n text v more with
  | nil =>
    cases hmore
    exact (Nat.max_zero n).symm ▸ hfirst.lastItem houter
  | cons d items ih =>
    obtain ⟨hd, hitems⟩ := List.forall_mem_cons.1 h
    rw [writeItems] at hmore
    simp only [bind_eq_ok_iff] at hmore
    obtain ⟨next, hnext, rest, hrest, hmore⟩ := hmore
    cases hmore
    have hrest := ih hitems hs.2 (hd hs.1 level next hnext) hrest
    have htext : (LooseText.ofString "," ++ LooseText.ofString inner ++ next ++ rest).string.toList
        = ',' :: (inner.toList ++ (next.string.toList ++ rest.string.toList)) := by
      simp [List.append_assoc]
    have hmore := hfirst.consItem hinner hrest
    rw [htext, nests, values]
    simpa only [List.append_assoc, List.cons_append] using hmore

/-- The first member of a node, and the others as they are written. -/
theorem spellsInside_members {fields : List (Field × Draft)}
    (h : ∀ f ∈ fields, f.2.Sound → Spelled room indent f.2) (hs : SoundFields fields)
    {level n : Nat} {inner outer : String} (hinner : Gap inner.toList)
    (houter : Gap outer.toList) {between text : List Char} (hbetween : Gap between)
    (hcolon : (ofIndent room indent).colon.toList = ':' :: between) (key : String) {v : Value}
    (hfirst : Spells n text v) {more : LooseText}
    (hmore : writeFields (ofIndent room indent) level inner ("," ++ inner) fields = .ok more) :
    SpellsInside members? (max n (fieldNests fields))
      ((encode key).toList
        ++ (':' :: (between ++ (text ++ (more.string.toList ++ (outer.toList ++ ['\x7d']))))))
      ((key, v) :: entries fields) := by
  induction fields generalizing n text key v more with
  | nil =>
    cases hmore
    exact (Nat.max_zero n).symm ▸ hfirst.lastMember key hbetween houter
  | cons f fields ih =>
    obtain ⟨field, d⟩ := f
    obtain ⟨hd, hfields⟩ := List.forall_mem_cons.1 h
    obtain ⟨hsound, hs⟩ := hs
    rw [writeFields] at hmore
    rw [fieldNests, entries]
    by_cases hnull : d.isNull = true
    · rw [if_pos hnull] at hmore ⊢
      rw [nest_of_isNull hnull, Nat.zero_max]
      exact ih hfields hs key hfirst hmore
    · rw [if_neg hnull] at hmore ⊢
      simp only [bind_eq_ok_iff] at hmore
      obtain ⟨next, hnext, rest, hrest, hmore⟩ := hmore
      cases hmore
      have hnext := hd (hsound.resolve_left hnull) level next hnext
      have hrest := ih hfields hs field.name hnext hrest
      have htext : (LooseText.ofString (fieldStart (ofIndent room indent) ("," ++ inner) field)
            ++ next ++ rest).string.toList
          = ',' :: (inner.toList ++ ((encode field.name).toList
            ++ (':' :: (between ++ (next.string.toList ++ rest.string.toList))))) := by
        simp [fieldStart, hcolon, List.append_assoc]
      have hmore := hfirst.consMember key hbetween hinner hrest
      rw [htext]
      simpa only [List.append_assoc, List.cons_append] using hmore

/-- The fields of a node, one of which is written, after what stands before
them. -/
theorem spellsInside_fields {fields : List (Field × Draft)}
    (h : ∀ f ∈ fields, f.2.Sound → Spelled room indent f.2) (hs : SoundFields fields)
    (hfull : isHollow fields = false) {level : Nat} {inner before outer : String}
    (hinner : Gap inner.toList) (houter : Gap outer.toList) {t : LooseText}
    (ht : writeFields (ofIndent room indent) level inner before fields = .ok t) :
    ∃ body, t.string.toList = before.toList ++ body ∧
      SpellsInside members? (fieldNests fields) (body ++ (outer.toList ++ ['\x7d']))
        (entries fields) := by
  induction fields with
  | nil => cases hfull
  | cons f fields ih =>
    obtain ⟨field, d⟩ := f
    obtain ⟨hd, hfields⟩ := List.forall_mem_cons.1 h
    obtain ⟨hsound, hs⟩ := hs
    rw [writeFields] at ht
    rw [fieldNests, entries]
    by_cases hnull : d.isNull = true
    · have hfull : isHollow fields = false := by
        rw [isHollow, List.all_cons, hnull, Bool.true_and] at hfull
        exact hfull
      rw [if_pos hnull] at ht ⊢
      rw [nest_of_isNull hnull, Nat.zero_max]
      exact ih hfields hs hfull ht
    · -- the first field that is written begins the members, and the others follow it
      rw [if_neg hnull] at ht ⊢
      simp only [bind_eq_ok_iff] at ht
      obtain ⟨first, hfirst, rest, hrest, ht⟩ := ht
      cases ht
      obtain ⟨between, hcolon, hbetween⟩ := colon_cases (ofIndent room indent)
      have hinside := spellsInside_members hfields hs hinner houter hbetween hcolon field.name
        (hd (hsound.resolve_left hnull) level first hfirst) hrest
      refine ⟨(encode field.name).toList ++ (':' :: (between
        ++ (first.string.toList ++ rest.string.toList))), ?_, ?_⟩
      · simp [fieldStart, hcolon, List.append_assoc]
      · simpa only [List.append_assoc, List.cons_append] using hinside

/-- The text of a sound draft spells its value. -/
theorem spells_write (d : Draft) (hs : d.Sound) : Spelled room indent d := by
  induction d using Draft.induction with
  | text t =>
    intro level t' h
    cases h
    rw [LooseText.eq_ofString_of_lead hs, encodeLoose_ofString]
    exact Spells.text _
  | list items ih =>
    intro level t h
    cases items with
    | nil =>
      cases h
      exact Spells.nil
    | cons d items =>
      obtain ⟨hd, hitems⟩ := List.forall_mem_cons.1 ih
      rw [write] at h
      simp only [bind_eq_ok_iff] at h
      obtain ⟨inner, hinner, outer, houter, first, hfirst, rest, hrest, h⟩ := h
      cases h
      -- line ends are gaps, so the items are spelt up to the bracket
      have hinside := spellsInside_items hitems hs.2 (gap_newline hinner) (gap_newline houter)
        (hd hs.1 _ first hfirst) hrest
      have htext : (LooseText.ofString "[" ++ LooseText.ofString inner ++ first ++ rest
            ++ (LooseText.ofString outer ++ LooseText.ofString "]")).string.toList
          = '[' :: (inner.toList ++ (first.string.toList ++ (rest.string.toList
            ++ (outer.toList ++ [']'])))) := by
        simp [List.append_assoc]
      rw [htext]
      exact Spells.list hinside (gap_newline hinner)
  | node tag fields ih =>
    intro level t h
    obtain ⟨hfull, hs⟩ := hs
    rw [write, if_neg (by rw [lacksField_of_soundFields hs]; exact Bool.false_ne_true), fieldLine,
      hfull] at h
    simp only [bind_eq_ok_iff] at h
    obtain ⟨inner, hinner, outer, houter, rest, hrest, h⟩ := h
    cases h
    have hgap := gap_newline hinner
    obtain ⟨body, hbody, hinside⟩ := spellsInside_fields ih hs hfull hgap (gap_newline houter) hrest
    have htext : (LooseText.ofString "\x7b" ++ rest
          ++ (LooseText.ofString outer ++ LooseText.ofString "\x7d")).string.toList
        = '\x7b' :: (inner.toList ++ (body ++ (outer.toList ++ ['\x7d']))) := by
      simp [hbody, List.append_assoc]
    rw [htext, nest, hfull]
    exact Spells.object hinside hgap
  | null => exact hs.elim
  | absent => exact hs.elim
  | foreign typeName => exact hs.elim

end Draft

/-! ## §3. Payloads of diagrams. -/

namespace Diagram

theorem spells_payload {room : Nat} {indent : Option Int} {d : Diagram} {text : String}
    (h : (d.payload (Layout.ofIndent room indent)).result = .ok text) :
    Spells d.toDraft.nest text.toList d.toDraft.value := by
  have hroom := payload_needsRoom room indent d
  rw [h] at hroom
  exact Draft.spells_write d.toDraft d.sound_toDraft 0 _ hroom.good_of_ok

/-- A diagram has a payload exactly if there is room for its deepest lines.
The payload is read back as the diagram if it nests no deeper than payloads
may; if it does, it is read back as the diagram or refused as no JSON. -/
theorem payload_reads_back (room : Nat) (indent : Option Int) (d : Diagram) :
    ((∃ text, (d.payload (Layout.ofIndent room indent)).result = .ok text)
      ↔ Layout.RoomFor room indent d.toDraft.nest) ∧
    ∀ text, (d.payload (Layout.ofIndent room indent)).result = .ok text →
      (nesting text ≤ payloadDepth → readPayload text = .ok d) ∧
      (readPayload text = .ok d ∨ readPayload text = .error [⟨[], .notJson⟩]) := by
  refine ⟨(payload_needsRoom room indent d).exists_ok_iff, ?_⟩
  intro text htext
  have hspells := spells_payload htext
  have hvalue := d.diagramOf_value
  constructor
  · -- what spells the value nests at least as deep as the draft does
    intro hnesting
    unfold readPayload
    rw [hspells.read?_eq (Nat.le_trans hspells.le_nesting hnesting)]
    exact hvalue
  · unfold readPayload
    rcases hspells.read?_eq_or payloadDepth with h | h
    · rw [h]
      exact .inl hvalue
    · rw [h]
      exact .inr rfl

/-- A choice with escapes in its texts, read back from lines without indent. -/
theorem payload_reads_back_branch :
    ∃ text, ((branch "\"\n" (command "\\") (some (sequence []))).payload
        (Layout.ofIndent 0 (some (-1)))).result = .ok text ∧
      nesting text = 3 ∧
      readPayload text = .ok (branch "\"\n" (command "\\") (some (sequence []))) := by
  let d := branch "\"\n" (command "\\") (some (sequence []))
  let text := "\x7b\n\"type\": \"if\",\n\"condition\": \"\\\"\\n\",\n\"then_block\": \x7b\n"
    ++ "\"type\": \"command\",\n\"label\": \"\\\\\"\n\x7d,\n\"else_block\": \x7b\n"
    ++ "\"type\": \"sequence\",\n\"children\": []\n\x7d\n\x7d"
  have hwrite : d.toDraft.write (Layout.ofIndent 0 (some (-1))) 0
      = .ok (LooseText.ofString text) := by
    decide +kernel
  have hpayload : (d.payload (Layout.ofIndent 0 (some (-1)))).result = .ok text := by
    unfold payload Draft.payload
    rw [Draft.render_eq_write, hwrite]
    rfl
  have hnesting : nesting text = 3 := by decide +kernel
  have hlimit : nesting text ≤ payloadDepth := by
    rw [hnesting]
    decide
  exact ⟨text, hpayload, hnesting, ((payload_reads_back 0 (some (-1)) d).2 text hpayload).1 hlimit⟩

/-- Not every whole number is an indent: one far below zero, which would indent
like zero, is out of range and leaves a single command without a payload,
whatever room there is. -/
theorem payload_command_overflow :
    (∀ room, ((command "x").payload (Layout.ofIndent room (some Layout.farBelow))).result
      = .error .indentOverflow) ∧
    ¬ ∃ room text,
      ((command "x").payload (Layout.ofIndent room (some Layout.farBelow))).result = .ok text ∧
      (nesting text ≤ payloadDepth → readPayload text = .ok (command "x")) := by
  refine ⟨fun room => payload_farBelow room _, ?_⟩
  rintro ⟨room, text, htext, _⟩
  rw [payload_farBelow] at htext
  cases htext

/-! ## §4. Payloads shared by diagrams. -/

theorem eq_of_value_eq {t u : Diagram} (h : t.toDraft.value = u.toDraft.value) : t = u := by
  have ht := t.diagramOf_value
  rw [h, u.diagramOf_value] at ht
  exact (Except.ok.inj ht).symm

/-- Every diagram has a compact payload, and a text is the payload of one
diagram at most, whatever the indents.  The limit for reading does not come in:
a payload spells its diagram at any depth. -/
theorem payload_injective (t u : Diagram) (room room' : Nat) (k m : Option Int) :
    (∃ text, (t.payload (Layout.ofIndent room none)).result = .ok text) ∧
    ∀ text, (t.payload (Layout.ofIndent room k)).result = .ok text →
      (u.payload (Layout.ofIndent room' m)).result = .ok text → t = u := by
  refine ⟨(payload_needsRoom room none t).exists_ok_iff.2 (Layout.roomFor_none _), ?_⟩
  intro text ht hu
  exact eq_of_value_eq ((spells_payload ht).unique (spells_payload hu))

/-- A block whose label looks like the end of a block. -/
def mimicBlock : Diagram := block "x\",\"children\":[]\x7d" []

/-- Indents of zero and below it give the same text, of the same diagram. -/
theorem payload_injective_mimicBlock :
    ∃ text, (mimicBlock.payload (Layout.ofIndent 0 (some 0))).result = .ok text ∧
      (mimicBlock.payload (Layout.ofIndent 8 (some (-5)))).result = .ok text ∧
      ∀ u, (u.payload (Layout.ofIndent 8 (some (-5)))).result = .ok text → mimicBlock = u := by
  let text := "\x7b\n\"type\": \"block\",\n\"label\": \"x\\\",\\\"children\\\":[]\x7d\",\n"
    ++ "\"children\": []\n\x7d"
  have hzero : (mimicBlock.payload (Layout.ofIndent 0 (some 0))).result = .ok text := by
    decide +kernel
  have hbelow : (mimicBlock.payload (Layout.ofIndent 8 (some (-5)))).result = .ok text := by
    decide +kernel
  exact ⟨text, hzero, hbelow, fun u hu =>
    (payload_injective mimicBlock u 0 8 (some 0) (some (-5))).2 text hzero hu⟩

end Diagram

end AnalysisDiagram
