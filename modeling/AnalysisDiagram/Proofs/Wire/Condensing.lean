/-
  AnalysisDiagram.Proofs.Wire.Condensing
  ──────────────────────────────────────
  Indented payloads without their indents.

      placed            — the characters of a text, each with where it stands
      condensed text    — the text without the spaces and line ends that stand
                          outside strings
      Condenses         — a part of a text comes down to another one, whatever
                          follows it

      condenses_write   — a draft written in lines comes down to the draft
                          written compactly
      payload_condensed — so does the payload of a diagram, and in a compact
                          payload nothing is left to take out

  Where a string begins and ends hangs on all that stands before, so only parts
  are compared that begin and end outside strings.
-/
import AnalysisDiagram.Proofs.Json.Spelling
import AnalysisDiagram.Proofs.Wire.Writing

namespace AnalysisDiagram

open AnalysisDiagram.Outcome

/-! ## §1. Characters outside strings. -/

namespace Json

/-- The characters of a text, each with where it stands. -/
def placed (place : Place) : List Char → List (Place × Char)
  | [] => []
  | c :: cs => (place, c) :: placed (place.after c) cs

/-- Whether a character is a space or a line end outside strings. -/
def isFiller : Place × Char → Bool
  | (.outside, c) => c == ' ' || c == '\n'
  | _ => false

/-- Characters without the spaces and line ends outside strings. -/
def stripped (place : Place) (cs : List Char) : List Char :=
  ((placed place cs).filter (!isFiller ·)).map (·.2)

/-- A text without the spaces and line ends outside strings. -/
def condensed (text : String) : String := String.ofList (stripped .outside text.toList)

theorem stripped_filler {place : Place} {c : Char} (h : isFiller (place, c) = true)
    (cs : List Char) : stripped place (c :: cs) = stripped (place.after c) cs := by
  simp [stripped, placed, h]

theorem stripped_kept {place : Place} {c : Char} (h : isFiller (place, c) = false)
    (cs : List Char) : stripped place (c :: cs) = c :: stripped (place.after c) cs := by
  simp [stripped, placed, h]

theorem length_placed (place : Place) (cs : List Char) : (placed place cs).length = cs.length := by
  induction cs generalizing place with
  | nil => rfl
  | cons c cs ih => exact congrArg (· + 1) (ih (place.after c))

/-- A text from which nothing is taken out has no filler. -/
theorem not_isFiller_of_stripped {place : Place} {cs : List Char} (h : stripped place cs = cs)
    {p : Place × Char} (hp : p ∈ placed place cs) : isFiller p = false := by
  have hlength := congrArg List.length h
  unfold stripped at hlength
  rw [List.length_map, ← length_placed place cs, List.length_filter_eq_length_iff] at hlength
  simpa using hlength p hp

/-! ## §2. Parts that begin and end outside strings. -/

/-- A part of a text comes down to another one, whatever follows it, and in that
one no character is a control character. -/
structure Condenses (text kept : String) : Prop where
  strips : ∀ rest, stripped .outside (text.toList ++ rest)
    = kept.toList ++ stripped .outside rest
  printed : ∀ c ∈ kept.toList, 0x20 ≤ c.toNat

/-- No control character is written in a string. -/
theorem le_toNat_of_mem_encodeChar {c x : Char} (h : x ∈ encodeChar c) : 0x20 ≤ x.toNat := by
  rcases encodeChar_cases c with ⟨hc, _, _, hlow⟩ | ⟨y, hc, _, hy⟩ | ⟨hlow, _⟩
  · rw [hc, List.mem_singleton] at h
    rw [h]
    exact Nat.le_of_not_lt hlow
  · rw [hc, List.mem_cons, List.mem_singleton] at h
    rcases h with rfl | rfl
    · decide
    · -- control characters are not the letters of escapes
      have hletters : ∀ n < 0x20, letterEscape? (Char.ofNat n) = none := by decide
      by_contra hlow
      have hx := hletters x.toNat (Nat.lt_of_not_le hlow)
      rw [Char.ofNat_toNat, hy] at hx
      cases hx
  · have hcodes : ∀ n < 0x20, (encodeChar (Char.ofNat n)).all (0x20 ≤ ·.toNat) = true := by decide
    have hx := hcodes c.toNat hlow
    rw [Char.ofNat_toNat, List.all_eq_true] at hx
    exact of_decide_eq_true (hx x h)

/-- Whether a character stays outside strings and leaves the text there. -/
def isMark (c : Char) : Bool := 0x20 < c.toNat && c != '"'

theorem isMark_iff {c : Char} : isMark c = true ↔ 0x20 < c.toNat ∧ c ≠ '"' := by
  simp [isMark]

namespace Condenses

variable {a b kept kept' : String}

theorem append (ha : Condenses a kept) (hb : Condenses b kept') :
    Condenses (a ++ b) (kept ++ kept') where
  strips := by
    intro rest
    rw [String.toList_append, String.toList_append, List.append_assoc, ha.strips, hb.strips,
      List.append_assoc]
  printed := by
    intro c hc
    rw [String.toList_append, List.mem_append] at hc
    exact hc.elim (ha.printed c) (hb.printed c)

theorem empty : Condenses "" "" where
  strips _ := rfl
  printed := nofun

/-- Spaces and line ends come down to nothing. -/
theorem filler (h : ∀ c ∈ a.toList, c = '\n' ∨ c = ' ') : Condenses a "" where
  strips := by
    intro rest
    show _ = stripped .outside rest
    generalize a.toList = cs at h
    induction cs with
    | nil => rfl
    | cons c cs ih =>
      obtain ⟨hc, hcs⟩ := List.forall_mem_cons.1 h
      have hfiller : isFiller (.outside, c) = true ∧ Place.outside.after c = .outside := by
        rcases hc with rfl | rfl <;> exact ⟨rfl, rfl⟩
      rw [List.cons_append, stripped_filler hfiller.1, hfiller.2, ih hcs]
  printed := nofun

/-- A text that has neither blanks nor quotes stays. -/
theorem mark (h : a.toList.all isMark = true) : Condenses a a where
  strips := by
    intro rest
    generalize a.toList = cs at h
    induction cs with
    | nil => rfl
    | cons c cs ih =>
      rw [List.all_cons, Bool.and_eq_true] at h
      obtain ⟨hlow, hquote⟩ := isMark_iff.1 h.1
      have hfiller : isFiller (.outside, c) = false := by
        have hspace : c ≠ ' ' := by rintro rfl; exact absurd hlow (by decide)
        have hline : c ≠ '\n' := by rintro rfl; exact absurd hlow (by decide)
        simp [isFiller, hspace, hline]
      have hplace : Place.outside.after c = .outside := if_neg hquote
      rw [List.cons_append, stripped_kept hfiller, hplace, ih h.2, List.cons_append]
  printed c hc := Nat.le_of_lt (isMark_iff.1 (List.all_eq_true.1 h c hc)).1

/-- Inside a string everything stays. -/
theorem stripped_encodeChar (c : Char) (rest : List Char) :
    stripped .inside (encodeChar c ++ rest) = encodeChar c ++ stripped .inside rest := by
  have hplain {x : Char} (hquote : x ≠ '"') (hslash : x ≠ '\\') (rest : List Char) :
      stripped .inside (x :: rest) = x :: stripped .inside rest := by
    have hplace : Place.inside.after x = .inside := by
      rw [Place.after, if_neg hquote, if_neg hslash]
    rw [stripped_kept rfl, hplace]
  have hescape (x : Char) (rest : List Char) :
      stripped .inside ('\\' :: x :: rest) = '\\' :: x :: stripped .inside rest := by
    rw [stripped_kept rfl]
    exact congrArg _ (stripped_kept rfl rest)
  rcases encodeChar_cases c with ⟨h, hquote, hslash, _⟩ | ⟨x, h, _, _⟩ |
    ⟨_, a, b, h, _, ha, ha', hb, hb'⟩
  · rw [h]
    exact hplain hquote hslash rest
  · rw [h]
    exact hescape x rest
  · rw [h]
    show stripped .inside ('\\' :: 'u' :: '0' :: '0' :: a :: b :: rest) = _
    rw [hescape, hplain (by decide) (by decide), hplain (by decide) (by decide), hplain ha ha',
      hplain hb hb']
    rfl

/-- A string stays as it is. -/
theorem encode (s : String) : Condenses (Json.encode s) (Json.encode s) where
  strips := by
    intro rest
    have hchars (cs : List Char) : stripped .inside (cs.flatMap encodeChar ++ '"' :: rest)
        = cs.flatMap encodeChar ++ '"' :: stripped .outside rest := by
      induction cs with
      | nil => exact stripped_kept rfl rest
      | cons c cs ih =>
        rw [List.flatMap_cons, List.append_assoc, stripped_encodeChar, ih, List.append_assoc]
    rw [toList_encode, List.cons_append, stripped_kept rfl, List.append_assoc]
    show '"' :: stripped .inside (_ ++ '"' :: rest) = _
    rw [hchars]
    simp
  printed := by
    intro c hc
    rw [toList_encode] at hc
    simp only [List.mem_cons, List.mem_append, List.mem_flatMap, List.not_mem_nil, or_false] at hc
    rcases hc with rfl | ⟨x, _, hx⟩ | rfl
    · decide
    · exact le_toNat_of_mem_encodeChar hx
    · decide

theorem stripped_eq (h : Condenses a kept) : stripped .outside a.toList = kept.toList := by
  have hstrips := h.strips []
  rw [List.append_nil, show stripped .outside [] = [] from rfl, List.append_nil] at hstrips
  exact hstrips

/-- A whole text that comes down to another one is that one when condensed. -/
theorem condensed_eq (h : Condenses a kept) : condensed a = kept := by
  unfold condensed
  rw [h.stripped_eq, String.ofList_toList]

/-- In a text that comes down to itself no space stands outside strings. -/
theorem ne_space (h : Condenses a a) {c : Char}
    (hc : (Place.outside, c) ∈ placed .outside a.toList) : c ≠ ' ' := by
  rintro rfl
  cases not_isFiller_of_stripped h.stripped_eq hc

end Condenses

end Json

/-! ## §3. Texts of drafts. -/

namespace Draft

open AnalysisDiagram.Json AnalysisDiagram.Layout

variable {room : Nat} {indent : Option Int}

/-- What it means that a draft written in lines comes down to the draft written
compactly. -/
def CondensesTo (room : Nat) (indent : Option Int) (d : Draft) : Prop :=
  ∀ level t, write (ofIndent room indent) level d = .ok t →
    ∀ level' t', write .compact level' d = .ok t' → Condenses t.string t'.string

theorem condenses_newline {level : Nat} {s : String}
    (h : (ofIndent room indent).newline level = .ok s) : Condenses s "" := by
  have hroom := newline_needsRoom room indent level
  rw [h] at hroom
  exact .filler hroom.good_of_ok

theorem condenses_colon (layout : Layout) : Condenses layout.colon ":" := by
  have hcolon : Condenses ":" ":" := .mark rfl
  have hspace : Condenses " " "" := .filler fun c hc => .inr (List.mem_singleton.1 hc)
  have hspaced : Condenses ": " ":" := hcolon.append hspace
  cases layout with
  | compact => exact hcolon
  | indented width room => exact hspaced
  | unusable problem => exact hspaced

theorem condenses_fieldStart (layout : Layout) (field : Field) {before before' : String}
    (hbefore : Condenses before before') :
    Condenses (fieldStart layout before field) (fieldStart .compact before' field) :=
  (hbefore.append (.encode field.name)).append (condenses_colon layout)

theorem condenses_items {items : List Draft} (h : ∀ d ∈ items, d.Sound → CondensesTo room indent d)
    (hs : SoundItems items) {level level' : Nat} {inner : String} (hinner : Condenses inner "")
    {more more' : LooseText}
    (hmore : writeItems (ofIndent room indent) level inner items = .ok more)
    (hmore' : writeItems .compact level' "" items = .ok more') :
    Condenses more.string more'.string := by
  induction items generalizing more more' with
  | nil =>
    cases hmore
    cases hmore'
    exact .empty
  | cons d items ih =>
    obtain ⟨hd, hitems⟩ := List.forall_mem_cons.1 h
    rw [writeItems] at hmore hmore'
    simp only [bind_eq_ok_iff] at hmore hmore'
    obtain ⟨next, hnext, rest, hrest, hmore⟩ := hmore
    obtain ⟨next', hnext', rest', hrest', hmore'⟩ := hmore'
    cases hmore
    cases hmore'
    simp only [LooseText.string_append, LooseText.string_ofString]
    exact (((Condenses.mark rfl).append hinner).append
      (hd hs.1 level next hnext level' next' hnext')).append (ih hitems hs.2 hrest hrest')

theorem condenses_fields {fields : List (Field × Draft)}
    (h : ∀ f ∈ fields, f.2.Sound → CondensesTo room indent f.2) (hs : SoundFields fields)
    {level level' : Nat} {inner before before' : String} (hinner : Condenses inner "")
    (hbefore : Condenses before before') {more more' : LooseText}
    (hmore : writeFields (ofIndent room indent) level inner before fields = .ok more)
    (hmore' : writeFields .compact level' "" before' fields = .ok more') :
    Condenses more.string more'.string := by
  induction fields generalizing before before' more more' with
  | nil =>
    cases hmore
    cases hmore'
    exact .empty
  | cons f fields ih =>
    obtain ⟨field, d⟩ := f
    obtain ⟨hd, hfields⟩ := List.forall_mem_cons.1 h
    obtain ⟨hsound, hs⟩ := hs
    rw [writeFields] at hmore hmore'
    by_cases hnull : d.isNull = true
    · -- both writers leave the field out
      rw [if_pos hnull] at hmore hmore'
      exact ih hfields hs hbefore hmore hmore'
    · rw [if_neg hnull] at hmore hmore'
      simp only [bind_eq_ok_iff] at hmore hmore'
      obtain ⟨next, hnext, rest, hrest, hmore⟩ := hmore
      obtain ⟨next', hnext', rest', hrest', hmore'⟩ := hmore'
      cases hmore
      cases hmore'
      simp only [LooseText.string_append, LooseText.string_ofString]
      have hnext := hd (hsound.resolve_left hnull) level next hnext level' next' hnext'
      exact ((condenses_fieldStart _ field hbefore).append hnext).append
        (ih hfields hs ((Condenses.mark rfl).append hinner) hrest hrest')

/-- A sound draft written in lines comes down to the draft written compactly. -/
theorem condenses_write (d : Draft) (hs : d.Sound) : CondensesTo room indent d := by
  induction d using Draft.induction with
  | text t =>
    intro level t₁ h level' t₂ h'
    cases h
    cases h'
    rw [LooseText.eq_ofString_of_lead hs, encodeLoose_ofString]
    exact .encode t.string
  | list items ih =>
    intro level t h level' t' h'
    cases items with
    | nil =>
      cases h
      cases h'
      exact .mark rfl
    | cons d items =>
      obtain ⟨hd, hitems⟩ := List.forall_mem_cons.1 ih
      rw [write] at h h'
      simp only [bind_eq_ok_iff] at h h'
      obtain ⟨inner, hinner, outer, houter, first, hfirst, rest, hrest, h⟩ := h
      obtain ⟨_, ⟨⟩, _, ⟨⟩, first', hfirst', rest', hrest', h'⟩ := h'
      cases h
      cases h'
      have hinner := condenses_newline hinner
      have hfirst := hd hs.1 _ first hfirst _ first' hfirst'
      simp only [LooseText.string_append, LooseText.string_ofString]
      exact ((((Condenses.mark rfl).append hinner).append hfirst).append
        (condenses_items hitems hs.2 hinner hrest hrest')).append
          ((condenses_newline houter).append (.mark rfl))
  | node tag fields ih =>
    intro level t h level' t' h'
    obtain ⟨hfull, hs⟩ := hs
    have hlacks : ¬ lacksField fields = true := by
      rw [lacksField_of_soundFields hs]
      exact Bool.false_ne_true
    rw [write, if_neg hlacks, fieldLine, hfull] at h h'
    simp only [bind_eq_ok_iff] at h h'
    obtain ⟨inner, hinner, outer, houter, rest, hrest, h⟩ := h
    obtain ⟨_, ⟨⟩, _, ⟨⟩, rest', hrest', h'⟩ := h'
    cases h
    cases h'
    have hinner := condenses_newline hinner
    simp only [LooseText.string_append, LooseText.string_ofString]
    exact ((Condenses.mark rfl).append (condenses_fields ih hs hinner hinner hrest hrest')).append
      ((condenses_newline houter).append (.mark rfl))
  | null => exact hs.elim
  | absent => exact hs.elim
  | foreign typeName => exact hs.elim

end Draft

/-! ## §4. Payloads of diagrams. -/

namespace Diagram

open AnalysisDiagram.Json

theorem condenses_payload {room room' : Nat} {indent : Option Int} {d : Diagram}
    {text compact : String} (htext : (d.payload (Layout.ofIndent room indent)).result = .ok text)
    (hcompact : (d.payload (Layout.ofIndent room' none)).result = .ok compact) :
    Condenses text compact := by
  have hroom := payload_needsRoom room indent d
  have hroom' := payload_needsRoom room' none d
  rw [htext] at hroom
  rw [hcompact] at hroom'
  exact Draft.condenses_write d.toDraft d.sound_toDraft 0 _ hroom.good_of_ok 0 _
    hroom'.good_of_ok

/-- Every diagram has a compact payload, in which no character is below U+0020,
so that it is a single line, and no space stands outside strings.  A diagram
has an indented payload exactly if there is room for its deepest lines, and
that payload without the spaces and line ends outside strings is the compact
one. -/
theorem payload_condensed (d : Diagram) (room : Nat) (width : Int) :
    ∃ compact, (d.payload (Layout.ofIndent room none)).result = .ok compact ∧
      (∀ c ∈ compact.toList, 0x20 ≤ c.toNat) ∧
      (∀ c, (Place.outside, c) ∈ placed .outside compact.toList → c ≠ ' ') ∧
      ((∃ text, (d.payload (Layout.ofIndent room (some width))).result = .ok text)
        ↔ Layout.RoomFor room (some width) d.toDraft.nest) ∧
      ∀ text, (d.payload (Layout.ofIndent room (some width))).result = .ok text →
        condensed text = compact := by
  obtain ⟨compact, hcompact⟩ :=
    (payload_needsRoom room none d).exists_ok_iff.2 (Layout.roomFor_none _)
  have hself := condenses_payload hcompact hcompact
  refine ⟨compact, hcompact, hself.printed, fun c => hself.ne_space,
    (payload_needsRoom room (some width) d).exists_ok_iff, fun text htext => ?_⟩
  exact (condenses_payload htext hcompact).condensed_eq

/-- A block whose label has a quote, a line end and spaces, around a command
that is nothing but a space. -/
def blankBlock : Diagram := block " \"\n " [command " "]

/-- The spaces in its strings stay, and all others go. -/
theorem payload_condensed_blankBlock :
    ∃ text, (blankBlock.payload (Layout.ofIndent 6 (some 2))).result = .ok text ∧
      condensed text = "\x7b\"type\":\"block\",\"label\":\" \\\"\\n \",\"children\":["
        ++ "\x7b\"type\":\"command\",\"label\":\" \"\x7d]\x7d" := by
  let text := "\x7b\n  \"type\": \"block\",\n  \"label\": \" \\\"\\n \",\n  \"children\": [\n"
    ++ "    \x7b\n      \"type\": \"command\",\n      \"label\": \" \"\n    \x7d\n  ]\n\x7d"
  have htext : (blankBlock.payload (Layout.ofIndent 6 (some 2))).result = .ok text := by
    decide +kernel
  obtain ⟨compact, hcompact, _, _, _, hcondensed⟩ := payload_condensed blankBlock 6 2
  refine ⟨text, htext, (hcondensed text htext).trans ?_⟩
  have hmade : (blankBlock.payload (Layout.ofIndent 6 none)).result
      = .ok ("\x7b\"type\":\"block\",\"label\":\" \\\"\\n \",\"children\":["
        ++ "\x7b\"type\":\"command\",\"label\":\" \"\x7d]\x7d") := by
    decide +kernel
  exact Except.ok.inj (hcompact.symm.trans hmade)

/-- With an indent far below zero, which would indent like zero, an empty
sequence has no payload that could be condensed, whatever room there is. -/
theorem payload_condensed_overflow :
    (∀ room, ((sequence []).payload (Layout.ofIndent room (some Layout.farBelow))).result
      = .error .indentOverflow) ∧
    ¬ ∃ room text compact,
      ((sequence []).payload (Layout.ofIndent room (some Layout.farBelow))).result = .ok text ∧
      ((sequence []).payload (Layout.ofIndent room none)).result = .ok compact ∧
      condensed text = compact := by
  refine ⟨fun room => payload_farBelow room _, ?_⟩
  rintro ⟨room, text, _, htext, _⟩
  rw [payload_farBelow] at htext
  cases htext

end Diagram

end AnalysisDiagram
