/-
  AnalysisDiagram.Proofs.Tree.Members
  ───────────────────────────────────
  What tightening member access does to a text.

      SpacedDot             — there is a dot between two spaces
      tightenChars_append   — a text that is cut where no spaced dot can lie
                              across is tightened part by part
      tightenChars_eq_self_iff
                            — only texts without spaced dots stay as they are
      tightened_in_one_pass — only spaces go, and where no two of them stand
                              side by side, one pass leaves no spaced dot

  A spaced dot across a cut has the space or the dot on both sides of it, so
  one character next to the cut that is neither keeps the two parts apart.
-/
import AnalysisDiagram.Text.Loose
import AnalysisDiagram.Tree.Excerpt
import Mathlib.Data.List.Infix

namespace AnalysisDiagram

/-- There is a dot between two spaces in a text. -/
def SpacedDot (cs : List Char) : Prop := [' ', '.', ' '] <:+: cs

instance (cs : List Char) : Decidable (SpacedDot cs) :=
  inferInstanceAs (Decidable ([' ', '.', ' '] <:+: cs))

/-! ## §1. One character. -/

/-- A character that does not begin a spaced dot stays. -/
theorem tightenChars_cons {c : Char} {cs : List Char}
    (h : ∀ rest, c = ' ' → cs ≠ '.' :: ' ' :: rest) :
    tightenChars (c :: cs) = c :: tightenChars cs := by
  rw [tightenChars]
  intro rest hc hcs
  exact h rest hc hcs

/-- A spaced dot that does not begin at the first character lies behind it. -/
theorem spacedDot_cons {c : Char} {cs : List Char}
    (h : ∀ rest, c = ' ' → cs ≠ '.' :: ' ' :: rest) : SpacedDot (c :: cs) ↔ SpacedDot cs := by
  unfold SpacedDot
  rw [List.infix_cons_iff]
  constructor
  · intro hdot
    rcases hdot with ⟨rest, hrest⟩ | hdot
    · -- the first three characters would be a spaced dot
      injection hrest with hc hcs
      exact absurd hcs.symm (h rest hc.symm)
    · exact hdot
  · exact .inr

/-! ## §2. Texts that stay. -/

theorem length_tightenChars_le (cs : List Char) : (tightenChars cs).length ≤ cs.length := by
  fun_induction tightenChars cs with
  | case1 rest ih =>
    simp only [List.length_cons]
    omega
  | case2 c rest _ ih =>
    simp only [List.length_cons]
    omega
  | case3 => exact Nat.le_refl 0

/-- Only texts without spaced dots stay as they are. -/
theorem tightenChars_eq_self_iff (cs : List Char) : tightenChars cs = cs ↔ ¬ SpacedDot cs := by
  fun_induction tightenChars cs with
  | case1 rest ih =>
    -- here two characters are lost for good
    refine ⟨fun h => ?_, fun h => absurd ⟨[], rest, rfl⟩ h⟩
    have hlen := congrArg List.length h
    have hrest := length_tightenChars_le rest
    simp only [List.length_cons] at hlen
    omega
  | case2 c rest hdot ih =>
    rw [spacedDot_cons fun rest' hc hrest => hdot rest' hc hrest, ← ih]
    simp
  | case3 =>
    refine ⟨fun _ h => ?_, fun _ => rfl⟩
    have hlen := h.length_le
    simp at hlen

/-! ## §3. Texts in parts. -/

/-- No spaced dot lies across the cut between two parts. -/
structure Apart (as bs : List Char) : Prop where
  space : [' '] <:+ as → ¬ ['.', ' '] <+: bs
  dot : [' ', '.'] <:+ as → ¬ [' '] <+: bs

theorem Apart.of_cons {c : Char} {as bs : List Char} (h : Apart (c :: as) bs) : Apart as bs where
  space hspace := h.space (hspace.trans (List.suffix_cons c as))
  dot hdot := h.dot (hdot.trans (List.suffix_cons c as))

/-- Parts with no spaced dot across the cut are tightened one by one. -/
theorem tightenChars_append {as bs : List Char} (h : Apart as bs) :
    tightenChars (as ++ bs) = tightenChars as ++ tightenChars bs := by
  fun_induction tightenChars as with
  | case1 rest ih =>
    show '.' :: tightenChars (rest ++ bs) = _
    rw [ih h.of_cons.of_cons.of_cons, List.cons_append]
  | case2 c rest hdot ih =>
    rw [List.cons_append, List.cons_append, tightenChars_cons, ih h.of_cons]
    -- a spaced dot at `c` would end before the cut, or lie across it
    intro rest' hc hrest
    subst hc
    rcases List.append_eq_cons_iff.1 hrest with ⟨rfl, hbs⟩ | ⟨tail, rfl, htail⟩
    · exact h.space (List.suffix_refl _) ⟨rest', hbs.symm⟩
    · rcases List.append_eq_cons_iff.1 htail.symm with ⟨rfl, hbs⟩ | ⟨tail, rfl, _⟩
      · exact h.dot (List.suffix_refl _) ⟨rest', hbs.symm⟩
      · exact hdot tail rfl rfl
  | case3 => rfl

/-- A character that is no part of a spaced dot. -/
def isSolid (c : Char) : Bool := c != ' ' && c != '.'

theorem apart_of_head {as bs : List Char} (h : ∀ b ∈ bs.head?, isSolid b = true) : Apart as bs where
  space _ hdot := by
    obtain ⟨rest, rfl⟩ := hdot
    cases h '.' rfl
  dot _ hspace := by
    obtain ⟨rest, rfl⟩ := hspace
    cases h ' ' rfl

theorem apart_of_last {as bs : List Char} (h : ∀ a ∈ as.getLast?, isSolid a = true) :
    Apart as bs where
  space hspace _ := by
    obtain ⟨rest, rfl⟩ := hspace
    cases h ' ' List.getLast?_concat
  dot hdot _ := by
    obtain ⟨rest, rfl⟩ := hdot
    cases h '.' (by rw [List.getLast?_append]; rfl)

/-- Whether a text begins and ends with solid characters, as a literal does with
its quotes. -/
def isEnclosed (s : String) : Bool := s.toList.head?.any isSolid && s.toList.getLast?.any isSolid

/-- An enclosed part is tightened apart from all that stands around it. -/
theorem tightenMembers_around {s : String} (h : isEnclosed s = true) (before after : String) :
    tightenMembers (before ++ s ++ after)
      = tightenMembers before ++ tightenMembers s ++ tightenMembers after := by
  unfold isEnclosed at h
  rw [Bool.and_eq_true, Option.any_eq_true, Option.any_eq_true] at h
  obtain ⟨⟨first, hfirst, hsolid⟩, last, hlast, hsolid'⟩ := h
  have hleft : Apart before.toList (s.toList ++ after.toList) := by
    apply apart_of_head
    intro b hb
    rw [List.head?_append, hfirst] at hb
    cases hb
    exact hsolid
  have hright : Apart s.toList after.toList := by
    apply apart_of_last
    intro a ha
    rw [hlast] at ha
    cases ha
    exact hsolid'
  unfold tightenMembers
  rw [← String.toList_inj]
  simp only [String.toList_append, String.toList_ofList, List.append_assoc]
  rw [tightenChars_append hleft, tightenChars_append hright]

/-- A text without spaced dots is tightened to itself, and only such a text. -/
theorem tightenMembers_eq_self_iff (s : String) :
    tightenMembers s = s ↔ ¬ SpacedDot s.toList := by
  unfold tightenMembers
  rw [← tightenChars_eq_self_iff, ← String.toList_inj, String.toList_ofList]

/-! ## §4. One pass. -/

/-- Two spaces stand side by side in a text. -/
def DoubleSpace (cs : List Char) : Prop := [' ', ' '] <:+: cs

instance (cs : List Char) : Decidable (DoubleSpace cs) :=
  inferInstanceAs (Decidable ([' ', ' '] <:+: cs))

theorem toList_tightenMembers (s : String) :
    (tightenMembers s).toList = tightenChars s.toList :=
  String.toList_ofList

theorem DoubleSpace.cons {cs : List Char} (h : DoubleSpace cs) (c : Char) : DoubleSpace (c :: cs) :=
  List.infix_cons h

theorem tightenChars_sublist (cs : List Char) : (tightenChars cs).Sublist cs := by
  fun_induction tightenChars cs with
  | case1 rest ih => exact ((ih.cons ' ').cons_cons '.').cons ' '
  | case2 c rest _ ih => exact ih.cons_cons c
  | case3 => exact List.Sublist.slnil

theorem filter_tightenChars (cs : List Char) :
    (tightenChars cs).filter (· ≠ ' ') = cs.filter (· ≠ ' ') := by
  fun_induction tightenChars cs with
  | case1 rest ih => simpa using ih
  | case2 c rest _ ih => rw [List.filter_cons, List.filter_cons, ih]
  | case3 => rfl

/-- A space at the front of what comes out stood at the front before. -/
theorem eq_space_cons_of_tightenChars {cs out : List Char} (h : tightenChars cs = ' ' :: out) :
    ∃ rest, cs = ' ' :: rest := by
  fun_cases tightenChars cs with
  | case1 rest => exact ⟨_, rfl⟩
  | case2 c rest hdot =>
    rw [tightenChars_cons fun rest' hc hrest => hdot rest' hc hrest] at h
    cases h
    exact ⟨rest, rfl⟩
  | case3 => cases h

/-- A dot at the front of what comes out stood there before, or after a space. -/
theorem eq_dot_cons_of_tightenChars {cs out : List Char} (h : tightenChars cs = '.' :: out) :
    (∃ rest, cs = ' ' :: rest) ∨ ∃ rest, cs = '.' :: rest ∧ tightenChars rest = out := by
  fun_cases tightenChars cs with
  | case1 rest => exact .inl ⟨_, rfl⟩
  | case2 c rest hdot =>
    rw [tightenChars_cons fun rest' hc hrest => hdot rest' hc hrest] at h
    cases h
    exact .inr ⟨rest, rfl, rfl⟩
  | case3 => cases h

/-- Where no two spaces stand side by side, no spaced dot is left or made. -/
theorem not_spacedDot_tightenChars {cs : List Char} (h : ¬ DoubleSpace cs) :
    ¬ SpacedDot (tightenChars cs) := by
  fun_induction tightenChars cs with
  | case1 rest ih =>
    have hdot (rest' : List Char) (hc : '.' = ' ') : tightenChars rest ≠ '.' :: ' ' :: rest' :=
      absurd hc (by decide)
    rw [spacedDot_cons hdot]
    exact ih fun hrest => h (((hrest.cons ' ').cons '.').cons ' ')
  | case2 c rest hdot ih =>
    rw [spacedDot_cons]
    · exact ih fun hrest => h (hrest.cons c)
    · -- what makes a spaced dot with the space `c` stood behind it all along
      intro out hc hout
      subst hc
      rcases eq_dot_cons_of_tightenChars hout with ⟨rest', rfl⟩ | ⟨rest', rfl, hspace⟩
      · exact h ⟨[], rest', rfl⟩
      · obtain ⟨rest'', rfl⟩ := eq_space_cons_of_tightenChars hspace
        exact hdot rest'' rfl rfl
  | case3 => decide

/-! ## §5. Loose texts. -/

namespace LooseText

/-- The runs of characters in a loose text. -/
def runs (t : LooseText) : List String := t.lead.map (·.1) ++ [t.last]

theorem codes_nil (last : String) : codes ⟨[], last⟩ = last.toList.map Code.char := rfl

theorem codes_cons (run : String) (n : Fin 2048) (lead : List (String × Fin 2048))
    (last : String) :
    codes ⟨(run, n) :: lead, last⟩ = run.toList.map Code.char ++ .lone n :: codes ⟨lead, last⟩ := by
  unfold codes
  simp

theorem infix_map_char_iff {cs ds : List Char} :
    cs.map Code.char <:+: ds.map Code.char ↔ cs <:+: ds := by
  have hinj : Function.Injective Code.char := fun _ _ h => Code.char.inj h
  rw [List.infix_map_iff]
  constructor
  · rintro ⟨l, hl, h⟩
    rw [(List.map_injective_iff.2 hinj) h]
    exact hl
  · exact fun h => ⟨cs, h, rfl⟩

/-- Characters in a row never reach over a lone code. -/
theorem infix_append_lone_iff {cs : List Char} (hcs : cs ≠ []) {as bs : List Code}
    {n : Fin 2048} :
    cs.map Code.char <:+: as ++ .lone n :: bs
      ↔ cs.map Code.char <:+: as ∨ cs.map Code.char <:+: bs := by
  have hlone : Code.lone n ∉ cs.map Code.char := by simp
  have hfront (l : List Code) (hl : l <+: .lone n :: bs) (hmem : Code.lone n ∉ l) : l = [] := by
    rcases List.prefix_cons_iff.1 hl with rfl | ⟨l, rfl, _⟩
    · rfl
    · exact absurd List.mem_cons_self hmem
  rw [List.infix_append_iff, List.infix_cons_iff]
  constructor
  · rintro (h | (h | h) | ⟨l₁, l₂, hl, hleft, hright⟩)
    · exact .inl h
    · exact absurd (List.map_eq_nil_iff.1 (hfront _ h hlone)) hcs
    · exact .inr h
    · have hl₂ := hfront l₂ hright fun h => hlone (hl ▸ List.mem_append_right l₁ h)
      rw [hl, hl₂, List.append_nil]
      exact .inl hleft.isInfix
  · rintro (h | h)
    · exact .inl h
    · exact .inr (.inl (.inr h))

/-- Characters stand in a row in a loose text where they do in one of its runs. -/
theorem infix_codes_iff {cs : List Char} (hcs : cs ≠ []) (t : LooseText) :
    cs.map Code.char <:+: t.codes ↔ ∃ run ∈ t.runs, cs <:+: run.toList := by
  obtain ⟨lead, last⟩ := t
  induction lead with
  | nil =>
    rw [codes_nil, infix_map_char_iff]
    simp [runs]
  | cons item lead ih =>
    obtain ⟨run, n⟩ := item
    rw [codes_cons, infix_append_lone_iff hcs, infix_map_char_iff, ih]
    simp [runs]

theorem runs_mapRuns (f : String → String) (t : LooseText) : (t.mapRuns f).runs = t.runs.map f := by
  simp [runs, mapRuns]

/-- A change of runs that settles each of them settles the text. -/
theorem mapRuns_mapRuns {f : String → String} {t : LooseText}
    (h : ∀ run ∈ t.runs, f (f run) = f run) : (t.mapRuns f).mapRuns f = t.mapRuns f := by
  obtain ⟨lead, last⟩ := t
  unfold mapRuns
  rw [List.map_map]
  congr 1
  · refine List.map_congr_left fun item hitem => ?_
    exact congrArg (·, item.2) (h item.1 (List.mem_append_left _ (List.mem_map_of_mem hitem)))
  · exact h last (List.mem_append_right _ (List.mem_singleton.2 rfl))

/-- The codes of a changed text are those of the text, run by run. -/
theorem codes_mapRuns_rel {R : List Code → List Code → Prop} {f : String → String}
    (hrun : ∀ s : String, R ((f s).toList.map Code.char) (s.toList.map Code.char))
    (happend : ∀ as as' bs bs' c, R as as' → R bs bs' → R (as ++ c :: bs) (as' ++ c :: bs'))
    (t : LooseText) : R (t.mapRuns f).codes t.codes := by
  obtain ⟨lead, last⟩ := t
  induction lead with
  | nil => exact hrun last
  | cons item lead ih =>
    obtain ⟨run, n⟩ := item
    rw [codes_cons]
    show R (codes ⟨(f run, n) :: lead.map _, f last⟩) _
    rw [codes_cons]
    exact happend _ _ _ _ _ (hrun run) ih

/-- Tightening only takes spaces out of a text.  If no two of them stand side
by side, no spaced dot is left, and a second pass changes nothing.  A text in
which no code stands alone is a single run, and is tightened as such. -/
theorem tightened_in_one_pass (t : LooseText) :
    (t.mapRuns tightenMembers).codes.Sublist t.codes ∧
    (t.mapRuns tightenMembers).codes.filter (· ≠ .char ' ') = t.codes.filter (· ≠ .char ' ') ∧
    (¬ [.char ' ', .char ' '] <:+: t.codes →
      ¬ [.char ' ', .char '.', .char ' '] <:+: (t.mapRuns tightenMembers).codes ∧
      (t.mapRuns tightenMembers).mapRuns tightenMembers = t.mapRuns tightenMembers) := by
  refine ⟨?_, ?_, fun hdouble => ?_⟩
  · refine codes_mapRuns_rel (fun s => ?_) (fun _ _ _ _ c h h' => h.append (h'.cons_cons c)) t
    rw [toList_tightenMembers]
    exact (tightenChars_sublist s.toList).map Code.char
  · have hfilter (cs : List Char) :
        (cs.map Code.char).filter (· ≠ .char ' ') = (cs.filter (· ≠ ' ')).map Code.char := by
      simp [List.filter_map, Function.comp_def]
    refine codes_mapRuns_rel
      (R := fun as bs => as.filter (· ≠ .char ' ') = bs.filter (· ≠ .char ' '))
      (fun s => ?_) (fun _ _ _ _ c h h' => ?_) t
    · rw [hfilter, hfilter, toList_tightenMembers, filter_tightenChars]
    · simp only [List.filter_append, List.filter_cons, h, h']
  · -- neither two spaces nor a spaced dot can reach from one run into the next
    have hspaces : [.char ' ', .char ' '] <:+: t.codes ↔ ∃ run ∈ t.runs, DoubleSpace run.toList :=
      infix_codes_iff (List.cons_ne_nil ' ' [' ']) t
    have hdots : [.char ' ', .char '.', .char ' '] <:+: (t.mapRuns tightenMembers).codes
        ↔ ∃ run ∈ (t.mapRuns tightenMembers).runs, SpacedDot run.toList :=
      infix_codes_iff (List.cons_ne_nil ' ' ['.', ' ']) _
    have hrun (run : String) (hrun : run ∈ t.runs) : ¬ SpacedDot (tightenMembers run).toList := by
      rw [toList_tightenMembers]
      exact not_spacedDot_tightenChars fun h => hdouble (hspaces.2 ⟨run, hrun, h⟩)
    constructor
    · rw [hdots, runs_mapRuns]
      rintro ⟨run', hrun', hdot⟩
      obtain ⟨run, hmem, rfl⟩ := List.mem_map.1 hrun'
      exact hrun run hmem hdot
    · exact mapRuns_mapRuns fun run hmem => (tightenMembers_eq_self_iff _).2 (hrun run hmem)

/-- A space between two dots serves the first of them alone, and the second is
left with a space on one side. -/
theorem tightened_in_one_pass_dots :
    ¬ [.char ' ', .char ' '] <:+: codes ⟨[("a . . ", 0)], " . b . c"⟩ ∧
    mapRuns tightenMembers ⟨[("a . . ", 0)], " . b . c"⟩ = ⟨[("a.. ", 0)], ".b.c"⟩ ∧
    mapRuns tightenMembers ⟨[("a.. ", 0)], ".b.c"⟩ = ⟨[("a.. ", 0)], ".b.c"⟩ := by
  have hdouble : ¬ [.char ' ', .char ' '] <:+: codes ⟨[("a . . ", 0)], " . b . c"⟩ := by
    decide +kernel
  have hmade : mapRuns tightenMembers ⟨[("a . . ", 0)], " . b . c"⟩ = ⟨[("a.. ", 0)], ".b.c"⟩ := by
    decide +kernel
  have htwice := ((tightened_in_one_pass ⟨[("a . . ", 0)], " . b . c"⟩).2.2 hdouble).2
  rw [hmade] at htwice
  exact ⟨hdouble, hmade, htwice⟩

/-- With two spaces side by side, a first pass can leave work for a second. -/
example : tightenMembers "a  .  b" = "a . b" ∧ tightenMembers "a . b" = "a.b" := by decide +kernel

end LooseText

end AnalysisDiagram
