/-
  AnalysisDiagram.Proofs.Command.Note
  ───────────────────────────────────
  The note about a file that was written.

      lone_mem_visible      — printing brings no lone codes in
      markupFrom_of_not_mem — without a bracket there is only plain text
      line?_wroteNote       — the note has a text, if there is no bracket in
                              the path

  A path with a bracket in it may be read as a style, or as the end of one that
  was never begun.
-/
import AnalysisDiagram.Command.Run
import Mathlib.Data.List.Forall2

namespace AnalysisDiagram

/-! ## §1. Codes of texts. -/

namespace LooseText

theorem codes_append (a b : LooseText) : (a ++ b).codes = a.codes ++ b.codes := by
  obtain ⟨lead, last⟩ := b
  cases lead with
  | nil =>
    show codes ⟨a.lead, a.last ++ last⟩ = _
    simp [codes]
  | cons x rest =>
    show codes ⟨a.lead ++ (a.last ++ x.1, x.2) :: rest, last⟩ = _
    simp [codes]

theorem codes_ofCodesFrom (run : List Char) (cs : List Code) :
    (ofCodesFrom run cs).codes = run.reverse.map Code.char ++ cs := by
  induction cs generalizing run with
  | nil => simp [ofCodesFrom, codes]
  | cons c cs ih =>
    cases c with
    | char c => simp [ofCodesFrom, ih]
    | lone n =>
      have hrest := ih []
      simp only [codes] at hrest
      simp [ofCodesFrom, codes, hrest]

theorem lone_not_mem_codes_ofString (s : String) (n : Fin 2048) :
    Code.lone n ∉ (ofString s).codes := by
  simp [codes, ofString]

theorem codes_ofCodes (cs : List Code) : (ofCodes cs).codes = cs := codes_ofCodesFrom [] cs

end LooseText

/-! ## §2. Lone codes in what is printed. -/

section LoneCodes

variable {n : Fin 2048}

theorem lone_mem_cons {c : Code} {xs ys : List Code} (h : Code.lone n ∈ c :: xs)
    (hxs : Code.lone n ∈ xs → Code.lone n ∈ ys) : Code.lone n ∈ c :: ys :=
  List.mem_cons.2 ((List.mem_cons.1 h).imp_right hxs)

namespace Text

theorem lone_mem_glyph {inside : List Code} (h : Code.lone n ∈ glyph inside) :
    Code.lone n ∈ inside := by
  unfold glyph at h
  split at h
  split at h
  · simp at h
  · simpa [colonSign] using h

theorem lone_mem_emojifyFrom {begun : Option (List Code)} {cs : List Code}
    (h : Code.lone n ∈ emojifyFrom begun cs) : Code.lone n ∈ begun.getD [] ∨ Code.lone n ∈ cs := by
  fun_induction emojifyFrom begun cs with
  | case1 => cases h
  | case2 begun =>
    left
    simpa [colonSign] using h
  | case3 c rest _ ih => exact .inr (List.mem_cons_of_mem c ((ih h).resolve_left nofun))
  | case4 c rest _ ih => exact .inr (lone_mem_cons h fun h => (ih h).resolve_left nofun)
  | case5 begun c rest _ ih =>
    -- a name ends here, and what stands for it has no other lone codes
    rcases List.mem_append.1 h with h | h
    · exact .inl (List.mem_reverse.1 (lone_mem_glyph h))
    · exact .inr (List.mem_cons_of_mem c ((ih h).resolve_left nofun))
  | case6 begun c rest _ _ ih =>
    have h : Code.lone n ∈ begun.reverse ++ c :: emojifyFrom none rest := by
      simpa [colonSign] using h
    rcases List.mem_append.1 h with h | h
    · exact .inl (List.mem_reverse.1 h)
    · exact .inr (lone_mem_cons h fun h => (ih h).resolve_left nofun)
  | case7 begun c rest _ _ ih =>
    rcases ih h with h | h
    · rcases List.mem_cons.1 h with h | h
      · exact .inr (h ▸ List.mem_cons_self)
      · exact .inl h
    · exact .inr (List.mem_cons_of_mem c h)

theorem lone_mem_untabFrom {column : Nat} {done cs : List Code}
    (h : Code.lone n ∈ untabFrom column done cs) : Code.lone n ∈ done ∨ Code.lone n ∈ cs := by
  induction cs generalizing column done with
  | nil => exact .inl (List.mem_reverse.1 h)
  | cons c rest ih =>
    unfold untabFrom at h
    split at h
    · simp only [List.mem_append, List.mem_reverse, List.mem_cons, List.mem_replicate] at h
      rcases h with ((h | h) | h) | h
      · cases h
      · exact .inl h
      · cases h.2
      · exact .inr (List.mem_cons_of_mem c ((ih h).resolve_left nofun))
    · split at h
      · rcases List.mem_append.1 h with h | h
        · exact .inl (List.mem_reverse.1 h)
        · exact .inr (lone_mem_cons h fun h => (ih h).resolve_left nofun)
      · rcases ih h with h | h
        · rcases List.mem_cons.1 h with h | h
          · exact .inr (h ▸ List.mem_cons_self)
          · exact .inl h
        · exact .inr (List.mem_cons_of_mem c h)

end Text

theorem Command.unescape_sublist (cs : List Code) : (Command.unescape cs).Sublist cs := by
  fun_induction Command.unescape cs with
  | case1 rest ih => exact (ih.cons_cons _).cons _
  | case2 c rest _ ih => exact ih.cons_cons _
  | case3 => exact .slnil

/-- No lone code comes in where plain text is printed. -/
theorem Command.lone_mem_visible {cs : List Code} (h : Code.lone n ∈ Command.visible cs) :
    Code.lone n ∈ cs := by
  have hemoji := List.mem_of_mem_filter h
  have hplain := (Text.lone_mem_emojifyFrom hemoji).resolve_left nofun
  exact (Command.unescape_sublist cs).mem hplain

end LoneCodes

namespace Command

/-! ## §3. Pieces. -/

theorem tag?_of_not_mem {cs : List Code} (h : Code.char '[' ∉ cs) : tag? cs = none := by
  unfold tag?
  split
  · exact absurd List.mem_cons_self h
  · rfl

/-- Codes without a bracket are one piece of plain text, however they are
read. -/
theorem markupFrom_of_not_mem {cs : List Code} (h : Code.char '[' ∉ cs) (fuel : Nat)
    (done : List Code) :
    ∃ shown, markupFrom fuel done cs = [.plain shown] ∧ ∀ c ∈ shown, c ∈ done ∨ c ∈ cs := by
  have hdone (done cs : List Code) : ∀ c ∈ done.reverse, c ∈ done ∨ c ∈ cs := fun c hc =>
    .inl (List.mem_reverse.1 hc)
  induction fuel generalizing done cs with
  | zero => cases cs <;> exact ⟨_, rfl, hdone _ _⟩
  | succ fuel ih =>
    cases cs with
    | nil => exact ⟨_, rfl, hdone _ _⟩
    | cons c cs =>
      have hdrop : Code.char '[' ∉ (c :: cs).dropWhile (· == .char '\\') := fun hmem =>
        h ((List.dropWhile_sublist _).mem hmem)
      rw [markupFrom, tag?_of_not_mem hdrop]
      dsimp only
      split
      · obtain ⟨shown, hshown, hfrom⟩ := ih (fun hmem => h (List.mem_cons_of_mem c hmem))
          (c :: done)
        refine ⟨shown, hshown, fun x hx => ?_⟩
        rcases hfrom x hx with hx | hx
        · rcases List.mem_cons.1 hx with rfl | hx
          · exact .inr List.mem_cons_self
          · exact .inl hx
        · exact .inr (List.mem_cons_of_mem c hx)
      · obtain ⟨shown, hshown, hfrom⟩ := ih hdrop ((c :: cs).takeWhile (· == .char '\\') ++ done)
        refine ⟨shown, hshown, fun x hx => ?_⟩
        rcases hfrom x hx with hx | hx
        · rcases List.mem_append.1 hx with hx | hx
          · exact .inr ((List.takeWhile_sublist _).mem hx)
          · exact .inl hx
        · exact .inr ((List.dropWhile_sublist _).mem hx)

/-- A tag without a backslash before it. -/
theorem markupFrom_tag {cs inside rest : List Code}
    (h : tag? (.char '[' :: cs) = some (inside, rest)) (fuel : Nat) (done : List Code) :
    markupFrom (fuel + 1) done (.char '[' :: cs)
      = .plain done.reverse :: .plain [] :: .tag inside :: markupFrom fuel [] rest := by
  have hdrop : (Code.char '[' :: cs).dropWhile (· == .char '\\') = .char '[' :: cs := rfl
  have htake : (Code.char '[' :: cs).takeWhile (· == .char '\\') = [] := rfl
  rw [markupFrom, hdrop, htake, h]
  rfl

/-- The inside of the tag around the tick. -/
def green : List Code := [.char 'g', .char 'r', .char 'e', .char 'e', .char 'n']

/-- The pieces of the note: two tags around the tick, and plain text. -/
theorem markupFrom_wroteNote {cs : List Code} (h : Code.char '[' ∉ cs) (fuel : Nat) :
    ∃ shown, markupFrom (fuel + 3) [] ((LooseText.ofString "[green]✓[/green] Wrote ").codes ++ cs)
      = [.plain [], .plain [], .tag green, .plain [.char '✓'], .plain [],
          .tag (.char '/' :: green), .plain shown] ∧
      ∀ n, Code.lone n ∈ shown → Code.lone n ∈ cs := by
  have hwords : (LooseText.ofString "[green]✓[/green] Wrote ").codes
      = .char '[' :: (green ++ (.char ']' :: .char '✓' :: .char '[' :: .char '/' :: (green
        ++ (.char ']' :: (LooseText.ofString " Wrote ").codes)))) := by decide
  have hopen (rest : List Code) :
      tag? (.char '[' :: (green ++ (.char ']' :: rest))) = some (green, rest) := by
    simp [tag?, green]
  have hclose (rest : List Code) :
      tag? (.char '[' :: .char '/' :: (green ++ (.char ']' :: rest)))
        = some (.char '/' :: green, rest) := by
    simp [tag?, green]
  have htick (rest : List Code) :
      markupFrom (fuel + 2) [] (.char '✓' :: rest)
        = markupFrom (fuel + 1) [.char '✓'] rest := by
    rw [markupFrom]
    rfl
  have hrest : Code.char '[' ∉ (LooseText.ofString " Wrote ").codes ++ cs := by
    rw [List.mem_append]
    exact not_or.2 ⟨by decide, h⟩
  obtain ⟨shown, hshown, hfrom⟩ := markupFrom_of_not_mem hrest fuel []
  refine ⟨shown, ?_, fun n hn => ?_⟩
  · rw [hwords]
    simp only [List.cons_append, List.append_assoc]
    rw [markupFrom_tag (hopen _), htick, markupFrom_tag (hclose _), hshown]
    rfl
  · have hn := (hfrom _ hn).resolve_left nofun
    exact (List.mem_append.1 hn).resolve_left (LooseText.lone_not_mem_codes_ofString _ n)

/-! ## §4. The tag around the tick. -/

/-- The tag around the tick, opened after so many codes. -/
def greenTag (start : Nat) : OpenTag := ⟨LooseText.ofString "green", none, start⟩

theorem description_greenTag (start : Nat) :
    (greenTag start).description = LooseText.ofString "green" := rfl

theorem read_green : Style.read (LooseText.ofString "green") = .ok { colour := some "green" } := by
  decide +kernel

theorem tagName_green : tagName green = .ok (LooseText.ofString "green") := by
  have hname : LooseText.ofCodes (green.takeWhile (· != .char '='))
      = LooseText.ofString "green" := by decide
  have htext : Style.text { colour := some "green" } = LooseText.ofString "green" := by
    decide +kernel
  unfold tagName Style.normal
  rw [hname, read_green]
  dsimp only
  rw [htext]

theorem closing_green (start : Nat) :
    closing green [greenTag start] = .ok (greenTag start, []) := by
  have hblank : (green.takeWhile (· != .char '=')).all (fun c => Text.isBlank c.face) = false := by
    decide
  have htrim : Text.trimBoth (fun c : Code => Text.isBlank c.face) green = green := by decide
  have hclose : close? (some (LooseText.ofString "green")) [greenTag start]
      = some (greenTag start, []) := by simp [close?, greenTag]
  have hreadable : (greenTag start).isReadable = true := by simp [OpenTag.isReadable, greenTag]
  unfold closing
  simp only [hblank, htrim, tagName_green, Except.map, bind, Except.bind, hclose, hreadable,
    if_true]
  rfl

theorem printFrom_green (opened : List OpenTag) (before : Nat) (rest : List Markup) :
    printFrom opened before (.tag green :: rest)
      = printFrom (greenTag before :: opened) before rest := by
  have hopening : opening green before = .ok (greenTag before) := by
    unfold opening
    rw [tagName_green]
    rfl
  unfold green at hopening ⊢
  rw [printFrom, hopening]
  nofun

theorem printFrom_greenEnd (start before : Nat) (rest : List Markup) :
    printFrom [greenTag start] before (.tag (.char '/' :: green) :: rest)
      = (printFrom [] before rest).map fun (text, spans) =>
          (text, (greenTag start, before) :: spans) := by
  rw [printFrom, closing_green]

theorem printFrom_plain (opened : List OpenTag) (before : Nat) (cs : List Code)
    (rest : List Markup) :
    printFrom opened before (.plain cs :: rest)
      = (printFrom opened (before + (visible cs).length) rest).map fun (text, spans) =>
          (visible cs ++ text, spans) := by
  rw [printFrom]

/-- The note about a file has a text, if there is no bracket in the path; and
every lone code in it is one of the path. -/
theorem line?_wroteNote {path : LooseText} (h : Code.char '[' ∉ path.codes) :
    ∃ note, line? (wroteNote path) = .ok note ∧
      ∀ n, Code.lone n ∈ note.codes → Code.lone n ∈ path.codes := by
  have hcodes : (wroteNote path).codes
      = (LooseText.ofString "[green]✓[/green] Wrote ").codes ++ path.codes :=
    LooseText.codes_append _ _
  have hfuel : ((LooseText.ofString "[green]✓[/green] Wrote ").codes ++ path.codes).length
      = (path.codes.length + 20) + 3 := by
    rw [List.length_append, Nat.add_comm]
    rfl
  obtain ⟨shown, hshown, hlone⟩ := markupFrom_wroteNote h (path.codes.length + 20)
  have husable : isUsable (LooseText.ofString "green") = true := by
    unfold isUsable
    rw [read_green]
  have hempty : visible [] = [] := rfl
  have htick : visible [.char '✓'] = [.char '✓'] := by decide
  -- the only style is that of the tick, which can be looked up
  have hprinted : printed (wroteNote path)
      = .ok (LooseText.ofCodes (Text.untab (.char '✓' :: visible shown))) := by
    unfold printed markup
    rw [hcodes, hfuel, hshown]
    simp only [printFrom_plain, printFrom_green, printFrom_greenEnd, hempty, htick]
    simp [printFrom, Except.map, description_greenTag, husable]
  refine ⟨LooseText.ofCodes (Text.untab (.char '✓' :: visible shown)) ++ LooseText.ofString "\n",
    ?_, fun n hn => ?_⟩
  · unfold line?
    rw [hprinted]
  · rw [LooseText.codes_append, LooseText.codes_ofCodes] at hn
    have huntab :=
      (List.mem_append.1 hn).resolve_right (LooseText.lone_not_mem_codes_ofString _ n)
    have htext := (Text.lone_mem_untabFrom huntab).resolve_left nofun
    exact hlone n (lone_mem_visible ((List.mem_cons.1 htext).resolve_left nofun))

end Command

end AnalysisDiagram
