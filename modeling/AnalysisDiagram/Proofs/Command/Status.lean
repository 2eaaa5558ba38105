/-
  AnalysisDiagram.Proofs.Command.Status
  ─────────────────────────────────────
  The exit status of a command that has a payload to deliver.

      Request            — the command lines that ask for a payload
      compiled_sends     — what is compiled is the payload of a diagram
      exit_status_exact  — the status is 1 exactly for an error, if the payload
                           can be delivered
-/
import AnalysisDiagram.Proofs.Command.Delivery
import AnalysisDiagram.Proofs.Compiler.Output

namespace AnalysisDiagram.Command

/-! ## §1. Command lines. -/

/-- Where there is no objection to the words, there is none to any value that
an option has. -/
theorem optionObjection?_eq_none {world : World} {w : Words} {room : Nat}
    (h : objection? world w room = none) {opt : Opt} {v : LooseText}
    (hvalue : w.value? opt = some v) : optionObjection? world opt v = none := by
  have hoptions : (w.options.map (·.1)).eraseDups.findSome?
      (fun opt => optionObjection? world opt ((w.value? opt).getD "")) = none := by
    unfold objection? at h
    simp only [Option.orElse_eq_orElse, Option.orElse_eq_or, Option.or_eq_none_iff] at h
    exact h.1
  have hgiven : opt ∈ (w.options.map (·.1)).eraseDups := by
    obtain ⟨entry, hfind, _⟩ := Option.map_eq_some_iff.1 hvalue
    have hopt := List.find?_some (p := fun entry : Opt × LooseText => entry.1 = opt) hfind
    rw [List.mem_eraseDups, List.mem_map]
    exact ⟨entry, List.mem_reverse.1 (List.mem_of_find?_eq_some hfind), of_decide_eq_true hopt⟩
  have hnone := List.findSome?_eq_none_iff.1 hoptions opt hgiven
  rw [hvalue] at hnone
  exact hnone

/-- A command line that asks for a payload: its words can be read, the command
is `transform`, and there is no objection to what it is given. -/
structure Request (world : World) (words : List LooseText) where
  tool : Words
  rest : List LooseText
  given : Words
  tool_read : readTopic world .tool false words = .ok tool
  named : tool.others = LooseText.ofString "transform" :: rest
  given_read : readTopic world .transform true rest = .ok given
  accepted : objection? world given 1 = none

namespace Request

variable {world : World} {words : List LooseText} (r : Request world words)

/-- The language that is named, if one is. -/
def language : Value := ((r.given.value? .language).map Value.ofLoose).getD .null

/-- The path that is given for the payload, if one is. -/
def output : Option LooseText := r.given.value? .output

/-- Whether the payload is asked for with an indent. -/
def pretty : Bool := r.given.has .pretty

theorem runTransform_eq (verbose : Bool) :
    runTransform world verbose r.rest
      = transform world verbose r.given.source r.language r.output r.pretty := by
  unfold runTransform
  rw [r.given_read]
  dsimp only
  rw [r.accepted]
  rfl

/-- Such a command line runs the command on what it is given. -/
theorem run_eq :
    run world words
      = transform world (r.tool.has .verbose) r.given.source r.language r.output r.pretty := by
  have hwords : ¬ words.isEmpty = true := by
    intro hempty
    cases List.isEmpty_iff.1 hempty
    -- without words there is no command
    have htool : {} = r.tool := Except.ok.inj r.tool_read
    have hnamed := r.named
    rw [← htool] at hnamed
    cases hnamed
  unfold run
  rw [if_neg hwords, r.tool_read]
  dsimp only
  rw [r.named]
  exact r.runTransform_eq (r.tool.has .verbose)

/-- A language that is named is one of those that can be. -/
theorem plain_language : r.language.Plain := by
  unfold language
  cases hvalue : r.given.value? .language with
  | none => exact nofun
  | some v =>
    have hnone := optionObjection?_eq_none r.accepted hvalue
    intro t ht
    cases (Value.text?_ofLoose v).symm.trans ht
    unfold optionObjection? at hnone
    dsimp only at hnone
    split at hnone
    · next hany =>
      obtain ⟨choice, _, hchoice⟩ := List.any_eq_true.1 hany
      rw [← eq_of_beq hchoice]
      rfl
    · cases hnone

/-- A path that is given for the payload has a name. -/
theorem nameOf?_output {path : LooseText} (h : r.output = some path) :
    ∃ name, nameOf? path = some name := by
  have hnone := optionObjection?_eq_none r.accepted h
  unfold optionObjection? pathObjection? at hnone
  dsimp only at hnone
  cases hname : nameOf? path with
  | some name => exact ⟨name, rfl⟩
  | none =>
    rw [hname] at hnone
    cases hnone

end Request

/-! ## §2. What is compiled. -/

theorem layoutFor_eq_ofIndent (world : World) (pretty : Bool) :
    ∃ indent, layoutFor world pretty = Layout.ofIndent world.room indent := by
  unfold layoutFor
  split
  · next n _ => exact ⟨some n, rfl⟩
  · split
    · exact ⟨some 2, rfl⟩
    · exact ⟨none, rfl⟩

theorem plain_guessLanguage {language : Value} (h : language.Plain) (settings : Settings)
    (source : LooseText) : (guessLanguage settings source language).Plain := by
  unfold guessLanguage
  split
  · intro t ht
    cases ht
    rfl
  · exact h

/-- What is compiled is the payload of a diagram. -/
theorem compiled_sends {world : World} {source : LooseText} {text : String} {language : Value}
    {pretty : Bool} {payload : LooseText} (hlanguage : language.Plain)
    (h : (compiled world source text language pretty).result = .ok payload) :
    ∃ d s, payload = LooseText.ofString s ∧
      Compiler.Sends world.depth world.settings Registry.standard (.text text)
        (guessLanguage world.settings source language) world.tree d ∧
      (d.payload (layoutFor world pretty)).result = .ok s := by
  obtain ⟨indent, hindent⟩ := layoutFor_eq_ofIndent world pretty
  unfold compiled at h
  rw [hindent] at h ⊢
  obtain ⟨d, hd⟩ := Compiler.exists_sends_of_transform Compiler.known_standard
    (plain_guessLanguage hlanguage world.settings source) h
  obtain ⟨s, hpayload, hs⟩ := hd.payload_of_transform h
  exact ⟨d, s, hpayload, hd, hs⟩

/-! ## §3. The exit status. -/

/-- How a payload begins tells exactly whether it is an error, and so does the
exit status.  A diagram has a payload exactly if there is room for its deepest
lines; its test and its message are right whatever the indent; payloads in
place of others are errors; there is a note about every path without a bracket;
and the payload of a source is delivered, with a status that goes by the
diagram alone unless that is cut short. -/
theorem exit_status_exact :
    (∀ (room : Nat) (d : Diagram) (indent : Option Int),
      ((∃ text, (d.payload (Layout.ofIndent room indent)).result = .ok text)
        ↔ Layout.RoomFor room indent d.toDraft.nest) ∧
      ∀ text, (d.payload (Layout.ofIndent room indent)).result = .ok text →
        (looksLikeError text = true ↔ d.isError = true) ∧
        ∀ message, d = .error message → errorMessage text = .text message) ∧
    (∀ fault, looksLikeError (fallbackPayload fault) = true) ∧
    (∀ path : LooseText, Code.char '[' ∉ path.codes →
      ∃ note, line? (wroteNote path) = .ok note ∧
        ∀ n, Code.lone n ∈ note.codes → Code.lone n ∈ path.codes) ∧
    ∀ (world : World) (words : List LooseText) (r : Request world words) (text : String)
      (payload : LooseText), sourceText world r.given.source = .ok text →
      (compiled world r.given.source text r.language r.pretty).result = .ok payload →
      ∃ d s, payload = LooseText.ofString s ∧
        Compiler.Sends world.depth world.settings Registry.standard (.text text)
          (guessLanguage world.settings r.given.source r.language) world.tree d ∧
        (d.payload (layoutFor world r.pretty)).result = .ok s ∧
        (∀ path, r.output = some path → ∃ name, nameOf? path = some name) ∧
        Delivers world r.output d s (run world words) := by
  refine ⟨?_, ?_, fun path => line?_wroteNote, ?_⟩
  · intro room d indent
    refine ⟨(d.payload_needsRoom room indent).exists_ok_iff, fun text htext => ⟨?_, ?_⟩⟩
    · rw [looksLikeError_payload htext]
    · rintro message rfl
      exact errorMessage_payload htext
  · exact fun fault => (looksLikeError_iff (opens_fallbackPayload fault)).2 rfl
  · intro world words r text payload hsource hmade
    obtain ⟨d, s, rfl, hsends, hs⟩ := compiled_sends r.plain_language hmade
    obtain ⟨indent, hindent⟩ := layoutFor_eq_ofIndent world r.pretty
    refine ⟨d, s, rfl, hsends, hs, fun path => r.nameOf?_output, ?_⟩
    rw [r.run_eq]
    rw [hindent] at hs
    exact transform_delivers hsource hmade hs

/-- The source `fn f(){if a{b}}`. -/
def choiceSource : String := "fn f()\x7bif a\x7bb\x7d\x7d"

/-- That source on standard input, and no file. -/
def choiceWorld : World :=
  { stdin := { bytes := (Text.utf8 choiceSource).toList, unifies := false }
    stdout := Stdout.utf8
    files := ⟨[], []⟩
    settings := {}
    tree := Compiler.choiceTree
    room := 0
    depth := 1000 }

theorem sourceText_choice : sourceText choiceWorld dash = .ok choiceSource := by decide +kernel

/-- The diagram of that source. -/
def choiceDiagram : Diagram :=
  .sequence [.block "fn f()" [.sequence [.branch "a" (.sequence [.command "b"]) none]]]

/-- The payload of that diagram. -/
def choicePayload : String :=
  "\x7b\"type\":\"sequence\",\"children\":[\x7b\"type\":\"block\","
    ++ "\"label\":\"fn f()\",\"children\":[\x7b\"type\":\"sequence\",\"children\":["
    ++ "\x7b\"type\":\"if\",\"condition\":\"a\",\"then_block\":\x7b\"type\":\"sequence\","
    ++ "\"children\":[\x7b\"type\":\"command\",\"label\":\"b\"\x7d]\x7d\x7d]\x7d]\x7d]\x7d"

theorem payload_choice :
    (choiceDiagram.payload (Layout.ofIndent 0 none)).result = .ok choicePayload := by
  decide +kernel

theorem compiled_choice :
    (compiled choiceWorld dash choiceSource .null false).result
      = .ok (LooseText.ofString choicePayload) := by
  decide +kernel

theorem looksLikeError_choice : looksLikeError choicePayload = false :=
  looksLikeError_payload payload_choice

/-- A command line with a path for the payload. -/
def writingTo (path : LooseText) : List LooseText := ["transform", "-o", path]

/-- The request of that command line for a path in the working directory. -/
def choiceRequest : Request choiceWorld (writingTo "out.json") where
  tool := ⟨[], writingTo "out.json"⟩
  rest := ["-o", "out.json"]
  given := ⟨[(.output, "out.json")], []⟩
  tool_read := rfl
  named := rfl
  given_read := rfl
  accepted := Option.isNone_iff_eq_none.1 (by decide +kernel)

/-- The name of that path. -/
def outName : Name := (Text.utf8 "out.json").toList

/-- The payload goes to the file that the command line names, with status 0. -/
theorem exit_status_exact_choice :
    sourceText choiceWorld dash = .ok choiceSource ∧
    (compiled choiceWorld dash choiceSource .null false).result
      = .ok (LooseText.ofString choicePayload) ∧
    (run choiceWorld (writingTo "out.json")).exit = 0 ∧
    (run choiceWorld (writingTo "out.json")).files.content? [outName]
      = some (Text.utf8 (choicePayload ++ "\n")).toList := by
  have hnamed : Named choiceRequest.output (LooseText.ofString "out.json") outName :=
    ⟨rfl, by decide, by decide +kernel⟩
  have hplace : choiceWorld.files.place outName = .ok [outName] := by
    with_unfolding_all rfl
  obtain ⟨htest, _, hnotes, hrun⟩ := exit_status_exact
  obtain ⟨note, hnote, hlone⟩ := hnotes (LooseText.ofString "out.json") (by decide)
  obtain ⟨d, s, hpayload, _, hs, _, hdelivers⟩ := hrun choiceWorld (writingTo "out.json")
    choiceRequest choiceSource _ sourceText_choice compiled_choice
  cases hpayload
  obtain ⟨_, hcontent⟩ := hdelivers.written _ _ _ hnamed hplace
  obtain ⟨hends, _⟩ := hdelivers.noted _ _ _ note hnamed hplace hnote
    (Stdout.all_takes_utf8 fun n hn => LooseText.lone_not_mem_codes_ofString _ n (hlone n hn))
  have herror : d.isError = false := by
    rw [Bool.eq_false_iff, ne_eq, ← ((htest 0 d none).2 choicePayload hs).1, looksLikeError_choice]
    exact Bool.false_ne_true
  refine ⟨sourceText_choice, compiled_choice, ?_, (hcontent [outName]).trans (if_pos rfl)⟩
  rw [hends.exit, herror]
  rfl

/-- The request of a command line without a path. -/
def plainRequest : Request choiceWorld ["transform"] where
  tool := ⟨[], ["transform"]⟩
  rest := []
  given := ⟨[], []⟩
  tool_read := rfl
  named := rfl
  given_read := rfl
  accepted := rfl

/-- A path that begins with a byte which is part of no character. -/
def strayPath : LooseText := ⟨[("", ⟨0x480, by decide⟩)], ".json"⟩

/-- Two command lines end with status 1 though the payload is no error, and
without a path the status is 0.  A path into a directory that is not there
leads nowhere; and a path with a lone code in it is written to, but the note
about it cannot be printed. -/
theorem exit_status_missing_directory :
    (compiled choiceWorld dash choiceSource .null false).result
      = .ok (LooseText.ofString choicePayload) ∧
    looksLikeError choicePayload = false ∧
    (run choiceWorld ["transform"]).exit = 0 ∧
    (run choiceWorld (writingTo "missing/out.json")).exit = 1 ∧
    (run choiceWorld (writingTo "missing/out.json")).crash = some .notFound ∧
    (run choiceWorld (writingTo strayPath)).exit = 1 ∧
    (run choiceWorld (writingTo strayPath)).crash = some .unprintable ∧
    (run choiceWorld (writingTo strayPath)).files.entries.map (·.2)
      = [(Text.utf8 (choicePayload ++ "\n")).toList] := by
  have hdelivers : Delivers choiceWorld none choiceDiagram choicePayload
      (run choiceWorld ["transform"]) := by
    rw [plainRequest.run_eq]
    exact transform_delivers sourceText_choice compiled_choice payload_choice
  have hends := (hdelivers.printed (.inl rfl)
    (Stdout.all_takes_utf8 (LooseText.lone_not_mem_codes_ofString _))).1
  exact ⟨compiled_choice, looksLikeError_choice, hends.exit, by decide +kernel⟩

end AnalysisDiagram.Command
