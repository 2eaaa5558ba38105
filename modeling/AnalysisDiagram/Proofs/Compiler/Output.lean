/-
  AnalysisDiagram.Proofs.Compiler.Output
  ──────────────────────────────────────
  What the compiler can send.

      root_cases         — a source is rejected, has no function, has a
                           diagram, or is stopped: its language cannot be
                           shown, or a function is incomplete
      transform_output   — a text that is sent is the payload of an error node
                           or of a sequence with a block for each function
-/
import AnalysisDiagram.Compiler
import AnalysisDiagram.Proofs.Lowering.Machine
import AnalysisDiagram.Proofs.Lowering.Shape
import AnalysisDiagram.Proofs.Wire.Writing

namespace AnalysisDiagram

open AnalysisDiagram.Journal AnalysisDiagram.Outcome

/-! ## §1. Requests. -/

/-- No surrogate code stands alone in the text that a value may be. -/
def Value.Plain (v : Value) : Prop := ∀ t, v.text? = some t → t.lead = []

theorem Value.Plain.lead_shown {v : Value} (h : v.Plain) {depth : Nat} {t : LooseText}
    (hshown : v.shown depth = .ok t) : t.lead = [] := by
  unfold Value.shown at hshown
  cases ht : v.text? with
  | some t' =>
    rw [ht] at hshown
    cases hshown
    exact h t ht
  | none =>
    rw [ht] at hshown
    cases hs : v.literal depth with
    | error fault => rw [hs] at hshown; cases hshown
    | ok s =>
      rw [hs] at hshown
      cases hshown
      rfl

/-- All languages are read as Rust or as JavaScript is, whatever they are
called and whatever counts as a function in them. -/
def Registry.Known (r : Registry) : Prop :=
  ∀ entry ∈ r.entries, entry.2.dialect = Dialect.rust ∨ entry.2.dialect = Dialect.javaScript

theorem Registry.Known.dialect_of_get? {r : Registry} (h : r.Known) {request : Value}
    {language : Language} (hget : r.get? request = some language) :
    language.dialect = Dialect.rust ∨ language.dialect = Dialect.javaScript := by
  obtain ⟨name, _, hfind⟩ := Option.bind_eq_some_iff.1 hget
  obtain ⟨entry, hentry, rfl⟩ := Option.map_eq_some_iff.1 hfind
  exact h entry (List.mem_of_find?_eq_some hentry)

/-- Refusals of the source as such: it could not be parsed, and a message says
why. -/
def Refusal.isRejection : Refusal → Bool
  | .unshowable _ => false
  | .noFunction => false
  | .incomplete _ => false
  | _ => true

theorem Journal.Report.result_andThen {α β : Type} (r : Report α) (f : α → Report β) :
    (r.andThen f).result = (f r.result).result := rfl

namespace Compiler

theorem plain_effectiveLanguage {language : Value} (h : language.Plain) (settings : Settings) :
    (effectiveLanguage settings language).Plain := by
  unfold effectiveLanguage
  split
  · intro t ht
    cases ht
    rfl
  · exact h

/-- A source is parsed if its language is found, it is a text of characters,
and the parser met no fault. -/
theorem parse_eq_ok_iff {depth : Nat} {registry : Registry} {payload language : Value}
    {tree : Node} {p : ParsedSource} :
    parse depth registry payload language tree = .ok p ↔
      registry.get? language = some p.language ∧
      (∃ s, payload = .text s ∧ p.source = Text.utf8 s) ∧
      tree.info.faulty = false ∧ p.root = tree := by
  -- the checks in their order: the language, the payload, the parser's verdict
  unfold parse
  cases hget : registry.get? language with
  | none => exact ⟨nofun, fun h => nomatch h.1⟩
  | some found =>
    cases payload with
    | text s =>
      show (if tree.info.faulty = true then _ else _) = _ ↔ _
      cases tree.info.faulty with
      | true => exact ⟨nofun, fun h => nomatch h.2.2.1⟩
      | false =>
        constructor
        · intro h
          cases h
          exact ⟨rfl, ⟨s, rfl, rfl⟩, rfl, rfl⟩
        · rintro ⟨hfound, ⟨s', hs, hsource⟩, _, hroot⟩
          obtain ⟨language, source, root⟩ := p
          cases hs
          cases hfound
          cases hsource
          cases hroot
          rfl
    | _ =>
      refine ⟨nofun, ?_⟩
      rintro ⟨_, ⟨s, hs, _⟩, _⟩
      cases hs

/-- The language is not known, and there is no way to show it. -/
def Unshown (depth : Nat) (registry : Registry) (language : Value) (fault : Value.ShowFault) :
    Prop :=
  registry.get? language = none ∧ language.shown depth = .error fault

theorem parse_of_unshown {depth : Nat} {registry : Registry} {payload language : Value}
    {tree : Node} {fault : Value.ShowFault} (h : Unshown depth registry language fault) :
    parse depth registry payload language tree = .error (.unshowable fault) := by
  unfold parse refusedLanguage
  rw [h.1, h.2]

/-- A source that is not parsed is rejected in words without lone codes, if its
language can be shown. -/
theorem parse_eq_error {depth : Nat} {registry : Registry} {payload language : Value}
    {tree : Node} {refusal : Refusal} (hlanguage : language.Plain)
    (h : parse depth registry payload language tree = .error refusal) :
    (∃ fault, Unshown depth registry language fault) ∨
    (refusal.isRejection = true ∧ refusal.message.lead = []) := by
  unfold parse at h
  split at h
  · next hget =>
    unfold refusedLanguage at h
    split at h
    · next t hshown =>
      cases h
      have hlead := hlanguage.lead_shown hshown
      exact .inr ⟨rfl, LooseText.lead_append (LooseText.lead_append rfl hlead) rfl⟩
    · next fault hshown => exact .inl ⟨fault, hget, hshown⟩
  · split at h
    · next refusal' hencode =>
      cases h
      cases payload <;> cases hencode <;> exact .inr ⟨rfl, rfl⟩
    · split at h
      · cases h
        exact .inr ⟨rfl, rfl⟩
      · cases h

/-! ## §2. Roots. -/

section Roots

variable (depth : Nat) (settings : Settings) (registry : Registry) (payload language : Value)
  (tree : Node)

/-- What becomes of a source that is parsed. -/
theorem build_of_parse {p : ParsedSource}
    (h : parse depth registry payload (effectiveLanguage settings language) tree = .ok p) :
    (build depth settings registry payload language tree).result = diagram p := by
  unfold build
  rw [h]

/-- What becomes of a source that is not parsed. -/
theorem build_of_parse_error {refusal : Refusal}
    (h : parse depth registry payload (effectiveLanguage settings language) tree = .error refusal) :
    (build depth settings registry payload language tree).result = .error refusal := by
  unfold build
  rw [h]
  rfl

/-- A parsed source has no function, an incomplete function, or a diagram. -/
theorem diagram_cases (p : ParsedSource) :
    (p.functions = [] ∧ diagram p = .error .noFunction) ∨
    (∃ defect, p.functions.mapM (p.language.dialect.run p.source .function) = .error defect ∧
      diagram p = .error (.incomplete defect)) ∨
    (∃ blocks, p.functions ≠ [] ∧
      p.functions.mapM (p.language.dialect.run p.source .function) = .ok blocks ∧
      diagram p = .ok (.sequence blocks)) := by
  unfold diagram
  cases p.functions with
  | nil => exact .inl ⟨rfl, rfl⟩
  | cons f fs =>
    dsimp only
    cases hrun : (f :: fs).mapM (p.language.dialect.run p.source .function) with
    | error defect => exact .inr (.inl ⟨defect, rfl, rfl⟩)
    | ok blocks => exact .inr (.inr ⟨blocks, nofun, rfl, rfl⟩)

/-- The node that tells of a rejection. -/
theorem root_of_rejection {refusal : Refusal} (h : refusal.isRejection = true) :
    (root (.error refusal)).result
      = .ok (errorNode (LooseText.ofString "Parse error: " ++ refusal.message)) := by
  cases refusal with
  | unshowable fault => cases h
  | noFunction => cases h
  | incomplete defect => cases h
  | _ => rfl

/-- What is sent for a source, or that nothing is, and why. -/
theorem root_cases (hlanguage : language.Plain) :
    let parsed := parse depth registry payload (effectiveLanguage settings language) tree
    let built := (build depth settings registry payload language tree).result
    (∃ fault, Unshown depth registry (effectiveLanguage settings language) fault ∧
      (root built).result = .error (.unshowable fault)) ∨
    (∃ refusal message, built = .error refusal ∧ refusal.isRejection = true ∧
      LooseText.ofString message = LooseText.ofString "Parse error: " ++ refusal.message ∧
      (root built).result = .ok (Diagram.error message).toDraft) ∨
    (built = .error .noFunction ∧
      (root built).result = .ok (Diagram.error "No function found").toDraft) ∨
    (∃ p defect, parsed = .ok p ∧
      p.functions.mapM (p.language.dialect.run p.source .function) = .error defect ∧
      (root built).result = .error (.incomplete defect)) ∨
    (∃ p blocks, parsed = .ok p ∧ p.functions ≠ [] ∧
      p.functions.mapM (p.language.dialect.run p.source .function) = .ok blocks ∧
      built = .ok (.sequence blocks) ∧
      (root built).result = .ok (Diagram.sequence blocks).toDraft) := by
  intro parsed built
  -- what is not parsed is rejected; what is parsed goes by its functions
  cases hparse : parsed with
  | error refusal =>
    have hbuilt : built = .error refusal :=
      build_of_parse_error depth settings registry payload language tree hparse
    rcases parse_eq_error (plain_effectiveLanguage hlanguage settings) hparse with
      ⟨fault, hfault⟩ | ⟨hrejection, hlead⟩
    · cases (parse_of_unshown hfault).symm.trans hparse
      rw [hbuilt]
      exact .inl ⟨fault, hfault, rfl⟩
    · have hmessage := LooseText.eq_ofString_of_lead
        (LooseText.lead_append (a := LooseText.ofString "Parse error: ") rfl hlead)
      rw [hbuilt, root_of_rejection hrejection, hmessage]
      exact .inr (.inl ⟨refusal, _, rfl, hrejection, hmessage.symm, rfl⟩)
  | ok p =>
    have hbuilt : built = diagram p :=
      build_of_parse depth settings registry payload language tree hparse
    rw [hbuilt]
    rcases diagram_cases p with ⟨_, hd⟩ | ⟨defect, hrun, hd⟩ | ⟨blocks, hne, hrun, hd⟩
    · rw [hd]
      exact .inr (.inr (.inl ⟨rfl, rfl⟩))
    · rw [hd]
      exact .inr (.inr (.inr (.inl ⟨p, defect, rfl, hrun, rfl⟩)))
    · rw [hd]
      exact .inr (.inr (.inr (.inr ⟨p, blocks, rfl, hne, hrun, rfl, rfl⟩)))

/-- Nothing is sent where there is no root. -/
theorem transform_of_stop {layout : Layout} {stop : Stop}
    (h : (root (build depth settings registry payload language tree).result).result
      = .error stop) :
    (transform depth settings registry layout payload language tree).result = .error stop := by
  unfold transform
  rw [Report.result_andThen, Report.result_andThen, h]
  rfl

/-- What is sent for any other source is the payload of a diagram. -/
theorem transform_of_root {room : Nat} {indent : Option Int} {d : Diagram}
    (h : (root (build depth settings registry payload language tree).result).result
      = .ok d.toDraft) :
    (transform depth settings registry (Layout.ofIndent room indent) payload language tree).result
      = ((d.payload (Layout.ofIndent room indent)).result.map LooseText.ofString).mapError
          Stop.unwritable := by
  unfold transform
  rw [Report.result_andThen, Report.result_andThen, h, ← Diagram.payload_toDraft]
  rfl

end Roots

/-! ## §3. Texts that are sent. -/

/-- The block of a function, in the dialect of its language. -/
def FunctionBlock (p : ParsedSource) (f : Node) (b : Diagram) : Prop :=
  (p.language.dialect = Dialect.rust ∧ Dialect.Rust.FunctionBlock p.source f b) ∨
  (p.language.dialect = Dialect.javaScript ∧ Dialect.JavaScript.FunctionBlock p.source f b)

theorem functionBlock_of_run {p : ParsedSource} {f : Node} {b : Diagram}
    (hdialect : p.language.dialect = Dialect.rust ∨ p.language.dialect = Dialect.javaScript)
    (h : p.language.dialect.run p.source .function f = .ok b) : FunctionBlock p f b := by
  rw [Dialect.run_eq_lower] at h
  rcases hdialect with hdialect | hdialect
  · rw [hdialect] at h
    exact .inl ⟨hdialect, Dialect.Rust.lower_function h⟩
  · rw [hdialect] at h
    exact .inr ⟨hdialect, Dialect.JavaScript.lower_function h⟩

/-- The diagrams that can be sent for a source: an error exactly if there is
no diagram to build, and otherwise a sequence with the block of each function
at the top of the tree, in source order. -/
inductive Sends (depth : Nat) (settings : Settings) (registry : Registry)
    (payload language : Value) (tree : Node) : Diagram → Prop
  | rejected {refusal : Refusal} {message : String} :
      (build depth settings registry payload language tree).result = .error refusal →
      refusal.isRejection = true →
      LooseText.ofString message = LooseText.ofString "Parse error: " ++ refusal.message →
      Sends depth settings registry payload language tree (.error message)
  | noFunction :
      (build depth settings registry payload language tree).result = .error .noFunction →
      Sends depth settings registry payload language tree (.error "No function found")
  | functions {p : ParsedSource} {blocks : List Diagram} :
      parse depth registry payload (effectiveLanguage settings language) tree = .ok p →
      p.root = tree →
      (build depth settings registry payload language tree).result = .ok (.sequence blocks) →
      0 < p.functions.length →
      List.Forall₂ (fun f b => p.language.dialect.run p.source .function f = .ok b
        ∧ FunctionBlock p f b) p.functions blocks →
      Sends depth settings registry payload language tree (.sequence blocks)

section Sending

variable {depth : Nat} {settings : Settings} {registry : Registry} {payload language : Value}
  {tree : Node}

/-- A source has a language that cannot be shown or an incomplete function, or
a diagram is sent for it. -/
theorem root_sends (hregistry : registry.Known) (hlanguage : language.Plain) :
    (∃ fault, Unshown depth registry (effectiveLanguage settings language) fault ∧
      (root (build depth settings registry payload language tree).result).result
        = .error (.unshowable fault)) ∨
    (∃ p defect, parse depth registry payload (effectiveLanguage settings language) tree = .ok p ∧
      p.functions.mapM (p.language.dialect.run p.source .function) = .error defect ∧
      (root (build depth settings registry payload language tree).result).result
        = .error (.incomplete defect)) ∨
    (∃ d, Sends depth settings registry payload language tree d ∧
      (root (build depth settings registry payload language tree).result).result
        = .ok d.toDraft) := by
  rcases root_cases depth settings registry payload language tree hlanguage with
    hunshown | ⟨refusal, message, hbuilt, hrejection, hmessage, hroot⟩ | ⟨hbuilt, hroot⟩ |
    hincomplete | ⟨p, blocks, hparse, hne, hrun, hbuilt, hroot⟩
  · exact .inl hunshown
  · exact .inr (.inr ⟨_, .rejected hbuilt hrejection hmessage, hroot⟩)
  · exact .inr (.inr ⟨_, .noFunction hbuilt, hroot⟩)
  · exact .inr (.inl hincomplete)
  · obtain ⟨hget, _, _, htree⟩ := parse_eq_ok_iff.1 hparse
    have hblocks := (mapM_eq_ok_iff.1 hrun).imp fun f b hb =>
      And.intro hb (functionBlock_of_run (hregistry.dialect_of_get? hget) hb)
    exact .inr (.inr ⟨_, .functions hparse htree hbuilt (List.length_pos_iff.2 hne) hblocks, hroot⟩)

/-- A diagram that is sent is the root. -/
theorem Sends.root_eq {d : Diagram} (h : Sends depth settings registry payload language tree d) :
    (root (build depth settings registry payload language tree).result).result = .ok d.toDraft := by
  cases h with
  | @rejected refusal message hbuilt hrejection hmessage =>
    rw [hbuilt, root_of_rejection hrejection, ← hmessage]
    rfl
  | noFunction hbuilt =>
    rw [hbuilt]
    rfl
  | functions _ _ hbuilt _ _ =>
    rw [hbuilt]
    rfl

/-- Where a text is sent, there is a diagram to send. -/
theorem exists_sends_of_transform {layout : Layout} {text : LooseText}
    (hregistry : registry.Known) (hlanguage : language.Plain)
    (h : (transform depth settings registry layout payload language tree).result = .ok text) :
    ∃ d, Sends depth settings registry payload language tree d := by
  rcases @root_sends depth settings registry payload language tree hregistry hlanguage with
    ⟨fault, _, hroot⟩ | ⟨p, defect, _, _, hroot⟩ | ⟨d, hd, _⟩
  · rw [transform_of_stop depth settings registry payload language tree hroot] at h
    cases h
  · rw [transform_of_stop depth settings registry payload language tree hroot] at h
    cases h
  · exact ⟨d, hd⟩

/-- The text that is sent is the payload of that diagram. -/
theorem Sends.payload_of_transform {room : Nat} {indent : Option Int} {d : Diagram}
    {text : LooseText} (hd : Sends depth settings registry payload language tree d)
    (h : (transform depth settings registry (Layout.ofIndent room indent) payload language
      tree).result = .ok text) :
    ∃ s, text = LooseText.ofString s ∧
      (d.payload (Layout.ofIndent room indent)).result = .ok s := by
  rw [transform_of_root depth settings registry payload language tree hd.root_eq] at h
  cases hs : (d.payload (Layout.ofIndent room indent)).result with
  | error e =>
    rw [hs] at h
    cases h
  | ok s =>
    rw [hs] at h
    cases h
    exact ⟨s, rfl, rfl⟩

end Sending

/-- The tree of `fn f(){if a{b}}`. -/
def choiceTree : Node :=
  .sound "source_file" 0 15 none
    [.sound "function_item" 0 15 none
      [.sound "identifier" 3 4 (some .name) [],
       .sound "block" 6 15 (some .body)
        [.sound "expression_statement" 7 14 none
          [.sound "if_expression" 7 14 none
            [.sound "identifier" 10 11 (some .condition) [],
             .sound "block" 11 14 (some .consequence)
              [.sound "identifier" 12 13 none []]]]]]]

theorem known_standard : Registry.standard.Known := by
  have hentries : Registry.standard.entries
      = [(LooseText.ofString "rust", Language.rust),
        (LooseText.ofString "javascript", Language.javaScript)] := rfl
  unfold Registry.Known
  rw [hentries, List.forall_mem_cons, List.forall_mem_singleton]
  exact ⟨.inl rfl, .inr rfl⟩

/-- Whatever is sent is the payload of a diagram of one of two shapes. -/
theorem transform_output (depth room : Nat) (settings : Settings) (registry : Registry)
    (indent : Option Int) (payload language : Value) (tree : Node) (hregistry : registry.Known)
    (hlanguage : language.Plain) (text : LooseText)
    (h : (transform depth settings registry (Layout.ofIndent room indent) payload language
      tree).result = .ok text) :
    ∃ d s, text = LooseText.ofString s ∧
      (d.payload (Layout.ofIndent room indent)).result = .ok s ∧
      Sends depth settings registry payload language tree d := by
  obtain ⟨d, hd⟩ := exists_sends_of_transform hregistry hlanguage h
  obtain ⟨s, htext, hs⟩ := hd.payload_of_transform h
  exact ⟨d, s, htext, hs, hd⟩

/-- A function with a choice in it, in the language of the settings. -/
theorem transform_output_choice :
    ∃ text, (transform 1000 {} Registry.standard (Layout.ofIndent 0 none)
        (.text "fn f()\x7bif a\x7bb\x7d\x7d") .null choiceTree).result = .ok text ∧
      ∃ d s, text = LooseText.ofString s ∧ (d.payload (Layout.ofIndent 0 none)).result = .ok s ∧
        Sends 1000 {} Registry.standard (.text "fn f()\x7bif a\x7bb\x7d\x7d") .null choiceTree
          d := by
  have h : (transform 1000 {} Registry.standard (Layout.ofIndent 0 none)
      (.text "fn f()\x7bif a\x7bb\x7d\x7d") .null choiceTree).result
      = .ok (LooseText.ofString ("\x7b\"type\":\"sequence\",\"children\":[\x7b\"type\":\"block\","
        ++ "\"label\":\"fn f()\",\"children\":[\x7b\"type\":\"sequence\",\"children\":["
        ++ "\x7b\"type\":\"if\",\"condition\":\"a\",\"then_block\":\x7b\"type\":\"sequence\","
        ++ "\"children\":[\x7b\"type\":\"command\",\"label\":\"b\"\x7d]\x7d\x7d]\x7d]\x7d]\x7d"))
      := by decide +kernel
  exact ⟨_, h, transform_output 1000 0 {} Registry.standard none _ .null choiceTree known_standard
    nofun _ h⟩

end Compiler

end AnalysisDiagram
