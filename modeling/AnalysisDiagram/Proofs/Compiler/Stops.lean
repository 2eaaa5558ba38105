/-
  AnalysisDiagram.Proofs.Compiler.Stops
  ─────────────────────────────────────
  When the compiler sends nothing.

      run_fails_iff        — a function has no diagram exactly if it is
                             incomplete
      cause_of_stop        — what stops a request tells why
      transform_stops_iff  — nothing is sent exactly if the language cannot be
                             shown, a function of a parsed source is incomplete,
                             or there is no room for the lines of what would be
                             sent
-/
import AnalysisDiagram.Proofs.Compiler.Output
import AnalysisDiagram.Proofs.Lowering.Completeness
import AnalysisDiagram.Proofs.Value

namespace AnalysisDiagram.Compiler

open AnalysisDiagram.Outcome

/-! ## §1. Incomplete functions. -/

/-- A function that leads to a node at which something is lacking, in the
dialect of its language. -/
def Incomplete (language : Language) (f : Node) : Prop :=
  (language.dialect = Dialect.rust ∧ Dialect.Rust.Incomplete f) ∨
  (language.dialect = Dialect.javaScript ∧ Dialect.JavaScript.Incomplete f)

theorem rust_run_fails_iff {source : Source} {f : Node} :
    Fails (Dialect.rust.run source .function f) ↔ Dialect.Rust.Incomplete f := by
  rw [Dialect.run_eq_lower, Dialect.Rust.lower_fails_iff_incomplete]

theorem javaScript_run_fails_iff {source : Source} {f : Node} :
    Fails (Dialect.javaScript.run source .function f) ↔ Dialect.JavaScript.Incomplete f := by
  rw [Dialect.run_eq_lower, Dialect.JavaScript.lower_fails_iff_incomplete]

theorem rust_run_error {source : Source} {f : Node} {e : Defect}
    (h : Dialect.rust.run source .function f = .error e) : e = .missingChild := by
  rw [Dialect.run_eq_lower] at h
  exact Dialect.Rust.lower_eq_error h

theorem javaScript_run_error {source : Source} {f : Node} {e : Defect}
    (h : Dialect.javaScript.run source .function f = .error e) : e = .missingChild := by
  rw [Dialect.run_eq_lower] at h
  have hmode : Mode.function ≠ .expression := nofun
  exact Dialect.JavaScript.lower_eq_error hmode h

/-- Of a language that is read in one of the two ways, the functions without a
diagram are the incomplete ones, and what they lack is a child. -/
theorem run_fails_iff {language : Language}
    (hdialect : language.dialect = Dialect.rust ∨ language.dialect = Dialect.javaScript)
    {source : Source} {f : Node} :
    (Fails (language.dialect.run source .function f) ↔ Incomplete language f) ∧
      ∀ e, language.dialect.run source .function f = .error e → e = .missingChild := by
  -- no language is read in both ways
  have hne : Dialect.rust ≠ Dialect.javaScript := by
    intro h
    have hname : Dialect.rust.name = Dialect.javaScript.name := by rw [h]
    exact absurd hname (by decide)
  unfold Incomplete
  rcases hdialect with hdialect | hdialect
  · rw [hdialect, rust_run_fails_iff]
    refine ⟨⟨fun h => .inl ⟨rfl, h⟩, ?_⟩, fun e => rust_run_error⟩
    rintro (⟨_, h⟩ | ⟨h, _⟩)
    · exact h
    · exact absurd h hne
  · rw [hdialect, javaScript_run_fails_iff]
    refine ⟨⟨fun h => .inr ⟨rfl, h⟩, ?_⟩, fun e => javaScript_run_error⟩
    rintro (⟨h, _⟩ | ⟨_, h⟩)
    · exact absurd h.symm hne
    · exact h

/-! ## §2. Requests for which nothing is sent. -/

section Requests

variable {depth room : Nat} {settings : Settings} {registry : Registry}
  {payload language : Value} {tree : Node}

/-- The language of the request is no text, and it has a number with too many
digits in it or goes down too far. -/
def HasUnshowable (depth : Nat) (settings : Settings) (language : Value) : Prop :=
  (effectiveLanguage settings language).text? = none ∧
    ∃ fault, (effectiveLanguage settings language).Behind depth fault

/-- The request is parsed, and a function in it is incomplete. -/
def HasIncomplete (settings : Settings) (registry : Registry) (payload language : Value)
    (tree : Node) : Prop :=
  ∃ found s, registry.get? (effectiveLanguage settings language) = some found ∧
    payload = .text s ∧ tree.info.faulty = false ∧
    ∃ f ∈ tree.namedChildren, LooseText.ofString f.kind ∈ found.functionKinds ∧ Incomplete found f

/-- The diagram that would be sent has lines that there is no room for. -/
def LacksRoom (depth room : Nat) (settings : Settings) (registry : Registry) (indent : Option Int)
    (payload language : Value) (tree : Node) : Prop :=
  ∃ d, Sends depth settings registry payload language tree d ∧
    ¬ Layout.RoomFor room indent d.toDraft.nest

/-- Only texts name a language, so what is no text is shown in a message. -/
theorem unshown_iff {language : Value} {fault : Value.ShowFault} :
    Unshown depth registry language fault ↔
      language.text? = none ∧ language.literal depth = .error fault := by
  unfold Unshown
  rw [Value.shown_eq_error_iff]
  constructor
  · rintro ⟨_, h⟩
    exact h
  · rintro ⟨htext, h⟩
    refine ⟨?_, htext, h⟩
    unfold Registry.get?
    rw [htext]
    rfl

theorem hasUnshowable_iff :
    HasUnshowable depth settings language ↔
      ∃ fault, Unshown depth registry (effectiveLanguage settings language) fault := by
  unfold HasUnshowable
  rw [← Value.literal_fails_iff]
  simp only [unshown_iff, exists_and_left, Fails]

theorem hasIncomplete_iff :
    HasIncomplete settings registry payload language tree ↔
      ∃ p, parse depth registry payload (effectiveLanguage settings language) tree = .ok p ∧
        ∃ f ∈ p.functions, Incomplete p.language f := by
  simp only [parse_eq_ok_iff]
  constructor
  · rintro ⟨found, s, hget, hpayload, hfault, f, hf, hkind, hincomplete⟩
    refine ⟨⟨found, Text.utf8 s, tree⟩, ⟨hget, ⟨s, hpayload, rfl⟩, hfault, rfl⟩, f, ?_, hincomplete⟩
    exact List.mem_filter.2 ⟨hf, List.contains_iff_mem.2 hkind⟩
  · rintro ⟨p, ⟨hget, ⟨s, hpayload, _⟩, hfault, rfl⟩, f, hf, hincomplete⟩
    obtain ⟨hf, hkind⟩ := List.mem_filter.1 hf
    exact ⟨p.language, s, hget, hpayload, hfault, f, hf, List.contains_iff_mem.1 hkind, hincomplete⟩

/-- A request in a language that cannot be shown stops there. -/
theorem transform_of_unshown {layout : Layout} {fault : Value.ShowFault}
    (h : Unshown depth registry (effectiveLanguage settings language) fault) :
    (transform depth settings registry layout payload language tree).result
      = .error (.unshowable fault) := by
  refine transform_of_stop depth settings registry payload language tree ?_
  rw [build_of_parse_error depth settings registry payload language tree (parse_of_unshown h)]
  rfl

/-- A request with an incomplete function stops there. -/
theorem transform_of_incomplete {layout : Layout} (hregistry : registry.Known)
    (h : HasIncomplete settings registry payload language tree) :
    (transform depth settings registry layout payload language tree).result
      = .error (.incomplete .missingChild) := by
  obtain ⟨p, hparse, f, hf, hincomplete⟩ :=
    (@hasIncomplete_iff depth settings registry payload language tree).1 h
  have hdialect := hregistry.dialect_of_get? (parse_eq_ok_iff.1 hparse).1
  have hfails : Fails (p.functions.mapM (p.language.dialect.run p.source .function)) :=
    mapM_fails_iff.2 ⟨f, hf, (run_fails_iff hdialect).1.2 hincomplete⟩
  obtain ⟨defect, hrun⟩ := hfails
  obtain ⟨g, _, hg⟩ := exists_of_mapM_eq_error hrun
  cases (run_fails_iff hdialect).2 defect hg
  refine transform_of_stop depth settings registry payload language tree ?_
  -- the first function that fails decides the result, and it fails for the same reason
  rw [build_of_parse depth settings registry payload language tree hparse]
  rcases diagram_cases p with ⟨hnone, _⟩ | ⟨defect, hrun', hd⟩ | ⟨blocks, _, hrun', _⟩
  · rw [hnone] at hf
    cases hf
  · rw [hrun] at hrun'
    cases hrun'
    rw [hd]
    rfl
  · rw [hrun] at hrun'
    cases hrun'

/-- A request without room for its lines stops there. -/
theorem transform_of_lacksRoom {indent : Option Int}
    (h : LacksRoom depth room settings registry indent payload language tree) :
    let result := (transform depth settings registry (Layout.ofIndent room indent) payload language
      tree).result
    result = .error (.unwritable .indentOverflow) ∨ result = .error (.unwritable .noRoom) := by
  obtain ⟨d, hd, hroom⟩ := h
  intro result
  have hresult : result = _ :=
    transform_of_root depth settings registry payload language tree hd.root_eq
  rcases Diagram.payload_needsRoom room indent d with ⟨hroom', _⟩ | ⟨_, he | he⟩
  · exact absurd hroom' hroom
  · rw [he] at hresult
    exact .inl hresult
  · rw [he] at hresult
    exact .inr hresult

/-- A request has one of the causes to stop, or is answered. -/
theorem transform_cases (indent : Option Int) (hregistry : registry.Known)
    (hlanguage : language.Plain) :
    (∃ fault, Unshown depth registry (effectiveLanguage settings language) fault) ∨
    HasIncomplete settings registry payload language tree ∨
    LacksRoom depth room settings registry indent payload language tree ∨
    ∃ text, (transform depth settings registry (Layout.ofIndent room indent) payload language
      tree).result = .ok text := by
  rcases @root_sends depth settings registry payload language tree hregistry hlanguage with
    ⟨fault, hfault, _⟩ | ⟨p, defect, hparse, hrun, _⟩ | ⟨d, hd, hroot⟩
  · exact .inl ⟨fault, hfault⟩
  · have hdialect := hregistry.dialect_of_get? (parse_eq_ok_iff.1 hparse).1
    obtain ⟨f, hf, hdefect⟩ := exists_of_mapM_eq_error hrun
    have hincomplete := (run_fails_iff hdialect).1.1 ⟨defect, hdefect⟩
    exact .inr (.inl (hasIncomplete_iff.2 ⟨p, hparse, f, hf, hincomplete⟩))
  · rcases Diagram.payload_needsRoom room indent d with ⟨_, s, hs, _⟩ | ⟨hroom, _⟩
    · refine .inr (.inr (.inr ⟨LooseText.ofString s, ?_⟩))
      rw [transform_of_root depth settings registry payload language tree hroot, hs]
      rfl
    · exact .inr (.inr (.inl ⟨d, hd, hroom⟩))

/-- What is behind each stop of a request. -/
def Cause (depth room : Nat) (settings : Settings) (registry : Registry) (indent : Option Int)
    (payload language : Value) (tree : Node) : Stop → Prop
  | .unshowable fault => Unshown depth registry (effectiveLanguage settings language) fault
  | .incomplete _ => HasIncomplete settings registry payload language tree
  | .unwritable _ => LacksRoom depth room settings registry indent payload language tree

/-- A request stops for a cause.  Each cause has a stop of its own, so the stop
tells the cause. -/
theorem cause_of_stop {indent : Option Int} (hregistry : registry.Known)
    (hlanguage : language.Plain) {stop : Stop}
    (hstop : (transform depth settings registry (Layout.ofIndent room indent) payload language
      tree).result = .error stop) :
    Cause depth room settings registry indent payload language tree stop := by
  rcases transform_cases indent hregistry hlanguage with ⟨fault, h⟩ | h | h | ⟨text, h⟩
  · cases hstop.symm.trans (transform_of_unshown h)
    exact h
  · cases hstop.symm.trans (transform_of_incomplete hregistry h)
    exact h
  · rcases transform_of_lacksRoom h with hroom | hroom
    · cases hstop.symm.trans hroom
      exact h
    · cases hstop.symm.trans hroom
      exact h
  · cases hstop.symm.trans h

end Requests

/-! ## §3. Everything that stops the compiler. -/

/-- A loop without a body, in the middle of a function. -/
def bareLoop : Node :=
  .sound "while_expression" 7 14 none [.sound "true" 13 14 (some .condition) []]

/-- A function that leads to a loop without a body. -/
def bareLoopFunction : Node :=
  .sound "function_item" 0 15 none
    [.sound "identifier" 3 4 (some .name) [], .sound "block" 6 15 (some .body) [bareLoop]]

/-- A choice that lacks everything. -/
def bareChoice : Node := .sound "if_expression" 7 9 (some .body) []

/-- A function with nothing but a bare choice for its body. -/
def bareChoiceFunction : Node :=
  .sound "function_item" 0 9 none [.sound "identifier" 3 4 (some .name) [], bareChoice]

/-- A function has no diagram exactly if a child is missing at a node that it
leads to.  Nothing is sent for a request exactly if its language cannot be
shown, if it is parsed and one of its functions is such, or if there is no room
for the lines of what would be sent; and what stops it tells which of these it
is. -/
theorem transform_stops_iff (depth room : Nat) (settings : Settings) (registry : Registry)
    (indent : Option Int) (payload language : Value) (tree : Node) (hregistry : registry.Known)
    (hlanguage : language.Plain) :
    let result := (transform depth settings registry (Layout.ofIndent room indent) payload language
      tree).result
    (∀ source f, (Fails (Dialect.rust.run source .function f) ↔ Dialect.Rust.Incomplete f) ∧
      ∀ e, Dialect.rust.run source .function f = .error e → e = .missingChild) ∧
    (∀ source f,
      (Fails (Dialect.javaScript.run source .function f) ↔ Dialect.JavaScript.Incomplete f) ∧
      ∀ e, Dialect.javaScript.run source .function f = .error e → e = .missingChild) ∧
    (Fails result ↔ HasUnshowable depth settings language ∨
      HasIncomplete settings registry payload language tree ∨
      LacksRoom depth room settings registry indent payload language tree) ∧
    ((∃ fault, result = .error (.unshowable fault)) ↔ HasUnshowable depth settings language) ∧
    (∀ fault, result = .error (.unshowable fault) →
      (effectiveLanguage settings language).Behind depth fault) ∧
    (result = .error (.incomplete .missingChild) ↔
      HasIncomplete settings registry payload language tree) ∧
    (result = .error (.unwritable .indentOverflow) ∨ result = .error (.unwritable .noRoom) ↔
      LacksRoom depth room settings registry indent payload language tree) := by
  intro result
  refine ⟨fun _ _ => ⟨rust_run_fails_iff, fun _ => rust_run_error⟩,
    fun _ _ => ⟨javaScript_run_fails_iff, fun _ => javaScript_run_error⟩, ?_⟩
  rw [@hasUnshowable_iff depth settings registry language]
  have hcause {stop : Stop} : result = .error stop →
      Cause depth room settings registry indent payload language tree stop :=
    cause_of_stop hregistry hlanguage
  have hroom : LacksRoom depth room settings registry indent payload language tree →
      result = .error (.unwritable .indentOverflow) ∨ result = .error (.unwritable .noRoom) :=
    transform_of_lacksRoom
  refine ⟨⟨?_, ?_⟩, ⟨?_, ?_⟩, ?_, ⟨hcause, transform_of_incomplete hregistry⟩, ⟨?_, hroom⟩⟩
  · rintro ⟨stop, hstop⟩
    cases stop with
    | unshowable fault => exact .inl ⟨fault, hcause hstop⟩
    | incomplete defect => exact .inr (.inl (hcause hstop))
    | unwritable fault => exact .inr (.inr (hcause hstop))
  · rintro (⟨fault, h⟩ | h | h)
    · exact ⟨_, transform_of_unshown h⟩
    · exact ⟨_, transform_of_incomplete hregistry h⟩
    · rcases hroom h with h | h
      · exact ⟨_, h⟩
      · exact ⟨_, h⟩
  · rintro ⟨fault, hstop⟩
    exact ⟨fault, hcause hstop⟩
  · rintro ⟨fault, h⟩
    exact ⟨fault, transform_of_unshown h⟩
  · intro fault hstop
    have hunshown : Unshown depth registry (effectiveLanguage settings language) fault :=
      hcause hstop
    exact Value.behind_of_literal (unshown_iff.1 hunshown).2
  · rintro (hstop | hstop)
    · exact hcause hstop
    · exact hcause hstop

/-- The request for a function with a loop that has no body stops there. -/
theorem transform_stops_iff_bareLoop :
    HasIncomplete {} Registry.standard (.text "fn f()\x7bwhile 1\x7d") (.text "rust")
      (.sound "source_file" 0 15 none [bareLoopFunction]) ∧
    (transform 1000 {} Registry.standard (Layout.ofIndent 0 none) (.text "fn f()\x7bwhile 1\x7d")
      (.text "rust") (.sound "source_file" 0 15 none [bareLoopFunction])).result
      = .error (.incomplete .missingChild) := by
  have hleads : Relation.ReflTransGen Dialect.Rust.Leads (.function, bareLoopFunction)
      (.expression, bareLoop) :=
    .head (.body rfl) (.head (.statement (List.mem_singleton_self bareLoop))
      (.single (.expression (.bare (by decide) (by decide) (by decide)))))
  have hincomplete : HasIncomplete {} Registry.standard (.text "fn f()\x7bwhile 1\x7d")
      (.text "rust") (.sound "source_file" 0 15 none [bareLoopFunction]) :=
    ⟨Language.rust, _, rfl, rfl, rfl, bareLoopFunction, List.mem_singleton_self _, by decide,
      .inl ⟨rfl, (.expression, bareLoop), hleads, .inr (.inl ⟨rfl, .inr rfl⟩)⟩⟩
  have hplain : (Value.text "rust").Plain := by
    intro t ht
    cases ht
    rfl
  exact ⟨hincomplete, (transform_stops_iff 1000 0 {} Registry.standard none _ _ _ known_standard
    hplain).2.2.2.2.2.1.2 hincomplete⟩

/-- A whole number with too many digits is no language, and is not shown. -/
theorem unshown_int {depth : Nat} {settings : Settings} {registry : Registry} {i : Int}
    (h : Nat.pow 10 Number.longestWhole ≤ i.natAbs) :
    Unshown (depth + 1) registry (effectiveLanguage settings (.int i)) .tooManyDigits := by
  have hlong : Value.isLong i = true := (Value.isLong_iff i).2 h
  have hgiven : (Value.int i).isVoid = false := by
    refine beq_eq_false_iff_ne.2 ?_
    rintro rfl
    exact absurd hlong (by decide)
  unfold effectiveLanguage
  rw [hgiven, if_neg Bool.false_ne_true]
  refine unshown_iff.2 ⟨rfl, ?_⟩
  show Value.wholeLiteral i = _
  unfold Value.wholeLiteral
  rw [hlong, if_pos rfl]

/-- Neither half holds of everything.  Nothing may be sent for want of room
alone, as for an empty file whose lines are indented by a number out of range;
nor for a language that is a number with too many digits.  And what is read as
a block is not asked for the children of its kind: a function with a bare choice
for its body has a diagram. -/
theorem transform_stops_out_of_range :
    ((∀ depth room, (transform depth {} Registry.standard
        (Layout.ofIndent room (some Layout.farBelow)) (.text "") (.text "rust")
        (.sound "source_file" 0 0 none [])).result = .error (.unwritable .indentOverflow)) ∧
      ¬ HasIncomplete {} Registry.standard (.text "") (.text "rust")
        (.sound "source_file" 0 0 none [])) ∧
    (∀ depth layout i, Nat.pow 10 Number.longestWhole ≤ i.natAbs →
      (transform (depth + 1) {} Registry.standard layout (.text "") (.int i)
        (.sound "source_file" 0 0 none [])).result = .error (.unshowable .tooManyDigits)) ∧
    (bareChoice.child? .condition = none ∧ bareChoiceFunction.child? .body = some bareChoice ∧
      (transform 1000 {} Registry.standard (Layout.ofIndent 0 none) (.text "fn f() if")
        (.text "rust") (.sound "source_file" 0 9 none [bareChoiceFunction])).result
        = .ok (LooseText.ofString ("\x7b\"type\":\"sequence\",\"children\":[\x7b\"type\":\"block\","
          ++ "\"label\":\"fn f()\",\"children\":[\x7b\"type\":\"sequence\",\"children\":[]"
          ++ "\x7d]\x7d]\x7d"))) := by
  refine ⟨⟨fun depth room => ?_, ?_⟩, fun depth layout i h => ?_, rfl, rfl, by decide +kernel⟩
  · rw [transform_of_root depth {} Registry.standard (.text "") (.text "rust") _
      (d := .error "No function found") rfl, Diagram.payload_farBelow]
    rfl
  · rintro ⟨found, s, _, _, _, f, hf, _⟩
    cases hf
  · exact transform_of_unshown (unshown_int h)

end AnalysisDiagram.Compiler
