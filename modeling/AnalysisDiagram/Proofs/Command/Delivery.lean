/-
  AnalysisDiagram.Proofs.Command.Delivery
  ───────────────────────────────────────
  Where the payload of a source goes, and how the command ends.

      Ends                — the status and the message after a delivery
      Delivers            — what becomes of a payload, case by case
      transform_delivers  — the payload of a diagram is delivered as it is

  A delivery may be cut short: standard output may have no form for a character,
  and a path may lead nowhere.  A file is written before the note about it is
  printed, so it stays if that fails.
-/
import AnalysisDiagram.Proofs.Command.Note
import AnalysisDiagram.Proofs.Command.Opening
import AnalysisDiagram.Proofs.Registry

namespace AnalysisDiagram

theorem LooseText.isEmpty_iff {t : LooseText} : t.isEmpty = true ↔ t = ofString "" := by
  obtain ⟨lead, last⟩ := t
  simp [isEmpty, ofString]

namespace Command

/-! ## §1. Files and streams. -/

theorem Files.write_eq (fs : Files) (path : List Name) (content : List UInt8) :
    fs.write path content = { fs with entries := Entries.put fs.entries path content } := by
  unfold Files.write Entries.put
  rfl

/-- Writing a file changes that file, and no other. -/
theorem Files.content?_write (fs : Files) (path : List Name) (content : List UInt8)
    (other : List Name) :
    (fs.write path content).content? other
      = if path = other then some content else fs.content? other := by
  have hput := Entries.at?_put fs.entries path content other
  simp only [beq_iff_eq] at hput
  rw [Files.write_eq]
  exact hput

/-- A text that a stream takes is printed behind what was printed before. -/
theorem Outcome.print_eq_ok {o : Outcome} {isWritable : Code → Bool} {text : LooseText}
    (h : text.codes.all isWritable = true) :
    o.print isWritable text = .ok { o with stdout := o.stdout ++ text } := by
  unfold Outcome.print
  rw [if_pos h]

theorem Outcome.print_eq_error {o : Outcome} {isWritable : Code → Bool} {text : LooseText}
    (h : text.codes.all isWritable = false) :
    o.print isWritable text = .error (o.crashed .unprintable) := by
  unfold Outcome.print
  rw [h, if_neg Bool.false_ne_true]

/-- A stream for UTF-8 takes what has no lone code in it. -/
theorem Stdout.all_takes_utf8 {cs : List Code} (h : ∀ n, Code.lone n ∉ cs) :
    cs.all Stdout.utf8.takes = true := by
  refine List.all_eq_true.2 fun code hcode => ?_
  cases code with
  | char c => rfl
  | lone n => exact absurd hcode (h n)

/-! ## §2. Outcomes. -/

/-- A payload as it is delivered, with a line end. -/
def delivered (payload : String) : String := payload ++ "\n"

/-- A payload on standard output; no file has changed. -/
def Prints (before : Files) (payload : String) (o : Outcome) : Prop :=
  o.stdout = LooseText.ofString (delivered payload) ∧ o.files = before

/-- A payload in a file; no other file has changed. -/
def Writes (before : Files) (payload : String) (place : List Name) (o : Outcome) : Prop :=
  o.files.directories = before.directories ∧
  ∀ other, o.files.content? other
    = if place = other then some (Text.utf8 (delivered payload)).toList else before.content? other

/-- A command that something has stopped before it printed anything. -/
structure CutShort (crash : Crash) (o : Outcome) : Prop where
  exit : o.exit = 1
  crash : o.crash = some crash
  stdout : o.stdout = LooseText.ofString ""
  stderr : o.stderr = LooseText.ofString ""

/-- How a command ends after the payload of a diagram: with status 0 and in
silence, or, after an error, with status 1 and a line with its message, unless
the message cannot be printed. -/
structure Ends (d : Diagram) (o : Outcome) : Prop where
  exit : o.exit = if d.isError then 1 else 0
  silent : d.isError = false → o.stderr = LooseText.ofString "" ∧ o.crash = none
  told : ∀ message, d = .error message →
    line? (errorNote (LooseText.ofString message)) = .ok o.stderr ∨
    ∃ crash, line? (errorNote (LooseText.ofString message)) = .error crash ∧
      o.stderr = LooseText.ofString "" ∧ o.crash = some crash

/-- No path is given for a payload, or an empty one. -/
def Unnamed (output : Option LooseText) : Prop :=
  output = none ∨ output = some (LooseText.ofString "")

/-- A path that is given for a payload, with its name. -/
def Named (output : Option LooseText) (path : LooseText) (name : Name) : Prop :=
  output = some path ∧ path ≠ LooseText.ofString "" ∧ nameOf? path = some name

/-- What becomes of the payload of a diagram.  Without a path it is printed, if
standard output can take it.  With a path it is written where the path leads,
if that is anywhere; and then a note about it is printed, if there is a text of
it that standard output can take. -/
structure Delivers (world : World) (output : Option LooseText) (d : Diagram) (payload : String)
    (o : Outcome) : Prop where
  printed : Unnamed output →
    (LooseText.ofString (delivered payload)).codes.all world.stdout.echoes = true →
    Ends d o ∧ Prints world.files payload o
  unprinted : Unnamed output →
    (LooseText.ofString (delivered payload)).codes.all world.stdout.echoes = false →
    CutShort .unprintable o ∧ o.files = world.files
  written : ∀ path name place, Named output path name → world.files.place name = .ok place →
    Writes world.files payload place o
  noted : ∀ path name place note, Named output path name → world.files.place name = .ok place →
    line? (wroteNote path) = .ok note → note.codes.all world.stdout.takes = true →
    Ends d o ∧ o.stdout = note
  unnoted : ∀ path name place note, Named output path name → world.files.place name = .ok place →
    line? (wroteNote path) = .ok note → note.codes.all world.stdout.takes = false →
    CutShort .unprintable o
  garbled : ∀ path name place crash, Named output path name →
    world.files.place name = .ok place → line? (wroteNote path) = .error crash → CutShort crash o
  stranded : ∀ path name target, Named output path name →
    world.files.place name = .error target →
    CutShort (Crash.ofTarget target) o ∧ o.files = world.files

/-! ## §3. The steps of a delivery. -/

section Steps

variable {world : World} {o : Outcome} {output : Option LooseText} {path : LooseText} {name : Name}

theorem deliver_of_unnamed (payload : String) (h : Unnamed output) :
    deliver world o payload output
      = o.print world.stdout.echoes (LooseText.ofString (delivered payload)) := by
  rcases h with rfl | rfl <;> rfl

theorem deliver_of_named (payload : String) (h : Named output path name) :
    deliver world o payload output = writeFile world o (delivered payload) path := by
  obtain ⟨rfl, hpath, _⟩ := h
  have hfull : ¬ path.isEmpty = true := fun hempty => hpath (LooseText.isEmpty_iff.1 hempty)
  unfold deliver
  dsimp only
  rw [if_neg hfull]
  rfl

theorem deliver_of_target {target : Target} (payload : String) (h : Named output path name)
    (hplace : o.files.place name = .error target) :
    deliver world o payload output = .error (o.crashed (Crash.ofTarget target)) := by
  rw [deliver_of_named payload h]
  unfold writeFile
  rw [h.2.2]
  dsimp only
  rw [hplace]

/-- The outcome once a payload is written. -/
def Outcome.wrote (o : Outcome) (payload : String) (place : List Name) : Outcome :=
  { o with files := o.files.write place (Text.utf8 (delivered payload)).toList }

/-- A payload is written before there is a note about it. -/
theorem deliver_of_place {place : List Name} (payload : String) (h : Named output path name)
    (hplace : o.files.place name = .ok place) :
    (∀ note, line? (wroteNote path) = .ok note →
      deliver world o payload output = (o.wrote payload place).print world.stdout.takes note) ∧
    ∀ crash, line? (wroteNote path) = .error crash →
      deliver world o payload output = .error ((o.wrote payload place).crashed crash) := by
  rw [deliver_of_named payload h]
  unfold writeFile
  rw [h.2.2]
  dsimp only
  rw [hplace]
  constructor
  · intro note hnote
    dsimp only
    rw [hnote]
    rfl
  · intro crash hnote
    dsimp only
    rw [hnote]
    rfl

/-- What comes after the delivery touches neither standard output nor files. -/
theorem conclude_frame (world : World) (o : Outcome) (payload : String) :
    (conclude world o payload).stdout = o.stdout ∧ (conclude world o payload).files = o.files := by
  unfold conclude
  split
  · split
    · exact ⟨rfl, rfl⟩
    · split <;> exact ⟨rfl, rfl⟩
  · exact ⟨rfl, rfl⟩

theorem finish_of_ok {payload : String} {o' : Outcome}
    (h : deliver world o payload output = .ok o') :
    finish world o payload output = conclude world o' payload := by
  unfold finish
  rw [h]

theorem finish_of_error {payload : String} {o' : Outcome}
    (h : deliver world o payload output = .error o') : finish world o payload output = o' := by
  unfold finish
  rw [h]

end Steps

/-! ## §4. Outcomes of deliveries. -/

/-- An outcome before anything is delivered. -/
structure Fresh (world : World) (o : Outcome) : Prop where
  exit : o.exit = 0
  stdout : o.stdout = LooseText.ofString ""
  stderr : o.stderr = LooseText.ofString ""
  files : o.files = world.files
  crash : o.crash = none

section Deliveries

variable {world : World} {o : Outcome} {output : Option LooseText} {room : Nat}
  {indent : Option Int} {d : Diagram} {payload : String}

theorem Fresh.cutShort (h : Fresh world o) (crash : Crash) : CutShort crash (o.crashed crash) :=
  ⟨rfl, rfl, h.stdout, h.stderr⟩

theorem Fresh.cutShort_wrote (h : Fresh world o) (place : List Name) (crash : Crash) :
    CutShort crash ((o.wrote payload place).crashed crash) :=
  ⟨rfl, rfl, h.stdout, h.stderr⟩

theorem Fresh.ends (h : Fresh world o)
    (hd : (d.payload (Layout.ofIndent room indent)).result = .ok payload) {o' : Outcome}
    (hexit : o'.exit = o.exit) (hstderr : o'.stderr = o.stderr) (hcrash : o'.crash = o.crash) :
    Ends d (conclude world o' payload) := by
  have hexit : o'.exit = 0 := hexit.trans h.exit
  have hstderr : o'.stderr = LooseText.ofString "" := hstderr.trans h.stderr
  unfold conclude
  rw [looksLikeError_payload hd]
  cases d with
  | error message =>
    have herror : (Diagram.error message).isError = true := rfl
    have hshown : (Value.text message).shown world.depth = .ok (LooseText.ofString message) := rfl
    rw [if_pos herror, errorMessage_payload hd, hshown]
    dsimp only
    cases hline : line? (errorNote (LooseText.ofString message)) with
    | error crash =>
      refine ⟨rfl, nofun, fun message' heq => .inr ⟨crash, ?_, hstderr, rfl⟩⟩
      cases heq
      exact hline
    | ok line =>
      refine ⟨rfl, nofun, fun message' heq => .inl ?_⟩
      cases heq
      show _ = Except.ok (o'.stderr ++ line)
      rw [hstderr, LooseText.empty_append]
      exact hline
  | _ =>
    rw [if_neg nofun]
    exact ⟨hexit, fun _ => ⟨hstderr, hcrash.trans h.crash⟩, nofun⟩

theorem Fresh.writes (h : Fresh world o) {place : List Name} {o' : Outcome}
    (hfiles : o'.files = (o.wrote payload place).files) :
    Writes world.files payload place o' := by
  have hfiles : o'.files
      = world.files.write place (Text.utf8 (delivered payload)).toList := by
    rw [hfiles, ← h.files]
    rfl
  unfold Writes
  rw [hfiles]
  exact ⟨rfl, fun other => Files.content?_write _ _ _ other⟩

/-- The payload of a diagram is delivered as it is. -/
theorem Fresh.delivers (h : Fresh world o)
    (hd : (d.payload (Layout.ofIndent room indent)).result = .ok payload) :
    Delivers world output d payload (finish world o payload output) where
  printed houtput htakes := by
    rw [finish_of_ok ((deliver_of_unnamed payload houtput).trans (Outcome.print_eq_ok htakes))]
    refine ⟨h.ends hd rfl rfl rfl, ?_⟩
    unfold Prints
    rw [(conclude_frame _ _ _).1, (conclude_frame _ _ _).2]
    refine ⟨?_, h.files⟩
    show o.stdout ++ _ = _
    rw [h.stdout, LooseText.empty_append]
  unprinted houtput htakes := by
    rw [finish_of_error
      ((deliver_of_unnamed payload houtput).trans (Outcome.print_eq_error htakes))]
    exact ⟨h.cutShort _, h.files⟩
  written path name place hnamed hplace := by
    rw [← h.files] at hplace
    have hdeliver := @deliver_of_place world _ _ _ _ _ payload hnamed hplace
    -- whatever becomes of the note, the file is there
    cases hline : line? (wroteNote path) with
    | error crash =>
      rw [finish_of_error (hdeliver.2 crash hline)]
      exact h.writes rfl
    | ok note =>
      cases htakes : note.codes.all world.stdout.takes with
      | true =>
        rw [finish_of_ok ((hdeliver.1 note hline).trans (Outcome.print_eq_ok htakes))]
        exact h.writes (conclude_frame _ _ _).2
      | false =>
        rw [finish_of_error ((hdeliver.1 note hline).trans (Outcome.print_eq_error htakes))]
        exact h.writes rfl
  noted path name place note hnamed hplace hline htakes := by
    rw [← h.files] at hplace
    have hdeliver := (@deliver_of_place world _ _ _ _ _ payload hnamed hplace).1 note hline
    rw [finish_of_ok (hdeliver.trans (Outcome.print_eq_ok htakes))]
    refine ⟨h.ends hd rfl rfl rfl, ?_⟩
    rw [(conclude_frame _ _ _).1]
    show o.stdout ++ note = note
    rw [h.stdout, LooseText.empty_append]
  unnoted path name place note hnamed hplace hline htakes := by
    rw [← h.files] at hplace
    have hdeliver := (@deliver_of_place world _ _ _ _ _ payload hnamed hplace).1 note hline
    rw [finish_of_error (hdeliver.trans (Outcome.print_eq_error htakes))]
    exact h.cutShort_wrote place _
  garbled path name place crash hnamed hplace hline := by
    rw [← h.files] at hplace
    rw [finish_of_error ((deliver_of_place payload hnamed hplace).2 crash hline)]
    exact h.cutShort_wrote place _
  stranded path name target hnamed hplace := by
    rw [← h.files] at hplace
    rw [finish_of_error (deliver_of_target payload hnamed hplace)]
    exact ⟨h.cutShort _, h.files⟩

end Deliveries

/-! ## §5. Sources. -/

/-- The report on a source that a command compiles. -/
def compiled (world : World) (source : LooseText) (text : String) (language : Value)
    (pretty : Bool) : Journal.Report (Except Compiler.Stop LooseText) :=
  Compiler.transform world.depth world.settings Registry.standard (layoutFor world pretty)
    (.text text) (guessLanguage world.settings source language) world.tree

/-- The payload of a source that is read and compiled is delivered. -/
theorem transform_delivers {world : World} {verbose : Bool} {source : LooseText} {text : String}
    {language : Value} {output : Option LooseText} {pretty : Bool} {payload : LooseText}
    {room : Nat} {indent : Option Int} {d : Diagram}
    (hsource : sourceText world source = .ok text)
    (hmade : (compiled world source text language pretty).result = .ok payload)
    (hd : (d.payload (Layout.ofIndent room indent)).result = .ok payload.string) :
    Delivers world output d payload.string
      (transform world verbose source language output pretty) := by
  have hfresh : Fresh world
      { files := world.files, verbose
        records := (compiled world source text language pretty).records } :=
    ⟨rfl, rfl, rfl, rfl, rfl⟩
  unfold compiled at hmade
  unfold transform
  rw [hsource]
  dsimp only
  rw [hmade]
  exact hfresh.delivers hd

end Command

end AnalysisDiagram
