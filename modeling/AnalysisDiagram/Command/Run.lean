/-
  AnalysisDiagram.Command.Run
  ───────────────────────────
  What a command line does.

  `run` takes the words, what the command can see (standard input, files,
  settings), what it can use (standard output, room and depth) and the syntax
  tree of the source, and says what is printed and written, and how the command
  ends.

      transform  — the payload goes to standard output or to a file; the exit
                   status tells an error payload by how its text begins
      config     — the settings in force
-/
import AnalysisDiagram.Command.Files
import AnalysisDiagram.Command.Help
import AnalysisDiagram.Command.Markup
import AnalysisDiagram.Command.Overview
import AnalysisDiagram.Compiler

namespace AnalysisDiagram.Command

open AnalysisDiagram.Journal

/-! ## §1. Surroundings and outcome. -/

/-- Standard input. -/
structure Stdin where
  bytes : List UInt8
  /-- Whether line ends of all sorts are read as line feeds. -/
  unifies : Bool

/-- Standard output, by the codes that can be written to it. -/
structure Stdout where
  /-- The codes that the stream has a form for. -/
  takes : Code → Bool
  /-- Whether the stream is one for ASCII.  Payloads are written to such a stream
  in UTF-8 nevertheless, but notes are not. -/
  isAscii : Bool

namespace Stdout

/-- A stream for UTF-8. -/
def utf8 : Stdout := { takes := fun code => code.char?.isSome, isAscii := false }

/-- Whether a code of a payload can be written. -/
def echoes (out : Stdout) (code : Code) : Bool := out.isAscii || out.takes code

end Stdout

/-- What a command can see and use. -/
structure World where
  stdin : Stdin
  stdout : Stdout
  files : Files
  settings : Settings
  /-- The syntax tree of the source that is compiled. -/
  tree : Node
  /-- The blanks that there is room for in a line of a payload. -/
  room : Nat
  /-- The levels that there are to go down in a value that is shown. -/
  depth : Nat

/-- What stops a command in the middle. -/
inductive Crash where
  /-- The source is not UTF-8. -/
  | undecodable
  /-- A file or a directory is not there. -/
  | notFound
  /-- A file stands where a directory was needed. -/
  | notDirectory
  /-- A path, or a name in it, is too long. -/
  | tooLong
  /-- A directory stands where a file was needed. -/
  | isDirectory
  /-- There is a null character in a path. -/
  | nullInPath
  /-- A path has no bytes. -/
  | notEncodable
  /-- Standard output has no form for a character. -/
  | unprintable
  /-- A value cannot be shown. -/
  | unshowable (fault : Value.ShowFault)
  /-- There is no payload. -/
  | compiling (stop : Compiler.Stop)
  /-- A message cannot be printed. -/
  | message (fault : MessageFault)
  deriving Repr, DecidableEq

/-- What stops a command at a target that is no file. -/
def Crash.ofTarget : Target → Crash
  | .blocked => .notDirectory
  | .directory _ => .isDirectory
  | .tooLong => .tooLong
  | _ => .notFound

/-- What a command leaves behind. -/
structure Outcome where
  exit : Nat := 0
  stdout : LooseText := ""
  stderr : LooseText := ""
  files : Files
  crash : Option Crash := none
  records : List Record := []
  /-- Whether records of all levels are printed. -/
  verbose : Bool := false

/-- A misuse: nothing happens but a message. -/
def misused (world : World) (topic : Topic) (m : Misuse) : Outcome :=
  { exit := 2, stderr := m.report topic, files := world.files }

/-- A text, and no more. -/
def printing (world : World) (text : String) : Outcome :=
  { stdout := text, files := world.files }

/-! ## §2. Sources. -/

/-- The word that stands for standard input. -/
def dash : LooseText := "-"

/-- The content of a source, a file or standard input, as it is read. -/
def sourceInput (world : World) (source : LooseText) : Except Crash Stdin :=
  if source = dash then .ok world.stdin
  else
    match nameOf? source with
    | none => .error .notEncodable
    | some name =>
        match world.files.lookup name with
        | .file _ bytes => .ok { bytes, unifies := true }
        | other => .error (Crash.ofTarget other)

/-- The text of a source. -/
def sourceText (world : World) (source : LooseText) : Except Crash String :=
  match sourceInput world source with
  | .error crash => .error crash
  | .ok input =>
      match Text.decodeStrict? input.bytes with
      | none => .error .undecodable
      | some text =>
          .ok (if input.unifies then String.ofList (Text.unifyLines text.toList) else text)

/-- The languages of file suffixes. -/
def suffixLanguages : List (String × String) :=
  [(".rs", "rust"), (".js", "javascript"), (".mjs", "javascript"), (".cjs", "javascript")]

/-- The language of a source when none was named: that of the file's suffix, or
the default one. -/
def usualLanguage (settings : Settings) (source : LooseText) : String :=
  let ending := (suffix source).mapRuns Text.lowercase
  let bySuffix := suffixLanguages.find? (LooseText.ofString ·.1 == ending)
  match (if source = dash then none else bySuffix) with
  | some (_, language) => language
  | none => settings.defaultLanguage.name

/-- The language of a source: the one that was named, or the usual one. -/
def guessLanguage (settings : Settings) (source : LooseText) (named : Value) : Value :=
  if named.isVoid then .text (usualLanguage settings source) else named

/-! ## §3. Transforming. -/

/-- Whether a payload begins like that of an error node. -/
def looksLikeError (payload : String) : Bool :=
  match payload.toList with
  | '\x7b' :: cs =>
      match Text.afterWord? "\"type\":".toList (cs.dropWhile Text.isBlank) with
      | some cs => (Text.afterWord? "\"error\"".toList (cs.dropWhile Text.isBlank)).isSome
      | none => false
  | _ => false

/-- The message in an error payload. -/
def errorMessage (payload : String) : Value :=
  match Json.read? payload.length payload.toList with
  | some v => (v.get? "message").getD .null
  | none => .null

/-- A message with tags, printed on a line of its own. -/
def line? (message : LooseText) : Except Crash LooseText :=
  match printed message with
  | .ok t => .ok (t ++ "\n")
  | .error fault => .error (.message fault)

/-- The note about a file that was written. -/
def wroteNote (path : LooseText) : LooseText := "[green]✓[/green] Wrote " ++ path

/-- The line about an error. -/
def errorNote (message : LooseText) : LooseText := "[bold red]❌ Error:[/bold red] " ++ message

/-- An outcome cut short. -/
def Outcome.crashed (o : Outcome) (crash : Crash) : Outcome :=
  { o with exit := 1, crash := some crash }

/-- A text printed, if standard output has a form for each of its codes. -/
def Outcome.print (o : Outcome) (isWritable : Code → Bool) (text : LooseText) :
    Except Outcome Outcome :=
  if text.codes.all isWritable then .ok { o with stdout := o.stdout ++ text }
  else .error (o.crashed .unprintable)

/-- A payload written to a file, with a note about it. -/
def writeFile (world : World) (o : Outcome) (text : String) (path : LooseText) :
    Except Outcome Outcome :=
  match nameOf? path with
  | none => .error (o.crashed .notEncodable)
  | some name =>
      match o.files.place name with
      | .error target => .error (o.crashed (Crash.ofTarget target))
      | .ok place =>
          let o := { o with files := o.files.write place (Text.utf8 text).toList }
          match line? (wroteNote path) with
          | .error crash => .error (o.crashed crash)
          | .ok note => o.print world.stdout.takes note

/-- A payload printed, or written to a file. -/
def deliver (world : World) (o : Outcome) (payload : String) (output : Option LooseText) :
    Except Outcome Outcome :=
  let text := payload ++ "\n"
  match output with
  | none => o.print world.stdout.echoes text
  | some path =>
      if path.isEmpty then o.print world.stdout.echoes text else writeFile world o text path

/-- The exit status for a payload, with a message if it is an error.  Standard
error has a form for every code. -/
def conclude (world : World) (o : Outcome) (payload : String) : Outcome :=
  if looksLikeError payload then
    match (errorMessage payload).shown world.depth with
    | .error fault => o.crashed (.unshowable fault)
    | .ok message =>
        match line? (errorNote message) with
        | .error crash => o.crashed crash
        | .ok text => { o with exit := 1, stderr := o.stderr ++ text }
  else o

/-- A payload delivered, and the exit status for it unless that was cut short. -/
def finish (world : World) (o : Outcome) (payload : String) (output : Option LooseText) :
    Outcome :=
  match deliver world o payload output with
  | .error o => o
  | .ok o => conclude world o payload

/-- The layout of payloads. -/
def layoutFor (world : World) (pretty : Bool) : Layout :=
  match world.settings.jsonIndent with
  | some n => .indented n world.room
  | none => if pretty then .indented 2 world.room else .compact

/-- Compiles a source and delivers its payload. -/
def transform (world : World) (verbose : Bool) (source : LooseText) (language : Value)
    (output : Option LooseText) (pretty : Bool) : Outcome :=
  let start : Outcome := { files := world.files, verbose }
  match sourceText world source with
  | .error crash => start.crashed crash
  | .ok text =>
      let made := Compiler.transform world.depth world.settings Registry.standard
        (layoutFor world pretty) (.text text)
        (guessLanguage world.settings source language) world.tree
      let o := { start with records := made.records }
      match made.result with
      | .error stop => o.crashed (.compiling stop)
      | .ok payload => finish world o payload.string output

/-! ## §4. Words. -/

/-- The languages that can be named on the command line. -/
def languageChoices : List String := Registry.standard.names.map LooseText.string

/-- The forms of the overview of settings. -/
def formatChoices : List String := ["json", "table"]

/-- What is wrong with the words of a command. -/
inductive Objection where
  | misuse (m : Misuse)
  | crash (c : Crash)

/-- What comes of an objection. -/
def Objection.outcome (world : World) (topic : Topic) : Objection → Outcome
  | .misuse m => misused world topic m
  | .crash c => Outcome.crashed { files := world.files } c

/-- What is wrong with a path that is given by an option or as the source. -/
def pathObjection? (world : World) (opt : Option Opt) (word : LooseText) : Option Objection :=
  match nameOf? word with
  | none => some (.crash .notEncodable)
  | some name =>
      if name.contains 0 then some (.crash .nullInPath)
      else
        match world.files.lookup name with
        | .directory _ => some (.misuse (.directory opt (Text.decodeLossy name)))
        | _ => none

/-- What is wrong with the value of an option. -/
def optionObjection? (world : World) (opt : Opt) (value : LooseText) : Option Objection :=
  let oneOf := fun (choices : List String) =>
    if choices.any (LooseText.ofString · == value) then none
    else some (.misuse (.notOneOf opt value choices))
  match opt with
  | .language => oneOf languageChoices
  | .format => oneOf formatChoices
  | .output => pathObjection? world (some opt) value
  | _ => none

/-- What is wrong with the source. -/
def sourceObjection? (world : World) (source : LooseText) : Option Objection :=
  if source = dash then none else pathObjection? world none source

/-- What is wrong with the words of a command that takes at most `room` words
besides its options: the options come first, in the order in which they were
given, then the source, then words that are too many. -/
def objection? (world : World) (w : Words) (room : Nat) : Option Objection :=
  let givenOptions := (w.options.map (·.1)).eraseDups
  let ofOption := fun opt => optionObjection? world opt ((w.value? opt).getD "")
  (givenOptions.findSome? ofOption)
    <|> ((w.others.take room).findSome? (sourceObjection? world))
    <|> (if w.others.length ≤ room then none
        else some (.misuse (.extra (w.others.drop room))))

/-- What an option that is seen to first prints. -/
def eager? (world : World) (topic : Topic) (w : Words) : Option Outcome :=
  (w.options.find? (·.1.isEager)).map fun (opt, _) =>
    printing world (if opt = .version then versionText else topic.help)

/-- Reads the words of a topic and sees to what comes first. -/
def readTopic (world : World) (topic : Topic) (mixed : Bool) (words : List LooseText) :
    Except Outcome Words :=
  match readWords topic.options mixed words.length {} words with
  | .error fault => .error (misused world topic (.words fault))
  | .ok w =>
      match eager? world topic w with
      | some o => .error o
      | none => .ok w

/-- The source among the words of a command: the first of them, or a dash. -/
def Words.source (w : Words) : LooseText := w.others.head?.getD dash

/-- The command `transform`. -/
def runTransform (world : World) (verbose : Bool) (words : List LooseText) : Outcome :=
  match readTopic world .transform true words with
  | .error o => o
  | .ok w =>
      match objection? world w 1 with
      | some objection => objection.outcome world .transform
      | none =>
          let language := ((w.value? .language).map Value.ofLoose).getD .null
          transform world verbose w.source language (w.value? .output) (w.has .pretty)

/-- The command `config`. -/
def runConfig (world : World) (words : List LooseText) : Outcome :=
  match readTopic world .config true words with
  | .error o => o
  | .ok w =>
      match objection? world w 0 with
      | some objection => objection.outcome world .config
      | none =>
          let asJson := w.value? .format == some (LooseText.ofString "json")
          match if asJson then settingsJson world.settings else settingsTable world.settings with
          | .ok text => printing world text
          | .error fault => Outcome.crashed { files := world.files } (.unshowable fault)

/-- The names of the commands. -/
def commands : List String := ["transform", "config"]

/-- Any command. -/
def run (world : World) (words : List LooseText) : Outcome :=
  if words.isEmpty then
    { exit := 2, stderr := Topic.tool.help, files := world.files }
  else
    match readTopic world .tool false words with
    | .error o => o
    | .ok w =>
        let verbose := w.has .verbose
        match w.others with
        | [] => misused world .tool .noCommand
        | name :: rest =>
            match name.string? with
            | some "transform" => runTransform world verbose rest
            | some "config" => runConfig world rest
            | _ =>
                -- a word that looks like an option is read once more as one
                match readTopic world .tool false (name :: rest) with
                | .error o => o
                | .ok _ => misused world .tool (.noSuchCommand name (meantBy name commands))

/-! ## §5. What a command line looks at. -/

/-- The source that a command line reads, and the file that it writes, if it
gets that far. -/
def sourceAndOutput? (words : List LooseText) : Option (LooseText × Option LooseText) :=
  match readWords Topic.tool.options false words.length {} words with
  | .ok { others := name :: rest, .. } =>
      match name.string?, readWords Topic.transform.options true rest.length {} rest with
      | some "transform", .ok w => some (w.source, w.value? .output)
      | _, _ => none
  | _ => none

end AnalysisDiagram.Command
