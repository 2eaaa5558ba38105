/-
  AnalysisDiagram.Main
  ────────────────────
  The command line tool.

  The surroundings are looked up, `Command.run` decides what happens, and this
  is carried out.  The parser is a program of its own: the syntax tree of the
  source is read, as rows in JSON, from the file that the variable
  `PAD_SYNTAX_TREE` names; without one the source counts as empty.
-/
import AnalysisDiagram.Command.Run
import AnalysisDiagram.Journal.Clock
import AnalysisDiagram.Tree.Rows
import Std.Time.DateTime.Timestamp

namespace AnalysisDiagram.Main

open AnalysisDiagram.Command
open AnalysisDiagram.Journal

/-! ## §1. Looking around. -/

/-- All that comes from a stream. -/
partial def readAll (stream : IO.FS.Stream) (done : ByteArray) : IO ByteArray := do
  let more ← stream.read 65536
  if more.isEmpty then return done else readAll stream (done ++ more)

/-- What a path leads to in the file system. -/
def look (path : String) : IO Target := do
  try
    let content ← IO.FS.readBinFile path
    return .file [] content.data.toList
  catch e =>
    match e with
    | .inappropriateType _ 21 _ => return .directory []
    | _ => return .nothing

/-- The parts of a path, one more at a time. -/
def stages (path : Name) : List (List Name) :=
  let parts := plainComponents path
  (List.range parts.length).map fun n => Files.base path ++ parts.take (n + 1)

/-- A path from its parts; only names in UTF-8 can be reached. -/
def pathOf (parts : List Name) : String :=
  let joined := String.intercalate "/" (parts.map Text.decodeLossy)
  if parts.head? = some Name.root then joined.drop 1 |>.toString else joined

/-- The files that a command line looks at. -/
def gather (paths : List LooseText) : IO Files := do
  let mut files : Files := { entries := [] }
  for stage in (paths.filterMap nameOf?).flatMap stages do
    match ← look (pathOf stage) with
    | .file _ content => files := files.write stage content
    | .directory _ => files := { files with directories := stage :: files.directories }
    | _ => pure ()
  return files

/-- The values that the environment gives to the settings. -/
def environment : IO (List (String × Value)) := do
  let names := ["log_level", "default_language", "json_indent"]
  let mut found := []
  for name in names do
    for key in ["pad_" ++ name, ("pad_" ++ name).map Char.toUpper] do
      if let some v ← IO.getEnv key then found := found ++ [(key, Value.text v)]
  return found

/-- The syntax tree of the source. -/
def sourceTree : IO Node := do
  match ← IO.getEnv "PAD_SYNTAX_TREE" with
  | none => return Node.empty
  | some path =>
      let cs := (← IO.FS.readFile path).toList
      return ((Json.read? cs.length cs).bind Node.ofValue?).getD Node.empty

/-! ## §2. Carrying out. -/

/-- What stopped a command, in words. -/
def crashText : Crash → String
  | .undecodable => "the source is not UTF-8"
  | .notFound => "no such file or directory"
  | .notDirectory => "not a directory"
  | .tooLong => "a path is too long"
  | .isDirectory => "is a directory"
  | .notEncodable => "a path has characters that cannot be encoded"
  | .unprintable => "standard output lacks a character"
  | .unshowable .tooManyDigits => "a number has too many digits"
  | .unshowable .tooDeep => "a value is nested too deep"
  | .compiling (.unshowable fault) => crashText (.unshowable fault)
  | .nullInPath => "a path has a null character in it"
  | .compiling (.incomplete _) => "a function lacks a part"
  | .compiling (.unwritable fault) => fault.message
  | .message .tags => "a message has tags that do not fit together"
  | .message .noNumber => "a tag lacks a number"

/-- The blanks that there is room for in a line of a payload: 4 GiB. -/
def room : Nat := 0x100000000

/-- The levels that there are to go down in a value that is shown. -/
def depth : Nat := 1000

/-- Prints and writes what a command leaves behind. -/
def carryOut (settings : Settings) (before : Files) (o : Outcome) : IO UInt32 := do
  let threshold := if o.verbose then Severity.debug.level else settings.logLevel.level
  let now ← Std.Time.Timestamp.now
  for line in lines threshold o.records do
    IO.println (timestamp now.toSecondsSinceUnixEpoch.val ++ " | " ++ line.string)
  for (path, content) in before.changes o.files do
    IO.FS.writeBinFile (pathOf path) ⟨content.toArray⟩
  IO.print o.stdout.string
  IO.eprint o.stderr.string
  if let some crash := o.crash then IO.eprintln ("Error: " ++ crashText crash)
  return o.exit.toUInt32

/-- The whole of a run. -/
def start (words : List LooseText) : IO UInt32 := do
  match Settings.read [] (← environment) with
  | .error problems =>
      for p in problems do IO.eprintln (p.setting ++ ": " ++ p.defect.message)
      return 1
  | .ok settings =>
      let touched := sourceAndOutput? words
      let paths := match touched with
        | some (source, output) => source :: output.toList
        | none => []
      let files ← gather paths
      let stdin ← match touched with
        | some (source, _) =>
            if source = dash then readAll (← IO.getStdin) ByteArray.empty
            else pure ByteArray.empty
        | none => pure ByteArray.empty
      let tree ← sourceTree
      let world : World :=
        { stdin := { bytes := stdin.data.toList, unifies := false }, stdout := Stdout.utf8
          files, settings, tree, room, depth }
      carryOut settings files (Command.run world words)

end AnalysisDiagram.Main

/-- The command line tool. -/
def main (words : List String) : IO UInt32 :=
  AnalysisDiagram.Main.start (words.map AnalysisDiagram.LooseText.ofString)
