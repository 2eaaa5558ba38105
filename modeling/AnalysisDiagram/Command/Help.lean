/-
  AnalysisDiagram.Command.Help
  ────────────────────────────
  The texts that the command line prints about itself: help, usage, version
  and what is wrong with a command.
-/
import AnalysisDiagram.Command.Options

namespace AnalysisDiagram.Command

/-! ## §1. Commands. -/

/-- What help can be asked about: the tool itself, or one of its commands. -/
inductive Topic where
  | tool
  | transform
  | config
  deriving Repr, DecidableEq

namespace Topic

/-- The words that lead to a topic. -/
def path : Topic → String
  | .tool => "cli"
  | .transform => "cli transform"
  | .config => "cli config"

/-- What may follow these words. -/
def pattern : Topic → String
  | .tool => "[OPTIONS] COMMAND [ARGS]..."
  | .transform => "[OPTIONS] [SOURCE]"
  | .config => "[OPTIONS]"

/-- The usage line of a topic. -/
def usage (topic : Topic) : String := "Usage: " ++ topic.path ++ " " ++ topic.pattern

/-- The options of a topic. -/
def options : Topic → List Opt
  | .tool => [.version, .verbose, .help]
  | .transform => [.language, .output, .pretty, .help]
  | .config => [.format, .help]

/-- The help text of a topic, below its usage line. -/
def details : Topic → List String
  | .tool =>
      ["  PAD compiler - turn function bodies into Problem Analysis Diagram trees.",
       "",
       "  Commands:",
       "    transform      - Compile a source file into the PAD JSON payload",
       "    config         - Show current configuration",
       "",
       "Options:",
       "  --version      Show the version and exit.",
       "  -v, --verbose  Log pipeline stages at DEBUG level",
       "  --help         Show this message and exit.",
       "",
       "Commands:",
       "  config     Show current configuration.",
       "  transform  Compile SOURCE (a file path, or - for stdin) into the PAD JSON..."]
  | .transform =>
      ["  Compile SOURCE (a file path, or - for stdin) into the PAD JSON payload.",
       "",
       "  Exits with status 1 when the payload is an error node.",
       "",
       "  Example:",
       "    pad transform main.rs --pretty",
       "",
       "Options:",
       "  -l, --language [javascript|rust]",
       "                                  Source language (default: from file suffix,",
       "                                  then PAD_DEFAULT_LANGUAGE)",
       "  -o, --output FILE               Write the payload to a file instead of stdout",
       "  --pretty                        Indent the JSON payload",
       "  --help                          Show this message and exit."]
  | .config =>
      ["  Show current configuration.",
       "",
       "  Displays configuration values loaded from environment variables and .env file.",
       "",
       "Options:",
       "  -f, --format [json|table]  Output format",
       "  --help                     Show this message and exit."]

/-- The help text of a topic. -/
def help (topic : Topic) : String :=
  String.join ((topic.usage :: "" :: topic.details).map (· ++ "\n"))

end Topic

/-- The version of the tool. -/
def versionText : String := "pad, version 0.1.0\n"

/-! ## §2. Misuse. -/

/-- What may be wrong with a command line. -/
inductive Misuse where
  /-- A word that does not fit. -/
  | words (fault : WordFault)
  /-- Options, but no command. -/
  | noCommand
  /-- A command that does not exist; the names that may have been meant. -/
  | noSuchCommand (name : LooseText) (meant : List String)
  /-- A value that an option cannot take. -/
  | notOneOf (opt : Opt) (value : LooseText) (choices : List String)
  /-- A directory where a file is asked for, by the option or as the source; its
  path as messages show it. -/
  | directory (opt : Option Opt) (path : String)
  /-- More words than the command takes. -/
  | extra (words : List LooseText)
  deriving Repr, DecidableEq

namespace Misuse

/-- An option or the source, as messages name it. -/
def subject : Option Opt → String
  | none => "'[SOURCE]'"
  | some opt =>
      "'" ++ opt.long ++ "'" ++
        (match opt.letter? with
        | some c => " / '-" ++ String.singleton c ++ "'"
        | none => "")

/-- The guess at what was meant. -/
def guess : List String → String
  | [] => ""
  | [name] => " Did you mean " ++ Text.quoted name ++ "?"
  | names =>
      " (Did you mean one of: " ++ String.intercalate ", " (names.map Text.quoted) ++ "?)"

/-- A misuse in words. -/
def message : Misuse → String
  | .words (.noSuchOption name meant) =>
      "No such option " ++ Text.quotedLoose name ++ "." ++ guess meant
  | .words (.needsValue name) => "Option " ++ Text.quotedLoose name ++ " requires an argument."
  | .words (.takesNoValue name) => "Option " ++ Text.quotedLoose name ++ " does not take a value."
  | .noCommand => "Missing command."
  | .noSuchCommand name meant =>
      "No such command " ++ Text.quotedLoose name ++ "." ++ guess meant
  | .notOneOf opt value choices =>
      "Invalid value for " ++ subject (some opt) ++ ": " ++ Text.quotedLoose value
        ++ " is not one of "
        ++ String.intercalate ", " (choices.map Text.quoted) ++ "."
  | .directory opt path =>
      "Invalid value for " ++ subject opt ++ ": File " ++ Text.quoted path ++ " is a directory."
  | .extra [word] => "Got unexpected extra argument (" ++ Text.escapedLoose word ++ ")"
  | .extra several =>
      "Got unexpected extra arguments ("
        ++ String.intercalate " " (several.map Text.escapedLoose) ++ ")"

/-- Whether the usage line is left out. -/
def isBrief : Misuse → Bool
  | .words (.needsValue _) => true
  | .words (.takesNoValue _) => true
  | _ => false

/-- All that is printed about a misuse. -/
def report (topic : Topic) (m : Misuse) : String :=
  let error := "Error: " ++ m.message ++ "\n"
  if m.isBrief then error
  else
    topic.usage ++ "\nTry '" ++ topic.path ++ " --help' for help.\n\n" ++ error

end Misuse

end AnalysisDiagram.Command
