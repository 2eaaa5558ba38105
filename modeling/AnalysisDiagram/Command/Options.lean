/-
  AnalysisDiagram.Command.Options
  ───────────────────────────────
  Reading the words of a command line.

  Options have long names (`--output`) and short ones (`-o`).  A value follows
  as the next word, after `=` for a long name, or directly for a short one;
  short options without values may share a dash.  `--` ends the options.  The
  first word that does not fit is reported; a long name that does not exist
  comes with those that may have been meant.
-/
import AnalysisDiagram.Command.Resemblance
import AnalysisDiagram.Text.Quoted

namespace AnalysisDiagram.Command

/-! ## §1. Options. -/

/-- The options of all commands. -/
inductive Opt where
  | version
  | verbose
  | language
  | output
  | pretty
  | format
  | help
  deriving Repr, DecidableEq

namespace Opt

/-- The long name of an option. -/
def long : Opt → String
  | .version => "--version"
  | .verbose => "--verbose"
  | .language => "--language"
  | .output => "--output"
  | .pretty => "--pretty"
  | .format => "--format"
  | .help => "--help"

/-- The letter of an option. -/
def letter? : Opt → Option Char
  | .verbose => some 'v'
  | .language => some 'l'
  | .output => some 'o'
  | .format => some 'f'
  | _ => none

/-- Whether an option takes a value. -/
def takesValue : Opt → Bool
  | .language => true
  | .output => true
  | .format => true
  | _ => false

/-- Options that are seen to before all others. -/
def isEager : Opt → Bool
  | .version => true
  | .help => true
  | _ => false

end Opt

/-- Why words do not fit. -/
inductive WordFault where
  /-- No such option; the names that may have been meant. -/
  | noSuchOption (name : LooseText) (meant : List String)
  /-- The value of an option is missing. -/
  | needsValue (name : LooseText)
  /-- A value for an option that takes none. -/
  | takesNoValue (name : LooseText)
  deriving Repr, DecidableEq

/-- Words that were read: the options in order, and the other words. -/
structure Words where
  options : List (Opt × LooseText) := []
  others : List LooseText := []

namespace Words

/-- The words with one more option. -/
def withOption (w : Words) (opt : Opt) (value : LooseText) : Words :=
  { w with options := w.options ++ [(opt, value)] }

/-- The value of an option: the last one given. -/
def value? (w : Words) (opt : Opt) : Option LooseText :=
  (w.options.reverse.find? (·.1 = opt)).map (·.2)

/-- Whether an option was given. -/
def has (w : Words) (opt : Opt) : Bool := w.options.any (·.1 = opt)

end Words

/-! ## §2. One word. -/

/-- Whether a word starts with a dash, and goes on. -/
def isOption (word : LooseText) : Bool :=
  match word.codes with
  | .char '-' :: _ :: _ => true
  | _ => false

/-- Whether a word starts with two dashes. -/
def isLong (word : LooseText) : Bool :=
  match word.codes with
  | .char '-' :: .char '-' :: _ => true
  | _ => false

/-- A word with a value attached, cut at its first equals sign. -/
def cutValue (word : LooseText) : LooseText × Option LooseText :=
  let cs := word.codes
  let name := LooseText.ofCodes (cs.takeWhile (· != .char '='))
  match cs.dropWhile (· != .char '=') with
  | [] => (name, none)
  | _ :: value => (name, some (LooseText.ofCodes value))

/-- An option by its long name, with the words after it. -/
def readLong (opt : Opt) (name : LooseText) (value : Option LooseText) (w : Words)
    (rest : List LooseText) : Except WordFault (Words × List LooseText) :=
  if opt.takesValue then
    match value, rest with
    | some v, _ => .ok (w.withOption opt v, rest)
    | none, v :: rest => .ok (w.withOption opt v, rest)
    | none, [] => .error (.needsValue name)
  else
    match value with
    | some _ => .error (.takesNoValue name)
    | none => .ok (w.withOption opt "", rest)

/-- Options by their letters, with the words after them. -/
def readLetters (known : List Opt) (w : Words) (rest : List LooseText) :
    List Code → Except WordFault (Words × List LooseText)
  | [] => .ok (w, rest)
  | c :: cs =>
      let name := LooseText.ofCodes [.char '-', c]
      match known.find? (fun opt => opt.letter?.map Code.char == some c) with
      | none => .error (.noSuchOption name [])
      | some opt =>
          if opt.takesValue then
            if cs.isEmpty then
              match rest with
              | v :: rest => .ok (w.withOption opt v, rest)
              | [] => .error (.needsValue name)
            else .ok (w.withOption opt (LooseText.ofCodes cs), rest)
          else readLetters known (w.withOption opt "") rest cs

/-- A word that starts with a dash, with the words after it. -/
def readOption (known : List Opt) (w : Words) (word : LooseText) (rest : List LooseText) :
    Except WordFault (Words × List LooseText) :=
  let (name, value) := cutValue word
  match known.find? (fun opt => LooseText.ofString opt.long == name) with
  | some opt => readLong opt name value w rest
  | none =>
      if isLong word then
        .error (.noSuchOption name (meantBy name (known.map Opt.long)))
      else readLetters known w rest (word.codes.drop 1)

/-! ## §3. All words. -/

/-- Reads words.  Where options may not follow other words, the first other
word ends them.  Each turn uses up a word, of which there are at most `fuel`. -/
def readWords (known : List Opt) (mixed : Bool) :
    Nat → Words → List LooseText → Except WordFault Words
  | _, w, [] => .ok w
  | 0, w, _ :: _ => .ok w
  | fuel + 1, w, word :: rest =>
      if word == LooseText.ofString "--" then .ok { w with others := w.others ++ rest }
      else if isOption word then
        match readOption known w word rest with
        | .error e => .error e
        | .ok (w, rest) => readWords known mixed fuel w rest
      else if mixed then readWords known mixed fuel { w with others := w.others ++ [word] } rest
      else .ok { w with others := w.others ++ word :: rest }

end AnalysisDiagram.Command
