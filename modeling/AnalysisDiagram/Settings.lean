/-
  AnalysisDiagram.Settings
  ────────────────────────
  Settings, and reading them.

  There are three: the level of the log, the language of sources that name
  none, and the indent of payloads.  A value given directly beats one from the
  environment, where a name carries the prefix `PAD_`; the case of names does
  not matter, and unknown names are passed over.  All problems are reported,
  one for each setting at most.

  The indent may be given as text.  Apart from plain digits there is some
  freedom: white space around them, a plus sign, zeros in front, single low
  lines inside, and a point with zeros at the end.
-/
import AnalysisDiagram.Json.Reader
import AnalysisDiagram.Journal.Record
import AnalysisDiagram.Text.Blank
import AnalysisDiagram.Text.Lowercase
import AnalysisDiagram.Text.Utf8

namespace AnalysisDiagram

open AnalysisDiagram.Journal
open AnalysisDiagram.Number

/-! ## §1. The settings. -/

/-- The languages that can be the default. -/
inductive HomeLanguage where
  | rust
  | javaScript
  deriving Repr, DecidableEq

/-- The name of a default language. -/
def HomeLanguage.name : HomeLanguage → String
  | .rust => "rust"
  | .javaScript => "javascript"

/-- The settings of the compiler. -/
structure Settings where
  /-- The level of every logger. -/
  logLevel : Severity := .warning
  /-- The language of sources that name none. -/
  defaultLanguage : HomeLanguage := .rust
  /-- The indent of payloads; compact if there is none. -/
  jsonIndent : Option Nat := none
  deriving Repr, DecidableEq

/-! ## §2. Problems. -/

/-- What may be wrong with a setting. -/
inductive SettingDefect where
  /-- A text was expected. -/
  | notText
  /-- A text that has no UTF-8 form, or bytes that are not UTF-8. -/
  | notUnicode
  /-- A level that does not exist. -/
  | unknownLevel (name : LooseText)
  /-- A language that cannot be the default. -/
  | notLanguage
  /-- A text that is no whole number. -/
  | unreadable
  /-- A number with a fraction. -/
  | fractional
  /-- A number with too many digits, or too great to be taken from its
  floating-point form. -/
  | tooGreat
  /-- A number that is not finite. -/
  | notFinite
  /-- No number at all. -/
  | notNumber
  /-- A number below zero. -/
  | negative
  deriving Repr, DecidableEq

/-- The code of a defect. -/
def SettingDefect.code : SettingDefect → String
  | .notText => "string_type"
  | .notUnicode => "string_unicode"
  | .unknownLevel _ => "value_error"
  | .notLanguage => "literal_error"
  | .unreadable => "int_parsing"
  | .fractional => "int_from_float"
  | .tooGreat => "int_parsing_size"
  | .notFinite => "finite_number"
  | .notNumber => "int_type"
  | .negative => "greater_than_equal"

/-- A defect in words. -/
def SettingDefect.message : SettingDefect → String
  | .notText => "Input should be a valid string"
  | .notUnicode =>
      "Input should be a valid string, unable to parse raw data as a unicode string"
  | .unknownLevel name => "Value error, unknown log level " ++ Text.quotedLoose name
  | .notLanguage => "Input should be 'rust' or 'javascript'"
  | .unreadable => "Input should be a valid integer, unable to parse string as an integer"
  | .fractional => "Input should be a valid integer, got a number with a fractional part"
  | .tooGreat => "Unable to parse input string as an integer, exceeded maximum size"
  | .notFinite => "Input should be a finite number"
  | .notNumber => "Input should be a valid integer"
  | .negative => "Input should be greater than or equal to 0"

/-- A setting by its name, and what is wrong with it. -/
structure SettingProblem where
  setting : String
  defect : SettingDefect
  deriving Repr, DecidableEq

namespace Settings

/-! ## §3. Reading one setting. -/

/-- The log level of a name, whatever its case. -/
def levelNamed (name : String) : Except SettingDefect Severity :=
  match Severity.all.find? (·.name == Text.capitals name) with
  | some severity => .ok severity
  | none => .error (.unknownLevel name)

/-- The log level. -/
def readLogLevel : Value → Except SettingDefect Severity
  | .text s => levelNamed s
  | .loose t => .error (.unknownLevel t)
  | .bytes bs =>
      match Text.decodeStrict? bs with
      | some s => levelNamed s
      | none => .error .notUnicode
  | _ => .error .notText

/-- The default language. -/
def readLanguage : Value → Except SettingDefect HomeLanguage
  | .text "rust" => .ok .rust
  | .text "javascript" => .ok .javaScript
  | .loose _ => .error .notUnicode
  | _ => .error .notLanguage

/-- A whole number in plain digits, with or without a minus sign; only zero
itself begins with a zero. -/
def plainInt (cs : List Char) : Except SettingDefect Int :=
  let (negative, rest) := match cs with
    | '-' :: rest => (true, rest)
    | _ => (false, cs)
  let digits := rest.takeWhile Char.isDigit
  if digits.head? == some '0' then if rest == ['0'] then .ok 0 else .error .unreadable
  else if Number.longestWhole < digits.length + (if negative then 1 else 0) then .error .tooGreat
  else if digits.isEmpty || digits.length < rest.length then .error .unreadable
  else
    let n : Int := Json.natOf digits
    .ok (if negative then -n else n)

/-- The text after zeros in front, after one zero has been seen.  Low lines go
with the zeros.  Before a point the last of these characters stays, and so it
does at the end of the text; anything else but a digit or a minus sign is out
of place. -/
def afterZeros? (last : Char) : List Char → Option (List Char)
  | [] => some [last]
  | c :: rest =>
      if c == '0' || c == '_' then afterZeros? c rest
      else if c.isDigit || c == '-' then some (c :: rest)
      else if c == '.' then some (last :: c :: rest)
      else none

/-- A text without zeros in front, or behind a minus sign. -/
def withoutZeros? : List Char → Option (List Char)
  | '-' :: rest => (withoutZeros? rest).map ('-' :: ·)
  | '0' :: rest => afterZeros? '0' rest
  | c :: rest => if c.isDigit then some (c :: rest) else none
  | [] => none

/-- A text without a point and zeros at its end. -/
def withoutPoint (cs : List Char) : List Char :=
  match cs.dropWhile (· != '.') with
  | _ :: zeros =>
      if !zeros.isEmpty && zeros.all (· == '0') then cs.takeWhile (· != '.') else cs
  | [] => cs

/-- Whether two low lines stand side by side. -/
def hasDoubleLine : List Char → Bool
  | '_' :: '_' :: _ => true
  | _ :: rest => hasDoubleLine rest
  | [] => false

/-- A text without low lines, if there are only single ones inside it. -/
def withoutLines (cs : List Char) : List Char :=
  if cs.head? == some '_' || cs.getLast? == some '_' || hasDoubleLine cs then cs
  else cs.filter (· != '_')

/-- A text with the freedom of its writer taken out. -/
def tidied? (cs : List Char) : Option (List Char) :=
  let start := match Text.trimBoth Text.isWhiteSpace cs with
    | '+' :: '-' :: _ => none
    | '+' :: rest => withoutZeros? rest
    | trimmed => withoutZeros? trimmed
  start.map fun cs => withoutLines (withoutPoint cs)

/-- A whole number from a text. -/
def readInt (s : String) : Except SettingDefect Int :=
  match plainInt s.toList with
  | .ok i => .ok i
  | .error .tooGreat => .error .tooGreat
  | .error _ =>
      match (tidied? s.toList).map plainInt with
      | some (.ok i) => .ok i
      | _ => .error .unreadable

/-- A floating-point number as a whole number. -/
def wholeOf (x : Binary64) : Except SettingDefect Int :=
  match x.truncate? with
  | none => .error .notFinite
  | some i =>
      if !x.isWhole then .error .fractional
      else if -0x8000000000000000 < i ∧ i < 0x8000000000000000 then .ok i
      else .error .tooGreat

/-- A whole number of any shape. -/
def readNumber : Value → Except SettingDefect Int
  | .int i => .ok i
  | .bool b => .ok (if b then 1 else 0)
  | .float x => wholeOf x
  | .text s => readInt s
  | .loose _ => .error .notUnicode
  | .bytes bs =>
      match Text.decodeStrict? bs with
      | some s => readInt s
      | none => .error .unreadable
  | _ => .error .notNumber

/-- The indent of payloads. -/
def readIndent : Value → Except SettingDefect (Option Nat)
  | .null => .ok none
  | v =>
      match readNumber v with
      | .ok i => if i < 0 then .error .negative else .ok (some i.toNat)
      | .error defect => .error defect

/-! ## §4. Reading all settings. -/

/-- The value that was given for a setting: directly, where the first of
several spellings counts, or in the environment, where the last one does. -/
def given? (direct environment : List (String × Value)) (setting : String) : Option Value :=
  let isNamed := fun (name : String) (entry : String × Value) => Text.lowercase entry.1 == name
  ((direct.find? (isNamed setting))
    <|> (environment.reverse.find? (isNamed ("pad_" ++ setting)))).map (·.2)

/-- One setting: what was given, or the default. -/
def readOne {α : Type} (direct environment : List (String × Value)) (setting : String)
    (default : α) (read : Value → Except SettingDefect α) : Except SettingProblem α :=
  match given? direct environment setting with
  | none => .ok default
  | some v => (read v).mapError fun defect => ⟨setting, defect⟩

/-- The problem that stands in the way of a result. -/
def problem? {α : Type} : Except SettingProblem α → Option SettingProblem
  | .ok _ => none
  | .error p => some p

/-- The settings, from values given directly and from the environment. -/
def read (direct environment : List (String × Value)) :
    Except (List SettingProblem) Settings :=
  let defaults : Settings := {}
  let level := readOne direct environment "log_level" defaults.logLevel readLogLevel
  let language :=
    readOne direct environment "default_language" defaults.defaultLanguage readLanguage
  let indent := readOne direct environment "json_indent" defaults.jsonIndent readIndent
  match level, language, indent with
  | .ok logLevel, .ok defaultLanguage, .ok jsonIndent =>
      .ok { logLevel, defaultLanguage, jsonIndent }
  | _, _, _ =>
      .error ((problem? level).toList ++ (problem? language).toList ++ (problem? indent).toList)

end Settings

end AnalysisDiagram
