/-
  AnalysisDiagram.Text.Emoji
  ──────────────────────────
  Emoji by name: `:name:` stands for the emoji of that name.

  The name holds neither blanks nor colons, and its case does not matter.  It
  may end in `-text` or `-emoji`, which asks for that form of the emoji.  What
  is no name of an emoji stays as it is, colons and all.
-/
import AnalysisDiagram.Text.EmojiTable
import AnalysisDiagram.Text.Lowercase
import AnalysisDiagram.Text.Quoted
import AnalysisDiagram.Text.Word

namespace AnalysisDiagram.Text

/-- The number that hexadecimal digits stand for. -/
def hexWorth (cs : List Char) : Nat :=
  cs.foldl (fun n c => n * 16 + (hexDigit? c).getD 0) 0

/-- The names of emoji, each with the codes of its characters. -/
def emojiNames : List (String × String) :=
  (emojiLines.flatMap (·.splitOn " ")).filterMap fun entry =>
    match entry.splitOn "=" with
    | [name, codes] => some (name, codes)
    | _ => none

/-- The emoji of a name. -/
def emoji? (name : String) : Option (List Char) :=
  (emojiNames.lookup name).map fun codes =>
    (codes.splitOn "-").map fun code => Char.ofNat (hexWorth code.toList)

/-- The forms that the end of a name may ask for. -/
def emojiForms : List (String × Char) :=
  [("-emoji", Char.ofNat 0xFE0F), ("-text", Char.ofNat 0xFE0E)]

/-- A name cut into the name proper and the form that it asks for. -/
def cutForm (name : List Char) : List Char × List Char :=
  match emojiForms.find? (fun (ending, _) => ending.toList.isSuffixOf name) with
  | some (ending, form) => (name.take (name.length - ending.length), [form])
  | none => (name, [])

/-- The sign around the name of an emoji. -/
def colonSign : Code := .char ':'

/-- What stands for the text between two colons. -/
def glyph (inside : List Code) : List Code :=
  let (name, form) := cutForm (inside.map Code.face)
  match emoji? (lowercase (String.ofList name)) with
  | some cs => (cs ++ form).map Code.char
  | none => colonSign :: (inside ++ [colonSign])

/-- A text with its emoji, after a colon and the codes since then (last one
first), if a name may have begun. -/
def emojifyFrom : Option (List Code) → List Code → List Code
  | none, [] => []
  | some begun, [] => colonSign :: begun.reverse
  | none, c :: rest =>
      if c == colonSign then emojifyFrom (some []) rest else c :: emojifyFrom none rest
  | some begun, c :: rest =>
      if c == colonSign then glyph begun.reverse ++ emojifyFrom none rest
      else if isBlank c.face then
        colonSign :: (begun.reverse ++ c :: emojifyFrom none rest)
      else emojifyFrom (some (c :: begun)) rest

/-- A text with its emoji. -/
def emojify (cs : List Code) : List Code := emojifyFrom none cs

end AnalysisDiagram.Text
