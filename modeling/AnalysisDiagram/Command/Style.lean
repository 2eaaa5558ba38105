/-
  AnalysisDiagram.Command.Style
  ─────────────────────────────
  Styles of messages.

  A style is written in words: traits (`bold`, or `b` for short), `not` and a
  trait, a colour, `on` and a colour, `link` and an address.  What is said last
  counts.  Two ways to write one style have the same normal form:

      Style.normal "b red"  =  Style.normal "red bold"  =  "bold red"

  Words that are no style are their own normal form, trimmed and in small
  letters.
-/
import AnalysisDiagram.Command.Palette

namespace AnalysisDiagram.Command

/-! ## §1. Styles. -/

/-- The traits, in the order of the normal form, each with its short name. -/
def traits : List (String × Option String) :=
  [("bold", some "b"), ("dim", some "d"), ("italic", some "i"), ("underline", some "u"),
   ("blink", none), ("blink2", none), ("reverse", some "r"), ("conceal", some "c"),
   ("strike", some "s"), ("underline2", some "uu"), ("frame", none), ("encircle", none),
   ("overline", some "o")]

/-- The full name of a trait. -/
def trait? (word : String) : Option String :=
  (traits.find? fun (name, short) => name == word || short == some word).map (·.1)

/-- How text looks. -/
structure Style where
  /-- The traits that were switched on or off, the last one first. -/
  switched : List (String × Bool) := []
  colour : Option String := none
  background : Option String := none
  link : Option LooseText := none
  deriving Repr, DecidableEq

namespace Style

/-- The style with a trait switched on or off. -/
def switch (s : Style) (trait : String) (on : Bool) : Style :=
  { s with switched := (trait, on) :: s.switched }

/-! ## §2. Reading. -/

/-- The style that words add to a style.  No word of a style but an address has
a lone code in it, nor the sign that stands for one. -/
def readFrom (s : Style) : List LooseText → Except StyleFault Style
  | [] => .ok s
  | word :: rest =>
      let small := Text.lowercase word.string
      if small == "on" then
        match rest with
        | [] => .error .malformed
        | word :: rest =>
            match Command.colour word.string with
            | .error fault => .error fault
            | .ok name => readFrom { s with background := some name } rest
      else if small == "not" then
        match rest with
        | [] => .error .malformed
        | word :: rest =>
            match trait? word.string with
            | none => .error .malformed
            | some trait => readFrom (s.switch trait false) rest
      else if small == "link" then
        match rest with
        | [] => .error .malformed
        | address :: rest => readFrom { s with link := some address } rest
      else
        match trait? small with
        | some trait => readFrom (s.switch trait true) rest
        | none =>
            match Command.colour small with
            | .error fault => .error fault
            | .ok name => readFrom { s with colour := some name } rest

/-- The style that a text describes; `none` is the one that changes nothing. -/
def read (text : LooseText) : Except StyleFault Style :=
  if Text.trimLoose text == LooseText.ofString "none" then .ok {}
  else readFrom {} (Text.blankWords text)

/-! ## §3. The normal form. -/

/-- A style in words. -/
def text (s : Style) : LooseText :=
  let switches := traits.filterMap fun (name, _) =>
    (s.switched.find? (·.1 == name)).map fun (_, on) => if on then name else "not " ++ name
  let looks := switches ++ s.colour.toList ++ (s.background.map ("on " ++ ·)).toList
  let address := s.link.map fun link : LooseText => LooseText.ofString "link " ++ link
  let words := looks.map LooseText.ofString ++ address.toList
  if words.isEmpty then "none" else LooseText.intercalate " " words

/-- The normal form of a description.  A number that lacks its digits has none. -/
def normal (description : LooseText) : Except StyleFault LooseText :=
  match read description with
  | .ok s => .ok s.text
  | .error .malformed => .ok ((Text.trimLoose description).mapRuns Text.lowercase)
  | .error .noNumber => .error .noNumber

end Style

end AnalysisDiagram.Command
