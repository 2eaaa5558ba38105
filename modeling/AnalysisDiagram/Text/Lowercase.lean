/-
  AnalysisDiagram.Text.Lowercase
  ──────────────────────────────
  Letter case of whole texts.

  `lowercase` is the full mapping of Unicode: U+0130 becomes two characters,
  and a capital sigma takes its final form at the end of a word, that is after
  a cased letter and not before one, characters of no case (apostrophes,
  accents, …) passed over.

  `capitals` is the part of the opposite mapping that ends in plain capital
  letters: it suffices to compare a text with a name in such letters.
-/
import AnalysisDiagram.Text.Blank
import AnalysisDiagram.Text.CaseTable

namespace AnalysisDiagram.Text

/-! ## §1. Small letters. -/

/-- The small letter of a character, context and U+0130 apart. -/
def lowerCode (c : Char) : Char :=
  let n := c.toNat
  match lowerRuns.find? (fun (first, last, step, _) =>
      first ≤ n && n ≤ last && (n - first) % step == 0) with
  | some (_, _, _, shift) => Char.ofNat (n + shift).toNat
  | none => c

/-- Whether the first character that is not passed over is a cased one. -/
def meetsCased : List Char → Bool
  | [] => false
  | c :: rest =>
      if memberOf ignorableBounds c.toNat then meetsCased rest
      else memberOf casedBounds c.toNat

/-- The small letters of one character between the text before it (nearest
first) and the text after it. -/
def lowerIn (before : List Char) (c : Char) (after : List Char) : List Char :=
  if c.toNat == 0x3A3 then
    [Char.ofNat (if meetsCased before && !meetsCased after then 0x3C2 else 0x3C3)]
  else if c.toNat == 0x130 then ['i', Char.ofNat 0x307]
  else [lowerCode c]

/-- Small letters throughout, from a position with `before` to its left. -/
def lowerFrom (before : List Char) : List Char → List Char
  | [] => []
  | c :: after => lowerIn before c after ++ lowerFrom (c :: before) after

/-- A text in small letters. -/
def lowercase (s : String) : String :=
  String.ofList (lowerFrom [] s.toList)

/-! ## §2. Capital letters. -/

/-- The capitals of a character when they are plain letters A to Z; any other
character stays. -/
def capitalsOf (c : Char) : List Char :=
  match c.toNat with
  | 0xDF => ['S', 'S']
  | 0x131 => ['I']
  | 0x17F => ['S']
  | 0xFB00 => ['F', 'F']
  | 0xFB01 => ['F', 'I']
  | 0xFB02 => ['F', 'L']
  | 0xFB03 => ['F', 'F', 'I']
  | 0xFB04 => ['F', 'F', 'L']
  | 0xFB05 => ['S', 'T']
  | 0xFB06 => ['S', 'T']
  | _ => [c.toUpper]

/-- A text with the letters that have plain capitals turned into them. -/
def capitals (s : String) : String :=
  String.ofList (s.toList.flatMap capitalsOf)

end AnalysisDiagram.Text
