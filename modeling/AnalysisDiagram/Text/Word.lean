/-
  AnalysisDiagram.Text.Word
  ─────────────────────────
  Words of any script: which characters they are made of, how a text falls
  into words, and what decimal digits are worth.
-/
import AnalysisDiagram.Text.Blank
import AnalysisDiagram.Text.Loose
import AnalysisDiagram.Text.WordTable

namespace AnalysisDiagram.Text

/-- A letter or number of any script, or the low line. -/
def isWordChar (c : Char) : Bool := memberOf wordBounds c.toNat

/-- The words of a text between blanks, after the codes of a word that has begun
(last one first). -/
def wordsFrom (begun : List Code) : List Code → List LooseText
  | [] => if begun.isEmpty then [] else [LooseText.ofCodes begun.reverse]
  | c :: rest =>
      if isBlank c.face then
        if begun.isEmpty then wordsFrom [] rest
        else LooseText.ofCodes begun.reverse :: wordsFrom [] rest
      else wordsFrom (c :: begun) rest

/-- The words of a text between blanks. -/
def blankWords (t : LooseText) : List LooseText := wordsFrom [] t.codes

/-- A text without the blanks at its two ends. -/
def trimLoose (t : LooseText) : LooseText :=
  LooseText.ofCodes (trimBoth (fun c => isBlank c.face) t.codes)

/-- The text after a word, if it starts with that word. -/
def afterWord? (word : List Char) (cs : List Char) : Option (List Char) :=
  if word.isPrefixOf cs then some (cs.drop word.length) else none

/-- The worth of a decimal digit of any script. -/
def digitWorth? (c : Char) : Option Nat :=
  (digitZeros.find? fun first => first ≤ c.toNat && c.toNat < first + 10).map (c.toNat - ·)

/-- The number that decimal digits of any script stand for. -/
def worth? (cs : List Char) : Option Nat :=
  if cs.isEmpty then none
  else (cs.mapM digitWorth?).map fun digits => digits.foldl (fun n d => n * 10 + d) 0

end AnalysisDiagram.Text
