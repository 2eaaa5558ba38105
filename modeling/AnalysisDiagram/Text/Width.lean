/-
  AnalysisDiagram.Text.Width
  ──────────────────────────
  The room that text takes on a terminal, and tabs.

  A zero-width joiner swallows the character after it, and U+FE0F adds a cell
  to a character that is narrow but has a wide emoji form.  A tab becomes at
  least one blank, and as many as it takes to the next column that is a
  multiple of eight.
-/
import AnalysisDiagram.Text.Blank
import AnalysisDiagram.Text.Loose
import AnalysisDiagram.Text.WidthTable

namespace AnalysisDiagram.Text

/-! ## §1. Cells. -/

/-- The cells that a character takes by itself. -/
def charWidth (c : Char) : Nat :=
  if memberOf zeroWidthBounds c.toNat then 0
  else if memberOf wideBounds c.toNat then 2
  else 1

/-- The cells that a text takes, after a character that U+FE0F may widen. -/
def widthFrom (last : Option Char) : List Char → Nat
  | [] => 0
  | c :: rest =>
      if c.toNat == 0x200D then
        match rest with
        | [] => 0
        | _ :: rest => widthFrom last rest
      else if c.toNat == 0xFE0F then
        let widened := match last with
          | some c => memberOf widenedBounds c.toNat
          | none => false
        (if widened then 1 else 0) + widthFrom none rest
      else
        let cells := charWidth c
        cells + widthFrom (if cells == 0 then last else some c) rest

/-- The cells that a text takes. -/
def width (cs : List Char) : Nat := widthFrom none cs

/-! ## §2. Tabs. -/

/-- The columns between two stops for tabs. -/
def tabSize : Nat := 8

/-- A line with blanks for its tabs, from a column on and after the codes read
since the last stop (last one first). -/
def untabFrom (column : Nat) (done : List Code) : List Code → List Code
  | [] => done.reverse
  | c :: rest =>
      if c == .char '\t' then
        let part := (.char ' ' :: done).reverse
        let reached := column + width (part.map Code.face)
        let missing := (tabSize - reached % tabSize) % tabSize
        part ++ List.replicate missing (.char ' ') ++ untabFrom (reached + missing) [] rest
      else if c == .char '\n' then done.reverse ++ c :: untabFrom 0 [] rest
      else untabFrom column (c :: done) rest

/-- A text with blanks for its tabs, line by line. -/
def untab (cs : List Code) : List Code := untabFrom 0 [] cs

end AnalysisDiagram.Text
