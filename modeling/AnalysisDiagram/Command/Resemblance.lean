/-
  AnalysisDiagram.Command.Resemblance
  ───────────────────────────────────
  How much two texts resemble each other, to guess what was meant by a word
  that does not exist.

  The longest run that the two share is matched first, then what lies to its
  left and to its right is treated in the same way.  The resemblance is the
  share of matched characters in both texts together; from six tenths on a
  name comes into question.
-/
import AnalysisDiagram.Text.Loose

namespace AnalysisDiagram.Command

/-! ## §1. Matching. -/

/-- The length of the common beginning of two texts. -/
def commonStart : List Code → List Code → Nat
  | a :: as, b :: bs => if a == b then commonStart as bs + 1 else 0
  | _, _ => 0

/-- Where the longest common run starts in both texts, and its length.  Of
several the first one in the first text is taken, then in the second. -/
def longestRun (xs ys : List Code) : Nat × Nat × Nat :=
  let places := (List.range xs.length).flatMap fun i =>
    (List.range ys.length).map fun j => (i, j, commonStart (xs.drop i) (ys.drop j))
  places.foldl (fun best place => if best.2.2 < place.2.2 then place else best) (0, 0, 0)

/-- The number of characters that are matched.  Each turn matches at least
one, so that the length of a text is fuel enough. -/
def matched : Nat → List Code → List Code → Nat
  | 0, _, _ => 0
  | fuel + 1, xs, ys =>
      let (i, j, n) := longestRun xs ys
      if n == 0 then 0
      else
        n + matched fuel (xs.take i) (ys.take j)
          + matched fuel (xs.drop (i + n)) (ys.drop (j + n))

/-! ## §2. Names that come into question. -/

/-- A name with the matched characters and the length of both texts. -/
structure Likeness where
  name : String
  hits : Nat
  total : Nat

namespace Likeness

/-- The likeness of a name to a word.  When the lengths alone rule it out,
nothing is matched. -/
def of (word : LooseText) (name : String) : Likeness :=
  let xs := (LooseText.ofString name).codes
  let ys := word.codes
  let total := xs.length + ys.length
  let hits := if 6 * total ≤ 20 * min xs.length ys.length then matched xs.length xs ys else 0
  { name, hits, total }

/-- Whether a name comes into question. -/
def isClose (l : Likeness) : Bool := 6 * l.total ≤ 20 * l.hits

/-- Whether one name is at least as likely as another; of equally likely ones
the later in the alphabet is put first. -/
def atLeast (a b : Likeness) : Bool :=
  b.hits * a.total < a.hits * b.total
    || (b.hits * a.total == a.hits * b.total && decide (b.name ≤ a.name))

end Likeness

/-- The names that may have been meant by a word: the three likeliest at most,
in alphabetical order. -/
def meantBy (word : LooseText) (names : List String) : List String :=
  let likely := (names.map (Likeness.of word)).filter Likeness.isClose
  let best := ((likely.mergeSort Likeness.atLeast).take 3).map Likeness.name
  best.mergeSort fun a b => decide (a ≤ b)

end AnalysisDiagram.Command
