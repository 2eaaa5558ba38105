/-
  AnalysisDiagram.Text.Blank
  ──────────────────────────
  Sets of codes, white space, taking it off the two ends of a text, and line
  ends.

  Two sets are in use.  `isBlank` is the set that trimming of source text
  goes by; it holds the four information separators U+001C to U+001F.
  `isWhiteSpace` is the Unicode property White_Space, which does not; the
  reader of whole numbers in settings goes by it.
-/

namespace AnalysisDiagram.Text

/-! ## §1. Sets of codes. -/

/-- Membership of code `n` in a set given by the sorted points where membership
changes: an odd number of them lie at or below a member. -/
def memberOf (bounds : List Nat) (n : Nat) : Bool :=
  bounds.countP (fun b => decide (b ≤ n)) % 2 == 1

/-- White space from U+0080 on, on which the two sets agree. -/
def wideBlankBounds : List Nat :=
  [0x85, 0x86, 0xA0, 0xA1, 0x1680, 0x1681, 0x2000, 0x200B, 0x2028, 0x202A, 0x202F, 0x2030,
   0x205F, 0x2060, 0x3000, 0x3001]

/-- The Unicode property White_Space. -/
def isWhiteSpace (c : Char) : Bool :=
  c == ' ' || (9 ≤ c.toNat && c.toNat ≤ 13) || memberOf wideBlankBounds c.toNat

/-- White space as trimming of source text knows it. -/
def isBlank (c : Char) : Bool :=
  isWhiteSpace c || (0x1C ≤ c.toNat && c.toNat ≤ 0x1F)

/-! ## §2. Trimming. -/

/-- `cs` without the longest run of `p` at its end. -/
def dropRight {α : Type} (p : α → Bool) (cs : List α) : List α :=
  (cs.reverse.dropWhile p).reverse

/-- `cs` without the longest runs of `p` at its two ends. -/
def trimBoth {α : Type} (p : α → Bool) (cs : List α) : List α :=
  dropRight p (cs.dropWhile p)

/-- A text without the blanks at its two ends. -/
def trimBlank (s : String) : String :=
  String.ofList (trimBoth isBlank s.toList)

/-- A text without the characters `c` at its right end. -/
def trimRight (c : Char) (s : String) : String :=
  String.ofList (dropRight (· == c) s.toList)

/-! ## §3. Lines. -/

/-- Line ends of all sorts become line feeds. -/
def unifyLines : List Char → List Char
  | '\r' :: '\n' :: rest => '\n' :: unifyLines rest
  | '\r' :: rest => '\n' :: unifyLines rest
  | c :: rest => c :: unifyLines rest
  | [] => []

end AnalysisDiagram.Text
