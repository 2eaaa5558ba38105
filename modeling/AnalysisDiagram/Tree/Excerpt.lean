/-
  AnalysisDiagram.Tree.Excerpt
  ────────────────────────────
  The text of a node, on one line.

  The text is that of the tokens below the node.  Tokens that touched in the
  source stay together; anything else that stood between two of them, blanks
  or a comment, becomes one space.  A literal counts as one token, so that its
  inside is kept letter by letter.

      Lexicon.leaves   — the tokens, by a walk with a stack of its own
      Lexicon.tokens   — the same list by recursion on the tree
      Lexicon.excerpt  — the text
-/
import AnalysisDiagram.Text.Utf8
import AnalysisDiagram.Tree.Basic

namespace AnalysisDiagram

/-- The bytes of a source file. -/
abbrev Source := Array UInt8

/-- The bytes from `start` up to `stop`; what lies beyond the end is cut off. -/
def Source.slice (source : Source) (start stop : Nat) : List UInt8 :=
  (source.extract start stop).toList

/-- The text of a node's own span. -/
def Node.spanText (source : Source) (n : Node) : String :=
  Text.decodeLossy (source.slice n.start n.stop)

/-- What a language's grammar calls its comments and its literals. -/
structure Lexicon where
  /-- Kinds of comments. -/
  comments : List String
  /-- Kinds that are kept as one token whatever they are made of. -/
  atomic : List String
  deriving Repr

namespace Lexicon

/-- Whether a node is a comment. -/
def isComment (lex : Lexicon) (n : Node) : Bool := lex.comments.contains n.kind

/-- Whether a node is a token: it has no children, or it is a literal. -/
def isToken (lex : Lexicon) (n : Node) : Bool :=
  n.children.isEmpty || lex.atomic.contains n.kind

/-- The token itself, unless it is empty. -/
def emit (n : Node) : List Node := if n.start < n.stop then [n] else []

/-! ## §1. The tokens below a node. -/

/-- The tokens below the nodes on a stack, top first. -/
def walk (lex : Lexicon) : List Node → List Node
  | [] => []
  | n :: stack =>
      if lex.isComment n then walk lex stack
      else if lex.isToken n then emit n ++ walk lex stack
      else walk lex (n.children ++ stack)
termination_by stack => Node.sizes stack
decreasing_by
  all_goals
    have := Node.size_pos n
    have := Node.size_eq n
    simp only [Node.sizes, Node.sizes_append]
    omega

/-- The tokens below a node. -/
def leaves (lex : Lexicon) (n : Node) : List Node := walk lex [n]

mutual

/-- The tokens below a node, by recursion on the tree. -/
def tokens (lex : Lexicon) : Node → List Node
  | .mk info children =>
      if lex.comments.contains info.kind then []
      else if children.isEmpty || lex.atomic.contains info.kind then emit (.mk info children)
      else tokenLists lex children

/-- The tokens below several nodes. -/
def tokenLists (lex : Lexicon) : List Node → List Node
  | [] => []
  | n :: rest => tokens lex n ++ tokenLists lex rest

end

/-! ## §2. The text. -/

/-- The texts of tokens, with a space before each that did not touch the one
before it. -/
def pieces (source : Source) : Option Nat → List Node → List String
  | _, [] => []
  | before, n :: rest =>
      let text := n.spanText source
      let more := pieces source (some n.stop) rest
      match before with
      | some stop => if stop < n.start then " " :: text :: more else text :: more
      | none => text :: more

/-- The text of a node, on one line. -/
def excerpt (lex : Lexicon) (source : Source) (n : Node) : String :=
  String.join (pieces source none (lex.leaves n))

end Lexicon

/-! ## §3. Member access. -/

/-- `a . b` becomes `a.b`, from left to right. -/
def tightenChars : List Char → List Char
  | ' ' :: '.' :: ' ' :: rest => '.' :: tightenChars rest
  | c :: rest => c :: tightenChars rest
  | [] => []

/-- A text with the spaces around a dot taken out where both are there. -/
def tightenMembers (s : String) : String :=
  String.ofList (tightenChars s.toList)

end AnalysisDiagram
