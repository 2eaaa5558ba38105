/-
  AnalysisDiagram.Command.Literal
  ───────────────────────────────
  The arguments that a tag hands to its handler.

  They are literals: numbers, texts, bytes, `True`, `False`, `None` and `...`,
  tuples, sets and dictionaries of them, and sums of a real and an imaginary
  number.  Elements of a set and keys of a dictionary must be fixed, which
  sets and dictionaries are not.  Only whether a text is such a literal is
  decided here; its value is not needed.

      isLiteral    — one literal, or several with commas between them
      isArguments  — a name, a name with arguments, or such literals
-/
import AnalysisDiagram.Number.Decimal
import AnalysisDiagram.Text.Quoted
import AnalysisDiagram.Text.Word

namespace AnalysisDiagram.Command

/-! ## §1. Literals by their sort. -/

/-- What matters about a literal for the place where it stands. -/
inductive Literal where
  /-- A whole number without a sign. -/
  | whole (n : Nat)
  /-- A number with a point or an exponent, without a sign. -/
  | fractional
  /-- An imaginary number without a sign. -/
  | imaginary
  /-- A real number with a sign; its size if it is a whole one. -/
  | signed (size : Nat)
  /-- Any other literal that may be an element of a set. -/
  | fixed
  /-- A literal that may not. -/
  | loose
  deriving Repr, DecidableEq

namespace Literal

/-- Whether a literal may be an element of a set. -/
def isFixed : Literal → Bool
  | .loose => false
  | _ => true

/-- A literal after a sign. -/
def withSign? : Literal → Option Literal
  | .whole n => some (.signed n)
  | .fractional => some (.signed 0)
  | .imaginary => some .fixed
  | _ => none

/-- Whole numbers up to here have a floating-point form. -/
def greatest : Nat := Nat.pow 2 1024 - Nat.pow 2 970 - 1

/-- Whether a literal may have an imaginary number added to it. -/
def isAddend : Literal → Bool
  | .whole n => n ≤ greatest
  | .fractional => true
  | .signed n => n ≤ greatest
  | _ => false

/-- Several literals in a tuple. -/
def tuple (items : List Literal) : Literal := if items.all isFixed then .fixed else .loose

end Literal

/-! ## §2. Between tokens. -/

/-- The text from the next token on.  Inside brackets line ends count as
blanks.  A comment ends with its line, and a backslash at the end of a line
joins it to the next one. -/
def nextToken (nested comment : Bool) : List Char → List Char
  | [] => []
  | '\\' :: '\n' :: rest =>
      if comment then (if nested then nextToken nested false rest else '\n' :: rest)
      else nextToken nested false rest
  | c :: rest =>
      if c == '\n' then (if nested then nextToken nested false rest else c :: rest)
      else if comment || c == '#' then nextToken nested true rest
      else if c == ' ' || c == '\t' || c.toNat == 12 then nextToken nested false rest
      else c :: rest

/-- Whether a character may continue a name or a number. -/
def continuesName (c : Char) : Bool := c.isAlphanum || c == '_' || 128 ≤ c.toNat

/-! ## §3. Numbers. -/

/-- Digits after a first one, with single low lines between them, and the text
after them. -/
def moreDigits (isDigit : Char → Bool) : List Char → List Char × List Char
  | '_' :: c :: rest =>
      if isDigit c then
        let (digits, rest) := moreDigits isDigit rest
        (c :: digits, rest)
      else ([], '_' :: c :: rest)
  | c :: rest =>
      if isDigit c then
        let (digits, rest) := moreDigits isDigit rest
        (c :: digits, rest)
      else ([], c :: rest)
  | [] => ([], [])

/-- Digits with single low lines between them, and the text after them. -/
def digitRun (isDigit : Char → Bool) (cs : List Char) : List Char × List Char :=
  match cs with
  | '_' :: _ => ([], cs)
  | _ => moreDigits isDigit cs

/-- A whole number in decimal digits; only zero may begin with a zero. -/
def decimal? (digits : List Char) : Option Literal :=
  if Number.longestWhole < digits.length then none
  else if digits.head? == some '0' && digits.any (· != '0') then none
  else (Text.worth? digits).map Literal.whole

/-- A whole number in another base, after the letter that names the base. -/
def based? (base : Nat) (cs : List Char) : Option (Literal × List Char) :=
  let isDigit := fun c => match Text.hexDigit? c with
    | some n => decide (n < base)
    | none => false
  let start := match cs with
    | '_' :: rest => rest
    | _ => cs
  let (digits, rest) := digitRun isDigit start
  if digits.isEmpty then none
  else
    let n := digits.foldl (fun n c => n * base + (Text.hexDigit? c).getD 0) 0
    some (.whole n, rest)

/-- The exponent of a number, if there is one: the text after it. -/
def afterExponent? : List Char → Option (List Char)
  | mark :: rest =>
      if mark == 'e' || mark == 'E' then
        let digits := match rest with
          | '+' :: rest => rest
          | '-' :: rest => rest
          | _ => rest
        let (run, rest) := digitRun Char.isDigit digits
        if run.isEmpty then none else some rest
      else none
  | [] => none

/-- A number in decimal digits, and the text after it. -/
def plainNumber? (cs : List Char) : Option (Literal × List Char) :=
  let (whole, rest) := digitRun Char.isDigit cs
  let (hasPoint, fraction, rest) := match rest with
    | '.' :: rest =>
        let (digits, rest) := digitRun Char.isDigit rest
        (true, digits, rest)
    | _ => (false, [], rest)
  if whole.isEmpty && fraction.isEmpty then none
  else
    let (hasExponent, rest) := match afterExponent? rest with
      | some rest => (true, rest)
      | none => (false, rest)
    match rest with
    | 'j' :: rest => some (.imaginary, rest)
    | 'J' :: rest => some (.imaginary, rest)
    | _ =>
        if hasPoint || hasExponent then some (.fractional, rest)
        else (decimal? whole).map (·, rest)

/-- A number, and the text after it, which may not go on like a name. -/
def number? (cs : List Char) : Option (Literal × List Char) :=
  let found := match cs with
    | '0' :: c :: rest =>
        match c.toLower with
        | 'x' => based? 16 rest
        | 'o' => based? 8 rest
        | 'b' => based? 2 rest
        | _ => plainNumber? cs
    | _ => plainNumber? cs
  match found with
  | some (n, c :: rest) => if continuesName c then none else some (n, c :: rest)
  | other => other

/-! ## §4. Texts and bytes. -/

/-- The letters before a quote, and what they ask for. -/
structure TextForm where
  /-- Backslashes stand for themselves. -/
  raw : Bool
  /-- Bytes, and no text. -/
  bytes : Bool
  deriving Repr, DecidableEq

/-- The form that letters ask for. -/
def TextForm.ofLetters? (letters : List Char) : Option TextForm :=
  match letters.map Char.toLower with
  | [] => some ⟨false, false⟩
  | ['u'] => some ⟨false, false⟩
  | ['r'] => some ⟨true, false⟩
  | ['b'] => some ⟨false, true⟩
  | ['b', 'r'] => some ⟨true, true⟩
  | ['r', 'b'] => some ⟨true, true⟩
  | _ => none

/-- The number of hexadecimal digits that an escape asks for. -/
def TextForm.escapeDigits (form : TextForm) (c : Char) : Nat :=
  if form.raw then 0
  else if c == 'x' then 2
  else if c == 'u' && !form.bytes then 4
  else if c == 'U' && !form.bytes then 8
  else 0

/-- Whether escape digits stand for a character. -/
def areEscapeDigits (count : Nat) (digits : List Char) : Bool :=
  digits.length == count && digits.all (fun c => (Text.hexDigit? c).isSome)
    && decide (digits.foldl (fun n c => n * 16 + (Text.hexDigit? c).getD 0) 0 < 0x110000)

/-- Whether a character can stand after the `N` of an escape by name, in braces. -/
def isNamedEscape (cs : List Char) : Bool :=
  match cs with
  | '\x7b' :: rest =>
      let name := rest.takeWhile (· != '\x7d')
      !name.isEmpty && name.length < rest.length
        && name.all fun c => c.isAlphanum || c == ' ' || c == '-'
  | _ => false

/-- The text after the closing quote, after an opening one.  With `long` set
the quote is threefold and line ends may stand inside. -/
def afterText? (form : TextForm) (long : Bool) (quote : Char) : List Char → Option (List Char)
  | [] => none
  | '\\' :: c :: rest =>
      let count := form.escapeDigits c
      if form.bytes && 128 ≤ c.toNat then none
      else if !form.raw && !form.bytes && c == 'N' && !isNamedEscape rest then none
      else if areEscapeDigits count (rest.take count) then afterText? form long quote rest
      else none
  | c :: rest =>
      if c == quote then
        if long then
          match rest with
          | a :: b :: after =>
              if a == quote && b == quote then some after else afterText? form long quote rest
          | _ => none
        else some rest
      else if c == '\n' && !long then none
      else if form.bytes && 128 ≤ c.toNat then none
      else afterText? form long quote rest

/-- A text or bytes, and the text after it. -/
def text? (cs : List Char) : Option (TextForm × List Char) :=
  let isQuote := fun c => c == '"' || c == '\x27'
  let letters := cs.takeWhile Char.isAlpha
  match TextForm.ofLetters? letters, cs.dropWhile Char.isAlpha with
  | some form, quote :: rest =>
      if !isQuote quote then none
      else
        let found := match rest with
          | a :: b :: inside =>
              if a == quote && b == quote then afterText? form true quote inside
              else afterText? form false quote rest
          | _ => afterText? form false quote rest
        found.map (form, ·)
  | _, _ => none

/-- Texts that follow a text: they belong together and must be of one kind.
The fuel bounds their number. -/
def afterTexts? (nested : Bool) (form : TextForm) : Nat → List Char → Option (List Char)
  | 0, _ => none
  | fuel + 1, cs =>
      match text? (nextToken nested false cs) with
      | none => some cs
      | some (more, rest) =>
          if more.bytes == form.bytes then afterTexts? nested form fuel rest else none

/-! ## §5. Literals. -/

/-- Names that stand for a value. -/
def constants : List String := ["True", "False", "None"]

/-- A name, and the text after it. -/
def constant? (nested : Bool) (cs : List Char) : Option (Literal × List Char) :=
  let name := String.ofList (cs.takeWhile continuesName)
  let rest := cs.dropWhile continuesName
  if constants.contains name then some (.fixed, rest)
  else if name == "set" then
    match nextToken nested false rest with
    | '(' :: rest =>
        match nextToken true false rest with
        | ')' :: rest => some (.loose, rest)
        | _ => none
    | _ => none
  else none

/-- A literal without brackets, and the text after it. -/
def plain? (nested : Bool) (cs : List Char) : Option (Literal × List Char) :=
  match text? cs with
  | some (form, rest) => (afterTexts? nested form rest.length.succ rest).map (.fixed, ·)
  | none =>
      match Text.afterWord? "...".toList cs with
      | some rest => some (.fixed, rest)
      | none =>
          match cs with
          | c :: _ =>
              if c.isDigit || c == '.' then number? cs else constant? nested cs
          | [] => none

mutual

/-- A literal: a sum, or less.  The depth bounds the brackets that may still be
opened, the fuel the number of calls. -/
def sum? (nested : Bool) : Nat → Nat → List Char → Option (Literal × List Char)
  | 0, _, _ => none
  | fuel + 1, depth, cs =>
      match factor? nested fuel depth cs with
      | none => none
      | some (left, rest) =>
          match nextToken nested false rest with
          | sign :: more =>
              if sign == '+' || sign == '-' then
                match factor? nested fuel depth more with
                | some (.imaginary, rest) => if left.isAddend then some (.fixed, rest) else none
                | _ => none
              else some (left, rest)
          | [] => some (left, rest)
termination_by structural fuel => fuel

/-- A literal with or without a sign. -/
def factor? (nested : Bool) : Nat → Nat → List Char → Option (Literal × List Char)
  | 0, _, _ => none
  | fuel + 1, depth, cs =>
      match nextToken nested false cs with
      | '+' :: rest => signed? nested fuel depth rest
      | '-' :: rest => signed? nested fuel depth rest
      | '(' :: rest =>
          match depth with
          | 0 => none
          | depth + 1 => (items? ')' fuel depth [] rest).map fun (items, single, rest) =>
              match single, items with
              | true, [item] => (item, rest)
              | _, _ => (Literal.tuple items, rest)
      | '\x7b' :: rest =>
          match depth with
          | 0 => none
          | depth + 1 =>
              match nextToken true false rest with
              | '\x7d' :: rest => some (.loose, rest)
              | rest => members? fuel depth none rest
      | rest => plain? nested rest
termination_by structural fuel => fuel

/-- A literal after its sign. -/
def signed? (nested : Bool) : Nat → Nat → List Char → Option (Literal × List Char)
  | 0, _, _ => none
  | fuel + 1, depth, cs =>
      match factor? nested fuel depth cs with
      | some (item, rest) => item.withSign?.map (·, rest)
      | none => none
termination_by structural fuel => fuel

/-- The items up to a closing bracket, after those read so far (last one
first); whether there is one alone, without a comma; and the text after the
bracket. -/
def items? (close : Char) : Nat → Nat → List Literal → List Char →
    Option (List Literal × Bool × List Char)
  | 0, _, _, _ => none
  | fuel + 1, depth, done, cs =>
      match nextToken true false cs with
      | [] => none
      | c :: rest =>
          if c == close then some (done.reverse, false, rest)
          else
            match sum? true fuel depth (c :: rest) with
            | none => none
            | some (item, rest) =>
                match nextToken true false rest with
                | ',' :: rest => items? close fuel depth (item :: done) rest
                | d :: rest =>
                    if d == close then some ((item :: done).reverse, done.isEmpty, rest) else none
                | [] => none
termination_by structural fuel => fuel

/-- The members of a set or a dictionary up to the closing brace; which of the
two it is shows at the first member. -/
def members? : Nat → Nat → Option Bool → List Char → Option (Literal × List Char)
  | 0, _, _, _ => none
  | fuel + 1, depth, paired, cs =>
      match sum? true fuel depth cs with
      | none => none
      | some (key, rest) =>
          let after := nextToken true false rest
          let isPaired := after.head? == some ':'
          if !key.isFixed || paired == some (!isPaired) then none
          else
            let value := if isPaired then sum? true fuel depth after.tail else some (key, rest)
            match value with
            | none => none
            | some (_, rest) =>
                match nextToken true false rest with
                | '\x7d' :: rest => some (.loose, rest)
                | ',' :: rest =>
                    match nextToken true false rest with
                    | '\x7d' :: rest => some (.loose, rest)
                    | rest => members? fuel depth (some isPaired) rest
                | _ => none
termination_by structural fuel => fuel

end

/-- How deep brackets may nest. -/
def bracketDepth : Nat := 200

/-- The literals of a list without brackets, up to the end of the text. -/
def areLiterals (calls : Nat) : Nat → List Char → Bool
  | 0, _ => false
  | fuel + 1, cs =>
      match sum? false calls bracketDepth cs with
      | none => false
      | some (_, rest) =>
          match nextToken false false rest with
          | ',' :: rest =>
              (nextToken true false rest).isEmpty || areLiterals calls fuel rest
          | rest => (nextToken true false rest).isEmpty

/-- Whether a text is a literal, or several with commas between them. -/
def isLiteral (text : List Char) : Bool :=
  let cs := Text.unifyLines text
  let start := match cs.dropWhile fun c => c == ' ' || c == '\t' with
    | '#' :: rest => nextToken true true rest
    | cs => cs
  !cs.contains (Char.ofNat 0) && areLiterals (8 * cs.length + 8) cs.length.succ start

/-! ## §6. Arguments. -/

/-- Whether a text is what a handler may be given: the name of what it calls,
which may be missing, with or without arguments in parentheses; or literals. -/
def isArguments (cs : List Char) : Bool :=
  let isName := fun c => Text.isWordChar c || c == '.'
  match cs.dropWhile isName with
  | [] => true
  | '(' :: rest =>
      if rest.getLast? == some ')' && !rest.contains '\n' then isLiteral ('(' :: rest)
      else isLiteral cs
  | _ => isLiteral cs

end AnalysisDiagram.Command
