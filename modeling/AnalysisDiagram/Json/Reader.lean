/-
  AnalysisDiagram.Json.Reader
  ───────────────────────────
  Reading JSON text.

  The reader is strict: no comments, no trailing commas, no leading zeros, no
  raw control characters in strings, no lone surrogate escapes, and only the
  four blanks of the format between tokens.  It takes NaN and the two
  infinities as numbers, and refuses whole numbers of more than 4300 digits.
  Arrays and objects that hold something may nest only so deep; empty ones cost
  nothing.

      read? depth text  — the value, or nothing when the text is not JSON
-/
import AnalysisDiagram.Text.Word
import AnalysisDiagram.Value

namespace AnalysisDiagram.Json

open AnalysisDiagram.Number

/-! ## §1. Blanks and digits. -/

/-- The blanks between tokens. -/
def isGap (c : Char) : Bool :=
  c == ' ' || c == '\t' || c == '\n' || c == '\r'

/-- The text from the next token on. -/
def skipGap (cs : List Char) : List Char := cs.dropWhile isGap

/-- The number that decimal digits stand for. -/
def natOf (cs : List Char) : Nat :=
  cs.foldl (fun n c => n * 10 + (c.toNat - 48)) 0

/-- The code unit that four hexadecimal digits stand for. -/
def unit? (a b c d : Char) : Option Nat := do
  let a ← Text.hexDigit? a
  let b ← Text.hexDigit? b
  let c ← Text.hexDigit? c
  let d ← Text.hexDigit? d
  return ((a * 16 + b) * 16 + c) * 16 + d

/-! ## §2. Strings. -/

/-- What a one-letter escape stands for. -/
def letterEscape? (c : Char) : Option Char :=
  if c == '"' || c == '\\' || c == '/' then some c
  else if c == 'n' then some '\n'
  else if c == 'r' then some '\r'
  else if c == 't' then some '\t'
  else if c == 'b' then some (Char.ofNat 8)
  else if c == 'f' then some (Char.ofNat 12)
  else none

/-- The first half of a pair of code units. -/
def isHighUnit (n : Nat) : Bool := 0xD800 ≤ n && n < 0xDC00

/-- The second half of a pair of code units. -/
def isLowUnit (n : Nat) : Bool := 0xDC00 ≤ n && n < 0xE000

/-- The character of a pair of code units. -/
def pairChar (high low : Nat) : Char :=
  Char.ofNat (0x10000 + (high - 0xD800) * 0x400 + (low - 0xDC00))

/-- A string after its opening quote: its characters, after those read so far
(last one first), and the text after the closing quote. -/
def stringBody (done : List Char) : List Char → Option (List Char × List Char)
  | [] => none
  | '"' :: rest => some (done.reverse, rest)
  | '\\' :: 'u' :: a :: b :: c :: d :: rest =>
      match unit? a b c d with
      | none => none
      | some high =>
          if isHighUnit high then
            match rest with
            | '\\' :: 'u' :: a :: b :: c :: d :: rest =>
                match unit? a b c d with
                | none => none
                | some low =>
                    if isLowUnit low then stringBody (pairChar high low :: done) rest else none
            | _ => none
          else if isLowUnit high then none
          else stringBody (Char.ofNat high :: done) rest
  | '\\' :: c :: rest =>
      match letterEscape? c with
      | none => none
      | some c => stringBody (c :: done) rest
  | c :: rest => if c.toNat < 0x20 then none else stringBody (c :: done) rest

/-! ## §3. Numbers and words. -/

/-- The part after the point: its digits, and the text after it. -/
def fraction : List Char → Option (List Char × List Char)
  | '.' :: rest =>
      let digits := rest.takeWhile Char.isDigit
      if digits.isEmpty then none else some (digits, rest.dropWhile Char.isDigit)
  | rest => some ([], rest)

/-- The exponent, and the text after it. -/
def exponent : List Char → Option (Option Int × List Char)
  | [] => some (none, [])
  | mark :: rest =>
      if mark == 'e' || mark == 'E' then
        let (negative, rest) := match rest with
          | '-' :: rest => (true, rest)
          | '+' :: rest => (false, rest)
          | rest => (false, rest)
        let digits := rest.takeWhile Char.isDigit
        if digits.isEmpty then none
        else
          let e : Int := natOf digits
          some (some (if negative then -e else e), rest.dropWhile Char.isDigit)
      else some (none, mark :: rest)

/-- A number after its sign, and the text after it.  The sign counts as a
digit before the point. -/
def unsigned? (negative : Bool) (cs : List Char) : Option (Value × List Char) :=
  let whole := cs.takeWhile Char.isDigit
  if whole.isEmpty || (whole.head? == some '0' && whole.length != 1) then none
  else if longestWhole < whole.length + (if negative then 1 else 0) then none
  else do
    let (frac, rest) ← fraction (cs.dropWhile Char.isDigit)
    let (power, rest) ← exponent rest
    if frac.isEmpty && power.isNone then
      let n : Int := natOf whole
      return (.int (if negative then -n else n), rest)
    else
      let e : Int := power.getD 0 - frac.length
      return (.float (.ofDecimal negative (natOf (whole ++ frac)) e), rest)

/-- A number or a word, and the text after it. -/
def scalar? (cs : List Char) : Option (Value × List Char) :=
  let words : List (String × Value) :=
    [("true", .bool true), ("false", .bool false), ("null", .null),
     ("NaN", .float .nan), ("Infinity", .float (.infinite false)),
     ("-Infinity", .float (.infinite true))]
  match words.findSome? (fun (word, v) => (Text.afterWord? word.toList cs).map (v, ·)) with
  | some found => some found
  | none =>
      match cs with
      | '-' :: rest => unsigned? true rest
      | _ => unsigned? false cs

/-! ## §4. Values. -/

mutual

/-- A value, and the text after it.  The fuel bounds the number of calls, the
depth the nesting of what is still to come. -/
def value? : Nat → Nat → List Char → Option (Value × List Char)
  | 0, _, _ => none
  | fuel + 1, depth, cs =>
      match skipGap cs with
      | '\x7b' :: rest =>
          match skipGap rest with
          | '\x7d' :: rest => some (.object [], rest)
          | rest =>
              match depth with
              | 0 => none
              | depth + 1 =>
                  (members? fuel depth rest).map fun (entries, rest) => (.object entries, rest)
      | '[' :: rest =>
          match skipGap rest with
          | ']' :: rest => some (.list [], rest)
          | rest =>
              match depth with
              | 0 => none
              | depth + 1 =>
                  (items? fuel depth rest).map fun (items, rest) => (.list items, rest)
      | '"' :: rest => (stringBody [] rest).map fun (s, rest) => (.text (String.ofList s), rest)
      | rest => scalar? rest

/-- The items of an array up to its bracket, and the text after it. -/
def items? : Nat → Nat → List Char → Option (List Value × List Char)
  | 0, _, _ => none
  | fuel + 1, depth, cs =>
      match value? fuel depth cs with
      | none => none
      | some (v, rest) =>
          match skipGap rest with
          | ',' :: rest => (items? fuel depth rest).map fun (vs, rest) => (v :: vs, rest)
          | ']' :: rest => some ([v], rest)
          | _ => none

/-- The members of an object up to its brace, and the text after it. -/
def members? : Nat → Nat → List Char → Option (List (String × Value) × List Char)
  | 0, _, _ => none
  | fuel + 1, depth, cs =>
      match skipGap cs with
      | '"' :: rest =>
          match stringBody [] rest with
          | none => none
          | some (key, rest) =>
              match skipGap rest with
              | ':' :: rest =>
                  match value? fuel depth rest with
                  | none => none
                  | some (v, rest) =>
                      let entry := (String.ofList key, v)
                      match skipGap rest with
                      | ',' :: rest =>
                          (members? fuel depth rest).map fun (es, rest) => (entry :: es, rest)
                      | '\x7d' :: rest => some ([entry], rest)
                      | _ => none
              | _ => none
      | _ => none

end

/-- The value of a JSON text whose non-empty arrays and objects nest at most
`depth` deep. -/
def read? (depth : Nat) (cs : List Char) : Option Value :=
  match value? (2 * cs.length + 2) depth cs with
  | some (v, rest) => if (skipGap rest).isEmpty then some v else none
  | none => none

end AnalysisDiagram.Json
