/-
  AnalysisDiagram.Text.Quoted
  ───────────────────────────
  Texts as quoted literals in messages.

  The quote is `'`, or `"` when the text holds a `'` and no `"`.  The quote
  and the backslash are escaped, line feed, carriage return and tab have
  letters of their own, and any other unprintable character is written by its
  code: `\x` with two, `\u` with four or `\U` with eight hexadecimal digits.  A
  surrogate code on its own is written in the same way.
-/
import AnalysisDiagram.Text.Loose
import AnalysisDiagram.Text.Printable

namespace AnalysisDiagram.Text

/-- `n` in small hexadecimal digits, filled up with zeros to `width`. -/
def hex (width : Nat) (n : Nat) : List Char :=
  let digits := Nat.toDigits 16 n
  List.replicate (width - digits.length) '0' ++ digits

/-- The value of a hexadecimal digit. -/
def hexDigit? (c : Char) : Option Nat :=
  if '0' ≤ c ∧ c ≤ '9' then some (c.toNat - 48)
  else if 'a' ≤ c ∧ c ≤ 'f' then some (c.toNat - 87)
  else if 'A' ≤ c ∧ c ≤ 'F' then some (c.toNat - 55)
  else none

/-- A character by its code. -/
def codeEscape (n : Nat) : List Char :=
  if n < 0x100 then '\\' :: 'x' :: hex 2 n
  else if n < 0x10000 then '\\' :: 'u' :: hex 4 n
  else '\\' :: 'U' :: hex 8 n

/-- A character inside quotes of the given kind. -/
def quotedChar (quote : Char) (c : Char) : List Char :=
  if c == quote || c == '\\' then ['\\', c]
  else if c == '\n' then ['\\', 'n']
  else if c == '\r' then ['\\', 'r']
  else if c == '\t' then ['\\', 't']
  else if isPrintable c then [c]
  else codeEscape c.toNat

/-- The kind of quote that a text takes. -/
def quoteFor (cs : List Char) : Char :=
  if cs.elem '\x27' && !cs.elem '"' then '"' else '\x27'

/-- A text as a quoted literal. -/
def quoted (s : String) : String :=
  let quote := quoteFor s.toList
  String.ofList (quote :: (s.toList.flatMap (quotedChar quote) ++ [quote]))

/-- A loose text as a quoted literal. -/
def quotedLoose (t : LooseText) : String :=
  let quote := quoteFor (t.codes.filterMap Code.char?)
  let escape := fun code : Code => match code with
    | .char c => quotedChar quote c
    | .lone _ => codeEscape code.toNat
  String.ofList (quote :: (t.codes.flatMap escape ++ [quote]))

/-- A loose text as it is, but for its lone codes, which are escaped. -/
def escapedLoose (t : LooseText) : String :=
  String.ofList (t.codes.flatMap fun code => match code with
    | .char c => [c]
    | .lone _ => codeEscape code.toNat)

/-- Bytes as a quoted literal: those outside printable ASCII by their codes. -/
def quotedBytes (bytes : List UInt8) : String :=
  let cs := bytes.map (fun b => Char.ofNat b.toNat)
  let quote := quoteFor cs
  let escape := fun c : Char =>
    if c.toNat < 127 then quotedChar quote c else codeEscape c.toNat
  String.ofList ('b' :: quote :: (cs.flatMap escape ++ [quote]))

end AnalysisDiagram.Text
