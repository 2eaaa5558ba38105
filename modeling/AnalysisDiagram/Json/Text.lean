/-
  AnalysisDiagram.Json.Text
  ─────────────────────────
  Strings in JSON text.

  Quotes and backslashes are escaped, five control characters have letters of
  their own, and the other characters below U+0020 are written by their code.
  Beyond that a string is written either as it is (`encode`) or in ASCII alone
  (`encodeAscii`), where a character above U+FFFF takes a pair of codes.  In a
  loose text, lone surrogate codes stay as they are, or are escaped too.
-/
import AnalysisDiagram.Text.Quoted

namespace AnalysisDiagram.Json

/-- A code unit of 16 bits, as an escape. -/
def unitEscape (n : Nat) : List Char := '\\' :: 'u' :: Text.hex 4 n

/-- The characters that must be escaped, and how. -/
def escape? (c : Char) : Option (List Char) :=
  if c == '"' then some ['\\', '"']
  else if c == '\\' then some ['\\', '\\']
  else if c == '\n' then some ['\\', 'n']
  else if c == '\r' then some ['\\', 'r']
  else if c == '\t' then some ['\\', 't']
  else if c.toNat == 8 then some ['\\', 'b']
  else if c.toNat == 12 then some ['\\', 'f']
  else if c.toNat < 0x20 then some (unitEscape c.toNat)
  else none

/-- A character inside a JSON string. -/
def encodeChar (c : Char) : List Char := (escape? c).getD [c]

/-- A character inside a JSON string, in ASCII alone. -/
def encodeAsciiChar (c : Char) : List Char :=
  match escape? c with
  | some cs => cs
  | none =>
      let n := c.toNat
      if n < 0x7F then [c]
      else if n < 0x10000 then unitEscape n
      else
        unitEscape (0xD800 + (n - 0x10000) / 0x400) ++
          unitEscape (0xDC00 + (n - 0x10000) % 0x400)

/-- A text as a JSON string. -/
def encode (s : String) : String :=
  String.ofList ('"' :: (s.toList.flatMap encodeChar ++ ['"']))

/-- A text as a JSON string in ASCII alone. -/
def encodeAscii (s : String) : String :=
  String.ofList ('"' :: (s.toList.flatMap encodeAsciiChar ++ ['"']))

/-- The inside of a JSON string. -/
def escaped (s : String) : String := String.ofList (s.toList.flatMap encodeChar)

/-- A loose text as a JSON string. -/
def encodeLoose (t : LooseText) : LooseText := "\"" ++ t.mapRuns escaped ++ "\""

/-- A loose text as a JSON string in ASCII alone. -/
def encodeLooseAscii (t : LooseText) : String :=
  let lead := t.lead.flatMap fun (run, n) =>
    run.toList.flatMap encodeAsciiChar ++ unitEscape (Code.lone n).toNat
  String.ofList ('"' :: (lead ++ t.last.toList.flatMap encodeAsciiChar ++ ['"']))

@[simp]
theorem encodeLoose_ofString (s : String) :
    encodeLoose (LooseText.ofString s) = LooseText.ofString (encode s) := by
  have h : "\"" ++ escaped s ++ "\"" = encode s := by
    apply String.toList_injective
    simp [encode, escaped]
  rw [← h]
  rfl

end AnalysisDiagram.Json
