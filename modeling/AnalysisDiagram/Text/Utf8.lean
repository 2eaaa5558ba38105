/-
  AnalysisDiagram.Text.Utf8
  ─────────────────────────
  Reading bytes as UTF-8.

  One scanner walks the bytes and yields a character for each well-formed
  sequence and a hole for each maximal ill-formed part.  A part ends before
  the first byte that cannot continue it, so a stray lead byte costs one hole
  and the byte after it is read afresh.  The two readings are

      decodeLossy    — every hole becomes U+FFFD
      decodeStrict?  — a single hole refuses the whole text
-/

namespace AnalysisDiagram.Text

/-! ## §1. The scanner. -/

/-- What the scanner knows between two bytes. -/
inductive Utf8State where
  /-- No sequence is open. -/
  | start
  /-- `left` more bytes are due, the next one between `lo` and `hi`; `code`
  holds the bits read so far. -/
  | midway (left : Nat) (code : Nat) (lo hi : UInt8)
  deriving Repr, DecidableEq

/-- What the first byte of a sequence yields at once, and the state after it. -/
def Utf8State.lead (b : UInt8) : List (Option Char) × Utf8State :=
  if b < 0x80 then ([some (Char.ofNat b.toNat)], .start)
  else if b < 0xC2 then ([none], .start)
  else if b < 0xE0 then ([], .midway 1 (b.toNat - 0xC0) 0x80 0xBF)
  else if b < 0xF0 then
    ([], .midway 2 (b.toNat - 0xE0) (if b == 0xE0 then 0xA0 else 0x80)
      (if b == 0xED then 0x9F else 0xBF))
  else if b < 0xF5 then
    ([], .midway 3 (b.toNat - 0xF0) (if b == 0xF0 then 0x90 else 0x80)
      (if b == 0xF4 then 0x8F else 0xBF))
  else ([none], .start)

/-- One byte: what it yields, and the state after it. -/
def Utf8State.next : Utf8State → UInt8 → List (Option Char) × Utf8State
  | .start, b => lead b
  | .midway left code lo hi, b =>
      if lo ≤ b ∧ b ≤ hi then
        let code := code * 64 + (b.toNat - 0x80)
        match left with
        | 0 | 1 => ([some (Char.ofNat code)], .start)
        | left + 2 => ([], .midway (left + 1) code 0x80 0xBF)
      else
        let (out, state) := lead b
        (none :: out, state)

/-- Characters and holes of a byte sequence, from a given state on. -/
def scanUtf8 : Utf8State → List UInt8 → List (Option Char)
  | .start, [] => []
  | .midway .., [] => [none]
  | state, b :: bytes =>
      let (out, state) := state.next b
      out ++ scanUtf8 state bytes

/-! ## §2. The two readings. -/

/-- The sign that stands for a part that is not UTF-8. -/
def replacement : Char := Char.ofNat 0xFFFD

/-- Reads bytes as text; each maximal ill-formed part becomes U+FFFD. -/
def decodeLossy (bytes : List UInt8) : String :=
  String.ofList ((scanUtf8 .start bytes).map (·.getD replacement))

/-- Reads bytes as text, or refuses them when a part is ill-formed. -/
def decodeStrict? (bytes : List UInt8) : Option String :=
  ((scanUtf8 .start bytes).mapM id).map String.ofList

/-- The UTF-8 form of a text. -/
def utf8 (s : String) : Array UInt8 :=
  s.toUTF8.data

end AnalysisDiagram.Text
