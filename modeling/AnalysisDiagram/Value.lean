/-
  AnalysisDiagram.Value
  ─────────────────────
  Values whose shape is not known beforehand: what a caller may hand over as
  source, language, indent or setting, and what a JSON text holds.

  Messages name such a value by its type (`typeName`) and show it in one of
  two ways: `literal` quotes texts, `shown` leaves a text that stands alone as
  it is.  Either may fail: a whole number may have too many digits, and lists
  and objects may nest deeper than there are levels to go down.
-/
import AnalysisDiagram.Number.Decimal
import AnalysisDiagram.Text.Quoted

namespace AnalysisDiagram

open AnalysisDiagram.Number

/-- A value of any shape. -/
inductive Value where
  | null
  | bool (b : Bool)
  | int (i : Int)
  | float (x : Binary64)
  | text (s : String)
  /-- A text with a surrogate code on its own in it. -/
  | loose (t : LooseText)
  | bytes (bs : List UInt8)
  | list (items : List Value)
  /-- An object with its entries as written; of equal keys the last counts. -/
  | object (entries : List (String × Value))
  deriving Repr, Inhabited

namespace Value

/-! ## §1. Types and emptiness. -/

/-- The name of a value's type in messages. -/
def typeName : Value → String
  | .null => "NoneType"
  | .bool _ => "bool"
  | .int _ => "int"
  | .float _ => "float"
  | .text _ => "str"
  | .loose _ => "str"
  | .bytes _ => "bytes"
  | .list _ => "list"
  | .object _ => "dict"

/-- Values that count as not given: nothing, false, zero and what is empty. -/
def isVoid : Value → Bool
  | .null => true
  | .bool b => !b
  | .int i => i == 0
  | .float x => x.isZero
  | .text s => s.isEmpty
  | .loose t => t.isEmpty
  | .bytes bs => bs.isEmpty
  | .list items => items.isEmpty
  | .object entries => entries.isEmpty

/-- The value that a loose text is. -/
def ofLoose (t : LooseText) : Value :=
  match t.string? with
  | some s => .text s
  | none => .loose t

/-- The loose text that a value is. -/
def text? : Value → Option LooseText
  | .text s => some s
  | .loose t => some t
  | _ => none

/-! ## §2. Objects. -/

/-- The value under a key: the last one written. -/
def lookup {α : Type} (key : String) (entries : List (String × α)) : Option α :=
  (entries.reverse.find? (·.1 == key)).map (·.2)

/-- One entry per key, each where its key came first and with the value that
came last. -/
def settle {α : Type} (entries : List (String × α)) : List (String × α) :=
  (entries.map (·.1)).eraseDups.filterMap fun key => (lookup key entries).map (key, ·)

/-- The value under a key of an object. -/
def get? (key : String) : Value → Option Value
  | .object entries => lookup key entries
  | _ => none

/-! ## §3. Values in messages. -/

/-- Why a value cannot be shown. -/
inductive ShowFault where
  /-- A whole number has more digits than are ever written. -/
  | tooManyDigits
  /-- Lists and objects nest too deep. -/
  | tooDeep
  deriving Repr, DecidableEq

/-- Whether a whole number has more digits than are ever written. -/
def isLong (i : Int) : Bool := longestWhole < (digits i.natAbs).length

/-- A whole number as a literal. -/
def wholeLiteral (i : Int) : Except ShowFault String :=
  if isLong i then .error .tooManyDigits else .ok (intText i)

/-- A value as a literal.  Every value takes a level of the depth, and what is
in a list or an object the levels below; of an object only the entries that
count are looked at. -/
def literal : Nat → Value → Except ShowFault String
  | 0, _ => .error .tooDeep
  | _ + 1, .null => .ok "None"
  | _ + 1, .bool b => .ok (if b then "True" else "False")
  | _ + 1, .int i => wholeLiteral i
  | _ + 1, .float x => .ok x.plain
  | _ + 1, .text s => .ok (Text.quoted s)
  | _ + 1, .loose t => .ok (Text.quotedLoose t)
  | _ + 1, .bytes bs => .ok (Text.quotedBytes bs)
  | depth + 1, .list items => do
      let shown ← items.mapM (literal depth)
      return "[" ++ String.intercalate ", " shown ++ "]"
  | depth + 1, .object entries => do
      let shown ← (settle entries).mapM fun entry => do
        return Text.quoted entry.1 ++ ": " ++ (← literal depth entry.2)
      return "\x7b" ++ String.intercalate ", " shown ++ "\x7d"

/-- A value as a message shows it when it stands alone. -/
def shown (depth : Nat) (v : Value) : Except ShowFault LooseText :=
  match v.text? with
  | some t => .ok t
  | none => (v.literal depth).map LooseText.ofString

/-- A value as a literal where a message must have one. -/
def printable (depth : Nat) (v : Value) : String :=
  (v.literal depth).toOption.getD ("<unprintable " ++ v.typeName ++ " object>")

end Value

end AnalysisDiagram
