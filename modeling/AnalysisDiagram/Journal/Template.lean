/-
  AnalysisDiagram.Journal.Template
  ────────────────────────────────
  Message templates with `%` directives.

  A directive is `%`, perhaps a key in parentheses, flags, a width, a
  precision, and a letter that says how an argument is written; `%%` stands
  for the sign itself.  Arguments are
  taken one after the other, or by key if there is a single object.  Too few,
  too many or unsuitable arguments are faults, and so is a directive that is
  cut short or has an unknown letter.
-/
import AnalysisDiagram.Json.Reader
import AnalysisDiagram.Value

namespace AnalysisDiagram.Journal

open AnalysisDiagram.Number

/-! ## §1. Directives. -/

/-- Why a template cannot be filled. -/
inductive TemplateFault where
  /-- The arguments do not suit the template. -/
  | unsuitable
  /-- The template itself is malformed, or a number has no digits. -/
  | malformed
  /-- A number is beyond what a directive can write. -/
  | outOfRange
  /-- No argument under this key. -/
  | unknownKey
  /-- An argument cannot be shown. -/
  | unshowable (fault : Value.ShowFault)
  deriving Repr, DecidableEq

/-- A directive: how an argument is to be written. -/
structure Directive where
  leftAligned : Bool := false
  plus : Bool := false
  blank : Bool := false
  alternate : Bool := false
  zeros : Bool := false
  width : Nat := 0
  precision : Option Nat := none
  letter : Char := 's'

/-- The arguments of a template. -/
inductive Arguments where
  /-- One after the other. -/
  | positional (rest : List Value)
  /-- By key, with the one that is taken next: the object itself at first, then
  what a key has named. -/
  | keyed (entries : List (String × Value)) (next : Option Value)

namespace Arguments

/-- The arguments of a record: a single object that is not empty is taken by
its keys. -/
def ofValues : List Value → Arguments
  | [.object (entry :: entries)] => .keyed (entry :: entries) (some (.object (entry :: entries)))
  | vs => .positional vs

/-- The next argument, and those after it. -/
def next : Arguments → Except TemplateFault (Value × Arguments)
  | .positional [] => .error .unsuitable
  | .positional (v :: rest) => .ok (v, .positional rest)
  | .keyed _ none => .error .unsuitable
  | .keyed entries (some v) => .ok (v, .keyed entries none)

/-- The arguments with the one under a key to be taken next. -/
def atKey (key : LooseText) : Arguments → Except TemplateFault Arguments
  | .positional _ => .error .unsuitable
  | .keyed entries _ =>
      match key.string?.bind (Value.lookup · entries) with
      | some v => .ok (.keyed entries (some v))
      | none => .error .unknownKey

/-- Whether an argument is left over. -/
def isLeftOver : Arguments → Bool
  | .positional rest => !rest.isEmpty
  | .keyed _ _ => false

end Arguments

/-! ## §2. Writing one argument. -/

/-- Text filled up with blanks to the width. -/
def aligned {α : Type} (blank : α) (d : Directive) (cs : List α) : List α :=
  let fill := List.replicate (d.width - cs.length) blank
  if d.leftAligned then cs ++ fill else fill ++ cs

/-- A number with its sign and filled up to the width, with zeros if these are
asked for. -/
def signed (d : Directive) (negative : Bool) (mark body : List Char) : List Char :=
  let sign := if negative then ['-'] else if d.plus then ['+'] else if d.blank then [' '] else []
  let start := sign ++ mark
  if d.zeros && !d.leftAligned then
    start ++ List.replicate (d.width - start.length - body.length) '0' ++ body
  else aligned ' ' d (start ++ body)

/-- A whole number in a base, with at least as many digits as the precision. -/
def integral (d : Directive) (i : Int) (base : Nat) (mark : List Char) : List Char :=
  let digits := Nat.toDigits base i.natAbs
  let digits := List.replicate (d.precision.getD 0 - digits.length) '0' ++ digits
  signed d (decide (i < 0)) (if d.alternate then mark else []) digits

/-- The whole number that an argument is cut to. -/
def truncated : Value → Except TemplateFault Int
  | .int i => .ok i
  | .bool b => .ok (if b then 1 else 0)
  | .float x =>
      match x.truncate? with
      | some i => .ok i
      | none => .error (if x = .nan then .malformed else .outOfRange)
  | _ => .error .unsuitable

/-- The whole number that an argument is cut to, if it can be written in
decimal digits. -/
def decimal (v : Value) : Except TemplateFault Int := do
  let i ← truncated v
  if Value.isLong i then .error (.unshowable .tooManyDigits) else return i

/-- The whole number that an argument is. -/
def whole : Value → Except TemplateFault Int
  | .int i => .ok i
  | .bool b => .ok (if b then 1 else 0)
  | _ => .error .unsuitable

/-- The floating-point number that an argument is. -/
def floating : Value → Except TemplateFault Binary64
  | .float x => .ok x
  | .bool b => .ok (.ofDecimal false (if b then 1 else 0) 0)
  | .int i =>
      match Binary64.ofDecimal (decide (i < 0)) i.natAbs 0 with
      | .infinite _ => .error .outOfRange
      | x => .ok x
  | _ => .error .unsuitable

/-- A floating-point number in the form that the letter asks for. -/
def real (d : Directive) (x : Binary64) : List Char :=
  let capital := d.letter.isUpper
  let inCase := fun (s : String) => (if capital then s.map Char.toUpper else s).toList
  let places := d.precision.getD 6
  match x with
  | .nan => signed { d with zeros := false } false [] (inCase "nan")
  | .infinite negative => signed { d with zeros := false } negative [] (inCase "inf")
  | .finite negative m e =>
      let mark := if capital then 'E' else 'e'
      let body := match d.letter.toLower with
        | 'f' => fixed d.alternate places m e
        | 'e' => scientific d.alternate mark places m e
        | _ => general d.alternate mark places m e
      signed d negative [] body

/-- A text cut to the precision. -/
def textual (d : Directive) (t : LooseText) : List Code :=
  let cs := t.codes
  aligned (.char ' ') d (match d.precision with
    | some n => cs.take n
    | none => cs)

/-- A text in ASCII alone. -/
def asciiOnly (s : String) : String :=
  String.ofList (s.toList.flatMap fun c =>
    if c.toNat < 128 then [c] else Text.codeEscape c.toNat)

/-- The single code that an argument stands for. -/
def character (v : Value) : Except TemplateFault Code :=
  match v.text?.map LooseText.codes with
  | some [code] => .ok code
  | some _ => .error .unsuitable
  | none => do
      let i ← whole v
      if 0 ≤ i ∧ i < 0x110000 then return Code.ofNat i.toNat else .error .outOfRange

/-- A number as a directive asks for it. -/
def writeNumber (d : Directive) (v : Value) : Except TemplateFault (List Char) :=
  match d.letter with
  | 'd' | 'i' | 'u' => do return integral d (← decimal v) 10 []
  | 'o' => do return integral d (← whole v) 8 ['0', 'o']
  | 'x' => do return integral d (← whole v) 16 ['0', 'x']
  | 'X' => do return (integral d (← whole v) 16 ['0', 'x']).map Char.toUpper
  | 'e' | 'E' | 'f' | 'F' | 'g' | 'G' => do return real d (← floating v)
  | _ => .error .malformed

/-- An argument as a directive asks for it. -/
def write (depth : Nat) (d : Directive) (v : Value) : Except TemplateFault (List Code) :=
  match d.letter with
  | 's' => ((v.shown depth).map (textual d)).mapError .unshowable
  | 'r' => ((v.literal depth).map fun s => textual d s).mapError .unshowable
  | 'a' => ((v.literal depth).map fun s => textual d (asciiOnly s)).mapError .unshowable
  | 'c' => do return aligned (.char ' ') d [← character v]
  | _ => do return (← writeNumber d v).map Code.char

/-! ## §3. Reading directives. -/

/-- The key of a directive after its parenthesis, and the template after it;
parentheses inside a key must match. -/
def keyText (depth : Nat) : List Code → Option (List Code × List Code)
  | [] => none
  | .char ')' :: rest =>
      match depth with
      | 0 => some ([], rest)
      | depth + 1 => (keyText depth rest).map fun (key, rest) => (.char ')' :: key, rest)
  | .char '(' :: rest =>
      (keyText (depth + 1) rest).map fun (key, rest) => (.char '(' :: key, rest)
  | c :: rest => (keyText depth rest).map fun (key, rest) => (c :: key, rest)

/-- The flags of a directive, and the template after them. -/
def flags (d : Directive) : List Code → Directive × List Code
  | .char '-' :: rest => flags { d with leftAligned := true } rest
  | .char '+' :: rest => flags { d with plus := true } rest
  | .char ' ' :: rest => flags { d with blank := true } rest
  | .char '#' :: rest => flags { d with alternate := true } rest
  | .char '0' :: rest => flags { d with zeros := true } rest
  | rest => (d, rest)

/-- The digits that a template begins with, and the template after them. -/
def digitsOf : List Code → List Char × List Code
  | .char c :: rest =>
      if c.isDigit then
        let (digits, rest) := digitsOf rest
        (c :: digits, rest)
      else ([], .char c :: rest)
  | rest => ([], rest)

/-- A number in a directive, written out or taken from the arguments, with the
template and the arguments after it. -/
def amount (args : Arguments) : List Code →
    Except TemplateFault (Option Int × List Code × Arguments)
  | .char '*' :: rest =>
      match args.next with
      | .error e => .error e
      | .ok (v, args) =>
          match v with
          | .int i => .ok (some i, rest, args)
          | .bool b => .ok (some (if b then 1 else 0), rest, args)
          | _ => .error .unsuitable
  | cs =>
      let (digits, rest) := digitsOf cs
      let n : Option Int := if digits.isEmpty then none else some (Json.natOf digits)
      .ok (n, rest, args)

/-- A directive after its percent sign: what it asks for, the template after it,
and the arguments, of which it takes the next one. -/
def directive (cs : List Code) (args : Arguments) :
    Except TemplateFault (Directive × List Code × Arguments) := do
  let (cs, args) ← match cs with
    | .char '(' :: rest =>
        match args, keyText 0 rest with
        | .positional _, _ => .error .unsuitable
        | .keyed _ _, none => .error .malformed
        | .keyed _ _, some (key, rest) => do
            pure (rest, ← args.atKey (LooseText.ofCodes key))
    | cs => pure (cs, args)
  let (d, cs) := flags {} cs
  let (width, cs, args) ← amount args cs
  let d := match width with
    | some w => { d with width := w.natAbs, leftAligned := d.leftAligned || decide (w < 0) }
    | none => d
  let (precision, cs, args) ← match cs with
    | .char '.' :: rest => do
        let (p, rest, args) ← amount args rest
        pure (some ((p.getD 0).toNat), rest, args)
    | cs => pure (none, cs, args)
  let cs := match cs with
    | .char c :: rest => if c == 'h' || c == 'l' || c == 'L' then rest else cs
    | cs => cs
  match cs with
  | [] => .error .malformed
  | code :: rest =>
      -- no letter has this character, and none is a lone code
      let letter := code.char?.getD '\uFFFD'
      pure ({ d with precision, letter }, rest, args)

/-- The rest of a template, filled.  Each turn uses up a code of the template, of
which there are at most `fuel`. -/
def fillFrom (depth : Nat) : Nat → List Code → Arguments → Except TemplateFault (List Code)
  | _, [], args => if args.isLeftOver then .error .unsuitable else .ok []
  | 0, _ :: _, _ => .error .malformed
  | fuel + 1, .char '%' :: .char '%' :: cs, args => do
      return .char '%' :: (← fillFrom depth fuel cs args)
  | fuel + 1, .char '%' :: cs, args => do
      let (d, rest, args) ← directive cs args
      let (v, args) ← args.next
      let out ← write depth d v
      return out ++ (← fillFrom depth fuel rest args)
  | fuel + 1, c :: cs, args => do return c :: (← fillFrom depth fuel cs args)

/-- A template filled with arguments; without any, it stands as it is. -/
def fill (depth : Nat) (template : LooseText) (args : List Value) :
    Except TemplateFault LooseText :=
  if args.isEmpty then .ok template
  else
    let cs := template.codes
    (fillFrom depth cs.length cs (Arguments.ofValues args)).map LooseText.ofCodes

/-- A template of any shape, shown and then filled with arguments. -/
def filled (depth : Nat) (template : Value) (args : List Value) :
    Except TemplateFault LooseText := do
  fill depth (← (template.shown depth).mapError .unshowable) args

end AnalysisDiagram.Journal
