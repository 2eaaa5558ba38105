/-
  AnalysisDiagram.Number.Decimal
  ──────────────────────────────
  Numbers as text.

  `Binary64.plain` writes the fewest digits that read back, positionally while
  the leading digit stands at 10^-4 to 10^15 and with an exponent of at least
  two digits otherwise.  `fixed` and `scientific` write a given number of
  places, the exact value rounded with ties to the even digit.
-/
import AnalysisDiagram.Number.Binary64

namespace AnalysisDiagram.Number

/-! ## §1. Digits. -/

/-- The decimal digits of `n`. -/
def digits (n : Nat) : List Char := Nat.toDigits 10 n

/-- The decimal digits of `n`, filled up with zeros to `width`. -/
def paddedDigits (width n : Nat) : List Char :=
  List.replicate (width - (digits n).length) '0' ++ digits n

/-- The most digits that a whole number is read or written with. -/
def longestWhole : Nat := 4300

/-- A whole number with its sign. -/
def intText (i : Int) : String :=
  String.ofList (if i < 0 then '-' :: digits i.natAbs else digits i.natAbs)

/-- The exponent part of a number: a sign and at least two digits. -/
def exponentText (mark : Char) (e : Int) : List Char :=
  mark :: (if e < 0 then '-' else '+') :: paddedDigits 2 e.natAbs

/-- Digits with a point after the first `k` of them; zeros fill both sides. -/
def withPoint (cs : List Char) (k : Int) : List Char × List Char :=
  if k ≤ 0 then (['0'], List.replicate (-k).toNat '0' ++ cs)
  else
    let k := k.toNat
    (cs.take k ++ List.replicate (k - cs.length) '0', cs.drop k)

/-! ## §2. The fewest digits. -/

/-- Trailing zeros taken off. -/
def stripZeros (cs : List Char) : List Char :=
  (cs.reverse.dropWhile (· == '0')).reverse

/-- A positive finite number in its plain form. -/
def plainMagnitude (mantissa : Nat) (exponent : Int) : List Char :=
  let (n, unit) := Binary64.shortest mantissa exponent
  let cs := stripZeros (digits n)
  let point : Int := (digits n).length + unit
  if -4 < point ∧ point ≤ 16 then
    let (whole, frac) := withPoint cs point
    whole ++ '.' :: (if frac.isEmpty then ['0'] else frac)
  else
    let mantissaText := match cs with
      | [] => ['0']
      | [c] => [c]
      | c :: rest => c :: '.' :: rest
    mantissaText ++ exponentText 'e' (point - 1)

/-- A floating-point number in its plain form. -/
def Binary64.plain : Binary64 → String
  | .nan => "nan"
  | .infinite negative => if negative then "-inf" else "inf"
  | .finite negative m e =>
      let body := if m = 0 then ['0', '.', '0'] else plainMagnitude m e
      String.ofList (if negative then '-' :: body else body)

/-! ## §3. A given number of places. -/

/-- The two sides of a point; without digits after it, the point itself stands
only where it is asked for. -/
def pointed (keepPoint : Bool) (before after : List Char) : List Char :=
  if after.isEmpty && !keepPoint then before else before ++ '.' :: after

/-- |x| with `places` digits after the point. -/
def fixed (keepPoint : Bool) (places : Nat) (mantissa : Nat) (exponent : Int) : List Char :=
  let (num, den) := Binary64.ratio mantissa exponent
  let cs := paddedDigits (places + 1) (divRound (num * Nat.pow 10 places) den)
  pointed keepPoint (cs.take (cs.length - places)) (cs.drop (cs.length - places))

/-- The leading `places + 1` digits of |x| and the power of ten of the first. -/
def leading (places : Nat) (mantissa : Nat) (exponent : Int) : List Char × Int :=
  if mantissa = 0 then (List.replicate (places + 1) '0', 0)
  else
    let (num, den) := Binary64.ratio mantissa exponent
    let p := Binary64.decimalPoint num den - 1
    let (up, down) := powRatio 10 ((places : Int) - p)
    let cs := digits (divRound (num * up) (den * down))
    if cs.length = places + 2 then (cs.take (places + 1), p + 1) else (cs, p)

/-- |x| with one digit before and `places` after the point, and an exponent. -/
def scientific (keepPoint : Bool) (mark : Char) (places : Nat) (mantissa : Nat)
    (exponent : Int) : List Char :=
  let (cs, p) := leading places mantissa exponent
  pointed keepPoint (cs.take 1) (cs.drop 1) ++ exponentText mark p

/-- |x| with `significant` digits, by whichever of the two forms suits its
size; zeros at the end are taken off unless the point is kept. -/
def general (keepPoint : Bool) (mark : Char) (significant : Nat) (mantissa : Nat)
    (exponent : Int) : List Char :=
  let significant := max significant 1
  let (all, p) := leading (significant - 1) mantissa exponent
  let cs := if keepPoint then all else all.take 1 ++ stripZeros (all.drop 1)
  if -4 ≤ p ∧ p < significant then
    let (before, after) := withPoint cs (p + 1)
    pointed keepPoint before after
  else pointed keepPoint (cs.take 1) (cs.drop 1) ++ exponentText mark p

end AnalysisDiagram.Number
