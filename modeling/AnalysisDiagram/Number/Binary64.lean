/-
  AnalysisDiagram.Number.Binary64
  ───────────────────────────────
  Floating-point numbers of 64 bits, in exact whole-number arithmetic.

  A finite number is ± m · 2^e with m < 2^53.  Reading a decimal rounds to the
  nearest such number, a tie to the even m.  Writing one takes the fewest
  digits that read back:

      shortest x  — for 1, 2, … 17 digits, the two neighbours of |x| on that
                    decimal grid are tried against the interval of reals that
                    round to x; the first grid with a hit wins, and of two
                    hits the nearer one
-/

namespace AnalysisDiagram.Number

/-! ## §1. Rounded quotients. -/

/-- `n / d` to the nearest whole number, a tie to the even one. -/
def divRound (n d : Nat) : Nat :=
  let q := n / d
  let r := n % d
  if 2 * r < d then q
  else if d < 2 * r then q + 1
  else q + q % 2

/-- `base ^ e` as a fraction, for exponents of either sign. -/
def powRatio (base : Nat) (e : Int) : Nat × Nat :=
  if 0 ≤ e then (base.pow e.toNat, 1) else (1, base.pow (-e).toNat)

/-! ## §2. The numbers. -/

/-- A floating-point number of 64 bits. -/
inductive Binary64 where
  /-- Not a number. -/
  | nan
  /-- Infinity of either sign. -/
  | infinite (negative : Bool)
  /-- The number ± `mantissa` · 2^`exponent`. -/
  | finite (negative : Bool) (mantissa : Nat) (exponent : Int)
  deriving Repr, DecidableEq

namespace Binary64

/-- The least exponent. -/
def minExponent : Int := -1074

/-- The greatest exponent. -/
def maxExponent : Int := 971

/-- The number nearest to ± `num / den`. -/
def ofRatio (negative : Bool) (num den : Nat) : Binary64 :=
  if num = 0 then .finite negative 0 minExponent
  else
    let guess : Int := (Nat.log2 num : Int) - (Nat.log2 den : Int) - 53
    let scaled := fun e : Int =>
      let (up, down) := powRatio 2 e
      (num * down, den * up)
    let fits := fun e : Int => (scaled e).1 / (scaled e).2 < Nat.pow 2 53
    let e := if fits guess then guess else guess + 1
    let e := max e minExponent
    let m := divRound (scaled e).1 (scaled e).2
    let (m, e) := if m = Nat.pow 2 53 then (Nat.pow 2 52, e + 1) else (m, e)
    if maxExponent < e then .infinite negative else .finite negative m e

/-- The number nearest to ± `digits` · 10^`exponent`. -/
def ofDecimal (negative : Bool) (digits : Nat) (exponent : Int) : Binary64 :=
  let magnitude : Int := (Nat.log2 digits : Int) * 3 / 10 + exponent
  if digits = 0 then .finite negative 0 minExponent
  else if 400 < magnitude then .infinite negative
  else if magnitude < -400 then .finite negative 0 minExponent
  else
    let (up, down) := powRatio 10 exponent
    ofRatio negative (digits * up) down

/-- Whether the number is zero. -/
def isZero : Binary64 → Bool
  | .finite _ 0 _ => true
  | _ => false

/-- |x| of a finite number as a fraction. -/
def ratio (mantissa : Nat) (exponent : Int) : Nat × Nat :=
  let (up, down) := powRatio 2 exponent
  (mantissa * up, down)

/-- The whole number below or at x, if there is one. -/
def floor? : Binary64 → Option Int
  | .finite negative m e =>
      let (num, den) := ratio m e
      some (if negative then -((num + den - 1) / den : Nat) else (num / den : Nat))
  | _ => none

/-- The whole number that x is cut to, towards zero. -/
def truncate? : Binary64 → Option Int
  | .finite negative m e =>
      let (num, den) := ratio m e
      some (if negative then -(num / den : Nat) else (num / den : Nat))
  | _ => none

/-- Whether a finite number has no fraction. -/
def isWhole : Binary64 → Bool
  | .finite _ m e => (ratio m e).1 % (ratio m e).2 == 0
  | _ => false

/-! ## §3. The fewest digits that read back. -/

/-- The power of ten that bounds a fraction: the least p with num / den < 10^p. -/
def decimalPoint (num den : Nat) : Int :=
  let guess : Int := ((Nat.log2 num : Int) - (Nat.log2 den : Int)) * 3 / 10 - 2
  let below := fun p : Int =>
    let (up, down) := powRatio 10 p
    num * down < den * up
  ((List.range 8).map (fun i : Nat => guess + (i : Int))).find? below |>.getD (guess + 8)

/-- The reals that round to `mantissa` · 2^`exponent`, as numerators over a
common denominator: the lower end, the number itself, the upper end. -/
def interval (mantissa : Nat) (exponent : Int) : (Nat × Nat × Nat) × Nat :=
  let (up, down) := powRatio 2 (exponent - 2)
  let lowGap := if mantissa = Nat.pow 2 52 ∧ minExponent < exponent then 1 else 2
  (((4 * mantissa - lowGap) * up, 4 * mantissa * up, (4 * mantissa + 2) * up), down)

/-- Digits and decimal point (`0.d₁d₂… · 10^p`) of a positive finite number. -/
def shortest (mantissa : Nat) (exponent : Int) : Nat × Int :=
  let ((low, mid, high), den) := interval mantissa exponent
  let p := decimalPoint mid den
  let inside := fun n d : Nat =>
    if mantissa % 2 = 0 then low * d ≤ n * den ∧ n * den ≤ high * d
    else low * d < n * den ∧ n * den < high * d
  let onGrid := fun k : Nat =>
    let (up, down) := powRatio 10 (p - (k : Int))
    let floor := mid * down / (den * up)
    let near := divRound (mid * down) (den * up)
    let far := if near = floor then floor + 1 else floor
    [near, far].find? (fun c => inside (c * up) down) |>.map (·, p - (k : Int))
  ((List.range 17).findSome? (fun k => onGrid (k + 1))).getD (0, 0)

end Binary64

end AnalysisDiagram.Number
