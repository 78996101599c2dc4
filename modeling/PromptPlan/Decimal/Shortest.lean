/-!
# The shortest decimal

A float is written with the fewest digits that read back as the same number. The reals that
round to it are an interval around its exact value, and the first count of digits for which a
neighbour of the value lies in the interval is taken. All of it is exact arithmetic on
fractions over a common denominator.
-/

namespace PromptPlan

/-- A finite decimal: `digits` times ten to the `exponent`, with a sign of its own so that
zero can have one. -/
structure Decimal where
  negative : Bool
  digits : Nat
  exponent : Int
deriving DecidableEq, Repr

/-- Which of two equally near neighbours is taken: the one whose last digit is even, or the
one farther from zero. -/
inductive Tie where
  | even
  | away
deriving DecidableEq, Repr

def Tie.keeps (tie : Tie) (below : Nat) : Bool :=
  match tie with
  | .even => below % 2 == 0
  | .away => false

namespace Decimal

/-- Moves trailing zeros of the digits into the exponent; at most `fuel` of them. -/
def stripZeros : Nat → Nat → Int → Nat × Int
  | 0, digits, exponent => (digits, exponent)
  | fuel + 1, digits, exponent =>
    if digits ≠ 0 ∧ digits % 10 = 0 then stripZeros fuel (digits / 10) (exponent + 1)
    else (digits, exponent)

def width (n : Nat) : Nat := (Nat.toDigits 10 n).length

/-- The exponent of the leading digit of the fraction `num / den`, which is positive. -/
def leading (num den : Nat) : Int :=
  if den ≤ num then (width (num / den) : Int) - 1
  else
    let w := width (den / num)
    if den ≤ num * Nat.pow 10 (w - 1) then 1 - (w : Int) else -(w : Int)

/-- The decimal with `count` digits nearest to `num / den` among its two neighbours that lie
between `low / den` and `high / den`, as digits and exponent. -/
def onGrid (tie : Tie) (low num high den : Nat) (inclusive : Bool) (top : Int) (count : Nat) :
    Option (Nat × Int) :=
  let k : Int := top - (count : Int) + 1
  let scale (n : Nat) : Nat := if k < 0 then n * Nat.pow 10 k.natAbs else n
  let unit := if k < 0 then den else den * Nat.pow 10 k.natAbs
  let (low, num, high) := (scale low, scale num, scale high)
  let below := num / unit
  let inside (d : Nat) : Bool :=
    if inclusive then low ≤ d * unit && d * unit ≤ high
    else low < d * unit && d * unit < high
  match inside below, inside (below + 1) with
  | true, true =>
    let down := num - below * unit
    let up := (below + 1) * unit - num
    some (if down < up || (down == up && tie.keeps below) then below else below + 1, k)
  | true, false => some (below, k)
  | false, true => some (below + 1, k)
  | false, false => none

/-- The shortest digits for a significand and a binary exponent; `lowest` tells that the
significand is the least of its binade, where the interval is narrower below. -/
def shortest (tie : Tie) (m : Nat) (q : Int) (lowest : Bool) : Nat × Int :=
  -- Four times the significand leaves room for the halves and quarters of the ends.
  let (low, num, high) := (if lowest then 4 * m - 1 else 4 * m - 2, 4 * m, 4 * m + 2)
  let e := q - 2
  let scale (n : Nat) : Nat := if 0 ≤ e then n * Nat.pow 2 e.natAbs else n
  let den := if 0 ≤ e then 1 else Nat.pow 2 e.natAbs
  let (low, num, high) := (scale low, scale num, scale high)
  let top := leading num den
  -- Seventeen digits are always enough; the ends belong to the interval of an even significand.
  let hit := (List.range 17).findSome? fun i =>
    onGrid tie low num high den (m % 2 == 0) top (i + 1)
  let (digits, exponent) := hit.getD (m, q)
  stripZeros 20 digits exponent

def ofFloat? (tie : Tie) (x : Float) : Option Decimal :=
  let bits := x.toBits.toNat
  let negative := bits / Nat.pow 2 63 == 1
  let biased := bits / Nat.pow 2 52 % 2048
  let fraction := bits % Nat.pow 2 52
  if biased = 2047 then none
  else if biased = 0 then
    if fraction = 0 then some ⟨negative, 0, 0⟩
    else
      let (digits, exponent) := shortest tie fraction (-1074) false
      some ⟨negative, digits, exponent⟩
  else
    let (digits, exponent) :=
      shortest tie (Nat.pow 2 52 + fraction) ((biased : Int) - 1075) (fraction == 0 && 1 < biased)
    some ⟨negative, digits, exponent⟩

end Decimal

end PromptPlan
