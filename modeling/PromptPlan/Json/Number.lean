import PromptPlan.Json.Basic

/-!
# Numbers of JSON texts

Whole numbers of at most 64 bits are exact. A float is found quickly and not always nearest: as
many leading digits as fit into 64 bits become a float, which is scaled by a power of ten, and
both steps round.
-/

namespace PromptPlan.Json

structure NumberParts where
  negative : Bool
  whole : List Nat
  decimals : Option (List Nat)
  exponent : Option (Bool × List Nat)
deriving Repr

def maxWord : Nat := Nat.pow 2 64 - 1

/-- Extends a number by digits as long as it stays within 64 bits; gives the digits left. -/
def takeDigits (n : Nat) : List Nat → Nat × List Nat
  | [] => (n, [])
  | d :: rest => if maxWord < n * 10 + d then (n, d :: rest) else takeDigits (n * 10 + d) rest

def digitsToNat (digits : List Nat) : Nat :=
  digits.foldl (fun n d => n * 10 + d) 0

def powerOfTen (n : Nat) : Float := Float.ofScientific 1 false n

/-- The float `f * 10 ^ exponent`, in steps of at most 308 powers. -/
def scaleFloat : Nat → Float → Int → Option Float
  | 0, f, _ => some f
  | fuel + 1, f, exponent =>
    if exponent.natAbs ≤ 308 then
      if 0 ≤ exponent then
        let g := f * powerOfTen exponent.natAbs
        if g.isInf then none else some g
      else some (f / powerOfTen exponent.natAbs)
    else if f == 0.0 then some f
    else if 0 ≤ exponent then none
    else scaleFloat fuel (f / powerOfTen 308) (exponent + 308)

def floatOfParts (negative : Bool) (significand : Nat) (exponent : Int) : Option Float :=
  -- A division by the greatest power takes a number of 64 bits to zero in three steps.
  (scaleFloat 4 significand.toUInt64.toFloat exponent).map fun f => if negative then -f else f

/-- The float of a number whose significant digits give `significand * 10 ^ start`. -/
def applyExponent (negative : Bool) (significand : Nat) (start : Int) :
    Option (Bool × List Nat) → Option Float
  | none => floatOfParts negative significand start
  | some (negativeExponent, digits) =>
    let n := digitsToNat digits
    if Nat.pow 2 31 ≤ n then
      if significand ≠ 0 ∧ ¬negativeExponent then none
      else some (if negative then -0.0 else 0.0)
    else
      floatOfParts negative significand (if negativeExponent then start - n else start + n)

/-- The value of a number, unless it is out of range. -/
def NumberParts.value? (p : NumberParts) : Option Json :=
  let (n, dropped) := takeDigits 0 p.whole
  if dropped.isEmpty ∧ p.decimals.isNone ∧ p.exponent.isNone then
    if ¬p.negative then some (.int n)
    else if n = 0 then some (.float (-0.0))
    else if n ≤ Nat.pow 2 63 then some (.int (-(n : Int)))
    else some (.float (-n.toUInt64.toFloat))
  else
    let (significand, exponent) : Nat × Int :=
      match p.decimals with
      | none => (n, (dropped.length : Int))
      | some decimals =>
        let (m, left) := takeDigits n decimals
        (m, (dropped.length : Int) - ((decimals.length - left.length : Nat) : Int))
    (applyExponent p.negative significand exponent p.exponent).map .float

end PromptPlan.Json
