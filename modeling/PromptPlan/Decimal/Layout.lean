import PromptPlan.Decimal.Shortest

/-!
# Layouts of decimals

Floats are written in three ways in this library: in sentences, in listings for inspection,
and in documents.
-/

namespace PromptPlan

structure Layout where
  tie : Tie
  /-- The least and greatest exponents of the leading digit that are written positionally;
  without them all are. -/
  positional : Option (Int × Int)
  /-- Whether a whole number written positionally ends in `.0`. -/
  point : Bool
  /-- Whether a positive exponent has a plus sign. -/
  plus : Bool

def Layout.sentence : Layout := ⟨.away, none, false, false⟩

/-- In listings, a power of ten is written below `1e-4` and from `1e16` on. -/
def Layout.listing : Layout := ⟨.away, some (-4, 15), true, false⟩

/-- In documents, a power of ten is written below `1e-5` and from `1e16` on, with its sign. -/
def Layout.document : Layout := ⟨.even, some (-5, 15), true, true⟩

namespace Decimal

/-- Digits with their point: `exponent` is that of the last digit. -/
def writePositional (point : Bool) (digits : Nat) (exponent : Int) : String :=
  let s := toString digits
  if 0 ≤ exponent then
    s ++ "".pushn '0' (if digits = 0 then 0 else exponent.natAbs) ++ (if point then ".0" else "")
  else
    let places := exponent.natAbs
    let padded := "".pushn '0' (places + 1 - s.length) ++ s
    let whole := padded.length - places
    String.ofList (padded.toList.take whole) ++ "." ++ String.ofList (padded.toList.drop whole)

def writePower (plus : Bool) (digits : Nat) (top : Int) : String :=
  let sign := if plus && 0 < top then "+" else ""
  match (toString digits).toList with
  | first :: [] => first.toString ++ "e" ++ sign ++ toString top
  | first :: rest => first.toString ++ "." ++ String.ofList rest ++ "e" ++ sign ++ toString top
  | [] => ""

def write (layout : Layout) (d : Decimal) : String :=
  let top := d.exponent + (width d.digits : Int) - 1
  let positional := d.digits == 0 || layout.positional.all fun (least, greatest) =>
    least ≤ top && top ≤ greatest
  (if d.negative then "-" else "") ++
    if positional then writePositional layout.point d.digits d.exponent
    else writePower layout.plus d.digits top

end Decimal

def Layout.write (layout : Layout) (x : Float) : String :=
  match Decimal.ofFloat? layout.tie x with
  | some d => d.write layout
  | none => if x.isNaN then "NaN" else if x < 0 then "-inf" else "inf"

end PromptPlan
