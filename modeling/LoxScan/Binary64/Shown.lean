/-
# `LoxScan.Binary64.Shown` — how a number is written out

A number is written with the digits of its shortest decimal.  Zero and the
magnitudes from the double `1e-4` up to, and not including, the double `1e16`
are written out in full, with at least one digit on each side of the point; the
others with one digit before the point and a power of ten.
-/
import LoxScan.Binary64.Shortest

namespace LoxScan.Binary64

/-- The magnitudes that are written without a power of ten. -/
def isPlain (m : Nat) : Bool :=
  m == 0 || (nearestMagnitude 1 (power 10 4) ≤ m && m < nearestMagnitude (power 10 16) 1)

/-- The digits of a decimal from the first to the last that is not zero. -/
def Decimal.significant (d : Decimal) : List Char :=
  ((Nat.toDigits 10 d.digits).reverse.dropWhile (· == '0')).reverse

/-- Where the point stands: how many places after the first digit of a decimal, which may be
negative. -/
def Decimal.point (d : Decimal) : Int :=
  (Nat.toDigits 10 d.digits).length + d.places - 1074

/-- Digits with the point written out in full. -/
def plain (digits : List Char) (point : Int) : List Char :=
  if point ≤ 0 then
    '0' :: '.' :: List.replicate point.natAbs '0' ++ digits
  else if digits.length ≤ point.natAbs then
    digits ++ List.replicate (point.natAbs - digits.length) '0' ++ ['.', '0']
  else
    digits.take point.natAbs ++ '.' :: digits.drop point.natAbs

/-- Digits with the point after the first of them and the power of ten that puts it right. -/
def scientific (digits : List Char) (point : Int) : List Char :=
  let fraction := digits.drop 1
  let exponent := (toString (point - 1)).toList
  digits.take 1 ++ (if fraction = [] then [] else '.' :: fraction) ++ 'e' :: exponent

/-- The text of a magnitude. -/
def shownMagnitude (m : Nat) : List Char :=
  if m = 0 then ['0', '.', '0']
  else if m = infinityBits then ['i', 'n', 'f']
  else
    let d := shortest m
    if isPlain m then plain d.significant d.point else scientific d.significant d.point

/-- The text of a number; what is no number has no sign. -/
def shown (x : Binary64) : String :=
  if x.isNaN then "NaN"
  else String.ofList ((if x.isNegative then ['-'] else []) ++ shownMagnitude x.magnitude)

end LoxScan.Binary64
