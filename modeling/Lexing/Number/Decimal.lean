import Lexing.Number.Double
import Lexing.Text.Numeral

/-! Doubles as decimal text. A number is written with the fewest digits that are read back as it. -/
namespace Lexing.Double

/-- The nearest number to `n * 10 ^ exponent`. Far out of bounds nothing is computed. -/
def ofDecimal (negative : Bool) (n : Nat) (exponent : Int) : Double :=
  let leading : Int := exponent + (Nat.toDigits 10 n).length
  if n = 0 ∨ leading < -330 then zero negative
  else if 330 < leading then infinite negative
  else ofFraction negative (n * Nat.pow 10 exponent.toNat) (Nat.pow 10 (-exponent).toNat)

/-- The least power of ten beyond a fraction that is not zero. -/
def decimalScale (num den : Nat) : Int :=
  if den ≤ num then (Nat.toDigits 10 (num / den)).length
  else 1 - (Nat.toDigits 10 ((den - 1) / num)).length

/-- One of the two decimals of `count` digits around a number, as digits and power of ten, if it is read
back as the number; the nearer if both are. -/
def decimalOf? (mantissa : Nat) (exponent : Int) (count : Nat) : Option (Nat × Int) :=
  let num := mantissa * Nat.pow 2 exponent.toNat
  let den := Nat.pow 2 (-exponent).toNat
  let place := decimalScale num den - count
  let a := num * Nat.pow 10 (-place).toNat
  let b := den * Nat.pow 10 place.toNat
  let near := nearest a b
  let far := if near = a / b then near + 1 else a / b
  ([near, far].find? fun n => ofDecimal false n place == finite false mantissa exponent).map (·, place)

/-- Seventeen digits are always enough. -/
def shortest (mantissa : Nat) (exponent : Int) : Nat × Int :=
  ((List.range 17).findSome? fun i => decimalOf? mantissa exponent (i + 1)).getD (mantissa, 0)

/-- Digits with the point `point` places after the first. Numbers below 0.0001 or from 10^16 on are
written with an exponent of at least two digits. -/
def layout (digits : List Char) (point : Int) : List Char :=
  let zeros (n : Int) : List Char := List.replicate n.toNat '0'
  if point ≤ -4 ∨ 16 < point then
    let power := point - 1
    let rest := digits.drop 1
    let exponent := Nat.toDigits 10 power.natAbs
    digits.take 1 ++ (if rest.isEmpty then [] else '.' :: rest) ++ 'e' :: (if power < 0 then '-' else '+') ::
      zeros (2 - exponent.length) ++ exponent
  else if point ≤ 0 then '0' :: '.' :: zeros (-point) ++ digits
  else
    let whole := digits.take point.toNat ++ zeros (point - digits.length)
    let rest := digits.drop point.toNat
    whole ++ '.' :: if rest.isEmpty then ['0'] else rest

def renderFinite (mantissa : Nat) (exponent : Int) : List Char :=
  if mantissa = 0 then ['0', '.', '0']
  else
    let (n, place) := shortest mantissa exponent
    let digits := Nat.toDigits 10 n
    layout (digits.reverse.dropWhile (· == '0')).reverse (digits.length + place)

def render : Double → String
  | finite negative mantissa exponent =>
    String.ofList ((if negative then ['-'] else []) ++ renderFinite mantissa exponent)
  | infinite negative => if negative then "-inf" else "inf"
  | undefined _ => "nan"

def readSign (cs : List Char) : Bool × List Char :=
  match cs with
  | '-' :: rest => (true, rest)
  | '+' :: rest => (false, rest)
  | _ => (false, cs)

/-- Digits with a point among them at most, and an exponent at most. -/
def readFinite? (negative : Bool) (cs : List Char) : Option Double :=
  let (number, power) := cs.span fun c => c != 'e' && c != 'E'
  let (whole, fraction) := number.span (· != '.')
  let (down, shift) := readSign (power.drop 1)
  let fraction := fraction.drop 1
  if (whole ++ fraction ++ shift).all Char.isDigit && !(whole ++ fraction).isEmpty &&
      power.isEmpty == shift.isEmpty then
    some (ofDecimal negative (Text.decimal (whole ++ fraction)) (signed down (Text.decimal shift) - fraction.length))
  else none

/-- Words are read in small and capital letters. -/
def ofText? (text : String) : Option Double :=
  let (negative, cs) := readSign text.toList
  let word := String.ofList (cs.map Char.toLower)
  if word = "inf" ∨ word = "infinity" then some (infinite negative)
  else if word = "nan" then some (undefined none)
  else readFinite? negative cs

end Lexing.Double
