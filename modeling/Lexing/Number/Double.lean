/-! Real numbers of double precision: 53 binary digits, with exponents in bounds. All arithmetic is exact
up to one rounding at its end. -/
namespace Lexing

inductive Double where
  /-- `mantissa * 2 ^ exponent`, below zero if negative. Zero has a sign too. -/
  | finite (negative : Bool) (mantissa : Nat) (exponent : Int)
  | infinite (negative : Bool)
  /-- What is no number equals nothing. Its copies share a tag, if it has one. -/
  | undefined (tag : Option Nat)
deriving DecidableEq, Repr

namespace Double

def leastExponent : Int := -1074

def mostExponent : Int := 971

def zero (negative : Bool) : Double := finite negative 0 leastExponent

/-- The whole number nearest to a fraction, of two the even one. -/
def nearest (num den : Nat) : Nat :=
  let floor := num / den
  let rest := num % den
  if den < 2 * rest || (den == 2 * rest && floor % 2 == 1) then floor + 1 else floor

/-- A fraction divided by a power of two. -/
def descale (num den : Nat) (exponent : Int) : Nat × Nat :=
  (num * Nat.pow 2 (-exponent).toNat, den * Nat.pow 2 exponent.toNat)

/-- The exponent that leaves 53 binary digits of a fraction, or fewer where it would be out of bounds. -/
def exponentFor (num den : Nat) : Int :=
  let guess : Int := num.log2 - den.log2 - 52
  let (n, d) := descale num den guess
  max (if n / d < Nat.pow 2 52 then guess - 1 else guess) leastExponent

/-- The nearest number to a fraction. -/
def ofFraction (negative : Bool) (num den : Nat) : Double :=
  if num = 0 then zero negative
  else
    let exponent := exponentFor num den
    let (n, d) := descale num den exponent
    let mantissa := nearest n d
    let (mantissa, exponent) :=
      if mantissa = Nat.pow 2 53 then (Nat.pow 2 52, exponent + 1) else (mantissa, exponent)
    if mostExponent < exponent then infinite negative else finite negative mantissa exponent

/-- The nearest number to `n * 2 ^ exponent`. -/
def ofBinary (negative : Bool) (n : Nat) (exponent : Int) : Double :=
  ofFraction negative (n * Nat.pow 2 exponent.toNat) (Nat.pow 2 (-exponent).toNat)

/-- A whole number that is too large has none near it. -/
def ofInt? (n : Int) : Option Double :=
  match ofBinary (n < 0) n.natAbs 0 with
  | finite negative mantissa exponent => some (finite negative mantissa exponent)
  | _ => none

def signed (negative : Bool) (n : Nat) : Int := if negative then -n else n

/-- A sum of zero is negative only if both its terms are. -/
def add : Double → Double → Double
  | finite s m e, finite t n f =>
    let exponent := min e f
    let sum := signed s m * Int.pow 2 (e - exponent).toNat + signed t n * Int.pow 2 (f - exponent).toNat
    if sum = 0 then zero (s && t) else ofBinary (sum < 0) sum.natAbs exponent
  | infinite s, infinite t => if s = t then infinite s else undefined none
  | undefined _, _ | _, undefined _ => undefined none
  | infinite s, _ | _, infinite s => infinite s

def isZero : Double → Bool
  | finite _ mantissa _ => mantissa == 0
  | _ => false

def equals : Double → Double → Bool
  | finite s m e, finite t n f =>
    signed s m * Int.pow 2 (e - min e f).toNat == signed t n * Int.pow 2 (f - min e f).toNat
  | infinite s, infinite t => s == t
  | _, _ => false

def equalsInt (x : Double) (n : Int) : Bool := x.equals (finite (n < 0) n.natAbs 0)

/-- Copies of what is no number, told by their tag. -/
def isCopy : Double → Double → Bool
  | undefined (some a), undefined (some b) => a == b
  | _, _ => false

end Double

end Lexing
