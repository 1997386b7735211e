import Lexing.Text.Blank
import Lexing.Text.Case
import Lexing.Text.Digit
import Lexing.Text.Letter

/-! Tests on one character: codes, ranges and classes, with or without regard to letter case. -/
namespace Lexing.Pattern

inductive CharClass where
  | digit
  | space
  | word
deriving DecidableEq, Repr

/-- Classes hold characters of every script unless narrowed to ASCII. -/
def CharClass.admits (kind : CharClass) (ascii : Bool) (c : Char) : Bool :=
  if ascii then
    c.toNat < 0x80 && match kind with
      | .digit => c.isDigit
      | .space => c == ' ' || (0x09 ≤ c.toNat && c.toNat ≤ 0x0d)
      | .word => c.isAlphanum || c == '_'
  else match kind with
    | .digit => Text.isDigit c
    | .space => Text.isBlank c
    | .word => Text.isWordChar c

/-- How letter case is set aside: not at all, for ASCII letters, or for those of every script. -/
inductive Folding where
  | exact
  | ascii
  | unicode
deriving DecidableEq, Repr

def Folding.lower (folding : Folding) (code : Nat) : Nat :=
  match folding with
  | .exact => code
  | .ascii => if 0x41 ≤ code && code ≤ 0x5a then code + 32 else code
  | .unicode => Text.lowerCode code

/-- The folded codes that stand for the same letter as a folded one. -/
def Folding.family (folding : Folding) (code : Nat) : List Nat :=
  match folding with
  | .unicode => Text.caseFamily code
  | _ => [code]

/-- All codes that fold to the given one. -/
def Folding.sources (folding : Folding) (code : Nat) : List Nat :=
  match folding with
  | .exact => [code]
  | .ascii => if 0x61 ≤ code && code ≤ 0x7a then [code, code - 32] else [code]
  | .unicode => code :: Text.CaseRun.sources Text.lowering code

inductive ClassItem where
  /-- A letter by itself, in any of its cases. -/
  | letter (n : Nat)
  /-- A code among others in a set. -/
  | code (n : Nat)
  | range (first last : Nat)
  | named (kind : CharClass) (ascii negated : Bool)
deriving DecidableEq, Repr

/-- Codes at and beyond this one lie outside the basic plane. -/
def basicPlaneEnd : Nat := 0x10000

/-- A letter as one code among others in a set. -/
def ClassItem.inSet : ClassItem → ClassItem
  | .letter n => .code n
  | item => item

/-- Outside the basic plane a code in a set stands for itself alone, and a range also takes the small
letters whose capital it holds. -/
def ClassItem.admits (folding : Folding) (c : Char) : ClassItem → Bool
  | .letter n => isCase n
  | .code n => if n < basicPlaneEnd then isCase n else folding.lower c.toNat == n
  | .range first last =>
    let holds (n : Nat) : Bool := first ≤ n && n ≤ last
    match folding with
    | .exact => holds c.toNat
    | _ =>
      let folded := folding.lower c.toNat
      ((folding.family folded).any fun n => (folding.sources n).any fun m => m < basicPlaneEnd && holds m)
        || (basicPlaneEnd ≤ last && (holds folded || holds (Text.upperCode folded)))
  | .named kind ascii negated => kind.admits ascii c != negated
where
  isCase (n : Nat) : Bool := (folding.family (folding.lower n)).contains (folding.lower c.toNat)

structure CharSet where
  items : List ClassItem
  negated : Bool
  folding : Folding
deriving DecidableEq, Repr

def CharSet.admits (set : CharSet) (c : Char) : Bool :=
  (set.items.any (·.admits set.folding c)) != set.negated

def CharSet.single (folding : Folding) (code : Nat) : CharSet := ⟨[.letter code], false, folding⟩

def CharSet.anyChar : CharSet := ⟨[], true, .exact⟩

def CharSet.notNewline : CharSet := ⟨[.code '\n'.toNat], true, .exact⟩

end Lexing.Pattern
