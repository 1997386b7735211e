import Lexing.Pattern.Node

/-! Matching a tree at a place of a text. Ways to match are tried in order and the first that lets the
rest succeed is taken. The rest is a function of the place reached, which never lies before the place
set out from; so every loop ends with the text. -/
namespace Lexing.Pattern

/-- Where each group was last entered and left. -/
abbrev Marks := Array (Option Nat × Option Nat)

def Marks.enter (marks : Marks) (group place : Nat) : Marks :=
  marks.modify (group - 1) fun (_, stop) => (some place, stop)

def Marks.leave (marks : Marks) (group place : Nat) : Marks :=
  marks.modify (group - 1) fun (start, _) => (start, some place)

/-- What a group holds, once it has been left after being entered. -/
def Marks.span? (marks : Marks) (group : Nat) : Option (Nat × Nat) :=
  match marks[group - 1]? with
  | some (some start, some stop) => if start ≤ stop then some (start, stop) else none
  | _ => none

structure Place (text : Array Char) where
  offset : Nat
  marks : Marks
  inside : offset ≤ text.size

/-- Ways to go from a place to a later one, for any continuation. -/
abbrev Walk (text : Array Char) :=
  (β : Type) → (p : Place text) → ((q : Place text) → p.offset ≤ q.offset → Option β) → Option β

namespace Walk

variable {text : Array Char}

def stay : Walk text := fun _ p k => k p (Nat.le_refl _)

def fail : Walk text := fun _ _ _ => none

def when (condition : Place text → Bool) : Walk text := fun _ p k =>
  if condition p then k p (Nat.le_refl _) else none

def andThen (a b : Walk text) : Walk text := fun β p k =>
  a β p fun q hq => b β q fun r hr => k r (Nat.le_trans hq hr)

def orElse (a b : Walk text) : Walk text := fun β p k => (a β p k).or (b β p k)

def mark (update : Marks → Nat → Marks) : Walk text := fun _ p k =>
  k { p with marks := update p.marks p.offset } (Nat.le_refl _)

/-- Takes one character that passes the test. -/
def one (test : Char → Bool) : Walk text := fun _ p k =>
  if h : p.offset < text.size then
    if test text[p.offset] then k { p with offset := p.offset + 1, inside := h } (Nat.le_succ _) else none
  else none

/-- The first end of a walk by itself. -/
def outcome? (a : Walk text) (p : Place text) : Option { q : Place text // p.offset ≤ q.offset } :=
  a _ p fun q h => some ⟨q, h⟩

/-- Settles on the first way the walk can be made. -/
def atomic (a : Walk text) : Walk text := fun _ p k =>
  match a.outcome? p with
  | some ⟨q, h⟩ => k q h
  | none => none

/-- Takes the characters that stand from `start` to before `stop`, up to folding. -/
def again (fold : Char → Nat) (start stop : Nat) : Walk text :=
  if start < stop then
    match text[start]? with
    | some c => andThen (one fun d => fold d == fold c) (again fold (start + 1) stop)
    | none => fail
  else stay
termination_by stop - start

/-- Looks from `back` characters earlier, and comes back with what groups have taken. -/
def look (back : Nat) (wanted : Bool) (a : Walk text) : Walk text := fun _ p k =>
  let found := if back ≤ p.offset then
      outcome? a { p with offset := p.offset - back, inside := Nat.le_trans (Nat.sub_le _ _) p.inside }
        |>.map (·.1.marks)
    else none
  if wanted then
    match found with
    | some marks => k { p with marks } (Nat.le_refl _)
    | none => none
  else if found.isNone then k p (Nat.le_refl _) else none

/-- Goes on as `k` after `n` rounds from a place not before `start`. -/
def exactly (a : Walk text) {β : Type} {start : Nat}
    (k : (q : Place text) → start ≤ q.offset → Option β) :
    Nat → (p : Place text) → start ≤ p.offset → Option β
  | 0, p, h => k p h
  | n + 1, p, h => a β p fun q hq => exactly a k n q (Nat.le_trans h hq)

/-- Tries another round before it goes on as `k`. A round that takes nothing is the last; `most` counts
the rounds that are left. -/
def greedy (a : Walk text) {β : Type} {start : Nat}
    (k : (q : Place text) → start ≤ q.offset → Option β)
    (most : Option Nat) (p : Place text) (h : start ≤ p.offset) : Option β :=
  if most = some 0 then k p h
  else
    (a β p fun q hq =>
      if _forward : p.offset < q.offset then greedy a k (most.map (· - 1)) q (Nat.le_trans h hq)
      else k q (Nat.le_trans h hq)).or (k p h)
termination_by text.size - p.offset
decreasing_by have := q.inside; omega

/-- Goes on as `k` before it tries another round. -/
def lazy (a : Walk text) {β : Type} {start : Nat}
    (k : (q : Place text) → start ≤ q.offset → Option β)
    (most : Option Nat) (p : Place text) (h : start ≤ p.offset) : Option β :=
  (k p h).or <|
    if most = some 0 then none
    else
      a β p fun q hq =>
        if _forward : p.offset < q.offset then lazy a k (most.map (· - 1)) q (Nat.le_trans h hq)
        else k q (Nat.le_trans h hq)
termination_by text.size - p.offset
decreasing_by have := q.inside; omega

/-- Goes round as often as it can, each round settled before the next, and then on as `k`. -/
def possessive (a : Walk text) {β : Type} {start : Nat}
    (k : (q : Place text) → start ≤ q.offset → Option β)
    (most : Option Nat) (p : Place text) (h : start ≤ p.offset) : Option β :=
  if most = some 0 then k p h
  else match a.outcome? p with
    | none => k p h
    | some ⟨q, hq⟩ =>
      if _forward : p.offset < q.offset then possessive a k (most.map (· - 1)) q (Nat.le_trans h hq)
      else k q (Nat.le_trans h hq)
termination_by text.size - p.offset
decreasing_by have := q.inside; omega

/-- At least `least` rounds and at most `most`, more or fewer of them first as `greed` says. -/
def rounds (a : Walk text) (greed : Greed) (least : Nat) (most : Option Nat) : Walk text := fun _ p k =>
  let rest := most.map (· - least)
  match greed with
  | .greedy => exactly a (greedy a k rest) least p (Nat.le_refl _)
  | .lazy => exactly a (lazy a k rest) least p (Nat.le_refl _)
  | .possessive => exactly a.atomic (possessive a k rest) least p (Nat.le_refl _)

end Walk

def wordAt (text : Array Char) (ascii : Bool) (place : Nat) : Bool :=
  match text[place]? with
  | some c => CharClass.word.admits ascii c
  | none => false

/-- No boundary is told from none in an empty text. -/
def Anchor.holds (text : Array Char) (offset : Nat) : Anchor → Bool
  | .textStart => offset == 0
  | .textEnd => offset == text.size
  | .lastLine => offset == text.size || (offset + 1 == text.size && text[offset]? == some '\n')
  | .lineStart => offset == 0 || text[offset - 1]? == some '\n'
  | .lineEnd => offset == text.size || text[offset]? == some '\n'
  | .boundary ascii => text.size != 0 && before ascii != wordAt text ascii offset
  | .noBoundary ascii => text.size != 0 && before ascii == wordAt text ascii offset
where
  before (ascii : Bool) : Bool := offset != 0 && wordAt text ascii (offset - 1)

def Node.walk (text : Array Char) : Node → Walk text
  | .empty => .stay
  | .char set => .one set.admits
  | .anchor kind => .when fun p => kind.holds text p.offset
  | .seq a b => (a.walk text).andThen (b.walk text)
  | .alt a b => (a.walk text).orElse (b.walk text)
  | .capture group body =>
    (Walk.mark fun marks place => marks.enter group place).andThen <|
      (body.walk text).andThen <| .mark fun marks place => marks.leave group place
  | .reference group folding => fun β p k =>
    match p.marks.span? group with
    | some (start, stop) => Walk.again (fun c => folding.lower c.toNat) start stop β p k
    | none => none
  | .repetition least most greed body => (body.walk text).rounds greed least most
  | .atomic body => (body.walk text).atomic
  | .scoped body => body.walk text
  | .ahead wanted body => (body.walk text).look 0 wanted
  | .behind wanted width body => (body.walk text).look width.least wanted
  | .choice group yes no => fun β p k =>
    if (p.marks.span? group).isSome then yes.walk text β p k else no.walk text β p k

end Lexing.Pattern
