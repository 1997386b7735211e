import Lexing.Environment
import Lexing.Value.Items

/-! A small language for actions: statements on the environment, and expressions over it and the text
that was matched. -/
namespace Lexing

inductive GroupKey where
  | number (n : Int)
  | name (s : String)

inductive Expr where
  | const (v : Value)
  | text
  | int (e : Expr)
  | group (key : GroupKey)
  | groups
  | span (key : GroupKey)
  | state
  | states
  | depth
  | flags
  | hasFlag (e : Expr)
  | tuple (items : List Expr)
  | list (items : List Expr)
  | dict (entries : List (Expr × Expr))
  | emit (type value : Expr)
  | cat (items : List Expr)
  | join (e : Expr)
  | add (left right : Expr)
  | len (e : Expr)
  | eq (left right : Expr)
  | slice (e first past : Expr)
  | get (name : String)
deriving Inhabited

/-- What a raising statement raises. -/
inductive Raising where
  | alarm (kind : Alarm)
  | unmatched
  | lastState

inductive Stmt where
  | push (e : Expr)
  | pop
  | set (e : Expr)
  | flag (e : Expr)
  | unflag (e : Expr)
  | clear
  | put (name : String) (e : Expr)
  | append (name : String) (e : Expr)
  | raise (kind : Raising) (arguments : List Expr)
  | branch (condition : Expr) (yes no : List Stmt)
  | return (e : Expr)
deriving Inhabited

namespace Script

def currentMatch (wanted : String) : Act Match := do
  match (← get).lastMatch with
  | some m => return m
  | none => throw (.noAttribute Value.null.kind wanted)

def groupSpan (m : Match) (key : GroupKey) : Except Fault (Option (Nat × Nat)) :=
  let number? := match key with
    | .number (.ofNat n) => some n
    | .number _ => none
    | .name s => m.number? s
  match number?.bind m.span? with
  | some span => .ok span
  | none => .error .noGroup

/-- The text of a group, nothing if it took no part. -/
def groupText (m : Match) : Option (Nat × Nat) → Value
  | some (start, stop) => .str (Lexing.slice m.text start stop)
  | none => .null

def spanValue : Option (Nat × Nat) → Value
  | some (start, stop) => .tuple [.int start, .int stop]
  | none => .tuple [.int (-1), .int (-1)]

/-- A number toward zero. -/
def truncate : Double → Except Fault Int
  | .finite negative mantissa exponent =>
    let n := Double.signed negative mantissa
    .ok (if 0 ≤ exponent then n * Int.pow 2 exponent.toNat else n.tdiv (Int.pow 2 (-exponent).toNat))
  | x => .error (.noWhole x)

def toInt : Value → Except Fault Value
  | .str s => match Text.readInt s with
    | .ok n => .ok (.int n)
    | .error cause => .error (.numeral cause)
  | .real x => do return .int (← truncate x)
  | v => match v.whole? with
    | some n => .ok (.int n)
    | none => .error (.notNumeric v.kind)

def joinTexts (place : Nat) : List Value → Except Fault String
  | [] => .ok ""
  | .str s :: rest => do return s ++ (← joinTexts (place + 1) rest)
  | v :: _ => .error (.badJoin place v.kind)

/-- Joins the items of whatever has some. -/
def join (v : Value) : Except Fault Value :=
  match v.items with
  | .ok items => do return .str (← joinTexts 0 items)
  | .error _ => .error .notJoinable

def realOf (n : Int) : Except Fault Double :=
  match Double.ofInt? n with
  | some x => .ok x
  | none => .error .intTooLarge

/-- A sum of numbers is real if one of them is. -/
def sumNumbers (a b : Value) : Except Fault Value := do
  match a, a.whole?, b, b.whole? with
  | _, some m, _, some n => return .int (m + n)
  | .real x, _, .real y, _ => return .real (x.add y)
  | .real x, _, _, some n => return .real (x.add (← realOf n))
  | _, some m, .real y, _ => return .real ((← realOf m).add y)
  | _, _, _, _ => throw (.badAddition a.kind b.kind)

def sum : Value → Value → Except Fault Value
  | .str a, .str b => .ok (.str (a ++ b))
  | .list a, .list b => .ok (.list (a ++ b))
  | .tuple a, .tuple b => .ok (.tuple (a ++ b))
  | .str _, b => .error (.badConcatenation "str" b.kind)
  | .list _, b => .error (.badConcatenation "list" b.kind)
  | .tuple _, b => .error (.badConcatenation "tuple" b.kind)
  | a, b => sumNumbers a b

def size : Value → Except Fault Value
  | .str s => .ok (.int s.length)
  | .list items => .ok (.int items.length)
  | .tuple items => .ok (.int items.length)
  | .dict entries => .ok (.int entries.length)
  | v => .error (.noLength v.kind)

/-- A negative index counts from the end, and none goes beyond an end. -/
def clampIndex (length : Nat) (i : Int) : Nat :=
  if i < 0 then (length + i).toNat else min i.toNat length

/-- Nothing as an index stands for an end. -/
def indexOf (v : Value) (length other : Nat) : Except Fault Nat :=
  match v with
  | .null => .ok other
  | _ => match v.whole? with
    | some i => .ok (clampIndex length i)
    | none => .error .badIndex

def cut (items : List α) (first past : Value) : Except Fault (List α) := do
  let start ← indexOf first items.length 0
  let stop ← indexOf past items.length items.length
  return (items.take stop).drop start

def sliceValue (first past : Value) : Value → Except Fault Value
  | .str s => do return .str (String.ofList (← cut s.toList first past))
  | .list items => do return .list (← cut items first past)
  | .tuple items => do return .tuple (← cut items first past)
  | .dict _ => .error (.notHashable "slice")
  | v => .error (.notSliceable v.kind)

/-- A value with its items at hand. -/
def opened (v : Value) : Act Value := return (← get).shelf.opened v

/-- A value as it is now, all through. -/
def current (v : Value) : Act Value := return (← get).read v

mutual

def eval (text : String) : Expr → Act Value
  | .const v => return v
  | .text => return .str text
  | .int e => do liftExcept (toInt (← eval text e))
  | .group key => do
    let m ← currentMatch "group"
    return groupText m (← liftExcept (groupSpan m key))
  | .groups => do
    let m ← currentMatch "groups"
    return .tuple (m.groups.map (groupText m))
  | .span key => do
    let m ← currentMatch "span"
    return spanValue (← liftExcept (groupSpan m key))
  | .state => return .str (← get).state
  | .states => return .tuple ((← get).states.map .str)
  | .depth => return .int (← get).depth
  | .flags => return .list ((← get).flags.names.map .str)
  | .hasFlag e => do
    match ← eval text e with
    | .str name => return .bool ((← get).flags.contains name)
    | v => do
      liftExcept v.checkKey
      return .bool false
  | .tuple items => return .tuple (← evalAll text items)
  | .list items => return .list (← evalAll text items)
  | .dict entries => do liftExcept (Value.ofEntries (← evalEntries text entries))
  | .emit type value => do
    let t ← eval text type
    return .emit t (← eval text value)
  | .cat items => do return .str (← liftExcept (joinTexts 0 (← evalAll text items)))
  | .join e => do liftExcept (join (← opened (← eval text e)))
  | .add left right => do
    let a ← eval text left
    let b ← eval text right
    liftExcept (sum (← opened a) (← opened b))
  | .len e => do liftExcept (size (← opened (← eval text e)))
  | .eq left right => do
    let a ← eval text left
    let b ← eval text right
    return .bool ((← current a).same (← current b))
  | .slice e first past => do
    let v ← eval text e
    let i ← eval text first
    let j ← eval text past
    liftExcept (sliceValue i j (← opened v))
  | .get name => do liftExcept ((← get).get name)

def evalAll (text : String) : List Expr → Act (List Value)
  | [] => return []
  | e :: rest => do
    let v ← eval text e
    return v :: (← evalAll text rest)

def evalEntries (text : String) : List (Expr × Expr) → Act (List (Value × Value))
  | [] => return []
  | (k, e) :: rest => do
    let key ← eval text k
    let v ← eval text e
    return (key, v) :: (← evalEntries text rest)

end

/-- States and flags are named by text. -/
def evalName (text : String) (e : Expr) : Act String := do
  match ← eval text e with
  | .str s => return s
  | v => throw (.notName v.kind)

/-- The fault of that kind made from some arguments, or the fault that they do not make one. -/
def Raising.fault (values : List Value) : Raising → Fault
  | .alarm kind => .raised kind values
  | .unmatched => match Unmatched.ofValues values with
    | .ok input => .unmatched input
    | .error fault => fault
  | .lastState => match lastStateOf values with
    | .ok state => .lastState state
    | .error fault => fault

def popState : Act Unit := do
  set (← liftExcept (← get).pop)

mutual

/-- Runs a statement; the result is the value it returns, if it does. -/
def exec (text : String) : Stmt → Act (Option Value)
  | .push e => do
    let state ← evalName text e
    modify (·.push state)
    return none
  | .pop => do
    popState
    return none
  | .set e => do
    let state ← evalName text e
    modify (·.setState state)
    return none
  | .flag e => do
    let flag ← evalName text e
    modify (·.setFlag flag)
    return none
  | .unflag e => do
    let flag ← evalName text e
    modify (·.unsetFlag flag)
    return none
  | .clear => do
    modify (·.clearFlags)
    return none
  | .put name e => do
    let v ← eval text e
    set (← liftExcept ((← get).put name v))
    return none
  | .append name e => do
    match ← liftExcept ((← get).get name) with
    | .kept place =>
      let v ← eval text e
      modify (·.append place v)
      return none
    | v => throw (.noAttribute v.kind "append")
  | .raise kind arguments => do throw (Raising.fault (← evalAll text arguments) kind)
  | .branch condition yes no => do
    if (← opened (← eval text condition)).isTrue then execAll text yes else execAll text no
  | .return e => do return some (← eval text e)

/-- Statements in turn, up to the first that returns. -/
def execAll (text : String) : List Stmt → Act (Option Value)
  | [] => return none
  | s :: rest => do
    match ← exec text s with
    | some v => return some v
    | none => execAll text rest

end

/-- Statements, and then the value of an expression unless one of them returned. The items of a list
that results are at hand. -/
def action (name : String) (body : List Stmt) (result : Expr) : Action :=
  .perform name fun text => do
    match ← execAll text body with
    | some v => opened v
    | none => opened (← eval text result)

end Script

end Lexing
