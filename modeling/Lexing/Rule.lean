import Lexing.Environment
import Lexing.Value.Items

/-! Rules: a pattern, the states and flags it needs, and what to do with its matches. -/
namespace Lexing

/-- What a rule may be given as a pattern. -/
inductive PatternSource where
  | text (source : PatternText)
  | compiled (pattern : Pattern)
  | bytes (source : String)
  | other (v : Value)

/-- What a rule may be given as an action. -/
inductive ActionSource where
  | absent
  | action (a : Action)
  | other (v : Value)

structure RuleSpec where
  pattern : PatternSource
  state : String := defaultState
  flags : Value := .tuple []
  action : ActionSource := .absent

/-- A pattern that is ready to be tried; one over bytes always fails to be. -/
inductive Matcher where
  | text (pattern : Pattern)
  | bytes (source : String)

namespace Matcher

def tryAt (text : Array Char) (place : Nat) : Matcher → Except Fault (Option Match)
  | .text pattern => .ok (pattern.matchAt text place)
  | .bytes _ => .error .bytesPattern

/-- Bytes beyond ASCII are shown by their codes. -/
def quoteByte (mark : Char) (byte : UInt8) : List Char :=
  if byte < 0x80 then Text.quoteChar mark (Char.ofNat byte.toNat)
  else '\\' :: 'x' :: Text.hexDigits 2 byte.toNat

/-- The source of the pattern, quoted. -/
def render : Matcher → String
  | .text pattern => Text.quote pattern.source
  | .bytes source =>
    let mark := Text.quoteMark source.toList
    String.ofList ('b' :: mark :: source.toUTF8.toList.flatMap (quoteByte mark) ++ [mark])

end Matcher

structure Rule where
  matcher : Matcher
  action : Action
  /-- The state the rule was declared for; where it is tried is up to the table. -/
  state : String
  flags : FlagSet

/-- Only a malformed pattern is told as such. -/
def readFault (malformed : Pattern.Malformed → Fault) : Pattern.ReadFault → Fault
  | .malformed cause => malformed cause
  | .repetitionTooLarge => .repetitionTooLarge
  | .numberTooLong digits => .numeral (.tooLong digits)
  | .codeTooLarge => .codeTooLarge
  | .scriptClash => .scriptClash
  | .lookbehindTooLong => .lookbehindTooLong

/-- A pattern that is compiled under settings before any rule is made of it. -/
def PatternSource.compile (source : PatternText) (settings : List Char) : Except Fault PatternSource :=
  match Pattern.compile source settings with
  | .ok pattern => .ok (.compiled pattern)
  | .error fault => .error (readFault (.unreadPattern source) fault)

def PatternSource.matcher : PatternSource → Except Fault Matcher
  | .text source =>
    match Pattern.compile source [] with
    | .ok pattern => .ok (.text pattern)
    | .error fault => .error (readFault (.malformedPattern source) fault)
  | .compiled pattern => .ok (.text pattern)
  | .bytes source => .ok (.bytes source)
  | .other v => .error (.notPattern v.kind)

def ActionSource.action? : ActionSource → Except Fault Action
  | .absent => .ok .discard
  | .other .null => .ok .discard
  | .action a => .ok a
  | .other v => .error (.notAction v.kind)

namespace FlagSet

def nameOf : Value → Except Fault String
  | .str s => .ok s
  | v => do
    v.checkKey
    throw (.notName v.kind)

/-- A text is one flag, anything else a sequence of them. -/
def ofValue : Value → Except Fault FlagSet
  | .str s => .ok (ofList [s])
  | v => do return ofList (← (← v.items).mapM nameOf)

end FlagSet

namespace Rule

/-- Of several faults that of the pattern is told first, then that of the action, then that of the flags. -/
def create (spec : RuleSpec) : Except Fault Rule := do
  let matcher ← spec.pattern.matcher
  let action ← spec.action.action?
  let flags ← FlagSet.ofValue spec.flags
  return { matcher, action, state := spec.state, flags }

/-- All flags of the rule are set. -/
def enabled (rule : Rule) (flags : FlagSet) : Bool := rule.flags.isSubset flags

def render (rule : Rule) : String :=
  "Rule(" ++ rule.matcher.render ++ ", " ++ Text.quote rule.state ++ ", " ++ rule.action.name ++ ")"

end Rule

end Lexing
