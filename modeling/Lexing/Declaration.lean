import Lexing.Definition

/-! Rules declared ahead of the definition they will belong to. Only their flags are looked at. -/
namespace Lexing

structure Declaration where
  pattern : PatternSource
  state : String
  /-- In the order given, repeats kept. -/
  flags : List Value
  action : ActionSource

namespace Declaration

/-- The name of the kind, as messages give it. -/
def kind : String := "RuleDeclaration"

def declare (spec : RuleSpec) : Except Fault Declaration := do
  let flags ← match spec.flags with
    | .str s => pure [Value.str s]
    | v => v.items
  return { pattern := spec.pattern, state := spec.state, flags, action := spec.action }

/-- The same declaration with another action. -/
def withAction (d : Declaration) (action : ActionSource) : Declaration := { d with action }

def spec (d : Declaration) : RuleSpec :=
  { pattern := d.pattern, state := d.state, flags := .tuple d.flags, action := d.action }

def hasAction (d : Declaration) : Bool :=
  match d.action with
  | .absent | .other .null => false
  | _ => true

/-- Shown only with a pattern given as text and without an action. -/
def render? (d : Declaration) : Option String :=
  match d.pattern, d.hasAction with
  | .text source, false => some <|
    kind ++ "(pattern=" ++ Text.quote source ++ ", state=" ++ Text.quote d.state ++
      ", flags=" ++ (Value.tuple d.flags).render ++ ", action=None)"
  | _, _ => none

end Declaration

/-- Declares each in turn. -/
def Definition.declareAll (d : Definition) (declarations : List Declaration) : Except Fault Definition :=
  declarations.foldlM (fun d declaration => d.rule declaration.spec) d

end Lexing
