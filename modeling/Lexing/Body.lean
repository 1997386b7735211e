import Lexing.LexerType

/-! Bodies of lexer kinds: bindings of names, made in order. Every declaration that is ever bound
counts, at its first binding, whatever its name is bound to afterwards. Some names are those of settings,
which are what the name is bound to in the end. -/
namespace Lexing

/-- A declaration told apart from others of the same content. -/
structure Declared where
  id : Nat
  declaration : Declaration

inductive Binding where
  | declared (d : Declared)
  | value (v : Value)

inductive BodyItem where
  /-- Declares a rule and binds it. -/
  | rule (name : String) (spec : RuleSpec)
  /-- Declares a rule and binds what decorating it makes. -/
  | decorated (name : String) (spec : RuleSpec) (action : ActionSource)
  /-- Binds what another name is bound to. -/
  | alias (name other : String)
  /-- Binds what decorating a bound declaration makes. -/
  | decorate (name other : String) (action : ActionSource)
  /-- Binds a declaration that was made outside the body. -/
  | outer (name other : String)
  | value (name : String) (v : Value)
  | delete (name : String)

structure Body where
  bindings : List (String × Binding)
  /-- The declarations bound so far, each once. -/
  declared : List Declared
  /-- The number that tells the next declaration apart. -/
  next : Nat

namespace Body

def find (body : Body) (name : String) : Except Fault Binding :=
  match body.bindings.lookup name with
  | some binding => .ok binding
  | none => .error (.unknownName name)

def record (d : Declared) (declared : List Declared) : List Declared :=
  if declared.any (·.id == d.id) then declared else declared ++ [d]

def bind (body : Body) (name : String) (binding : Binding) : Body where
  bindings := (name, binding) :: body.bindings.filter (·.1 != name)
  declared := match binding with
    | .declared d => record d body.declared
    | .value _ => body.declared
  next := body.next

/-- Binds a declaration unlike any before. -/
def bindNew (body : Body) (name : String) (declaration : Declaration) : Body :=
  { body with next := body.next + 1 }.bind name (.declared ⟨body.next, declaration⟩)

/-- Declarations made outside are found by their names. -/
def step (outer : String → Except Fault Declared) (body : Body) : BodyItem → Except Fault Body
  | .rule name spec => do return body.bindNew name (← Declaration.declare spec)
  | .decorated name spec action => do
    return body.bindNew name ((← Declaration.declare spec).withAction action)
  | .alias name other => do return body.bind name (← body.find other)
  | .decorate name other action => do
    match ← body.find other with
    | .declared d => return body.bindNew name (d.declaration.withAction action)
    | .value v => throw (.notCallable v.kind)
  | .outer name other => do return body.bind name (.declared (← outer other))
  | .value name v => return body.bind name (.value v)
  | .delete name => do
    let _ ← body.find name
    return { body with bindings := body.bindings.filter (·.1 != name) }

/-- Numbers from `next` on are free. -/
def ofItems (outer : String → Except Fault Declared) (next : Nat) (items : List BodyItem) : Except Fault Body :=
  items.foldlM (step outer) ⟨[], [], next⟩

def declarations (body : Body) : List Declaration := body.declared.map (·.declaration)

/-- The policy a declaration is taken for. -/
def policyOf : Binding → PolicyChoice
  | .value v => .value v
  | .declared d => .other (d.declaration.render?.getD Declaration.kind)

def stateOf : Binding → Except Fault String
  | .value (.str state) => .ok state
  | .value v => .error (.notName v.kind)
  | .declared _ => .error (.notName Declaration.kind)

def environmentOf : Binding → Except Fault EnvironmentChoice
  | .value v => .ok (.value v)
  | .declared _ => .error (.notName Declaration.kind)

/-- Nothing that a body binds is a definition. -/
def checkDefinition : Binding → Except Fault Unit
  | .value v => .error (.noAttribute v.kind "rule_count")
  | .declared _ => .error (.noAttribute Declaration.kind "rule_count")

/-- The settings that the body makes. -/
def settings (body : Body) : Except Fault TypeSettings := do
  let start ← (body.bindings.lookup "start_state").mapM stateOf
  let environment ← (body.bindings.lookup "environment_class").mapM environmentOf
  let _ ← (body.bindings.lookup "definition").mapM checkDefinition
  return { policy := (body.bindings.lookup "match_type").map policyOf, start, environment }

end Body

end Lexing
