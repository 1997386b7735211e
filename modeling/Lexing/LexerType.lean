import Lexing.Declaration
import Lexing.Scanner

/-! Kinds of lexer. A kind that extends another takes over its settings, but not its rules. -/
namespace Lexing

structure LexerType where
  name : String
  definition : Definition
  policy : PolicyChoice
  start : String
  environment : EnvironmentChoice

/-- The kind all others extend. -/
def LexerType.base : LexerType := ⟨"Lexer", .empty, .policy .longest, defaultState, .kind .plain⟩

/-- What a new kind says for itself. A definition of its own goes before rules, policy and start. -/
structure TypeSettings where
  policy : Option PolicyChoice := none
  start : Option String := none
  environment : Option EnvironmentChoice := none
  definition : Option Definition := none

/-- Settings, and others where they say nothing. -/
def TypeSettings.orElse (settings others : TypeSettings) : TypeSettings where
  policy := settings.policy.or others.policy
  start := settings.start.or others.start
  environment := settings.environment.or others.environment
  definition := settings.definition.or others.definition

namespace LexerType

def define (declarations : List Declaration) (policy : PolicyChoice) (start : String) : Except Fault Definition := do
  return (← (← Definition.empty.declareAll declarations).withPolicy policy).withStart start

def extend (parent : LexerType) (name : String) (declarations : List Declaration) (settings : TypeSettings) :
    Except Fault LexerType := do
  let policy := settings.policy.getD parent.policy
  let start := settings.start.getD parent.start
  let definition ← match settings.definition with
    | some d => pure d
    | none => define declarations policy start
  let environment := settings.environment.getD parent.environment
  return { name, definition, policy, start, environment }

/-- What is logged when a kind has been made. -/
def record (type : LexerType) : Record :=
  ⟨.lexerTypes, s!"Lexer {type.name}: {type.definition.table.ruleCount} rules in " ++
    s!"{type.definition.table.size} states"⟩

/-- A new environment in the start state of the definition. -/
def newEnvironment (type : LexerType) : Except Fault Environment :=
  type.environment.make type.definition.start

end LexerType

end Lexing
