import Lexing.Run

/-! A pass over one source, and passes from its start. -/
namespace Lexing

/-- A pass that may be taken up again where it stopped. -/
structure Scanner where
  definition : Definition
  text : Array Char
  label : Option String
  trace : Bool
  cursor : Cursor

namespace Scanner

def ofSource (definition : Definition) (source : String) (label : Option String) (trace : Bool) : Scanner :=
  ⟨definition, source.toList.toArray, label, trace, .start⟩

def run (s : Scanner) (env : Environment) : Run := s.definition.run s.text s.cursor env

def tokens (s : Scanner) (run : Run) : Except Fault (List Token) := run.tokens s.text s.label

def log (s : Scanner) (run : Run) : List Record := run.log s.label s.trace

/-- The pass as a run leaves it. -/
def after (s : Scanner) (run : Run) : Scanner := { s with cursor := run.cursor }

end Scanner

/-- What one pass over a source yields. -/
structure Lexed where
  tokens : Except Fault (List Token)
  environment : Environment
  log : List Record

/-- Tokens with the lists in them as they are in an environment; so too what a fault tells. -/
def Environment.readTokens (env : Environment) (tokens : Except Fault (List Token)) : Except Fault (List Token) :=
  match tokens with
  | .ok tokens => .ok (tokens.map (·.mapValues env.read))
  | .error fault => .error (env.readFault fault)

/-- The tokens as they are once the pass is over. -/
def Lexed.answer (lexed : Lexed) : Except Fault (List Token) := lexed.environment.readTokens lexed.tokens

/-- Lexes a source from its start in a given environment. -/
def Definition.lex (d : Definition) (source : String) (env : Environment) (label : Option String) (trace : Bool) :
    Lexed :=
  let scanner := Scanner.ofSource d source label trace
  let run := scanner.run env
  ⟨scanner.tokens run, run.environment, scanner.log run⟩

end Lexing
