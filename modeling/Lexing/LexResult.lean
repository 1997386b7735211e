import Lexing.Fault
import Lexing.Token

/-! The outcome of a lexing call that keeps unmatched input as a value. -/
namespace Lexing

structure LexResult where
  tokens : List Token
  error : Option Unmatched

namespace LexResult

def ok (r : LexResult) : Bool := r.error.isNone

/-- The tokens, unless there is an error. -/
def unwrap (r : LexResult) : Except Unmatched (List Token) :=
  match r.error with
  | some error => .error error
  | none => .ok r.tokens

/-- Unmatched input is a result; any other fault stays one. -/
def ofTokens : Except Fault (List Token) → Except Fault LexResult
  | .ok tokens => .ok ⟨tokens, none⟩
  | .error (.unmatched error) => .ok ⟨[], some error⟩
  | .error fault => .error fault

def render (r : LexResult) : String :=
  let error := match r.error with
    | some e => "LexingError(" ++ Text.quote e.message ++ ")"
    | none => "None"
  "LexResult(tokens=" ++ Value.tupleText (r.tokens.map Token.render) ++ ", error=" ++ error ++ ")"

end LexResult

end Lexing
