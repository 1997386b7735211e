import Lexing.LexerType

/-! A lexer for whole-number arithmetic with parentheses. -/
namespace Lexing.Calculator

/-- A rule whose matches all become tokens of one type, without a value. -/
def sign (pattern type : String) : Declaration :=
  ⟨.text pattern, defaultState, [], .action (.perform "<lambda>" fun _ => pure (.str type))⟩

def readNumber (text : String) : Act Value :=
  match Text.readInt text with
  | .ok n => pure (.tuple [.str "NUM", .int n])
  | .error cause => throw (.numeral cause)

def number : Declaration :=
  ⟨.text "[0-9]+", defaultState, [], .action (.perform "number" readNumber)⟩

def blank : Declaration := ⟨.text "\\s", defaultState, [], .absent⟩

def declarations : List Declaration := [
  sign "\\+" "PLS", sign "-" "SUB", sign "\\*" "MUL", sign "/" "DIV",
  sign "\\(" "LPAREN", sign "\\)" "RPAREN", number, blank]

/-- All its patterns can be read, so the base kind never stands in. -/
def lexer : LexerType := (LexerType.base.extend "Calculator" declarations {}).toOption.getD .base

end Lexing.Calculator
