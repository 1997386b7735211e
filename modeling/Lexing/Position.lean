import Lexing.Text.Quoted

/-! Where a stretch of a source begins. Counted from any start, so numbers may be negative. -/
namespace Lexing

structure Position where
  offset : Int
  line : Int
  column : Int
  length : Int
  source : Option String
deriving DecidableEq, Repr

/-- A label in front of the line and column, unless it is absent or empty. -/
def locate (source : Option String) (line column : Int) : String :=
  match source with
  | some label => if label.isEmpty then s!"{line}:{column}" else s!"{label}:{line}:{column}"
  | none => s!"{line}:{column}"

namespace Position

def display (p : Position) : String := locate p.source p.line p.column

def stop (p : Position) : Int := p.offset + p.length

def render (p : Position) : String :=
  let source := match p.source with
    | some label => Text.quote label
    | none => "None"
  s!"StreamPosition(stream_offset={p.offset}, line_number={p.line}, line_offset={p.column}, " ++
    s!"length={p.length}, source_file={source})"

end Position

end Lexing
