/-! How far a source has been consumed, and the line and column told for it. -/
namespace Lexing

structure Cursor where
  offset : Nat
  line : Nat
  column : Nat
deriving DecidableEq, Repr

namespace Cursor

def start : Cursor := ⟨0, 1, 0⟩

/-- Moves to `stop`. A chunk with newlines puts the column back to zero, whatever follows the last of
them in it. -/
def advance (c : Cursor) (text : Array Char) (stop : Nat) : Cursor :=
  let newlines := (text.extract c.offset stop).count '\n'
  if newlines = 0 then ⟨stop, c.line, c.column + (stop - c.offset)⟩
  else ⟨stop, c.line + newlines, 0⟩

@[simp] theorem offset_advance (c : Cursor) (text : Array Char) (stop : Nat) :
    (c.advance text stop).offset = stop := by
  unfold advance; dsimp only; split <;> rfl

end Cursor

end Lexing
