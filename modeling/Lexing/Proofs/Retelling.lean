import Lexing.Proofs.Calculator
import Lexing.Proofs.Remainder
import Mathlib.Data.List.Forall2

/-! What a run tells of places in what is left of the source, it tells of them in the whole source too,
only by other numbers: all offsets and lines differ by the same, columns up to the first chunk with a
newline. -/
namespace Lexing

/-- A place told in the rest, as it is told in the whole text. -/
def Position.onward (base : Cursor) (rest : Array Char) (p : Position) : Position :=
  { p with
    offset := p.offset + base.offset
    line := p.line + (base.line - 1)
    column := p.column + base.columnGap rest p.offset.toNat }

def Token.onward (base : Cursor) (rest : Array Char) (t : Token) : Token :=
  { t with position := t.position.map (·.onward base rest) }

def Unmatched.onward (base : Cursor) (rest : Array Char) (u : Unmatched) : Unmatched :=
  { u with
    offset := u.offset + base.offset
    line := u.line + (base.line - 1)
    column := u.column + base.columnGap rest u.offset.toNat }

def Firing.onward (base : Cursor) (rest : Array Char) (f : Firing) : Firing :=
  { f with cursor := base.onward rest f.cursor }

namespace Run

def onward (base : Cursor) (rest : Array Char) : Run → Run
  | done c env => done (base.onward rest c) env
  | stuck c env => stuck (base.onward rest c) env
  | refused fault c env => refused fault (base.onward rest c) env
  | failed f fault env => failed (f.onward base rest) fault env
  | fired f emit r => fired (f.onward base rest) emit (r.onward base rest)

/-- The unmatched input that a run itself tells of; a fault of an action may look the same. -/
def unmatched? (text : Array Char) (label : Option String) : Run → Option Unmatched
  | stuck c _ => some (unmatched text label c)
  | fired _ _ r => r.unmatched? text label
  | done .. | refused .. | failed .. => none

/-- What the first run tells, given what the second does. -/
structure Retells (base : Cursor) (text rest : Array Char) (label : Option String) (r r' : Run) : Prop where
  tokens : ∀ tokens, r'.tokens rest label = .ok tokens →
    r.tokens text label = .ok (tokens.map (·.onward base rest))
  unmatched : ∀ u, r'.unmatched? rest label = some u →
    r'.tokens rest label = .error (.unmatched u) ∧
      r.tokens text label = .error (.unmatched (u.onward base rest))
  fault : ∀ fault, r'.unmatched? rest label = none → r'.tokens rest label = .error fault →
    r.tokens text label = .error fault
  log : ∀ trace, r.log label trace = (r'.onward base rest).log label trace

end Run

section

variable {text rest : Array Char} {base : Cursor} {label : Option String}

theorem Firing.Follows.position_eq {f f' : Firing} (h : f.Follows base rest f') (hline : 1 ≤ base.line) :
    f.position label = (f'.position label).onward base rest := by
  have hlength : f.found.length = f'.found.length := by
    rw [Match.length, h.found.start, h.found.stop, Nat.add_sub_add_left, Match.length]
  simp only [position, Position.onward, h.cursor, Cursor.onward, hlength, Int.toNat_natCast]
  congr 1 <;> omega

theorem Firing.Follows.told_eq {f f' : Firing} (h : f.Follows base rest f') (trace : Bool) :
    Run.log.told label trace f = Run.log.told label trace (f'.onward base rest) := by
  have htext : f.traceText label = (f'.onward base rest).traceText label := by
    unfold traceText onward chunk
    rw [h.cursor, h.state, h.rule, h.found.texts.found]
  rw [Run.log.told, Run.log.told, htext]

theorem Firing.Follows.token_eq {f f' : Firing} (h : f.Follows base rest f') (hline : 1 ≤ base.line)
    (emit : Option Emit) :
    emit.map (f.token label) = (emit.map (f'.token label)).map (·.onward base rest) := by
  rw [Option.map_map]
  congr 1
  funext e
  simp only [Firing.token, Function.comp_apply, Token.onward, Option.map_some, h.position_eq hline]

/-- What is told of a firing comes before what the run tells from there on. -/
theorem Run.Retells.fired {f f' : Firing} {r r' : Run} (h : Run.Retells base text rest label r r')
    (hf : f.Follows base rest f') (hline : 1 ≤ base.line) (emit : Option Emit) :
    Run.Retells base text rest label (.fired f emit r) (.fired f' emit r') where
  tokens tokens htokens := by
    rw [Run.tokens_fired] at htokens ⊢
    cases hafter : r'.tokens rest label with
    | error fault =>
      rw [hafter] at htokens
      cases htokens
    | ok after =>
      rw [hafter] at htokens
      cases htokens
      rw [h.tokens after hafter, hf.token_eq hline]
      cases emit <;> rfl
  unmatched u hu := by
    obtain ⟨hown, htold⟩ := h.unmatched u hu
    rw [Run.tokens_fired, Run.tokens_fired, hown, htold]
    exact ⟨rfl, rfl⟩
  fault fault hnone hfault := by
    rw [Run.tokens_fired] at hfault ⊢
    cases hafter : r'.tokens rest label with
    | error other =>
      rw [hafter] at hfault
      cases hfault
      rw [h.fault _ hnone hafter]
      rfl
    | ok after =>
      rw [hafter] at hfault
      cases hfault
  log trace := by
    rw [Run.log, Run.onward, Run.log, hf.told_eq, h.log]

namespace Run.Follows

theorem firings {r r' : Run} (h : r.Follows base rest r') :
    List.Forall₂ (Firing.Follows base rest) r.firings r'.firings := by
  induction h with
  | done | stuck | refused => exact .nil
  | failed hf _ => exact .cons hf .nil
  | fired hf _ ih => exact .cons hf ih

theorem environment {r r' : Run} (h : r.Follows base rest r') :
    r.environment.Follows base.offset r'.environment := by
  induction h with
  | done henv | stuck henv | refused henv | failed _ henv => exact henv
  | fired _ _ ih => exact ih

end Run.Follows

end

/-! ## The last match -/

namespace Definition

variable {d : Definition} {text : Array Char} {s t : Boundary} {calls : List Call} {f : Firing}

def KeepsMatch (d : Definition) : Prop := ∀ state, ∀ rule ∈ d.table.get state, rule.action.KeepsMatch

theorem Fires.lastMatch_eq (hkeeps : d.KeepsMatch) (h : d.Fires text s f) :
    (f.result s.env).2.lastMatch = some f.found := hkeeps _ _ h.rule_mem s.env f.found

theorem Steps.lastMatch_eq (hkeeps : d.KeepsMatch) (h : d.Steps text s calls t) :
    t.env.lastMatch = (calls.getLast?.map (·.firing.found)).or s.env.lastMatch := by
  cases h with
  | nil => rfl
  | snoc _ step =>
    have hlast := step.fires.lastMatch_eq hkeeps
    rw [step.acts] at hlast
    rw [List.getLast?_append]
    exact hlast

theorem lastMatch_runFrom (hkeeps : d.KeepsMatch) (s : Boundary) :
    (d.runFrom text s).environment.lastMatch =
      ((d.runFrom text s).firings.getLast?.map (·.found)).or s.env.lastMatch := by
  obtain ⟨calls, t, steps, hends⟩ := d.exists_steps text s
  rw [steps.runFrom_eq, Run.environment_prepend, Run.firings_prepend]
  have hbefore : t.env.lastMatch =
      ((calls.map Call.firing ++ []).getLast?.map Firing.found).or s.env.lastMatch := by
    rw [steps.lastMatch_eq hkeeps, List.append_nil, List.getLast?_map, Option.map_map]
    rfl
  generalize d.runFrom text t = r at hends
  cases hends with
  | done | stuck | refused => exact hbefore
  | raised fires acts =>
    have hlast := fires.lastMatch_eq hkeeps
    rw [acts] at hlast
    rw [Run.firings, List.getLast?_append]
    exact hlast
  | rejected fires acts =>
    have hlast := fires.lastMatch_eq hkeeps
    rw [acts] at hlast
    rw [Run.firings, List.getLast?_append]
    exact hlast

end Definition

namespace Calculator

end Calculator

namespace Definition

end Definition

end Lexing
