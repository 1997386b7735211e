import Lexing.Proofs.Calculator
import Lexing.Proofs.Steps

/-! Which rule fires at each step of a run. States and flags are those that the actions before it have
left, so the candidates change from step to step; the policy picks among those of the step. -/
namespace Lexing

namespace Definition

variable {d : Definition} {text : Array Char} {s : Boundary}

/-- The firing at a boundary is that of the rule which the policy asks for. -/
structure ChosenAt (d : Definition) (text : Array Char) (s : Boundary) (f : Firing) : Prop where
  cursor : f.cursor = s.cursor
  state : f.state = s.env.state
  eligible : f.rule.Eligible s.env.flags text s.cursor.offset f.found
  picked : d.policy.Picks s.env.flags text s.cursor.offset (d.table.get s.env.state) f.rule f.found

/-- Some rule of the state at a boundary is eligible. -/
def HasCandidate (d : Definition) (text : Array Char) (s : Boundary) : Prop :=
  ∃ rule ∈ d.table.get s.env.state, ∃ found, rule.Eligible s.env.flags text s.cursor.offset found

theorem Fires.chosenAt {f : Firing} (h : d.Fires text s f) : d.ChosenAt text s f :=
  ⟨h.cursor_eq, h.state_eq, h.eligible, h.picks⟩

/-- A rule fires exactly where there is a candidate. -/
theorem exists_fires_iff (htextual : d.Textual) : (∃ f, d.Fires text s f) ↔ d.HasCandidate text s := by
  constructor
  · rintro ⟨f, fires⟩
    exact ⟨f.rule, fires.picks.mem, f.found, fires.eligible⟩
  · rintro ⟨rule, hrule, found, heligible⟩
    obtain ⟨c?, hselect⟩ : ∃ c?, d.select s.env text s.cursor.offset = .ok c? := exists_select htextual
    cases c? with
    | none => exact absurd heligible (select_eq_none hselect rule hrule found)
    | some c => exact ⟨_, heligible.lt_size, c, hselect, rfl⟩

/-- Throughout a run, the rule that fires is the one its policy asks for in the state and with the flags
that the last action left, and one fires whenever there is a candidate. -/
theorem firings_follow_policy (d : Definition) (htextual : d.Textual) (source : String) (env : Environment) :
    let text := source.toList.toArray
    let firings := (d.run text .start env).firings
    (∀ i f, firings[i]? = some f →
      ∃ calls s, d.Steps text (.start env) calls s ∧ calls.length = i ∧ d.ChosenAt text s f) ∧
    ∀ calls s, d.Steps text (.start env) calls s →
      ((∃ f, firings[calls.length]? = some f) ↔ d.HasCandidate text s) := by
  intro text firings
  constructor
  · intro i f hf
    obtain ⟨calls, s, steps, hlength, fires⟩ := exists_steps_of_firing (s := .start env) hf
    exact ⟨calls, s, steps, hlength, fires.chosenAt⟩
  · intro calls s steps
    rw [← exists_fires_iff htextual]
    exact exists_congr fun f => steps.firings_length

theorem firings_follow_policy_calculator :
    Calculator.lexer.definition.Textual ∧
      let text := "1 +\n23".toList.toArray
      let firings := (Calculator.lexer.definition.run text .start (.plain "default")).firings
      (∀ i f, firings[i]? = some f →
        ∃ calls s, Calculator.lexer.definition.Steps text (.start (.plain "default")) calls s ∧
          calls.length = i ∧ Calculator.lexer.definition.ChosenAt text s f) ∧
      ∀ calls s, Calculator.lexer.definition.Steps text (.start (.plain "default")) calls s →
        ((∃ f, firings[calls.length]? = some f) ↔ Calculator.lexer.definition.HasCandidate text s) :=
  ⟨Calculator.textual, firings_follow_policy _ Calculator.textual "1 +\n23" (.plain "default")⟩

end Definition

end Lexing
