import Lexing.Proofs.RuleTable
import Lexing.Proofs.Steps

/-! Two definitions in lockstep. A run depends on its definition only through what is selected at the
boundaries that it comes to, so definitions that select alike there lex alike. -/
namespace Lexing

namespace Definition

variable {d d' : Definition} {text : Array Char} {s t : Boundary} {calls : List Call}

/-- Where text is left at the boundary, the same rule is selected with the same match, or none, or the
selection fails alike. -/
def SelectsLike (d' d : Definition) (text : Array Char) (s : Boundary) : Prop :=
  s.cursor.offset < text.size → d'.select s.env text s.cursor.offset = d.select s.env text s.cursor.offset

theorem Fires.alike {f : Firing} (h : d.Fires text s f) (halike : d'.SelectsLike d text s) :
    d'.Fires text s f := by
  obtain ⟨c, hc, hf⟩ := h.selected
  exact ⟨h.inside, c, (halike h.inside).trans hc, hf⟩

theorem Step.alike {call : Call} (h : d.Step text s call t) (halike : d'.SelectsLike d text s) :
    d'.Step text s call t :=
  ⟨h.fires.alike halike, h.acts, h.understood, h.moves⟩

theorem Ends.alike {r : Run} (h : d.Ends text s r) (halike : d'.SelectsLike d text s) :
    d'.Ends text s r := by
  cases h with
  | done consumed => exact .done consumed
  | stuck inside none => exact .stuck inside ((halike inside).trans none)
  | refused inside error => exact .refused inside ((halike inside).trans error)
  | raised fires acts => exact .raised (fires.alike halike) acts
  | rejected fires acts rejected => exact .rejected (fires.alike halike) acts rejected

/-- Steps are taken alike as long as each of them is selected alike. -/
theorem Steps.alike (h : d.Steps text s calls t)
    (halike : ∀ earlier u, d.Steps text s earlier u → earlier.length < calls.length → d'.SelectsLike d text u) :
    d'.Steps text s calls t := by
  induction h with
  | nil => exact .nil
  | @snoc calls call t u before step ih =>
    have hlast : calls.length < (calls ++ [call]).length := by simp
    refine .snoc (ih fun earlier v hv hlt => ?_) (step.alike (halike calls t before hlast))
    exact halike earlier v hv (Nat.lt_trans hlt hlast)

theorem runFrom_alike (halike : ∀ calls t, d.Steps text s calls t → d'.SelectsLike d text t) :
    d'.runFrom text s = d.runFrom text s := by
  obtain ⟨calls, t, steps, hends⟩ := d.exists_steps text s
  have steps' : d'.Steps text s calls t := steps.alike fun earlier u hu _ => halike earlier u hu
  rw [steps.runFrom_eq, steps'.runFrom_eq, (hends.alike (halike calls t steps)).runFrom_eq]

/-- The same rules fire on the same matches, and the run ends alike, with the same tokens or the same fault,
in the same environment. -/
structure LexesLike (d' d : Definition) (source : String) (env : Environment) : Prop where
  run : d'.run source.toList.toArray .start env = d.run source.toList.toArray .start env
  lex : ∀ label trace, d'.lex source env label trace = d.lex source env label trace

namespace LexesLike

variable {source : String} {env : Environment}

theorem of_run (h : d'.run source.toList.toArray .start env = d.run source.toList.toArray .start env) :
    d'.LexesLike d source env where
  run := h
  lex label trace := by
    have hrun : (Scanner.ofSource d' source label trace).run env =
        (Scanner.ofSource d source label trace).run env := h
    simp only [Definition.lex, hrun]
    rfl

theorem of_selectsLike (halike : ∀ calls s, d.Steps source.toList.toArray (.start env) calls s →
    d'.SelectsLike d source.toList.toArray s) : d'.LexesLike d source env :=
  of_run (runFrom_alike halike)

theorem symm (h : d'.LexesLike d source env) : d.LexesLike d' source env :=
  ⟨h.run.symm, fun label trace => (h.lex label trace).symm⟩

end LexesLike

/-- The definition whose only rules are these, in the default state. -/
def ofRules (policy : Policy) (rules : List Rule) : Definition :=
  ⟨⟨[(defaultState, rules)]⟩, policy, defaultState⟩

theorem get_ofRules (policy : Policy) (rules : List Rule) (state : String) :
    (ofRules policy rules).table.get state = if state = defaultState then rules else [] :=
  RuleTable.get_singleton defaultState rules state

end Definition

end Lexing
