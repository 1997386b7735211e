import Lexing.Body
import Lexing.Proofs.Selection
import Mathlib.Data.List.Induction

/-! What the items of a body assign, one after the other, and which declarations the body is left with:
each that was ever assigned, once, in the order of first assignments. A declaration is told apart by its
number, and one that is made anew gets a number that no other has. -/
namespace Lexing

namespace Body

/-- A name, and what it is bound to from then on. -/
structure Assignment where
  name : String
  binding : Binding
  /-- What is bound is a declaration that was made for it. -/
  isNew : Bool

/-- The declaration that is assigned, if it is one. -/
def Assignment.declared? (given : Assignment) : Option Declared :=
  match given.binding with
  | .declared d => some d
  | .value _ => none

/-- The declarations that are assigned, repeats kept. -/
def declaredIn (assigned : List Assignment) : List Declared := assigned.filterMap (·.declared?)

/-- What an item assigns, and the body that comes of it. An item with a name that is not bound, or not to
what it needs, is none. -/
inductive Takes (outer : String → Except Fault Declared) (body : Body) :
    BodyItem → Option Assignment → Body → Prop
  | rule {name : String} {spec : RuleSpec} {d : Declaration} (declares : Declaration.declare spec = .ok d) :
      Takes outer body (.rule name spec) (some ⟨name, .declared ⟨body.next, d⟩, true⟩) (body.bindNew name d)
  | decorated {name : String} {spec : RuleSpec} {action : ActionSource} {d : Declaration}
      (declares : Declaration.declare spec = .ok d) :
      Takes outer body (.decorated name spec action)
        (some ⟨name, .declared ⟨body.next, { d with action }⟩, true⟩) (body.bindNew name { d with action })
  | alias {name other : String} {binding : Binding} (bound : body.bindings.lookup other = some binding) :
      Takes outer body (.alias name other) (some ⟨name, binding, false⟩) (body.bind name binding)
  | decorate {name other : String} {action : ActionSource} {d : Declared}
      (bound : body.bindings.lookup other = some (.declared d)) :
      Takes outer body (.decorate name other action)
        (some ⟨name, .declared ⟨body.next, { d.declaration with action }⟩, true⟩)
        (body.bindNew name { d.declaration with action })
  | outer {name other : String} {d : Declared} (found : outer other = .ok d) :
      Takes outer body (.outer name other) (some ⟨name, .declared d, false⟩) (body.bind name (.declared d))
  | value {name : String} {v : Value} :
      Takes outer body (.value name v) (some ⟨name, .value v, false⟩) (body.bind name (.value v))
  | delete {name : String} {binding : Binding} (bound : body.bindings.lookup name = some binding) :
      Takes outer body (.delete name) none { body with bindings := body.bindings.filter (·.1 != name) }

/-- A body that is run from its start, with what it has assigned. -/
inductive Runs (outer : String → Except Fault Declared) (first : Nat) :
    List BodyItem → List Assignment → Body → Prop
  | nil : Runs outer first [] [] ⟨[], [], first⟩
  | snoc {items : List BodyItem} {assigned : List Assignment} {body next : Body} {item : BodyItem}
      {given : Option Assignment} (before : Runs outer first items assigned body)
      (takes : Takes outer body item given next) :
      Runs outer first (items ++ [item]) (assigned ++ given.toList) next

variable {outer : String → Except Fault Declared} {first : Nat} {body next : Body} {item : BodyItem}
  {items : List BodyItem} {given : Assignment} {assigned : List Assignment}

theorem find_eq_ok {name : String} {binding : Binding} :
    body.find name = .ok binding ↔ body.bindings.lookup name = some binding := by
  unfold find
  cases body.bindings.lookup name <;> simp

/-- An item does all that it does, or fails. -/
theorem step_eq_ok : step outer body item = .ok next ↔ ∃ given, Takes outer body item given next := by
  constructor
  · intro h
    cases item with
    | rule name spec =>
      obtain ⟨d, declares, h⟩ := exists_of_bind_ok h
      cases h
      exact ⟨_, .rule declares⟩
    | decorated name spec action =>
      obtain ⟨d, declares, h⟩ := exists_of_bind_ok h
      cases h
      exact ⟨_, .decorated declares⟩
    | «alias» name other =>
      obtain ⟨binding, bound, h⟩ := exists_of_bind_ok h
      cases h
      exact ⟨_, .alias (find_eq_ok.mp bound)⟩
    | decorate name other action =>
      obtain ⟨binding, bound, h⟩ := exists_of_bind_ok h
      cases binding with
      | declared d =>
        cases h
        exact ⟨_, .decorate (find_eq_ok.mp bound)⟩
      | value v => cases h
    | outer name other =>
      obtain ⟨d, found, h⟩ := exists_of_bind_ok h
      cases h
      exact ⟨_, .outer found⟩
    | value name v =>
      cases h
      exact ⟨_, .value⟩
    | delete name =>
      obtain ⟨binding, bound, h⟩ := exists_of_bind_ok h
      cases h
      exact ⟨_, .delete (find_eq_ok.mp bound)⟩
  · rintro ⟨given, takes⟩
    cases takes with
    | rule declares | decorated declares => rw [step, declares]; rfl
    | «alias» bound | decorate bound | delete bound => rw [step, find_eq_ok.mpr bound]; rfl
    | outer found => rw [step, found]; rfl
    | value => rfl

theorem ofItems_concat (items : List BodyItem) (item : BodyItem) :
    ofItems outer first (items ++ [item]) = ofItems outer first items >>= (step outer · item) := by
  rw [ofItems, List.foldlM_append]
  simp only [List.foldlM_cons, List.foldlM_nil, bind_pure]
  rfl

/-- A body is made exactly if it can be run. -/
theorem ofItems_eq_ok : ofItems outer first items = .ok body ↔ ∃ assigned, Runs outer first items assigned body := by
  constructor
  · intro h
    induction items using List.reverseRecOn generalizing body with
    | nil =>
      cases h
      exact ⟨[], .nil⟩
    | append_singleton items item ih =>
      rw [ofItems_concat] at h
      obtain ⟨before, hbefore, h⟩ := exists_of_bind_ok h
      obtain ⟨assigned, runs⟩ := ih hbefore
      obtain ⟨given, takes⟩ := step_eq_ok.mp h
      exact ⟨_, .snoc runs takes⟩
  · rintro ⟨assigned, runs⟩
    induction runs with
    | nil => rfl
    | snoc _ takes ih =>
      rw [ofItems_concat, ih]
      exact step_eq_ok.mpr ⟨_, takes⟩

/-- What becomes of a body to which something is assigned. -/
structure Adds (outer : String → Except Fault Declared) (body : Body) (given : Assignment) (next : Body) :
    Prop where
  bindings : next.bindings = (given.name, given.binding) :: body.bindings.filter (·.1 != given.name)
  declared : next.declared = match given.declared? with
    | some d => record d body.declared
    | none => body.declared
  next : next.next = if given.isNew then body.next + 1 else body.next
  made : given.isNew = true → ∃ d, given.binding = .declared ⟨body.next, d⟩
  known : given.isNew = false → ∀ d, given.binding = .declared d →
    (∃ other, body.bindings.lookup other = some (.declared d)) ∨ ∃ other, outer other = .ok d

theorem Takes.adds (h : Takes outer body item (some given) next) : Adds outer body given next := by
  cases h with
  | rule | decorated | decorate => exact ⟨rfl, rfl, rfl, fun _ => ⟨_, rfl⟩, nofun⟩
  | @«alias» name other binding bound =>
    refine ⟨rfl, ?_, rfl, nofun, ?_⟩
    · cases binding <;> rfl
    · rintro _ d rfl
      exact .inl ⟨other, bound⟩
  | @outer name other d found =>
    refine ⟨rfl, rfl, rfl, nofun, ?_⟩
    rintro _ d ⟨⟩
    exact .inr ⟨other, found⟩
  | value => exact ⟨rfl, rfl, rfl, nofun, nofun⟩

/-- Numbers are given out in order. -/
theorem Takes.next_le {given : Option Assignment} (h : Takes outer body item given next) :
    body.next ≤ next.next := by
  cases given with
  | some given =>
    rw [h.adds.next]
    split <;> omega
  | none =>
    cases h
    exact Nat.le_refl _

theorem Runs.next_le (h : Runs outer first items assigned body) : first ≤ body.next := by
  induction h with
  | nil => exact Nat.le_refl _
  | snoc _ takes ih => exact Nat.le_trans ih takes.next_le

/-- Declarations from outside of a body have numbers of their own, all given out before. -/
structure Outside (outer : String → Except Fault Declared) (first : Nat) : Prop where
  lt_first : ∀ name d, outer name = .ok d → d.id < first
  same : ∀ a b d e, outer a = .ok d → outer b = .ok e → d.id = e.id → d = e

/-- What is assigned accounts for what a body is left with. -/
structure Account (outer : String → Except Fault Declared) (first : Nat) (assigned : List Assignment)
    (body : Body) : Prop where
  /-- Each declaration is left once, in the order of first assignments. -/
  ids : body.declared.map (·.id) = ((declaredIn assigned).map (·.id)).eraseDups
  mem : ∀ d ∈ body.declared, d ∈ declaredIn assigned
  bound : ∀ name d, (name, Binding.declared d) ∈ body.bindings → d ∈ declaredIn assigned
  first_le : first ≤ body.next
  lt_next : ∀ d ∈ declaredIn assigned, d.id < body.next
  origin : ∀ d ∈ declaredIn assigned, first ≤ d.id ∨ ∃ name, outer name = .ok d
  /-- A number stands for one declaration. -/
  same : ∀ d ∈ declaredIn assigned, ∀ e ∈ declaredIn assigned, d.id = e.id → d = e
  /-- A new declaration differs from all before it, whatever it holds. -/
  fresh : assigned.Pairwise fun a b => b.isNew = true →
    ∀ d e, a.declared? = some d → b.declared? = some e → d.id ≠ e.id

theorem eraseDups_concat {α : Type} [BEq α] [LawfulBEq α] [DecidableEq α] (items : List α) (item : α) :
    (items ++ [item]).eraseDups = if item ∈ items then items.eraseDups else items.eraseDups ++ [item] := by
  rw [List.eraseDups_append]
  by_cases h : item ∈ items <;> simp [h, List.removeAll, List.eraseDups_cons]

theorem mem_of_lookup {name : String} {binding : Binding} (h : body.bindings.lookup name = some binding) :
    (name, binding) ∈ body.bindings := by
  obtain ⟨before, after, heq, _⟩ := List.lookup_eq_some_iff.mp h
  rw [heq]
  simp

theorem declaredIn_concat (assigned : List Assignment) (given : Assignment) :
    declaredIn (assigned ++ [given]) = declaredIn assigned ++ given.declared?.toList := by
  rw [declaredIn, List.filterMap_append]
  cases h : given.declared? <;> simp [declaredIn, h]

namespace Account

theorem start (first : Nat) : Account outer first [] ⟨[], [], first⟩ where
  ids := rfl
  mem _ h := h
  bound _ _ := nofun
  first_le := Nat.le_refl _
  lt_next _ := nofun
  origin _ := nofun
  same _ := nofun
  fresh := .nil

/-- A declaration that is not new has been assigned before, or is from outside. -/
theorem known (h : Account outer first assigned body) (hadds : Adds outer body given next)
    (hnew : given.isNew = false) {d : Declared} (hd : given.binding = .declared d) :
    d ∈ declaredIn assigned ∨ ∃ name, outer name = .ok d :=
  (hadds.known hnew d hd).imp_left fun ⟨name, hbound⟩ => h.bound name d (mem_of_lookup hbound)

/-- A number that an assigned declaration has comes up again for that declaration only. -/
theorem eq_of_id_eq (h : Account outer first assigned body) (houtside : Outside outer first)
    (hadds : Adds outer body given next) {d e : Declared} (hd : given.binding = .declared d)
    (he : e ∈ declaredIn assigned) (hid : e.id = d.id) : given.isNew = false ∧ e = d := by
  cases hnew : given.isNew with
  | true =>
    obtain ⟨made, hmade⟩ := hadds.made hnew
    rw [hd] at hmade
    cases hmade
    exact absurd hid (Nat.ne_of_lt (h.lt_next e he))
  | false =>
    refine ⟨rfl, ?_⟩
    rcases h.known hadds hnew hd with hmem | ⟨other, houter⟩
    · exact h.same e he d hmem hid
    · rcases h.origin e he with hle | ⟨name, hname⟩
      · have hfirst := houtside.lt_first other d houter
        omega
      · exact houtside.same name other e d hname houter hid

/-- Something else than a declaration leaves the account as it is. -/
theorem step_value (h : Account outer first assigned body) (hadds : Adds outer body given next) {v : Value}
    (hv : given.binding = .value v) : Account outer first (assigned ++ [given]) next := by
  have hnone : given.declared? = none := by rw [Assignment.declared?, hv]
  have hnew : given.isNew = false := by
    cases hnew : given.isNew with
    | true =>
      obtain ⟨made, hmade⟩ := hadds.made hnew
      rw [hv] at hmade
      cases hmade
    | false => rfl
  have hin : declaredIn (assigned ++ [given]) = declaredIn assigned := by
    rw [declaredIn_concat, hnone, Option.toList_none, List.append_nil]
  have hdeclared : next.declared = body.declared := by rw [hadds.declared, hnone]
  have hnext : next.next = body.next := by rw [hadds.next, hnew]; rfl
  constructor
  case ids => rw [hdeclared, hin, h.ids]
  case mem =>
    rw [hdeclared, hin]
    exact h.mem
  case bound =>
    intro name d hmem
    rw [hadds.bindings, hv] at hmem
    rw [hin]
    rcases List.mem_cons.mp hmem with heq | hmem
    · cases heq
    · exact h.bound name d (List.mem_filter.mp hmem).1
  case first_le => exact hnext ▸ h.first_le
  case lt_next =>
    rw [hin, hnext]
    exact h.lt_next
  case origin => exact hin ▸ h.origin
  case same => exact hin ▸ h.same
  case fresh =>
    refine List.pairwise_append.mpr ⟨h.fresh, List.pairwise_singleton _ _, fun a _ b hb hbnew => ?_⟩
    rw [List.mem_singleton.mp hb, hnew] at hbnew
    cases hbnew

theorem step_declared (h : Account outer first assigned body) (houtside : Outside outer first)
    (hadds : Adds outer body given next) {d : Declared} (hd : given.binding = .declared d) :
    Account outer first (assigned ++ [given]) next := by
  have hsome : given.declared? = some d := by rw [Assignment.declared?, hd]
  have hin : declaredIn (assigned ++ [given]) = declaredIn assigned ++ [d] := by
    rw [declaredIn_concat, hsome, Option.toList_some]
  have hdeclared : next.declared = record d body.declared := by rw [hadds.declared, hsome]
  have hmono : body.next ≤ next.next := by
    rw [hadds.next]
    split <;> omega
  have hseen : body.declared.any (·.id == d.id) = true ↔ d.id ∈ (declaredIn assigned).map (·.id) := by
    rw [← List.mem_eraseDups, ← h.ids]
    simp
  have hnewborn : given.isNew = true → d.id = body.next := by
    intro hnew
    obtain ⟨made, hmade⟩ := hadds.made hnew
    rw [hd] at hmade
    cases hmade
    rfl
  constructor
  case ids =>
    rw [hdeclared, record, hin, List.map_append, List.map_singleton, eraseDups_concat, ← h.ids]
    simp only [hseen]
    split
    · rfl
    · rw [List.map_append, List.map_singleton]
  case mem =>
    intro e he
    rw [hdeclared, record] at he
    rw [hin, List.mem_append]
    split at he
    · exact .inl (h.mem e he)
    · exact (List.mem_append.mp he).imp_left (h.mem e)
  case bound =>
    intro name e hmem
    rw [hadds.bindings, hd] at hmem
    rw [hin, List.mem_append]
    rcases List.mem_cons.mp hmem with heq | hmem
    · cases heq
      exact .inr (List.mem_singleton_self d)
    · exact .inl (h.bound name e (List.mem_filter.mp hmem).1)
  case first_le => exact Nat.le_trans h.first_le hmono
  case lt_next =>
    intro e he
    rw [hin, List.mem_append, List.mem_singleton] at he
    rcases he with he | rfl
    · exact Nat.lt_of_lt_of_le (h.lt_next e he) hmono
    · cases hnew : given.isNew with
      | true =>
        rw [hadds.next, hnew, hnewborn hnew]
        exact Nat.lt_succ_self _
      | false =>
        refine Nat.lt_of_lt_of_le ?_ hmono
        rcases h.known hadds hnew hd with hmem | ⟨other, houter⟩
        · exact h.lt_next e hmem
        · exact Nat.lt_of_lt_of_le (houtside.lt_first other e houter) h.first_le
  case origin =>
    intro e he
    rw [hin, List.mem_append, List.mem_singleton] at he
    rcases he with he | rfl
    · exact h.origin e he
    · cases hnew : given.isNew with
      | true =>
        rw [hnewborn hnew]
        exact .inl h.first_le
      | false => exact (h.known hadds hnew hd).elim (h.origin e) .inr
  case same =>
    intro e he f hf hid
    rw [hin, List.mem_append, List.mem_singleton] at he hf
    rcases he with he | rfl <;> rcases hf with hf | rfl
    · exact h.same e he f hf hid
    · exact (h.eq_of_id_eq houtside hadds hd he hid).2
    · exact (h.eq_of_id_eq houtside hadds hd hf hid.symm).2.symm
    · rfl
  case fresh =>
    refine List.pairwise_append.mpr ⟨h.fresh, List.pairwise_singleton _ _, ?_⟩
    intro a ha b hb hnew e f he hf hid
    rw [List.mem_singleton.mp hb] at hnew hf
    rw [hsome] at hf
    cases hf
    have hmem : e ∈ declaredIn assigned := List.mem_filterMap.mpr ⟨a, ha, he⟩
    have hold := (h.eq_of_id_eq houtside hadds hd hmem hid).1
    rw [hnew] at hold
    cases hold

theorem step (h : Account outer first assigned body) (houtside : Outside outer first)
    (hadds : Adds outer body given next) : Account outer first (assigned ++ [given]) next := by
  cases hbinding : given.binding with
  | declared d => exact h.step_declared houtside hadds hbinding
  | value v => exact h.step_value hadds hbinding

end Account

theorem Runs.account (houtside : Outside outer first) (h : Runs outer first items assigned body) :
    Account outer first assigned body := by
  induction h with
  | nil => exact .start first
  | @snoc items assigned body next item given before takes ih =>
    cases given with
    | some given => exact ih.step houtside takes.adds
    | none =>
      rw [Option.toList_none, List.append_nil]
      cases takes
      exact { ih with bound := fun name d hmem => ih.bound name d (List.mem_filter.mp hmem).1 }

end Body

end Lexing
