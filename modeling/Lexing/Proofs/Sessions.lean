import Lexing.Session

/-! Sessions as runs of steps: what each piece of work does to the session it is done in, and how the
replies to several steps are put together. -/
namespace Lexing

section

variable {σ α β : Type}

theorem run_bind (work : ExceptT Fault (StateM σ) α) (next : α → ExceptT Fault (StateM σ) β) (s : σ) :
    (work >>= next).run s =
      match work.run s with
      | (.ok a, t) => (next a).run t
      | (.error fault, t) => (.error fault, t) := by
  change ExceptT.bindCont next (work.run s).1 (work.run s).2 = _
  rcases work.run s with ⟨fault | a, t⟩ <;> rfl

/-- A handler goes on from where the work has come to. -/
theorem run_tryCatch (work : ExceptT Fault (StateM σ) α) (handle : Fault → ExceptT Fault (StateM σ) α) (s : σ) :
    (tryCatch work handle).run s =
      match work.run s with
      | (.ok a, t) => (.ok a, t)
      | (.error fault, t) => (handle fault).run t := by
  simp only [tryCatch, tryCatchThe, MonadExceptOf.tryCatch, ExceptT.tryCatch, ExceptT.run, ExceptT.mk, bind,
    StateT.bind]
  rcases work s with ⟨fault | a, t⟩ <;> rfl

end

namespace Session

variable {s : Session}

/-- The session with an object under a name. -/
def store (s : Session) (name : String) (object : Object) : Session :=
  { s with objects := (name, object) :: s.objects.filter (·.1 != name) }

private theorem lookup_filter_bne {name other : String} (h : other ≠ name) (objects : List (String × Object)) :
    (objects.filter (·.1 != name)).lookup other = objects.lookup other := by
  induction objects with
  | nil => rfl
  | cons entry objects ih =>
    obtain ⟨key, object⟩ := entry
    by_cases hkey : key = name
    · have hother : (other == key) = false := beq_eq_false_iff_ne.mpr fun heq => h (heq.trans hkey)
      rw [List.filter_cons_of_neg (by simp [hkey]), List.lookup_cons, hother, ih]
    · rw [List.filter_cons_of_pos (by simp [hkey]), List.lookup_cons, List.lookup_cons, ih]

theorem lookup_store (s : Session) (name : String) (object : Object) (other : String) :
    (s.store name object).objects.lookup other =
      if other = name then some object else s.objects.lookup other := by
  unfold store
  dsimp only
  rw [List.lookup_cons]
  by_cases h : other = name
  · simp [h]
  · rw [if_neg h, beq_eq_false_iff_ne.mpr h]
    exact lookup_filter_bne h s.objects

@[simp] theorem lookup_store_self (s : Session) (name : String) (object : Object) :
    (s.store name object).objects.lookup name = some object := by
  rw [lookup_store, if_pos rfl]

theorem lookup_store_of_ne {name other : String} (h : other ≠ name) (s : Session) (object : Object) :
    (s.store name object).objects.lookup other = s.objects.lookup other := by
  rw [lookup_store, if_neg h]

theorem run_put (s : Session) (name : String) (object : Object) :
    (put name object).run s = (.ok (), s.store name object) := rfl

theorem run_find (s : Session) (name : String) :
    (find name).run s = (match s.objects.lookup name with
      | some object => .ok object
      | none => .error (Fault.unknownName name), s) := by
  unfold find
  rw [run_bind]
  change (match s.objects.lookup name with
    | some object => (pure object : Work Object)
    | none => throw (Fault.unknownName name)).run s = _
  split <;> rfl

theorem run_findBuilder {on : String} {d : Definition} (h : s.objects.lookup on = some (.builder d)) :
    (findBuilder on).run s = (.ok d, s) := by
  unfold findBuilder
  rw [run_bind, run_find, h]
  rfl

/-- A builder is changed as a whole or not at all. -/
theorem run_build {on : String} {d : Definition} (h : s.objects.lookup on = some (.builder d))
    (f : Definition → Except Fault Definition) :
    (build on f).run s =
      match f d with
      | .ok changed => (.ok changed, s.store on (.builder changed))
      | .error fault => (.error fault, s) := by
  unfold build
  rw [run_bind, run_findBuilder h]
  dsimp only
  rw [run_bind]
  cases f d <;> rfl

/-- What a change of a builder answers is how many states it has by then. -/
theorem run_chained {on : String} {d : Definition} (h : s.objects.lookup on = some (.builder d))
    (f : Definition → Except Fault Definition) :
    (do return Answer.chained (← build on f).table.size : Work Answer).run s =
      match f d with
      | .ok changed => (.ok (.chained changed.table.size), s.store on (.builder changed))
      | .error fault => (.error fault, s) := by
  rw [run_bind, run_build h]
  cases f d <;> rfl

theorem run_reply (step : Step) (s : Session) :
    (reply step).run s =
      let worked := (answer step).run s
      (.ofAnswer worked.1 ((step.shown worked.1.isOk).bind worked.2.environmentIn), worked.2) := by
  rw [reply]
  rfl

theorem run_reply_builder (name : String) (s : Session) :
    (reply (.builder name)).run s = (.mk (.ok (.size 0)) none, s.store name (.builder .empty)) := by
  rw [run_reply, answer, run_bind, run_put]
  rfl

/-- What is replied to steps. -/
def told (s : Session) (steps : List Step) : List Reply := ((replyAll steps).run s).1

/-- The session that steps leave. -/
def after (s : Session) (steps : List Step) : Session := ((replyAll steps).run s).2

@[simp] theorem told_nil (s : Session) : s.told [] = [] := by
  rw [told, replyAll]
  rfl

@[simp] theorem after_nil (s : Session) : s.after [] = s := by
  rw [after, replyAll]
  rfl

theorem told_cons (s : Session) (step : Step) (rest : List Step) :
    s.told (step :: rest) = ((reply step).run s).1 :: ((reply step).run s).2.told rest := by
  rw [told, replyAll]
  rfl

theorem after_cons (s : Session) (step : Step) (rest : List Step) :
    s.after (step :: rest) = ((reply step).run s).2.after rest := by
  rw [after, replyAll]
  rfl

theorem after_append (s : Session) (first rest : List Step) :
    s.after (first ++ rest) = (s.after first).after rest := by
  induction first generalizing s with
  | nil => rw [after_nil, List.nil_append]
  | cons step first ih => rw [List.cons_append, after_cons, after_cons, ih]

theorem told_append (s : Session) (first rest : List Step) :
    s.told (first ++ rest) = s.told first ++ (s.after first).told rest := by
  induction first generalizing s with
  | nil => rw [told_nil, after_nil, List.nil_append, List.nil_append]
  | cons step first ih => rw [List.cons_append, told_cons, told_cons, after_cons, ih, List.cons_append]

@[simp] theorem length_told (s : Session) (steps : List Step) : (s.told steps).length = steps.length := by
  induction steps generalizing s with
  | nil => simp
  | cons step steps ih => rw [told_cons, List.length_cons, List.length_cons, ih]

end Session

end Lexing
