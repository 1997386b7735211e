import Lexing.Proofs.Calculator
import Lexing.Proofs.SessionInvariant

/-! Calls that lex, on kinds of lexer and on lexers, in any order. A kind answers as if nothing had been
called before, and a lexer as if it alone had been called. -/
namespace Lexing

open Session

/-- A call on a lexer. -/
structure LexerCall where
  text : String
  label : Option String
  /-- Unmatched input is to be a result. -/
  asResult : Bool

namespace LexerCall

def step (on : String) (call : LexerCall) : Step :=
  if call.asResult then .tryLex on call.text call.label else .lex on call.text call.label

/-- The text is run through from its very start. -/
def run (call : LexerCall) (d : Definition) (env : Environment) : Run :=
  d.run call.text.toList.toArray ⟨0, 1, 0⟩ env

/-- What is left of an environment, also by a run that fails. -/
def left (call : LexerCall) (d : Definition) (env : Environment) : Environment := (call.run d env).environment

def tokens (call : LexerCall) (d : Definition) (env : Environment) : Except Fault (List Token) :=
  (call.left d env).readTokens ((call.run d env).tokens call.text.toList.toArray call.label)

def answer (call : LexerCall) (d : Definition) (env : Environment) : Except Fault Answer :=
  if call.asResult then (LexResult.ofTokens (call.tokens d env)).map .result
  else (call.tokens d env).map .tokens

def reply (call : LexerCall) (d : Definition) (env : Environment) : Reply :=
  .ofAnswer (call.answer d env) (some (call.left d env))

/-- The replies to calls, each in the environment that the one before has left. -/
def replies (d : Definition) : Environment → List LexerCall → List Reply
  | _, [] => []
  | env, call :: rest => call.reply d env :: replies d (call.left d env) rest

def leftBy (d : Definition) (env : Environment) (calls : List LexerCall) : Environment :=
  calls.foldl (fun env call => call.left d env) env

section

variable {s : Session} {on : String} {t : LexerType} {key : Nat} {env : Environment}

theorem shown_step (call : LexerCall) (on : String) (succeeded : Bool) :
    (call.step on).shown succeeded = some on := by
  unfold step
  split <;> rfl

theorem run_answer (hobject : s.objects.lookup on = some (.lexer t key)) (call : LexerCall) :
    (Session.answer (call.step on)).run s =
      let lexed := (lexAt key t.definition call.text call.label).run s
      (if call.asResult then (LexResult.ofTokens lexed.1).map .result else lexed.1.map .tokens, lexed.2) := by
  obtain ⟨text, label, asResult⟩ := call
  cases asResult with
  | false =>
    change (Session.answer (.lex on text label)).run s = _
    rw [Session.answer, run_bind, run_findLexer hobject]
    exact run_return _ _ s
  | true =>
    change (Session.answer (.tryLex on text label)).run s = _
    rw [Session.answer, run_bind, run_findLexer hobject]
    dsimp only
    rw [run_bind, run_liftM]
    dsimp only
    rw [run_return, run_liftExcept]
    rfl

theorem run_answer_cases (s : Session) (on : String) (call : LexerCall) :
    (∃ t key, s.objects.lookup on = some (.lexer t key)) ∨
      (Session.answer (call.step on)).run s = (.error (.unknownName on), s) := by
  refine (run_findLexer_cases s on).imp_right fun hfault => ?_
  unfold step
  split <;> rw [Session.answer, run_bind, hfault]

/-- A call on a lexer lexes in the lexer's environment, and is answered from there. -/
theorem run_reply_step (hobject : s.objects.lookup on = some (.lexer t key))
    (henv : s.environments[key]? = some env) (call : LexerCall) :
    (Session.reply (call.step on)).run s =
      (call.reply t.definition env, s.keep key (t.definition.lex call.text env call.label s.config.traces)) := by
  have hleft : (s.keep key (t.definition.lex call.text env call.label s.config.traces)).environmentIn on =
      some (call.left t.definition env) := environmentIn_eq (keyIn_of_lexer hobject) henv rfl rfl
  rw [run_reply, run_answer hobject, run_lexAt henv]
  dsimp only
  rw [shown_step]
  exact congrArg (fun shown => (Reply.ofAnswer _ shown, _)) hleft

end

end LexerCall

inductive LexingCall where
  /-- Lexes in an environment that is handed over, or in a new one. -/
  | tokenize (type text : String) (label environment : Option String)
  | on (name : String) (call : LexerCall)
  | create (type name : String)

namespace LexingCall

def step : LexingCall → Step
  | tokenize type text label environment => .tokenize type text label environment
  | on name call => call.step name
  | create type name => .lexer type name

def own? (name : String) : LexingCall → Option LexerCall
  | on other call => if other = name then some call else none
  | _ => none

/-- The calls on one lexer. -/
def own (name : String) (calls : List LexingCall) : List LexerCall := calls.filterMap (·.own? name)

/-- The replies to these calls, among the replies to all. -/
def ownReplies (name : String) (calls : List LexingCall) (replies : List Reply) : List Reply :=
  (calls.zip replies).filterMap fun (call, reply) => (call.own? name).map fun _ => reply

def created? : LexingCall → Option String
  | create _ name => some name
  | _ => none

def handed? : LexingCall → Option String
  | tokenize _ _ _ environment => environment
  | _ => none

/-- The environment that the call works in, if it is there already. -/
def keyIn (s : Session) : LexingCall → Option Nat
  | tokenize _ _ _ environment => environment.bind s.keyIn
  | on name _ =>
    match s.objects.lookup name with
    | some (.lexer _ key) => some key
    | _ => none
  | create .. => none

/-- The call leaves the name to the lexer and its environment to the lexer's own calls. -/
structure Spares (s : Session) (name : String) (key : Nat) (call : LexingCall) : Prop where
  created : call.created? ≠ some name
  handed : ∀ other, call.handed? = some other → s.keyIn other ≠ some key

/-- What a call makes of a session. -/
inductive Leaves (s : Session) : LexingCall → Session → Prop
  | logged {call : LexingCall} (records : List Record) : Leaves s call { s with log := s.log ++ records }
  | kept {call : LexingCall} {key : Nat} (found : call.keyIn s = some key) (env : Environment)
      (records : List Record) :
      Leaves s call { s with environments := s.environments.set! key env, log := s.log ++ records }
  | created {type name : String} {t : LexerType} {env : Environment} :
      Leaves s (.create type name) ((s.grown env).store name (.lexer t s.environments.size))

variable {s : Session} {call : LexingCall}

theorem Leaves.unchanged (s : Session) (call : LexingCall) : Leaves s call s := by
  have hlogged : Leaves s call { s with log := s.log ++ [] } := .logged []
  rwa [List.append_nil] at hlogged

theorem leaves_lexAt {key : Nat} (hkey : call.keyIn s = some key) (d : Definition) (text : String)
    (label : Option String) : Leaves s call ((lexAt key d text label).run s).2 := by
  cases henv : s.environments[key]? with
  | none =>
    rw [run_lexAt_of_none henv]
    exact .unchanged s call
  | some env =>
    rw [run_lexAt henv]
    exact .kept hkey _ _

theorem leaves_lexIn (type text : String) (label environment : Option String) (make : Except Fault Environment)
    (d : Definition) :
    Leaves s (.tokenize type text label environment) ((lexIn environment make d text label).run s).2 := by
  unfold lexIn
  cases environment with
  | none =>
    dsimp only
    rw [run_bind, run_liftExcept]
    cases make with
    | error fault => exact .unchanged s _
    | ok env =>
      dsimp only
      rw [run_lexFresh]
      exact .logged _
  | some name =>
    dsimp only
    rw [run_bind]
    cases hkey : s.keyIn name with
    | none =>
      rw [run_findKey_of_none hkey]
      exact .unchanged s _
    | some key =>
      have hcall : (LexingCall.tokenize type text label (some name)).keyIn s = some key := hkey
      rw [run_findKey hkey]
      exact leaves_lexAt hcall d text label

/-- A call changes one environment at most, or makes one. -/
theorem leaves (call : LexingCall) (s : Session) : Leaves s call ((Session.reply call.step).run s).2 := by
  rw [run_reply]
  dsimp only
  cases call with
  | tokenize type text label environment =>
    rw [step, Session.answer, run_bind]
    rcases run_findType_cases s type with ⟨t, hobject⟩ | ⟨fault, hfault⟩
    · rw [run_findType hobject]
      dsimp only
      rw [run_return]
      exact leaves_lexIn type text label environment _ _
    · rw [hfault]
      exact .unchanged s _
  | on name call =>
    change Leaves s _ ((Session.answer (call.step name)).run s).2
    rcases LexerCall.run_answer_cases s name call with ⟨t, key, hobject⟩ | hfault
    · have hkey : (LexingCall.on name call).keyIn s = some key := by rw [keyIn, hobject]
      rw [LexerCall.run_answer hobject]
      exact leaves_lexAt hkey _ _ _
    · rw [hfault]
      exact .unchanged s _
  | create type name =>
    rw [step]
    rcases run_findType_cases s type with ⟨t, hobject⟩ | ⟨fault, hfault⟩
    · rw [run_lexer hobject]
      cases t.newEnvironment with
      | error fault => exact .unchanged s _
      | ok env => exact .created
    · rw [Session.answer, run_bind, hfault]
      exact .unchanged s _

section

variable {next : Session} {name type : String} {t : LexerType} {key : Nat} {env : Environment}
  {later : LexingCall} {calls : List LexingCall}

theorem Leaves.lookup (h : Leaves s call next) (hcreated : call.created? ≠ some name) :
    next.objects.lookup name = s.objects.lookup name := by
  cases h with
  | logged => rfl
  | kept => rfl
  | @created type other t env =>
    have hother : name ≠ other := fun heq => hcreated (congrArg some heq.symm)
    exact lookup_store_of_ne hother _ _

/-- An environment that exists is told apart from one that is made. -/
theorem Leaves.keyIn_ne (h : Leaves s call next) (hlt : key < s.environments.size) {other : String}
    (hother : s.keyIn other ≠ some key) : next.keyIn other ≠ some key := by
  cases h with
  | logged => exact hother
  | kept => exact hother
  | @created type made t env =>
    rw [Session.keyIn, lookup_store]
    by_cases hmade : other = made
    · rw [if_pos hmade]
      exact fun heq => Nat.ne_of_gt hlt (Option.some.inj heq)
    · rw [if_neg hmade]
      exact hother

theorem Leaves.spares (h : Leaves s call next) (hlt : key < s.environments.size)
    (hlater : later.Spares s name key) : later.Spares next name key where
  created := hlater.created
  handed other hhanded := h.keyIn_ne hlt (hlater.handed other hhanded)

/-- A call that is not on a lexer leaves that lexer's environment as it is. -/
theorem Leaves.environment (h : Leaves s call next) (hs : s.Sound)
    (hobject : s.objects.lookup name = some (.lexer t key)) (hspares : call.Spares s name key)
    (hother : call.own? name = none) : next.environments[key]? = s.environments[key]? := by
  cases h with
  | logged => rfl
  | @kept _ changed found env records =>
    have hne : changed ≠ key := by
      rintro rfl
      cases call with
      | tokenize type text label environment =>
        cases environment with
        | none => cases found
        | some other => exact hspares.handed other rfl found
      | on other call =>
        rw [keyIn] at found
        split at found
        · next u key hobject' =>
          cases found
          have heq : other = name := hs.lexers_apart _ _ _ _ _ hobject' hobject
          rw [own?, if_pos heq] at hother
          cases hother
        · cases found
      | create => cases found
    exact Array.getElem?_setIfInBounds_ne hne
  | @created _ _ _ env =>
    have hlt : key < s.environments.size := hs.lexer_lt _ _ _ hobject
    change (s.environments.push env)[key]? = _
    rw [Array.getElem?_push_lt hlt, Array.getElem?_eq_getElem hlt]

theorem own_cons (name : String) (call : LexingCall) (calls : List LexingCall) :
    own name (call :: calls) = (call.own? name).toList ++ own name calls := by
  rw [own, List.filterMap_cons]
  cases call.own? name <;> rfl

theorem ownReplies_cons (name : String) (call : LexingCall) (calls : List LexingCall) (reply : Reply)
    (replies : List Reply) :
    ownReplies name (call :: calls) (reply :: replies) =
      ((call.own? name).map fun _ => reply).toList ++ ownReplies name calls replies := by
  rw [ownReplies, List.zip_cons_cons, List.filterMap_cons]
  dsimp only
  cases call.own? name <;> rfl

theorem own_map_on (name : String) (calls : List LexerCall) : own name (calls.map (.on name)) = calls := by
  induction calls with
  | nil => rfl
  | cons call calls ih => rw [List.map_cons, own_cons, own?, if_pos rfl, ih, Option.toList_some, List.singleton_append]

theorem ownReplies_map_on (name : String) (calls : List LexerCall) (replies : List Reply)
    (h : replies.length = calls.length) : ownReplies name (calls.map (.on name)) replies = replies := by
  induction calls generalizing replies with
  | nil => rw [List.length_eq_zero_iff.mp h]; rfl
  | cons call calls ih =>
    cases replies with
    | nil => cases h
    | cons reply replies =>
      rw [List.map_cons, ownReplies_cons, own?, if_pos rfl, ih replies (Nat.succ.inj h)]
      rfl

theorem own?_eq_some {own : LexerCall} (h : call.own? name = some own) : call = .on name own := by
  cases call with
  | on other call =>
    rw [own?] at h
    split at h
    · next heq =>
      cases h
      rw [heq]
    · cases h
  | tokenize | create => cases h

/-- Among the calls on all lexers, those on one lexer are answered in the environment that they themselves
have left, one after the other. -/
theorem told_own (hs : s.Sound) (hobject : s.objects.lookup name = some (.lexer t key))
    (henv : s.environments[key]? = some env) (hspares : ∀ call ∈ calls, call.Spares s name key) :
    let whole := calls.map (·.step)
    ownReplies name calls (s.told whole) = LexerCall.replies t.definition env (own name calls) ∧
      (s.after whole).objects.lookup name = some (.lexer t key) ∧
      (s.after whole).environments[key]? = some (LexerCall.leftBy t.definition env (own name calls)) := by
  induction calls generalizing s env with
  | nil =>
    simp only [List.map_nil, told_nil, after_nil]
    exact ⟨rfl, hobject, henv⟩
  | cons call calls ih =>
    have hcall : call.Spares s name key := hspares call List.mem_cons_self
    have hleaves : Leaves s call ((Session.reply call.step).run s).2 := leaves call s
    have hlt : key < s.environments.size := hs.lexer_lt _ _ _ hobject
    have hnext : ((Session.reply call.step).run s).2.Sound := sound_reply (keeps_answer _) hs
    have hobject' := (hleaves.lookup hcall.created).trans hobject
    have hspares' : ∀ later ∈ calls, later.Spares ((Session.reply call.step).run s).2 name key :=
      fun later hlater => hleaves.spares hlt (hspares later (List.mem_cons_of_mem _ hlater))
    simp only [List.map_cons, told_cons, after_cons, own_cons, ownReplies_cons]
    cases hown : call.own? name with
    | none =>
      have henv' := (hleaves.environment hs hobject hcall hown).trans henv
      exact ih hnext hobject' henv' hspares'
    | some own =>
      cases own?_eq_some hown
      have hrun : (Session.reply (LexingCall.on name own).step).run s = _ :=
        LexerCall.run_reply_step hobject henv own
      have henv' : ((Session.reply (LexingCall.on name own).step).run s).2.environments[key]? =
          some (own.left t.definition env) := by
        rw [hrun]
        exact getElem?_set henv _
      obtain ⟨hreplies, hlexer, hleft⟩ := ih hnext hobject' henv' hspares'
      refine ⟨?_, hlexer, hleft⟩
      rw [hreplies, hrun]
      rfl

theorem lookup_type (hobject : s.objects.lookup type = some (.type t))
    (hcreated : ∀ call ∈ calls, call.created? ≠ some type) :
    (s.after (calls.map (·.step))).objects.lookup type = some (.type t) := by
  induction calls generalizing s with
  | nil =>
    rw [List.map_nil, after_nil]
    exact hobject
  | cons call calls ih =>
    rw [List.map_cons, after_cons]
    have hcall := (leaves call s).lookup (hcreated call List.mem_cons_self)
    exact ih (hcall.trans hobject) fun later hlater => hcreated later (List.mem_cons_of_mem _ hlater)

end

end LexingCall

namespace Session

section

variable {s : Session} {type name : String} {t : LexerType} {env : Environment} {fault : Fault}

theorem environmentIn_grown (s : Session) (env : Environment) (name : String) (object : Object)
    (h : object = .environment s.environments.size ∨ ∃ t, object = .lexer t s.environments.size) :
    ((s.grown env).store name object).environmentIn name = some env := by
  have hkey : ((s.grown env).store name object).keyIn name = some s.environments.size := by
    rw [keyIn, lookup_store_self]
    rcases h with rfl | ⟨t, rfl⟩ <;> rfl
  rw [environmentIn, hkey]
  exact Array.getElem?_push_size

theorem run_newEnvironment (hobject : s.objects.lookup type = some (.type t)) (name : String) :
    (answer (.newEnvironment type name)).run s =
      match t.newEnvironment with
      | .ok env => (.ok (.kind env.kind), (s.grown env).store name (.environment s.environments.size))
      | .error fault => (.error fault, s) := by
  rw [answer, run_bind, run_findType hobject]
  dsimp only
  rw [run_bind, run_liftExcept]
  cases t.newEnvironment <;> rfl

theorem run_tokenize (hobject : s.objects.lookup type = some (.type t)) (text : String) (label : Option String) :
    ((answer (.tokenize type text label none)).run s).1 =
      t.newEnvironment >>= (LexerCall.mk text label false).answer t.definition := by
  rw [answer, run_bind, run_findType hobject]
  dsimp only
  rw [run_return, lexIn]
  dsimp only
  rw [run_bind, run_liftExcept]
  cases t.newEnvironment with
  | error fault => rfl
  | ok env =>
    dsimp only
    rw [run_lexFresh]
    rfl

theorem run_reply_lexer (hobject : s.objects.lookup type = some (.type t)) (hmake : t.newEnvironment = .ok env)
    (name : String) :
    (reply (.lexer type name)).run s =
      (.mk (.ok .nothing) (some env), (s.grown env).store name (.lexer t s.environments.size)) := by
  rw [run_reply, run_lexer hobject, hmake]
  exact congrArg (fun shown => (Reply.mk _ shown, _)) (environmentIn_grown s env name _ (.inr ⟨t, rfl⟩))

theorem run_reply_newEnvironment (hobject : s.objects.lookup type = some (.type t))
    (hmake : t.newEnvironment = .ok env) (name : String) :
    (reply (.newEnvironment type name)).run s =
      (.mk (.ok (.kind env.kind)) (some env),
        (s.grown env).store name (.environment s.environments.size)) := by
  rw [run_reply, run_newEnvironment hobject, hmake]
  exact congrArg (fun shown => (Reply.mk _ shown, _)) (environmentIn_grown s env name _ (.inl rfl))

theorem told_tokenize (hobject : s.objects.lookup type = some (.type t)) (text : String) (label : Option String) :
    s.told [.tokenize type text label none] =
      [.ofAnswer (t.newEnvironment >>= (LexerCall.mk text label false).answer t.definition) none] := by
  rw [told_cons, told_nil, run_reply]
  dsimp only
  rw [run_tokenize hobject]
  rfl

theorem run_reply_scan {key : Nat} (hobject : s.objects.lookup type = some (.type t))
    (hkey : s.keyIn name = some key) (henv : s.environments[key]? = some env) (text : String)
    (label : Option String) :
    ((reply (.scan type text label (some name))).run s).1 =
      (LexerCall.mk text label false).reply t.definition env := by
  have hdefinition : (findDefinition type).run s = (.ok t.definition, s) := by
    unfold findDefinition
    rw [run_bind, run_find, hobject]
    rfl
  have hworked : (answer (.scan type text label (some name))).run s =
      ((LexerCall.mk text label false).answer t.definition env,
        s.keep key (t.definition.lex text env label s.config.traces)) := by
    rw [answer, run_bind, hdefinition]
    dsimp only
    rw [run_return, lexIn]
    rw [run_bind, run_findKey hkey]
    dsimp only
    rw [run_lexAt henv]
    rfl
  rw [run_reply, hworked]
  exact congrArg (Reply.ofAnswer _) (environmentIn_eq hkey henv rfl rfl)

/-- Without an environment to lex in, the fault in making one is all there is to tell. -/
theorem told_of_make_fails (hobject : s.objects.lookup type = some (.type t))
    (hmake : t.newEnvironment = .error fault) (name text : String) (label : Option String) :
    s.told [.tokenize type text label none] = [.mk (.error fault) none] ∧
      s.told [.newEnvironment type name] = [.mk (.error fault) none] ∧
      s.told [.lexer type name] = [.mk (.error fault) (s.environmentIn name)] := by
  refine ⟨?_, ?_, ?_⟩
  · rw [told_tokenize hobject, hmake]
    rfl
  · rw [told_cons, told_nil, run_reply, run_newEnvironment hobject, hmake]
    rfl
  · rw [told_cons, told_nil, run_reply, run_lexer hobject, hmake]
    rfl

/-- A kind answers in an environment made for the call: as it does in one that is made and handed over, and as
a lexer of that kind does to its first call. -/
structure AnswersAfresh (s : Session) (type : String) (t : LexerType) : Prop where
  fails : ∀ fault, t.environment.make t.definition.start = .error fault → ∀ name text label,
    s.told [.tokenize type text label none] = [.mk (.error fault) none] ∧
      s.told [.newEnvironment type name] = [.mk (.error fault) none] ∧
      s.told [.lexer type name] = [.mk (.error fault) (s.environmentIn name)]
  lexes : ∀ env, t.environment.make t.definition.start = .ok env → ∀ name text label, name ≠ type →
    let call : LexerCall := ⟨text, label, false⟩
    s.told [.tokenize type text label none] = [.ofAnswer (call.answer t.definition env) none] ∧
      s.told [.newEnvironment type name, .scan type text label (some name)] =
        [.mk (.ok (.kind env.kind)) (some env), call.reply t.definition env] ∧
      s.told [.lexer type name, call.step name] = [.mk (.ok .nothing) (some env), call.reply t.definition env]

theorem answersAfresh (hobject : s.objects.lookup type = some (.type t)) : s.AnswersAfresh type t where
  fails fault hmake name text label := told_of_make_fails hobject hmake name text label
  lexes env hmake name text label hname := by
    intro call
    have hpushed : (s.environments.push env)[s.environments.size]? = some env := Array.getElem?_push_size
    have hmake' : t.newEnvironment = .ok env := hmake
    refine ⟨?_, ?_, ?_⟩
    · rw [told_tokenize hobject, hmake']
      rfl
    · rw [told_cons, run_reply_newEnvironment hobject hmake, told_cons, told_nil]
      have htype := (lookup_store_of_ne hname.symm (s.grown env) (.environment s.environments.size)).trans hobject
      have hkey : ((s.grown env).store name (.environment s.environments.size)).keyIn name =
          some s.environments.size := by
        rw [keyIn, lookup_store_self]
      rw [run_reply_scan htype hkey hpushed text label]
    · rw [told_cons, run_reply_lexer hobject hmake, told_cons, told_nil]
      have hlexer := lookup_store_self (s.grown env) name (.lexer t s.environments.size)
      rw [LexerCall.run_reply_step hlexer hpushed call]

/-- Calls on two lexers may be made in either order. Only the log tells which came first. -/
theorem Sound.told_comm (hs : s.Sound) {a b : String} {u : LexerType} {key other : Nat}
    (ha : s.objects.lookup a = some (.lexer t key)) (hb : s.objects.lookup b = some (.lexer u other))
    (hne : a ≠ b) (x y : LexerCall) :
    ∃ forX forY, s.told [x.step a, y.step b] = [forX, forY] ∧ s.told [y.step b, x.step a] = [forY, forX] ∧
      { s.after [x.step a, y.step b] with log := [] } = { s.after [y.step b, x.step a] with log := [] } := by
  have hkeys : key ≠ other := by
    rintro rfl
    exact hne (hs.lexers_apart _ _ _ _ _ ha hb)
  obtain ⟨enva, henva⟩ : ∃ env, s.environments[key]? = some env :=
    ⟨_, Array.getElem?_eq_getElem (hs.lexer_lt _ _ _ ha)⟩
  obtain ⟨envb, henvb⟩ : ∃ env, s.environments[other]? = some env :=
    ⟨_, Array.getElem?_eq_getElem (hs.lexer_lt _ _ _ hb)⟩
  have hx := LexerCall.run_reply_step ha henva x
  have hy := LexerCall.run_reply_step hb henvb y
  -- What the one leaves, the other finds as it was before.
  have hyAfter := LexerCall.run_reply_step
    (s := s.keep key (t.definition.lex x.text enva x.label s.config.traces)) hb
    ((Array.getElem?_setIfInBounds_ne hkeys).trans henvb) y
  have hxAfter := LexerCall.run_reply_step
    (s := s.keep other (u.definition.lex y.text envb y.label s.config.traces)) ha
    ((Array.getElem?_setIfInBounds_ne hkeys.symm).trans henva) x
  refine ⟨x.reply t.definition enva, y.reply u.definition envb, ?_, ?_, ?_⟩
  · rw [told_cons, hx, told_cons, hyAfter, told_nil]
  · rw [told_cons, hy, told_cons, hxAfter, told_nil]
  · rw [after_cons, hx, after_cons, hyAfter, after_nil, after_cons, hy, after_cons, hxAfter, after_nil]
    have hset : (s.environments.set! key (x.left t.definition enva)).set! other (y.left u.definition envb) =
        (s.environments.set! other (y.left u.definition envb)).set! key (x.left t.definition enva) :=
      Array.setIfInBounds_comm _ _ hkeys
    exact congrArg (fun environments => { s with environments, log := [] }) hset

end

end Session

/-- Whatever has been done in a session, and whatever lexing calls are made then, also ones that fail: a kind
answers as if it were new, and a lexer as if its own calls alone had been made, each on its text from the
start and in the environment that the one before has left. -/
theorem lexing_calls_stay_apart (history : List Step) (calls : List LexingCall) :
    let s := initial.after history
    let whole := calls.map (·.step)
    (∀ type t, s.objects.lookup type = some (.type t) → (∀ call ∈ calls, call.created? ≠ some type) →
      (s.after whole).AnswersAfresh type t) ∧
    (∀ name t key, s.objects.lookup name = some (.lexer t key) → (∀ call ∈ calls, call.Spares s name key) →
      let alone := (LexingCall.own name calls).map (·.step name)
      ∃ env, s.environmentIn name = some env ∧
        LexingCall.ownReplies name calls (s.told whole) = LexerCall.replies t.definition env (LexingCall.own name calls) ∧
        s.told alone = LexerCall.replies t.definition env (LexingCall.own name calls) ∧
        (s.after whole).environmentIn name = some (LexerCall.leftBy t.definition env (LexingCall.own name calls)) ∧
        (s.after alone).environmentIn name = some (LexerCall.leftBy t.definition env (LexingCall.own name calls))) ∧
    ∀ a b t u key other, s.objects.lookup a = some (.lexer t key) → s.objects.lookup b = some (.lexer u other) →
      a ≠ b → ∀ x y : LexerCall,
      ∃ forX forY, s.told [x.step a, y.step b] = [forX, forY] ∧ s.told [y.step b, x.step a] = [forY, forX] ∧
        { s.after [x.step a, y.step b] with log := [] } = { s.after [y.step b, x.step a] with log := [] } := by
  intro s whole
  have hs : s.Sound := sound_after history
  refine ⟨?_, ?_, ?_⟩
  · intro type t hobject hcreated
    exact answersAfresh (LexingCall.lookup_type hobject hcreated)
  · intro name t key hobject hspares alone
    have henv : s.environments[key]? = some _ := Array.getElem?_eq_getElem (hs.lexer_lt _ _ _ hobject)
    have halone : alone = ((LexingCall.own name calls).map (LexingCall.on name)).map (·.step) := by
      rw [List.map_map]
      rfl
    have hown : ∀ call ∈ (LexingCall.own name calls).map (LexingCall.on name), call.Spares s name key := by
      intro call hcall
      obtain ⟨mine, _, rfl⟩ := List.mem_map.mp hcall
      exact ⟨nofun, nofun⟩
    obtain ⟨hreplies, hlexer, hleft⟩ := LexingCall.told_own hs hobject henv hspares
    obtain ⟨hrepliesAlone, hlexerAlone, hleftAlone⟩ := LexingCall.told_own hs hobject henv hown
    rw [← halone, LexingCall.own_map_on] at hrepliesAlone hleftAlone
    rw [← halone] at hlexerAlone
    rw [LexingCall.ownReplies_map_on _ _ _ (by rw [length_told, List.length_map])] at hrepliesAlone
    refine ⟨_, ?_, hreplies, hrepliesAlone, ?_, ?_⟩
    · rw [environmentIn, keyIn_of_lexer hobject]
      exact henv
    · rw [environmentIn, keyIn_of_lexer hlexer]
      exact hleft
    · rw [environmentIn, keyIn_of_lexer hlexerAlone]
      exact hleftAlone
  · intro a b t u key other ha hb hne x y
    exact hs.told_comm ha hb hne x y

/-- Two calculators. One fails midway and goes on, and the other's environment is handed over in between. -/
theorem lexing_calls_stay_apart_calculators :
    let s := initial.after [.lexer "Calculator" "a", .lexer "Calculator" "b"]
    let calls : List LexingCall :=
      [.on "a" ⟨"1+x", none, false⟩, .tokenize "Calculator" "2" none (some "b"), .create "Calculator" "c",
        .on "b" ⟨"?", none, true⟩, .on "a" ⟨"(3)", none, true⟩]
    let whole := calls.map (·.step)
    let own : List LexerCall := [⟨"1+x", none, false⟩, ⟨"(3)", none, true⟩]
    let d := Calculator.lexer.definition
    s.objects.lookup "Calculator" = some (.type Calculator.lexer) ∧
      s.objects.lookup "a" = some (.lexer Calculator.lexer 0) ∧
      s.objects.lookup "b" = some (.lexer Calculator.lexer 1) ∧
      (∀ call ∈ calls, call.created? ≠ some "Calculator") ∧ (∀ call ∈ calls, call.Spares s "a" 0) ∧
      (s.after whole).AnswersAfresh "Calculator" Calculator.lexer ∧
      LexingCall.ownReplies "a" calls (s.told whole) = LexerCall.replies d (.plain "default") own ∧
      (s.after whole).environmentIn "a" = some (LexerCall.leftBy d (.plain "default") own) ∧
      ∃ failed lexed, s.told [.lex "a" "1+x" none, .lex "b" "2" none] = [failed, lexed] ∧
        s.told [.lex "b" "2" none, .lex "a" "1+x" none] = [lexed, failed] := by
  intro s calls whole own d
  let env := Environment.plain "default"
  let first := (initial.grown env).store "a" (.lexer Calculator.lexer 0)
  have hfirst : first.objects.lookup "Calculator" = some (.type Calculator.lexer) := rfl
  have hs : s = (first.grown env).store "b" (.lexer Calculator.lexer 1) := by
    simp only [s, after_cons, after_nil]
    rw [run_reply_lexer (s := initial) rfl Calculator.newEnvironment_eq "a"]
    exact congrArg Prod.snd (run_reply_lexer hfirst Calculator.newEnvironment_eq "b")
  have htype : s.objects.lookup "Calculator" = some (.type Calculator.lexer) := by rw [hs]; rfl
  have ha : s.objects.lookup "a" = some (.lexer Calculator.lexer 0) := by rw [hs]; rfl
  have hb : s.objects.lookup "b" = some (.lexer Calculator.lexer 1) := by rw [hs]; rfl
  have hcreated : ∀ call ∈ calls, call.created? ≠ some "Calculator" := by
    simp [calls, LexingCall.created?]
  have hspares : ∀ call ∈ calls, call.Spares s "a" 0 := by
    have hkey : s.keyIn "b" = some 1 := keyIn_of_lexer hb
    intro call hcall
    refine ⟨?_, ?_⟩
    · revert call
      simp [calls, LexingCall.created?]
    · revert call
      simp [calls, LexingCall.handed?, hkey]
  obtain ⟨hkinds, hlexers, hcomm⟩ :=
    lexing_calls_stay_apart [.lexer "Calculator" "a", .lexer "Calculator" "b"] calls
  obtain ⟨env', henv', hreplies, _, hleft, _⟩ := hlexers "a" Calculator.lexer 0 ha hspares
  have henv : s.environmentIn "a" = some env := by rw [hs]; rfl
  cases henv.symm.trans henv'
  obtain ⟨failed, lexed, hone, hother, _⟩ :=
    hcomm "a" "b" _ _ _ _ ha hb (by decide) ⟨"1+x", none, false⟩ ⟨"2", none, false⟩
  exact ⟨htype, ha, hb, hcreated, hspares, hkinds _ _ htype hcreated, hreplies, hleft, failed, lexed, hone, hother⟩

end Lexing
