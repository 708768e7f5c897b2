import Mathlib.Logic.Function.Iterate
import Mathlib.Tactic.Common

/-!
# Nested Lua coroutines

A handler of a Lua actor yields a signal wherever it waits, and the loop of `OnCoroutineMessage`
answers with one value. In a coroutine of its own a function yields to whoever resumes that;
`actor.run_co` passes the signals on and the responses back.

A Lua function is a program: called or resumed, it goes on to its next signal, to its return values
or to an error. What the values are does not matter, but for `nil` and those that the functions of
`actor_bridge.lua` make.
-/

namespace Balabala

/-- What a Lua function does next; `State` is where it can be waiting. -/
inductive LuaStep (State V : Type*)
  | yields (signal : V) (s : State)
  | returns (values : List V)
  | raises (err : V)

structure LuaFunction (V : Type*) where
  State : Type
  /-- up to the first signal -/
  call : List V → LuaStep State V
  /-- on from a signal, with the response -/
  resume : State → V → LuaStep State V

/-- What the bridge and the C++ loop make of Lua values. -/
structure LuaPrims (V : Type*) where
  nil : V
  text : String → V
  /-- `"run_co: " .. tostring(sig)`, with the position that `error` puts in front -/
  runCoError : V → V
  /-- `cmsgpack.pack` -/
  pack : V → V
  /-- `cmsgpack.unpack`: its values, or an error -/
  unpack : V → Except V (List V)
  /-- `{action = "wait", target = target, payload = payload}` -/
  waitSignal (target payload : V) : V
  /-- `{action = "cluster_call", nodeId = node, actorName = name, payload = payload}` -/
  clusterSignal (node name payload : V) : V
  /-- the field `valid` of what `ReadYieldSignal` makes of a signal -/
  valid : V → Bool

/-! ### The bridge -/

section Bridge

variable {V : Type*} (P : LuaPrims V) [DecidableEq V]

/-- What `actor.call` and `actor.cluster_call` do with the response. -/
def answer (respPacked : V) : LuaStep Unit V :=
  if respPacked = P.nil then .returns [P.nil, P.text "timeout or error"]
  else
    match P.unpack respPacked with
    | .ok values => .returns values
    | .error err => .raises err

/-- `actor.call(target, req)`. -/
def actorCall : LuaFunction V where
  State := Unit
  call
    | target :: req :: _ => .yields (P.waitSignal target (P.pack req)) ()
    | [target] => .yields (P.waitSignal target (P.pack P.nil)) ()
    | [] => .yields (P.waitSignal P.nil (P.pack P.nil)) ()
  resume _ respPacked := answer P respPacked

/-- `actor.cluster_call(node, name, req)`. -/
def actorClusterCall : LuaFunction V where
  State := Unit
  call args :=
    .yields (P.clusterSignal (args.headD P.nil) (args.tail.headD P.nil)
      (P.pack (args.tail.tail.headD P.nil))) ()
  resume _ respPacked := answer P respPacked

end Bridge

/-! ### Coroutines -/

variable {V : Type*} (P : LuaPrims V) (fn : LuaFunction V)

/-- What `coroutine.create(fn)` makes. -/
inductive LuaCoroutine (fn : LuaFunction V)
  | created
  | suspended (s : fn.State)
  | dead

namespace LuaCoroutine

variable {fn}

/-- `coroutine.status(co) == "dead"` -/
def isDead : LuaCoroutine fn → Bool
  | dead => true
  | created | suspended _ => false

/-- What `coroutine.resume` returns after a step of the function, and the coroutine then. -/
def settle : LuaStep fn.State V → Bool × List V × LuaCoroutine fn
  | .yields signal s => (true, [signal], suspended s)
  | .returns values => (true, values, dead)
  | .raises err => (false, [err], dead)

/-- `coroutine.resume(co, ...)`. -/
def resume (co : LuaCoroutine fn) (args : List V) : Bool × List V × LuaCoroutine fn :=
  match co with
  | created => settle (fn.call args)
  | suspended s => settle (fn.resume s (args.headD P.nil))
  | dead => (false, [P.text "cannot resume dead coroutine"], dead)

end LuaCoroutine

/-- `actor.run_co`, from a `coroutine.resume` on: `local ok, sig` take two of its results. -/
def runCoNext {fn : LuaFunction V} (r : Bool × List V × LuaCoroutine fn) :
    LuaStep (LuaCoroutine fn) V :=
  let ok := r.1
  let sig := r.2.1.headD P.nil
  let co := r.2.2
  if !ok then .raises (P.runCoError sig)
  else if !co.isDead then .yields sig co
  else .returns [sig]

/-- `actor.run_co(fn, ...)`. -/
def runCo : LuaFunction V where
  State := LuaCoroutine fn
  call args := runCoNext P (LuaCoroutine.created.resume P args)
  resume co respPacked := runCoNext P (co.resume P [respPacked])

/-! ### The loop in C++ -/

/-- How the loop of `OnCoroutineMessage` ends, or where it stands. -/
inductive LuaEnding (V : Type*)
  /-- waiting for the next response -/
  | waiting
  /-- given up at a signal that is not valid -/
  | abandoned
  | returned (values : List V)
  | raised
  deriving DecidableEq

/-- The loop, given the responses: the signals it sees, and how it ends. -/
def yieldLoop : LuaStep fn.State V → List V → List V × LuaEnding V
  | .returns values, _ => ([], .returned values)
  | .raises _, _ => ([], .raised)
  | .yields signal _, [] => ([signal], if P.valid signal then .waiting else .abandoned)
  | .yields signal s, r :: responses =>
    if P.valid signal then
      (signal :: (yieldLoop (fn.resume s r) responses).1,
        (yieldLoop (fn.resume s r) responses).2)
    else ([signal], .abandoned)

/-- What the C++ side sees of a call of a function. -/
def behaviour (args responses : List V) : List V × LuaEnding V :=
  yieldLoop P fn (fn.call args) responses

/-! ### What `run_co` keeps -/

variable {fn}

/-- `run_co` is where the function is: it waits at the same signal, with the function waiting
inside, or has come to the same end, with one value of those returned. -/
inductive Relays : LuaStep fn.State V → LuaStep (runCo P fn).State V → Prop
  | yields (signal : V) (s : fn.State) :
      Relays (.yields signal s) (.yields signal (LuaCoroutine.suspended s))
  | returns (values : List V) : Relays (.returns values) (.returns [values.headD P.nil])
  | raises (err : V) : Relays (.raises err) (.raises (P.runCoError err))

lemma relays_runCoNext (step : LuaStep fn.State V) :
    Relays P step (runCoNext P (LuaCoroutine.settle step)) := by
  cases step with
  | yields signal s => exact .yields signal s
  | returns values => exact .returns values
  | raises err => exact .raises err

lemma relays_call (args : List V) : Relays P (fn.call args) ((runCo P fn).call args) :=
  relays_runCoNext P _

/-- The response is given to the function where it waits. -/
lemma relays_resume (s : fn.State) (r : V) :
    Relays P (fn.resume s r) ((runCo P fn).resume (LuaCoroutine.suspended s) r) :=
  relays_runCoNext P _

/-- The first of the values, or `nil`. -/
def LuaEnding.truncate : LuaEnding V → LuaEnding V
  | .returned values => .returned [values.headD P.nil]
  | e => e

variable {P}

/-- `run_co` is seen as the function, but for the values it returns. -/
lemma Relays.yieldLoop {a : LuaStep fn.State V} {b : LuaStep (runCo P fn).State V}
    (h : Relays P a b) (responses : List V) : yieldLoop P (runCo P fn) b responses =
      ((yieldLoop P fn a responses).1, (yieldLoop P fn a responses).2.truncate P) := by
  induction responses generalizing a b with
  | nil =>
    cases h with
    | yields signal s =>
      simp only [Balabala.yieldLoop]
      split_ifs <;> rfl
    | returns values | raises err => simp only [Balabala.yieldLoop, LuaEnding.truncate]
  | cons r responses ih =>
    cases h with
    | yields signal s =>
      simp only [Balabala.yieldLoop]
      split_ifs
      · rw [ih (relays_resume P s r)]
      · rfl
    | returns values | raises err => simp only [Balabala.yieldLoop, LuaEnding.truncate]

lemma behaviour_runCo (args responses : List V) : behaviour P (runCo P fn) args responses =
    ((behaviour P fn args responses).1, (behaviour P fn args responses).2.truncate P) :=
  (relays_call P args).yieldLoop responses

lemma LuaEnding.truncate_truncate (e : LuaEnding V) :
    (e.truncate P).truncate P = e.truncate P := by
  cases e <;> rfl

/-- One coroutine around the function or many are all the same. -/
lemma behaviour_iterate_runCo (n : Nat) (args responses : List V) :
    behaviour P ((runCo P)^[n + 1] fn) args responses =
      ((behaviour P fn args responses).1, (behaviour P fn args responses).2.truncate P) := by
  induction n with
  | zero => exact behaviour_runCo args responses
  | succ n ih =>
    rw [Function.iterate_succ_apply', behaviour_runCo, ih, LuaEnding.truncate_truncate]

lemma LuaEnding.truncate_eq_iff {e : LuaEnding V} :
    e.truncate P = e ↔ ∀ values, e = .returned values → values.length = 1 := by
  cases e with
  | returned values =>
    simp only [truncate, LuaEnding.returned.injEq]
    constructor
    · rintro h vs rfl
      rw [← h]
      rfl
    · intro h
      obtain ⟨v, rfl⟩ := List.length_eq_one_iff.mp (h values rfl)
      rfl
  | waiting | abandoned | raised => simp [truncate]

/-- Around a function, `run_co`, nested to any depth, shows the same signals, takes the same
responses and ends in the same way, exactly when the function, if it returns, returns one value. -/
theorem runCo_transparent_iff (n : Nat) (args responses : List V) :
    behaviour P ((runCo P)^[n + 1] fn) args responses = behaviour P fn args responses ↔
      ∀ values, (behaviour P fn args responses).2 = .returned values → values.length = 1 := by
  rw [behaviour_iterate_runCo, Prod.ext_iff, ← LuaEnding.truncate_eq_iff]
  exact and_iff_right rfl

/-! ### A call that times out -/

/-- Strings and `nil`, enough for the values of a call. -/
def stringPrims : LuaPrims (Option String) where
  nil := none
  text s := some s
  runCoError e := some ("run_co: " ++ e.getD "nil")
  pack v := v
  unpack v := .ok [v]
  waitSignal target _ := target
  clusterSignal node _ _ := node
  valid signal := signal.isSome

/-- `actor.call` returns `nil` and a text, of which `run_co` loses the text. -/
theorem runCo_loses_text : ¬ ∀ (V : Type) (P : LuaPrims V) (fn : LuaFunction V) (n : Nat)
    (args responses : List V),
    behaviour P ((runCo P)^[n] fn) args responses = behaviour P fn args responses := by
  intro h
  have heq := h _ stringPrims (actorCall stringPrims) 1 [some "svc", some "req"] [none]
  exact absurd heq (by decide)

end Balabala
