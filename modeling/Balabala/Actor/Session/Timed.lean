import Balabala.Util.SpinLockQueue
import Balabala.Actor.Session.Numbering
import Balabala.Timer.Arrival

/-!
# Awaiting with a timer

An awaiter sets a timer whose message resumes its coroutine: a `SleepAwaiter` always, the two calls
if `timeoutMs` is positive. A call that is answered without an error cancels it.

Here the coroutines of one actor and the timer manager work together, over the mailbox of the
actor. The thread `none` of the timer manager is the worker that runs the actor. Everything else
that is done to the timer manager, by the application and by other actors, is done by the others.
-/

namespace Balabala

open Foundation

/-- The message of the timer that an awaiter sets. -/
def Awaiter.timeoutMsg (w : Awaiter) : ActorMessage :=
  match w.kind with
  | .call | .clusterCall =>
    { type := .userMessage, sessionId := w.sessionId, isResponse := true, error := .timeout }
  | .sleep => { type := .userMessage, sessionId := w.sessionId, isResponse := true }

/-- A timer set by an awaiter. -/
structure AwaiterTimer where
  timer : Nat
  frame : Nat
  awaiter : Awaiter
  deriving DecidableEq

/-- What the worker of the actor is doing in the timer manager. -/
inductive WorkerPc
  | run
  /-- in `SetTimeout`, called by `await_suspend` -/
  | setTimeout
  /-- about to call `CancelTimer`, in `await_resume` -/
  | cancelTimer (timerId : TimerId)
  deriving DecidableEq

structure TimedActor (Tid : Type*) where
  actorId : ActorId
  actor : Actor
  timers : TimerManager (Option Tid)
  priorityMailbox : SpinLockQueue ActorMessage
  normalMailbox : SpinLockQueue ActorMessage
  pc : WorkerPc
  /-- the field `timerId` of the awaiter in a frame; a `SleepAwaiter` has none, and what is noted
  for it is not read -/
  timerId : Nat → TimerId
  /-- the history of the timers set by awaiters -/
  timeouts : List AwaiterTimer

namespace TimedActor

variable {Tid : Type*}

def pushMessage (s : TimedActor Tid) (msg : ActorMessage) : TimedActor Tid :=
  if msg.priority then { s with priorityMailbox := s.priorityMailbox.push msg }
  else { s with normalMailbox := s.normalMailbox.push msg }

/-- `ProcessOne` takes its message, of the priority mailbox first. -/
def pop (s : TimedActor Tid) : Option (ActorMessage × TimedActor Tid) :=
  match s.priorityMailbox.pop with
  | some (msg, q) => some (msg, { s with priorityMailbox := q })
  | none =>
    match s.normalMailbox.pop with
    | some (msg, q) => some (msg, { s with normalMailbox := q })
    | none => none

/-- The end of `await_resume`, when the last thing that happened is that a coroutine was resumed. -/
def afterResume (timerId : Nat → TimerId) (log : List SessionEvent) : WorkerPc :=
  match log.getLast? with
  | some (.resumed h _ (some result)) =>
    if result.error = .ok ∧ timerId h ≠ 0 then .cancelTimer (timerId h) else .run
  | _ => .run

/-- A new awaiter has no timer. -/
def noteAwait (timerId : Nat → TimerId) (a : Actor) : Actor.Action → Nat → TimerId
  | .coAwait _ =>
    match a.stack with
    | b :: _ => Function.update timerId b.frame 0
    | [] => timerId
  | _ => timerId

/-- The worker may go on with the coroutines. A call whose `timeoutMs` is not positive sets no
timer. -/
def goesOn [DecidableEq Tid] (s : TimedActor Tid) : Actor.Action → Bool
  | .process _ => false
  | .suspend =>
    match s.pc, s.actor.stack with
    | .setTimeout, _ => s.timers.adders none = .idle
    | .run, ⟨_, .setTimeout w⟩ :: _ => w.kind ≠ .sleep
    | .run, _ => true
    | .cancelTimer _, _ => false
  | .callCoroutine | .coAwait _ | .coReturn => s.pc = .run

/-- What the timer thread sends to the actor by its next step. -/
def arriving (s : TimedActor Tid) : TimerManager.Action (Option Tid) → Option ActorMessage
  | .loop =>
    match s.timers.loop with
    | .fire ((actorId, msg) :: _) =>
      if s.timers.running ∧ actorId = s.actorId then some msg else none
    | _ => none
  | _ => none

/-- A step of the timer manager that the worker does not start. -/
def ofOthers : TimerManager.Action (Option Tid) → Bool
  | .setTimeout none _ _ _ | .setInterval none _ _ _ => false
  | _ => true

inductive Action (Tid : Type*)
  /-- the coroutines go on -/
  | run (l : Actor.Action)
  | processOne
  /-- `await_suspend` calls `SetTimeout` -/
  | setTimeout (delayMs : Int)
  /-- `await_resume` calls `CancelTimer` -/
  | cancelTimer
  | timers (l : TimerManager.Action (Option Tid))
  /-- somebody sends to the actor -/
  | send (msg : ActorMessage)

/-- The steps of the application that leave the timers of the awaiters alone, with intervals of
type `int`, before `Stop`. -/
def Undisturbed (s : TimedActor Tid) : Action Tid → Prop
  | .timers (.cancel timerId) => ∀ x ∈ s.timeouts, (s.timers.entries x.timer).timerId ≠ timerId
  | .timers (.setInterval _ _ intervalMs _) => intervalMs < 2 ^ 31
  | .timers .stopExchange | .timers .notifyAll | .timers .join => False
  | _ => True

instance (s : TimedActor Tid) (l : Action Tid) : Decidable (s.Undisturbed l) :=
  match l with
  | .timers (.cancel _) => inferInstanceAs (Decidable (∀ x ∈ _, _))
  | .timers (.setInterval _ _ _ _) => inferInstanceAs (Decidable (_ < _))
  | .timers .stopExchange | .timers .notifyAll | .timers .join => inferInstanceAs (Decidable False)
  | .timers (.tick _) | .timers (.setTimeout _ _ _ _) | .timers (.insert _) | .timers (.notify _)
  | .timers .loop | .timers (.top _) | .timers (.wake _) | .run _ | .processOne | .setTimeout _
  | .cancelTimer | .send _ => inferInstanceAs (Decidable True)

lemma Undisturbed.intInterval {s : TimedActor Tid} {l : TimerManager.Action (Option Tid)}
    (h : s.Undisturbed (.timers l)) : TimerManager.IntInterval l := by
  cases l with
  | setInterval => exact h
  | _ => trivial

lemma Undisturbed.running {s : TimedActor Tid} {l : TimerManager.Action (Option Tid)}
    (h : s.Undisturbed (.timers l)) : l ≠ .stopExchange ∧ l ≠ .join := by
  constructor <;> rintro rfl <;> exact h

variable [DecidableEq Tid]

def next (s : TimedActor Tid) : Action Tid → Option (TimedActor Tid)
  | .run l =>
    if s.goesOn l then
      (s.actor.next l).map fun a =>
        { s with actor := a, timerId := noteAwait s.timerId s.actor l, pc := .run }
    else none
  | .processOne =>
    if s.pc = .run ∧ s.actor.stack = [] then
      s.pop.map fun (msg, s) =>
        let a := s.actor.onMessage msg
        { s with actor := a, pc := afterResume s.timerId a.log }
    else none
  | .setTimeout delayMs =>
    match s.pc, s.actor.stack with
    | .run, ⟨h, .setTimeout w⟩ :: _ =>
      if w.kind = .sleep ∨ 0 < delayMs then
        (s.timers.next (.setTimeout none s.actorId delayMs w.timeoutMsg)).map fun timers =>
          { s with timers, pc := .setTimeout
                   timerId := Function.update s.timerId h s.timers.nextTimerId
                   timeouts := ⟨s.timers.allocated, h, w⟩ :: s.timeouts }
      else none
    | _, _ => none
  | .cancelTimer =>
    match s.pc with
    | .cancelTimer timerId =>
      (s.timers.next (.cancel timerId)).map fun timers => { s with timers, pc := .run }
    | _ => none
  | .timers l =>
    if ofOthers l then
      (s.timers.next l).map fun timers =>
        match s.arriving l with
        | some msg => { s with timers }.pushMessage msg
        | none => { s with timers }
    else none
  | .send msg => some (s.pushMessage msg)

/-- A new actor of the id `actorId`, and a new timer manager. -/
def start (Tid : Type*) (actorId : ActorId) (time : UInt64) : TimedActor Tid where
  actorId := actorId
  actor := .start
  timers := .start (Option Tid) time
  priorityMailbox := .mk'
  normalMailbox := .mk'
  pc := .run
  timerId := fun _ => 0
  timeouts := []

/-- An actor with the timer manager as a machine. -/
def machine (Tid : Type*) [DecidableEq Tid] : Machine (TimedActor Tid) (Action Tid) where
  init s := ∃ actorId time, s = start Tid actorId time
  next := next

lemma reach_start {ok : TimedActor Tid → Action Tid → Prop} (actorId : ActorId) (time : UInt64) :
    (machine Tid).Reach ok (start Tid actorId time) := .start ⟨actorId, time, rfl⟩

/-! ### What one step can do -/

inductive Step (s : TimedActor Tid) : Action Tid → TimedActor Tid → Prop
  | run (l : Actor.Action) (a : Actor) (hl : s.goesOn l = true) (h : s.actor.next l = some a) :
      Step s (.run l)
        { s with actor := a, timerId := noteAwait s.timerId s.actor l, pc := .run }
  | processOne (msg : ActorMessage) (p n : SpinLockQueue ActorMessage) (hpc : s.pc = .run)
      (hs : s.actor.stack = [])
      (hn : ∀ m ∈ s.normalMailbox.queue, m = msg ∨ m ∈ n.queue) :
      Step s .processOne
        { s with actor := s.actor.onMessage msg, priorityMailbox := p, normalMailbox := n
                 pc := afterResume s.timerId (s.actor.onMessage msg).log }
  | setTimeout (d : Int) (h : Nat) (w : Awaiter) (rest : List Activation)
      (timers : TimerManager (Option Tid)) (hpc : s.pc = .run)
      (hs : s.actor.stack = ⟨h, .setTimeout w⟩ :: rest) (hd : w.kind = .sleep ∨ 0 < d)
      (ht : s.timers.next (.setTimeout none s.actorId d w.timeoutMsg) = some timers) :
      Step s (.setTimeout d)
        { s with timers, pc := .setTimeout
                 timerId := Function.update s.timerId h s.timers.nextTimerId
                 timeouts := ⟨s.timers.allocated, h, w⟩ :: s.timeouts }
  | cancelTimer (id : TimerId) (timers : TimerManager (Option Tid)) (hpc : s.pc = .cancelTimer id)
      (ht : s.timers.next (.cancel id) = some timers) :
      Step s .cancelTimer { s with timers, pc := .run }
  | arrive (timers : TimerManager (Option Tid)) (msg : ActorMessage)
      (ht : s.timers.next .loop = some timers) (hm : s.arriving .loop = some msg) :
      Step s (.timers .loop) ({ s with timers }.pushMessage msg)
  | timers (l : TimerManager.Action (Option Tid)) (timers : TimerManager (Option Tid))
      (hl : ofOthers l = true) (ht : s.timers.next l = some timers) (hm : s.arriving l = none) :
      Step s (.timers l) { s with timers }
  | send (msg : ActorMessage) : Step s (.send msg) (s.pushMessage msg)

omit [DecidableEq Tid] in
/-- `ProcessOne` takes one message out of one of the mailboxes. -/
lemma pop_cases {s s' : TimedActor Tid} {msg : ActorMessage} (h : s.pop = some (msg, s')) :
    ∃ p n, s' = { s with priorityMailbox := p, normalMailbox := n } ∧
      ∀ m ∈ s.normalMailbox.queue, m = msg ∨ m ∈ n.queue := by
  rw [pop] at h
  split at h
  · cases h
    exact ⟨_, s.normalMailbox, rfl, fun m hm => .inr hm⟩
  · split at h
    · rename_i q hq
      cases h
      refine ⟨s.priorityMailbox, q, rfl, fun m hm => ?_⟩
      rwa [(SpinLockQueue.pop_eq_some hq).1, List.mem_cons] at hm
    · cases h

omit [DecidableEq Tid] in
lemma eq_loop_of_arriving {s : TimedActor Tid} {l : TimerManager.Action (Option Tid)}
    {msg : ActorMessage} (h : s.arriving l = some msg) : l = .loop := by
  cases l with
  | loop => rfl
  | _ => cases h

/-- Every transition of the machine is one of the steps. -/
theorem Step.of_next {s s' : TimedActor Tid} {l : Action Tid}
    (h : (machine Tid).next s l = some s') : Step s l s' := by
  change next s l = some s' at h
  cases l with
  | run l =>
    simp only [next] at h
    split_ifs at h with hl
    obtain ⟨a, ha, rfl⟩ := Option.map_eq_some_iff.mp h
    exact .run l a hl ha
  | processOne =>
    simp only [next] at h
    split_ifs at h with hpc
    obtain ⟨⟨msg, s₁⟩, hpop, rfl⟩ := Option.map_eq_some_iff.mp h
    obtain ⟨p, n, rfl, hn⟩ := pop_cases hpop
    exact .processOne msg p n hpc.1 hpc.2 hn
  | setTimeout d =>
    simp only [next] at h
    split at h
    · rename_i fr w rest hpc hs
      split_ifs at h with hd
      obtain ⟨timers, ht, rfl⟩ := Option.map_eq_some_iff.mp h
      exact .setTimeout d fr w rest timers hpc hs hd ht
    · cases h
  | cancelTimer =>
    simp only [next] at h
    split at h
    · rename_i id hpc
      obtain ⟨timers, ht, rfl⟩ := Option.map_eq_some_iff.mp h
      exact .cancelTimer id timers hpc ht
    · cases h
  | timers l =>
    simp only [next] at h
    split_ifs at h with hl
    obtain ⟨timers, ht, rfl⟩ := Option.map_eq_some_iff.mp h
    cases hm : s.arriving l with
    | none => exact .timers l timers hl ht hm
    | some msg =>
      obtain rfl := eq_loop_of_arriving hm
      exact .arrive timers msg ht hm
  | send msg =>
    cases h
    exact .send msg

omit [DecidableEq Tid] in
/-- Pushing a message changes nothing but a mailbox, which loses nothing. -/
lemma pushMessage_cases (s : TimedActor Tid) (msg : ActorMessage) :
    ∃ p n, s.pushMessage msg = { s with priorityMailbox := p, normalMailbox := n } ∧
      (∀ m ∈ s.normalMailbox.queue, m ∈ n.queue) ∧ (msg.priority = false → msg ∈ n.queue) := by
  rw [pushMessage]
  cases hp : msg.priority with
  | true => exact ⟨_, _, rfl, fun m hm => hm, by simp⟩
  | false =>
    exact ⟨_, _, rfl, fun m hm => List.mem_append_left _ hm,
      fun _ => List.mem_append_right _ (List.mem_singleton.mpr rfl)⟩

lemma Step.next_actor {s s' : TimedActor Tid} {l : Action Tid} (h : Step s l s') :
    s'.actor = s.actor ∨ ∃ l', Actor.machine.next s.actor l' = some s'.actor := by
  cases h with
  | run l a hl h => exact .inr ⟨l, h⟩
  | processOne msg p n hpc hs =>
    refine .inr ⟨.process msg, ?_⟩
    exact if_pos hs
  | arrive timers msg =>
    obtain ⟨p, n, heq, -⟩ := pushMessage_cases { s with timers } msg
    rw [heq]
    exact .inl rfl
  | send msg =>
    obtain ⟨p, n, heq, -⟩ := pushMessage_cases s msg
    rw [heq]
    exact .inl rfl
  | setTimeout | cancelTimer | timers => exact .inl rfl

/-- What the actor does with its timers is something it does. -/
theorem reachable_actor {ok : TimedActor Tid → Action Tid → Prop} {s : TimedActor Tid}
    (h : (machine Tid).Reach ok s) : Actor.machine.Reachable s.actor := by
  induction h with
  | start hi =>
    obtain ⟨actorId, time, rfl⟩ := hi
    exact Actor.reachable_start
  | step _ _ hs ih =>
    rcases (Step.of_next hs).next_actor with heq | ⟨l, hl⟩
    · rwa [heq]
    · exact ih.step trivial hl

end TimedActor

end Balabala
