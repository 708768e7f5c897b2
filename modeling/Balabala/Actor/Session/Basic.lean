import Mathlib.Algebra.Group.Nat.Defs
import Mathlib.Logic.Function.Basic
import Balabala.Foundation.Machine
import Balabala.Actor.Message

/-!
# Sessions and suspended coroutines

A coroutine of an actor that awaits `Call`, `ClusterCall` or `Sleep` takes a session id, puts its
handle into `waitMap_`, sends its request and is suspended. `OnMessage` resumes it with the
response of that session. What the coroutines do otherwise is arbitrary: they await, call other
coroutines of the actor and end, in any order.

One worker at a time runs `ProcessOne` of an actor, so the model is the sequence of the steps that
touch its maps. Sending and setting timers only has an effect on mailboxes, and returns normally.
-/

namespace Balabala

open Foundation

inductive AwaitKind
  | call | clusterCall | sleep
  deriving DecidableEq

/-- An awaiter object, in the frame of its coroutine. -/
structure Awaiter where
  kind : AwaitKind
  sessionId : UInt32
  deriving DecidableEq

/-- Where a coroutine is that is running. -/
inductive FramePc
  | body
  /-- in `await_suspend`, the session id allocated -/
  | store (w : Awaiter)
  /-- the handle stored -/
  | send (w : Awaiter)
  /-- the request sent -/
  | setTimeout (w : Awaiter)
  /-- the timer set, about to return -/
  | leave (w : Awaiter)
  deriving DecidableEq

/-- A coroutine that is running, or waiting for one it has called. -/
structure Activation where
  frame : Nat
  pc : FramePc
  deriving DecidableEq

/-- The history of an actor. -/
inductive SessionEvent
  /-- `await_suspend` has returned in the coroutine `h` -/
  | suspended (h : Nat) (w : Awaiter)
  /-- `ProcessOne` hands a message to `OnMessage` -/
  | processed (msg : ActorMessage)
  /-- the coroutine `h` continues; `result` is what its `co_await` evaluates to -/
  | resumed (h : Nat) (w : Awaiter) (result : Option ActorMessage)
  deriving DecidableEq

/-- The coroutine side of an actor. A coroutine handle is a number. -/
structure Actor where
  nextSessionId : UInt32
  waitMap : UInt32 → Option Nat
  responseMap : UInt32 → Option ActorMessage
  /-- the running coroutines, the innermost first -/
  stack : List Activation
  /-- the awaiters that suspended frames will be resumed in -/
  awaiting : Nat → Option Awaiter
  /-- the number of frames created -/
  frames : Nat
  /-- the number of calls of `AllocSession` -/
  allocated : Nat
  log : List SessionEvent

namespace Actor

/-- `await_resume`: the value of the `co_await`. `CallAwaiter` and `ClusterCallAwaiter` take the
response out of `responseMap_`, `SleepAwaiter` does nothing. -/
def awaitResume (a : Actor) (w : Awaiter) : Option ActorMessage × Actor :=
  match w.kind with
  | .sleep => (none, a)
  | .call | .clusterCall =>
    (some ((a.responseMap w.sessionId).getD {}),
      { a with responseMap := Function.update a.responseMap w.sessionId none })

/-- `ResumeWaiting`, up to the point where the coroutine runs on. -/
def resumeWaiting (a : Actor) (session : UInt32) (response : ActorMessage) : Actor :=
  match a.waitMap session with
  | none => a
  | some h =>
    let a : Actor :=
      { a with waitMap := Function.update a.waitMap session none
               responseMap := Function.update a.responseMap session (some response)
               stack := ⟨h, .body⟩ :: a.stack }
    match a.awaiting h with
    | none => a
    | some w =>
      let (result, a) := a.awaitResume w
      { a with awaiting := Function.update a.awaiting h none
               log := a.log ++ [.resumed h w result] }

/-- `OnMessage`: a response resumes, any other message starts a coroutine. -/
def onMessage (a : Actor) (msg : ActorMessage) : Actor :=
  let a : Actor := { a with log := a.log ++ [.processed msg] }
  if msg.isResponse && 0 < msg.sessionId then a.resumeWaiting msg.sessionId msg
  else { a with stack := ⟨a.frames, .body⟩ :: a.stack, frames := a.frames + 1 }

/-- The next step of `await_suspend` of the coroutine `h`. -/
def suspendNext (a : Actor) (h : Nat) (rest : List Activation) : FramePc → Option Actor
  | .body => none
  | .store w =>
    some { a with waitMap := Function.update a.waitMap w.sessionId (some h)
                  stack := ⟨h, .send w⟩ :: rest }
  | .send w => some { a with stack := ⟨h, .setTimeout w⟩ :: rest }
  | .setTimeout w => some { a with stack := ⟨h, .leave w⟩ :: rest }
  | .leave w =>
    some { a with stack := rest, awaiting := Function.update a.awaiting h (some w)
                  log := a.log ++ [.suspended h w] }

inductive Action
  /-- `ProcessOne` takes the next message -/
  | process (msg : ActorMessage)
  /-- the running coroutine calls another one -/
  | callCoroutine
  /-- the running coroutine awaits: `AllocSession` -/
  | coAwait (kind : AwaitKind)
  /-- a step of `await_suspend` -/
  | suspend
  /-- the running coroutine ends -/
  | coReturn

def next (a : Actor) : Action → Option Actor
  | .process msg => if a.stack = [] then some (a.onMessage msg) else none
  | .callCoroutine =>
    match a.stack with
    | ⟨h, .body⟩ :: rest =>
      some { a with stack := ⟨a.frames, .body⟩ :: ⟨h, .body⟩ :: rest, frames := a.frames + 1 }
    | _ => none
  | .coAwait kind =>
    match a.stack with
    | ⟨h, .body⟩ :: rest =>
      some { a with stack := ⟨h, .store ⟨kind, a.nextSessionId⟩⟩ :: rest
                    nextSessionId := a.nextSessionId + 1, allocated := a.allocated + 1 }
    | _ => none
  | .suspend =>
    match a.stack with
    | ⟨h, pc⟩ :: rest => a.suspendNext h rest pc
    | [] => none
  | .coReturn =>
    match a.stack with
    | ⟨_, .body⟩ :: rest => some { a with stack := rest }
    | _ => none

/-- A new actor. -/
def start : Actor where
  nextSessionId := 1
  waitMap := fun _ => none
  responseMap := fun _ => none
  stack := []
  awaiting := fun _ => none
  frames := 0
  allocated := 0
  log := []

def machine : Machine Actor Action where
  init := (· = start)
  next := next

lemma reachable_start : machine.Reachable start := .start rfl

end Actor

end Balabala
