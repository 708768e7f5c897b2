import Mathlib.Logic.Function.Basic
import Balabala.Foundation.Machine
import Balabala.Util.SpinLockQueue
import Balabala.Actor.Message

/-!
# The actor scheduler

Any number of threads run `ActorSystem::Send`, `PushMessage`, `ProcessOne` and `workerLoop` with
sequentially consistent atomic steps: one critical section of a spin lock, one access to an atomic
flag, or the entry to and the exit from a handler. `Stop` is never called, so `running_` is true.

A handler may itself call `Send`; a thread therefore has two program counters, one for the Send in
progress and one for `workerLoop`. An id names the one actor object that was registered under it.
Log output, the condition variable and the metrics do not influence the protocol and are left out:
a worker that finds `readyQueue_` empty just tries again.
-/

namespace Balabala

open Foundation

/-! ### Actors and threads -/

/-- Whether an actor object is in `actors_`. -/
inductive Registration
  | absent | registered | removed
  deriving DecidableEq

/-- What the scheduler sees of an actor object. `dispatched` is the history of the messages handed
to `OnMessage`, from the priority mailbox and from the normal one. -/
structure ActorObject where
  registration : Registration
  scheduled : Bool
  priorityMailbox : SpinLockQueue ActorMessage
  normalMailbox : SpinLockQueue ActorMessage
  dispatched : Bool → List ActorMessage

namespace ActorObject

def fresh : ActorObject where
  registration := .absent
  scheduled := false
  priorityMailbox := .mk'
  normalMailbox := .mk'
  dispatched := fun _ => []

/-- The mailbox of a priority class. -/
def mailbox (o : ActorObject) : Bool → SpinLockQueue ActorMessage
  | true => o.priorityMailbox
  | false => o.normalMailbox

def setMailbox (o : ActorObject) : Bool → SpinLockQueue ActorMessage → ActorObject
  | true, q => { o with priorityMailbox := q }
  | false, q => { o with normalMailbox := q }

/-- `PushMessage` routes by the priority field. -/
def pushMessage (o : ActorObject) (msg : ActorMessage) : ActorObject :=
  if msg.priority then o.setMailbox true (o.priorityMailbox.push msg)
  else o.setMailbox false (o.normalMailbox.push msg)

/-- What `IsMailboxEmpty` says when nothing happens between its two reads. -/
def isMailboxEmpty (o : ActorObject) : Bool :=
  o.priorityMailbox.empty && o.normalMailbox.empty

/-- Record that a message of a class was handed to `OnMessage`. -/
def dispatch (o : ActorObject) (isPriority : Bool) (msg : ActorMessage) : ActorObject :=
  { o with dispatched :=
      Function.update o.dispatched isPriority (o.dispatched isPriority ++ [msg]) }

end ActorObject

/-- Where a thread is inside `Send`. -/
inductive SendPc
  | idle
  /-- about to look the actor up in `actors_` -/
  | find (a : ActorId) (msg : ActorMessage)
  /-- owns the actor, about to push to a mailbox -/
  | push (a : ActorId) (msg : ActorMessage)
  /-- pushed, about to compare-exchange `scheduled_` -/
  | exchange (a : ActorId)
  /-- exchanged successfully, about to push to `readyQueue_` -/
  | enqueue (a : ActorId)

/-- Where a thread is inside `workerLoop`; `processed` counts the messages of the batch so far. -/
inductive WorkPc
  /-- not a worker thread -/
  | outside
  /-- top of the loop, about to pop `readyQueue_` -/
  | pop
  /-- popped an id, about to look it up -/
  | find (a : ActorId)
  /-- `ProcessOne` about to pop the priority mailbox -/
  | popPriority (a : ActorId) (processed : Nat)
  /-- `ProcessOne` about to pop the normal mailbox -/
  | popNormal (a : ActorId) (processed : Nat)
  /-- `ProcessOne` about to call `OnMessage` -/
  | onMessage (a : ActorId) (processed : Nat) (isPriority : Bool) (msg : ActorMessage)
  /-- inside `OnMessage` -/
  | handler (a : ActorId) (processed : Nat)
  /-- after the batch, the two reads of `IsMailboxEmpty` -/
  | checkPriority (a : ActorId)
  | checkNormal (a : ActorId)
  /-- mailbox seen non-empty, about to re-push -/
  | enqueue (a : ActorId)
  /-- mailbox seen empty, about to store `false` -/
  | clear (a : ActorId)
  /-- stored `false`, the two reads of the second `IsMailboxEmpty` -/
  | recheckPriority (a : ActorId)
  | recheckNormal (a : ActorId)
  /-- mailbox seen non-empty again, about to compare-exchange -/
  | exchange (a : ActorId)
  /-- exchanged successfully, about to push -/
  | reenqueue (a : ActorId)

structure Thread where
  work : WorkPc
  send : SendPc

structure ActorSystem (Tid : Type*) where
  actors : ActorId → ActorObject
  readyQueue : SpinLockQueue ActorId
  threads : Tid → Thread

namespace ActorSystem

variable {Tid : Type*} [DecidableEq Tid]

def setActor (s : ActorSystem Tid) (a : ActorId) (o : ActorObject) : ActorSystem Tid :=
  { s with actors := Function.update s.actors a o }

def setWork (s : ActorSystem Tid) (t : Tid) (pc : WorkPc) : ActorSystem Tid :=
  { s with threads := Function.update s.threads t { s.threads t with work := pc } }

def setSend (s : ActorSystem Tid) (t : Tid) (pc : SendPc) : ActorSystem Tid :=
  { s with threads := Function.update s.threads t { s.threads t with send := pc } }

def setReady (s : ActorSystem Tid) (q : SpinLockQueue ActorId) : ActorSystem Tid :=
  { s with readyQueue := q }

/-! ### Send -/

/-- The next step of a `Send` in progress. -/
def sendNext (s : ActorSystem Tid) (t : Tid) : SendPc → Option (ActorSystem Tid)
  | .idle => none
  | .find a msg =>
    if (s.actors a).registration = .registered then some (s.setSend t (.push a msg))
    else some (s.setSend t .idle)
  | .push a msg => some ((s.setActor a ((s.actors a).pushMessage msg)).setSend t (.exchange a))
  | .exchange a =>
    if (s.actors a).scheduled then some (s.setSend t .idle)
    else some ((s.setActor a { s.actors a with scheduled := true }).setSend t (.enqueue a))
  | .enqueue a => some ((s.setReady (s.readyQueue.push a)).setSend t .idle)

/-! ### The worker loop -/

def batchSize : Nat := 64

/-- After one `ProcessOne` returned true: `++processed < 64` decides. -/
def continueBatch (a : ActorId) (processed : Nat) : WorkPc :=
  if processed + 1 < batchSize then .popPriority a (processed + 1) else .checkPriority a

/-- The next step of `workerLoop`; inside a handler it is the handler that runs. -/
def workNext (s : ActorSystem Tid) (t : Tid) : WorkPc → Option (ActorSystem Tid)
  | .outside => none
  | .pop =>
    match s.readyQueue.pop with
    | none => some s
    | some (a, q) => some ((s.setReady q).setWork t (.find a))
  | .find a =>
    if (s.actors a).registration = .registered then some (s.setWork t (.popPriority a 0))
    else some (s.setWork t .pop)
  | .popPriority a processed =>
    match (s.actors a).priorityMailbox.pop with
    | some (msg, q) =>
      some ((s.setActor a ((s.actors a).setMailbox true q)).setWork t
        (.onMessage a processed true msg))
    | none => some (s.setWork t (.popNormal a processed))
  | .popNormal a processed =>
    match (s.actors a).normalMailbox.pop with
    | some (msg, q) =>
      some ((s.setActor a ((s.actors a).setMailbox false q)).setWork t
        (.onMessage a processed false msg))
    | none => some (s.setWork t (.checkPriority a))
  | .onMessage a processed isPriority msg =>
    some ((s.setActor a ((s.actors a).dispatch isPriority msg)).setWork t (.handler a processed))
  | .handler _ _ => none
  | .checkPriority a =>
    if (s.actors a).priorityMailbox.empty then some (s.setWork t (.checkNormal a))
    else some (s.setWork t (.enqueue a))
  | .checkNormal a =>
    if (s.actors a).normalMailbox.empty then some (s.setWork t (.clear a))
    else some (s.setWork t (.enqueue a))
  | .enqueue a => some ((s.setReady (s.readyQueue.push a)).setWork t .pop)
  | .clear a =>
    some ((s.setActor a { s.actors a with scheduled := false }).setWork t (.recheckPriority a))
  | .recheckPriority a =>
    if (s.actors a).priorityMailbox.empty then some (s.setWork t (.recheckNormal a))
    else some (s.setWork t (.exchange a))
  | .recheckNormal a =>
    if (s.actors a).normalMailbox.empty then some (s.setWork t .pop)
    else some (s.setWork t (.exchange a))
  | .exchange a =>
    if (s.actors a).scheduled then some (s.setWork t .pop)
    else some ((s.setActor a { s.actors a with scheduled := true }).setWork t (.reenqueue a))
  | .reenqueue a => some ((s.setReady (s.readyQueue.push a)).setWork t .pop)

/-! ### The whole system -/

inductive Action (Tid : Type*)
  /-- `RegisterActor`, the only one for this object -/
  | register (a : ActorId)
  /-- the last step of `UnregisterActor`: `actors_.erase` -/
  | unregister (a : ActorId)
  /-- call `Send`, from outside the workers or from a handler -/
  | callSend (t : Tid) (a : ActorId) (msg : ActorMessage)
  | send (t : Tid)
  | work (t : Tid)
  /-- the handler returns, or leaves with an exception -/
  | finish (t : Tid) (threw : Bool)

/-- Only application threads and handlers call `Send`. -/
def mayCallSend (th : Thread) : Bool :=
  match th.work, th.send with
  | .outside, .idle => true
  | .handler _ _, .idle => true
  | _, _ => false

def next (s : ActorSystem Tid) : Action Tid → Option (ActorSystem Tid)
  | .register a =>
    if (s.actors a).registration = .absent then
      some (s.setActor a { s.actors a with registration := .registered })
    else none
  | .unregister a =>
    if (s.actors a).registration = .registered then
      some (s.setActor a { s.actors a with registration := .removed })
    else none
  | .callSend t a msg =>
    if mayCallSend (s.threads t) then some (s.setSend t (.find a msg)) else none
  | .send t => s.sendNext t (s.threads t).send
  | .work t =>
    match (s.threads t).send with
    | .idle => s.workNext t (s.threads t).work
    | _ => none
  | .finish t threw =>
    match (s.threads t).work, (s.threads t).send with
    | .handler a processed, .idle =>
      some (s.setWork t (if threw then .checkPriority a else continueBatch a processed))
    | _, _ => none

/-- Nothing registered, nothing queued, and every thread outside `Send` and at the top of
`workerLoop` or outside it. -/
structure Initial (s : ActorSystem Tid) : Prop where
  actors : ∀ a, s.actors a = .fresh
  ready : s.readyQueue.queue = []
  send : ∀ t, (s.threads t).send = .idle
  work : ∀ t, (s.threads t).work = .outside ∨ (s.threads t).work = .pop

/-- The initial state in which the threads `isWorker` selects run `workerLoop`. -/
def start (isWorker : Tid → Bool) : ActorSystem Tid where
  actors := fun _ => .fresh
  readyQueue := .mk'
  threads := fun t => { work := if isWorker t then .pop else .outside, send := .idle }

/-- The scheduler as a machine. -/
def machine (Tid : Type*) [DecidableEq Tid] : Machine (ActorSystem Tid) (Action Tid) where
  init := Initial
  next := next

lemma reachable_start (isWorker : Tid → Bool) : (machine Tid).Reachable (start isWorker) := by
  refine .start ⟨fun _ => rfl, rfl, fun _ => rfl, fun t => ?_⟩
  cases h : isWorker t
  · exact .inl (by simp [start, h])
  · exact .inr (by simp [start, h])

end ActorSystem

end Balabala
