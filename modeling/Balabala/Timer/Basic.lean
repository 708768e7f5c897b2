import Mathlib.Algebra.Group.Int.Defs
import Mathlib.Algebra.Group.Nat.Defs
import Mathlib.Logic.Function.Basic
import Balabala.Foundation.Machine
import Balabala.Actor.Message

/-!
# The timer manager

`TimerManager` keeps its timers in a heap ordered by expiry and in a map from ids. Any number of
threads run `addTimer` and `CancelTimer`, one thread runs `timerLoop`, and one may run `Stop`.
What happens while `timerMutex_` is held by another thread than the timer thread is one step; the
timer thread is modelled step by step, since the clock moves while it works.

Times are the whole milliseconds that `NowMs` reports. `wait_for` with a predicate fixes its
deadline on entry. A wake-up, by a notification or a spurious one, that finds the predicate false
waits again for the same deadline.
-/

namespace Balabala

open Foundation

abbrev TimerId := UInt64

structure TimerEntry where
  timerId : TimerId := 0
  expireTimeMs : UInt64 := 0
  actorId : ActorId := 0
  msg : ActorMessage := {}
  intervalMs : Int := 0
  cancelled : Bool := false

/-- Where a thread is inside `addTimer`. A `TimerEntryPtr` is a number. -/
inductive AddPc
  | idle
  /-- the entry is built, its critical section comes next -/
  | insert (p : Nat)
  /-- the entry is in the heap, the notification comes next -/
  | notify
  deriving DecidableEq

/-- The two waits of `timerLoop`: on the empty heap, and for the next expiry. -/
inductive WaitKind
  | noTimer | nextTimer
  deriving DecidableEq

/-- Where the timer thread is. -/
inductive TimerPc
  /-- about to test `running_` -/
  | top
  /-- about to lock `timerMutex_` -/
  | lock
  /-- about to test `heap_.empty()`, else to read the clock -/
  | examine
  /-- has read `now`, about to look at the top of the heap -/
  | compare (now : UInt64)
  /-- about to call `wait_for` on the empty heap -/
  | enterEmpty
  /-- about to call `wait_for` until `nextExpire` -/
  | enterNext (now nextExpire : UInt64)
  /-- inside `wait_for`, about to evaluate the predicate -/
  | test (k : WaitKind) (deadline : Int) (timedOut : Bool)
  /-- inside `wait_for`, the mutex released -/
  | blocked (k : WaitKind) (deadline : Int) (notified : Bool)
  /-- back from the wait for the next expiry, about to test `running_` -/
  | woken
  /-- in the loop that collects the timers due -/
  | collect (toFire : List (ActorId × ActorMessage))
  /-- popped the periodic timer `p`, about to push it again -/
  | rearm (p : Nat) (toFire : List (ActorId × ActorMessage))
  /-- unlocked, sending what was collected -/
  | fire (toFire : List (ActorId × ActorMessage))
  | exited
  deriving DecidableEq

/-- Where `Stop` is. -/
inductive StopPc
  | idle | notifyAll | join | stopped
  deriving DecidableEq

structure TimerManager (Tid : Type*) where
  /-- what `NowMs` returns -/
  clock : UInt64
  running : Bool
  nextTimerId : TimerId
  /-- the entries behind the pointers below `allocated` -/
  entries : Nat → TimerEntry
  allocated : Nat
  heap : List Nat
  timerMap : TimerId → Option Nat
  adders : Tid → AddPc
  loop : TimerPc
  stop : StopPc
  /-- the history of the calls of `ActorSystem::Send` -/
  sent : List (ActorId × ActorMessage)

/-- The timer thread owns `timerMutex_`. -/
def TimerPc.locked : TimerPc → Bool
  | .examine | .compare _ | .enterEmpty | .enterNext _ _ | .test _ _ _ | .woken => true
  | .collect _ | .rearm _ _ => true
  | .top | .lock | .blocked _ _ _ | .fire _ | .exited => false

/-- A notification reaches the timer thread only while it is blocked. -/
def TimerPc.notify : TimerPc → TimerPc
  | .blocked k deadline _ => .blocked k deadline true
  | pc => pc

/-- After `wait_for` has returned: `continue`, or the test of `running_` before it. -/
def WaitKind.after : WaitKind → TimerPc
  | .noTimer => .top
  | .nextTimer => .woken

/-- `milliseconds(x)` stores a 64-bit unsigned number as a signed one. -/
def milliseconds (x : UInt64) : Int := if x.toNat < 2 ^ 63 then x.toNat else x.toNat - 2 ^ 64

namespace TimerManager

variable {Tid : Type*}

def expire (s : TimerManager Tid) (p : Nat) : UInt64 := (s.entries p).expireTimeMs

/-- `heap_.top()`; among equal expiries the heap may have any of them on top. -/
def IsTop (s : TimerManager Tid) (p : Nat) : Prop :=
  p ∈ s.heap ∧ ∀ q ∈ s.heap, s.expire p ≤ s.expire q

instance (s : TimerManager Tid) (p : Nat) : Decidable (s.IsTop p) :=
  inferInstanceAs (Decidable (_ ∧ _))

/-- `heap_.top()->expireTimeMs <= NowMs()`: the top is due if any timer is. -/
def topDue (s : TimerManager Tid) : Bool := s.heap.any fun p => s.expire p ≤ s.clock

/-- The predicates of the two waits. -/
def predicate (s : TimerManager Tid) : WaitKind → Bool
  | .noTimer => !s.running || !s.heap.isEmpty
  | .nextTimer => !s.running || (!s.heap.isEmpty && s.topDue)

/-! ### addTimer, CancelTimer and Stop -/

variable [DecidableEq Tid]

/-- `addTimer` up to its critical section. -/
def addTimer (s : TimerManager Tid) (t : Tid) (actorId : ActorId) (delayMs : Int)
    (msg : ActorMessage) (intervalMs : Int) : TimerManager Tid :=
  let entry : TimerEntry :=
    { timerId := s.nextTimerId, expireTimeMs := s.clock + UInt64.ofInt delayMs, actorId, msg,
      intervalMs, cancelled := false }
  { s with
    nextTimerId := s.nextTimerId + 1
    entries := Function.update s.entries s.allocated entry
    allocated := s.allocated + 1
    adders := Function.update s.adders t (.insert s.allocated) }

/-- The critical section of `addTimer`. -/
def insert (s : TimerManager Tid) (t : Tid) (p : Nat) : TimerManager Tid :=
  { s with
    timerMap := Function.update s.timerMap (s.entries p).timerId (some p)
    heap := p :: s.heap
    adders := Function.update s.adders t .notify }

/-- `CancelTimer` marks the entry and forgets its id; the heap keeps the entry. -/
def cancelTimer (s : TimerManager Tid) (id : TimerId) : TimerManager Tid :=
  match s.timerMap id with
  | none => s
  | some p =>
    { s with
      entries := Function.update s.entries p { s.entries p with cancelled := true }
      timerMap := Function.update s.timerMap id none }

/-! ### The timer thread -/

/-- Pop the timer `p`, which is due, and collect its message unless it was cancelled. -/
def collectTop (s : TimerManager Tid) (p : Nat) (toFire : List (ActorId × ActorMessage)) :
    TimerManager Tid :=
  let entry := s.entries p
  let s := { s with heap := s.heap.erase p }
  if entry.cancelled then { s with loop := .collect toFire }
  else
    let toFire := toFire ++ [(entry.actorId, entry.msg)]
    if 0 < entry.intervalMs then { s with loop := .rearm p toFire }
    else { s with timerMap := Function.update s.timerMap entry.timerId none
                  loop := .collect toFire }

/-- A step of the timer thread that looks at the top of the heap. -/
def topNext (s : TimerManager Tid) (p : Nat) : Option (TimerManager Tid) :=
  match s.loop with
  | .compare now =>
    if now < s.expire p then some { s with loop := .enterNext now (s.expire p) }
    else some { s with loop := .collect [] }
  | .collect toFire =>
    if s.expire p ≤ s.clock then some (s.collectTop p toFire)
    else some { s with loop := .fire toFire }
  | _ => none

/-- Any other step of the timer thread. -/
def loopNext (s : TimerManager Tid) : Option (TimerManager Tid) :=
  match s.loop with
  | .top => some { s with loop := if s.running then .lock else .exited }
  | .lock => some { s with loop := .examine }
  | .examine => some { s with loop := if s.heap.isEmpty then .enterEmpty else .compare s.clock }
  | .compare _ => none
  | .enterEmpty => some { s with loop := .test .noTimer (s.clock.toNat + 100) false }
  | .enterNext now nextExpire =>
    some { s with
      loop := .test .nextTimer (s.clock.toNat + milliseconds (nextExpire - now)) false }
  | .test k deadline timedOut =>
    some { s with
      loop := if s.predicate k || timedOut then k.after else .blocked k deadline false }
  | .blocked _ _ _ => none
  | .woken => some { s with loop := if s.running then .top else .exited }
  | .collect toFire => if s.heap.isEmpty then some { s with loop := .fire toFire } else none
  | .rearm p toFire =>
    let entry := s.entries p
    let entry := { entry with expireTimeMs := s.clock + UInt64.ofInt entry.intervalMs }
    some { s with
      entries := Function.update s.entries p entry
      heap := p :: s.heap
      loop := .collect toFire }
  | .fire [] => some { s with loop := .top }
  | .fire (x :: toFire) =>
    some { s with sent := if s.running then s.sent ++ [x] else s.sent, loop := .fire toFire }
  | .exited => none

/-! ### All threads together -/

inductive Action (Tid : Type*)
  | tick (time : UInt64)
  | setTimeout (t : Tid) (actorId : ActorId) (delayMs : Int) (msg : ActorMessage)
  | setInterval (t : Tid) (actorId : ActorId) (intervalMs : Int) (msg : ActorMessage)
  | insert (t : Tid)
  | notify (t : Tid)
  | cancel (id : TimerId)
  | loop
  | top (p : Nat)
  /-- leave the blocked state: after the deadline, or not -/
  | wake (timedOut : Bool)
  | stopExchange
  | notifyAll
  | join

def next (s : TimerManager Tid) : Action Tid → Option (TimerManager Tid)
  | .tick time => if s.clock ≤ time then some { s with clock := time } else none
  | .setTimeout t actorId delayMs msg =>
    if s.adders t = .idle then some (s.addTimer t actorId delayMs msg 0) else none
  | .setInterval t actorId intervalMs msg =>
    if s.adders t = .idle ∧ 0 < intervalMs then
      some (s.addTimer t actorId intervalMs msg intervalMs)
    else none
  | .insert t =>
    match s.adders t with
    | .insert p => if s.loop.locked then none else some (s.insert t p)
    | _ => none
  | .notify t =>
    if s.adders t = .notify then
      some { s with adders := Function.update s.adders t .idle, loop := s.loop.notify }
    else none
  | .cancel id => if s.loop.locked then none else some (s.cancelTimer id)
  | .loop => s.loopNext
  | .top p => if s.IsTop p then s.topNext p else none
  | .wake timedOut =>
    match s.loop with
    | .blocked k deadline _ =>
      if timedOut ∧ s.clock.toNat < deadline then none
      else some { s with loop := .test k deadline timedOut }
    | _ => none
  | .stopExchange =>
    if s.running then some { s with running := false, stop := .notifyAll } else some s
  | .notifyAll =>
    if s.stop = .notifyAll then some { s with stop := .join, loop := s.loop.notify } else none
  | .join =>
    if s.stop = .join ∧ s.loop = .exited then
      some { s with stop := .stopped, heap := [], timerMap := fun _ => none }
    else none

/-- Just started, at some time. -/
def start (Tid : Type*) (time : UInt64) : TimerManager Tid where
  clock := time
  running := true
  nextTimerId := 1
  entries := fun _ => {}
  allocated := 0
  heap := []
  timerMap := fun _ => none
  adders := fun _ => .idle
  loop := .top
  stop := .idle
  sent := []

/-- The timer manager as a machine. -/
def machine (Tid : Type*) [DecidableEq Tid] : Machine (TimerManager Tid) (Action Tid) where
  init := fun s => ∃ time, s = start Tid time
  next := next

lemma reach_start {ok : TimerManager Tid → Action Tid → Prop} (time : UInt64) :
    (machine Tid).Reach ok (start Tid time) := .start ⟨time, rfl⟩

end TimerManager

end Balabala
