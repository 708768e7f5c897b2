import Mathlib.Algebra.Group.Nat.Defs
import Mathlib.Data.Fintype.Basic
import Mathlib.Logic.Function.Basic
import Balabala.Foundation.BatchQueue
import Balabala.Foundation.Machine
import Balabala.Actor.Message

/-!
# The tasks of an event loop and its wake-ups

`EventLoop::run` blocks in `epoll_wait` until a descriptor is ready, runs the callbacks of the
reported events, and then swaps `pendingTasks_` out and runs what it got. Another thread that queues
a task writes to an eventfd afterwards, so that the wait ends. The loop thread itself does not: it
counts on `runPendingTasks` of the same iteration, which is right inside a callback, but inside a
pending task the queue has already been swapped out.

Tasks are of any type. `RemoveConnection` is a `QueueInLoop`, and so is `RunInLoop` in another
thread. Every lock section and every system call is a step of its own.
-/

namespace Balabala

open Foundation

/-- A descriptor that `epoll_wait` reports; `wakeupFd_` among the others. -/
inductive Fired
  | wakeupFd
  | other (fd : Fd)
  deriving DecidableEq

/-- Where the loop thread is. -/
inductive TaskPc
  /-- about to test `stop_` -/
  | test
  /-- blocked in `epoll_wait` -/
  | waiting
  /-- between two callbacks -/
  | events (fired : List Fired)
  /-- inside a callback -/
  | callback (fired : List Fired)
  /-- in `runPendingTasks`, between two tasks -/
  | tasks
  /-- inside a pending task -/
  | task
  /-- `run` has returned -/
  | exited
  deriving DecidableEq

/-- The loop thread is in code that may call the loop. -/
def TaskPc.inUserCode : TaskPc → Bool
  | .callback _ | .task => true
  | _ => false

/-- The callbacks of the iteration are still to come, and `runPendingTasks` after them. -/
def TaskPc.beforeSwap : TaskPc → Bool
  | .events _ | .callback _ => true
  | _ => false

/-- Where another thread is. -/
inductive QueuerPc
  | idle
  /-- in `QueueInLoop`, the task is in the queue -/
  | wakeup
  /-- in `Stop`, `stop_` is set -/
  | stopWakeup
  /-- in `Stop`, waiting for the loop thread -/
  | join
  deriving DecidableEq

/-- How `epoll_wait` returns. -/
inductive WaitResult
  | ready (fired : List Fired)
  | eintr
  | error
  deriving DecidableEq

structure TaskLoop (Tid Task : Type*) where
  /-- `pendingTasks_`, with the tasks of the current `runPendingTasks` as the batch -/
  queue : BatchQueue Task
  /-- the counter of the eventfd -/
  wakeupFd : Nat
  stop : Bool
  loop : TaskPc
  threads : Tid → QueuerPc
  /-- the tasks that `RunInLoop` ran at once -/
  direct : List Task

namespace TaskLoop

variable {Tid Task : Type*}

/-- The largest value of an eventfd. -/
def maxCounter : Nat := 2 ^ 64 - 2

/-- The `write` fails when the counter is full. -/
def wakeup (s : TaskLoop Tid Task) : TaskLoop Tid Task :=
  { s with wakeupFd := if s.wakeupFd < maxCounter then s.wakeupFd + 1 else s.wakeupFd }

lemma wakeupFd_wakeup_pos (s : TaskLoop Tid Task) : 0 < s.wakeup.wakeupFd := by
  have hmax : 0 < maxCounter := by decide
  simp only [wakeup]
  split_ifs with h <;> omega

/-- The `read` resets the counter. -/
def handleWakeup (s : TaskLoop Tid Task) : TaskLoop Tid Task := { s with wakeupFd := 0 }

/-- The locked part of `QueueInLoop`. -/
def push (s : TaskLoop Tid Task) (task : Task) : TaskLoop Tid Task :=
  { s with queue := s.queue.push task }

inductive Action (Tid Task : Type*)
  /-- another thread enters `QueueInLoop`, up to the end of its lock section -/
  | queueInLoop (t : Tid) (task : Task)
  /-- it calls `wakeup`, from `QueueInLoop` or from `Stop` -/
  | wakeup (t : Tid)
  | stop (t : Tid)
  | joined (t : Tid)
  | test
  | wait (r : WaitResult)
  /-- the next event; `found`: `callbacks_` has an entry for it -/
  | event (found : Bool)
  | callbackReturns
  | swap
  | task
  | taskReturns
  | tasksDone
  /-- the loop thread calls `QueueInLoop` or `RemoveConnection` -/
  | queueHere (task : Task)
  /-- the loop thread calls `RunInLoop` -/
  | runHere (task : Task)

/-- The wake-up descriptor is reported only while its counter is positive, and with a timeout of -1
something is reported. -/
def mayReport (s : TaskLoop Tid Task) (fired : List Fired) : Bool :=
  !fired.isEmpty && (Fired.wakeupFd ∉ fired || 0 < s.wakeupFd)

variable [DecidableEq Tid]

def setThread (s : TaskLoop Tid Task) (t : Tid) (pc : QueuerPc) : TaskLoop Tid Task :=
  { s with threads := Function.update s.threads t pc }

def next (s : TaskLoop Tid Task) : Action Tid Task → Option (TaskLoop Tid Task)
  | .queueInLoop t task =>
    if s.threads t = .idle then some ((s.push task).setThread t .wakeup) else none
  | .wakeup t =>
    match s.threads t with
    | .wakeup => some (s.wakeup.setThread t .idle)
    | .stopWakeup => some (s.wakeup.setThread t .join)
    | _ => none
  | .stop t =>
    if s.threads t = .idle then
      if s.stop then some s else some ({ s with stop := true }.setThread t .stopWakeup)
    else none
  | .joined t =>
    if s.threads t = .join ∧ s.loop = .exited then some (s.setThread t .idle) else none
  | .test =>
    if s.loop = .test then some { s with loop := if s.stop then .exited else .waiting } else none
  | .wait r =>
    if s.loop = .waiting then
      match r with
      | .ready fired => if s.mayReport fired then some { s with loop := .events fired } else none
      | .eintr => some { s with loop := .test }
      | .error => some { s with loop := .exited }
    else none
  | .event found =>
    match s.loop with
    | .events (.wakeupFd :: fired) => some { s.handleWakeup with loop := .events fired }
    | .events (.other _ :: fired) =>
      some { s with loop := if found then .callback fired else .events fired }
    | _ => none
  | .callbackReturns =>
    match s.loop with
    | .callback fired => some { s with loop := .events fired }
    | _ => none
  | .swap =>
    if s.loop = .events [] then some { s with queue := s.queue.swap, loop := .tasks } else none
  | .task =>
    if s.loop = .tasks then
      s.queue.begin.map fun p => { s with queue := p.2, loop := .task }
    else none
  | .taskReturns => if s.loop = .task then some { s with loop := .tasks } else none
  | .tasksDone =>
    if s.loop = .tasks ∧ s.queue.batch = [] then some { s with loop := .test } else none
  | .queueHere task => if s.loop.inUserCode then some (s.push task) else none
  | .runHere task =>
    if s.loop.inUserCode then some { s with direct := s.direct ++ [task] } else none

/-- A loop whose thread has just started. -/
def start (Tid Task : Type*) : TaskLoop Tid Task where
  queue := .empty
  wakeupFd := 0
  stop := false
  loop := .test
  threads := fun _ => .idle
  direct := []

def machine (Tid Task : Type*) [DecidableEq Tid] :
    Machine (TaskLoop Tid Task) (Action Tid Task) where
  init := fun s => s = start Tid Task
  next := next

/-! ### One constructor for each step -/

/-- What `next` does, read backwards: the guard each label needs, and where it leads. -/
inductive Step (s : TaskLoop Tid Task) : Action Tid Task → TaskLoop Tid Task → Prop
  | queueInLoop (t : Tid) (task : Task) (ht : s.threads t = .idle) :
      Step s (.queueInLoop t task) ((s.push task).setThread t .wakeup)
  | wakeup (t : Tid) (ht : s.threads t = .wakeup) :
      Step s (.wakeup t) (s.wakeup.setThread t .idle)
  | stopWakeup (t : Tid) (ht : s.threads t = .stopWakeup) :
      Step s (.wakeup t) (s.wakeup.setThread t .join)
  | stopAgain (t : Tid) (ht : s.threads t = .idle) (hs : s.stop = true) : Step s (.stop t) s
  | stop (t : Tid) (ht : s.threads t = .idle) (hs : s.stop = false) :
      Step s (.stop t) ({ s with stop := true }.setThread t .stopWakeup)
  | joined (t : Tid) (ht : s.threads t = .join) (hl : s.loop = .exited) :
      Step s (.joined t) (s.setThread t .idle)
  | test (hl : s.loop = .test) :
      Step s .test { s with loop := if s.stop then .exited else .waiting }
  | ready (fired : List Fired) (hl : s.loop = .waiting) (hf : s.mayReport fired = true) :
      Step s (.wait (.ready fired)) { s with loop := .events fired }
  | eintr (hl : s.loop = .waiting) : Step s (.wait .eintr) { s with loop := .test }
  | error (hl : s.loop = .waiting) : Step s (.wait .error) { s with loop := .exited }
  | handleWakeup (found : Bool) (fired : List Fired) (hl : s.loop = .events (.wakeupFd :: fired)) :
      Step s (.event found) { s.handleWakeup with loop := .events fired }
  | event (found : Bool) (fd : Fd) (fired : List Fired)
      (hl : s.loop = .events (.other fd :: fired)) :
      Step s (.event found) { s with loop := if found then .callback fired else .events fired }
  | callbackReturns (fired : List Fired) (hl : s.loop = .callback fired) :
      Step s .callbackReturns { s with loop := .events fired }
  | swap (hl : s.loop = .events []) :
      Step s .swap { s with queue := s.queue.swap, loop := .tasks }
  | task (task : Task) (q : BatchQueue Task) (hl : s.loop = .tasks)
      (hq : s.queue.begin = some (task, q)) : Step s .task { s with queue := q, loop := .task }
  | taskReturns (hl : s.loop = .task) : Step s .taskReturns { s with loop := .tasks }
  | tasksDone (hl : s.loop = .tasks) (hb : s.queue.batch = []) :
      Step s .tasksDone { s with loop := .test }
  | queueHere (task : Task) (hl : s.loop.inUserCode = true) : Step s (.queueHere task) (s.push task)
  | runHere (task : Task) (hl : s.loop.inUserCode = true) :
      Step s (.runHere task) { s with direct := s.direct ++ [task] }

/-- Every transition of the machine is one of the steps. -/
theorem Step.of_next {s s' : TaskLoop Tid Task} {l : Action Tid Task}
    (h : (machine Tid Task).next s l = some s') : Step s l s' := by
  change next s l = some s' at h
  cases l with
  | queueInLoop t task =>
    simp only [next] at h
    split_ifs at h with ht
    cases h; exact .queueInLoop t task ht
  | wakeup t =>
    simp only [next] at h
    split at h
    · cases h; exact .wakeup t ‹_›
    · cases h; exact .stopWakeup t ‹_›
    · cases h
  | stop t =>
    simp only [next] at h
    split_ifs at h with ht hs
    · cases h; exact .stopAgain t ht hs
    · cases h; exact .stop t ht (by simpa using hs)
  | joined t =>
    simp only [next] at h
    split_ifs at h with ht
    cases h; exact .joined t ht.1 ht.2
  | test =>
    by_cases hl : s.loop = .test
    · rw [next, if_pos hl] at h
      cases h; exact .test hl
    · rw [next, if_neg hl] at h
      cases h
  | wait r =>
    simp only [next] at h
    split_ifs at h with hl
    cases r with
    | ready fired =>
      dsimp only at h
      split_ifs at h with hf
      cases h; exact .ready fired hl hf
    | eintr => cases h; exact .eintr hl
    | error => cases h; exact .error hl
  | event found =>
    simp only [next] at h
    split at h
    · cases h; exact .handleWakeup found _ ‹_›
    · cases h; exact .event found _ _ ‹_›
    · cases h
  | callbackReturns =>
    simp only [next] at h
    split at h
    · cases h; exact .callbackReturns _ ‹_›
    · cases h
  | swap =>
    simp only [next] at h
    split_ifs at h with hl
    cases h; exact .swap hl
  | task =>
    simp only [next] at h
    split_ifs at h with hl
    obtain ⟨⟨task, q⟩, hq, rfl⟩ := Option.map_eq_some_iff.mp h
    exact .task task q hl hq
  | taskReturns =>
    simp only [next] at h
    split_ifs at h with hl
    cases h; exact .taskReturns hl
  | tasksDone =>
    simp only [next] at h
    split_ifs at h with hl
    cases h; exact .tasksDone hl.1 hl.2
  | queueHere task =>
    simp only [next] at h
    split_ifs at h with hl
    cases h; exact .queueHere task hl
  | runHere task =>
    simp only [next] at h
    split_ifs at h with hl
    cases h; exact .runHere task hl

/-! ### Every task once, in order -/

/-- Between two calls of `runPendingTasks` nothing is left of the batch. -/
def BatchDone (s : TaskLoop Tid Task) : Prop :=
  s.loop ≠ .tasks → s.loop ≠ .task → s.queue.batch = []

lemma Step.batchDone {s s' : TaskLoop Tid Task} {l : Action Tid Task} (h : Step s l s')
    (hs : BatchDone s) : BatchDone s' := by
  cases h with
  | queueInLoop | wakeup | stopWakeup | stopAgain | stop | joined | queueHere | runHere => exact hs
  | swap | task | taskReturns => simp [BatchDone]
  | tasksDone hl hb => exact fun _ _ => hb
  | test hl | eintr hl | error hl | ready fired hl hf | handleWakeup found fired hl
  | event found fd fired hl | callbackReturns fired hl =>
    intro _ _
    exact hs (by simp [hl]) (by simp [hl])

theorem batchDone_of_reachable {s : TaskLoop Tid Task} (h : (machine Tid Task).Reachable s) :
    BatchDone s := by
  apply h.invariant
  · rintro s rfl _ _
    rfl
  · intro s l s' _ hs _ hstep
    exact (Step.of_next hstep).batchDone hs

/-! ### Who sees to it that a task is run -/

/-- A thread has queued a task and is about to write to the eventfd. -/
def Waking (s : TaskLoop Tid Task) : Prop := ∃ t, s.threads t = .wakeup

/-- The next wait will end, or nothing waits for it. -/
def Covered (s : TaskLoop Tid Task) : Prop :=
  s.queue.pending = [] ∨ 0 < s.wakeupFd ∨ s.Waking

/-- Unless the loop thread is still to swap the queue out in this iteration. -/
def Attended (s : TaskLoop Tid Task) : Prop := s.loop.beforeSwap = false → s.Covered

/-- A pending task only calls `QueueInLoop` while the wait that follows is going to end anyway. -/
def SelfWoken (s : TaskLoop Tid Task) : Action Tid Task → Prop
  | .queueHere _ => s.loop = .task → 0 < s.wakeupFd ∨ s.Waking
  | _ => True

lemma Waking.setThread {s : TaskLoop Tid Task} {t : Tid} (ht : s.threads t ≠ .wakeup)
    (h : s.Waking) (pc : QueuerPc) : (s.setThread t pc).Waking := by
  obtain ⟨u, hu⟩ := h
  have hne : u ≠ t := by
    rintro rfl
    exact ht hu
  exact ⟨u, by simp [TaskLoop.setThread, Function.update_of_ne hne, hu]⟩

lemma Covered.setThread {s : TaskLoop Tid Task} {t : Tid} (ht : s.threads t ≠ .wakeup)
    (h : s.Covered) (pc : QueuerPc) : (s.setThread t pc).Covered := by
  obtain hp | hw | hw := h
  · exact .inl hp
  · exact .inr (.inl hw)
  · exact .inr (.inr (hw.setThread ht pc))

lemma Step.attended {s s' : TaskLoop Tid Task} {l : Action Tid Task} (h : Step s l s')
    (hok : SelfWoken s l) (hs : Attended s) : Attended s' := by
  cases h with
  | queueInLoop t task ht =>
    intro _
    exact .inr (.inr ⟨t, by simp [setThread]⟩)
  | wakeup t ht | stopWakeup t ht =>
    intro _
    exact .inr (.inl s.wakeupFd_wakeup_pos)
  | stopAgain t ht hst => exact hs
  | stop t ht hst =>
    intro hl
    exact Covered.setThread (s := { s with stop := true }) (by simp [ht]) (hs hl) _
  | joined t ht hl =>
    intro hl
    exact (hs hl).setThread (by simp [ht]) _
  | test hl | eintr hl | error hl =>
    intro _
    exact hs (by rw [hl]; rfl)
  | ready fired hl hf | handleWakeup found fired hl | callbackReturns fired hl =>
    intro hb
    cases hb
  | event found fd fired hl =>
    intro hb
    cases found <;> cases hb
  | swap hl =>
    intro _
    exact .inl rfl
  | task task q hl hq =>
    intro _
    obtain ⟨-, hp, -, -⟩ := BatchQueue.begin_eq_some hq
    have hc := hs (by rw [hl]; rfl)
    unfold Covered at hc ⊢
    rwa [hp]
  | taskReturns hl | tasksDone hl hb =>
    intro _
    exact hs (by rw [hl]; rfl)
  | queueHere task hl =>
    intro hb
    have hb : s.loop.beforeSwap = false := hb
    have htask : s.loop = .task := by
      cases hloop : s.loop with
      | task => rfl
      | callback fired =>
        rw [hloop] at hb
        cases hb
      | test | waiting | events | tasks | exited =>
        rw [hloop] at hl
        cases hl
    exact .inr (hok htask)
  | runHere task hl => exact hs

/-! ### What was called and what was run -/

/-- The tasks of the calls, and the tasks that the loop thread has run. -/
structure History (Task : Type*) where
  /-- `QueueInLoop` and `RemoveConnection` anywhere and `RunInLoop` in another thread, in the order
  of their lock sections -/
  queued : List Task := []
  /-- `RunInLoop` in the loop thread -/
  called : List Task := []
  /-- what `runPendingTasks` has begun, the front of what it swapped out each time -/
  ran : List Task := []

/-- The observer of the calls and of `runPendingTasks`. -/
def History.record (h : History Task) (s : TaskLoop Tid Task) (l : Action Tid Task)
    (_ : TaskLoop Tid Task) : History Task :=
  match l with
  | .queueInLoop _ task | .queueHere task => { h with queued := h.queued ++ [task] }
  | .runHere task => { h with called := h.called ++ [task] }
  | .task => { h with ran := h.ran ++ s.queue.batch.head?.toList }
  | _ => h

def recorded (Tid Task : Type*) [DecidableEq Tid] :
    Machine (TaskLoop Tid Task × History Task) (Action Tid Task) :=
  (machine Tid Task).observed {} History.record

/-- Every task of a call is run once, is still in the batch or still in the queue, in the order of
the calls. `RunInLoop` in the loop thread runs it at once. -/
def RunsInOrder (x : TaskLoop Tid Task × History Task) : Prop :=
  x.2.queued = x.2.ran ++ x.1.queue.batch ++ x.1.queue.pending ∧ x.2.called = x.1.direct

lemma Step.runsInOrder {s s' : TaskLoop Tid Task} {l : Action Tid Task} {h : History Task}
    (hstep : Step s l s') (hs : RunsInOrder (s, h)) : RunsInOrder (s', h.record s l s') := by
  obtain ⟨hqueued, hcalled⟩ := hs
  cases hstep with
  | queueInLoop t task ht =>
    refine ⟨?_, hcalled⟩
    show h.queued ++ [task] = h.ran ++ s.queue.batch ++ (s.queue.pending ++ [task])
    rw [hqueued, List.append_assoc (h.ran ++ s.queue.batch)]
  | queueHere task hl =>
    refine ⟨?_, hcalled⟩
    show h.queued ++ [task] = h.ran ++ s.queue.batch ++ (s.queue.pending ++ [task])
    rw [hqueued, List.append_assoc (h.ran ++ s.queue.batch)]
  | runHere task hl => exact ⟨hqueued, congrArg (· ++ [task]) hcalled⟩
  | swap hl =>
    refine ⟨?_, hcalled⟩
    show h.queued = h.ran ++ (s.queue.batch ++ s.queue.pending) ++ []
    rw [hqueued, List.append_nil, List.append_assoc]
  | task task q hl hq =>
    obtain ⟨hbatch, hpending, -, -⟩ := BatchQueue.begin_eq_some hq
    refine ⟨?_, hcalled⟩
    show h.queued = h.ran ++ s.queue.batch.head?.toList ++ q.batch ++ q.pending
    rw [hqueued, hbatch, hpending]
    simp
  | wakeup | stopWakeup | stopAgain | stop | joined | test | ready | eintr | error | handleWakeup
  | event | callbackReturns | taskReturns | tasksDone => exact ⟨hqueued, hcalled⟩

theorem runsInOrder_of_reachable {x : TaskLoop Tid Task × History Task}
    (h : (recorded Tid Task).Reachable x) : RunsInOrder x := by
  apply h.invariant (P := RunsInOrder)
  · rintro ⟨s, h⟩ ⟨rfl, rfl⟩
    exact ⟨rfl, rfl⟩
  · rintro ⟨s, h⟩ l ⟨s', h'⟩ - hx - hnext
    obtain ⟨hs, hh⟩ := Machine.next_of_observed hnext
    obtain rfl : h' = h.record s l s' := hh
    exact (Step.of_next hs).runsInOrder hx

/-- Tasks run once and in order, and a blocked loop without a call in progress has nothing to do or
is going to be woken. -/
def NoneStranded (x : TaskLoop Tid Task × History Task) : Prop :=
  RunsInOrder x ∧ (x.1.loop = .waiting → x.1.queue.batch = [] ∧
    ((∀ t, x.1.threads t ≠ .wakeup) → x.1.queue.pending = [] ∨ x.1.wakeupFd ≠ 0))

/-- No task is stranded in a run in which pending tasks only queue further ones while the next wait
is going to end anyway. -/
theorem noneStranded_of_reach {x : TaskLoop Tid Task × History Task}
    (h : (recorded Tid Task).Reach (fun x l => SelfWoken x.1 l) x) : NoneStranded x := by
  have hreach : (machine Tid Task).Reachable x.1 := Machine.Reach.of_observed h.reachable
  have hattended : Attended x.1 := by
    apply h.invariant (P := fun x => Attended x.1)
    · rintro ⟨s, h⟩ ⟨rfl, rfl⟩ _
      exact .inl rfl
    · intro x l x' _ hx hok hnext
      exact (Step.of_next (Machine.next_of_observed hnext).1).attended hok hx
  refine ⟨runsInOrder_of_reachable h.reachable, fun hl => ⟨?_, fun hidle => ?_⟩⟩
  · exact batchDone_of_reachable hreach (by simp [hl]) (by simp [hl])
  · obtain hp | hw | ⟨t, ht⟩ := hattended (by rw [hl]; rfl)
    · exact .inl hp
    · exact .inr (Nat.ne_of_gt hw)
    · exact absurd ht (hidle t)

instance [Fintype Tid] (s : TaskLoop Tid Task) : Decidable s.Waking :=
  inferInstanceAs (Decidable (∃ t, s.threads t = .wakeup))

instance [Fintype Tid] (s : TaskLoop Tid Task) (l : Action Tid Task) :
    Decidable (s.SelfWoken l) := by
  unfold SelfWoken
  split
  all_goals infer_instance

/-- One thread queues task 1 and wakes the loop, which begins the task. -/
def firstTask : List (Action Bool Nat) :=
  [.queueInLoop false 1, .wakeup false, .test, .wait (.ready [.wakeupFd]), .event true, .swap,
    .task]

/-- The task queues another one and returns, and the loop goes back to `epoll_wait`. -/
def queuesAnother : List (Action Bool Nat) := [.queueHere 3, .taskReturns, .tasksDone, .test]

/-- Another thread wakes the loop at the right time. -/
theorem noneStranded_woken :
    let x := (recorded Bool Nat).replayWith (fun x l => SelfWoken x.1 l) (start Bool Nat, {})
      (firstTask ++ [Action.queueInLoop true 2, Action.wakeup true] ++ queuesAnother)
    x.1.loop = .waiting ∧ x.1.queue.pending = [2, 3] ∧ NoneStranded x := by
  intro x
  have hstart : (recorded Bool Nat).init (start Bool Nat, {}) := ⟨rfl, rfl⟩
  refine ⟨by decide, by decide, ?_⟩
  exact noneStranded_of_reach (Machine.reach_replayWith (.start hstart) _)

/-- Otherwise the task that was queued last waits until the loop is woken for another reason. -/
theorem stranded_by_task :
    ¬ ∀ x, (recorded Bool Nat).Reachable x → NoneStranded x := by
  intro h
  have hstart : (recorded Bool Nat).init (start Bool Nat, {}) := ⟨rfl, rfl⟩
  obtain ⟨-, hwait⟩ := h _ (Machine.reachable_replay (.start hstart) (firstTask ++ queuesAnother))
  obtain ⟨-, hcovered⟩ := hwait (by decide)
  exact absurd (hcovered (by decide)) (by decide)

end TaskLoop

end Balabala
