import Balabala.Net.Tasks

/-!
# Stopping an event loop

`run` tests `stop_` at the top of an iteration, and runs the pending tasks at its end. `Stop` sets
the flag and waits for the thread. A task that is in the queue by then is run if the loop thread
still has the end of an iteration before it; if it is between the swap of the queue and the next
test of the flag, or the wait of the iteration fails, nothing takes the task out of the queue.
-/

namespace Balabala

open Foundation

/-- The loop thread comes to `runPendingTasks` before it tests `stop_`, unless its wait fails. -/
def TaskPc.swapAhead : TaskPc → Bool
  | .waiting | .events _ | .callback _ => true
  | _ => false

namespace TaskLoop

variable {Tid Task : Type*}

/-- The steps of a loop, and `Stop` called by the loop thread itself, which does not wait. -/
inductive StopAction (Tid Task : Type*)
  | of (l : Action Tid Task)
  | stopHere

def stopHere (s : TaskLoop Tid Task) : TaskLoop Tid Task :=
  if s.stop then s else { s with stop := true }.wakeup

/-- The calls of `QueueInLoop`, each by the position of its task among those that were queued. -/
structure Calls (Tid : Type*) where
  /-- the last call of another thread -/
  queued : Tid → Nat := fun _ => 0
  /-- the calls that have returned -/
  returned : List Nat := []
  /-- the calls that had returned when `Stop` was called -/
  promised : List Nat := []

/-- What `Stop` is relied on for: once `run` has returned, each of those tasks was run. -/
def Drained (x : TaskLoop Tid Task × Calls Tid) : Prop :=
  x.1.loop = .exited → ∀ i ∈ x.2.promised,
    i < x.1.queue.begun.length ∧ x.1.queue.begun[i]? = x.1.queue.pushed[i]?

/-- `Stop` is called while the loop thread still has a swap before it, or when no task waits for one
whose call has returned. After that the wait does not fail while such a task waits. -/
def InTime (x : TaskLoop Tid Task × Calls Tid) : StopAction Tid Task → Prop
  | .of (.stop _) | .stopHere =>
    x.1.stop = true ∨ x.1.loop.swapAhead = true ∨ ∀ i ∈ x.2.returned, i < x.1.queue.taken
  | .of (.wait .eintr) | .of (.wait .error) => ∀ i ∈ x.2.promised, i < x.1.queue.taken
  | _ => True

variable [DecidableEq Tid]

def stoppable (Tid Task : Type*) [DecidableEq Tid] :
    Machine (TaskLoop Tid Task) (StopAction Tid Task) where
  init s := s = start Tid Task
  next s
    | .of l => s.next l
    | .stopHere => if s.loop.inUserCode then some s.stopHere else none

/-- The observer of the calls. -/
def record (c : Calls Tid) (s : TaskLoop Tid Task) (l : StopAction Tid Task)
    (_ : TaskLoop Tid Task) : Calls Tid :=
  match l with
  | .of (.queueInLoop t _) =>
    { c with queued := Function.update c.queued t s.queue.pushed.length }
  | .of (.wakeup t) =>
    if s.threads t = .wakeup then { c with returned := c.queued t :: c.returned } else c
  | .of (.queueHere _) => { c with returned := s.queue.pushed.length :: c.returned }
  | .of (.stop _) | .stopHere => if s.stop then c else { c with promised := c.returned }
  | _ => c

def stopping (Tid Task : Type*) [DecidableEq Tid] :
    Machine (TaskLoop Tid Task × Calls Tid) (StopAction Tid Task) :=
  (stoppable Tid Task).observed {} record

/-- A step of the loop, or `Stop` in its thread. -/
lemma stopping_cases {s s' : TaskLoop Tid Task} {c c' : Calls Tid} {l : StopAction Tid Task}
    (h : (stopping Tid Task).next (s, c) l = some (s', c')) :
    (∃ l', l = .of l' ∧ Step s l' s' ∧ c' = record c s (.of l') s') ∨
      l = .stopHere ∧ s' = s.stopHere ∧ c' = record c s .stopHere s.stopHere := by
  obtain ⟨hs, hc⟩ := Machine.next_of_observed h
  obtain rfl : c' = record c s l s' := hc
  cases l with
  | of l => exact .inl ⟨l, rfl, .of_next hs, rfl⟩
  | stopHere =>
    have hs : (if s.loop.inUserCode then some s.stopHere else none) = some s' := hs
    split_ifs at hs
    cases hs
    exact .inr ⟨rfl, rfl, rfl⟩

/-! ### The invariant -/

section Invariant

omit [DecidableEq Tid]

/-- What holds of the calls all along. -/
structure Promises (x : TaskLoop Tid Task × Calls Tid) : Prop where
  queued : ∀ t, x.1.threads t = .wakeup → x.2.queued t < x.1.queue.pushed.length
  returned : ∀ i ∈ x.2.returned, i < x.1.queue.pushed.length
  promised : ∀ i ∈ x.2.promised, i < x.1.queue.pushed.length
  early : x.1.stop = false → x.2.promised = []
  batchDone : BatchDone x.1

/-- Every task that was promised is taken out of the queue, or a swap is still to come. -/
def OnTheWay (x : TaskLoop Tid Task × Calls Tid) : Prop :=
  ∀ i ∈ x.2.promised, i < x.1.queue.taken ∨ x.1.loop.swapAhead = true

variable {s s' : TaskLoop Tid Task} {c : Calls Tid}

lemma Promises.update (h : Promises (s, c)) {c' : Calls Tid}
    (hqueued : ∀ t, s'.threads t = .wakeup → c'.queued t < s'.queue.pushed.length)
    (hpushed : s.queue.pushed.length ≤ s'.queue.pushed.length)
    (hreturned : ∀ i ∈ c'.returned, i ∈ c.returned ∨ i < s'.queue.pushed.length)
    (hpromised : ∀ i ∈ c'.promised, i ∈ c.promised ∨ i ∈ c.returned)
    (hearly : s'.stop = false → c'.promised = []) (hbatch : BatchDone s') : Promises (s', c') where
  queued := hqueued
  returned i hi := by
    rcases hreturned i hi with hi | hi
    · exact Nat.lt_of_lt_of_le (h.returned i hi) hpushed
    · exact hi
  promised i hi := by
    apply Nat.lt_of_lt_of_le _ hpushed
    rcases hpromised i hi with hi | hi
    · exact h.promised i hi
    · exact h.returned i hi
  early := hearly
  batchDone := hbatch

/-- A step that queues nothing and returns from no call. -/
lemma Promises.frame (h : Promises (s, c)) (hpushed : s'.queue.pushed = s.queue.pushed)
    (hthreads : ∀ t, s'.threads t = .wakeup → s.threads t = .wakeup) (hstop : s'.stop = s.stop)
    (hbatch : BatchDone s') : Promises (s', c) := by
  refine h.update (fun t ht => ?_) (Nat.le_of_eq (by rw [hpushed])) (fun i hi => .inl hi)
    (fun i hi => .inl hi) (fun hs => h.early (hstop.symm.trans hs)) hbatch
  rw [hpushed]
  exact h.queued t (hthreads t ht)

/-- The step that sets the flag. -/
lemma Promises.stopped (h : Promises (s, c)) (hqueue : s'.queue = s.queue)
    (hthreads : ∀ t, s'.threads t = .wakeup → s.threads t = .wakeup) (hstop : s'.stop = true)
    (hbatch : BatchDone s') : Promises (s', { c with promised := c.returned }) := by
  refine h.update (fun t ht => ?_) (Nat.le_of_eq (by rw [hqueue])) (fun i hi => .inl hi)
    (fun i hi => .inr hi) (fun hs => ?_) hbatch
  · rw [hqueue]
    exact h.queued t (hthreads t ht)
  · rw [hstop] at hs
    cases hs

/-- The call of `Stop` comes in time. -/
lemma onTheWay_stop {s s' : TaskLoop Tid Task} {c : Calls Tid} (hstop : ¬ s.stop = true)
    (hok : s.stop = true ∨ s.loop.swapAhead = true ∨ ∀ i ∈ c.returned, i < s.queue.taken)
    (hqueue : s'.queue = s.queue) (hloop : s'.loop = s.loop) :
    OnTheWay (s', { c with promised := c.returned }) := by
  intro i hi
  show i < s'.queue.taken ∨ s'.loop.swapAhead = true
  rw [hqueue, hloop]
  rcases hok with hok | hok | hok
  · exact absurd hok hstop
  · exact .inr hok
  · exact .inl (hok i hi)

end Invariant

lemma threads_setThread {s : TaskLoop Tid Task} {t u : Tid} {pc : QueuerPc}
    (hpc : pc ≠ .wakeup) (hu : (s.setThread t pc).threads u = .wakeup) :
    u ≠ t ∧ s.threads u = .wakeup := by
  by_cases hut : u = t
  · subst hut
    exact absurd (by simpa [setThread] using hu) hpc
  · exact ⟨hut, by simpa [setThread, hut] using hu⟩

lemma Step.promises {s s' : TaskLoop Tid Task} {l : Action Tid Task} {c : Calls Tid}
    (h : Step s l s') (hx : Promises (s, c)) : Promises (s', record c s (.of l) s') := by
  have hbatch : BatchDone s' := h.batchDone hx.batchDone
  cases h with
  | queueInLoop t task ht =>
    have hlength : (s.push task).queue.pushed.length = s.queue.pushed.length + 1 :=
      List.length_append
    refine hx.update (fun u hu => ?_) ?_ (fun i hi => .inl hi) (fun i hi => .inl hi) hx.early hbatch
    · show Function.update c.queued t s.queue.pushed.length u < (s.push task).queue.pushed.length
      rw [hlength]
      by_cases hut : u = t
      · subst hut
        rw [Function.update_self]
        exact Nat.lt_succ_self _
      · rw [Function.update_of_ne hut]
        exact Nat.lt_succ_of_lt (hx.queued u (by simpa [setThread, push, hut] using hu))
    · exact Nat.le_of_lt (hlength ▸ Nat.lt_succ_self _)
  | wakeup t ht =>
    have hrecord : record c s (.of (.wakeup t)) (s.wakeup.setThread t .idle) =
        { c with returned := c.queued t :: c.returned } := if_pos ht
    rw [hrecord]
    refine hx.update (fun u hu => ?_) (Nat.le_refl _) (fun i hi => ?_) (fun i hi => .inl hi)
      hx.early hbatch
    · exact hx.queued u (threads_setThread (by simp) hu).2
    · rcases List.mem_cons.mp hi with rfl | hi
      · exact .inr (hx.queued t ht)
      · exact .inl hi
  | stopWakeup t ht =>
    have hrecord : record c s (.of (.wakeup t)) (s.wakeup.setThread t .join) = c :=
      if_neg (by simp [ht])
    rw [hrecord]
    exact hx.frame rfl (fun u hu => (threads_setThread (by simp) hu).2) rfl hbatch
  | stopAgain t ht hs =>
    have hrecord : record c s (.of (.stop t)) s = c := if_pos hs
    rw [hrecord]
    exact hx
  | stop t ht hs =>
    have hrecord : record c s (.of (.stop t)) ({ s with stop := true }.setThread t .stopWakeup) =
        { c with promised := c.returned } := if_neg (by simp [hs])
    rw [hrecord]
    exact hx.stopped rfl (fun u hu => (threads_setThread (by simp) hu).2) rfl hbatch
  | joined t ht hl =>
    exact hx.frame rfl (fun u hu => (threads_setThread (by simp) hu).2) rfl hbatch
  | queueHere task hl =>
    have hlength : (s.push task).queue.pushed.length = s.queue.pushed.length + 1 :=
      List.length_append
    have hlt : s.queue.pushed.length < (s.push task).queue.pushed.length :=
      hlength ▸ Nat.lt_succ_self _
    refine hx.update (fun u hu => Nat.lt_trans (hx.queued u hu) hlt) (Nat.le_of_lt hlt)
      (fun i hi => ?_) (fun i hi => .inl hi) hx.early hbatch
    rcases List.mem_cons.mp hi with rfl | hi
    · exact .inr hlt
    · exact .inl hi
  | task task q hl hq =>
    obtain ⟨-, -, hpushed, -⟩ := BatchQueue.begin_eq_some hq
    exact hx.frame hpushed (fun _ hu => hu) rfl hbatch
  | test | ready | eintr | error | handleWakeup | event | callbackReturns | swap | taskReturns
  | tasksDone | runHere => exact hx.frame rfl (fun _ hu => hu) rfl hbatch

/-- A step that comes in time leaves every promised task on its way. -/
lemma Step.onTheWay {s s' : TaskLoop Tid Task} {l : Action Tid Task} {c : Calls Tid}
    (h : Step s l s') (hx : Promises (s, c)) (hok : InTime (s, c) (.of l))
    (hs : OnTheWay (s, c)) : OnTheWay (s', record c s (.of l) s') := by
  cases h with
  | queueInLoop | joined | queueHere | runHere => exact hs
  | wakeup t ht =>
    intro i hi
    rw [record, if_pos ht] at hi
    exact hs i hi
  | stopWakeup t ht =>
    intro i hi
    rw [record, if_neg (by simp [ht])] at hi
    exact hs i hi
  | stopAgain t ht hstop =>
    intro i hi
    rw [record, if_pos hstop] at hi
    exact hs i hi
  | stop t ht hstop =>
    intro i hi
    rw [record, if_neg (by simp [hstop])] at hi
    exact onTheWay_stop (by simp [hstop]) hok rfl rfl i hi
  | test hl =>
    intro i hi
    refine .inl ((hs i hi).resolve_right ?_)
    simp [hl, TaskPc.swapAhead]
  | ready | handleWakeup | callbackReturns => exact fun i _ => .inr rfl
  | event found => cases found <;> exact fun i _ => .inr rfl
  | eintr | error => exact fun i hi => .inl (hok i hi)
  | swap hl =>
    intro i hi
    left
    show i < s.queue.swap.taken
    rw [BatchQueue.taken_swap]
    exact hx.promised i hi
  | task task q hl hq =>
    intro i hi
    left
    show i < q.taken
    rw [BatchQueue.taken_begin hq]
    exact (hs i hi).resolve_right (by simp [hl, TaskPc.swapAhead])
  | taskReturns hl | tasksDone hl =>
    intro i hi
    exact .inl ((hs i hi).resolve_right (by simp [hl, TaskPc.swapAhead]))

theorem promises_of_reachable {x : TaskLoop Tid Task × Calls Tid}
    (h : (stopping Tid Task).Reachable x) : Promises x := by
  apply h.invariant (P := Promises)
  · rintro ⟨s, c⟩ ⟨rfl, rfl⟩
    exact ⟨by simp [start], by simp, by simp, fun _ => rfl, fun _ _ => rfl⟩
  · rintro ⟨s, c⟩ l ⟨s', c'⟩ - hx - hnext
    rcases stopping_cases hnext with ⟨l, rfl, hstep, rfl⟩ | ⟨rfl, rfl, rfl⟩
    · exact hstep.promises hx
    · by_cases hstop : s.stop = true
      · rwa [stopHere, if_pos hstop, record, if_pos hstop]
      · rw [stopHere, if_neg hstop, record, if_neg hstop]
        exact hx.stopped rfl (fun _ hu => hu) rfl hx.batchDone

/-- In every run whose steps come in time, stopping the loop drains its queue. -/
theorem drained_of_reach {x : TaskLoop Tid Task × Calls Tid}
    (h : (stopping Tid Task).Reach InTime x) : Drained x := by
  have hs : OnTheWay x := by
    apply h.invariant (P := OnTheWay)
    · rintro ⟨s, c⟩ ⟨rfl, rfl⟩
      simp [OnTheWay]
    · rintro ⟨s, c⟩ l ⟨s', c'⟩ hr hs hok hnext
      rcases stopping_cases hnext with ⟨l, rfl, hstep, rfl⟩ | ⟨rfl, rfl, rfl⟩
      · exact hstep.onTheWay (promises_of_reachable hr.reachable) hok hs
      · by_cases hstop : s.stop = true
        · rwa [stopHere, if_pos hstop, record, if_pos hstop]
        · rw [stopHere, if_neg hstop, record, if_neg hstop]
          exact onTheWay_stop hstop hok rfl rfl
  intro hl i hi
  have hx : Promises x := promises_of_reachable h.reachable
  have hbatch : x.1.queue.batch = [] := hx.batchDone (by simp [hl]) (by simp [hl])
  have htaken : i < x.1.queue.taken := (hs i hi).resolve_right (by simp [hl, TaskPc.swapAhead])
  have hbegun : i < x.1.queue.begun.length := by simpa [BatchQueue.taken, hbatch] using htaken
  exact ⟨hbegun, x.1.queue.getElem?_begun hbegun⟩

/-! ### Too late -/

section

omit [DecidableEq Tid]

/-- The task `i` was promised, and will stay in the queue. -/
def Lost (i : Nat) (x : TaskLoop Tid Task × Calls Tid) : Prop :=
  x.1.stop = true ∧ i ∈ x.2.promised ∧ x.1.queue.taken ≤ i ∧ x.1.loop.swapAhead = false

/-- The call of `Stop` comes too late for a task. -/
lemma lost_stop {s s' : TaskLoop Tid Task} {c : Calls Tid}
    (hlate : ¬ (s.stop = true ∨ s.loop.swapAhead = true ∨ ∀ i ∈ c.returned, i < s.queue.taken))
    (hqueue : s'.queue = s.queue) (hloop : s'.loop = s.loop) (hstop : s'.stop = true) :
    ∃ i, Lost i (s', { c with promised := c.returned }) := by
  simp only [not_or, not_forall, Nat.not_lt, Bool.not_eq_true] at hlate
  obtain ⟨-, hahead, i, hi, htaken⟩ := hlate
  exact ⟨i, hstop, hi, hqueue ▸ htaken, hloop ▸ hahead⟩

end

lemma promised_record {s s' : TaskLoop Tid Task} {l : StopAction Tid Task} (c : Calls Tid)
    (hstop : s.stop = true) : (record c s l s').promised = c.promised := by
  cases l with
  | stopHere => rw [record, if_pos hstop]
  | of l =>
    cases l with
    | stop t => rw [record, if_pos hstop]
    | wakeup t =>
      rw [record]
      split_ifs <;> rfl
    | _ => rfl

lemma Step.lost {s s' : TaskLoop Tid Task} {l : Action Tid Task} {c : Calls Tid} {i : Nat}
    (h : Step s l s') (hs : Lost i (s, c)) : Lost i (s', record c s (.of l) s') := by
  obtain ⟨hstop, hi, htaken, hahead⟩ := hs
  have hstop : s.stop = true := hstop
  have hahead : s.loop.swapAhead = false := hahead
  have hi : i ∈ (record c s (.of l) s').promised := by rwa [promised_record c hstop]
  cases h with
  | stop t ht hs =>
    rw [hstop] at hs
    cases hs
  | test hl => exact ⟨hstop, hi, htaken, by simp [hstop, TaskPc.swapAhead]⟩
  | ready _ hl | eintr hl | error hl | handleWakeup _ _ hl | event _ _ _ hl | callbackReturns _ hl
  | swap hl =>
    rw [hl] at hahead
    cases hahead
  | task task q hl hq => exact ⟨hstop, hi, (BatchQueue.taken_begin hq).symm ▸ htaken, rfl⟩
  | taskReturns | tasksDone => exact ⟨hstop, hi, htaken, rfl⟩
  | queueInLoop | wakeup | stopWakeup | stopAgain | joined | queueHere | runHere =>
    exact ⟨hstop, hi, htaken, hahead⟩

lemma lost_next {x x' : TaskLoop Tid Task × Calls Tid} {l : StopAction Tid Task} {i : Nat}
    (hs : Lost i x) (h : (stopping Tid Task).next x l = some x') : Lost i x' := by
  obtain ⟨s, c⟩ := x
  obtain ⟨s', c'⟩ := x'
  rcases stopping_cases h with ⟨l, rfl, hstep, rfl⟩ | ⟨rfl, rfl, rfl⟩
  · exact hstep.lost hs
  · have hstop : s.stop = true := hs.1
    rwa [stopHere, if_pos hstop, record, if_pos hstop]

/-- A step that does not come in time loses a task. -/
lemma exists_lost {x x' : TaskLoop Tid Task × Calls Tid} {l : StopAction Tid Task}
    (hx : Promises x) (hlate : ¬ InTime x l) (h : (stopping Tid Task).next x l = some x') :
    ∃ i, Lost i x' := by
  obtain ⟨s, c⟩ := x
  obtain ⟨s', c'⟩ := x'
  -- a task can only be promised once the flag is set
  have hwait : (¬ ∀ i ∈ c.promised, i < s.queue.taken) → s'.stop = s.stop →
      s'.queue = s.queue → s'.loop.swapAhead = false → ∃ i, Lost i (s', c) := by
    intro hsome hstop hqueue hahead
    simp only [not_forall, Nat.not_lt] at hsome
    obtain ⟨i, hi, htaken⟩ := hsome
    refine ⟨i, ?_, hi, hqueue ▸ htaken, hahead⟩
    rw [hstop]
    by_contra hfalse
    rw [hx.early (by simpa using hfalse)] at hi
    cases hi
  rcases stopping_cases h with ⟨l, rfl, hstep, rfl⟩ | ⟨rfl, rfl, rfl⟩
  · cases hstep with
    | stop t ht hs =>
      rw [record, if_neg (by simp [hs])]
      exact lost_stop hlate rfl rfl rfl
    | stopAgain t ht hs => exact absurd (.inl hs) hlate
    | eintr hl => exact hwait hlate rfl rfl rfl
    | error hl => exact hwait hlate rfl rfl rfl
    | _ => exact absurd trivial hlate
  · by_cases hstop : s.stop = true
    · exact absurd (.inl hstop) hlate
    · rw [stopHere, if_neg hstop, record, if_neg hstop]
      exact lost_stop hlate rfl rfl rfl

/-- The condition is the exact one: a run with a step that comes too late does not drain the queue,
whatever follows. -/
theorem not_drained_of_late {x x' y : TaskLoop Tid Task × Calls Tid} {l : StopAction Tid Task}
    {ls : List (StopAction Tid Task)} (hx : (stopping Tid Task).Reachable x)
    (hlate : ¬ InTime x l) (h : (stopping Tid Task).next x l = some x')
    (hrun : (stopping Tid Task).run x' ls = some y) (hl : y.1.loop = .exited) : ¬ Drained y := by
  obtain ⟨i, hi⟩ := exists_lost (promises_of_reachable hx) hlate h
  have hy : Lost i y := by
    clear h
    induction ls generalizing x' with
    | nil =>
      obtain rfl : x' = y := by simpa using hrun
      exact hi
    | cons l ls ih =>
      obtain ⟨x'', hnext, hrun⟩ := Option.bind_eq_some_iff.mp hrun
      exact ih hrun (lost_next hi hnext)
  intro hdrained
  obtain ⟨-, hmem, htaken, -⟩ := hy
  have hlt := (hdrained hl i hmem).1
  exact absurd (Nat.lt_of_lt_of_le hlt (Nat.le_add_right _ _)) (Nat.not_lt.mpr htaken)

instance (x : TaskLoop Tid Task × Calls Tid) (l : StopAction Tid Task) :
    Decidable (InTime x l) := by
  unfold InTime
  split <;> infer_instance

/-- `Stop` is called while the loop thread runs a callback; task 1 is in the queue. -/
theorem drained_in_callback :
    let x := (stopping Bool Nat).replayWith InTime (start Bool Nat, {})
      ([.test, .wait (.ready [.other 5]), .event true, .queueInLoop true 1, .wakeup true,
        .stop false, .callbackReturns, .swap, .task, .taskReturns, .tasksDone, .test].map .of)
    x.1.loop = .exited ∧ x.2.promised = [0] ∧ Drained x := by
  intro x
  have hstart : (stopping Bool Nat).Reach InTime (start Bool Nat, {}) := .start ⟨rfl, rfl⟩
  exact ⟨by decide, by decide, drained_of_reach (Machine.reach_replayWith hstart _)⟩

/-- The loop thread is about to test `stop_`: it finds the flag set, and task 1 stays in the
queue. -/
theorem stop_strands_task :
    ¬ ∀ x : TaskLoop Bool Nat × Calls Bool, (stopping Bool Nat).Reachable x → Drained x := by
  intro h
  have hstart : (stopping Bool Nat).Reachable (start Bool Nat, {}) := .start ⟨rfl, rfl⟩
  let x := (stopping Bool Nat).replay (start Bool Nat, {})
    ([.queueInLoop true 1, .wakeup true, .stop false, .test].map .of)
  have hx : (stopping Bool Nat).Reachable x := Machine.reachable_replay hstart _
  have hlost := h x hx (by decide) 0 (by decide)
  exact absurd hlost.1 (by decide)

end TaskLoop

end Balabala
