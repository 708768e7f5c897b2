import Balabala.Timer.Step

/-!
# Waking the timer thread at shutdown

Inside `wait_for` the timer thread evaluates its predicate with `timerMutex_` held, and releases
the mutex in the same moment as it blocks. `Stop` clears `running_` and notifies without the mutex,
so both may happen in between: then the notification reaches no one, and the thread sleeps until its
deadline. Here the evaluation of the predicate and what follows from it are two steps.
-/

namespace Balabala.TimerManager

open Foundation

variable {Tid : Type*}

/-- The timer manager, with the value of the predicate that `wait_for` has evaluated but not acted
on. -/
structure SplitWait (Tid : Type*) where
  manager : TimerManager Tid
  evaluated : Option Bool

namespace SplitWait

/-- A step of the timer thread that does not look at the top of the heap. -/
def loopNext (w : SplitWait Tid) : Option (SplitWait Tid) :=
  match w.manager.loop, w.evaluated with
  | .test k _ _, none => some { w with evaluated := some (w.manager.predicate k) }
  | .test k deadline timedOut, some value =>
    let pc := if value || timedOut then k.after else .blocked k deadline false
    some ⟨{ w.manager with loop := pc }, none⟩
  | _, _ => w.manager.loopNext.map fun s => ⟨s, w.evaluated⟩

lemma loopNext_of_ne_test {w : SplitWait Tid}
    (hpc : ∀ k deadline timedOut, w.manager.loop ≠ .test k deadline timedOut) :
    w.loopNext = w.manager.loopNext.map fun s => ⟨s, w.evaluated⟩ := by
  rw [loopNext]
  split
  · rename_i htest _
    exact absurd htest (hpc _ _ _)
  · rename_i htest _
    exact absurd htest (hpc _ _ _)
  · rfl

/-- `notify_all` does not come between a predicate that was found false and the block. -/
def safeNotify (w : SplitWait Tid) : Action Tid → Bool
  | .notifyAll =>
    match w.manager.loop, w.evaluated with
    | .test _ _ false, some false => false
    | _, _ => true
  | _ => true

variable [DecidableEq Tid]

def next (w : SplitWait Tid) : Action Tid → Option (SplitWait Tid)
  | .loop => w.loopNext
  | l => (w.manager.next l).map fun s => ⟨s, w.evaluated⟩

def machine (Tid : Type*) [DecidableEq Tid] : Machine (SplitWait Tid) (Action Tid) where
  init w := (∃ time, w.manager = start Tid time) ∧ w.evaluated = none
  next := next

lemma next_of_ne_loop (w : SplitWait Tid) {l : Action Tid} (hl : l ≠ .loop) :
    w.next l = (w.manager.next l).map fun s => ⟨s, w.evaluated⟩ := by
  cases l with
  | loop => exact absurd rfl hl
  | _ => rfl

inductive Step (w : SplitWait Tid) : Action Tid → SplitWait Tid → Prop
  | evaluate (k : WaitKind) (deadline : Int) (timedOut : Bool)
      (hpc : w.manager.loop = .test k deadline timedOut) (he : w.evaluated = none) :
      Step w .loop { w with evaluated := some (w.manager.predicate k) }
  | act (k : WaitKind) (deadline : Int) (timedOut value : Bool)
      (hpc : w.manager.loop = .test k deadline timedOut) (he : w.evaluated = some value) :
      Step w .loop
        ⟨{ w.manager with
          loop := if value || timedOut then k.after else .blocked k deadline false }, none⟩
  | other (s : TimerManager Tid) (l : Action Tid) (h : TimerManager.Step w.manager l s)
      (hl : l = .loop → ∀ k deadline timedOut, w.manager.loop ≠ .test k deadline timedOut) :
      Step w l ⟨s, w.evaluated⟩

/-- Every transition is one of the steps. -/
lemma Step.of_next {w w' : SplitWait Tid} {l : Action Tid}
    (h : (machine Tid).next w l = some w') : Step w l w' := by
  change next w l = some w' at h
  by_cases hl : l = .loop
  · subst hl
    change w.loopNext = some w' at h
    rw [loopNext] at h
    split at h
    · rename_i k deadline timedOut hpc he
      cases h
      exact .evaluate k deadline timedOut hpc he
    · rename_i k deadline timedOut value hpc he
      cases h
      exact .act k deadline timedOut value hpc he
    · rename_i hnone hsome
      obtain ⟨s, hs, rfl⟩ := Option.map_eq_some_iff.mp h
      refine .other s .loop (.of_next hs) fun _ k deadline timedOut hpc => ?_
      cases he : w.evaluated with
      | none => exact hnone k deadline timedOut hpc he
      | some value => exact hsome k deadline timedOut value hpc he
  · rw [next_of_ne_loop w hl] at h
    obtain ⟨s, hs, rfl⟩ := Option.map_eq_some_iff.mp h
    exact .other s l (.of_next hs) fun heq => absurd heq hl

end SplitWait

/-- `Stop` has issued its notification. -/
def Notified (s : TimerManager Tid) : Prop := s.stop = .join ∨ s.stop = .stopped

/-- The timer thread sleeps, and `Stop` will not wake it any more. -/
def Stalled (s : TimerManager Tid) : Prop :=
  s.running = false ∧ s.Notified ∧ ∃ k deadline, s.loop = .blocked k deadline false

/-- What keeps the thread awake once `Stop` has notified it. -/
structure Awake (w : SplitWait Tid) : Prop where
  evaluated : ∀ value, w.evaluated = some value →
    ∃ k deadline timedOut, w.manager.loop = .test k deadline timedOut
  phase : w.manager.running = true ↔ w.manager.stop = .idle
  awake : w.manager.Notified → ∀ k deadline, w.manager.loop ≠ .blocked k deadline false
  /-- the predicate is not found false any more -/
  tested : w.manager.Notified → ∀ k deadline, w.manager.loop = .test k deadline false →
    w.evaluated ≠ some false

namespace Awake

variable {w : SplitWait Tid} {s : TimerManager Tid}

lemma running_eq_false (h : Awake w) (hnotified : w.manager.Notified) :
    w.manager.running = false := by
  rw [← Bool.not_eq_true, h.phase]
  rcases hnotified with hstop | hstop <;> simp [hstop]

lemma evaluated_eq_none (h : Awake w)
    (hpc : ∀ k deadline timedOut, w.manager.loop ≠ .test k deadline timedOut) :
    w.evaluated = none := by
  cases he : w.evaluated with
  | none => rfl
  | some value =>
    obtain ⟨k, deadline, timedOut, htest⟩ := h.evaluated value he
    exact absurd htest (hpc k deadline timedOut)

/-- A step that the wait does not see. -/
lemma frame (h : Awake w) (hloop : s.loop = w.manager.loop)
    (hrunning : s.running = w.manager.running) (hstop : s.stop = w.manager.stop) :
    Awake ⟨s, w.evaluated⟩ where
  evaluated := by
    rw [hloop]
    exact h.evaluated
  phase := by
    rw [hrunning, hstop]
    exact h.phase
  awake := by
    rw [Notified, hloop, hstop]
    exact h.awake
  tested := by
    rw [Notified, hloop, hstop]
    exact h.tested

/-- The timer thread moves on, and does not block. -/
lemma of_loop (h : Awake w) {pc : TimerPc}
    (hs : ∀ k deadline timedOut, w.manager.loop ≠ .test k deadline timedOut)
    (hpc : ∀ k deadline, pc ≠ .blocked k deadline false) (hloop : s.loop = pc)
    (hrunning : s.running = w.manager.running) (hstop : s.stop = w.manager.stop) :
    Awake ⟨s, w.evaluated⟩ where
  evaluated := by
    rw [h.evaluated_eq_none hs]
    simp
  phase := by
    rw [hrunning, hstop]
    exact h.phase
  awake := by
    rw [hloop]
    exact fun _ => hpc
  tested := by
    rw [h.evaluated_eq_none hs]
    simp

/-- A notification wakes the thread, if it is blocked. -/
lemma notify (h : Awake w) (hloop : s.loop = w.manager.loop.notify)
    (hphase : s.running = true ↔ s.stop = .idle)
    (htested : s.Notified → ∀ k deadline, w.manager.loop = .test k deadline false →
      w.evaluated ≠ some false) : Awake ⟨s, w.evaluated⟩ where
  evaluated value hvalue := by
    obtain ⟨k, deadline, timedOut, hpc⟩ := h.evaluated value hvalue
    exact ⟨k, deadline, timedOut, by rw [hloop, hpc]; rfl⟩
  phase := hphase
  awake _ k deadline hpc := by
    rw [hloop] at hpc
    cases hpc' : w.manager.loop <;> simp [hpc', TimerPc.notify] at hpc
  tested hnotified k deadline hpc := by
    rw [hloop] at hpc
    refine htested hnotified k deadline ?_
    cases hpc' : w.manager.loop <;> simp_all [TimerPc.notify]

end Awake

variable [DecidableEq Tid]

/-- The steps of the timer manager that are not those of the test. -/
private lemma Awake.other {w : SplitWait Tid} {s : TimerManager Tid} {l : Action Tid}
    (h : Awake w) (hstep : Step w.manager l s)
    (hl : l = .loop → ∀ k deadline timedOut, w.manager.loop ≠ .test k deadline timedOut)
    (hok : w.safeNotify l = true) : Awake ⟨s, w.evaluated⟩ := by
  cases hstep with
  | tick | setTimeout | setInterval | insert | stopAgain => exact h.frame rfl rfl rfl
  | notify t hpc => exact h.notify rfl h.phase h.tested
  | notifyAll hpc =>
    refine h.notify rfl ?_ fun _ k deadline htest hfalse => ?_
    · have hrunning := h.phase
      rw [hpc] at hrunning
      simpa using hrunning
    · simp [SplitWait.safeNotify, htest, hfalse] at hok
  | stopExchange hr =>
    exact {
      evaluated := h.evaluated
      phase := by simp
      awake := by simp [Notified]
      tested := by simp [Notified] }
  | cancel id hcl =>
    rw [cancelTimer]
    split
    · exact h
    · exact h.frame rfl rfl rfl
  | join hpc hexited =>
    exact {
      evaluated := h.evaluated
      phase := by
        have hrunning := h.phase
        rw [hpc] at hrunning
        simpa using hrunning
      awake := fun _ k deadline hblocked => by
        have hblocked : w.manager.loop = _ := hblocked
        rw [hexited] at hblocked
        cases hblocked
      tested := fun _ k deadline htest => by
        have htest : w.manager.loop = _ := htest
        rw [hexited] at htest
        cases htest }
  | finish k deadline timedOut hpc | block k deadline hpc => exact absurd hpc (hl rfl _ _ _)
  | collect p toFire hpc =>
    have hs : ∀ k deadline timedOut, w.manager.loop ≠ .test k deadline timedOut := by simp [hpc]
    rw [collectTop]
    dsimp only
    split_ifs
    all_goals exact h.of_loop hs (by simp) rfl rfl rfl
  | leave hpc =>
    have hs : ∀ k deadline timedOut, w.manager.loop ≠ .test k deadline timedOut := by
      rcases hpc with hpc | hpc <;> simp [hpc]
    exact h.of_loop hs (by simp) rfl rfl rfl
  | iterate hpc | lock hpc | sawEmpty hpc | readClock hpc | notYet _ _ hpc | due _ _ hpc
  | waitEmpty hpc | waitNext _ _ hpc | wake _ _ _ _ hpc | again hpc | noneDue _ _ hpc
  | noneLeft _ hpc | rearm _ _ hpc | send _ _ hpc | allSent hpc =>
    exact h.of_loop (by simp [hpc]) (by simp) rfl rfl rfl

lemma SplitWait.Step.awake {w w' : SplitWait Tid} {l : Action Tid} (h : w.Step l w')
    (hw : Awake w) (hok : w.safeNotify l = true) : Awake w' := by
  cases h with
  | evaluate k deadline timedOut hpc he =>
    exact {
      evaluated := fun _ _ => ⟨k, deadline, timedOut, hpc⟩
      phase := hw.phase
      awake := hw.awake
      tested := by
        -- `running_` is part of the predicate, and it is false by now
        intro hnotified _ _ _ hfalse
        have hstopped : w.manager.running = false := hw.running_eq_false hnotified
        cases k <;> simp [predicate, hstopped] at hfalse }
  | act k deadline timedOut value hpc he =>
    exact {
      evaluated := by simp
      phase := hw.phase
      awake := by
        intro hnotified k' deadline' hblocked
        have htested := hw.tested hnotified k deadline
        rw [hpc, he] at htested
        cases value <;> cases timedOut <;> cases k <;> simp_all [WaitKind.after]
      tested := by simp }
  | other s l hstep hl => exact hw.other hstep hl hok

/-- Every run of the timer manager is one in which the thread acts on its predicate at once. -/
theorem reachable_splitWait {s : TimerManager Tid} (h : (machine Tid).Reachable s) :
    (SplitWait.machine Tid).Reachable ⟨s, none⟩ := by
  let f : TimerManager Tid → SplitWait Tid := fun s => ⟨s, none⟩
  have hinit : ∀ s, (machine Tid).init s →
      ∃ w, (SplitWait.machine Tid).init w ∧ w = f s := fun s hs => ⟨f s, ⟨hs, rfl⟩, rfl⟩
  suffices hmatch : ∀ s l s', (machine Tid).next s l = some s' →
      ∃ ls, (SplitWait.machine Tid).run (f s) ls = some (f s') by
    obtain ⟨w, hw, heq⟩ := h.refinement (fun s w => w = f s) hinit (by
      rintro s l s' _ rfl hnext
      obtain ⟨ls, hls⟩ := hmatch s l s' hnext
      exact ⟨ls, f s', hls, rfl⟩)
    rwa [heq] at hw
  intro s l s' hnext
  by_cases htest : l = .loop ∧ ∃ k deadline timedOut, s.loop = .test k deadline timedOut
  · obtain ⟨rfl, k, deadline, timedOut, hpc⟩ := htest
    have hs' : s.loopNext = some s' := hnext
    simp only [loopNext, hpc] at hs'
    refine ⟨[.loop, .loop], ?_⟩
    show (SplitWait.machine Tid).run ⟨s, none⟩ [.loop, .loop] = some ⟨s', none⟩
    simpa [Machine.run, SplitWait.machine, SplitWait.next, SplitWait.loopNext, hpc] using hs'
  · refine ⟨[l], ?_⟩
    have hw : (SplitWait.machine Tid).next ⟨s, none⟩ l = some ⟨s', none⟩ := by
      by_cases hl : l = .loop
      · subst hl
        have hs' : s.loopNext = some s' := hnext
        show SplitWait.loopNext ⟨s, none⟩ = _
        rw [SplitWait.loopNext_of_ne_test fun k deadline timedOut hpc =>
          htest ⟨rfl, k, deadline, timedOut, hpc⟩, hs']
        rfl
      · have hs' : s.next l = some s' := hnext
        show SplitWait.next ⟨s, none⟩ l = _
        rw [SplitWait.next_of_ne_loop _ hl, hs']
        rfl
    rw [Machine.run, hw]
    rfl

/-- In every run in which `notify_all` does not come between a predicate that was found false and
the block, the timer thread is not left asleep. -/
theorem not_stalled {w : SplitWait Tid}
    (h : (SplitWait.machine Tid).Reach (fun w l => w.safeNotify l = true) w) :
    ¬ w.manager.Stalled := by
  have hinv : Awake w := by
    apply h.invariant (P := Awake)
    · rintro ⟨s, e⟩ ⟨⟨time, rfl⟩, rfl⟩
      exact ⟨by simp, by simp [start], by simp [start], by simp⟩
    · intro w l w' _ hw hok hnext
      exact (SplitWait.Step.of_next hnext).awake hw hok
  rintro ⟨-, hnotified, k, deadline, hpc⟩
  exact hinv.awake hnotified k deadline hpc

/-- The timer thread finds its predicate false: the next timer is ten seconds away. -/
def evaluateFalse : List (Action Unit) :=
  [.setTimeout () 1 10000 {}, .insert (), .notify ()] ++ List.replicate 3 .loop ++
    .top 0 :: List.replicate 2 .loop

/-- The thread is blocked before `Stop` notifies it. -/
theorem not_stalled_of_blocked :
    let w := (SplitWait.machine Unit).replayWith (fun w l => w.safeNotify l = true)
      ⟨start Unit 0, none⟩ (evaluateFalse ++ [.loop, .stopExchange, .notifyAll])
    w.manager.loop = .blocked .nextTimer 10000 true ∧ w.manager.stop = .join ∧
      ¬ w.manager.Stalled := by
  intro w
  have hstart : (SplitWait.machine Unit).Reach (fun w l => w.safeNotify l = true)
      ⟨start Unit 0, none⟩ := .start ⟨⟨0, rfl⟩, rfl⟩
  exact ⟨by decide, by decide, not_stalled (Machine.reach_replayWith hstart _)⟩

/-- `Stop` clears `running_` and notifies between the evaluation of the predicate and the block, and
the thread sleeps for ten seconds. -/
theorem stop_oversleeps : ¬ ∀ w : SplitWait Unit, (SplitWait.machine Unit).Reachable w →
    ¬ w.manager.Stalled := by
  intro h
  have hstart : (SplitWait.machine Unit).Reachable ⟨start Unit 0, none⟩ :=
    .start ⟨⟨0, rfl⟩, rfl⟩
  let w := (SplitWait.machine Unit).replay ⟨start Unit 0, none⟩
    (evaluateFalse ++ [.stopExchange, .notifyAll, .loop])
  have hw : (SplitWait.machine Unit).Reachable w := Machine.reachable_replay hstart _
  exact h w hw ⟨by decide, .inl (by decide), .nextTimer, 10000, by decide⟩

end Balabala.TimerManager
