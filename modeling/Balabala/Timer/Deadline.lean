import Balabala.Timer.Step

/-!
# The deadline of a sleeping timer thread

The timer thread sleeps until the expiry it saw at the top of the heap. A timer added meanwhile
notifies it, but the predicate of the wait asks whether the top is due already, so the thread goes
back to sleep until the old deadline. The deadline is no later than the earliest expiry as long as
no timer is added that expires before it, unless it is due at once, and as long as the clock does
not move between reading it and the start of the wait.
-/

namespace Balabala.TimerManager

open Foundation

variable {Tid : Type*}

/-! ### Pointers in use -/

/-- Every pointer in use is to an allocated entry. -/
structure Allocated (s : TimerManager Tid) : Prop where
  heap : ∀ p ∈ s.heap, p < s.allocated
  adders : ∀ t p, s.adders t = .insert p → p < s.allocated
  rearm : ∀ p toFire, s.loop = .rearm p toFire → p < s.allocated

lemma notify_eq_rearm {pc : TimerPc} {p : Nat} {toFire : List (ActorId × ActorMessage)} :
    pc.notify = .rearm p toFire ↔ pc = .rearm p toFire := by
  cases pc <;> simp [TimerPc.notify]

lemma Allocated.of_loop {s : TimerManager Tid} (h : Allocated s) {pc : TimerPc}
    (hpc : ∀ p toFire, pc = .rearm p toFire → p < s.allocated) :
    Allocated { s with loop := pc } := ⟨h.heap, h.adders, hpc⟩

variable [DecidableEq Tid]

lemma Allocated.addTimer {s : TimerManager Tid} (h : Allocated s) (t : Tid) (a : ActorId)
    (d : Int) (msg : ActorMessage) (i : Int) : Allocated (s.addTimer t a d msg i) where
  heap p hp := Nat.lt_succ_of_lt (h.heap p hp)
  adders u p hu := by
    by_cases e : u = t
    · subst e
      simp only [TimerManager.addTimer, Function.update_self, AddPc.insert.injEq] at hu
      simp [TimerManager.addTimer, ← hu]
    · simp only [TimerManager.addTimer, Function.update_of_ne e] at hu
      exact Nat.lt_succ_of_lt (h.adders u p hu)
  rearm p toFire hp := Nat.lt_succ_of_lt (h.rearm p toFire hp)

lemma Step.pointers {s s' : TimerManager Tid} {l : Action Tid} (h : Step s l s')
    (hs : Allocated s) : Allocated s' := by
  cases h with
  | tick time | stopExchange => exact ⟨hs.heap, hs.adders, hs.rearm⟩
  | setTimeout t a d msg hpc => exact hs.addTimer t a d msg 0
  | setInterval t a d msg hpc hd => exact hs.addTimer t a d msg d
  | insert t p hpc hl =>
    refine ⟨?_, fun u q hu => ?_, hs.rearm⟩
    · simpa [TimerManager.insert] using ⟨hs.adders t p hpc, hs.heap⟩
    · by_cases e : u = t
      · subst e; simp [TimerManager.insert] at hu
      · exact hs.adders u q (by simpa [TimerManager.insert, e] using hu)
  | notify t hpc =>
    refine ⟨hs.heap, fun u q hu => ?_, fun p toFire hp => ?_⟩
    · by_cases e : u = t
      · subst e; simp at hu
      · exact hs.adders u q (by simpa [e] using hu)
    · exact hs.rearm p toFire (notify_eq_rearm.mp hp)
  | cancel id hl =>
    rw [cancelTimer]
    split
    · exact hs
    · exact ⟨hs.heap, hs.adders, hs.rearm⟩
  | collect p toFire hpc hp hle =>
    have hheap : ∀ q ∈ s.heap.erase p, q < s.allocated :=
      fun q hq => hs.heap q (List.mem_of_mem_erase hq)
    rw [collectTop]
    dsimp only
    split_ifs
    · exact ⟨hheap, hs.adders, by simp⟩
    · exact ⟨hheap, hs.adders, by simpa using hs.heap p hp.1⟩
    · exact ⟨hheap, hs.adders, by simp⟩
  | rearm p toFire hpc =>
    exact ⟨by simpa using ⟨hs.rearm p toFire hpc, hs.heap⟩, hs.adders, by simp⟩
  | send x toFire hpc => exact ⟨hs.heap, hs.adders, by simp⟩
  | stopAgain hr => exact hs
  | notifyAll hpc => exact ⟨hs.heap, hs.adders, fun p f hp => hs.rearm p f (notify_eq_rearm.mp hp)⟩
  | join hpc hl => exact ⟨by simp, hs.adders, hs.rearm⟩
  | finish k deadline timedOut hpc h =>
    exact hs.of_loop (by cases k <;> simp [WaitKind.after])
  | iterate | leave | lock | sawEmpty | readClock | notYet | due | waitEmpty | waitNext | block
  | wake | again | noneDue | noneLeft | allSent => exact hs.of_loop (by simp)

theorem allocated_of_reachable {s : TimerManager Tid} (h : (machine Tid).Reachable s) :
    Allocated s := by
  apply h.invariant (P := Allocated)
  · rintro s ⟨time, rfl⟩
    exact ⟨by simp [start], by simp [start], by simp [start]⟩
  · intro s l s' _ hs _ hstep
    exact (Step.of_next hstep).pointers hs

/-! ### When the deadline is kept -/

/-- Two steps can make a deadline too late. `wait_for` must fix it while the clock still shows the
time the duration was computed from, unless the next timer is due by then. And a timer that is
added while the thread sleeps until the deadline must not expire before it, unless it is due. -/
def deadlineKept (s : TimerManager Tid) : Action Tid → Bool
  | .loop =>
    match s.loop with
    | .enterNext now nextExpire => s.clock = now ∨ nextExpire ≤ s.clock
    | _ => true
  | .insert t =>
    match s.adders t, s.loop with
    | .insert p, .blocked .nextTimer deadline _ =>
      deadline ≤ (s.expire p).toNat ∨ s.expire p ≤ s.clock
    | _, _ => true
  | _ => true

/-- While the timer thread is blocked and not about to be notified, it will wake up for every
timer that was not cancelled. -/
def DeadlineInTime (s : TimerManager Tid) : Prop :=
  ∀ k deadline, s.loop = .blocked k deadline false → (∀ t, s.adders t ≠ .notify) →
    ∀ p ∈ s.heap, (s.entries p).cancelled = false → deadline ≤ (s.expire p).toNat

/-! ### The invariant -/

section Invariant

omit [DecidableEq Tid]

/-- No timer of the heap expires before the deadline. -/
def InTime (s : TimerManager Tid) (deadline : Int) : Prop :=
  ∀ p ∈ s.heap, deadline ≤ (s.expire p).toNat

def SomeDue (s : TimerManager Tid) : Prop := ∃ p ∈ s.heap, s.expire p ≤ s.clock

/-- The timer thread was notified, or some `addTimer` is about to do so. -/
def Alerted (s : TimerManager Tid) (notified : Bool) : Prop :=
  notified = true ∨ ∃ t, s.adders t = .notify

/-- What holds of the heap when the timer thread is at `pc`. -/
def SleepInv (s : TimerManager Tid) : TimerPc → Prop
  | .enterNext now e => now < e ∧ (∀ p ∈ s.heap, e ≤ s.expire p) ∧ ∃ p ∈ s.heap, s.expire p = e
  | .test .nextTimer deadline _ => s.InTime deadline ∨ s.SomeDue
  | .blocked .nextTimer deadline notified => s.InTime deadline ∨ s.SomeDue ∧ s.Alerted notified
  | .blocked .noTimer _ notified => s.heap = [] ∨ s.Alerted notified
  | _ => True

/-- A step that leaves the heap alone and takes no notification back. -/
lemma SleepInv.frame {s s' : TimerManager Tid} {pc : TimerPc} (h : s.SleepInv pc)
    (hheap : s'.heap = s.heap) (hexp : ∀ p ∈ s.heap, s'.expire p = s.expire p)
    (hclock : s.clock ≤ s'.clock)
    (halert : (∃ t, s.adders t = .notify) → ∃ t, s'.adders t = .notify) : s'.SleepInv pc := by
  have htime : ∀ d, s.InTime d → s'.InTime d := by
    intro d hd p hp
    rw [hheap] at hp
    rw [hexp p hp]
    exact hd p hp
  have hdue : s.SomeDue → s'.SomeDue := by
    rintro ⟨p, hp, hle⟩
    exact ⟨p, hheap ▸ hp, by rw [hexp p hp]; exact UInt64.le_trans hle hclock⟩
  cases pc with
  | enterNext now e =>
    obtain ⟨hlt, hmin, p, hp, he⟩ := h
    refine ⟨hlt, fun q hq => ?_, p, hheap ▸ hp, by rw [hexp p hp, he]⟩
    rw [hheap] at hq
    rw [hexp q hq]
    exact hmin q hq
  | test k d timedOut =>
    cases k with
    | noTimer => trivial
    | nextTimer => exact h.imp (htime d) hdue
  | blocked k d notified =>
    have halerted : s.Alerted notified → s'.Alerted notified := Or.imp_right halert
    cases k with
    | noTimer => exact h.imp (hheap ▸ ·) halerted
    | nextTimer => exact h.imp (htime d) fun hd => ⟨hdue hd.1, halerted hd.2⟩
  | _ => trivial

/-- A notification keeps the invariant, whoever sends it. -/
lemma SleepInv.notify {s s' : TimerManager Tid} (h : s.SleepInv s.loop)
    (hheap : s'.heap = s.heap) (hexp : s'.entries = s.entries) (hclock : s'.clock = s.clock) :
    s'.SleepInv s.loop.notify := by
  have hexp : s'.expire = s.expire := by unfold expire; rw [hexp]
  cases hpc : s.loop with
  | blocked k d notified =>
    rw [hpc] at h
    cases k with
    | noTimer => exact .inr (.inl rfl)
    | nextTimer =>
      rcases h with hd | ⟨⟨p, hp, hle⟩, -⟩
      · refine .inl fun p hp => ?_
        rw [hexp]
        exact hd p (hheap ▸ hp)
      · refine .inr ⟨⟨p, hheap ▸ hp, ?_⟩, .inl rfl⟩
        rwa [hexp, hclock]
  | enterNext now e =>
    rw [hpc] at h
    unfold SleepInv TimerPc.notify
    rwa [hheap, hexp]
  | test k d timedOut =>
    rw [hpc] at h
    cases k with
    | noTimer => trivial
    | nextTimer =>
      unfold SleepInv TimerPc.notify InTime SomeDue
      rwa [hheap, hexp, hclock]
  | _ => trivial

/-- A wait that starts when the clock was read ends no later than planned. -/
lemma add_milliseconds_le {now e : UInt64} (h : now < e) :
    (now.toNat : Int) + milliseconds (e - now) ≤ e.toNat := by
  have hlt : now.toNat < e.toNat := UInt64.lt_iff_toNat_lt.mp h
  have hsub : (e - now).toNat = e.toNat - now.toNat :=
    UInt64.toNat_sub_of_le _ _ (UInt64.le_of_lt h)
  rw [milliseconds]
  rw [hsub]
  split_ifs <;> omega

/-- A predicate found false leaves only the timers that expire later. -/
lemma not_someDue {s : TimerManager Tid} (h : s.predicate .nextTimer = false) : ¬ s.SomeDue := by
  rintro ⟨p, hp, hle⟩
  have hdue : s.topDue = true := List.any_eq_true.mpr ⟨p, hp, by simpa using hle⟩
  have hne : s.heap ≠ [] := List.ne_nil_of_mem hp
  simp [predicate, hdue, hne] at h

lemma heap_of_predicate {s : TimerManager Tid} (h : s.predicate .noTimer = false) :
    s.heap = [] := by
  simpa using (Bool.or_eq_false_iff.mp h).2

end Invariant

/-- A new entry is not in the heap yet, and its adder has nothing to notify yet. -/
lemma SleepInv.addTimer {s : TimerManager Tid} (h : s.SleepInv s.loop) (ha : Allocated s)
    {t : Tid} (hpc : s.adders t = .idle) (a : ActorId) (d : Int) (msg : ActorMessage) (i : Int) :
    (s.addTimer t a d msg i).SleepInv s.loop := by
  refine h.frame rfl (fun p hp => ?_) (UInt64.le_refl _) ?_
  · have hne : p ≠ s.allocated := Nat.ne_of_lt (ha.heap p hp)
    simp [TimerManager.addTimer, expire, hne]
  · rintro ⟨u, hu⟩
    have hne : u ≠ t := by
      rintro rfl
      simp [hpc] at hu
    exact ⟨u, by simpa [TimerManager.addTimer, hne] using hu⟩

/-- Inserting a timer alerts the timer thread, and a timer the deadline is kept for is either late
enough or found due when the thread wakes up. -/
lemma SleepInv.insert {s : TimerManager Tid} (h : s.SleepInv s.loop) {t : Tid} {p : Nat}
    (hl : s.loop.locked = false) (hpc : s.adders t = .insert p)
    (hok : s.deadlineKept (.insert t) = true) : (s.insert t p).SleepInv s.loop := by
  have halert : ∀ n, (s.insert t p).Alerted n := fun n =>
    .inr ⟨t, by simp [TimerManager.insert]⟩
  cases hloop : s.loop with
  | blocked k d n =>
    rw [hloop] at h
    cases k with
    | noTimer => exact .inr (halert n)
    | nextTimer =>
      simp only [deadlineKept, hpc, hloop, decide_eq_true_eq] at hok
      rcases h with hd | ⟨⟨q, hq, hle⟩, -⟩
      · rcases hok with hok | hok
        · refine .inl fun q hq => ?_
          rcases List.mem_cons.mp hq with rfl | hq
          · exact hok
          · exact hd q hq
        · exact .inr ⟨⟨p, List.mem_cons_self, hok⟩, halert n⟩
      · exact .inr ⟨⟨q, List.mem_cons_of_mem _ hq, hle⟩, halert n⟩
  | top | lock | fire _ | exited => trivial
  | _ => simp [hloop, TimerPc.locked] at hl

/-- Every step that keeps the deadline keeps the invariant. -/
lemma Step.sleepInv {s s' : TimerManager Tid} {l : Action Tid} (h : Step s l s')
    (ha : Allocated s) (hok : s.deadlineKept l = true) (hs : s.SleepInv s.loop) :
    s'.SleepInv s'.loop := by
  cases h with
  | tick time hle => exact hs.frame rfl (fun _ _ => rfl) hle id
  | setTimeout t a d msg hpc => exact hs.addTimer ha hpc a d msg 0
  | setInterval t a d msg hpc hd => exact hs.addTimer ha hpc a d msg d
  | insert t p hpc hl => exact hs.insert hl hpc hok
  | notify t hpc | notifyAll hpc => exact hs.notify rfl rfl rfl
  | cancel timerId hl =>
    rw [cancelTimer]
    split
    · exact hs
    · rename_i p _
      refine hs.frame rfl (fun q _ => ?_) (UInt64.le_refl _) id
      by_cases e : q = p
      · subst e; simp [expire]
      · simp [expire, e]
  | notYet p now hpc hp hlt => exact ⟨hlt, hp.2, p, hp.1, rfl⟩
  | waitNext now e hpc =>
    rw [hpc] at hs
    obtain ⟨hlt, hmin, p, hp, rfl⟩ := hs
    simp only [deadlineKept, hpc, decide_eq_true_eq] at hok
    rcases hok with hclock | hdue
    · refine .inl fun q hq => ?_
      have hle : (s.expire p).toNat ≤ (s.expire q).toNat := UInt64.le_iff_toNat_le.mp (hmin q hq)
      have := add_milliseconds_le hlt
      simp only [hclock]
      exact Int.le_trans this (by exact_mod_cast hle)
    · exact .inr ⟨p, hp, hdue⟩
  | finish k deadline timedOut hpc h => cases k <;> trivial
  | block k deadline hpc h =>
    rw [hpc] at hs
    cases k with
    | noTimer => exact .inl (heap_of_predicate h)
    | nextTimer => exact .inl (hs.resolve_right (not_someDue h))
  | wake k deadline notified timedOut hpc h =>
    rw [hpc] at hs
    cases k with
    | noTimer => trivial
    | nextTimer => exact hs.imp_right And.left
  | collect p toFire hpc hp hle =>
    rw [collectTop]
    dsimp only
    split_ifs <;> trivial
  | stopExchange hr => exact hs.frame rfl (fun _ _ => rfl) (UInt64.le_refl _) id
  | stopAgain hr => exact hs
  | join hpc hl =>
    simp only [hl]
    trivial
  | iterate | leave | lock | sawEmpty | readClock | due | waitEmpty | again | noneDue | noneLeft
  | rearm | send | allSent => trivial

/-- In every run whose steps keep the deadline, a sleeping timer thread wakes up in time. -/
theorem deadline_inTime {s : TimerManager Tid}
    (h : (machine Tid).Reach (fun s l => s.deadlineKept l = true) s) : s.DeadlineInTime := by
  have hinv : s.SleepInv s.loop := by
    apply h.invariant (P := fun s => s.SleepInv s.loop)
    · rintro s ⟨time, rfl⟩
      trivial
    · intro s l s' hr hs hok hstep
      exact (Step.of_next hstep).sleepInv (allocated_of_reachable hr.reachable) hok hs
  intro k deadline hpc hquiet p hp _
  have halert : ¬ s.Alerted false := by
    rintro (hf | ⟨t, ht⟩)
    · cases hf
    · exact hquiet t ht
  rw [hpc] at hinv
  cases k with
  | noTimer =>
    rw [hinv.resolve_right halert] at hp
    cases hp
  | nextTimer => exact hinv.resolve_right (fun hd => halert hd.2) p hp

/-- A timer of ten seconds is set and the timer thread goes to sleep for it. -/
def sleepTenSeconds : List (Action Unit) :=
  [.setTimeout () 1 10000 {}, .insert (), .notify ()] ++ List.replicate 3 .loop ++
    .top 0 :: List.replicate 2 .loop

/-- The deadline of a thread that sleeps for ten seconds, when a minute's timer was added. -/
theorem deadline_inTime_of_longer :
    let s := (machine Unit).replayWith (fun s l => s.deadlineKept l = true) (start Unit 5)
      (sleepTenSeconds ++ [.setTimeout () 1 60000 {}, .insert (), .notify (), .wake false, .loop])
    s.heap = [1, 0] ∧ s.loop = .blocked .nextTimer 10005 false ∧ s.DeadlineInTime := by
  intro s
  exact ⟨by decide, by decide,
    deadline_inTime (Machine.reach_replayWith (reach_start 5) _)⟩

/-- A timer of a tenth of a second, added while the thread sleeps for ten seconds, notifies the
thread, and the thread goes back to sleep for ten seconds. -/
theorem shorter_timer_oversleeps : ¬ ∀ s : TimerManager Unit, (machine Unit).Reachable s →
    s.DeadlineInTime := by
  intro h
  let s := (machine Unit).replay (start Unit 0) (sleepTenSeconds ++
    [.setTimeout () 1 100 {}, .insert (), .notify (), .wake false, .loop])
  have hs : (machine Unit).Reachable s := Machine.reachable_replay (reach_start 0) _
  have hloop : s.loop = .blocked .nextTimer 10000 false := by decide
  have hquiet : ∀ t, s.adders t ≠ .notify := by
    rintro ⟨⟩
    decide
  have hle := h s hs _ _ hloop hquiet 1 (by decide) (by decide)
  exact absurd hle (by decide)

end Balabala.TimerManager
