import Mathlib.Algebra.Order.Ring.Nat
import Balabala.Timer.History

/-!
# The store of the timers, over whole runs
-/

namespace Balabala.TimerManager

open Foundation

variable {Tid : Type*} [DecidableEq Tid]

/-- The expiry of a timer does not change while the timer is in the heap. -/
lemma Step.expire_of_heap {s s' : TimerManager Tid} {l : Action Tid} (h : Step s l s')
    (hs : Kept s) {p : Nat} (hp : p ∈ s.heap) : s'.expire p = s.expire p := by
  cases h with
  | setTimeout t a d msg hpc | setInterval t a d msg hpc =>
    rw [expire, entries_addTimer (hs.below p (mem_stored_of_heap hp)), expire]
  | cancel id hl => exact ((cancelTimer_keeps s id).1 p).1
  | collect q toFire hpc hq hle =>
    rw [TimerManager.collectTop]
    dsimp only
    split_ifs <;> rfl
  | rearm q toFire hpc =>
    have hqp : p ≠ q := by
      rintro rfl
      have hnodup := stored_rearm hpc ▸ hs.nodup
      exact (List.nodup_cons.mp hnodup).1 hp
    simp [expire, hqp]
  | _ => rfl

/-- A pass ends when no timer is due. -/
lemma Step.exhausted {s s' : TimerManager Tid} {l : Action Tid} (h : Step s l s')
    (hs : s.loop.collecting = true) (hs' : s'.loop.collecting = false) {p : Nat}
    (hp : p ∈ s'.heap) : s.clock < s'.expire p := by
  cases h with
  | collect q toFire hpc =>
    rw [TimerManager.collectTop] at hs'
    dsimp only at hs'
    split_ifs at hs' <;> cases hs'
  | noneDue q toFire hpc hq hlt =>
    have hle : s.expire q ≤ s.expire p := hq.2 p hp
    exact UInt64.lt_of_lt_of_le (UInt64.not_le.mp hlt) hle
  | noneLeft toFire hpc hh =>
    have hp : p ∈ s.heap := hp
    rw [hh] at hp
    cases hp
  | notify | notifyAll =>
    rw [TimerPc.collecting_notify, hs] at hs'
    cases hs'
  | cancel id hl =>
    rw [(cancelTimer_keeps s id).2.2.2.1, hs] at hs'
    cases hs'
  | rearm => cases hs'
  | setTimeout | setInterval | insert | tick | stopExchange | join =>
    have hs' : s.loop.collecting = false := hs'
    rw [hs] at hs'
    cases hs'
  | stopAgain =>
    rw [hs] at hs'
    cases hs'
  | iterate hpc | lock hpc | sawEmpty hpc | readClock hpc | waitEmpty hpc | again hpc
  | allSent hpc =>
    rw [hpc] at hs
    cases hs
  | leave hpc =>
    rcases hpc with hpc | hpc
    all_goals
      rw [hpc] at hs
      cases hs
  | notYet _ _ hpc | due _ _ hpc | waitNext _ _ hpc | finish _ _ _ hpc | block _ _ hpc
  | wake _ _ _ _ hpc | send _ _ hpc =>
    rw [hpc] at hs
    cases hs

/-- What the store guarantees, at a state that was reached with the log `log`. -/
structure StoreCorrect (s : TimerManager Tid) (log : List TimerEvent) : Prop where
  /-- the ids of `timerMap_` are those of the timers that are stored and not cancelled -/
  ids : ∀ id, (s.timerMap id).isSome = true ↔
    ∃ p ∈ s.stored, (s.entries p).timerId = id ∧ (s.entries p).cancelled = false
  nodup : s.stored.Nodup
  fixed : ∀ l s', (machine Tid).next s l = some s' → ∀ p ∈ s.heap, s'.expire p = s.expire p
  /-- a timer that is set for one time is collected once at most -/
  once : ∀ p, (s.entries p).intervalMs = 0 → log.countP (TimerEvent.collects p) ≤ 1
  /-- and not before its delay is over -/
  due : ∀ p e time, .collected p e time ∈ log → (s.entries p).intervalMs = 0 → ∃ setTime d,
    .set p setTime d ∈ log ∧ (setTime.toNat : Int) + d ≤ time.toNat
  /-- no timer is collected after it was cancelled -/
  revoked : TimerEvent.Revoked log
  /-- the expiries of a pass, in the order of the messages -/
  ordered : (TimerEvent.currentPass log).Pairwise fun later earlier => earlier.2 ≤ later.2
  messages : s.loop.collecting = true →
    s.loop.toFire = (TimerEvent.currentPass log).reverse.map fun x => s.message x.1
  /-- a pass that ends leaves no timer that is due at its last reading of the clock -/
  exhausted : ∀ l s', (machine Tid).next s l = some s' → s.loop.collecting = true →
    s'.loop.collecting = false → ∀ p ∈ s'.heap, s.clock < s'.expire p

/-- In every run that sets 2^64 timers at most, the store does what it should. -/
theorem store_correct {x : TimerManager Tid × List TimerEvent}
    (h : ((machine Tid).observed [] record).Reach (fun x l => x.1.InRange l) x) :
    StoreCorrect x.1 x.2 := by
  have hinv : Kept x.1 ∧ Logged x.1 x.2 := by
    apply h.invariant (P := fun x => Kept x.1 ∧ Logged x.1 x.2)
    · rintro ⟨s, log⟩ ⟨⟨time, rfl⟩, rfl⟩
      exact ⟨kept_start time, logged_start time⟩
    · rintro x l x' - ⟨hkept, hlogged⟩ hok hnext
      obtain ⟨hs, hrecord⟩ := Machine.next_of_observed hnext
      have hstep := Step.of_next hs
      rw [hrecord]
      exact ⟨hstep.kept hkept hok.1.intInterval hok.2, hstep.logged hkept hlogged hok.1⟩
  obtain ⟨hkept, hlogged⟩ := hinv
  exact {
    ids := by
      intro id
      rw [Option.isSome_iff_exists]
      exact exists_congr fun p => hkept.map id p
    nodup := hkept.nodup
    fixed := fun l s' hnext p hp => (Step.of_next hnext).expire_of_heap hkept hp
    once := hlogged.once
    due := hlogged.due
    revoked := hlogged.revoked
    ordered := hlogged.ordered
    messages := hlogged.messages
    exhausted := fun l s' hnext hs hs' p hp => (Step.of_next hnext).exhausted hs hs' hp }

/-- A periodic timer, a timer for one time and a cancelled one; two milliseconds later the first
two are collected. -/
def collectTwo : List (Action Unit) :=
  [.setInterval () 1 2 {}, .insert (), .notify (), .setTimeout () 2 1 {}, .insert (), .notify (),
    .setTimeout () 3 0 {}, .insert (), .notify (), .cancel 3, .tick 7, .loop, .loop, .loop, .top 2,
    .top 2, .top 1, .top 0, .loop]

theorem store_correct_collectTwo :
    let x := ((machine Unit).observed [] record).replayWith (fun x l => x.1.InRange l)
      (start Unit 5, []) collectTwo
    x.1.heap = [0] ∧ x.1.expire 0 = 9 ∧
      x.2.take 3 = [.collected 0 7 7, .collected 1 6 7, .pass] ∧ StoreCorrect x.1 x.2 := by
  intro x
  have hstart : ((machine Unit).observed [] record).Reach (fun x l => x.1.InRange l)
      (start Unit 5, []) := .start ⟨⟨5, rfl⟩, rfl⟩
  exact ⟨by decide, by decide, by decide, store_correct (Machine.reach_replayWith hstart _)⟩

/-! ### A number of timers that no one has time to set -/

/-- `n` timers are set, and the timer thread does not come to collect them. -/
structure Untouched (s : TimerManager Unit) (n : Nat) : Prop where
  clock : s.clock = 0
  allocated : s.allocated = n
  adders : s.adders () = .idle
  loop : s.loop = .top
  heap : ∀ p < n, p ∈ s.heap ∧ (s.entries p).cancelled = false

/-- One more timer is set. -/
def setOne (s : TimerManager Unit) : TimerManager Unit :=
  ((s.addTimer () 1 0 {} 0).insert () s.allocated)

lemma reach_setOne {ok : TimerManager Unit → Action Unit → Prop} {s : TimerManager Unit} {n : Nat}
    (h : (machine Unit).Reach ok s) (hs : Untouched s n) (hok : ok s (.setTimeout () 1 0 {}))
    (hok' : ok (s.addTimer () 1 0 {} 0) (.insert ())) : (machine Unit).Reach ok (setOne s) := by
  refine (h.step hok ?_).step hok' ?_
  · show s.next (.setTimeout () 1 0 {}) = _
    rw [next, if_pos hs.adders]
  · have hpc : (s.addTimer () 1 0 {} 0).adders () = .insert s.allocated := by simp [addTimer]
    have hloop : (s.addTimer () 1 0 {} 0).loop.locked = false := by
      show s.loop.locked = false
      rw [hs.loop]
      rfl
    show (s.addTimer () 1 0 {} 0).next (.insert ()) = _
    simp only [next, hpc, hloop]
    rfl

lemma exists_untouched (n : Nat) (hn : n ≤ 2 ^ 64) :
    ∃ s, (machine Unit).Reach (fun s l => s.InRange l) s ∧ Untouched s n ∧ s.running = true ∧
      ∀ p < n, s.expire p = 0 := by
  induction n with
  | zero => exact ⟨start Unit 0, reach_start 0, ⟨rfl, rfl, rfl, rfl, by simp⟩, rfl, by simp⟩
  | succ n ih =>
    obtain ⟨s, hreach, hs, hrunning, hexpire⟩ := ih (Nat.le_of_succ_le hn)
    have hclock : s.clock.toNat ≤ maxNowMs := by
      rw [hs.clock]
      exact Nat.zero_le _
    have hroom : s.allocated < 2 ^ 64 := by
      rw [hs.allocated]
      exact hn
    have hset : (machine Unit).Reach (fun s l => s.InRange l) (setOne s) :=
      reach_setOne hreach hs ⟨⟨hclock, by decide⟩, hroom⟩ ⟨⟨hclock, trivial⟩, trivial⟩
    have hnotify : (setOne s).next (.notify ()) = some { setOne s with
        adders := Function.update (setOne s).adders () .idle, loop := (setOne s).loop.notify } := by
      simp [next, setOne, TimerManager.insert]
    refine ⟨_, hset.step (l := .notify ()) ⟨⟨hclock, trivial⟩, trivial⟩ hnotify,
      ⟨hs.clock, ?_, by simp, ?_, ?_⟩, hrunning, ?_⟩
    · exact congrArg (· + 1) hs.allocated
    · show s.loop.notify = .top
      rw [hs.loop]
      rfl
    · intro p hp
      show p ∈ s.allocated :: s.heap ∧ ((s.addTimer () 1 0 {} 0).entries p).cancelled = false
      rw [hs.allocated]
      obtain hp | rfl := Nat.lt_succ_iff_lt_or_eq.mp hp
      · rw [entries_addTimer (hs.allocated ▸ hp)]
        exact ⟨List.mem_cons_of_mem _ (hs.heap p hp).1, (hs.heap p hp).2⟩
      · exact ⟨List.mem_cons_self, by simp [addTimer, hs.allocated]⟩
    · intro p hp
      show ((s.addTimer () 1 0 {} 0).entries p).expireTimeMs = 0
      obtain hp | rfl := Nat.lt_succ_iff_lt_or_eq.mp hp
      · rw [entries_addTimer (hs.allocated ▸ hp)]
        exact hexpire p hp
      · simp only [addTimer, hs.allocated, hs.clock, Function.update_self]
        rfl

/-- After 2^64 timers the next one has the id of the first, and `CancelTimer` finds the new one. -/
lemma exists_sameId : ∃ s, (machine Unit).Reach (fun s l => s.InRange l) s ∧
    Untouched s (2 ^ 64) ∧ s.running = true ∧ s.expire 0 = 0 ∧ (s.entries 0).timerId = 1 ∧
      (setOne s).timerMap 1 = some s.allocated ∧ (setOne s).entries 0 = s.entries 0 ∧
        ((setOne s).cancelTimer 1).entries 0 = s.entries 0 := by
  obtain ⟨s, hreach, hs, hrunning, hexpire⟩ := exists_untouched (2 ^ 64) (Nat.le_refl _)
  have hkept : Kept s := by
    apply hreach.invariant (P := Kept)
    · rintro s ⟨time, rfl⟩
      exact kept_start time
    · intro s l s' _ hkept hok hnext
      exact (Step.of_next hnext).kept hkept hok.1.intInterval hok.2
  have hpos : 0 < s.allocated := by
    rw [hs.allocated]
    decide
  have hid : s.nextTimerId = 1 := by
    rw [hkept.nextId, hs.allocated]
    decide
  have hmap : (setOne s).timerMap 1 = some s.allocated := by
    simp [setOne, TimerManager.insert, addTimer, hid]
  have hold : (setOne s).entries 0 = s.entries 0 := entries_addTimer (t := ()) hpos
  refine ⟨s, hreach, hs, hrunning, hexpire 0 (by decide), hkept.timerId 0 hpos, hmap, hold, ?_⟩
  simp only [cancelTimer, hmap]
  rw [Function.update_of_ne (Nat.ne_of_lt hpos), hold]

lemma Untouched.unlocked {s : TimerManager Unit} {n : Nat} (hs : Untouched s n) :
    (setOne s).loop.locked = false := by
  show s.loop.locked = false
  rw [hs.loop]
  rfl

/-- After 2^64 timers the next one has the id of the first. When it is cancelled the first one is
in the heap and not cancelled, and its id is not in the map. -/
theorem ids_run_out : ¬ ∀ s : TimerManager Unit,
    (machine Unit).Reach (fun s l => s.InDomain l) s →
    ∀ id, (s.timerMap id).isSome = true ↔
      ∃ p ∈ s.stored, (s.entries p).timerId = id ∧ (s.entries p).cancelled = false := by
  intro h
  obtain ⟨s, hreach, hs, -, -, hfirstId, hmap, -, hfirst⟩ := exists_sameId
  have hclock : s.clock.toNat ≤ maxNowMs := by
    rw [hs.clock]
    exact Nat.zero_le _
  have hset := reach_setOne (hreach.mono fun _ _ hok => hok.1) hs ⟨hclock, by decide⟩
    ⟨hclock, trivial⟩
  have hcancel : (setOne s).next (.cancel 1) = some ((setOne s).cancelTimer 1) := by
    simp [next, hs.unlocked]
  have hids := h _ (hset.step (l := .cancel 1) ⟨hclock, trivial⟩ hcancel) 1
  have hnone : ((setOne s).cancelTimer 1).timerMap 1 = none := by
    simp [cancelTimer, hmap]
  obtain ⟨hheap, hc⟩ := hs.heap 0 (by decide)
  have hstored : 0 ∈ ((setOne s).cancelTimer 1).stored := by
    apply mem_stored_of_heap
    rw [(cancelTimer_keeps (setOne s) 1).2.1]
    exact List.mem_cons_of_mem _ hheap
  have hsome := hids.mpr ⟨0, hstored, by rw [hfirst, hfirstId], by rw [hfirst, hc]⟩
  rw [hnone] at hsome
  cases hsome

end Balabala.TimerManager
