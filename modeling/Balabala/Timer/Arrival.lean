import Balabala.Timer.Cancel

/-!
# The message of a timer arrives

A one-shot timer that nobody cancels is on its way until its message is sent: into the heap, in the
heap, or among what the timer thread has collected. Whatever the threads do, it does not get lost.
-/

namespace Balabala.TimerManager

open Foundation

variable {Tid : Type*}

/-- The message of the timer `p` is still to be sent. -/
def OnTheWay (s : TimerManager Tid) (p : Nat) : Prop :=
  (∃ t, s.adders t = .insert p) ∨ (p ∈ s.heap ∧ (s.entries p).cancelled = false) ∨
    s.message p ∈ s.loop.toFire

variable {s s' : TimerManager Tid} {p : Nat} {l : Action Tid}

/-- The timer thread moves on and loses nothing. -/
lemma OnTheWay.of_loop (h : s.OnTheWay p) {pc : TimerPc}
    (hpc : ∀ x ∈ s.loop.toFire, x ∈ pc.toFire) : OnTheWay { s with loop := pc } p := by
  rcases h with h | h | h
  · exact .inl h
  · exact .inr (.inl h)
  · exact .inr (.inr (hpc _ h))

variable [DecidableEq Tid]

lemma OnTheWay.addTimer (h : s.OnTheWay p) (hp : p < s.allocated) {t : Tid}
    (ht : s.adders t = .idle) (a : ActorId) (d : Int) (msg : ActorMessage) (i : Int) :
    (s.addTimer t a d msg i).OnTheWay p := by
  have hentries : (s.addTimer t a d msg i).entries p = s.entries p := entries_addTimer hp
  rcases h with ⟨u, hu⟩ | ⟨hheap, hc⟩ | hfire
  · refine .inl ⟨u, ?_⟩
    have hne : u ≠ t := by
      rintro rfl
      rw [ht] at hu
      cases hu
    simpa [TimerManager.addTimer, hne] using hu
  · exact .inr (.inl ⟨hheap, hentries ▸ hc⟩)
  · refine .inr (.inr ?_)
    rw [message, hentries]
    exact hfire

lemma OnTheWay.insert (h : s.OnTheWay p) (hk : Kept s) {t : Tid} {q : Nat}
    (ht : s.adders t = .insert q) : (s.insert t q).OnTheWay p := by
  rcases h with ⟨u, hu⟩ | ⟨hheap, hc⟩ | hfire
  · by_cases hut : u = t
    · subst hut
      obtain rfl : q = p := by simpa [ht] using hu
      exact .inr (.inl ⟨List.mem_cons_self, (hk.pending u q hu).2.2⟩)
    · exact .inl ⟨u, by simpa [TimerManager.insert, hut] using hu⟩
  · exact .inr (.inl ⟨List.mem_cons_of_mem _ hheap, hc⟩)
  · exact .inr (.inr hfire)

omit [DecidableEq Tid] in
lemma OnTheWay.cancelTimer (h : s.OnTheWay p) (hk : Kept s) {id : TimerId}
    (hid : (s.entries p).timerId ≠ id) : (s.cancelTimer id).OnTheWay p := by
  rw [TimerManager.cancelTimer]
  split
  · exact h
  · rename_i q hq
    have hne : p ≠ q := by
      rintro rfl
      exact hid ((hk.map id p).mp hq).2.1
    rcases h with h | ⟨hheap, hc⟩ | hfire
    · exact .inl h
    · refine .inr (.inl ⟨hheap, ?_⟩)
      simpa [hne] using hc
    · refine .inr (.inr ?_)
      simpa [message, hne] using hfire

omit [DecidableEq Tid] in
lemma OnTheWay.collectTop (h : s.OnTheWay p) (hone : (s.entries p).intervalMs = 0)
    {q : Nat} {toFire : List (ActorId × ActorMessage)} (hpc : s.loop = .collect toFire) :
    (s.collectTop q toFire).OnTheWay p := by
  rw [TimerManager.collectTop]
  dsimp only
  rcases h with h | ⟨hheap, hc⟩ | hfire
  · split_ifs <;> exact .inl h
  · by_cases hpq : p = q
    · -- it is collected, and being of one shot it is not put back
      subst hpq
      rw [if_neg (by simp [hc]), if_neg (by simp [hone])]
      exact .inr (.inr (List.mem_append_right _ (List.mem_singleton.mpr rfl)))
    · have hmem : p ∈ s.heap.erase q := (List.mem_erase_of_ne hpq).mpr hheap
      split_ifs <;> exact .inr (.inl ⟨hmem, hc⟩)
  · rw [hpc] at hfire
    split_ifs
    · exact .inr (.inr hfire)
    · exact .inr (.inr (List.mem_append_left _ hfire))
    · exact .inr (.inr (List.mem_append_left _ hfire))

lemma OnTheWay.notify (h : s.OnTheWay p) {t : Tid} (ht : s.adders t = .notify) :
    OnTheWay { s with adders := Function.update s.adders t .idle, loop := s.loop.notify } p := by
  rcases h with ⟨u, hu⟩ | h | hfire
  · have hne : u ≠ t := by
      rintro rfl
      rw [ht] at hu
      cases hu
    exact .inl ⟨u, by simpa [hne] using hu⟩
  · exact .inr (.inl h)
  · refine .inr (.inr ?_)
    show s.message p ∈ s.loop.notify.toFire
    rwa [TimerPc.toFire_notify]

omit [DecidableEq Tid] in
lemma OnTheWay.rearm (h : s.OnTheWay p) {q : Nat} {toFire : List (ActorId × ActorMessage)}
    (hpc : s.loop = .rearm q toFire) (e : UInt64) :
    OnTheWay { s with
      entries := Function.update s.entries q { s.entries q with expireTimeMs := e }
      heap := q :: s.heap
      loop := .collect toFire } p := by
  rcases h with h | ⟨hheap, hc⟩ | hfire
  · exact .inl h
  · refine .inr (.inl ⟨List.mem_cons_of_mem _ hheap, ?_⟩)
    simpa only [update_expire] using hc
  · rw [hpc, TimerPc.toFire_rearm] at hfire
    refine .inr (.inr ?_)
    simpa only [message, update_expire, TimerPc.toFire_collect] using hfire

/-- A one-shot timer that is not cancelled stays on its way, until its message is sent. -/
theorem Step.onTheWay (h : Step s l s') (hk : Kept s) (hp : p < s.allocated)
    (hone : (s.entries p).intervalMs = 0) (hcancel : l ≠ .cancel (s.entries p).timerId)
    (hjoin : l ≠ .join) (hw : s.OnTheWay p) :
    s'.OnTheWay p ∨ (l = .loop ∧ ∃ toFire, s.loop = .fire (s.message p :: toFire)) := by
  cases h with
  | tick | stopExchange | stopAgain => exact .inl hw
  | setTimeout t a d msg hpc | setInterval t a d msg hpc =>
    exact .inl (hw.addTimer hp hpc a d msg _)
  | insert t q hpc => exact .inl (hw.insert hk hpc)
  | notify t hpc => exact .inl (hw.notify hpc)
  | notifyAll =>
    refine .inl (hw.of_loop fun x hx => ?_)
    rwa [TimerPc.toFire_notify]
  | cancel id => exact .inl (hw.cancelTimer hk fun e => hcancel (by rw [e]))
  | join => exact absurd rfl hjoin
  | collect q toFire hpc => exact .inl (hw.collectTop hone hpc)
  | rearm q toFire hpc => exact .inl (hw.rearm hpc _)
  | send x toFire hpc =>
    rcases hw with hw | hw | hfire
    · exact .inl (.inl hw)
    · exact .inl (.inr (.inl hw))
    · rw [hpc] at hfire
      rcases List.mem_cons.mp hfire with rfl | hfire
      · exact .inr ⟨rfl, toFire, hpc⟩
      · exact .inl (.inr (.inr hfire))
  | leave hpc =>
    refine .inl (hw.of_loop fun x hx => ?_)
    rcases hpc with hpc | hpc <;> simp [hpc, TimerPc.toFire] at hx
  | noneDue _ _ hpc | noneLeft _ hpc =>
    refine .inl (hw.of_loop fun x hx => ?_)
    rwa [hpc] at hx
  | iterate hpc | lock hpc | sawEmpty hpc | readClock hpc | notYet _ _ hpc | due _ _ hpc
  | waitEmpty hpc | waitNext _ _ hpc | finish _ _ _ hpc | block _ _ hpc | wake _ _ _ _ hpc
  | again hpc | allSent hpc =>
    refine .inl (hw.of_loop fun x hx => ?_)
    simp [hpc, TimerPc.toFire] at hx

/-- The interval of a timer never changes. -/
lemma Step.intervalMs (h : Step s l s') (hp : p < s.allocated) :
    (s'.entries p).intervalMs = (s.entries p).intervalMs := by
  cases h with
  | setTimeout | setInterval => rw [entries_addTimer hp]
  | cancel id => exact ((cancelTimer_keeps s id).1 p).2.1
  | collect q toFire =>
    rw [TimerManager.collectTop]
    dsimp only
    split_ifs <;> rfl
  | rearm q toFire => simp only [update_expire]
  | _ => rfl

/-- Only `Stop` clears `running_`. -/
lemma Step.running_eq (h : Step s l s') (hl : l ≠ .stopExchange) : s'.running = s.running := by
  cases h with
  | stopExchange => exact absurd rfl hl
  | cancel id =>
    rw [TimerManager.cancelTimer]
    split <;> rfl
  | collect q toFire =>
    rw [TimerManager.collectTop]
    dsimp only
    split_ifs <;> rfl
  | _ => rfl

/-! ### Timers that may still be collected -/

/-- The timer `p` is in the heap, or on the way into it, and not cancelled. -/
def Live (s : TimerManager Tid) (p : Nat) : Prop :=
  (∃ t, s.adders t = .insert p) ∨ (p ∈ s.stored ∧ (s.entries p).cancelled = false)

omit [DecidableEq Tid] in
/-- A timer that cannot be collected any more stays so. -/
lemma Keeps.live (h : Keeps s s') (hp : p < s.allocated) (hl : s'.Live p) : s.Live p := by
  rcases hl with ⟨t, ht⟩ | ⟨hmem, hc⟩
  · rcases h.adders t p ht with ht | ⟨rfl, -⟩
    · exact .inl ⟨t, ht⟩
    · exact absurd hp (Nat.lt_irrefl _)
  · rcases h.stored p hmem with hmem | ⟨t, ht⟩
    · refine .inr ⟨hmem, ?_⟩
      by_contra hcan
      rw [h.cancelled p hp (by simpa using hcan)] at hc
      cases hc
    · exact .inl ⟨t, ht⟩

omit [DecidableEq Tid] in
lemma Finished.not_live (h : Finished s p) : ¬ s.Live p := by
  rintro (⟨t, ht⟩ | ⟨hmem, hc⟩)
  · exact h.adders t ht
  · rw [h.marked hmem] at hc
    cases hc

end Balabala.TimerManager
