import Balabala.Timer.Runs

/-!
# What is sent for a timer that was cancelled

`CancelTimer` marks the timer, and `timerLoop` looks at the mark when it takes the timer out of the
heap. The messages it has collected by then are sent after `timerMutex_` was released, and nobody
asks again whether their timers were cancelled.

An observer writes down the timers whose messages are collected, wait in `toFire` and are sent.
-/

namespace Balabala.TimerManager

open Foundation

/-- The timers behind the messages of `timerLoop`. -/
structure Tally where
  /-- all that were collected -/
  collected : List Nat := []
  /-- those that wait in `toFire` -/
  toFire : List Nat := []
  /-- those for which `Send` was called -/
  sent : List Nat := []
  deriving DecidableEq

variable {Tid : Type*}

/-- The observer. -/
def tally (g : Tally) (s : TimerManager Tid) (l : Action Tid) (s' : TimerManager Tid) : Tally :=
  match l with
  | .top p =>
    if s.loop.toFire.length < s'.loop.toFire.length then
      { g with collected := g.collected ++ [p], toFire := g.toFire ++ [p] }
    else g
  | .loop =>
    match s.loop with
    | .fire (_ :: _) =>
      { g with
        toFire := g.toFire.tail
        sent := if s.running then g.sent ++ g.toFire.take 1 else g.sent }
    | _ => g
  | _ => g

/-! ### What a step leaves as it is -/

/-- The timers of `s` are those of `s'`, with their messages and marks, and what comes into the
store was on its way there. -/
structure Keeps (s s' : TimerManager Tid) : Prop where
  allocated : s.allocated ≤ s'.allocated
  message : ∀ p < s.allocated, s'.message p = s.message p
  cancelled : ∀ p < s.allocated, (s.entries p).cancelled = true → (s'.entries p).cancelled = true
  adders : ∀ t p, s'.adders t = .insert p →
    s.adders t = .insert p ∨ p = s.allocated ∧ p < s'.allocated
  stored : ∀ p ∈ s'.stored, p ∈ s.stored ∨ ∃ t, s.adders t = .insert p

lemma Keeps.frame {s s' : TimerManager Tid} (hallocated : s'.allocated = s.allocated)
    (hentries : s'.entries = s.entries)
    (hadders : ∀ t p, s'.adders t = .insert p → s.adders t = .insert p)
    (hstored : ∀ p ∈ s'.stored, p ∈ s.stored) : Keeps s s' where
  allocated := Nat.le_of_eq hallocated.symm
  message p _ := by simp only [TimerManager.message, hentries]
  cancelled p _ h := by rwa [hentries]
  adders t p ht := .inl (hadders t p ht)
  stored p hp := .inl (hstored p hp)

/-- The timer thread moves on, with no timer in its hands. -/
lemma Keeps.of_loop {s : TimerManager Tid} {pc : TimerPc} (hpc : ∀ p toFire, pc ≠ .rearm p toFire) :
    Keeps s { s with loop := pc } := by
  refine .frame rfl rfl (fun _ _ ht => ht) fun p hp => ?_
  rw [stored_of_not_rearm hpc] at hp
  exact mem_stored_of_heap hp

lemma message_cancelTimer (s : TimerManager Tid) (id : TimerId) (p : Nat) :
    (s.cancelTimer id).message p = s.message p := by
  rw [cancelTimer]
  split
  · rfl
  · rename_i q _
    by_cases hpq : p = q
    · subst hpq
      simp [message]
    · simp [message, hpq]

lemma keeps_cancelTimer (s : TimerManager Tid) (id : TimerId) : Keeps s (s.cancelTimer id) := by
  obtain ⟨hentries, hheap, hadders, hloop, hallocated⟩ := cancelTimer_keeps s id
  exact {
    allocated := Nat.le_of_eq hallocated.symm
    message := fun p _ => message_cancelTimer s id p
    cancelled := fun p _ => (hentries p).2.2
    adders := fun t p ht => .inl (hadders ▸ ht)
    stored := by
      intro p hp
      rw [stored, hloop, hheap] at hp
      exact .inl hp }

lemma keeps_collectTop {s : TimerManager Tid} {p : Nat} {toFire : List (ActorId × ActorMessage)}
    (hpc : s.loop = .collect toFire) (hp : p ∈ s.heap) : Keeps s (s.collectTop p toFire) := by
  have hstored : s.stored = s.heap := stored_of_not_rearm (by simp [hpc])
  have herase : ∀ q ∈ s.heap.erase p, q ∈ s.stored := by
    rw [hstored]
    exact fun q => List.mem_of_mem_erase
  rw [collectTop]
  dsimp only
  split_ifs
  · exact .frame rfl rfl (fun _ _ ht => ht) herase
  · refine .frame rfl rfl (fun _ _ ht => ht) fun q hq => ?_
    rcases List.mem_cons.mp hq with rfl | hq
    · exact mem_stored_of_heap hp
    · exact herase q hq
  · exact .frame rfl rfl (fun _ _ ht => ht) herase

/-- A timer that is put back has a new expiry and nothing else that is new. -/
lemma update_expire (entries : Nat → TimerEntry) (p q : Nat) (e : UInt64) :
    Function.update entries p { entries p with expireTimeMs := e } q =
      { entries q with expireTimeMs := if q = p then e else (entries q).expireTimeMs } := by
  by_cases hqp : q = p
  · subst hqp
    simp
  · simp [hqp]

/-! ### What was written down -/

/-- What is written down are the timers behind the messages. -/
structure Tallied (s : TimerManager Tid) (g : Tally) : Prop where
  stored : ∀ p ∈ s.stored, p < s.allocated
  adders : ∀ t p, s.adders t = .insert p → p < s.allocated
  below : ∀ p ∈ g.toFire ++ g.sent, p < s.allocated
  toFire : s.loop.toFire = g.toFire.map s.message
  sent : s.sent = g.sent.map s.message
  /-- what is sent was collected -/
  collected : ∀ p, g.sent.count p + g.toFire.count p ≤ g.collected.count p

lemma tallied_start (time : UInt64) : Tallied (start Tid time) {} where
  stored := by simp [stored, start]
  adders := by simp [start]
  below := by simp
  toFire := rfl
  sent := rfl
  collected _ := Nat.le_refl _

/-- The timers and their messages are the same after a step, so that it is enough to look at what
the step has written down. -/
lemma Tallied.of_keeps {s s' : TimerManager Tid} {g g' : Tally} (hs : Tallied s g)
    (h : Keeps s s') (hbelow : ∀ p ∈ g'.toFire ++ g'.sent, p < s.allocated)
    (htoFire : s'.loop.toFire = g'.toFire.map s.message) (hsent : s'.sent = g'.sent.map s.message)
    (hcollected : ∀ p, g'.sent.count p + g'.toFire.count p ≤ g'.collected.count p) :
    Tallied s' g' := by
  have hmap : ∀ ps : List Nat, (∀ p ∈ ps, p < s.allocated) →
      ps.map s.message = ps.map s'.message :=
    fun ps hps => List.map_congr_left fun p hp => (h.message p (hps p hp)).symm
  exact {
    stored := by
      intro p hp
      apply Nat.lt_of_lt_of_le _ h.allocated
      rcases h.stored p hp with hp | ⟨t, ht⟩
      · exact hs.stored p hp
      · exact hs.adders t p ht
    adders := by
      intro t p ht
      rcases h.adders t p ht with ht | ⟨-, hp⟩
      · exact Nat.lt_of_lt_of_le (hs.adders t p ht) h.allocated
      · exact hp
    below := fun p hp => Nat.lt_of_lt_of_le (hbelow p hp) h.allocated
    toFire := htoFire.trans (hmap _ fun p hp => hbelow p (List.mem_append_left _ hp))
    sent := hsent.trans (hmap _ fun p hp => hbelow p (List.mem_append_right _ hp))
    collected := hcollected }

/-- The first message of `toFire` is sent, or dropped. -/
lemma Tallied.of_send {s s' : TimerManager Tid} {g : Tally} {x : ActorId × ActorMessage}
    (hs : Tallied s g) (h : Keeps s s') (hpc : s.loop.toFire = x :: s'.loop.toFire)
    (hsent : s'.sent = if s.running then s.sent ++ [x] else s.sent) :
    Tallied s' { g with
      toFire := g.toFire.tail
      sent := if s.running then g.sent ++ g.toFire.take 1 else g.sent } := by
  obtain ⟨p, ps, hg, rfl, hrest⟩ : ∃ p ps, g.toFire = p :: ps ∧ s.message p = x ∧
      ps.map s.message = s'.loop.toFire := List.map_eq_cons_iff.mp (hs.toFire.symm.trans hpc)
  have hbelow := hs.below
  have hcollected := hs.collected
  rw [hg] at hbelow hcollected
  rw [hg, List.tail_cons, List.take_one, List.head?_cons, Option.toList_some]
  refine hs.of_keeps h (fun q hq => hbelow q ?_) hrest.symm ?_ fun q => ?_
  · split_ifs at hq
    · simpa [or_left_comm, or_assoc, or_comm] using hq
    · exact List.mem_cons_of_mem _ hq
  · rw [hsent, hs.sent]
    split_ifs
    · rw [List.map_append, List.map_singleton]
    · rfl
  · have hq := hcollected q
    rw [List.count_cons] at hq
    split_ifs
    · simp only [List.count_append, List.count_singleton]
      omega
    · exact Nat.le_trans (Nat.add_le_add_left (Nat.le_add_right _ _) _) hq

/-! ### Timers that are marked -/

/-- The timer `p` is not on its way into the heap, and if it is there it is marked. -/
structure Finished (s : TimerManager Tid) (p : Nat) : Prop where
  allocated : p < s.allocated
  adders : ∀ t, s.adders t ≠ .insert p
  marked : p ∈ s.stored → (s.entries p).cancelled = true

lemma Finished.of_keeps {s s' : TimerManager Tid} {p : Nat} (hs : Finished s p)
    (h : Keeps s s') : Finished s' p where
  allocated := Nat.lt_of_lt_of_le hs.allocated h.allocated
  adders t ht := by
    rcases h.adders t p ht with ht | ⟨rfl, -⟩
    · exact hs.adders t ht
    · exact Nat.lt_irrefl _ hs.allocated
  marked hp := by
    rcases h.stored p hp with hp | ⟨t, ht⟩
    · exact h.cancelled p hs.allocated (hs.marked hp)
    · exact absurd ht (hs.adders t)

/-- `CancelTimer` finishes a timer that was inserted. -/
lemma Kept.finished {s : TimerManager Tid} (h : Kept s) {p : Nat} (hp : p < s.allocated)
    (hadders : ∀ t, s.adders t ≠ .insert p) :
    Finished (s.cancelTimer (s.entries p).timerId) p := by
  obtain ⟨-, hheap, hkeep, hloop, hallocated⟩ := cancelTimer_keeps s (s.entries p).timerId
  refine ⟨hallocated ▸ hp, fun t => hkeep ▸ hadders t, fun hmem => ?_⟩
  rw [stored, hloop, hheap] at hmem
  exact h.marked_cancelTimer hmem

/-! ### The steps -/

variable [DecidableEq Tid]

lemma keeps_addTimer (s : TimerManager Tid) (t : Tid) (a : ActorId) (d : Int) (msg : ActorMessage)
    (i : Int) : Keeps s (s.addTimer t a d msg i) where
  allocated := Nat.le_succ _
  message p hp := by rw [message, message, entries_addTimer hp]
  cancelled p hp h := by rwa [entries_addTimer hp]
  adders u p hu := by
    rcases adders_addTimer hu with ⟨-, rfl⟩ | ⟨-, hu⟩
    · exact .inr ⟨rfl, Nat.lt_succ_self _⟩
    · exact .inl hu
  stored p hp := .inl hp

lemma keeps_insert {s : TimerManager Tid} {t : Tid} {p : Nat} (hpc : s.adders t = .insert p)
    (hl : s.loop.locked = false) : Keeps s (s.insert t p) where
  allocated := Nat.le_refl _
  message _ _ := rfl
  cancelled _ _ hq := hq
  adders _ _ hu := .inl (adders_insert hu).2
  stored q hq := by
    rw [stored_insert hl] at hq
    rcases List.mem_cons.mp hq with rfl | hq
    · exact .inr ⟨t, hpc⟩
    · exact .inl (mem_stored_of_heap hq)

/-- No step takes a mark away or changes a message. -/
lemma Step.keeps {s s' : TimerManager Tid} {l : Action Tid} (h : Step s l s') : Keeps s s' := by
  cases h with
  | tick | stopExchange | stopAgain =>
    exact .frame rfl rfl (fun _ _ ht => ht) fun _ hp => hp
  | setTimeout t a d msg | setInterval t a d msg => exact keeps_addTimer s t a d msg _
  | insert t p hpc hl => exact keeps_insert hpc hl
  | notify t =>
    exact .frame rfl rfl (fun _ _ hu => adders_notify hu) fun p hp => s.stored_notify ▸ hp
  | notifyAll => exact .frame rfl rfl (fun _ _ ht => ht) fun p hp => s.stored_notify ▸ hp
  | cancel id => exact keeps_cancelTimer s id
  | collect p toFire hpc hp => exact keeps_collectTop hpc hp.1
  | rearm p toFire hpc =>
    exact {
      allocated := Nat.le_refl _
      message := by
        intro q _
        simp only [message, update_expire]
      cancelled := by
        intro q _ hc
        simpa only [update_expire] using hc
      adders := fun _ _ ht => .inl ht
      stored := fun q hq => .inl (stored_rearm hpc ▸ hq) }
  | join hpc hl =>
    refine .frame rfl rfl (fun _ _ ht => ht) fun p hp => ?_
    rw [stored_of_not_rearm (by simp [hl])] at hp
    cases hp
  | finish k => cases k <;> exact .of_loop (by simp [WaitKind.after])
  | send =>
    refine .frame rfl rfl (fun _ _ ht => ht) fun p hp => ?_
    rw [stored_of_not_rearm (by simp)] at hp
    exact mem_stored_of_heap hp
  | iterate | leave | lock | sawEmpty | readClock | notYet | due | waitEmpty | waitNext | block
  | wake | again | noneDue | noneLeft | allSent => exact .of_loop (by simp)

/-- A message is collected, or it is sent (or dropped, after `Stop`), or neither. -/
lemma Step.tally_cases {s s' : TimerManager Tid} {l : Action Tid} (h : Step s l s') (g : Tally) :
    (∃ p ∈ s.heap, (s.entries p).cancelled = false ∧
      s'.loop.toFire = s.loop.toFire ++ [s.message p] ∧ s'.sent = s.sent ∧
      tally g s l s' = { g with collected := g.collected ++ [p], toFire := g.toFire ++ [p] }) ∨
    (∃ x, s.loop.toFire = x :: s'.loop.toFire ∧
      s'.sent = (if s.running then s.sent ++ [x] else s.sent) ∧
      tally g s l s' = { g with
        toFire := g.toFire.tail
        sent := if s.running then g.sent ++ g.toFire.take 1 else g.sent }) ∨
    s'.loop.toFire = s.loop.toFire ∧ s'.sent = s.sent ∧ tally g s l s' = g := by
  cases h with
  | collect p toFire hpc hp =>
    by_cases hc : (s.entries p).cancelled
    · have hnext : s.collectTop p toFire =
          { s with heap := s.heap.erase p, loop := .collect toFire } := by
        simp [collectTop, hc]
      refine .inr (.inr ?_)
      rw [hnext, hpc]
      exact ⟨rfl, rfl, by simp [tally, hpc]⟩
    · have htoFire : (s.collectTop p toFire).loop.toFire = toFire ++ [s.message p] := by
        by_cases hi : 0 < (s.entries p).intervalMs <;> simp [collectTop, hc, hi, message]
      have hsent : (s.collectTop p toFire).sent = s.sent := by
        by_cases hi : 0 < (s.entries p).intervalMs <;> simp [collectTop, hc, hi]
      refine .inl ⟨p, hp.1, by simpa using hc, ?_, hsent, ?_⟩
      · rw [htoFire, hpc, TimerPc.toFire_collect]
      · simp [tally, hpc, htoFire]
  | send x toFire hpc =>
    refine .inr (.inl ⟨x, by rw [hpc]; rfl, rfl, ?_⟩)
    simp only [tally, hpc]
  | notify | notifyAll => exact .inr (.inr ⟨TimerPc.toFire_notify _, rfl, rfl⟩)
  | cancel id =>
    obtain ⟨-, -, -, hloop, -⟩ := cancelTimer_keeps s id
    refine .inr (.inr ⟨by rw [hloop], ?_, rfl⟩)
    rw [cancelTimer]
    split <;> rfl
  | finish k deadline timedOut hpc =>
    refine .inr (.inr ⟨?_, rfl, by simp only [tally, hpc]⟩)
    rw [hpc]
    cases k <;> rfl
  | leave hpc =>
    refine .inr (.inr ?_)
    rcases hpc with hpc | hpc
    all_goals
      rw [hpc]
      exact ⟨rfl, rfl, by simp only [tally, hpc]⟩
  | notYet _ _ hpc | due _ _ hpc | noneDue _ _ hpc =>
    refine .inr (.inr ?_)
    rw [hpc]
    exact ⟨rfl, rfl, by simp [tally, hpc, TimerPc.toFire]⟩
  | wake _ _ _ _ hpc =>
    refine .inr (.inr ?_)
    rw [hpc]
    exact ⟨rfl, rfl, rfl⟩
  | iterate hpc | lock hpc | sawEmpty hpc | readClock hpc | waitEmpty hpc | again hpc
  | allSent hpc | waitNext _ _ hpc | block _ _ hpc | noneLeft _ hpc | rearm _ _ hpc =>
    refine .inr (.inr ?_)
    rw [hpc]
    exact ⟨rfl, rfl, by simp only [tally, hpc]⟩
  | tick | setTimeout | setInterval | insert | stopExchange | stopAgain | join =>
    exact .inr (.inr ⟨rfl, rfl, rfl⟩)

lemma Step.tallied {s s' : TimerManager Tid} {l : Action Tid} {g : Tally} (h : Step s l s')
    (hs : Tallied s g) : Tallied s' (tally g s l s') := by
  rcases h.tally_cases g with ⟨p, hp, -, hpc, hsame, htally⟩ | ⟨x, hpc, hnew, htally⟩ |
    ⟨hpc, hsame, htally⟩
  · rw [htally]
    refine hs.of_keeps h.keeps (fun q hq => ?_) ?_ (hsame.trans hs.sent) fun q => ?_
    · simp only [List.mem_append, List.mem_singleton] at hq
      rcases hq with (hq | rfl) | hq
      · exact hs.below q (List.mem_append_left _ hq)
      · exact hs.stored q (mem_stored_of_heap hp)
      · exact hs.below q (List.mem_append_right _ hq)
    · rw [hpc, hs.toFire, List.map_append, List.map_singleton]
    · have hq := hs.collected q
      simp only [List.count_append]
      omega
  · rw [htally]
    exact hs.of_send h.keeps hpc hnew
  · rw [htally]
    exact hs.of_keeps h.keeps hs.below (hpc.trans hs.toFire) (hsame.trans hs.sent) hs.collected

/-! ### After CancelTimer -/

lemma Step.eq_cancelTimer {s s' : TimerManager Tid} {id : TimerId} (h : Step s (.cancel id) s') :
    s' = s.cancelTimer id := by
  cases h
  rfl

/-- `g'` was written down after `g`, and the timer `p` was not collected in between: what was sent
for it waited in `toFire`. -/
structure NoneCollected (p : Nat) (g g' : Tally) : Prop where
  collected : g'.collected.count p = g.collected.count p
  sent : g'.sent.count p + g'.toFire.count p ≤ g.sent.count p + g.toFire.count p

lemma Step.noneCollected {s s' : TimerManager Tid} {l : Action Tid} {p : Nat} {g g' : Tally}
    (h : Step s l s') (hs : Finished s p) (hg : NoneCollected p g g') :
    NoneCollected p g (tally g' s l s') := by
  rcases h.tally_cases g' with ⟨q, hq, hc, -, -, htally⟩ | ⟨x, -, -, htally⟩ | ⟨-, -, htally⟩
  · have hne : q ≠ p := by
      rintro rfl
      rw [hs.marked (mem_stored_of_heap hq)] at hc
      cases hc
    have hzero : [q].count p = 0 := List.count_eq_zero.mpr (by simpa using hne.symm)
    rw [htally]
    constructor
    · rw [List.count_append, hzero]
      exact hg.collected
    · rw [List.count_append, hzero]
      exact hg.sent
  · have hsplit : (g'.toFire.take 1).count p + g'.toFire.tail.count p = g'.toFire.count p := by
      rw [← List.drop_one, ← List.count_append, List.take_append_drop]
    have hsent := hg.sent
    rw [htally]
    refine ⟨hg.collected, ?_⟩
    dsimp only
    split_ifs
    · rw [List.count_append]
      omega
    · omega
  · rw [htally]
    exact hg

/-- Every timer that is set has an id that no other timer has. -/
def SetsOnce (x : TimerManager Tid × Tally) (l : Action Tid) : Prop :=
  IntInterval l ∧ x.1.IdsLeft l

instance (x : TimerManager Tid × Tally) (l : Action Tid) : Decidable (SetsOnce x l) :=
  inferInstanceAs (Decidable (_ ∧ _))

lemma kept_and_tallied {x : TimerManager Tid × Tally}
    (h : ((machine Tid).observed {} tally).Reach SetsOnce x) : Kept x.1 ∧ Tallied x.1 x.2 := by
  apply h.invariant (P := fun x : TimerManager Tid × Tally => Kept x.1 ∧ Tallied x.1 x.2)
  · rintro ⟨s, g⟩ ⟨⟨time, rfl⟩, rfl⟩
    exact ⟨kept_start time, tallied_start time⟩
  · rintro x l x' - ⟨hkept, htallied⟩ ⟨hint, hleft⟩ hnext
    obtain ⟨hs, hrecord⟩ := Machine.next_of_observed hnext
    rw [hrecord]
    exact ⟨(Step.of_next hs).kept hkept hint hleft, (Step.of_next hs).tallied htallied⟩

/-- After `CancelTimer` the timer is not collected any more, by any run: what is sent for it waited
in `toFire` before. -/
theorem cancelled_sends {x x₁ x₂ : TimerManager Tid × Tally} {p : Nat} {ls : List (Action Tid)}
    (hx : ((machine Tid).observed {} tally).Reach SetsOnce x) (hp : p < x.1.allocated)
    (hinserted : ∀ t, x.1.adders t ≠ .insert p)
    (hcancel : ((machine Tid).observed {} tally).next x (.cancel (x.1.entries p).timerId) =
      some x₁)
    (hrun : ((machine Tid).observed {} tally).run x₁ ls = some x₂) :
    NoneCollected p x.2 x₂.2 ∧ Tallied x.1 x.2 ∧ Tallied x₂.1 x₂.2 := by
  obtain ⟨hkept, htallied⟩ := kept_and_tallied hx
  obtain ⟨hs, hrecord⟩ := Machine.next_of_observed hcancel
  have hnext := (Step.of_next hs).eq_cancelTimer
  have hfirst : Finished x₁.1 p ∧ NoneCollected p x.2 x₁.2 ∧ Tallied x₁.1 x₁.2 := by
    rw [hrecord]
    refine ⟨?_, ⟨rfl, Nat.le_refl _⟩, (Step.of_next hs).tallied htallied⟩
    rw [hnext]
    exact hkept.finished hp hinserted
  have hstep : ∀ (y : TimerManager Tid × Tally) l y',
      Finished y.1 p ∧ NoneCollected p x.2 y.2 ∧ Tallied y.1 y.2 →
      ((machine Tid).observed {} tally).next y l = some y' →
      Finished y'.1 p ∧ NoneCollected p x.2 y'.2 ∧ Tallied y'.1 y'.2 := by
    rintro y l y' ⟨hfinished, hnone, hy⟩ hnext
    obtain ⟨hs, hrecord⟩ := Machine.next_of_observed hnext
    have hstep := Step.of_next hs
    rw [hrecord]
    exact ⟨hfinished.of_keeps hstep.keeps, hstep.noneCollected hfinished hnone, hstep.tallied hy⟩
  obtain ⟨-, hnone, htallied₂⟩ := Machine.run_invariant hstep hfirst hrun
  exact ⟨hnone, htallied, htallied₂⟩

/-- A periodic timer and a timer for one time are collected. -/
def bothCollected : List (Action Unit) :=
  [.setInterval () 1 2 {}, .insert (), .notify (), .setTimeout () 2 1 {}, .insert (), .notify (),
    .tick 7, .loop, .loop, .loop, .top 1, .top 1, .top 0, .loop, .top 0]

/-- The messages are sent, and a later pass finds the periodic timer due. -/
def sentAndDueAgain : List (Action Unit) :=
  [.loop, .loop, .loop, .tick 9, .loop, .loop, .loop, .top 0, .top 0, .loop]

theorem cancelled_sends_bothCollected :
    let m := (machine Unit).observed {} tally
    let x := m.replayWith SetsOnce (start Unit 5, {}) bothCollected
    let x₁ := m.replay x [.cancel 1]
    let x₂ := m.replay x₁ sentAndDueAgain
    x.2.toFire = [1, 0] ∧ x₂.2 = { collected := [1, 0], toFire := [], sent := [1, 0] } ∧
      NoneCollected 0 x.2 x₂.2 ∧ Tallied x.1 x.2 ∧ Tallied x₂.1 x₂.2 := by
  intro m x x₁ x₂
  have hstart : m.Reach SetsOnce (start Unit 5, {}) := .start ⟨⟨5, rfl⟩, rfl⟩
  have hinserted : ∀ t, x.1.adders t ≠ .insert 0 := by
    rintro ⟨⟩
    decide
  have hcancel : m.next x (.cancel (x.1.entries 0).timerId) = some x₁ := rfl
  have hrun : m.run x₁ sentAndDueAgain = some x₂ := rfl
  refine ⟨by decide, by decide, ?_⟩
  exact cancelled_sends (Machine.reach_replayWith hstart _) (by decide) hinserted hcancel hrun

/-- A timer that is due on top of the heap is collected by the pass that begins. -/
lemma run_collect {s : TimerManager Tid} {g : Tally} {p : Nat} (hloop : s.loop = .top)
    (hrunning : s.running = true) (hp : s.IsTop p) (hdue : s.expire p ≤ s.clock)
    (hc : (s.entries p).cancelled = false) :
    ∃ x', ((machine Tid).observed {} tally).run (s, g) [.loop, .loop, .loop, .top p, .top p] =
      some x' ∧ x'.2.collected = g.collected ++ [p] := by
  have hheap : s.heap.isEmpty = false := by
    cases hnil : s.heap with
    | nil =>
      have hmem := hp.1
      rw [hnil] at hmem
      cases hmem
    | cons => rfl
  have hlock : next s .loop = some { s with loop := .lock } := by
    simp only [next, loopNext, hloop, hrunning, if_true]
  have hexamine : next { s with loop := .lock } .loop = some { s with loop := .examine } := rfl
  have hcompare : next { s with loop := .examine } .loop =
      some { s with loop := .compare s.clock } := by
    simp [next, loopNext, hheap]
  have hpass : next { s with loop := .compare s.clock } (.top p) =
      some { s with loop := .collect [] } := by
    have htop : ({ s with loop := .compare s.clock } : TimerManager Tid).IsTop p := hp
    rw [next, if_pos htop]
    exact if_neg (UInt64.not_lt.mpr hdue)
  have hcollect : next { s with loop := .collect [] } (.top p) =
      some (({ s with loop := .collect [] } : TimerManager Tid).collectTop p []) := by
    have htop : ({ s with loop := .collect [] } : TimerManager Tid).IsTop p := hp
    rw [next, if_pos htop]
    exact if_pos hdue
  have htally : tally g s .loop { s with loop := .lock } = g := by
    simp only [tally, hloop]
  rw [Machine.observed_run hlock, Machine.observed_run hexamine, Machine.observed_run hcompare,
    Machine.observed_run hpass, Machine.observed_run hcollect, htally]
  refine ⟨_, rfl, ?_⟩
  by_cases hi : 0 < (s.entries p).intervalMs <;> simp [tally, collectTop, hc, hi, TimerPc.toFire]

/-- After 2^64 timers `CancelTimer` marks the timer that has the id of the first one, and the first
one is collected. -/
lemma exists_collected_of_sameId :
    ∃ (x x₁ x₂ : TimerManager Unit × Tally) (ls : List (Action Unit)),
    ((machine Unit).observed {} tally).Reach (fun _ l => IntInterval l) x ∧ 0 < x.1.allocated ∧
      (∀ t, x.1.adders t ≠ .insert 0) ∧
      ((machine Unit).observed {} tally).next x (.cancel (x.1.entries 0).timerId) = some x₁ ∧
      ((machine Unit).observed {} tally).run x₁ ls = some x₂ ∧
      x₂.2.collected.count 0 ≠ x.2.collected.count 0 := by
  obtain ⟨s, hreach, hs, hrunning, hexpire, hfirstId, -, hold, hfirst⟩ := exists_sameId
  have hset := reach_setOne (hreach.mono fun _ _ hok => hok.1.intInterval) hs trivial trivial
  obtain ⟨g, hg⟩ : ∃ g, ((machine Unit).observed {} tally).Reach (fun _ l => IntInterval l)
      (setOne s, g) := hset.exists_observed
  have hid : ((setOne s).entries 0).timerId = 1 := by rw [hold, hfirstId]
  have hcancel : (setOne s).next (.cancel ((setOne s).entries 0).timerId) =
      some ((setOne s).cancelTimer 1) := by
    rw [hid]
    simp [next, hs.unlocked]
  obtain ⟨-, hheap, -, hloop, -⟩ := cancelTimer_keeps (setOne s) 1
  have hrunning : ((setOne s).cancelTimer 1).running = true := by
    rw [cancelTimer]
    split <;> exact hrunning
  have hzero : ((setOne s).cancelTimer 1).expire 0 = 0 := by
    rw [expire, hfirst]
    exact hexpire
  have hzeroLe : ∀ c : UInt64, ((setOne s).cancelTimer 1).expire 0 ≤ c := by
    intro c
    rw [hzero]
    exact UInt64.le_iff_toNat_le.mpr (Nat.zero_le _)
  obtain ⟨hmem, hc⟩ := hs.heap 0 (by decide)
  have htop : ((setOne s).cancelTimer 1).IsTop 0 := by
    refine ⟨?_, fun q _ => hzeroLe _⟩
    rw [hheap]
    exact List.mem_cons_of_mem _ hmem
  obtain ⟨x₂, hrun, hcollected⟩ := run_collect (g := g) (hloop.trans hs.loop) hrunning htop
    (hzeroLe _) (hfirst ▸ hc)
  refine ⟨_, _, x₂, _, hg, ?_, ?_, Machine.observed_next hcancel, hrun, ?_⟩
  · exact Nat.succ_pos _
  · rintro ⟨⟩
    simp [setOne, TimerManager.insert]
  · rw [hcollected, List.count_append]
    simp

/-- The message of a timer is collected, the timer is cancelled, and the message is sent. And once
an id was given twice, `CancelTimer` does not keep the older timer from being collected. -/
theorem sent_after_cancel :
    (¬ ∀ (x x₁ x₂ : TimerManager Unit × Tally) (p : Nat) (ls : List (Action Unit)),
      ((machine Unit).observed {} tally).Reach SetsOnce x →
      p < x.1.allocated → (∀ t, x.1.adders t ≠ .insert p) →
      ((machine Unit).observed {} tally).next x (.cancel (x.1.entries p).timerId) = some x₁ →
      ((machine Unit).observed {} tally).run x₁ ls = some x₂ →
      x₂.2.sent.count p = x₁.2.sent.count p) ∧
    ¬ ∀ (x x₁ x₂ : TimerManager Unit × Tally) (p : Nat) (ls : List (Action Unit)),
      ((machine Unit).observed {} tally).Reach (fun _ l => IntInterval l) x →
      p < x.1.allocated → (∀ t, x.1.adders t ≠ .insert p) →
      ((machine Unit).observed {} tally).next x (.cancel (x.1.entries p).timerId) = some x₁ →
      ((machine Unit).observed {} tally).run x₁ ls = some x₂ → NoneCollected p x.2 x₂.2 := by
  constructor
  · intro h
    let m := (machine Unit).observed {} tally
    let x := m.replayWith SetsOnce (start Unit 5, {}) [.setTimeout () 1 0 {}, .insert (),
      .notify (), .loop, .loop, .loop, .top 0, .top 0, .loop]
    have hstart : m.Reach SetsOnce (start Unit 5, {}) := .start ⟨⟨5, rfl⟩, rfl⟩
    have hinserted : ∀ t, x.1.adders t ≠ .insert 0 := by
      rintro ⟨⟩
      decide
    have hcount := h x (m.replay x [.cancel 1]) (m.replay x [.cancel 1, .loop]) 0 [.loop]
      (Machine.reach_replayWith hstart _) (by decide) hinserted rfl rfl
    revert hcount
    decide
  · intro h
    obtain ⟨x, x₁, x₂, ls, hx, hp, hinserted, hcancel, hrun, hne⟩ := exists_collected_of_sameId
    exact hne (h x x₁ x₂ 0 ls hx hp hinserted hcancel hrun).collected

end Balabala.TimerManager
