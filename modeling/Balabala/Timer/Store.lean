import Mathlib.Data.List.Nodup
import Balabala.Timer.Step
import Balabala.Timer.Deadline

/-!
# The store of the timers

The timers are in `heap_`, ordered by expiry, and in `timerMap_`, by id. `CancelTimer` takes a
timer out of the map and leaves it in the heap, marked. A pass of the timer thread takes the timers
that are due out of the heap and puts the periodic ones back, with a new expiry.

The ids of the timers are those of the map as long as no id is given twice, which takes 2^64
timers.
-/

namespace Balabala.TimerManager

open Foundation

variable {Tid : Type*}

/-- The timers in the heap, and the one that is about to be put back. -/
def stored (s : TimerManager Tid) : List Nat :=
  match s.loop with
  | .rearm p _ => p :: s.heap
  | _ => s.heap

lemma stored_of_not_rearm {s : TimerManager Tid} (h : ∀ p toFire, s.loop ≠ .rearm p toFire) :
    s.stored = s.heap := by
  rw [stored]
  split
  · exact absurd ‹_› (h _ _)
  · rfl

lemma stored_rearm {s : TimerManager Tid} {p : Nat} {toFire : List (ActorId × ActorMessage)}
    (h : s.loop = .rearm p toFire) : s.stored = p :: s.heap := by
  rw [stored, h]

/-- A timer is put back with the mutex held. -/
lemma not_rearm_of_unlocked {s : TimerManager Tid} (h : s.loop.locked = false) :
    ∀ p toFire, s.loop ≠ .rearm p toFire := by
  intro p toFire hp
  rw [hp] at h
  cases h

lemma mem_stored_of_heap {s : TimerManager Tid} {p : Nat} (h : p ∈ s.heap) : p ∈ s.stored := by
  rw [stored]
  split
  · exact List.mem_cons_of_mem _ h
  · exact h

/-- What `CancelTimer` leaves as it is. -/
lemma cancelTimer_keeps (s : TimerManager Tid) (timerId : TimerId) :
    (∀ q, ((s.cancelTimer timerId).entries q).expireTimeMs = (s.entries q).expireTimeMs ∧
      ((s.cancelTimer timerId).entries q).intervalMs = (s.entries q).intervalMs ∧
      ((s.entries q).cancelled = true → ((s.cancelTimer timerId).entries q).cancelled = true)) ∧
    (s.cancelTimer timerId).heap = s.heap ∧ (s.cancelTimer timerId).adders = s.adders ∧
    (s.cancelTimer timerId).loop = s.loop ∧
    (s.cancelTimer timerId).allocated = s.allocated := by
  rw [cancelTimer]
  split
  · exact ⟨fun q => ⟨rfl, rfl, id⟩, rfl, rfl, rfl, rfl⟩
  · rename_i p _
    refine ⟨fun q => ?_, rfl, rfl, rfl, rfl⟩
    by_cases hqp : q = p
    · subst hqp
      simp
    · simp [hqp]

/-- What holds of the two structures of the store. -/
structure Kept (s : TimerManager Tid) : Prop where
  allocated_le : s.allocated ≤ 2 ^ 64
  nextId : s.nextTimerId = UInt64.ofNat (s.allocated + 1)
  timerId : ∀ p < s.allocated, (s.entries p).timerId = UInt64.ofNat (p + 1)
  interval : ∀ p < s.allocated, 0 ≤ (s.entries p).intervalMs ∧ (s.entries p).intervalMs < 2 ^ 31
  below : ∀ p ∈ s.stored, p < s.allocated
  nodup : s.stored.Nodup
  /-- a timer that is about to be inserted is not there yet -/
  pending : ∀ t p, s.adders t = .insert p →
    p < s.allocated ∧ p ∉ s.stored ∧ (s.entries p).cancelled = false
  unique : ∀ t u p, s.adders t = .insert p → s.adders u = .insert p → t = u
  map : ∀ id p, s.timerMap id = some p ↔
    p ∈ s.stored ∧ (s.entries p).timerId = id ∧ (s.entries p).cancelled = false
  rearming : ∀ p toFire, s.loop = .rearm p toFire →
    (s.entries p).cancelled = false ∧ 0 < (s.entries p).intervalMs

namespace Kept

/-- No two timers have one id. -/
lemma id_inj {s : TimerManager Tid} (h : Kept s) {p q : Nat} (hp : p < s.allocated)
    (hq : q < s.allocated) (heq : (s.entries p).timerId = (s.entries q).timerId) : p = q := by
  have hle := h.allocated_le
  rw [h.timerId p hp, h.timerId q hq] at heq
  have hmod := congrArg UInt64.toNat heq
  simp only [UInt64.toNat_ofNat'] at hmod
  omega

/-- A step that brings no timer into the store; what it does to the map is shown for each. -/
lemma update {s s' : TimerManager Tid} (h : Kept s) (hstored : ∀ p ∈ s'.stored, p ∈ s.stored)
    (hnodup : s'.stored.Nodup)
    (hentries : ∀ p, (s'.entries p).timerId = (s.entries p).timerId ∧
      (s'.entries p).intervalMs = (s.entries p).intervalMs ∧
      (p ∉ s.stored → (s'.entries p).cancelled = (s.entries p).cancelled))
    (hallocated : s'.allocated = s.allocated) (hnext : s'.nextTimerId = s.nextTimerId)
    (hadders : ∀ t p, s'.adders t = .insert p → s.adders t = .insert p)
    (hmap : ∀ id p, s'.timerMap id = some p ↔
      p ∈ s'.stored ∧ (s.entries p).timerId = id ∧ (s'.entries p).cancelled = false)
    (hrearming : ∀ p toFire, s'.loop = .rearm p toFire →
      (s'.entries p).cancelled = false ∧ 0 < (s.entries p).intervalMs) : Kept s' where
  allocated_le := hallocated ▸ h.allocated_le
  nextId := by rw [hnext, hallocated, h.nextId]
  timerId p hp := by rw [(hentries p).1, h.timerId p (hallocated ▸ hp)]
  interval p hp := by
    rw [(hentries p).2.1]
    exact h.interval p (hallocated ▸ hp)
  below p hp := hallocated ▸ h.below p (hstored p hp)
  nodup := hnodup
  pending t p ht := by
    obtain ⟨hlt, hnot, hc⟩ := h.pending t p (hadders t p ht)
    exact ⟨hallocated ▸ hlt, fun hp => hnot (hstored p hp), ((hentries p).2.2 hnot).trans hc⟩
  unique t u p ht hu := h.unique t u p (hadders t p ht) (hadders u p hu)
  map id p := by rw [hmap, (hentries p).1]
  rearming p toFire hp := by
    rw [(hentries p).2.1]
    exact hrearming p toFire hp

/-- A step that leaves the timers where they are. -/
lemma frame {s s' : TimerManager Tid} (h : Kept s) (hstored : s'.stored = s.stored)
    (hentries : s'.entries = s.entries) (hmap : s'.timerMap = s.timerMap)
    (hallocated : s'.allocated = s.allocated) (hnext : s'.nextTimerId = s.nextTimerId)
    (hadders : ∀ t p, s'.adders t = .insert p → s.adders t = .insert p)
    (hloop : ∀ p toFire, s'.loop = .rearm p toFire → s.loop = .rearm p toFire) : Kept s' := by
  apply h.update (fun p hp => hstored ▸ hp) (hstored ▸ h.nodup) _ hallocated hnext hadders
  · intro id p
    rw [hmap, hstored, hentries, h.map]
  · intro p toFire hp
    rw [hentries]
    exact h.rearming p toFire (hloop p toFire hp)
  · intro p
    rw [hentries]
    exact ⟨rfl, rfl, fun _ => rfl⟩

/-- The timer thread moves on, with no timer in its hands. -/
lemma of_loop {s : TimerManager Tid} (h : Kept s) (hs : ∀ p toFire, s.loop ≠ .rearm p toFire)
    {pc : TimerPc} (hpc : ∀ p toFire, pc ≠ .rearm p toFire) : Kept { s with loop := pc } :=
  h.frame ((stored_of_not_rearm hpc).trans (stored_of_not_rearm hs).symm) rfl rfl rfl rfl
    (fun _ _ => id) fun p toFire hp => absurd hp (hpc p toFire)

/-- A timer that is cancelled is marked and not in the map. -/
lemma cancelTimer {s : TimerManager Tid} (h : Kept s) (timerId : TimerId)
    (hloop : ∀ q toFire, s.loop ≠ .rearm q toFire) : Kept (s.cancelTimer timerId) := by
  rw [TimerManager.cancelTimer]
  split
  · exact h
  · rename_i p hp
    obtain ⟨hmem, rfl, -⟩ := (h.map timerId p).mp hp
    refine h.update (fun q hq => hq) h.nodup (fun q => ?_) rfl rfl (fun _ _ hq => hq)
      (fun id q => ?_) fun q toFire hq => absurd hq (hloop q toFire)
    · by_cases hqp : q = p
      · subst hqp
        simp [hmem]
      · simp [hqp]
    · show Function.update s.timerMap (s.entries p).timerId none id = some q ↔ q ∈ s.stored ∧
        (s.entries q).timerId = id ∧ (Function.update s.entries p _ q).cancelled = false
      by_cases hid : id = (s.entries p).timerId
      · subst hid
        rw [Function.update_self]
        constructor
        · intro hf
          cases hf
        · rintro ⟨hq, hqid, hc⟩
          obtain rfl : q = p := h.id_inj (h.below q hq) (h.below p hmem) hqid
          simp at hc
      · have hqp : q ∈ s.stored ∧ (s.entries q).timerId = id → q ≠ p := by
          rintro ⟨-, hq⟩ rfl
          exact hid hq.symm
        rw [Function.update_of_ne hid, h.map]
        constructor <;> rintro ⟨hq, hqid, hc⟩
        · exact ⟨hq, hqid, by rwa [Function.update_of_ne (hqp ⟨hq, hqid⟩)]⟩
        · exact ⟨hq, hqid, by rwa [Function.update_of_ne (hqp ⟨hq, hqid⟩)] at hc⟩

/-- A timer of the store is marked once `CancelTimer` was called with its id. -/
lemma marked_cancelTimer {s : TimerManager Tid} (h : Kept s) {p : Nat} (hp : p ∈ s.stored) :
    ((s.cancelTimer (s.entries p).timerId).entries p).cancelled = true := by
  rw [TimerManager.cancelTimer]
  split
  · rename_i hnone
    by_contra hc
    have hsome := (h.map (s.entries p).timerId p).mpr ⟨hp, rfl, by simpa using hc⟩
    rw [hnone] at hsome
    cases hsome
  · rename_i q hq
    obtain ⟨hmem, hid, -⟩ := (h.map _ q).mp hq
    obtain rfl : q = p := h.id_inj (h.below q hmem) (h.below p hp) hid
    simp

/-- A timer that is collected leaves the store, unless it is periodic. -/
lemma collectTop {s : TimerManager Tid} (h : Kept s) {toFire : List (ActorId × ActorMessage)}
    {p : Nat} (hpc : s.loop = .collect toFire) (hp : p ∈ s.heap) :
    Kept (s.collectTop p toFire) := by
  have hstored : s.stored = s.heap := by
    apply stored_of_not_rearm
    simp [hpc]
  have hnodup : s.heap.Nodup := hstored ▸ h.nodup
  have hmem : ∀ q, q ∈ s.heap.erase p ↔ q ≠ p ∧ q ∈ s.heap := fun q => hnodup.mem_erase_iff
  have hmap : ∀ id q, s.timerMap id = some q ↔
      q ∈ s.heap ∧ (s.entries q).timerId = id ∧ (s.entries q).cancelled = false := hstored ▸ h.map
  have hentries : ∀ q, (s.entries q).timerId = (s.entries q).timerId ∧
      (s.entries q).intervalMs = (s.entries q).intervalMs ∧
      (q ∉ s.stored → (s.entries q).cancelled = (s.entries q).cancelled) :=
    fun q => ⟨rfl, rfl, fun _ => rfl⟩
  rw [TimerManager.collectTop]
  dsimp only
  split_ifs with hc hi
  · refine h.update (fun q hq => ?_) (hnodup.erase p) hentries rfl rfl (fun _ _ hq => hq)
      (fun id q => ?_) (by simp)
    · rw [hstored]
      exact List.mem_of_mem_erase hq
    · show s.timerMap id = some q ↔ q ∈ s.heap.erase p ∧ _
      rw [hmap, hmem]
      constructor
      · rintro ⟨hq, hid, hqc⟩
        have hne : q ≠ p := by
          rintro rfl
          rw [hc] at hqc
          cases hqc
        exact ⟨⟨hne, hq⟩, hid, hqc⟩
      · rintro ⟨⟨-, hq⟩, hrest⟩
        exact ⟨hq, hrest⟩
  · have hperm : (p :: s.heap.erase p).Perm s.heap := (List.perm_cons_erase hp).symm
    refine h.update (fun q hq => ?_) (hperm.nodup_iff.mpr hnodup) hentries rfl rfl
      (fun _ _ hq => hq) (fun id q => ?_) fun q _ hq => ?_
    · rw [hstored]
      exact hperm.mem_iff.mp hq
    · show s.timerMap id = some q ↔ q ∈ p :: s.heap.erase p ∧ _
      rw [hmap, hperm.mem_iff]
    · cases hq
      exact ⟨by simpa using hc, hi⟩
  · refine h.update (fun q hq => ?_) (hnodup.erase p) hentries rfl rfl (fun _ _ hq => hq)
      (fun id q => ?_) (by simp)
    · rw [hstored]
      exact List.mem_of_mem_erase hq
    · show Function.update s.timerMap (s.entries p).timerId none id = some q ↔
        q ∈ s.heap.erase p ∧ _
      rw [hmem]
      by_cases hid : id = (s.entries p).timerId
      · subst hid
        rw [Function.update_self]
        constructor
        · intro hf
          cases hf
        · rintro ⟨⟨hne, hq⟩, hqid, -⟩
          exact absurd (h.id_inj (h.below q (hstored ▸ hq)) (h.below p (hstored ▸ hp)) hqid) hne
      · rw [Function.update_of_ne hid, hmap]
        constructor
        · rintro ⟨hq, hqid, hqc⟩
          have hne : q ≠ p := by
            rintro rfl
            exact hid hqid.symm
          exact ⟨⟨hne, hq⟩, hqid, hqc⟩
        · rintro ⟨⟨-, hq⟩, hrest⟩
          exact ⟨hq, hrest⟩

end Kept

lemma kept_start (time : UInt64) : Kept (start Tid time) where
  allocated_le := Nat.zero_le _
  nextId := rfl
  timerId p hp := absurd hp (Nat.not_lt_zero p)
  interval p hp := absurd hp (Nat.not_lt_zero p)
  below := by simp [stored, start]
  nodup := by simp [stored, start]
  pending := by simp [start]
  unique := by simp [start]
  map := by simp [stored, start]
  rearming := by simp [start]

lemma stored_notify (s : TimerManager Tid) : ({ s with loop := s.loop.notify }).stored =
    s.stored := by
  cases hpc : s.loop <;> simp [stored, TimerPc.notify, hpc]

/-! ### The bounds of the types -/

/-- `NowMs` converts a signed 64-bit number of nanoseconds. -/
def maxNowMs : Nat := (2 ^ 63 - 1) / 10 ^ 6

/-- The delays are of type `int`, and the clock is a signed number of nanoseconds. -/
def InDomain (s : TimerManager Tid) (l : Action Tid) : Prop :=
  s.clock.toNat ≤ maxNowMs ∧
    match l with
    | .setTimeout _ _ delayMs _ => 0 ≤ delayMs ∧ delayMs < 2 ^ 31
    | .setInterval _ _ intervalMs _ => intervalMs < 2 ^ 31
    | _ => True

/-- The intervals are of type `int`. -/
def IntInterval : Action Tid → Prop
  | .setInterval _ _ intervalMs _ => intervalMs < 2 ^ 31
  | _ => True

lemma InDomain.intInterval {s : TimerManager Tid} {l : Action Tid} (h : s.InDomain l) :
    IntInterval l := by
  cases l with
  | setInterval => exact h.2
  | _ => trivial

/-- A timer is set only as long as there is an id that no other timer has. -/
def IdsLeft (s : TimerManager Tid) : Action Tid → Prop
  | .setTimeout _ _ _ _ | .setInterval _ _ _ _ => s.allocated < 2 ^ 64
  | _ => True

def InRange (s : TimerManager Tid) (l : Action Tid) : Prop := s.InDomain l ∧ s.IdsLeft l

instance (s : TimerManager Tid) (l : Action Tid) : Decidable (s.InDomain l) :=
  match l with
  | .setTimeout _ _ _ _ => inferInstanceAs (Decidable (_ ∧ _ ∧ _))
  | .setInterval _ _ _ _ => inferInstanceAs (Decidable (_ ∧ _))
  | .tick _ | .insert _ | .notify _ | .cancel _ | .loop | .top _ | .wake _ | .stopExchange
  | .notifyAll | .join => inferInstanceAs (Decidable (_ ∧ True))

instance (l : Action Tid) : Decidable (IntInterval l) :=
  match l with
  | .setInterval _ _ _ _ => inferInstanceAs (Decidable (_ < _))
  | .tick _ | .setTimeout _ _ _ _ | .insert _ | .notify _ | .cancel _ | .loop | .top _ | .wake _
  | .stopExchange | .notifyAll | .join => inferInstanceAs (Decidable True)

instance (s : TimerManager Tid) (l : Action Tid) : Decidable (s.IdsLeft l) :=
  match l with
  | .setTimeout _ _ _ _ | .setInterval _ _ _ _ => inferInstanceAs (Decidable (_ < _))
  | .tick _ | .insert _ | .notify _ | .cancel _ | .loop | .top _ | .wake _ | .stopExchange
  | .notifyAll | .join => inferInstanceAs (Decidable True)

instance (s : TimerManager Tid) (l : Action Tid) : Decidable (s.InRange l) :=
  inferInstanceAs (Decidable (_ ∧ _))

/-- An expiry does not overflow. -/
lemma toNat_add_ofInt {c : UInt64} {d : Int} (hc : c.toNat ≤ maxNowMs) (h0 : 0 ≤ d)
    (hd : d < 2 ^ 31) : ((c + UInt64.ofInt d).toNat : Int) = c.toNat + d := by
  rw [maxNowMs] at hc
  obtain ⟨n, rfl⟩ := Int.eq_ofNat_of_zero_le h0
  have hn : (UInt64.ofInt (n : Int)).toNat = n := by
    rw [UInt64.ofInt, UInt64.toNat_ofNat']
    omega
  rw [UInt64.toNat_add, hn]
  omega

variable [DecidableEq Tid]

/-! ### The operations -/

section Adders

variable {s : TimerManager Tid} {t u : Tid} {a : ActorId} {d i : Int} {msg : ActorMessage} {p : Nat}

lemma entries_addTimer (hp : p < s.allocated) :
    (s.addTimer t a d msg i).entries p = s.entries p := by
  simp [addTimer, Nat.ne_of_lt hp]

lemma adders_addTimer (hu : (s.addTimer t a d msg i).adders u = .insert p) :
    u = t ∧ p = s.allocated ∨ u ≠ t ∧ s.adders u = .insert p := by
  by_cases hut : u = t
  · subst hut
    left
    simpa [addTimer, eq_comm] using hu
  · right
    exact ⟨hut, by simpa [addTimer, hut] using hu⟩

lemma stored_insert (h : s.loop.locked = false) : (s.insert t p).stored = p :: s.heap :=
  stored_of_not_rearm (not_rearm_of_unlocked h)

lemma adders_insert {q : Nat} (hu : (s.insert t p).adders u = .insert q) :
    u ≠ t ∧ s.adders u = .insert q := by
  by_cases hut : u = t
  · subst hut
    simp [TimerManager.insert] at hu
  · exact ⟨hut, by simpa [TimerManager.insert, hut] using hu⟩

lemma adders_notify (hu : Function.update s.adders t .idle u = .insert p) :
    s.adders u = .insert p := by
  by_cases hut : u = t
  · subst hut
    simp at hu
  · simpa [hut] using hu

end Adders

namespace Kept

variable {s : TimerManager Tid}

lemma addTimer (h : Kept s) (t : Tid) (a : ActorId) (d : Int) (msg : ActorMessage) {i : Int}
    (hi : 0 ≤ i ∧ i < 2 ^ 31) (hroom : s.allocated < 2 ^ 64) : Kept (s.addTimer t a d msg i) where
  allocated_le := hroom
  nextId := by
    simp only [TimerManager.addTimer, h.nextId]
    rw [UInt64.ofNat_add (s.allocated + 1) 1]
    rfl
  timerId p hp := by
    obtain hp | rfl := Nat.lt_succ_iff_lt_or_eq.mp hp
    · rw [entries_addTimer hp, h.timerId p hp]
    · simp [TimerManager.addTimer, h.nextId]
  interval p hp := by
    obtain hp | rfl := Nat.lt_succ_iff_lt_or_eq.mp hp
    · rw [entries_addTimer hp]
      exact h.interval p hp
    · simpa [TimerManager.addTimer] using hi
  below p hp := Nat.lt_succ_of_lt (h.below p hp)
  nodup := h.nodup
  pending u p hu := by
    rcases adders_addTimer hu with ⟨-, rfl⟩ | ⟨-, hu⟩
    · refine ⟨Nat.lt_succ_self _, fun hp => ?_, by simp [TimerManager.addTimer]⟩
      exact Nat.lt_irrefl _ (h.below _ hp)
    · obtain ⟨hlt, hnot, hc⟩ := h.pending u p hu
      exact ⟨Nat.lt_succ_of_lt hlt, hnot, by rwa [entries_addTimer hlt]⟩
  unique u v p hu hv := by
    rcases adders_addTimer hu with ⟨hut, hp⟩ | ⟨-, hu'⟩
    · rcases adders_addTimer hv with ⟨hvt, -⟩ | ⟨-, hv'⟩
      · rw [hut, hvt]
      · exact absurd (h.pending v p hv').1 (by omega)
    · rcases adders_addTimer hv with ⟨-, hp⟩ | ⟨-, hv'⟩
      · exact absurd (h.pending u p hu').1 (by omega)
      · exact h.unique u v p hu' hv'
  map id p := by
    show s.timerMap id = some p ↔ p ∈ s.stored ∧ _
    rw [h.map id p]
    constructor <;> rintro ⟨hmem, hid⟩
    · exact ⟨hmem, by rwa [entries_addTimer (h.below p hmem)]⟩
    · exact ⟨hmem, by rwa [entries_addTimer (h.below p hmem)] at hid⟩
  rearming p toFire hp := by
    have hp : s.loop = .rearm p toFire := hp
    have hmem : p ∈ s.stored := by
      rw [stored_rearm hp]
      exact List.mem_cons_self
    rw [entries_addTimer (h.below p hmem)]
    exact h.rearming p toFire hp

/-- A timer that is inserted is in the heap and in the map. -/
lemma insert (h : Kept s) {t : Tid} {p : Nat} (ht : s.adders t = .insert p)
    (hl : s.loop.locked = false) : Kept (s.insert t p) := by
  obtain ⟨hlt, hnot, hc⟩ := h.pending t p ht
  have hloop := not_rearm_of_unlocked hl
  have hheap : s.stored = s.heap := stored_of_not_rearm hloop
  have hstored : (s.insert t p).stored = p :: s.heap := stored_insert hl
  exact {
    allocated_le := h.allocated_le
    nextId := h.nextId
    timerId := h.timerId
    interval := h.interval
    below := by
      rw [hstored, ← hheap]
      exact List.forall_mem_cons.mpr ⟨hlt, h.below⟩
    nodup := by
      rw [hstored, ← hheap]
      exact List.nodup_cons.mpr ⟨hnot, h.nodup⟩
    pending := by
      intro u q hu
      obtain ⟨hut, hu⟩ := adders_insert hu
      obtain ⟨hqlt, hqnot, hqc⟩ := h.pending u q hu
      refine ⟨hqlt, ?_, hqc⟩
      rw [hstored, ← hheap]
      have hqp : q ≠ p := fun e => hut (h.unique u t p (e ▸ hu) ht)
      exact List.mem_cons.not.mpr (not_or.mpr ⟨hqp, hqnot⟩)
    unique := fun u v q hu hv => h.unique u v q (adders_insert hu).2 (adders_insert hv).2
    map := by
      intro id q
      rw [hstored, ← hheap, List.mem_cons]
      show Function.update s.timerMap (s.entries p).timerId (some p) id = some q ↔
        _ ∧ (s.entries q).timerId = id ∧ (s.entries q).cancelled = false
      by_cases hid : id = (s.entries p).timerId
      · subst hid
        rw [Function.update_self, Option.some.injEq]
        constructor
        · rintro rfl
          exact ⟨.inl rfl, rfl, hc⟩
        · rintro ⟨rfl | hq, hqid, -⟩
          · rfl
          · exact h.id_inj hlt (h.below q hq) hqid.symm
      · rw [Function.update_of_ne hid, h.map id q]
        constructor
        · rintro ⟨hq, hrest⟩
          exact ⟨.inr hq, hrest⟩
        · rintro ⟨rfl | hq, hqid, hqc⟩
          · exact absurd hqid.symm hid
          · exact ⟨hq, hqid, hqc⟩
    rearming := fun q toFire hq => absurd hq (hloop q toFire) }

end Kept

/-- Every step keeps the store. -/
lemma Step.kept {s s' : TimerManager Tid} {l : Action Tid} (h : Step s l s') (hs : Kept s)
    (hint : IntInterval l) (hleft : s.IdsLeft l) : Kept s' := by
  cases h with
  | tick | stopExchange =>
    exact hs.frame rfl rfl rfl rfl rfl (fun _ _ ht => ht) fun _ _ hp => hp
  | stopAgain => exact hs
  | setTimeout t a d msg hpc => exact hs.addTimer t a d msg ⟨by decide, by decide⟩ hleft
  | setInterval t a d msg hpc hd => exact hs.addTimer t a d msg ⟨Int.le_of_lt hd, hint⟩ hleft
  | insert t p hpc hl => exact hs.insert hpc hl
  | notify t hpc =>
    exact hs.frame s.stored_notify rfl rfl rfl rfl (fun _ _ hu => adders_notify hu)
      fun p f hp => notify_eq_rearm.mp hp
  | notifyAll hpc =>
    exact hs.frame s.stored_notify rfl rfl rfl rfl (fun _ _ ht => ht)
      fun p f hp => notify_eq_rearm.mp hp
  | cancel id hl => exact hs.cancelTimer id (not_rearm_of_unlocked hl)
  | collect p toFire hpc hp hle => exact hs.collectTop hpc hp.1
  | rearm p toFire hpc =>
    have hstored := stored_rearm hpc
    refine hs.update (fun q hq => ?_) (hstored ▸ hs.nodup) (fun q => ?_) rfl rfl
      (fun _ _ ht => ht) (fun id q => ?_) (by simp)
    · rw [hstored]
      exact hq
    · by_cases hqp : q = p
      · subst hqp
        simp
      · simp [hqp]
    · rw [hs.map, hstored]
      show _ ↔ q ∈ p :: s.heap ∧ _
      by_cases hqp : q = p
      · subst hqp
        simp
      · simp [hqp]
  | join hpc hl =>
    have hnil : stored { s with stop := .stopped, heap := [], timerMap := fun _ => none } = [] := by
      apply stored_of_not_rearm
      simp [hl]
    refine hs.update (fun q hq => ?_) (by rw [hnil]; exact List.nodup_nil)
      (fun q => ⟨rfl, rfl, fun _ => rfl⟩) rfl rfl (fun _ _ ht => ht) (fun id q => ?_) (by simp [hl])
    · rw [hnil] at hq
      cases hq
    · rw [hnil]
      simp
  | leave hpc hr =>
    rcases hpc with hpc | hpc <;> exact hs.of_loop (by simp [hpc]) (by simp)
  | finish k deadline timedOut hpc h =>
    exact hs.of_loop (by simp [hpc]) (by cases k <;> simp [WaitKind.after])
  | iterate hpc | lock hpc | sawEmpty hpc | readClock hpc | notYet _ _ hpc | due _ _ hpc
  | waitEmpty hpc | waitNext _ _ hpc | block _ _ hpc | wake _ _ _ _ hpc | again hpc
  | noneDue _ _ hpc | noneLeft _ hpc | allSent hpc => exact hs.of_loop (by simp [hpc]) (by simp)
  | send x toFire hpc =>
    refine hs.frame ?_ rfl rfl rfl rfl (fun _ _ ht => ht) (by simp)
    rw [stored_of_not_rearm (by simp), stored_of_not_rearm (by simp [hpc])]

end Balabala.TimerManager
