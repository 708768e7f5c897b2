import Balabala.Timer.Store

/-!
# What becomes of a timer

An observer writes down when timers are set, cancelled and collected, the newest event first. A
timer that is set for one time is collected once at most, not before it is due and not after it
was cancelled, and the messages of a pass are collected in the order of their expiries.
-/

namespace Balabala

open Foundation

inductive TimerEvent
  /-- `SetTimeout` or `SetInterval` reads the clock for the timer `p` -/
  | set (p : Nat) (time : UInt64) (delayMs : Int)
  /-- `CancelTimer` has the mutex, and the timer `p` in the heap has the id it was called with -/
  | cancelled (p : Nat)
  /-- the timer thread begins to collect -/
  | pass
  /-- the message of the timer `p` is added to `toFire` at a reading of the clock -/
  | collected (p : Nat) (expire time : UInt64)
  deriving DecidableEq

namespace TimerEvent

def collects (p : Nat) : TimerEvent → Bool
  | .collected q _ _ => q = p
  | _ => false

/-- The timers that were collected since the last pass began, with their expiries, the newest
first. -/
def currentPass : List TimerEvent → List (Nat × UInt64)
  | [] => []
  | .pass :: _ => []
  | .collected p expire _ :: log => (p, expire) :: currentPass log
  | .set _ _ _ :: log | .cancelled _ :: log => currentPass log

lemma collected_of_mem_currentPass {log : List TimerEvent} {p : Nat} {e : UInt64}
    (h : (p, e) ∈ currentPass log) : ∃ time, .collected p e time ∈ log := by
  induction log with
  | nil => cases h
  | cons event log ih =>
    cases event with
    | pass => cases h
    | collected q e' time =>
      rcases List.mem_cons.mp h with heq | h
      · cases heq
        exact ⟨time, List.mem_cons_self⟩
      · obtain ⟨time', hmem⟩ := ih h
        exact ⟨time', List.mem_cons_of_mem _ hmem⟩
    | set q time d | cancelled q =>
      obtain ⟨time', hmem⟩ := ih h
      exact ⟨time', List.mem_cons_of_mem _ hmem⟩

/-- The events of a call of `CancelTimer` that finds the timers `ps`. -/
def cancels (ps : List Nat) : List TimerEvent := ps.map TimerEvent.cancelled

lemma currentPass_cancels (ps : List Nat) (log : List TimerEvent) :
    currentPass (cancels ps ++ log) = currentPass log := by
  induction ps with
  | nil => rfl
  | cons p ps ih => exact ih

lemma countP_cancels (p : Nat) (ps : List Nat) (log : List TimerEvent) :
    (cancels ps ++ log).countP (collects p) = log.countP (collects p) := by
  induction ps with
  | nil => rfl
  | cons q ps ih =>
    rw [← ih]
    exact List.countP_cons_of_neg (by simp [collects])

lemma countP_eq_zero {log : List TimerEvent} {p : Nat}
    (h : ∀ e time, .collected p e time ∉ log) : log.countP (collects p) = 0 := by
  apply List.countP_eq_zero.mpr
  intro event hmem
  cases event with
  | collected q e time =>
    simp only [collects, decide_eq_true_eq]
    rintro rfl
    exact h e time hmem
  | _ => simp [collects]

/-- No timer is collected after it was cancelled. -/
def Revoked (log : List TimerEvent) : Prop :=
  log.Pairwise fun later earlier =>
    ∀ p, earlier = .cancelled p → ∀ e time, later ≠ .collected p e time

lemma Revoked.cons {log : List TimerEvent} (h : Revoked log) {event : TimerEvent}
    (hevent : ∀ p e time, event = .collected p e time → .cancelled p ∉ log) :
    Revoked (event :: log) := by
  refine List.pairwise_cons.mpr ⟨fun earlier hmem p hp e time he => ?_, h⟩
  exact hevent p e time he (hp ▸ hmem)

lemma Revoked.cancels {log : List TimerEvent} (h : Revoked log) (ps : List Nat) :
    Revoked (cancels ps ++ log) := by
  induction ps with
  | nil => exact h
  | cons p ps ih => exact ih.cons (by simp)

end TimerEvent

/-- What was collected so far. -/
def TimerPc.toFire : TimerPc → List (ActorId × ActorMessage)
  | .collect toFire | .rearm _ toFire | .fire toFire => toFire
  | _ => []

@[simp] lemma TimerPc.toFire_collect (toFire : List (ActorId × ActorMessage)) :
    (TimerPc.collect toFire).toFire = toFire := rfl

@[simp] lemma TimerPc.toFire_rearm (p : Nat) (toFire : List (ActorId × ActorMessage)) :
    (TimerPc.rearm p toFire).toFire = toFire := rfl

@[simp] lemma TimerPc.toFire_fire (toFire : List (ActorId × ActorMessage)) :
    (TimerPc.fire toFire).toFire = toFire := rfl

def TimerPc.collecting : TimerPc → Bool
  | .collect _ | .rearm _ _ => true
  | _ => false

/-- The timer thread collects with the mutex held. -/
lemma TimerPc.collecting_of_unlocked {pc : TimerPc} (h : pc.locked = false) :
    pc.collecting = false := by
  cases pc with
  | collect | rearm => cases h
  | _ => rfl

lemma TimerPc.collecting_notify (pc : TimerPc) : pc.notify.collecting = pc.collecting := by
  cases pc <;> rfl

lemma TimerPc.toFire_notify (pc : TimerPc) : pc.notify.toFire = pc.toFire := by
  cases pc <;> rfl

namespace TimerManager

variable {Tid : Type*}

/-- What is sent when the timer `p` fires. -/
def message (s : TimerManager Tid) (p : Nat) : ActorId × ActorMessage :=
  ((s.entries p).actorId, (s.entries p).msg)

/-- The observer. -/
def record (log : List TimerEvent) (s : TimerManager Tid) (l : Action Tid)
    (s' : TimerManager Tid) : List TimerEvent :=
  match l with
  | .setTimeout _ _ delayMs _ | .setInterval _ _ delayMs _ =>
    .set s.allocated s.clock delayMs :: log
  | .cancel id => TimerEvent.cancels (s.heap.filter fun p => (s.entries p).timerId = id) ++ log
  | .top p =>
    if s.loop.collecting then
      if s.loop.toFire.length < s'.loop.toFire.length then
        .collected p (s.expire p) s.clock :: log
      else log
    else if s'.loop.collecting then .pass :: log
    else log
  | _ => log

lemma record_collect {s s' : TimerManager Tid} {toFire : List (ActorId × ActorMessage)}
    (hpc : s.loop = .collect toFire) (log : List TimerEvent) (p : Nat) :
    record log s (.top p) s' =
      if toFire.length < s'.loop.toFire.length then .collected p (s.expire p) s.clock :: log
      else log := by
  have hcollecting : s.loop.collecting = true := by
    rw [hpc]
    rfl
  have htoFire : s.loop.toFire = toFire := by rw [hpc, TimerPc.toFire_collect]
  simp only [record, hcollecting, htoFire, if_true]

/-- What the log says of the timers. -/
structure Logged (s : TimerManager Tid) (log : List TimerEvent) : Prop where
  set : ∀ p < s.allocated, (s.entries p).intervalMs = 0 → ∃ time d,
    .set p time d ∈ log ∧ ((s.expire p).toNat : Int) = time.toNat + d
  below : ∀ p e time, .collected p e time ∈ log → p < s.allocated
  /-- a timer that was collected does not come back -/
  gone : ∀ p e time, .collected p e time ∈ log → (s.entries p).intervalMs = 0 →
    p ∉ s.stored ∧ ∀ t, s.adders t ≠ .insert p
  once : ∀ p, (s.entries p).intervalMs = 0 → log.countP (TimerEvent.collects p) ≤ 1
  due : ∀ p e time, .collected p e time ∈ log → (s.entries p).intervalMs = 0 → ∃ setTime d,
    .set p setTime d ∈ log ∧ (setTime.toNat : Int) + d ≤ time.toNat
  marked : ∀ p, .cancelled p ∈ log → p < s.allocated ∧ (s.entries p).cancelled = true
  revoked : TimerEvent.Revoked log
  ordered : (TimerEvent.currentPass log).Pairwise fun later earlier => earlier.2 ≤ later.2
  /-- what is still to come expires later -/
  ahead : s.loop.collecting = true → ∀ x ∈ TimerEvent.currentPass log,
    x.2 ≤ s.clock ∧ ∀ q ∈ s.heap, x.2 ≤ s.expire q
  messages : s.loop.collecting = true →
    s.loop.toFire = (TimerEvent.currentPass log).reverse.map fun x => s.message x.1

namespace Logged

variable {s s' : TimerManager Tid} {log : List TimerEvent}

/-- A step that is not written down, and brings no timer into the store but one that was to be
inserted. -/
lemma frame (h : Logged s log) (hentries : s'.entries = s.entries)
    (hallocated : s'.allocated = s.allocated)
    (hstored : ∀ p ∈ s'.stored, p ∈ s.stored ∨ ∃ t, s.adders t = .insert p)
    (hadders : ∀ t p, s'.adders t = .insert p → s.adders t = .insert p)
    (hpass : s'.loop.collecting = true → s.loop.collecting = true ∧ s.clock ≤ s'.clock ∧
      (∀ p ∈ s'.heap, p ∈ s.heap) ∧ s'.loop.toFire = s.loop.toFire) : Logged s' log where
  set p hp := by
    rw [expire, hentries]
    exact h.set p (hallocated ▸ hp)
  below p e time hmem := hallocated ▸ h.below p e time hmem
  gone p e time hmem hi := by
    rw [hentries] at hi
    obtain ⟨hnot, hadd⟩ := h.gone p e time hmem hi
    refine ⟨fun hp => ?_, fun t ht => hadd t (hadders t p ht)⟩
    rcases hstored p hp with hp | ⟨t, ht⟩
    · exact hnot hp
    · exact hadd t ht
  once p hi := h.once p (hentries ▸ hi)
  due p e time hmem hi := h.due p e time hmem (hentries ▸ hi)
  marked p hmem := by
    rw [hallocated, hentries]
    exact h.marked p hmem
  revoked := h.revoked
  ordered := h.ordered
  ahead hc x hx := by
    obtain ⟨hcollecting, hclock, hheap, -⟩ := hpass hc
    obtain ⟨hle, hahead⟩ := h.ahead hcollecting x hx
    refine ⟨UInt64.le_trans hle hclock, fun q hq => ?_⟩
    rw [expire, hentries]
    exact hahead q (hheap q hq)
  messages hc := by
    obtain ⟨hcollecting, -, -, htoFire⟩ := hpass hc
    simp only [htoFire, message, hentries]
    exact h.messages hcollecting

/-- The timer thread moves on, and does not collect. -/
lemma of_loop (h : Logged s log) {pc : TimerPc} (hpc : pc.collecting = false) :
    Logged { s with loop := pc } log := by
  refine h.frame rfl rfl (fun p hp => .inl ?_) (fun _ _ ht => ht) fun hc => ?_
  · rw [stored_of_not_rearm] at hp
    · exact mem_stored_of_heap hp
    · rintro q toFire rfl
      cases hpc
  · rw [hpc] at hc
    cases hc

/-- A new pass begins. -/
lemma pass (h : Logged s log) (hs : ∀ p toFire, s.loop ≠ .rearm p toFire) :
    Logged { s with loop := .collect [] } (.pass :: log) := by
  have hcollected : ∀ p e time, .collected p e time ∈ TimerEvent.pass :: log →
      .collected p e time ∈ log := by simp
  have hstored : ({ s with loop := .collect [] } : TimerManager Tid).stored = s.stored :=
    (stored_of_not_rearm hs).symm
  exact {
    set := by
      intro p hp hi
      obtain ⟨time, d, hmem, heq⟩ := h.set p hp hi
      exact ⟨time, d, List.mem_cons_of_mem _ hmem, heq⟩
    below := fun p e time hmem => h.below p e time (hcollected p e time hmem)
    gone := by
      intro p e time hmem hi
      rw [hstored]
      exact h.gone p e time (hcollected p e time hmem) hi
    once := by
      intro p hi
      rw [List.countP_cons_of_neg (by simp [TimerEvent.collects])]
      exact h.once p hi
    due := by
      intro p e time hmem hi
      obtain ⟨setTime, d, hset, hle⟩ := h.due p e time (hcollected p e time hmem) hi
      exact ⟨setTime, d, List.mem_cons_of_mem _ hset, hle⟩
    marked := fun p hmem => h.marked p (by simpa using hmem)
    revoked := h.revoked.cons (by simp)
    ordered := List.Pairwise.nil
    ahead := fun _ x hx => by cases hx
    messages := fun _ => rfl }

/-- A timer that is due is collected, and comes back only if it is periodic. -/
lemma collected (h : Logged s log) (hs : Kept s) {p : Nat} (hp : s.IsTop p)
    (hle : s.expire p ≤ s.clock) (hc : (s.entries p).cancelled = false)
    (hcollecting : s.loop.collecting = true) (hentries : s'.entries = s.entries)
    (hallocated : s'.allocated = s.allocated) (hadders : s'.adders = s.adders)
    (hclock : s'.clock = s.clock) (hheap : ∀ q ∈ s'.heap, q ∈ s.heap)
    (hstored : ∀ q ∈ s'.stored, q ∈ s.stored)
    (hgone : (s.entries p).intervalMs = 0 → p ∉ s'.stored)
    (htoFire : s'.loop.toFire = s.loop.toFire ++ [s.message p]) :
    Logged s' (.collected p (s.expire p) s.clock :: log) := by
  have hmem : p ∈ s.stored := mem_stored_of_heap hp.1
  have hlt : p < s.allocated := hs.below p hmem
  have hcollected : ∀ q e time,
      .collected q e time ∈ TimerEvent.collected p (s.expire p) s.clock :: log →
      q = p ∧ e = s.expire p ∧ time = s.clock ∨ .collected q e time ∈ log := by simp
  have hset : ∀ q time d, .set q time d ∈ log →
      .set q time d ∈ TimerEvent.collected p (s.expire p) s.clock :: log :=
    fun _ _ _ => List.mem_cons_of_mem _
  have hexpire : s'.expire = s.expire := funext fun q => by rw [expire, expire, hentries]
  exact {
    set := by
      intro q hq hi
      rw [hexpire]
      obtain ⟨time, d, hmem, heq⟩ := h.set q (hallocated ▸ hq) (hentries ▸ hi)
      exact ⟨time, d, hset q time d hmem, heq⟩
    below := by
      intro q e time hq
      rw [hallocated]
      rcases hcollected q e time hq with ⟨rfl, -⟩ | hq
      · exact hlt
      · exact h.below q e time hq
    gone := by
      intro q e time hq hi
      rw [hentries] at hi
      rw [hadders]
      rcases hcollected q e time hq with ⟨rfl, -⟩ | hq
      · exact ⟨hgone hi, fun t ht => (hs.pending t q ht).2.1 hmem⟩
      · obtain ⟨hnot, hadd⟩ := h.gone q e time hq hi
        exact ⟨fun hq => hnot (hstored q hq), hadd⟩
    once := by
      intro q hi
      rw [hentries] at hi
      by_cases hqp : q = p
      · subst hqp
        have hzero : log.countP (TimerEvent.collects q) = 0 :=
          TimerEvent.countP_eq_zero fun e time hq => (h.gone q e time hq hi).1 hmem
        apply Nat.le_of_eq
        rw [List.countP_cons_of_pos (by simp [TimerEvent.collects]), hzero, Nat.zero_add]
      · rw [List.countP_cons_of_neg (by simp [TimerEvent.collects, Ne.symm hqp])]
        exact h.once q hi
    due := by
      intro q e time hq hi
      rw [hentries] at hi
      rcases hcollected q e time hq with ⟨rfl, -, rfl⟩ | hq
      · obtain ⟨setTime, d, hmem, heq⟩ := h.set q hlt hi
        have hle := UInt64.le_iff_toNat_le.mp hle
        exact ⟨setTime, d, hset q setTime d hmem, by omega⟩
      · obtain ⟨setTime, d, hmem, hle⟩ := h.due q e time hq hi
        exact ⟨setTime, d, hset q setTime d hmem, hle⟩
    marked := by
      intro q hq
      rw [hallocated, hentries]
      exact h.marked q (by simpa using hq)
    revoked := by
      refine h.revoked.cons fun q e time heq hq => ?_
      cases heq
      rw [(h.marked p hq).2] at hc
      cases hc
    ordered := List.pairwise_cons.mpr
      ⟨fun x hx => (h.ahead hcollecting x hx).2 p hp.1, h.ordered⟩
    ahead := by
      intro _ x hx
      have hx : x ∈ (p, s.expire p) :: TimerEvent.currentPass log := hx
      rw [hclock, hexpire]
      rcases List.mem_cons.mp hx with rfl | hx
      · exact ⟨hle, fun q hq => hp.2 q (hheap q hq)⟩
      · obtain ⟨hxle, hahead⟩ := h.ahead hcollecting x hx
        exact ⟨hxle, fun q hq => hahead q (hheap q hq)⟩
    messages := by
      intro _
      simp only [htoFire, h.messages hcollecting, TimerEvent.currentPass, List.reverse_cons,
        List.map_append, List.map_cons, List.map_nil, message, hentries] }

/-- A periodic timer is put back behind what was collected. -/
lemma rearm (h : Logged s log) (hs : Kept s) {p : Nat} {toFire : List (ActorId × ActorMessage)}
    (hpc : s.loop = .rearm p toFire) (hclock : s.clock.toNat ≤ maxNowMs) :
    Logged { s with
      entries := Function.update s.entries p { s.entries p with
        expireTimeMs := s.clock + UInt64.ofInt (s.entries p).intervalMs }
      heap := p :: s.heap
      loop := .collect toFire } log := by
  have hstored := stored_rearm hpc
  have hpos : 0 < (s.entries p).intervalMs := (hs.rearming p toFire hpc).2
  have hcollecting : s.loop.collecting = true := by
    rw [hpc]
    rfl
  set s' : TimerManager Tid := { s with
    entries := Function.update s.entries p { s.entries p with
      expireTimeMs := s.clock + UInt64.ofInt (s.entries p).intervalMs }
    heap := p :: s.heap
    loop := .collect toFire } with hs'
  have hkeep : ∀ q, (s'.entries q).intervalMs = (s.entries q).intervalMs ∧
      (s'.entries q).cancelled = (s.entries q).cancelled ∧ s'.message q = s.message q := by
    intro q
    by_cases hqp : q = p
    · subst hqp
      simp [hs', message]
    · simp [hs', message, hqp]
  have hother : ∀ q, q ≠ p → s'.expire q = s.expire q := by
    intro q hqp
    simp [hs', expire, hqp]
  have hself : s.clock ≤ s'.expire p := by
    have hlt : p < s.allocated := hs.below p (hstored ▸ List.mem_cons_self)
    obtain ⟨h0, hmax⟩ := hs.interval p hlt
    have hadd := toNat_add_ofInt hclock h0 hmax
    have hexpire : s'.expire p = s.clock + UInt64.ofInt (s.entries p).intervalMs := by
      simp [hs', expire]
    rw [hexpire, UInt64.le_iff_toNat_le]
    omega
  exact {
    set := by
      intro q hq hi
      rw [(hkeep q).1] at hi
      have hqp : q ≠ p := by
        rintro rfl
        omega
      rw [hother q hqp]
      exact h.set q hq hi
    below := h.below
    gone := by
      intro q e time hq hi
      obtain ⟨hnot, hadd⟩ := h.gone q e time hq ((hkeep q).1 ▸ hi)
      exact ⟨fun hmem => hnot (hstored ▸ hmem), hadd⟩
    once := fun q hi => h.once q ((hkeep q).1 ▸ hi)
    due := fun q e time hq hi => h.due q e time hq ((hkeep q).1 ▸ hi)
    marked := by
      intro q hq
      rw [(hkeep q).2.1]
      exact h.marked q hq
    revoked := h.revoked
    ordered := h.ordered
    ahead := by
      intro _ x hx
      obtain ⟨hle, hahead⟩ := h.ahead hcollecting x hx
      refine ⟨hle, fun q hq => ?_⟩
      by_cases hqp : q = p
      · rw [hqp]
        exact UInt64.le_trans hle hself
      · rw [hother q hqp]
        exact hahead q (List.mem_of_ne_of_mem hqp hq)
    messages := by
      intro _
      have htoFire := h.messages hcollecting
      rw [hpc] at htoFire
      have hmessage : s'.message = s.message := funext fun q => (hkeep q).2.2
      rw [hmessage]
      exact htoFire }

section Operations

variable [DecidableEq Tid]

/-- A new timer expires after its delay. -/
lemma addTimer (h : Logged s log) (hs : Kept s) (t : Tid) (a : ActorId) (msg : ActorMessage)
    (i : Int) {d : Int} (h0 : 0 ≤ d) (hd : d < 2 ^ 31) (hclock : s.clock.toNat ≤ maxNowMs) :
    Logged (s.addTimer t a d msg i) (.set s.allocated s.clock d :: log) := by
  have hcollected : ∀ q e time,
      .collected q e time ∈ TimerEvent.set s.allocated s.clock d :: log →
      .collected q e time ∈ log := by simp
  have hset : ∀ q time d', .set q time d' ∈ log →
      .set q time d' ∈ TimerEvent.set s.allocated s.clock d :: log :=
    fun _ _ _ => List.mem_cons_of_mem _
  have hexpire : ∀ q < s.allocated, (s.addTimer t a d msg i).expire q = s.expire q := by
    intro q hq
    rw [expire, entries_addTimer hq, expire]
  have hinterval : ∀ q e time, .collected q e time ∈ log →
      ((s.addTimer t a d msg i).entries q).intervalMs = 0 → (s.entries q).intervalMs = 0 := by
    intro q e time hq hi
    rwa [entries_addTimer (h.below q e time hq)] at hi
  exact {
    set := by
      intro q hq hi
      obtain hq | rfl := Nat.lt_succ_iff_lt_or_eq.mp hq
      · rw [entries_addTimer hq] at hi
        obtain ⟨time, d', hmem, heq⟩ := h.set q hq hi
        exact ⟨time, d', hset q time d' hmem, by rwa [hexpire q hq]⟩
      · refine ⟨s.clock, d, List.mem_cons_self, ?_⟩
        rw [← toNat_add_ofInt hclock h0 hd]
        simp [TimerManager.addTimer, expire]
    below := fun q e time hq => Nat.lt_succ_of_lt (h.below q e time (hcollected q e time hq))
    gone := by
      intro q e time hq hi
      have hq := hcollected q e time hq
      obtain ⟨hnot, hadd⟩ := h.gone q e time hq (hinterval q e time hq hi)
      refine ⟨hnot, fun u hu => ?_⟩
      rcases adders_addTimer hu with ⟨-, rfl⟩ | ⟨-, hu⟩
      · exact Nat.lt_irrefl _ (h.below _ e time hq)
      · exact hadd u hu
    once := by
      intro q hi
      rw [List.countP_cons_of_neg (by simp [TimerEvent.collects])]
      by_cases hq : q < s.allocated
      · rw [entries_addTimer hq] at hi
        exact h.once q hi
      · rw [TimerEvent.countP_eq_zero fun e time hmem => hq (h.below q e time hmem)]
        exact Nat.zero_le _
    due := by
      intro q e time hq hi
      have hq := hcollected q e time hq
      obtain ⟨setTime, d', hmem, hle⟩ := h.due q e time hq (hinterval q e time hq hi)
      exact ⟨setTime, d', hset q setTime d' hmem, hle⟩
    marked := by
      intro q hq
      obtain ⟨hlt, hc⟩ := h.marked q (by simpa using hq)
      exact ⟨Nat.lt_succ_of_lt hlt, by rwa [entries_addTimer hlt]⟩
    revoked := h.revoked.cons (by simp)
    ordered := h.ordered
    ahead := by
      intro hcollecting x hx
      obtain ⟨hle, hahead⟩ := h.ahead hcollecting x hx
      refine ⟨hle, fun q hq => ?_⟩
      rw [hexpire q (hs.below q (mem_stored_of_heap hq))]
      exact hahead q hq
    messages := by
      intro hcollecting
      have hmessage : ∀ x ∈ (TimerEvent.currentPass log).reverse,
          s.message x.1 = (s.addTimer t a d msg i).message x.1 := by
        intro x hx
        obtain ⟨time, hmem⟩ := TimerEvent.collected_of_mem_currentPass (List.mem_reverse.mp hx)
        rw [message, message, entries_addTimer (h.below x.1 x.2 time hmem)]
      exact (h.messages hcollecting).trans (List.map_congr_left hmessage) }

end Operations

/-- A timer that is cancelled is marked, if it is in the heap. -/
lemma cancelTimer (h : Logged s log) (hs : Kept s) (id : TimerId) (hl : s.loop.locked = false) :
    Logged (s.cancelTimer id)
      (TimerEvent.cancels (s.heap.filter fun p => (s.entries p).timerId = id) ++ log) := by
  set ps := s.heap.filter fun p => (s.entries p).timerId = id with hps
  have hmem : ∀ q ∈ ps, q ∈ s.stored ∧ (s.entries q).timerId = id := by
    intro q hq
    simp only [hps, List.mem_filter, decide_eq_true_eq] at hq
    exact ⟨mem_stored_of_heap hq.1, hq.2⟩
  have hcollected : ∀ q e time, .collected q e time ∈ TimerEvent.cancels ps ++ log →
      .collected q e time ∈ log := by simp [TimerEvent.cancels]
  have hset : ∀ q time d, .set q time d ∈ log →
      .set q time d ∈ TimerEvent.cancels ps ++ log :=
    fun _ _ _ => List.mem_append_right _
  obtain ⟨hkeep, hheap, hadders, hloop, hallocated⟩ := cancelTimer_keeps s id
  have hcollecting : (s.cancelTimer id).loop.collecting = false := by
    rw [hloop]
    exact TimerPc.collecting_of_unlocked hl
  have hstored : (s.cancelTimer id).stored = s.stored := by
    rw [stored, stored, hloop, hheap]
  exact {
    set := by
      intro q hq hi
      rw [(hkeep q).2.1] at hi
      obtain ⟨time, d, hmem, heq⟩ := h.set q (hallocated ▸ hq) hi
      exact ⟨time, d, hset q time d hmem, by rwa [expire, (hkeep q).1]⟩
    below := fun q e time hq => hallocated ▸ h.below q e time (hcollected q e time hq)
    gone := by
      intro q e time hq hi
      rw [hstored, hadders]
      exact h.gone q e time (hcollected q e time hq) ((hkeep q).2.1 ▸ hi)
    once := by
      intro q hi
      rw [TimerEvent.countP_cancels]
      exact h.once q ((hkeep q).2.1 ▸ hi)
    due := by
      intro q e time hq hi
      obtain ⟨setTime, d, hmem, hle⟩ :=
        h.due q e time (hcollected q e time hq) ((hkeep q).2.1 ▸ hi)
      exact ⟨setTime, d, hset q setTime d hmem, hle⟩
    marked := by
      intro q hq
      rw [hallocated]
      rcases List.mem_append.mp hq with hq | hq
      · obtain ⟨q', hq', heq⟩ := List.mem_map.mp hq
        cases heq
        obtain ⟨hqmem, rfl⟩ := hmem q hq'
        exact ⟨hs.below q hqmem, hs.marked_cancelTimer hqmem⟩
      · obtain ⟨hlt, hc⟩ := h.marked q hq
        exact ⟨hlt, (hkeep q).2.2 hc⟩
    revoked := h.revoked.cancels ps
    ordered := by
      rw [TimerEvent.currentPass_cancels]
      exact h.ordered
    ahead := fun hc => absurd hc (by rw [hcollecting]; decide)
    messages := fun hc => absurd hc (by rw [hcollecting]; decide) }

/-- What is due is collected, unless it was cancelled. -/
lemma collectTop (h : Logged s log) (hs : Kept s) {p : Nat}
    {toFire : List (ActorId × ActorMessage)} (hpc : s.loop = .collect toFire) (hp : s.IsTop p)
    (hle : s.expire p ≤ s.clock) :
    Logged (s.collectTop p toFire) (record log s (.top p) (s.collectTop p toFire)) := by
  have hstored : s.stored = s.heap := stored_of_not_rearm (by simp [hpc])
  have hnodup : s.heap.Nodup := hstored ▸ hs.nodup
  have hcollecting : s.loop.collecting = true := by
    rw [hpc]
    rfl
  have htoFire : s.loop.toFire = toFire := by rw [hpc, TimerPc.toFire_collect]
  have hheap : ∀ q ∈ s.heap.erase p, q ∈ s.heap := fun q => List.mem_of_mem_erase
  have hstoredOf : ∀ q ∈ s.heap.erase p, q ∈ s.stored := by
    rw [hstored]
    exact hheap
  by_cases hc : (s.entries p).cancelled
  · have hnext : s.collectTop p toFire = { s with
        heap := s.heap.erase p, loop := .collect toFire } := by
      simp [TimerManager.collectTop, hc]
    rw [hnext, record_collect hpc, if_neg (by simp)]
    exact h.frame rfl rfl (fun q hq => .inl (hstoredOf q hq)) (fun _ _ ht => ht)
      fun _ => ⟨hcollecting, UInt64.le_refl _, hheap, htoFire.symm⟩
  have hc : (s.entries p).cancelled = false := by simpa using hc
  by_cases hi : 0 < (s.entries p).intervalMs
  · have hnext : s.collectTop p toFire = { s with
        heap := s.heap.erase p, loop := .rearm p (toFire ++ [s.message p]) } := by
      simp [TimerManager.collectTop, hc, hi, message]
    have hperm : (p :: s.heap.erase p).Perm s.stored :=
      hstored ▸ (List.perm_cons_erase hp.1).symm
    rw [hnext, record_collect hpc, if_pos (by simp)]
    refine h.collected hs hp hle hc hcollecting rfl rfl rfl rfl hheap
      (fun q hq => hperm.mem_iff.mp hq) (fun hzero => ?_) (by rw [htoFire]; rfl)
    omega
  · have hnext : s.collectTop p toFire = { s with
        heap := s.heap.erase p
        timerMap := Function.update s.timerMap (s.entries p).timerId none
        loop := .collect (toFire ++ [s.message p]) } := by
      simp [TimerManager.collectTop, hc, hi, message]
    rw [hnext, record_collect hpc, if_pos (by simp)]
    refine h.collected hs hp hle hc hcollecting rfl rfl rfl rfl hheap hstoredOf (fun _ hmem => ?_)
      (by rw [htoFire]; rfl)
    exact (hnodup.mem_erase_iff.mp hmem).1 rfl

end Logged

lemma logged_start (time : UInt64) : Logged (start Tid time) [] where
  set p hp := absurd hp (Nat.not_lt_zero p)
  below := by simp
  gone := by simp
  once := by simp
  due := by simp
  marked := by simp
  revoked := List.Pairwise.nil
  ordered := List.Pairwise.nil
  ahead hc := by cases hc
  messages hc := by cases hc

variable [DecidableEq Tid]

/-- Every step keeps the log true. -/
lemma Step.logged {s s' : TimerManager Tid} {l : Action Tid} {log : List TimerEvent}
    (h : Step s l s') (hk : Kept s) (hs : Logged s log) (hok : s.InDomain l) :
    Logged s' (record log s l s') := by
  obtain ⟨hclock, hok⟩ := hok
  cases h with
  | tick time hle =>
    exact hs.frame rfl rfl (fun p hp => .inl hp) (fun _ _ ht => ht)
      fun hc => ⟨hc, hle, fun _ hp => hp, rfl⟩
  | stopExchange =>
    exact hs.frame rfl rfl (fun p hp => .inl hp) (fun _ _ ht => ht)
      fun hc => ⟨hc, UInt64.le_refl _, fun _ hp => hp, rfl⟩
  | stopAgain => exact hs
  | setTimeout t a d msg hpc => exact hs.addTimer hk t a msg 0 hok.1 hok.2 hclock
  | setInterval t a d msg hpc hd => exact hs.addTimer hk t a msg d (Int.le_of_lt hd) hok hclock
  | insert t p hpc hl =>
    refine hs.frame rfl rfl (fun q hq => ?_) (fun u q hu => (adders_insert hu).2) fun hc => ?_
    · rw [stored_insert hl] at hq
      rcases List.mem_cons.mp hq with rfl | hq
      · exact .inr ⟨t, hpc⟩
      · exact .inl (mem_stored_of_heap hq)
    · have hc : s.loop.collecting = true := hc
      rw [TimerPc.collecting_of_unlocked hl] at hc
      cases hc
  | notify t hpc =>
    refine hs.frame rfl rfl (fun p hp => .inl ?_) (fun _ _ hu => adders_notify hu) fun hc => ?_
    · exact s.stored_notify ▸ hp
    · exact ⟨by rwa [TimerPc.collecting_notify] at hc, UInt64.le_refl _, fun _ hp => hp,
        TimerPc.toFire_notify _⟩
  | notifyAll hpc =>
    refine hs.frame rfl rfl (fun p hp => .inl ?_) (fun _ _ ht => ht) fun hc => ?_
    · exact s.stored_notify ▸ hp
    · exact ⟨by rwa [TimerPc.collecting_notify] at hc, UInt64.le_refl _, fun _ hp => hp,
        TimerPc.toFire_notify _⟩
  | cancel id hl => exact hs.cancelTimer hk id hl
  | due p now hpc =>
    have hrecord : record log s (.top p) { s with loop := .collect [] } = .pass :: log := by
      simp [record, hpc, TimerPc.collecting]
    rw [hrecord]
    exact hs.pass (by simp [hpc])
  | notYet p now hpc hp hlt =>
    have hrecord : record log s (.top p) { s with loop := .enterNext now (s.expire p) } = log := by
      simp [record, hpc, TimerPc.collecting]
    rw [hrecord]
    exact hs.of_loop rfl
  | noneDue p toFire hpc hp hlt =>
    rw [record_collect hpc, if_neg (by simp)]
    exact hs.of_loop rfl
  | collect p toFire hpc hp hle => exact hs.collectTop hk hpc hp hle
  | rearm p toFire hpc => exact hs.rearm hk hpc hclock
  | join hpc hl =>
    refine hs.frame rfl rfl (fun p hp => ?_) (fun _ _ ht => ht) fun hc => ?_
    · rw [stored_of_not_rearm (by simp [hl])] at hp
      cases hp
    · have hc : s.loop.collecting = true := hc
      rw [hl] at hc
      cases hc
  | finish k => cases k <;> exact hs.of_loop rfl
  | send x toFire hpc =>
    refine hs.frame rfl rfl (fun p hp => ?_) (fun _ _ ht => ht) fun hc => by cases hc
    rw [stored_of_not_rearm (by simp)] at hp
    exact .inl (mem_stored_of_heap hp)
  | iterate | leave | lock | sawEmpty | readClock | waitEmpty | waitNext | block | wake | again
  | noneLeft | allSent => exact hs.of_loop rfl

end TimerManager

end Balabala
