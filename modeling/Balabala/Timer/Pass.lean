import Mathlib.Data.List.Induction
import Mathlib.Data.List.Perm.Subperm
import Balabala.Timer.History

/-!
# One pass of the timer thread

The loop that collects what is due reads the clock before each timer, and once more when it puts a
periodic timer back. A timer that was put back is collected again, in the same pass, if a later
reading has reached its new expiry. A pass is finite and collects each timer once at most exactly
when no reading does so.
-/

namespace Balabala.TimerManager

open Foundation

variable {Tid : Type*}

/-- A pass, and what it has done so far. -/
structure Pass (Tid : Type*) where
  manager : TimerManager Tid
  /-- the calls of `NowMs` -/
  reads : Nat
  /-- the timers placed in `toFire`, the newest first -/
  fired : List Nat

section Iterations

variable [DecidableEq Tid]

/-- One iteration of the loop that collects, for the timer `p` at the top of the heap. The value of
the `i`th call of `NowMs` is `now i`. -/
def iterate (now : Nat → UInt64) (c : Pass Tid) (p : Nat) : Option (Pass Tid) :=
  (({ c.manager with clock := now c.reads }).next (.top p)).bind fun s =>
    let fired :=
      if c.manager.loop.toFire.length < s.loop.toFire.length then p :: c.fired else c.fired
    match s.loop with
    | .collect _ => some ⟨s, c.reads + 1, fired⟩
    | .rearm _ _ =>
      (({ s with clock := now (c.reads + 1) }).next .loop).map fun s => ⟨s, c.reads + 2, fired⟩
    | _ => none

/-- The iterations of a pass that starts at `s`. -/
def passMachine (s : TimerManager Tid) (now : Nat → UInt64) : Machine (Pass Tid) Nat where
  init c := c = ⟨s, 0, []⟩
  next := iterate now

/-- A pass finds its end, and collects each timer once at most. -/
structure FairPass (s : TimerManager Tid) (now : Nat → UInt64) : Prop where
  terminates : (passMachine s now).Terminates
  once : ∀ c, (passMachine s now).Reachable c → c.fired.Nodup

end Iterations

/-! ### The order of the timers -/

/-- The timer `p` is put back when it is collected. -/
def Rearms (s : TimerManager Tid) (p : Nat) : Prop :=
  (s.entries p).cancelled = false ∧ 0 < (s.entries p).intervalMs

instance (s : TimerManager Tid) (p : Nat) : Decidable (s.Rearms p) :=
  inferInstanceAs (Decidable (_ ∧ _))

/-- The calls of `NowMs` in the iterations that pop the timers `qs`. -/
def cost (s : TimerManager Tid) : List Nat → Nat
  | [] => 0
  | p :: qs => (if s.Rearms p then 2 else 1) + s.cost qs

lemma cost_append (s : TimerManager Tid) (qs rs : List Nat) :
    s.cost (qs ++ rs) = s.cost qs + s.cost rs := by
  induction qs with
  | nil => rw [List.nil_append, cost, Nat.zero_add]
  | cons p qs ih => rw [List.cons_append, cost, cost, ih, Nat.add_assoc]

lemma cost_le (s : TimerManager Tid) (qs : List Nat) : s.cost qs ≤ 2 * qs.length := by
  induction qs with
  | nil => exact Nat.le_refl _
  | cons p qs ih =>
    rw [cost, List.length_cons]
    split_ifs <;> omega

lemma length_le_cost (s : TimerManager Tid) (qs : List Nat) : qs.length ≤ s.cost qs := by
  induction qs with
  | nil => exact Nat.le_refl _
  | cons p qs ih =>
    rw [cost, List.length_cons]
    split_ifs <;> omega

/-- `qs` are the first timers of the heap, in the order of their expiries. -/
structure First (s : TimerManager Tid) (qs : List Nat) : Prop where
  nodup : qs.Nodup
  mem : ∀ p ∈ qs, p ∈ s.heap
  sorted : qs.Pairwise fun p q => s.expire p ≤ s.expire q
  rest : ∀ p ∈ qs, ∀ q ∈ s.heap, q ∉ qs → s.expire p ≤ s.expire q

/-- Each of the timers `qs` is due when the loop looks at it. -/
def AllDue (s : TimerManager Tid) (now : Nat → UInt64) (qs : List Nat) : Prop :=
  ∀ as p bs, qs = as ++ p :: bs → s.expire p ≤ now (s.cost as)

/-- When the timers `qs` were popped, none of those that were put back is due again. -/
def NoneAgain (s : TimerManager Tid) (now : Nat → UInt64) (qs : List Nat) : Prop :=
  ∀ as p bs, qs = as ++ p :: bs → s.Rearms p →
    now (s.cost qs) < now (s.cost as + 1) + UInt64.ofInt (s.entries p).intervalMs

/-- As long as the loop finds the timers of the heap due, one after the other, no reading of its
condition reaches the new expiry of a timer that it has put back. -/
def Quiet (s : TimerManager Tid) (now : Nat → UInt64) : Prop :=
  ∀ qs, s.First qs → s.AllDue now qs → s.NoneAgain now qs

section Prefixes

variable {s : TimerManager Tid} {now : Nat → UInt64} {qs : List Nat} {p : Nat}

lemma first_nil : s.First [] := ⟨List.nodup_nil, by simp, List.Pairwise.nil, by simp⟩

lemma First.of_concat (h : s.First (qs ++ [p])) : s.First qs where
  nodup := (List.nodup_append.mp h.nodup).1
  mem q hq := h.mem q (List.mem_append_left _ hq)
  sorted := (List.pairwise_append.mp h.sorted).1
  rest q hq r hr hnot := by
    by_cases hrp : r = p
    · subst hrp
      exact (List.pairwise_append.mp h.sorted).2.2 q hq r List.mem_cons_self
    · exact h.rest q (List.mem_append_left _ hq) r hr (by simp [hnot, hrp])

/-- The next timer, in the order of the expiries. -/
lemma First.concat (h : s.First qs) (hp : p ∈ s.heap) (hnot : p ∉ qs)
    (hmin : ∀ q ∈ s.heap, q ∉ qs → s.expire p ≤ s.expire q) : s.First (qs ++ [p]) where
  nodup := by
    refine List.nodup_append.mpr ⟨h.nodup, by simp, fun q hq r hr => ?_⟩
    obtain rfl := List.mem_singleton.mp hr
    rintro rfl
    exact hnot hq
  mem := by
    intro q hq
    rcases List.mem_append.mp hq with hq | hq
    · exact h.mem q hq
    · obtain rfl := List.mem_singleton.mp hq
      exact hp
  sorted := by
    refine List.pairwise_append.mpr ⟨h.sorted, List.pairwise_singleton _ _, fun q hq r hr => ?_⟩
    obtain rfl := List.mem_singleton.mp hr
    exact h.rest q hq r hp hnot
  rest := by
    intro q hq r hr hnot'
    have hr' : r ∉ qs := fun hmem => hnot' (List.mem_append_left _ hmem)
    rcases List.mem_append.mp hq with hq | hq
    · exact h.rest q hq r hr hr'
    · obtain rfl := List.mem_singleton.mp hq
      exact hmin r hr hr'

lemma First.length_le (h : s.First qs) : qs.length ≤ s.heap.length :=
  (h.nodup.subperm h.mem).length_le

lemma AllDue.of_concat (h : s.AllDue now (qs ++ [p])) : s.AllDue now qs := by
  rintro as q bs rfl
  exact h as q (bs ++ [p]) (by simp)

/-- The last timer of a list, or one before it. -/
lemma concat_eq_append_cons {as bs : List Nat} {q : Nat} (h : qs ++ [p] = as ++ q :: bs) :
    as = qs ∧ q = p ∨ ∃ bs', bs = bs' ++ [p] ∧ qs = as ++ q :: bs' := by
  rcases List.eq_nil_or_concat bs with rfl | ⟨bs', r, rfl⟩
  · obtain ⟨rfl, heq⟩ := List.append_inj' h rfl
    exact .inl ⟨rfl, (List.cons.inj heq).1.symm⟩
  · have h : qs ++ [p] = (as ++ q :: bs') ++ [r] := by simpa using h
    obtain ⟨hqs, heq⟩ := List.append_inj' h rfl
    exact .inr ⟨bs', by rw [(List.cons.inj heq).1, List.concat_eq_append], hqs⟩

lemma AllDue.concat (h : s.AllDue now qs) (hp : s.expire p ≤ now (s.cost qs)) :
    s.AllDue now (qs ++ [p]) := by
  intro as q bs heq
  rcases concat_eq_append_cons heq with ⟨rfl, rfl⟩ | ⟨bs', -, hqs⟩
  · exact hp
  · exact h as q bs' hqs

end Prefixes

/-! ### What one iteration does -/

structure Iterated (now : Nat → UInt64) (c : Pass Tid) (p : Nat) (c' : Pass Tid) : Prop where
  loop : ∃ toFire, c'.manager.loop = .collect toFire
  reads : c'.reads = c.reads + c.manager.cost [p]
  fired : c'.fired = if (c.manager.entries p).cancelled then c.fired else p :: c.fired
  mem_heap : ∀ q, q ∈ c'.manager.heap ↔ q ∈ c.manager.heap ∧ (q = p → c.manager.Rearms p)
  nodup : c'.manager.heap.Nodup
  keeps : ∀ q, (c'.manager.entries q).cancelled = (c.manager.entries q).cancelled ∧
    (c'.manager.entries q).intervalMs = (c.manager.entries q).intervalMs
  expire_ne : ∀ q, q ≠ p → c'.manager.expire q = c.manager.expire q
  expire : c.manager.Rearms p → c'.manager.expire p =
    now (c.reads + 1) + UInt64.ofInt (c.manager.entries p).intervalMs

/-- The pass that started at `s` has popped the timers `qs`. -/
structure Along (s : TimerManager Tid) (now : Nat → UInt64) (qs : List Nat) (c : Pass Tid) :
    Prop where
  first : s.First qs
  allDue : s.AllDue now qs
  loop : ∃ toFire, c.manager.loop = .collect toFire
  reads : c.reads = s.cost qs
  fired : c.fired = (qs.filter fun p => !(s.entries p).cancelled).reverse
  mem_heap : ∀ q, q ∈ c.manager.heap ↔ q ∈ s.heap ∧ (q ∈ qs → s.Rearms q)
  nodup : c.manager.heap.Nodup
  keeps : ∀ q, (c.manager.entries q).cancelled = (s.entries q).cancelled ∧
    (c.manager.entries q).intervalMs = (s.entries q).intervalMs
  /-- what was not popped has its expiry -/
  expire : ∀ q, q ∉ qs → c.manager.expire q = s.expire q
  /-- what was put back has a new one -/
  again : ∀ as p bs, qs = as ++ p :: bs → s.Rearms p →
    c.manager.expire p = now (s.cost as + 1) + UInt64.ofInt (s.entries p).intervalMs

namespace Along

variable {s : TimerManager Tid} {now : Nat → UInt64} {qs : List Nat} {c c' : Pass Tid} {p : Nat}

lemma rearms (h : Along s now qs c) (q : Nat) : c.manager.Rearms q ↔ s.Rearms q := by
  rw [Rearms, Rearms, (h.keeps q).1, (h.keeps q).2]

lemma start {toFire : List (ActorId × ActorMessage)} (hpc : s.loop = .collect toFire)
    (hheap : s.heap.Nodup) : Along s now [] ⟨s, 0, []⟩ where
  first := first_nil
  allDue as p bs h := by simp at h
  loop := ⟨toFire, hpc⟩
  reads := rfl
  fired := rfl
  mem_heap q := by simp
  nodup := hheap
  keeps _ := ⟨rfl, rfl⟩
  expire _ _ := rfl
  again as p bs h := by simp at h

/-- The next timer of the heap is popped. -/
lemma concat (h : Along s now qs c) (hnot : p ∉ qs) (hp : c.manager.IsTop p)
    (hle : c.manager.expire p ≤ now c.reads) (hc' : Iterated now c p c') :
    Along s now (qs ++ [p]) c' := by
  have hother : ∀ q ∈ s.heap, q ∉ qs → c.manager.expire p ≤ c.manager.expire q :=
    fun q hq hqs => hp.2 q ((h.mem_heap q).mpr ⟨hq, fun hmem => absurd hmem hqs⟩)
  have hexpire : c.manager.expire p = s.expire p := h.expire p hnot
  exact {
    first := by
      refine h.first.concat ((h.mem_heap p).mp hp.1).1 hnot fun q hq hqs => ?_
      rw [← hexpire, ← h.expire q hqs]
      exact hother q hq hqs
    allDue := by
      apply h.allDue.concat
      rw [← hexpire, ← h.reads]
      exact hle
    loop := hc'.loop
    reads := by
      rw [hc'.reads, h.reads, cost_append]
      simp [cost, h.rearms p]
    fired := by
      rw [hc'.fired, h.fired, (h.keeps p).1]
      cases hc : (s.entries p).cancelled <;> simp [hc]
    mem_heap := by
      intro q
      rw [hc'.mem_heap, h.mem_heap, h.rearms]
      by_cases hqp : q = p
      · subst hqp
        simp [hnot]
      · simp [hqp]
    nodup := hc'.nodup
    keeps := fun q => ⟨(hc'.keeps q).1.trans (h.keeps q).1, (hc'.keeps q).2.trans (h.keeps q).2⟩
    expire := by
      intro q hq
      simp only [List.mem_append, List.mem_singleton, not_or] at hq
      rw [hc'.expire_ne q hq.2, h.expire q hq.1]
    again := by
      intro as q bs heq hq
      rcases concat_eq_append_cons heq with ⟨rfl, rfl⟩ | ⟨bs', -, hqs⟩
      · rw [hc'.expire ((h.rearms q).mpr hq), h.reads, (h.keeps q).2]
      · have hqp : q ≠ p := by
          rintro rfl
          exact hnot (by simp [hqs])
        rw [hc'.expire_ne q hqp]
        exact h.again as q bs' hqs hq }

end Along

variable [DecidableEq Tid]

lemma next_collect {s : TimerManager Tid} {p : Nat} {toFire : List (ActorId × ActorMessage)}
    (hpc : s.loop = .collect toFire) (hp : s.IsTop p) (hle : s.expire p ≤ s.clock) :
    s.next (.top p) = some (s.collectTop p toFire) := by
  rw [next, if_pos hp, topNext, hpc]
  exact if_pos hle

lemma top_of_iterate {now : Nat → UInt64} {c c' : Pass Tid} {p : Nat}
    {toFire : List (ActorId × ActorMessage)} (hpc : c.manager.loop = .collect toFire)
    (h : iterate now c p = some c') :
    c.manager.IsTop p ∧ c.manager.expire p ≤ now c.reads := by
  obtain ⟨s, hs, hc'⟩ := Option.bind_eq_some_iff.mp h
  have hstep : Step { c.manager with clock := now c.reads } (.top p) s := .of_next hs
  cases hstep with
  | collect q toFire' hpc' hp hle => exact ⟨hp, hle⟩
  | due q t hpc' | notYet q t hpc' =>
    have hpc' : c.manager.loop = _ := hpc'
    rw [hpc'] at hpc
    cases hpc
  | noneDue q toFire' hpc' hp hlt => cases hc'

/-- The timer at the top of the heap is popped if it is due. -/
lemma exists_iterate {now : Nat → UInt64} {c : Pass Tid} {p : Nat}
    {toFire : List (ActorId × ActorMessage)} (hpc : c.manager.loop = .collect toFire)
    (hnodup : c.manager.heap.Nodup) (hp : c.manager.IsTop p)
    (hle : c.manager.expire p ≤ now c.reads) :
    ∃ c', iterate now c p = some c' ∧ Iterated now c p c' := by
  have hnext : ({ c.manager with clock := now c.reads }).next (.top p) =
      some (({ c.manager with clock := now c.reads }).collectTop p toFire) := by
    exact next_collect hpc hp hle
  have hmem : ∀ q, q ∈ c.manager.heap.erase p ↔ q ≠ p ∧ q ∈ c.manager.heap :=
    fun q => hnodup.mem_erase_iff
  rw [iterate, hnext, Option.bind_some, hpc, TimerPc.toFire_collect]
  by_cases hc : (c.manager.entries p).cancelled
  · have hrearms : ¬ c.manager.Rearms p := by simp [Rearms, hc]
    refine ⟨⟨{ c.manager with
      clock := now c.reads, heap := c.manager.heap.erase p, loop := .collect toFire },
      c.reads + 1, c.fired⟩, by simp [collectTop, hc], ?_⟩
    exact {
      loop := ⟨toFire, rfl⟩
      reads := by simp [cost, hrearms]
      fired := by simp [hc]
      mem_heap := by simp [hmem, hrearms, and_comm]
      nodup := hnodup.erase p
      keeps := fun _ => ⟨rfl, rfl⟩
      expire_ne := fun _ _ => rfl
      expire := fun h => absurd h hrearms }
  have hc : (c.manager.entries p).cancelled = false := by simpa using hc
  by_cases hi : 0 < (c.manager.entries p).intervalMs
  · have hrearms : c.manager.Rearms p := ⟨hc, hi⟩
    refine ⟨⟨{ c.manager with
      clock := now (c.reads + 1)
      entries := Function.update c.manager.entries p { c.manager.entries p with
        expireTimeMs := now (c.reads + 1) + UInt64.ofInt (c.manager.entries p).intervalMs }
      heap := p :: c.manager.heap.erase p
      loop := .collect (toFire ++ [c.manager.message p]) },
      c.reads + 2, p :: c.fired⟩, by simp [collectTop, hc, hi, next, loopNext, message], ?_⟩
    exact {
      loop := ⟨_, rfl⟩
      reads := by simp [cost, hrearms]
      fired := by simp [hc]
      mem_heap := by
        intro q
        rw [(List.perm_cons_erase hp.1).symm.mem_iff]
        simp [hrearms]
      nodup := (List.perm_cons_erase hp.1).symm.nodup_iff.mpr hnodup
      keeps := by
        intro q
        by_cases hqp : q = p
        · subst hqp
          simp
        · simp [hqp]
      expire_ne := fun q hqp => by simp [TimerManager.expire, hqp]
      expire := fun _ => by simp [TimerManager.expire] }
  · have hrearms : ¬ c.manager.Rearms p := fun h => hi h.2
    refine ⟨⟨{ c.manager with
      clock := now c.reads
      heap := c.manager.heap.erase p
      timerMap := Function.update c.manager.timerMap (c.manager.entries p).timerId none
      loop := .collect (toFire ++ [c.manager.message p]) },
      c.reads + 1, p :: c.fired⟩, by simp [collectTop, hc, hi, message], ?_⟩
    exact {
      loop := ⟨_, rfl⟩
      reads := by simp [cost, hrearms]
      fired := by simp [hc]
      mem_heap := by simp [hmem, hrearms, and_comm]
      nodup := hnodup.erase p
      keeps := fun _ => ⟨rfl, rfl⟩
      expire_ne := fun _ _ => rfl
      expire := fun h => absurd h hrearms }

/-- Every iteration is such a one. -/
lemma iterated_of_iterate {now : Nat → UInt64} {c c' : Pass Tid} {p : Nat}
    {toFire : List (ActorId × ActorMessage)} (hpc : c.manager.loop = .collect toFire)
    (hnodup : c.manager.heap.Nodup) (h : iterate now c p = some c') :
    c.manager.IsTop p ∧ c.manager.expire p ≤ now c.reads ∧ Iterated now c p c' := by
  obtain ⟨hp, hle⟩ := top_of_iterate hpc h
  obtain ⟨c'', heq, hspec⟩ := exists_iterate hpc hnodup hp hle
  rw [h] at heq
  cases heq
  exact ⟨hp, hle, hspec⟩

/-! ### A whole pass -/

section Runs

variable {s : TimerManager Tid} {now : Nat → UInt64} {qs : List Nat} {c c' : Pass Tid} {p : Nat}
  {toFire : List (ActorId × ActorMessage)}

/-- While nothing is due again, an iteration takes the next timer. -/
lemma Along.iterate (h : Along s now qs c) (hquiet : s.NoneAgain now qs)
    (hc' : iterate now c p = some c') : Along s now (qs ++ [p]) c' := by
  obtain ⟨toFire, hpc⟩ := h.loop
  obtain ⟨hp, hle, hspec⟩ := iterated_of_iterate hpc h.nodup hc'
  refine h.concat (fun hmem => ?_) hp hle hspec
  have hrearms : s.Rearms p := ((h.mem_heap p).mp hp.1).2 hmem
  obtain ⟨as, bs, heq⟩ := List.append_of_mem hmem
  have hlt := hquiet as p bs heq hrearms
  rw [← h.again as p bs heq hrearms, ← h.reads] at hlt
  exact UInt64.not_le.mpr hlt hle

lemma Quiet.along (h : s.Quiet now) (hpc : s.loop = .collect toFire) (hheap : s.heap.Nodup)
    (hc : (passMachine s now).Reachable c) : ∃ qs, Along s now qs c := by
  apply hc.invariant (P := fun c => ∃ qs, Along s now qs c)
  · rintro c rfl
    exact ⟨[], .start hpc hheap⟩
  · rintro c p c' - ⟨qs, hqs⟩ - hc'
    exact ⟨qs ++ [p], hqs.iterate (h qs hqs.first hqs.allDue) hc'⟩

/-- Each iteration takes another timer of the heap. -/
theorem Quiet.fairPass (h : s.Quiet now) (hpc : s.loop = .collect toFire)
    (hheap : s.heap.Nodup) : FairPass s now where
  terminates := by
    apply Machine.terminates_of_measure fun c => 2 * s.heap.length - c.reads
    intro c p c' hc hc'
    obtain ⟨qs, hqs⟩ := h.along hpc hheap hc
    have hnext : Along s now (qs ++ [p]) c' := hqs.iterate (h qs hqs.first hqs.allDue) hc'
    have hreads : c.reads < c'.reads := by
      rw [hqs.reads, hnext.reads, cost_append]
      exact Nat.lt_add_of_pos_right (s.length_le_cost [p])
    have hle : c'.reads ≤ 2 * s.heap.length := by
      rw [hnext.reads]
      exact Nat.le_trans (s.cost_le _) (Nat.mul_le_mul_left 2 hnext.first.length_le)
    omega
  once := by
    intro c hc
    obtain ⟨qs, hqs⟩ := h.along hpc hheap hc
    rw [hqs.fired]
    exact List.nodup_reverse.mpr (hqs.first.nodup.filter _)

lemma exists_min (f : Nat → UInt64) {ps : List Nat} (h : ps ≠ []) :
    ∃ p ∈ ps, ∀ q ∈ ps, f p ≤ f q := by
  induction ps with
  | nil => exact absurd rfl h
  | cons p ps ih =>
    cases ps with
    | nil => exact ⟨p, by simp, by simp⟩
    | cons q qs =>
      obtain ⟨r, hr, hmin⟩ := ih (by simp)
      by_cases hle : f p ≤ f r
      · refine ⟨p, List.mem_cons_self, List.forall_mem_cons.mpr ⟨UInt64.le_refl _, ?_⟩⟩
        exact fun t ht => UInt64.le_trans hle (hmin t ht)
      · refine ⟨r, List.mem_cons_of_mem _ hr, List.forall_mem_cons.mpr ⟨?_, hmin⟩⟩
        exact UInt64.le_of_lt (UInt64.not_le.mp hle)

/-- In a pass that is fair, no timer that was collected is due again: the loop would not end
before it has popped that timer. -/
lemma FairPass.lt_expire (h : FairPass s now) (hmono : ∀ i j, i ≤ j → now i ≤ now j)
    (hc : (passMachine s now).Reachable c) (hpc : c.manager.loop = .collect toFire)
    (hheap : c.manager.heap.Nodup) (hp : p ∈ c.manager.heap) (hfired : p ∈ c.fired)
    (hcancelled : (c.manager.entries p).cancelled = false) :
    now c.reads < c.manager.expire p := by
  apply UInt64.not_le.mp
  intro hle
  -- the loop goes on for as long as the timer is in the heap
  let P : Pass Tid → Prop := fun c => (∃ toFire, c.manager.loop = .collect toFire) ∧
    c.manager.heap.Nodup ∧ p ∈ c.manager.heap ∧ p ∈ c.fired ∧
    (c.manager.entries p).cancelled = false ∧ c.manager.expire p ≤ now c.reads
  refine h.terminates.not_forever (P := P) ?_ hc ⟨⟨toFire, hpc⟩, hheap, hp, hfired, hcancelled, hle⟩
  rintro c hc ⟨⟨toFire, hpc⟩, hheap, hp, hfired, hcancelled, hle⟩
  obtain ⟨q, hq, hmin⟩ := exists_min c.manager.expire (List.ne_nil_of_mem hp)
  obtain ⟨c', hnext, hspec⟩ :=
    exists_iterate hpc hheap ⟨hq, hmin⟩ (UInt64.le_trans (hmin p hp) hle)
  have hfired' := hspec.fired
  have hqp : p ≠ q := by
    rintro rfl
    have hnodup := h.once c' (hc.step trivial hnext)
    rw [hfired', hcancelled] at hnodup
    exact (List.nodup_cons.mp hnodup).1 hfired
  refine ⟨q, c', hnext, hspec.loop, hspec.nodup, ?_, ?_, ?_, ?_⟩
  · exact (hspec.mem_heap p).mpr ⟨hp, fun heq => absurd heq hqp⟩
  · rw [hfired']
    split_ifs
    · exact hfired
    · exact List.mem_cons_of_mem _ hfired
  · rw [(hspec.keeps p).1, hcancelled]
  · rw [hspec.expire_ne p hqp]
    refine UInt64.le_trans hle (hmono _ _ ?_)
    rw [hspec.reads]
    exact Nat.le_add_right _ _

lemma FairPass.noneAgain (h : FairPass s now) (hmono : ∀ i j, i ≤ j → now i ≤ now j)
    (hc : (passMachine s now).Reachable c) (hqs : Along s now qs c) : s.NoneAgain now qs := by
  intro as p bs heq hrearms
  obtain ⟨toFire, hpc⟩ := hqs.loop
  have hmem : p ∈ qs := by simp [heq]
  have hp : p ∈ c.manager.heap :=
    (hqs.mem_heap p).mpr ⟨hqs.first.mem p hmem, fun _ => hrearms⟩
  have hfired : p ∈ c.fired := by
    rw [hqs.fired]
    simp [hmem, hrearms.1]
  rw [← hqs.again as p bs heq hrearms, ← hqs.reads]
  exact h.lt_expire hmono hc hpc hqs.nodup hp hfired ((hqs.keeps p).1.trans hrearms.1)

/-- A pass that is fair takes the timers in their order, as far as they are due. -/
lemma FairPass.exists_along (h : FairPass s now) (hmono : ∀ i j, i ≤ j → now i ≤ now j)
    (hpc : s.loop = .collect toFire) (hheap : s.heap.Nodup) (hfirst : s.First qs)
    (hdue : s.AllDue now qs) : ∃ c, (passMachine s now).Reachable c ∧ Along s now qs c := by
  induction qs using List.reverseRecOn with
  | nil => exact ⟨_, .start rfl, .start hpc hheap⟩
  | append_singleton qs p ih =>
    obtain ⟨c, hc, hqs⟩ := ih hfirst.of_concat hdue.of_concat
    obtain ⟨toFire, hpc⟩ := hqs.loop
    have hnot : p ∉ qs := fun hmem =>
      (List.nodup_append.mp hfirst.nodup).2.2 p hmem p List.mem_cons_self rfl
    have hexpire : c.manager.expire p = s.expire p := hqs.expire p hnot
    have hle : c.manager.expire p ≤ now c.reads := by
      rw [hexpire, hqs.reads]
      exact hdue qs p [] rfl
    have htop : c.manager.IsTop p := by
      refine ⟨(hqs.mem_heap p).mpr ⟨hfirst.mem p (by simp), fun hmem => absurd hmem hnot⟩, ?_⟩
      intro q hq
      obtain ⟨hqs', hrearms⟩ := (hqs.mem_heap q).mp hq
      by_cases hmem : q ∈ qs
      · obtain ⟨as, bs, heq⟩ := List.append_of_mem hmem
        have hlt := h.noneAgain hmono hc hqs as q bs heq (hrearms hmem)
        rw [← hqs.again as q bs heq (hrearms hmem), ← hqs.reads] at hlt
        exact UInt64.le_of_lt (UInt64.lt_of_le_of_lt hle hlt)
      · by_cases hqp : q = p
        · rw [hqp]
          exact UInt64.le_refl _
        · rw [hexpire, hqs.expire q hmem]
          exact hfirst.rest p (by simp) q hqs' (by simp [hmem, hqp])
    obtain ⟨c', hnext, hspec⟩ := exists_iterate hpc hqs.nodup htop hle
    exact ⟨c', hc.step trivial hnext, hqs.concat hnot htop hle hspec⟩

/-- A pass ends, and collects each timer once at most, exactly when no reading of the clock in the
loop's condition reaches the new expiry of a timer that was put back. -/
theorem fairPass_iff {s : TimerManager Tid} {now : Nat → UInt64}
    (hmono : ∀ i j, i ≤ j → now i ≤ now j) (hpc : s.loop = .collect [])
    (hheap : s.heap.Nodup) : FairPass s now ↔ s.Quiet now := by
  constructor
  · intro h qs hfirst hdue
    obtain ⟨c, hc, hqs⟩ := h.exists_along hmono hpc hheap hfirst hdue
    exact h.noneAgain hmono hc hqs
  · intro h
    exact h.fairPass hpc hheap

end Runs

/-- A timer of one millisecond is due, and a pass begins. -/
def dueTimer : TimerManager Unit :=
  (machine Unit).replay (start Unit 0) [.setInterval () 1 1 {}, .insert (), .notify (), .tick 1,
    .loop, .loop, .loop, .top 0]

/-- The clock does not move during the pass. -/
theorem fairPass_dueTimer : FairPass dueTimer fun _ => 1 := by
  refine (fairPass_iff (fun _ _ _ => UInt64.le_refl _) (by decide) (by decide)).mpr ?_
  intro qs hfirst _ as p bs heq _
  have hp : p ∈ dueTimer.heap := hfirst.mem p (by simp [heq])
  obtain rfl : p = 0 := List.mem_singleton.mp hp
  show (1 : UInt64) < 1 + UInt64.ofInt (dueTimer.entries 0).intervalMs
  decide

/-- The clock moves by one millisecond from each reading to the next, three times. -/
def slowReadings (i : Nat) : UInt64 := if i = 0 then 1 else if i = 1 then 2 else 3

/-- The timer is put back with the expiry 3, and the next reading is 3. -/
theorem dueTimer_fires_twice : ¬ ∀ (s : TimerManager Unit) (now : Nat → UInt64),
    (machine Unit).Reachable s → s.loop = .collect [] → (∀ i j, i ≤ j → now i ≤ now j) →
    FairPass s now := by
  intro h
  have hmono : ∀ i j, i ≤ j → slowReadings i ≤ slowReadings j := by
    intro i j hij
    rw [slowReadings, slowReadings]
    split_ifs <;> first | decide | omega
  have hreach : (machine Unit).Reachable dueTimer := Machine.reachable_replay (reach_start 0) _
  have honce := (h dueTimer slowReadings hreach (by decide) hmono).once
  let c := (passMachine dueTimer slowReadings).replay ⟨dueTimer, 0, []⟩ [0, 0]
  have hfired : c.fired = [0, 0] := by decide
  have hnodup := honce c (Machine.reachable_replay (.start rfl) _)
  rw [hfired] at hnodup
  exact absurd hnodup (by decide)

end Balabala.TimerManager
