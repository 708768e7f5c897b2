import Balabala.Timer.Basic

/-!
# What one step of the timer manager can do

`Step` lists the steps with their labels, guards and effects, and every transition of the machine
is one of them (`Step.of_next`).
-/

namespace Balabala.TimerManager

open Foundation

variable {Tid : Type*} [DecidableEq Tid]

inductive Step (s : TimerManager Tid) : Action Tid → TimerManager Tid → Prop
  | tick (time : UInt64) (hle : s.clock ≤ time) : Step s (.tick time) { s with clock := time }
  | setTimeout (t : Tid) (a : ActorId) (d : Int) (msg : ActorMessage) (hpc : s.adders t = .idle) :
      Step s (.setTimeout t a d msg) (s.addTimer t a d msg 0)
  | setInterval (t : Tid) (a : ActorId) (d : Int) (msg : ActorMessage) (hpc : s.adders t = .idle)
      (hd : 0 < d) : Step s (.setInterval t a d msg) (s.addTimer t a d msg d)
  | insert (t : Tid) (p : Nat) (hpc : s.adders t = .insert p) (hl : s.loop.locked = false) :
      Step s (.insert t) (s.insert t p)
  | notify (t : Tid) (hpc : s.adders t = .notify) :
      Step s (.notify t)
        { s with adders := Function.update s.adders t .idle, loop := s.loop.notify }
  | cancel (id : TimerId) (hl : s.loop.locked = false) : Step s (.cancel id) (s.cancelTimer id)
  | iterate (hpc : s.loop = .top) (hr : s.running = true) : Step s .loop { s with loop := .lock }
  | leave (hpc : s.loop = .top ∨ s.loop = .woken) (hr : s.running = false) :
      Step s .loop { s with loop := .exited }
  | lock (hpc : s.loop = .lock) : Step s .loop { s with loop := .examine }
  | sawEmpty (hpc : s.loop = .examine) (hh : s.heap = []) :
      Step s .loop { s with loop := .enterEmpty }
  | readClock (hpc : s.loop = .examine) (hh : s.heap ≠ []) :
      Step s .loop { s with loop := .compare s.clock }
  | notYet (p : Nat) (now : UInt64) (hpc : s.loop = .compare now) (hp : s.IsTop p)
      (hlt : now < s.expire p) : Step s (.top p) { s with loop := .enterNext now (s.expire p) }
  | due (p : Nat) (now : UInt64) (hpc : s.loop = .compare now) (hp : s.IsTop p)
      (hle : ¬ now < s.expire p) : Step s (.top p) { s with loop := .collect [] }
  | waitEmpty (hpc : s.loop = .enterEmpty) :
      Step s .loop { s with loop := .test .noTimer (s.clock.toNat + 100) false }
  | waitNext (now e : UInt64) (hpc : s.loop = .enterNext now e) :
      Step s .loop
        { s with loop := .test .nextTimer (s.clock.toNat + milliseconds (e - now)) false }
  | finish (k : WaitKind) (deadline : Int) (timedOut : Bool)
      (hpc : s.loop = .test k deadline timedOut) (h : s.predicate k = true ∨ timedOut = true) :
      Step s .loop { s with loop := k.after }
  | block (k : WaitKind) (deadline : Int) (hpc : s.loop = .test k deadline false)
      (h : s.predicate k = false) : Step s .loop { s with loop := .blocked k deadline false }
  | wake (k : WaitKind) (deadline : Int) (notified timedOut : Bool)
      (hpc : s.loop = .blocked k deadline notified)
      (h : timedOut = true → deadline ≤ s.clock.toNat) :
      Step s (.wake timedOut) { s with loop := .test k deadline timedOut }
  | again (hpc : s.loop = .woken) (hr : s.running = true) : Step s .loop { s with loop := .top }
  | collect (p : Nat) (toFire : List (ActorId × ActorMessage)) (hpc : s.loop = .collect toFire)
      (hp : s.IsTop p) (hle : s.expire p ≤ s.clock) : Step s (.top p) (s.collectTop p toFire)
  | noneDue (p : Nat) (toFire : List (ActorId × ActorMessage)) (hpc : s.loop = .collect toFire)
      (hp : s.IsTop p) (hlt : ¬ s.expire p ≤ s.clock) :
      Step s (.top p) { s with loop := .fire toFire }
  | noneLeft (toFire : List (ActorId × ActorMessage)) (hpc : s.loop = .collect toFire)
      (hh : s.heap = []) : Step s .loop { s with loop := .fire toFire }
  | rearm (p : Nat) (toFire : List (ActorId × ActorMessage)) (hpc : s.loop = .rearm p toFire) :
      Step s .loop
        { s with
          entries := Function.update s.entries p { s.entries p with
            expireTimeMs := s.clock + UInt64.ofInt (s.entries p).intervalMs }
          heap := p :: s.heap
          loop := .collect toFire }
  | send (x : ActorId × ActorMessage) (toFire : List (ActorId × ActorMessage))
      (hpc : s.loop = .fire (x :: toFire)) :
      Step s .loop
        { s with sent := if s.running then s.sent ++ [x] else s.sent, loop := .fire toFire }
  | allSent (hpc : s.loop = .fire []) : Step s .loop { s with loop := .top }
  | stopExchange (hr : s.running = true) :
      Step s .stopExchange { s with running := false, stop := .notifyAll }
  | stopAgain (hr : s.running = false) : Step s .stopExchange s
  | notifyAll (hpc : s.stop = .notifyAll) :
      Step s .notifyAll { s with stop := .join, loop := s.loop.notify }
  | join (hpc : s.stop = .join) (hl : s.loop = .exited) :
      Step s .join { s with stop := .stopped, heap := [], timerMap := fun _ => none }

/-- The steps of the timer thread that do not look at the top of the heap. -/
private lemma Step.of_loopNext {s s' : TimerManager Tid} (h : s.loopNext = some s') :
    Step s .loop s' := by
  cases hpc : s.loop with
  | top =>
    simp only [loopNext, hpc, Option.some.injEq] at h
    subst h
    split_ifs with hr
    · exact .iterate hpc hr
    · exact .leave (.inl hpc) (by simpa using hr)
  | lock =>
    simp only [loopNext, hpc, Option.some.injEq] at h
    subst h
    exact .lock hpc
  | examine =>
    simp only [loopNext, hpc, Option.some.injEq] at h
    subst h
    split_ifs with hh
    · exact .sawEmpty hpc (by simpa using hh)
    · exact .readClock hpc (by simpa using hh)
  | compare now | blocked k deadline notified | exited => simp [loopNext, hpc] at h
  | enterEmpty =>
    simp only [loopNext, hpc, Option.some.injEq] at h
    subst h
    exact .waitEmpty hpc
  | enterNext now e =>
    simp only [loopNext, hpc, Option.some.injEq] at h
    subst h
    exact .waitNext now e hpc
  | test k deadline timedOut =>
    simp only [loopNext, hpc, Option.some.injEq] at h
    subst h
    split_ifs with hp
    · exact .finish k deadline timedOut hpc (by simpa using hp)
    · simp only [Bool.or_eq_true, not_or, Bool.not_eq_true] at hp
      obtain ⟨hp, rfl⟩ := hp
      exact .block k deadline hpc hp
  | woken =>
    simp only [loopNext, hpc, Option.some.injEq] at h
    subst h
    split_ifs with hr
    · exact .again hpc hr
    · exact .leave (.inr hpc) (by simpa using hr)
  | collect toFire =>
    simp only [loopNext, hpc] at h
    split_ifs at h with hh
    cases h
    exact .noneLeft toFire hpc (by simpa using hh)
  | rearm p toFire =>
    simp only [loopNext, hpc, Option.some.injEq] at h
    subst h
    exact .rearm p toFire hpc
  | fire toFire =>
    cases toFire with
    | nil =>
      simp only [loopNext, hpc, Option.some.injEq] at h
      subst h
      exact .allSent hpc
    | cons x toFire =>
      simp only [loopNext, hpc, Option.some.injEq] at h
      subst h
      exact .send x toFire hpc

private lemma Step.of_topNext {s s' : TimerManager Tid} {p : Nat} (hp : s.IsTop p)
    (h : s.topNext p = some s') : Step s (.top p) s' := by
  rw [topNext] at h
  split at h
  · rename_i now hpc
    split_ifs at h with hlt
    · cases h; exact .notYet p now hpc hp hlt
    · cases h; exact .due p now hpc hp hlt
  · rename_i toFire hpc
    split_ifs at h with hle
    · cases h; exact .collect p toFire hpc hp hle
    · cases h; exact .noneDue p toFire hpc hp hle
  · cases h

/-- Every transition of the machine is one of the steps. -/
theorem Step.of_next {s s' : TimerManager Tid} {l : Action Tid}
    (h : (machine Tid).next s l = some s') : Step s l s' := by
  change next s l = some s' at h
  cases l with
  | tick time =>
    simp only [next] at h
    split_ifs at h with hle
    cases h; exact .tick time hle
  | setTimeout t a d msg =>
    simp only [next] at h
    split_ifs at h with hpc
    cases h; exact .setTimeout t a d msg hpc
  | setInterval t a d msg =>
    simp only [next] at h
    split_ifs at h with hpc
    cases h; exact .setInterval t a d msg hpc.1 hpc.2
  | insert t =>
    simp only [next] at h
    split at h
    · split_ifs at h with hl
      cases h; exact .insert t _ ‹_› (by simpa using hl)
    · cases h
  | notify t =>
    simp only [next] at h
    split_ifs at h with hpc
    cases h; exact .notify t hpc
  | cancel id =>
    simp only [next] at h
    split_ifs at h with hl
    cases h; exact .cancel id (by simpa using hl)
  | loop => exact .of_loopNext h
  | top p =>
    simp only [next] at h
    split_ifs at h with hp
    exact .of_topNext hp h
  | wake timedOut =>
    simp only [next] at h
    split at h
    · rename_i k deadline notified hpc
      split_ifs at h with hc
      cases h
      refine .wake k deadline notified timedOut hpc fun ht => ?_
      simpa [ht] using hc
    · cases h
  | stopExchange =>
    simp only [next] at h
    split_ifs at h with hr
    · cases h; exact .stopExchange hr
    · cases h; exact .stopAgain (by simpa using hr)
  | notifyAll =>
    simp only [next] at h
    split_ifs at h with hpc
    cases h; exact .notifyAll hpc
  | join =>
    simp only [next] at h
    split_ifs at h with hpc
    cases h; exact .join hpc.1 hpc.2

end Balabala.TimerManager
