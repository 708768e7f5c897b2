import Balabala.Actor.Scheduler.Basic

/-!
# What one step of the scheduler can do

`Step` lists the atomic steps with their guards and effects. Every transition of the machine is
one of them (`Step.of_next`), so that invariants are proved by cases on `Step` and never unfold
the step functions.
-/

namespace Balabala.ActorSystem

open Foundation

variable {Tid : Type*}

/-! ### Reading back the updates -/

section Updates

variable (s : ActorSystem Tid) (a b : ActorId) (o : ActorObject) (q : SpinLockQueue ActorId)

@[simp] lemma actors_setActor_self : (s.setActor a o).actors a = o := by simp [setActor]

lemma actors_setActor (h : b ≠ a) : (s.setActor a o).actors b = s.actors b := by
  simp [setActor, h]

@[simp] lemma threads_setActor : (s.setActor a o).threads = s.threads := rfl
@[simp] lemma readyQueue_setActor : (s.setActor a o).readyQueue = s.readyQueue := rfl

@[simp] lemma actors_setReady : (s.setReady q).actors = s.actors := rfl
@[simp] lemma threads_setReady : (s.setReady q).threads = s.threads := rfl
@[simp] lemma readyQueue_setReady : (s.setReady q).readyQueue = q := rfl

variable [DecidableEq Tid] (t u : Tid) (pc : WorkPc) (spc : SendPc)

@[simp] lemma actors_setWork : (s.setWork t pc).actors = s.actors := rfl
@[simp] lemma readyQueue_setWork : (s.setWork t pc).readyQueue = s.readyQueue := rfl

@[simp] lemma work_setWork_self : ((s.setWork t pc).threads t).work = pc := by simp [setWork]

lemma work_setWork (h : u ≠ t) : ((s.setWork t pc).threads u).work = (s.threads u).work := by
  simp [setWork, h]

@[simp] lemma send_setWork : ((s.setWork t pc).threads u).send = (s.threads u).send := by
  by_cases h : u = t
  · subst h; simp [setWork]
  · simp [setWork, h]

@[simp] lemma actors_setSend : (s.setSend t spc).actors = s.actors := rfl
@[simp] lemma readyQueue_setSend : (s.setSend t spc).readyQueue = s.readyQueue := rfl

@[simp] lemma send_setSend_self : ((s.setSend t spc).threads t).send = spc := by simp [setSend]

lemma send_setSend (h : u ≠ t) : ((s.setSend t spc).threads u).send = (s.threads u).send := by
  simp [setSend, h]

@[simp] lemma work_setSend : ((s.setSend t spc).threads u).work = (s.threads u).work := by
  by_cases h : u = t
  · subst h; simp [setSend]
  · simp [setSend, h]

end Updates

variable [DecidableEq Tid]

/-! ### The atomic steps -/

inductive Step (s : ActorSystem Tid) : ActorSystem Tid → Prop
  | register (a : ActorId) (hr : (s.actors a).registration = .absent) :
      Step s (s.setActor a { s.actors a with registration := .registered })
  | unregister (a : ActorId) (hr : (s.actors a).registration = .registered) :
      Step s (s.setActor a { s.actors a with registration := .removed })
  | callSend (t : Tid) (a : ActorId) (msg : ActorMessage) (hpc : (s.threads t).send = .idle) :
      Step s (s.setSend t (.find a msg))
  | sendFound (t : Tid) (a : ActorId) (msg : ActorMessage)
      (hpc : (s.threads t).send = .find a msg)
      (hr : (s.actors a).registration = .registered) : Step s (s.setSend t (.push a msg))
  | sendLost (t : Tid) (a : ActorId) (msg : ActorMessage)
      (hpc : (s.threads t).send = .find a msg) : Step s (s.setSend t .idle)
  | sendPush (t : Tid) (a : ActorId) (msg : ActorMessage)
      (hpc : (s.threads t).send = .push a msg) :
      Step s ((s.setActor a ((s.actors a).pushMessage msg)).setSend t (.exchange a))
  | sendRefused (t : Tid) (a : ActorId) (hpc : (s.threads t).send = .exchange a)
      (hf : (s.actors a).scheduled = true) : Step s (s.setSend t .idle)
  | sendExchange (t : Tid) (a : ActorId) (hpc : (s.threads t).send = .exchange a)
      (hf : (s.actors a).scheduled = false) :
      Step s ((s.setActor a { s.actors a with scheduled := true }).setSend t (.enqueue a))
  | sendEnqueue (t : Tid) (a : ActorId) (hpc : (s.threads t).send = .enqueue a) :
      Step s ((s.setReady (s.readyQueue.push a)).setSend t .idle)
  | starve (t : Tid) : Step s s
  | pop (t : Tid) (a : ActorId) (q : SpinLockQueue ActorId) (hpc : (s.threads t).work = .pop)
      (hq : s.readyQueue.pop = some (a, q)) : Step s ((s.setReady q).setWork t (.find a))
  | found (t : Tid) (a : ActorId) (hpc : (s.threads t).work = .find a)
      (hr : (s.actors a).registration = .registered) : Step s (s.setWork t (.popPriority a 0))
  | lost (t : Tid) (a : ActorId) (hpc : (s.threads t).work = .find a)
      (hr : (s.actors a).registration ≠ .registered) : Step s (s.setWork t .pop)
  | popPriority (t : Tid) (a : ActorId) (n : Nat) (msg : ActorMessage)
      (q : SpinLockQueue ActorMessage) (hpc : (s.threads t).work = .popPriority a n)
      (hq : (s.actors a).priorityMailbox.pop = some (msg, q)) :
      Step s ((s.setActor a ((s.actors a).setMailbox true q)).setWork t (.onMessage a n true msg))
  | noPriority (t : Tid) (a : ActorId) (n : Nat) (hpc : (s.threads t).work = .popPriority a n) :
      Step s (s.setWork t (.popNormal a n))
  | popNormal (t : Tid) (a : ActorId) (n : Nat) (msg : ActorMessage)
      (q : SpinLockQueue ActorMessage) (hpc : (s.threads t).work = .popNormal a n)
      (hq : (s.actors a).normalMailbox.pop = some (msg, q)) :
      Step s ((s.setActor a ((s.actors a).setMailbox false q)).setWork t
        (.onMessage a n false msg))
  | noNormal (t : Tid) (a : ActorId) (n : Nat) (hpc : (s.threads t).work = .popNormal a n) :
      Step s (s.setWork t (.checkPriority a))
  | onMessage (t : Tid) (a : ActorId) (n : Nat) (p : Bool) (msg : ActorMessage)
      (hpc : (s.threads t).work = .onMessage a n p msg) :
      Step s ((s.setActor a ((s.actors a).dispatch p msg)).setWork t (.handler a n))
  | finish (t : Tid) (a : ActorId) (n : Nat) (pc : WorkPc)
      (hpc : (s.threads t).work = .handler a n)
      (hn : pc = .checkPriority a ∨ ∃ k, pc = .popPriority a k) : Step s (s.setWork t pc)
  | checkPriority (t : Tid) (a : ActorId) (hpc : (s.threads t).work = .checkPriority a) :
      Step s (s.setWork t (.checkNormal a))
  | checkNormal (t : Tid) (a : ActorId) (hpc : (s.threads t).work = .checkNormal a) :
      Step s (s.setWork t (.clear a))
  | nonEmpty (t : Tid) (a : ActorId)
      (hpc : (s.threads t).work = .checkPriority a ∨ (s.threads t).work = .checkNormal a) :
      Step s (s.setWork t (.enqueue a))
  | enqueue (t : Tid) (a : ActorId)
      (hpc : (s.threads t).work = .enqueue a ∨ (s.threads t).work = .reenqueue a) :
      Step s ((s.setReady (s.readyQueue.push a)).setWork t .pop)
  | clear (t : Tid) (a : ActorId) (hpc : (s.threads t).work = .clear a) :
      Step s ((s.setActor a { s.actors a with scheduled := false }).setWork t (.recheckPriority a))
  | recheckPriority (t : Tid) (a : ActorId) (hpc : (s.threads t).work = .recheckPriority a)
      (he : (s.actors a).priorityMailbox.queue = []) : Step s (s.setWork t (.recheckNormal a))
  | recheckNormal (t : Tid) (a : ActorId) (hpc : (s.threads t).work = .recheckNormal a)
      (he : (s.actors a).normalMailbox.queue = []) : Step s (s.setWork t .pop)
  | recheckFull (t : Tid) (a : ActorId)
      (hpc : (s.threads t).work = .recheckPriority a ∨ (s.threads t).work = .recheckNormal a) :
      Step s (s.setWork t (.exchange a))
  | refused (t : Tid) (a : ActorId) (hpc : (s.threads t).work = .exchange a)
      (hf : (s.actors a).scheduled = true) : Step s (s.setWork t .pop)
  | exchange (t : Tid) (a : ActorId) (hpc : (s.threads t).work = .exchange a)
      (hf : (s.actors a).scheduled = false) :
      Step s ((s.setActor a { s.actors a with scheduled := true }).setWork t (.reenqueue a))

/-- Every step of a `Send` is an atomic step. -/
private lemma Step.of_sendNext {s s' : ActorSystem Tid} {t : Tid}
    (h : s.sendNext t (s.threads t).send = some s') : Step s s' := by
  cases hpc : (s.threads t).send with
  | idle => simp [hpc, sendNext] at h
  | find a msg =>
    simp only [hpc, sendNext] at h
    split_ifs at h with hr
    · cases h; exact .sendFound t a msg hpc hr
    · cases h; exact .sendLost t a msg hpc
  | push a msg =>
    simp only [hpc, sendNext] at h
    cases h; exact .sendPush t a msg hpc
  | exchange a =>
    simp only [hpc, sendNext] at h
    split_ifs at h with hf
    · cases h; exact .sendRefused t a hpc hf
    · cases h; exact .sendExchange t a hpc (by simpa using hf)
  | enqueue a =>
    simp only [hpc, sendNext] at h
    cases h; exact .sendEnqueue t a hpc

/-- Every step of `workerLoop` is an atomic step. -/
private lemma Step.of_workNext {s s' : ActorSystem Tid} {t : Tid}
    (h : s.workNext t (s.threads t).work = some s') : Step s s' := by
  cases hpc : (s.threads t).work with
  | outside | handler a n => simp [hpc, workNext] at h
  | pop =>
    simp only [hpc, workNext] at h
    split at h
    · cases h; exact .starve t
    · cases h; exact .pop t _ _ hpc ‹_›
  | find a =>
    simp only [hpc, workNext] at h
    split_ifs at h with hr
    · cases h; exact .found t a hpc hr
    · cases h; exact .lost t a hpc hr
  | popPriority a n =>
    simp only [hpc, workNext] at h
    split at h
    · cases h; exact .popPriority t a n _ _ hpc ‹_›
    · cases h; exact .noPriority t a n hpc
  | popNormal a n =>
    simp only [hpc, workNext] at h
    split at h
    · cases h; exact .popNormal t a n _ _ hpc ‹_›
    · cases h; exact .noNormal t a n hpc
  | onMessage a n p msg =>
    simp only [hpc, workNext] at h
    cases h; exact .onMessage t a n p msg hpc
  | checkPriority a =>
    simp only [hpc, workNext] at h
    split_ifs at h
    · cases h; exact .checkPriority t a hpc
    · cases h; exact .nonEmpty t a (.inl hpc)
  | checkNormal a =>
    simp only [hpc, workNext] at h
    split_ifs at h
    · cases h; exact .checkNormal t a hpc
    · cases h; exact .nonEmpty t a (.inr hpc)
  | enqueue a =>
    simp only [hpc, workNext] at h
    cases h; exact .enqueue t a (.inl hpc)
  | clear a =>
    simp only [hpc, workNext] at h
    cases h; exact .clear t a hpc
  | recheckPriority a =>
    simp only [hpc, workNext] at h
    split_ifs at h with he
    · cases h; exact .recheckPriority t a hpc (by simpa using he)
    · cases h; exact .recheckFull t a (.inl hpc)
  | recheckNormal a =>
    simp only [hpc, workNext] at h
    split_ifs at h with he
    · cases h; exact .recheckNormal t a hpc (by simpa using he)
    · cases h; exact .recheckFull t a (.inr hpc)
  | exchange a =>
    simp only [hpc, workNext] at h
    split_ifs at h with hf
    · cases h; exact .refused t a hpc hf
    · cases h; exact .exchange t a hpc (by simpa using hf)
  | reenqueue a =>
    simp only [hpc, workNext] at h
    cases h; exact .enqueue t a (.inr hpc)

/-- Every transition of the machine is an atomic step. -/
theorem Step.of_next {s s' : ActorSystem Tid} {l : Action Tid}
    (h : (machine Tid).next s l = some s') : Step s s' := by
  change next s l = some s' at h
  cases l with
  | register a =>
    simp only [next] at h
    split_ifs at h with hr
    cases h; exact .register a hr
  | unregister a =>
    simp only [next] at h
    split_ifs at h with hr
    cases h; exact .unregister a hr
  | callSend t a msg =>
    simp only [next] at h
    split_ifs at h with hc
    cases h
    refine .callSend t a msg ?_
    rw [mayCallSend] at hc
    split at hc
    · assumption
    · assumption
    · simp at hc
  | send t => exact .of_sendNext h
  | work t =>
    simp only [next] at h
    split at h
    · exact .of_workNext h
    · cases h
  | finish t threw =>
    simp only [next] at h
    split at h
    · rename_i a n hpc _
      cases h
      refine .finish t a n _ hpc ?_
      rw [continueBatch]
      split_ifs
      · exact .inl rfl
      · exact .inr ⟨_, rfl⟩
      · exact .inl rfl
    · cases h

end Balabala.ActorSystem
