import Balabala.Foundation.Party
import Balabala.Actor.Scheduler.Wakeup

/-!
# What a step does to messages and batches

`Step` lists the steps of the scheduler one by one. Here they are grouped by what they do to the
mailboxes, to `readyQueue_` and to the batch of a worker, for results that do not look at the flags.
-/

namespace Balabala

open Foundation

/-- What the batch of a worker means for an actor: it has looked into the priority mailbox, or it
has a message. -/
def WorkPc.turn (a : ActorId) : WorkPc → Party.Turn
  | .popNormal b _ => if b = a then .looked else .idle
  | .onMessage b _ _ _ | .handler b _ => if b = a then .busy else .idle
  | _ => .idle

/-- How many messages of `a` the batch of a worker may still hand to `OnMessage`. -/
def WorkPc.share (a : ActorId) : WorkPc → Nat
  | .find b => if b = a then ActorSystem.batchSize else 0
  | .popPriority b n | .popNormal b n | .onMessage b n _ _ =>
    if b = a then 1 + (ActorSystem.batchSize - 1 - n) else 0
  | .handler b n => if b = a then ActorSystem.batchSize - 1 - n else 0
  | _ => 0

/-- Where a worker is that is about to pop the mailbox of a class. -/
def WorkPc.pops (a : ActorId) (processed : Nat) : Bool → WorkPc
  | true => .popPriority a processed
  | false => .popNormal a processed

lemma WorkPc.share_eq_zero {pc : WorkPc} {a : ActorId} (h : pc.token ≠ some a) :
    pc.share a = 0 := by
  cases pc <;> simp_all [WorkPc.share, WorkPc.token]

lemma WorkPc.turn_eq_idle {pc : WorkPc} {a : ActorId} (h : pc.token ≠ some a) :
    pc.turn a = .idle := by
  cases pc <;> simp_all [WorkPc.turn, WorkPc.token]

/-- A worker moves on to where no message is in its hands, with nothing new to hand out. -/
structure WorkPc.Away (pc pc' : WorkPc) : Prop where
  turn : ∀ a, pc'.turn a = .idle
  share : ∀ a, pc'.share a ≤ pc.share a

/-- From outside a batch. -/
structure WorkPc.Outside (pc pc' : WorkPc) : Prop extends pc.Away pc' where
  outside : ∀ a, pc.turn a = .idle

/-- With the same messages. -/
structure ActorObject.SameMessages (o o' : ActorObject) : Prop where
  mailbox : o'.mailbox = o.mailbox
  dispatched : o'.dispatched = o.dispatched

namespace ActorSystem

variable {Tid : Type*} [DecidableEq Tid]

inductive Effect (s : ActorSystem Tid) : ActorSystem Tid → Prop
  | actor (a : ActorId) (o : ActorObject) (ho : (s.actors a).SameMessages o) :
      Effect s (s.setActor a o)
  | send (t : Tid) (pc : SendPc) : Effect s (s.setSend t pc)
  | push (t : Tid) (a : ActorId) (msg : ActorMessage) (pc : SendPc) :
      Effect s ((s.setActor a ((s.actors a).pushMessage msg)).setSend t pc)
  | sendFlag (t : Tid) (a : ActorId) (scheduled : Bool) (pc : SendPc) :
      Effect s ((s.setActor a { s.actors a with scheduled }).setSend t pc)
  | sendReady (t : Tid) (a : ActorId) (pc : SendPc) :
      Effect s ((s.setReady (s.readyQueue.push a)).setSend t pc)
  | starve : Effect s s
  | pop (t : Tid) (a : ActorId) (q : SpinLockQueue ActorId) (hpc : (s.threads t).work = .pop)
      (hq : s.readyQueue.pop = some (a, q)) : Effect s ((s.setReady q).setWork t (.find a))
  | move (t : Tid) (pc : WorkPc) (hpc : (s.threads t).work.Outside pc) : Effect s (s.setWork t pc)
  | flag (t : Tid) (a : ActorId) (scheduled : Bool) (pc : WorkPc)
      (hpc : (s.threads t).work.Outside pc) :
      Effect s ((s.setActor a { s.actors a with scheduled }).setWork t pc)
  | ready (t : Tid) (a : ActorId) (pc : WorkPc) (hpc : (s.threads t).work.Outside pc) :
      Effect s ((s.setReady (s.readyQueue.push a)).setWork t pc)
  | take (t : Tid) (a : ActorId) (n : Nat) (p : Bool) (msg : ActorMessage)
      (q : SpinLockQueue ActorMessage) (hpc : (s.threads t).work = .pops a n p)
      (hq : ((s.actors a).mailbox p).pop = some (msg, q)) :
      Effect s ((s.setActor a ((s.actors a).setMailbox p q)).setWork t (.onMessage a n p msg))
  | look (t : Tid) (a : ActorId) (n : Nat) (hpc : (s.threads t).work = .pops a n true)
      (he : ((s.actors a).mailbox true).queue = []) : Effect s (s.setWork t (.pops a n false))
  | giveUp (t : Tid) (a : ActorId) (n : Nat) (hpc : (s.threads t).work = .pops a n false)
      (he : ((s.actors a).mailbox false).queue = []) : Effect s (s.setWork t (.checkPriority a))
  | dispatch (t : Tid) (a : ActorId) (n : Nat) (p : Bool) (msg : ActorMessage)
      (hpc : (s.threads t).work = .onMessage a n p msg) :
      Effect s ((s.setActor a ((s.actors a).dispatch p msg)).setWork t (.handler a n))
  | finish (t : Tid) (a : ActorId) (n : Nat) (pc : WorkPc) (hpc : (s.threads t).work = .handler a n)
      (haway : (s.threads t).work.Away pc) : Effect s (s.setWork t pc)

variable {s s' : ActorSystem Tid} {t : Tid}

lemma Effect.of_sendNext (h : s.sendNext t (s.threads t).send = some s') : Effect s s' := by
  cases hpc : (s.threads t).send with
  | idle => simp [hpc, sendNext] at h
  | find a msg =>
    simp only [hpc, sendNext] at h
    split_ifs at h
    · cases h; exact .send t _
    · cases h; exact .send t _
  | push a msg =>
    simp only [hpc, sendNext] at h
    cases h; exact .push t a msg _
  | exchange a =>
    simp only [hpc, sendNext] at h
    split_ifs at h
    · cases h; exact .send t _
    · cases h; exact .sendFlag t a true _
  | enqueue a =>
    simp only [hpc, sendNext] at h
    cases h; exact .sendReady t a _

/-- Neither place is inside a batch or before one. -/
lemma outside_of_eq {pc pc' : WorkPc} (h : ∀ a, pc.turn a = .idle)
    (h' : ∀ a, pc'.turn a = .idle ∧ pc'.share a = 0) : pc.Outside pc' where
  turn a := (h' a).1
  share a := (h' a).2.trans_le (Nat.zero_le _)
  outside := h

lemma Effect.of_workNext (h : s.workNext t (s.threads t).work = some s') : Effect s s' := by
  cases hpc : (s.threads t).work with
  | outside | handler a n => simp [hpc, workNext] at h
  | pop =>
    simp only [hpc, workNext] at h
    split at h
    · cases h; exact .starve
    · cases h; exact .pop t _ _ hpc ‹_›
  | find a =>
    simp only [hpc, workNext] at h
    split_ifs at h
    · cases h
      exact .move t _ ⟨⟨fun _ => rfl, by simp [hpc, WorkPc.share, batchSize]⟩, by
        simp [hpc, WorkPc.turn]⟩
    · cases h
      exact .move t _ (outside_of_eq (by simp [hpc, WorkPc.turn]) fun _ => ⟨rfl, rfl⟩)
  | popPriority a n =>
    simp only [hpc, workNext] at h
    split at h
    · cases h; exact .take t a n true _ _ hpc ‹_›
    · rename_i hq
      cases h; exact .look t a n hpc (SpinLockQueue.pop_eq_none hq)
  | popNormal a n =>
    simp only [hpc, workNext] at h
    split at h
    · cases h; exact .take t a n false _ _ hpc ‹_›
    · rename_i hq
      cases h; exact .giveUp t a n hpc (SpinLockQueue.pop_eq_none hq)
  | onMessage a n p msg =>
    simp only [hpc, workNext] at h
    cases h; exact .dispatch t a n p msg hpc
  | checkPriority a | checkNormal a | recheckPriority a | recheckNormal a =>
    have hout : ∀ pc' : WorkPc, (∀ b, pc'.turn b = .idle ∧ pc'.share b = 0) →
        (s.threads t).work.Outside pc' := fun _ => outside_of_eq (by simp [hpc, WorkPc.turn])
    simp only [hpc, workNext] at h
    split_ifs at h
    · cases h; exact .move t _ (hout _ fun _ => ⟨rfl, rfl⟩)
    · cases h; exact .move t _ (hout _ fun _ => ⟨rfl, rfl⟩)
  | enqueue a | reenqueue a =>
    simp only [hpc, workNext] at h
    cases h
    exact .ready t a _ (outside_of_eq (by simp [hpc, WorkPc.turn]) fun _ => ⟨rfl, rfl⟩)
  | clear a =>
    simp only [hpc, workNext] at h
    cases h
    exact .flag t a false _ (outside_of_eq (by simp [hpc, WorkPc.turn]) fun _ => ⟨rfl, rfl⟩)
  | exchange a =>
    simp only [hpc, workNext] at h
    split_ifs at h
    · cases h
      exact .move t _ (outside_of_eq (by simp [hpc, WorkPc.turn]) fun _ => ⟨rfl, rfl⟩)
    · cases h
      exact .flag t a true _ (outside_of_eq (by simp [hpc, WorkPc.turn]) fun _ => ⟨rfl, rfl⟩)

/-- After a message the batch goes on with one message less. -/
lemma away_continueBatch (a : ActorId) (n : Nat) :
    (WorkPc.handler a n).Away (continueBatch a n) := by
  rw [continueBatch]
  split_ifs with hn
  · refine ⟨fun _ => rfl, fun b => ?_⟩
    rw [WorkPc.share, WorkPc.share]
    split_ifs
    · omega
    · rfl
  · exact ⟨fun _ => rfl, fun _ => Nat.zero_le _⟩

/-- Every transition of the machine is one of these. -/
theorem Effect.of_next {l : Action Tid} (h : (machine Tid).next s l = some s') : Effect s s' := by
  change next s l = some s' at h
  cases l with
  | register a | unregister a =>
    simp only [next] at h
    split_ifs at h
    cases h; exact .actor a _ ⟨by rfl, by rfl⟩
  | callSend u a msg =>
    simp only [next] at h
    split_ifs at h
    cases h; exact .send u _
  | send u => exact .of_sendNext h
  | work u =>
    simp only [next] at h
    split at h
    · exact .of_workNext h
    · cases h
  | finish u threw =>
    simp only [next] at h
    split at h
    · rename_i a n hpc _
      cases h
      refine .finish u a n _ hpc ?_
      rw [hpc]
      split_ifs
      · exact ⟨fun _ => rfl, fun _ => Nat.zero_le _⟩
      · exact away_continueBatch a n
    · cases h

end ActorSystem

end Balabala
