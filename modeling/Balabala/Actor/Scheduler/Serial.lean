import Balabala.Foundation.Ticket
import Balabala.Actor.Scheduler.Step

/-!
# Actors are serialised

A scheduling token of an actor is an entry of `readyQueue_`, a worker that popped the id and has
neither pushed it again nor cleared `scheduled_`, or a thread between a successful
compare-exchange and its push. Tokens are the tickets of `Foundation.Ticket`, with `scheduled_`
for the flag: every step of the scheduler is a step of the ticket protocol or moves no ticket.
-/

namespace Balabala

open Foundation

/-- The actor whose token a worker holds. -/
def WorkPc.token : WorkPc → Option ActorId
  | .outside | .pop | .recheckPriority _ | .recheckNormal _ | .exchange _ => none
  | .find a | .popPriority a _ | .popNormal a _ | .onMessage a _ _ _ | .handler a _ => some a
  | .checkPriority a | .checkNormal a | .enqueue a | .clear a | .reenqueue a => some a

/-- The actor whose token a thread inside `Send` holds. -/
def SendPc.token : SendPc → Option ActorId
  | .idle | .find _ _ | .push _ _ | .exchange _ => none
  | .enqueue a => some a

/-- The actor whose `ProcessOne` batch a worker is inside. -/
def WorkPc.batch : WorkPc → Option ActorId
  | .popPriority a _ | .popNormal a _ | .onMessage a _ _ _ | .handler a _ => some a
  | _ => none

lemma WorkPc.token_of_batch {pc : WorkPc} {a : ActorId} (h : pc.batch = some a) :
    pc.token = some a := by
  cases pc <;> simp_all [WorkPc.batch, WorkPc.token]

namespace ActorSystem

variable {Tid : Type*}

/-! ### Tokens as tickets -/

/-- A thread holds tokens on two accounts: its `workerLoop` (left) and its `Send` (right). -/
def held (s : ActorSystem Tid) : Tid ⊕ Tid → Option ActorId
  | .inl t => (s.threads t).work.token
  | .inr t => (s.threads t).send.token

/-- The tokens of a state. -/
def tokens (s : ActorSystem Tid) : Ticket.State ActorId (Tid ⊕ Tid) where
  queue := s.readyQueue.queue
  held := s.held
  flag := fun a => (s.actors a).scheduled

lemma held_worker {s : ActorSystem Tid} {t : Tid} {pc : WorkPc} (h : (s.threads t).work = pc) :
    s.tokens.held (.inl t) = pc.token := congrArg WorkPc.token h

lemma held_sender {s : ActorSystem Tid} {t : Tid} {pc : SendPc} (h : (s.threads t).send = pc) :
    s.tokens.held (.inr t) = pc.token := congrArg SendPc.token h

section Updates

variable (s : ActorSystem Tid) (a : ActorId) (o : ActorObject) (q : SpinLockQueue ActorId)

lemma tokens_setActor :
    (s.setActor a o).tokens =
      { s.tokens with flag := Function.update s.tokens.flag a o.scheduled } := by
  refine congrArg (Ticket.State.mk _ _) (funext fun b => ?_)
  by_cases h : b = a
  · subst h; simp
  · simp [actors_setActor _ _ _ _ h, h, tokens]

/-- Writing back an actor with the same `scheduled_` moves no token. -/
lemma tokens_setActor_same (h : o.scheduled = (s.actors a).scheduled) :
    (s.setActor a o).tokens = s.tokens := by
  rw [tokens_setActor, h]
  exact congrArg (Ticket.State.mk _ _) (Function.update_eq_self a s.tokens.flag)

lemma tokens_setReady : (s.setReady q).tokens = { s.tokens with queue := q.queue } := rfl

variable [DecidableEq Tid] (t : Tid)

lemma tokens_setWork (pc : WorkPc) : (s.setWork t pc).tokens =
    { s.tokens with held := Function.update s.tokens.held (.inl t) pc.token } := by
  have hheld : (s.setWork t pc).held = Function.update s.held (.inl t) pc.token := by
    funext p
    rcases p with u | u
    · by_cases h : u = t
      · subst h; simp [held]
      · simp [held, work_setWork _ _ _ _ h, h]
    · simp [held]
  rw [tokens]
  rw [hheld]
  rfl

lemma tokens_setSend (pc : SendPc) : (s.setSend t pc).tokens =
    { s.tokens with held := Function.update s.tokens.held (.inr t) pc.token } := by
  have hheld : (s.setSend t pc).held = Function.update s.held (.inr t) pc.token := by
    funext p
    rcases p with u | u
    · simp [held]
    · by_cases h : u = t
      · subst h; simp [held]
      · simp [held, send_setSend _ _ _ _ h, h]
  rw [tokens]
  rw [hheld]
  rfl

/-- A worker that moves without taking or giving up a token changes nothing. -/
lemma tokens_setWork_same {pc : WorkPc} (h : pc.token = (s.threads t).work.token) :
    (s.setWork t pc).tokens = s.tokens := by
  rw [tokens_setWork, h]
  exact congrArg (Ticket.State.mk _ · _) (Function.update_eq_self (Sum.inl t) s.tokens.held)

lemma tokens_setSend_same {pc : SendPc} (h : pc.token = (s.threads t).send.token) :
    (s.setSend t pc).tokens = s.tokens := by
  rw [tokens_setSend, h]
  exact congrArg (Ticket.State.mk _ · _) (Function.update_eq_self (Sum.inr t) s.tokens.held)

end Updates

end ActorSystem

/-! ### The mailbox operations leave the flag alone -/

namespace ActorObject

@[simp] lemma scheduled_setMailbox (o : ActorObject) (p : Bool) (q : SpinLockQueue ActorMessage) :
    (o.setMailbox p q).scheduled = o.scheduled := by
  cases p <;> rfl

@[simp] lemma scheduled_pushMessage (o : ActorObject) (msg : ActorMessage) :
    (o.pushMessage msg).scheduled = o.scheduled := by
  rw [pushMessage]
  split_ifs <;> simp

end ActorObject

namespace ActorSystem

variable {Tid : Type*} [DecidableEq Tid]

/-- Every step of the scheduler moves the tokens as the ticket protocol allows, or not at all. Only
the token of an actor that is not registered gets lost. -/
theorem Step.tokens {s s' : ActorSystem Tid} (h : Step s s') :
    s'.tokens = s.tokens ∨
      Ticket.Step (fun a => (s.actors a).registration ≠ .registered) s.tokens s'.tokens := by
  cases h with
  | register a hr | unregister a hr => exact .inl (tokens_setActor_same _ _ _ rfl)
  | callSend t a msg hpc | sendFound t a msg hpc | sendLost t a msg hpc | sendRefused t a hpc =>
    exact .inl (tokens_setSend_same _ _ (by rw [hpc]; rfl))
  | sendPush t a msg hpc =>
    left
    rw [tokens_setSend_same _ _ (by simp [hpc, SendPc.token])]
    exact tokens_setActor_same _ _ _ (by simp)
  | sendExchange t a hpc hf =>
    right
    rw [tokens_setSend, tokens_setActor]
    exact .acquire _ a (held_sender hpc) hf
  | sendEnqueue t a hpc =>
    right
    rw [tokens_setSend, tokens_setReady]
    exact .enqueue _ a (held_sender hpc)
  | starve t => exact .inl rfl
  | pop t a q hpc hq =>
    right
    rw [tokens_setWork, tokens_setReady]
    exact .dequeue _ a q.queue (held_worker hpc) (SpinLockQueue.pop_eq_some hq).1
  | lost t a hpc hr =>
    right
    rw [tokens_setWork]
    exact .drop _ a (held_worker hpc) hr
  | found t a hpc | noPriority t a n hpc | noNormal t a n hpc | checkPriority t a hpc
  | checkNormal t a hpc | recheckPriority t a hpc | recheckNormal t a hpc | refused t a hpc =>
    exact .inl (tokens_setWork_same _ _ (by rw [hpc]; rfl))
  | popPriority t a n msg q hpc | popNormal t a n msg q hpc =>
    left
    rw [tokens_setWork_same _ _ (by simp [hpc, WorkPc.token])]
    exact tokens_setActor_same _ _ _ (by simp)
  | onMessage t a n p msg hpc =>
    left
    rw [tokens_setWork_same _ _ (by simp [hpc, WorkPc.token])]
    exact tokens_setActor_same _ _ _ rfl
  | finish t a n pc hpc hn =>
    left
    rcases hn with rfl | ⟨k, rfl⟩ <;> exact tokens_setWork_same _ _ (by rw [hpc]; rfl)
  | nonEmpty t a hpc =>
    left
    rcases hpc with hpc | hpc <;> exact tokens_setWork_same _ _ (by rw [hpc]; rfl)
  | recheckFull t a hpc =>
    left
    rcases hpc with hpc | hpc <;> exact tokens_setWork_same _ _ (by rw [hpc]; rfl)
  | enqueue t a hpc =>
    right
    rw [tokens_setWork, tokens_setReady]
    rcases hpc with hpc | hpc <;> exact .enqueue _ a (held_worker hpc)
  | clear t a hpc =>
    right
    rw [tokens_setWork, tokens_setActor]
    exact .release _ a (held_worker hpc)
  | exchange t a hpc hf =>
    right
    rw [tokens_setWork, tokens_setActor]
    exact .acquire _ a (held_worker hpc) hf

omit [DecidableEq Tid] in
lemma Initial.exclusive {s : ActorSystem Tid} (h : Initial s) : Ticket.Exclusive s.tokens := by
  apply Ticket.exclusive_of_empty h.ready
  rintro (t | t)
  · rcases h.work t with hw | hw <;> simp [tokens, held, hw, WorkPc.token]
  · simp [tokens, held, h.send t, SendPc.token]

/-- In every reachable state the tokens are exclusive. -/
theorem exclusive_of_reachable {s : ActorSystem Tid} (h : (machine Tid).Reachable s) :
    Ticket.Exclusive s.tokens := by
  refine h.invariant (P := fun s => Ticket.Exclusive s.tokens)
    (fun s hi => Initial.exclusive hi) ?_
  intro s l s' _ hs _ hstep
  rcases (Step.of_next hstep).tokens with heq | hstep
  · rw [heq]; exact hs
  · exact hstep.exclusive hs

/-- Where the scheduling tokens of an actor are. -/
def tokenPlaces (s : ActorSystem Tid) (a : ActorId) : Set (Ticket.Place (Tid ⊕ Tid)) :=
  Ticket.places s.tokens a

/-- No two workers are inside the batch of one actor; an actor has at most one scheduling token,
and `scheduled_` is true while there is one. -/
theorem actor_serialised {s : ActorSystem Tid} (h : (machine Tid).Reachable s) (a : ActorId) :
    (∀ t t', (s.threads t).work.batch = some a → (s.threads t').work.batch = some a → t = t') ∧
      (s.tokenPlaces a).Subsingleton ∧
      ((s.tokenPlaces a).Nonempty → (s.actors a).scheduled = true) := by
  have hex := exclusive_of_reachable h
  refine ⟨?_, hex.places_subsingleton a, hex.flag_of_nonempty⟩
  intro t t' ht ht'
  have := hex.held_unique (.inl t) (.inl t') a (WorkPc.token_of_batch ht)
    (WorkPc.token_of_batch ht')
  exact Sum.inl.inj this

/-- An application thread (`false`) registers actor 1 and sends it `msg`. -/
def sendOne (msg : ActorMessage) : List (Action Bool) :=
  [.register 1, .callSend false 1 msg, .send false, .send false, .send false, .send false]

/-- Serialisation of an actor whose first message a worker is handling. -/
theorem actor_serialised_in_handler :
    let s := (machine Bool).replay (start id) (sendOne {} ++ List.replicate 5 (.work true))
    (s.threads true).work.batch = some 1 ∧
      (∀ t t', (s.threads t).work.batch = some 1 → (s.threads t').work.batch = some 1 → t = t') ∧
      (s.tokenPlaces 1).Subsingleton ∧ (s.actors 1).scheduled = true := by
  intro s
  obtain ⟨hbatch, hplaces, hflag⟩ :=
    actor_serialised
      (Machine.reachable_replay (reachable_start id) _ : (machine Bool).Reachable s) 1
  have hin : (s.threads true).work.batch = some 1 := by decide
  exact ⟨hin, hbatch, hplaces, hflag ⟨.inHand (.inl true), WorkPc.token_of_batch hin⟩⟩

end ActorSystem

end Balabala
