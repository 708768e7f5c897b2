import Balabala.Actor.Scheduler.Serial

/-!
# No message is left behind

A mailbox that is not empty is always attended to: the actor has a scheduling token, or the sender
has pushed and not yet compare-exchanged `scheduled_`, or a worker has stored `false` and not yet
finished its second look at the mailbox. The second look ends with a compare-exchange of its own.

The two reads of `IsMailboxEmpty` are separate steps, so the two mailboxes are tracked separately:
a worker between its reads still answers for the normal mailbox, but not for the priority one.
-/

namespace Balabala

open Foundation

namespace ActorObject

@[simp] lemma mailbox_setMailbox_self (o : ActorObject) (p : Bool)
    (q : SpinLockQueue ActorMessage) : (o.setMailbox p q).mailbox p = q := by
  cases p <;> rfl

lemma mailbox_setMailbox (o : ActorObject) {p p' : Bool} (q : SpinLockQueue ActorMessage)
    (h : p' ≠ p) : (o.setMailbox p q).mailbox p' = o.mailbox p' := by
  cases p <;> cases p' <;> simp_all [setMailbox, mailbox]

@[simp] lemma dispatched_setMailbox (o : ActorObject) (p : Bool)
    (q : SpinLockQueue ActorMessage) : (o.setMailbox p q).dispatched = o.dispatched := by
  cases p <;> rfl

@[simp] lemma registration_setMailbox (o : ActorObject) (p : Bool)
    (q : SpinLockQueue ActorMessage) : (o.setMailbox p q).registration = o.registration := by
  cases p <;> rfl

@[simp] lemma registration_dispatch (o : ActorObject) (p : Bool) (msg : ActorMessage) :
    (o.dispatch p msg).registration = o.registration := rfl

lemma pushMessage_eq (o : ActorObject) (msg : ActorMessage) :
    o.pushMessage msg = o.setMailbox msg.priority ((o.mailbox msg.priority).push msg) := by
  rw [pushMessage]
  cases msg.priority <;> rfl

@[simp] lemma mailbox_dispatch (o : ActorObject) (p : Bool) (msg : ActorMessage) :
    (o.dispatch p msg).mailbox = o.mailbox := by
  funext p'
  cases p' <;> rfl

/-- An actor both of whose mailboxes are empty. -/
lemma isMailboxEmpty_iff (o : ActorObject) :
    o.isMailboxEmpty = true ↔ ∀ p, (o.mailbox p).queue = [] := by
  simp [isMailboxEmpty, Bool.forall_bool, mailbox, and_comm]

end ActorObject

/-! ### Who answers for a mailbox -/

/-- A worker answers for a mailbox of `a` while it holds the token, until its second look at that
mailbox, and until the compare-exchange that follows a second look that found something. -/
def WorkPc.covers (a : ActorId) (p : Bool) : WorkPc → Prop
  | .recheckPriority b => b = a
  | .recheckNormal b => b = a ∧ p = false
  | .exchange b => b = a
  | pc => pc.token = some a

/-- A sender answers for a mailbox of `a` from its push to its own token. -/
def SendPc.covers (a : ActorId) : SendPc → Prop
  | .exchange b => b = a
  | pc => pc.token = some a

lemma WorkPc.covers_of_token {pc : WorkPc} {a : ActorId} {p : Bool} (h : pc.token = some a) :
    pc.covers a p := by
  cases pc <;> simp_all [WorkPc.covers, WorkPc.token]

lemma SendPc.covers_of_token {pc : SendPc} {a : ActorId} (h : pc.token = some a) :
    pc.covers a := by
  cases pc <;> simp_all [SendPc.covers, SendPc.token]

namespace ActorSystem

variable {Tid : Type*}

/-- The actor is queued, or some thread is where `W` or `S` asks for. -/
def Attended (W : WorkPc → Prop) (S : SendPc → Prop) (a : ActorId) (s : ActorSystem Tid) : Prop :=
  a ∈ s.readyQueue.queue ∨ (∃ t, W (s.threads t).work) ∨ ∃ t, S (s.threads t).send

/-- The actor has a scheduling token. -/
def HasToken (a : ActorId) : ActorSystem Tid → Prop :=
  Attended (fun pc => pc.token = some a) (fun pc => pc.token = some a) a

/-- Somebody answers for the mailbox of class `p`. -/
def Watched (a : ActorId) (p : Bool) : ActorSystem Tid → Prop :=
  Attended (fun pc => pc.covers a p) (fun pc => pc.covers a) a

lemma hasToken_iff (s : ActorSystem Tid) (a : ActorId) :
    HasToken a s ↔ (s.tokenPlaces a).Nonempty := by
  constructor
  · rintro (h | ⟨t, h⟩ | ⟨t, h⟩)
    · obtain ⟨i, hi⟩ := List.mem_iff_getElem?.mp h
      exact ⟨.queued i, hi⟩
    · exact ⟨.inHand (.inl t), h⟩
    · exact ⟨.inHand (.inr t), h⟩
  · rintro ⟨i | t | t, h⟩
    · exact .inl (List.mem_of_getElem? h)
    · exact .inr (.inl ⟨t, h⟩)
    · exact .inr (.inr ⟨t, h⟩)

lemma HasToken.watched {s : ActorSystem Tid} {a : ActorId} (h : HasToken a s) (p : Bool) :
    Watched a p s := by
  rcases h with h | ⟨t, h⟩ | ⟨t, h⟩
  · exact .inl h
  · exact .inr (.inl ⟨t, WorkPc.covers_of_token h⟩)
  · exact .inr (.inr ⟨t, SendPc.covers_of_token h⟩)

section Attended

variable {W : WorkPc → Prop} {S : SendPc → Prop} {a : ActorId} {s : ActorSystem Tid}

lemma Attended.setActor (h : Attended W S a s) (b : ActorId) (o : ActorObject) :
    Attended W S a (s.setActor b o) := h

lemma Attended.setReady (h : Attended W S a s) {q : SpinLockQueue ActorId}
    (hq : a ∈ s.readyQueue.queue → a ∈ q.queue) : Attended W S a (s.setReady q) :=
  h.imp_left hq

/-- Pushing an id only adds to the queue. -/
lemma Attended.push (h : Attended W S a s) (b : ActorId) :
    Attended W S a (s.setReady (s.readyQueue.push b)) :=
  h.setReady fun ha => List.mem_append_left _ ha

variable [DecidableEq Tid]

lemma Attended.setWork (h : Attended W S a s) {t : Tid} {pc : WorkPc}
    (hW : W (s.threads t).work → W pc) : Attended W S a (s.setWork t pc) := by
  refine h.imp_right (Or.imp ?_ ?_)
  · rintro ⟨u, hu⟩
    refine ⟨u, ?_⟩
    by_cases e : u = t
    · subst e; simpa using hW hu
    · rwa [work_setWork _ _ _ _ e]
  · rintro ⟨u, hu⟩
    exact ⟨u, by simpa using hu⟩

lemma Attended.setSend (h : Attended W S a s) {t : Tid} {pc : SendPc}
    (hS : S (s.threads t).send → S pc) : Attended W S a (s.setSend t pc) := by
  refine h.imp_right (Or.imp ?_ ?_)
  · rintro ⟨u, hu⟩
    exact ⟨u, by simpa using hu⟩
  · rintro ⟨u, hu⟩
    refine ⟨u, ?_⟩
    by_cases e : u = t
    · subst e; simpa using hS hu
    · rwa [send_setSend _ _ _ _ e]

lemma attended_of_work (t : Tid) {pc : WorkPc} (hW : W pc) : Attended W S a (s.setWork t pc) :=
  .inr (.inl ⟨t, by simpa using hW⟩)

lemma attended_of_send (t : Tid) {pc : SendPc} (hS : S pc) : Attended W S a (s.setSend t pc) :=
  .inr (.inr ⟨t, by simpa using hS⟩)

end Attended

/-! ### Only registered actors are worked on -/

end ActorSystem

/-- The actor object a worker has a reference to. -/
def WorkPc.object : WorkPc → Option ActorId
  | .outside | .pop | .find _ => none
  | .popPriority a _ | .popNormal a _ | .onMessage a _ _ _ | .handler a _ => some a
  | .checkPriority a | .checkNormal a | .enqueue a | .clear a => some a
  | .recheckPriority a | .recheckNormal a | .exchange a | .reenqueue a => some a

/-- The actor object a thread inside `Send` has a reference to. -/
def SendPc.object : SendPc → Option ActorId
  | .idle | .find _ _ => none
  | .push a _ | .exchange a | .enqueue a => some a

namespace ActorSystem

variable {Tid : Type*}

/-- References are to objects that were registered, and an object nobody registered is fresh. -/
structure Known (s : ActorSystem Tid) : Prop where
  work : ∀ t a, (s.threads t).work.object = some a → (s.actors a).registration ≠ .absent
  send : ∀ t a, (s.threads t).send.object = some a → (s.actors a).registration ≠ .absent
  fresh : ∀ a, (s.actors a).registration = .absent → s.actors a = .fresh

lemma Initial.known {s : ActorSystem Tid} (h : Initial s) : Known s where
  work t a ha := by rcases h.work t with hw | hw <;> simp [hw, WorkPc.object] at ha
  send t a ha := by simp [h.send t, SendPc.object] at ha
  fresh a _ := h.actors a

namespace Known

variable {s : ActorSystem Tid} {a : ActorId}

lemma setReady (h : Known s) (q : SpinLockQueue ActorId) : Known (s.setReady q) :=
  ⟨h.work, h.send, h.fresh⟩

/-- An object that was registered may change, as long as it stays so. -/
lemma setActor (h : Known s) {o : ActorObject} (ho : o.registration ≠ .absent) :
    Known (s.setActor a o) := by
  have hreg : ∀ b, (s.actors b).registration ≠ .absent →
      ((s.setActor a o).actors b).registration ≠ .absent := by
    intro b hb
    by_cases e : b = a
    · subst e; simpa using ho
    · rwa [actors_setActor _ _ _ _ e]
  refine ⟨fun t b hb => hreg b (h.work t b hb), fun t b hb => hreg b (h.send t b hb), ?_⟩
  intro b hb
  by_cases e : b = a
  · subst e; exact absurd (by simpa using hb) ho
  · rw [actors_setActor _ _ _ _ e] at hb ⊢
    exact h.fresh b hb

variable [DecidableEq Tid] {t : Tid}

lemma setWork (h : Known s) {pc : WorkPc}
    (hpc : ∀ a, pc.object = some a → (s.actors a).registration ≠ .absent) :
    Known (s.setWork t pc) := by
  refine ⟨fun u b hb => ?_, fun u b hb => h.send u b (by simpa using hb), h.fresh⟩
  by_cases e : u = t
  · subst e; exact hpc b (by simpa using hb)
  · exact h.work u b (by rwa [work_setWork _ _ _ _ e] at hb)

lemma setSend (h : Known s) {pc : SendPc}
    (hpc : ∀ a, pc.object = some a → (s.actors a).registration ≠ .absent) :
    Known (s.setSend t pc) := by
  refine ⟨fun u b hb => h.work u b (by simpa using hb), fun u b hb => ?_, h.fresh⟩
  by_cases e : u = t
  · subst e; exact hpc b (by simpa using hb)
  · exact h.send u b (by rwa [send_setSend _ _ _ _ e] at hb)

/-- A worker may move on with the reference it has, or give it up. -/
lemma setWork_of (h : Known s) {pc : WorkPc}
    (hpc : ∀ a, pc.object = some a → (s.threads t).work.object = some a) :
    Known (s.setWork t pc) :=
  h.setWork fun a ha => h.work t a (hpc a ha)

lemma setSend_of (h : Known s) {pc : SendPc}
    (hpc : ∀ a, pc.object = some a → (s.threads t).send.object = some a) :
    Known (s.setSend t pc) :=
  h.setSend fun a ha => h.send t a (hpc a ha)

end Known

variable [DecidableEq Tid]

/-- Every step keeps references to objects that were registered. -/
lemma Step.known {s s' : ActorSystem Tid} (h : Step s s') (hs : Known s) : Known s' := by
  cases h with
  | register a hr | unregister a hr => exact hs.setActor (by simp)
  | callSend t a msg hpc | sendLost t a msg hpc | sendRefused t a hpc =>
    exact hs.setSend_of (by simp [SendPc.object])
  | sendFound t a msg hpc hr => exact hs.setSend (by simp [SendPc.object, hr])
  | sendPush t a msg hpc =>
    have ha : (s.actors a).registration ≠ .absent := hs.send t a (by simp [hpc, SendPc.object])
    rw [ActorObject.pushMessage_eq]
    exact (hs.setActor (by simpa using ha)).setSend_of (by simp [hpc, SendPc.object])
  | sendExchange t a hpc hf =>
    have ha : (s.actors a).registration ≠ .absent := hs.send t a (by simp [hpc, SendPc.object])
    apply (hs.setActor (by simpa using ha)).setSend_of
    simp [hpc, SendPc.object]
  | sendEnqueue t a hpc => exact (hs.setReady _).setSend_of (by simp [SendPc.object])
  | starve t => exact hs
  | pop t a q hpc hq => exact (hs.setReady q).setWork_of (by simp [WorkPc.object])
  | enqueue t a hpc => exact (hs.setReady _).setWork_of (by simp [WorkPc.object])
  | found t a hpc hr => exact hs.setWork (by simp [WorkPc.object, hr])
  | lost t a hpc | recheckNormal t a hpc | refused t a hpc =>
    exact hs.setWork_of (by simp [WorkPc.object])
  | popPriority t a n msg q hpc | popNormal t a n msg q hpc =>
    have ha : (s.actors a).registration ≠ .absent := hs.work t a (by simp [hpc, WorkPc.object])
    exact (hs.setActor (by simpa using ha)).setWork_of (by simp [hpc, WorkPc.object])
  | onMessage t a n p msg hpc =>
    have ha : (s.actors a).registration ≠ .absent := hs.work t a (by simp [hpc, WorkPc.object])
    apply (hs.setActor (by simpa using ha)).setWork_of
    simp [hpc, WorkPc.object]
  | clear t a hpc | exchange t a hpc =>
    have ha : (s.actors a).registration ≠ .absent := hs.work t a (by simp [hpc, WorkPc.object])
    apply (hs.setActor (by simpa using ha)).setWork_of
    simp [hpc, WorkPc.object]
  | noPriority t a n hpc | noNormal t a n hpc | checkPriority t a hpc | checkNormal t a hpc
  | recheckPriority t a hpc => exact hs.setWork_of (by simp [hpc, WorkPc.object])
  | finish t a n pc hpc hn =>
    rcases hn with rfl | ⟨k, rfl⟩ <;> exact hs.setWork_of (by simp [hpc, WorkPc.object])
  | nonEmpty t a hpc | recheckFull t a hpc =>
    rcases hpc with hpc | hpc <;> exact hs.setWork_of (by simp [hpc, WorkPc.object])

theorem known_of_reachable {s : ActorSystem Tid} (h : (machine Tid).Reachable s) : Known s :=
  h.invariant (P := Known) (fun _ hi => Initial.known hi)
    fun _ _ _ _ hs _ hstep => (Step.of_next hstep).known hs

/-! ### A set flag announces a token -/

omit [DecidableEq Tid] in
/-- Writing back an actor as registered as it was. -/
lemma registration_setActor (s : ActorSystem Tid) {a : ActorId} (b : ActorId) {o : ActorObject}
    (ho : o.registration = (s.actors a).registration) :
    ((s.setActor a o).actors b).registration = (s.actors b).registration := by
  by_cases e : b = a
  · subst e; simpa using ho
  · rw [actors_setActor _ _ _ _ e]

/-- An actor is registered if it was so before the step, or by `RegisterActor`. -/
lemma Step.registered {s s' : ActorSystem Tid} (h : Step s s') {b : ActorId}
    (hb : (s'.actors b).registration = .registered) :
    (s.actors b).registration = .registered ∨ (s.actors b).registration = .absent ∧
      s' = s.setActor b { s.actors b with registration := .registered } := by
  cases h with
  | register a hr =>
    by_cases e : b = a
    · subst e; exact .inr ⟨hr, rfl⟩
    · exact .inl (by rwa [actors_setActor _ _ _ _ e] at hb)
  | unregister a hr =>
    by_cases e : b = a
    · subst e; exact .inl hr
    · exact .inl (by rwa [actors_setActor _ _ _ _ e] at hb)
  | sendPush t a msg hpc =>
    left
    rw [actors_setSend, registration_setActor] at hb
    · exact hb
    · rw [ActorObject.pushMessage_eq, ActorObject.registration_setMailbox]
  | popPriority t a n msg q hpc hq | popNormal t a n msg q hpc hq =>
    left
    rwa [actors_setWork, registration_setActor _ _ (ActorObject.registration_setMailbox _ _ _)]
      at hb
  | onMessage t a n p msg hpc | clear t a hpc | exchange t a hpc hf =>
    left
    rw [actors_setWork, registration_setActor] at hb
    · exact hb
    · rfl
  | sendExchange t a hpc hf =>
    left
    rw [actors_setSend, registration_setActor] at hb
    · exact hb
    · rfl
  | callSend | sendFound | sendLost | sendRefused | sendEnqueue | starve | pop | found | lost
  | noPriority | noNormal | finish | checkPriority | checkNormal | nonEmpty | enqueue
  | recheckPriority | recheckNormal | recheckFull | refused => exact .inl hb

/-- `scheduled_` of a registered actor is only set while there is a token. -/
theorem hasToken_of_scheduled {s : ActorSystem Tid} (h : (machine Tid).Reachable s) :
    ∀ a, (s.actors a).registration = .registered → (s.actors a).scheduled = true →
      HasToken a s := by
  simp only [hasToken_iff]
  refine h.invariant (P := fun s => ∀ a, (s.actors a).registration = .registered →
    (s.actors a).scheduled = true → (s.tokenPlaces a).Nonempty) ?_ ?_
  · intro s hi a ha
    simp [Initial.actors hi a, ActorObject.fresh] at ha
  · intro s l s' hr hs _ hstep a ha hf
    have hstep := Step.of_next hstep
    rcases hstep.registered ha with hreg | ⟨habs, rfl⟩
    · rcases hstep.tokens with heq | hmove
      · have hf : s.tokens.flag a = true := heq ▸ hf
        rw [tokenPlaces]
        rw [heq]
        exact hs a hreg hf
      · exact hmove.flag_announces (by simpa using hreg) (hs a hreg) hf
    · rw [actors_setActor_self, (known_of_reachable hr).fresh a habs] at hf
      simp [ActorObject.fresh] at hf

/-! ### Every mailbox with a message is watched -/

/-- The invariant of one actor: while it is registered, its mailboxes are watched. -/
def AllWatched (s : ActorSystem Tid) : Prop :=
  ∀ a p, (s.actors a).registration = .registered → ((s.actors a).mailbox p).queue ≠ [] →
    Watched a p s

omit [DecidableEq Tid] in
/-- Writing one actor back leaves the others watched. -/
lemma AllWatched.setActor {s : ActorSystem Tid} (hs : AllWatched s) {a b : ActorId}
    {o : ActorObject} {p : Bool} (e : a ≠ b)
    (hreg : ((s.setActor b o).actors a).registration = .registered)
    (hne : (((s.setActor b o).actors a).mailbox p).queue ≠ []) : Watched a p (s.setActor b o) := by
  rw [actors_setActor _ _ _ _ e] at hreg hne
  exact (hs a p hreg hne).setActor _ _

/-- What a step has to keep: the mailboxes of the actor it is about are watched by the thread that
moves, and no thread stops watching the others. -/
lemma Step.allWatched {s s' : ActorSystem Tid} (h : Step s s') (hk : Known s)
    (ht : ∀ a, (s.actors a).registration = .registered → (s.actors a).scheduled = true →
      HasToken a s) (hs : AllWatched s) : AllWatched s' := by
  intro a p hreg hne
  cases h with
  | register b hr =>
    by_cases e : a = b
    · subst e
      rw [actors_setActor_self, hk.fresh a hr] at hne
      cases p <;> simp [ActorObject.mailbox, ActorObject.fresh] at hne
    · exact hs.setActor e hreg hne
  | unregister b hr =>
    by_cases e : a = b
    · subst e; simp at hreg
    · exact hs.setActor e hreg hne
  | callSend t b msg hpc | sendFound t b msg hpc | sendLost t b msg hpc =>
    exact (hs a p hreg hne).setSend (by simp [hpc, SendPc.covers, SendPc.token])
  | sendPush t b msg hpc =>
    by_cases e : a = b
    · exact attended_of_send t e.symm
    · exact (hs.setActor e hreg hne).setSend (by simp [hpc, SendPc.covers, SendPc.token])
  | sendRefused t b hpc hf =>
    by_cases e : a = b
    · subst e
      refine HasToken.watched ?_ p
      exact (ht a hreg hf).setSend (by simp [hpc, SendPc.token])
    · exact (hs a p hreg hne).setSend (by simp [hpc, SendPc.covers, Ne.symm e])
  | sendExchange t b hpc hf =>
    by_cases e : a = b
    · exact attended_of_send t (by simp [SendPc.covers, SendPc.token, e])
    · exact (hs.setActor e hreg hne).setSend (by simp [hpc, SendPc.covers, Ne.symm e])
  | sendEnqueue t b hpc =>
    by_cases e : a = b
    · exact .inl (by simp [e])
    · apply ((hs a p hreg hne).push b).setSend
      simp [hpc, SendPc.covers, SendPc.token, Ne.symm e]
  | starve t => exact hs a p hreg hne
  | pop t b q hpc hq =>
    by_cases e : a = b
    · exact attended_of_work t (by simp [WorkPc.covers, WorkPc.token, e])
    · refine ((hs a p hreg hne).setReady ?_).setWork (by simp [hpc, WorkPc.covers, WorkPc.token])
      rw [(SpinLockQueue.pop_eq_some hq).1]
      simp [e]
  | found t b hpc | noPriority t b n hpc | noNormal t b n hpc | checkPriority t b hpc
  | checkNormal t b hpc =>
    exact (hs a p hreg hne).setWork (by simp [hpc, WorkPc.covers, WorkPc.token])
  | lost t b hpc hr =>
    have e : a ≠ b := fun e => hr (e ▸ hreg)
    exact (hs a p hreg hne).setWork (by simp [hpc, WorkPc.covers, WorkPc.token, Ne.symm e])
  | popPriority t b n msg q hpc hq | popNormal t b n msg q hpc hq | onMessage t b n pr msg hpc
  | clear t b hpc =>
    by_cases e : a = b
    · exact attended_of_work t (by simp [WorkPc.covers, WorkPc.token, e])
    · apply (hs.setActor e hreg hne).setWork
      simp [hpc, WorkPc.covers, WorkPc.token, Ne.symm e]
  | finish t b n pc hpc hn =>
    apply (hs a p hreg hne).setWork
    rcases hn with rfl | ⟨k, rfl⟩ <;> simp [hpc, WorkPc.covers, WorkPc.token]
  | nonEmpty t b hpc =>
    apply (hs a p hreg hne).setWork
    rcases hpc with hpc | hpc <;> simp [hpc, WorkPc.covers, WorkPc.token]
  | enqueue t b hpc =>
    by_cases e : a = b
    · exact .inl (by simp [e])
    · apply ((hs a p hreg hne).push b).setWork
      rcases hpc with hpc | hpc <;> simp [hpc, WorkPc.covers, WorkPc.token, Ne.symm e]
  | recheckPriority t b hpc he =>
    -- the priority mailbox was seen empty; the normal one is still to be looked at
    cases p with
    | true =>
      have e : b ≠ a := by rintro rfl; exact hne he
      exact (hs a true hreg hne).setWork (by simp [hpc, WorkPc.covers, e])
    | false => exact (hs a false hreg hne).setWork (by simp [hpc, WorkPc.covers])
  | recheckNormal t b hpc he =>
    cases p with
    | true => exact (hs a true hreg hne).setWork (by simp [hpc, WorkPc.covers])
    | false =>
      have e : b ≠ a := by rintro rfl; exact hne he
      exact (hs a false hreg hne).setWork (by simp [hpc, WorkPc.covers, e])
  | recheckFull t b hpc =>
    apply (hs a p hreg hne).setWork
    rcases hpc with hpc | hpc <;> simp +contextual [hpc, WorkPc.covers]
  | refused t b hpc hf =>
    by_cases e : a = b
    · subst e
      refine HasToken.watched ?_ p
      exact (ht a hreg hf).setWork (by simp [hpc, WorkPc.token])
    · exact (hs a p hreg hne).setWork (by simp [hpc, WorkPc.covers, Ne.symm e])
  | exchange t b hpc hf =>
    by_cases e : a = b
    · exact attended_of_work t (by simp [WorkPc.covers, WorkPc.token, e])
    · apply (hs.setActor e hreg hne).setWork
      simp [hpc, WorkPc.covers, Ne.symm e]

/-- In every reachable state the mailboxes that hold a message are watched. -/
theorem allWatched_of_reachable {s : ActorSystem Tid} (h : (machine Tid).Reachable s) :
    AllWatched s := by
  apply h.invariant (P := AllWatched)
  · intro s hi a p ha
    simp [Initial.actors hi a, ActorObject.fresh] at ha
  · intro s l s' hr hs _ hstep
    exact (Step.of_next hstep).allWatched (known_of_reachable hr) (hasToken_of_scheduled hr) hs

/-! ### Every popped message is dispatched once -/

end ActorSystem

/-- The message a worker has popped from a mailbox and is about to hand to `OnMessage`. -/
def WorkPc.taken (a : ActorId) (p : Bool) : WorkPc → Option ActorMessage
  | .onMessage b _ q msg => if b = a ∧ q = p then some msg else none
  | _ => none

lemma WorkPc.batch_of_taken {pc : WorkPc} {a : ActorId} {p : Bool} {msg : ActorMessage}
    (h : pc.taken a p = some msg) : pc.batch = some a := by
  cases pc with
  | onMessage b n q m =>
    simp only [taken, Option.ite_none_right_eq_some] at h
    simp [batch, h.1.1]
  | _ => simp [taken] at h

namespace ActorSystem

variable {Tid : Type*}

/-- What was popped from a mailbox was dispatched, up to the one message in a worker's hands. -/
structure Accounted (s : ActorSystem Tid) : Prop where
  taken : ∀ t a p msg, (s.threads t).work.taken a p = some msg →
    ((s.actors a).mailbox p).popped = (s.actors a).dispatched p ++ [msg]
  settled : ∀ a p, (∀ t, (s.threads t).work.taken a p = none) →
    ((s.actors a).mailbox p).popped = (s.actors a).dispatched p

namespace Accounted

variable {s : ActorSystem Tid}

/-- A step that pops nothing and dispatches nothing. -/
lemma frame {s' : ActorSystem Tid} (h : Accounted s)
    (hw : ∀ t a p, (s'.threads t).work.taken a p = (s.threads t).work.taken a p)
    (hp : ∀ a p, ((s'.actors a).mailbox p).popped = ((s.actors a).mailbox p).popped)
    (hd : ∀ a, (s'.actors a).dispatched = (s.actors a).dispatched) : Accounted s' := by
  refine ⟨fun t a p msg ht => ?_, fun a p ht => ?_⟩
  · rw [hw] at ht
    rw [hp, hd]
    exact h.taken t a p msg ht
  · rw [hp, hd]
    exact h.settled a p fun t => by rw [← hw, ht]

lemma setReady (h : Accounted s) (q : SpinLockQueue ActorId) : Accounted (s.setReady q) :=
  h.frame (fun _ _ _ => rfl) (fun _ _ => rfl) fun _ => rfl

lemma setActor (h : Accounted s) {a : ActorId} {o : ActorObject}
    (hp : ∀ p, (o.mailbox p).popped = ((s.actors a).mailbox p).popped)
    (hd : o.dispatched = (s.actors a).dispatched) : Accounted (s.setActor a o) := by
  refine h.frame (fun _ _ _ => rfl) (fun b p => ?_) fun b => ?_ <;> by_cases e : b = a
  · subst e; simpa using hp p
  · rw [actors_setActor _ _ _ _ e]
  · subst e; simpa using hd
  · rw [actors_setActor _ _ _ _ e]

variable [DecidableEq Tid] {t : Tid}

lemma setSend (h : Accounted s) (pc : SendPc) : Accounted (s.setSend t pc) :=
  h.frame (fun u a p => by simp) (fun _ _ => rfl) fun _ => rfl

lemma setWork (h : Accounted s) {pc : WorkPc}
    (hpc : ∀ a p, pc.taken a p = (s.threads t).work.taken a p) : Accounted (s.setWork t pc) := by
  refine h.frame (fun u a p => ?_) (fun _ _ => rfl) fun _ => rfl
  by_cases e : u = t
  · subst e; simpa using hpc a p
  · rw [work_setWork _ _ _ _ e]

end Accounted

variable [DecidableEq Tid]

omit [DecidableEq Tid] in
/-- Only one worker can have a message of an actor in its hands. -/
lemma taken_eq_none {s : ActorSystem Tid} (hex : Ticket.Exclusive s.tokens) {t u : Tid}
    {a : ActorId} (ht : (s.threads t).work.batch = some a) (hne : u ≠ t) (p : Bool) :
    (s.threads u).work.taken a p = none := by
  by_contra hu
  obtain ⟨msg, hu⟩ := Option.ne_none_iff_exists'.mp hu
  have := hex.held_unique (.inl u) (.inl t) a
    (WorkPc.token_of_batch (WorkPc.batch_of_taken hu)) (WorkPc.token_of_batch ht)
  exact hne (Sum.inl.inj this)

/-- Popping a mailbox in `ProcessOne` puts the message into the hands of this worker. -/
lemma Accounted.pop {s : ActorSystem Tid} (hs : Accounted s) (hex : Ticket.Exclusive s.tokens)
    {t : Tid} {a : ActorId} {p : Bool} {n : Nat} {msg : ActorMessage}
    {q : SpinLockQueue ActorMessage} (hb : (s.threads t).work.batch = some a)
    (ht : ∀ b p, (s.threads t).work.taken b p = none)
    (hq : ((s.actors a).mailbox p).pop = some (msg, q)) :
    Accounted ((s.setActor a ((s.actors a).setMailbox p q)).setWork t
      (.onMessage a n p msg)) := by
  have hnone : ∀ u, (s.threads u).work.taken a p = none := by
    intro u
    by_cases e : u = t
    · rw [e]; exact ht a p
    · exact taken_eq_none hex hb e p
  have hpop := (SpinLockQueue.pop_eq_some hq).2.2
  rw [hs.settled a p hnone] at hpop
  -- a mailbox other than the one popped is as it was
  have hother : ∀ b r, ¬(b = a ∧ r = p) →
      (((s.setActor a ((s.actors a).setMailbox p q)).actors b).mailbox r).popped =
        ((s.actors b).mailbox r).popped := by
    intro b r hne
    by_cases e : b = a
    · subst e
      rw [actors_setActor_self, ActorObject.mailbox_setMailbox _ _ (fun e => hne ⟨rfl, e⟩)]
    · rw [actors_setActor _ _ _ _ e]
  have hdisp : ∀ b, ((s.setActor a ((s.actors a).setMailbox p q)).actors b).dispatched =
      (s.actors b).dispatched := by
    intro b
    by_cases e : b = a
    · subst e; simp
    · rw [actors_setActor _ _ _ _ e]
  refine ⟨fun u b r m hu => ?_, fun b r hu => ?_⟩
  · rw [actors_setWork, hdisp]
    by_cases e : u = t
    · subst e
      simp only [work_setWork_self, WorkPc.taken, Option.ite_none_right_eq_some,
        Option.some.injEq] at hu
      obtain ⟨⟨rfl, rfl⟩, rfl⟩ := hu
      simpa using hpop
    · rw [work_setWork _ _ _ _ e] at hu
      rw [hother b r, hs.taken u b r m hu]
      rintro ⟨rfl, rfl⟩
      simp [hnone u] at hu
  · have hne : ¬(b = a ∧ r = p) := by
      rintro ⟨rfl, rfl⟩
      simpa [WorkPc.taken] using hu t
    rw [actors_setWork, hdisp, hother b r hne]
    refine hs.settled b r fun u => ?_
    by_cases e : u = t
    · rw [e]; exact ht b r
    · rw [← hu u, work_setWork _ _ _ _ e]; rfl

/-- `OnMessage` dispatches the message in the hands of this worker. -/
lemma Accounted.dispatch {s : ActorSystem Tid} (hs : Accounted s)
    (hex : Ticket.Exclusive s.tokens) {t : Tid} {a : ActorId} {p : Bool} {n : Nat}
    {msg : ActorMessage} (hpc : (s.threads t).work = .onMessage a n p msg) :
    Accounted ((s.setActor a ((s.actors a).dispatch p msg)).setWork t (.handler a n)) := by
  have hothers : ∀ u, u ≠ t → (s.threads u).work.taken a p = none :=
    fun u hne => taken_eq_none hex (by rw [hpc]; rfl) hne p
  have hmsg := hs.taken t a p msg (by simp [hpc, WorkPc.taken])
  have hother : ∀ b r, ¬(b = a ∧ r = p) →
      ((s.setActor a ((s.actors a).dispatch p msg)).actors b).dispatched r =
        (s.actors b).dispatched r := by
    intro b r hne
    by_cases e : b = a
    · subst e
      simp [ActorObject.dispatch, Function.update_of_ne (fun e => hne ⟨rfl, e⟩ : r ≠ p)]
    · rw [actors_setActor _ _ _ _ e]
  have hpopped : ∀ b, ((s.setActor a ((s.actors a).dispatch p msg)).actors b).mailbox =
      (s.actors b).mailbox := by
    intro b
    by_cases e : b = a
    · subst e; simp
    · rw [actors_setActor _ _ _ _ e]
  refine ⟨fun u b r m hu => ?_, fun b r hu => ?_⟩
  · have hne : u ≠ t := by
      rintro rfl
      simp [WorkPc.taken] at hu
    rw [work_setWork _ _ _ _ hne] at hu
    rw [actors_setWork, hpopped, hother b r]
    · exact hs.taken u b r m hu
    · rintro ⟨rfl, rfl⟩
      simp [hothers u hne] at hu
  · rw [actors_setWork, hpopped]
    by_cases hbr : b = a ∧ r = p
    · obtain ⟨rfl, rfl⟩ := hbr
      rw [hmsg]
      simp [ActorObject.dispatch]
    · rw [hother b r hbr]
      refine hs.settled b r fun u => ?_
      by_cases e : u = t
      · subst e
        rw [hpc]
        exact if_neg fun h => hbr ⟨h.1.symm, h.2.symm⟩
      · rw [← hu u, work_setWork _ _ _ _ e]; rfl

/-- Every step keeps the account. -/
lemma Step.accounted {s s' : ActorSystem Tid} (h : Step s s') (hex : Ticket.Exclusive s.tokens)
    (hs : Accounted s) : Accounted s' := by
  cases h with
  | register a hr | unregister a hr => exact hs.setActor (fun p => by cases p <;> rfl) rfl
  | callSend t a msg hpc | sendFound t a msg hpc | sendLost t a msg hpc | sendRefused t a hpc =>
    exact hs.setSend _
  | sendPush t a msg hpc =>
    refine Accounted.setSend (hs.setActor (fun p => ?_) ?_) _
    · rw [ActorObject.pushMessage_eq]
      by_cases e : p = msg.priority
      · subst e; simp
      · rw [ActorObject.mailbox_setMailbox _ _ e]
    · rw [ActorObject.pushMessage_eq, ActorObject.dispatched_setMailbox]
  | sendExchange t a hpc =>
    refine Accounted.setSend (hs.setActor (fun p => ?_) ?_) _
    · cases p <;> rfl
    · rfl
  | sendEnqueue t a hpc => exact (hs.setReady _).setSend _
  | starve t => exact hs
  | pop t a q hpc => exact (hs.setReady q).setWork fun b p => by simp [hpc, WorkPc.taken]
  | enqueue t a hpc =>
    refine (hs.setReady _).setWork fun b p => ?_
    rcases hpc with hpc | hpc <;> simp [hpc, WorkPc.taken]
  | found t a hpc | lost t a hpc | noPriority t a n hpc | noNormal t a n hpc
  | checkPriority t a hpc | checkNormal t a hpc | recheckPriority t a hpc | recheckNormal t a hpc
  | refused t a hpc => exact hs.setWork fun b p => by simp [hpc, WorkPc.taken]
  | nonEmpty t a hpc | recheckFull t a hpc =>
    refine hs.setWork fun b p => ?_
    rcases hpc with hpc | hpc <;> simp [hpc, WorkPc.taken]
  | finish t a n pc hpc hn =>
    refine hs.setWork fun b p => ?_
    rcases hn with rfl | ⟨k, rfl⟩ <;> simp [hpc, WorkPc.taken]
  | clear t a hpc | exchange t a hpc =>
    refine Accounted.setWork (hs.setActor (fun p => ?_) ?_) fun b p => ?_
    · cases p <;> rfl
    · rfl
    · simp [hpc, WorkPc.taken]
  | popPriority t a n msg q hpc hq | popNormal t a n msg q hpc hq =>
    refine hs.pop hex ?_ (fun b p => ?_) hq <;> simp [hpc, WorkPc.batch, WorkPc.taken]
  | onMessage t a n p msg hpc => exact hs.dispatch hex hpc

theorem accounted_of_reachable {s : ActorSystem Tid} (h : (machine Tid).Reachable s) :
    Accounted s := by
  apply h.invariant (P := Accounted)
  · intro s hi
    have hw : ∀ t a p, (s.threads t).work.taken a p = none := by
      intro t a p
      rcases hi.work t with hw | hw <;> rw [hw] <;> rfl
    refine ⟨fun t a p msg ht => by simp [hw] at ht, fun a p _ => ?_⟩
    rw [hi.actors a]
    cases p <;> rfl
  · intro s l s' hr hs _ hstep
    exact (Step.of_next hstep).accounted (exclusive_of_reachable hr) hs

/-! ### No lost wake-up -/

/-- Nothing is queued and no thread is inside `Send` or an iteration of `workerLoop`. -/
structure Quiescent (s : ActorSystem Tid) : Prop where
  ready : s.readyQueue.queue = []
  send : ∀ t, (s.threads t).send = .idle
  work : ∀ t, (s.threads t).work = .outside ∨ (s.threads t).work = .pop

/-- A thread that pushed to a mailbox of `a` and has not compare-exchanged yet. -/
def SenderInGap (s : ActorSystem Tid) (a : ActorId) : Prop :=
  ∃ t, (s.threads t).send = .exchange a

/-- A worker that stored `false` and has not finished the second `IsMailboxEmpty`. -/
def WorkerBeforeRecheck (s : ActorSystem Tid) (a : ActorId) : Prop :=
  ∃ t, (s.threads t).work = .recheckPriority a ∨ (s.threads t).work = .recheckNormal a

/-- A worker whose second `IsMailboxEmpty` saw a message and that has not compare-exchanged yet. -/
def WorkerBeforeExchange (s : ActorSystem Tid) (a : ActorId) : Prop :=
  ∃ t, (s.threads t).work = .exchange a

omit [DecidableEq Tid] in
lemma Watched.cases {s : ActorSystem Tid} {a : ActorId} {p : Bool} (h : Watched a p s) :
    (s.tokenPlaces a).Nonempty ∨ s.SenderInGap a ∨ s.WorkerBeforeRecheck a ∨
      s.WorkerBeforeExchange a := by
  rw [← hasToken_iff]
  rcases h with h | ⟨t, h⟩ | ⟨t, h⟩
  · exact .inl (.inl h)
  · cases hpc : (s.threads t).work with
    | recheckPriority b =>
      rw [hpc] at h
      exact .inr (.inr (.inl ⟨t, .inl (hpc.trans (congrArg _ h))⟩))
    | recheckNormal b =>
      rw [hpc] at h
      exact .inr (.inr (.inl ⟨t, .inr (hpc.trans (congrArg _ h.1))⟩))
    | exchange b =>
      rw [hpc] at h
      exact .inr (.inr (.inr ⟨t, hpc.trans (congrArg _ h)⟩))
    | _ =>
      rw [hpc] at h
      exact .inl (.inr (.inl ⟨t, by rw [hpc]; exact h⟩))
  · cases hpc : (s.threads t).send with
    | exchange b =>
      rw [hpc] at h
      exact .inr (.inl ⟨t, hpc.trans (congrArg _ h)⟩)
    | _ =>
      rw [hpc] at h
      exact .inl (.inr (.inr ⟨t, by rw [hpc]; exact h⟩))

omit [DecidableEq Tid] in
/-- When nothing is in progress nobody watches anything. -/
lemma Quiescent.not_watched {s : ActorSystem Tid} (h : Quiescent s) (a : ActorId) (p : Bool) :
    ¬ Watched a p s := by
  rintro (ha | ⟨t, ht⟩ | ⟨t, ht⟩)
  · simp [h.ready] at ha
  · rcases h.work t with hw | hw <;> rw [hw] at ht <;> cases ht
  · rw [h.send t] at ht
    cases ht

/-- A registered actor with a message in a mailbox has a token, or a thread in one of the gaps
between mailbox and flag will see the message. So when nothing is in progress the mailboxes are
empty, and what was pushed is, in order, what was dispatched. -/
theorem no_lost_wakeup {s : ActorSystem Tid} (h : (machine Tid).Reachable s) {a : ActorId}
    (hreg : (s.actors a).registration = .registered) :
    ((s.actors a).isMailboxEmpty = false → (s.tokenPlaces a).Nonempty ∨ s.SenderInGap a ∨
        s.WorkerBeforeRecheck a ∨ s.WorkerBeforeExchange a) ∧
      (Quiescent s → (s.actors a).isMailboxEmpty = true ∧
        ∀ p, (s.actors a).dispatched p = ((s.actors a).mailbox p).pushed) := by
  refine ⟨fun hne => ?_, fun hq => ?_⟩
  · have hne : ¬ (s.actors a).isMailboxEmpty = true := by simp [hne]
    rw [ActorObject.isMailboxEmpty_iff, not_forall] at hne
    obtain ⟨p, hp⟩ := hne
    exact (allWatched_of_reachable h a p hreg hp).cases
  · have hempty : ∀ p, ((s.actors a).mailbox p).queue = [] := by
      intro p
      by_contra hp
      exact hq.not_watched a p (allWatched_of_reachable h a p hreg hp)
    refine ⟨(ActorObject.isMailboxEmpty_iff _).mpr hempty, fun p => ?_⟩
    have hidle : ∀ t, (s.threads t).work.taken a p = none := by
      intro t
      rcases hq.work t with hw | hw <;> rw [hw] <;> rfl
    rw [← (accounted_of_reachable h).settled a p hidle]
    exact SpinLockQueue.popped_eq_pushed (hempty p)

/-- After one message and the batch it caused everything is dispatched. -/
theorem no_lost_wakeup_after_batch :
    let s := (machine Bool).replay (start id) (sendOne {} ++ List.replicate 5 (.work true) ++
      .finish true false :: List.replicate 7 (.work true))
    (s.actors 1).isMailboxEmpty = true ∧ (s.actors 1).dispatched false = [{}] := by
  intro s
  have hs : (machine Bool).Reachable s := Machine.reachable_replay (reachable_start id) _
  have hquiet : Quiescent s := by
    refine ⟨by decide, fun t => ?_, fun t => ?_⟩
    · cases t <;> rfl
    · cases t
      · exact .inl rfl
      · exact .inr rfl
  obtain ⟨-, hquiescent⟩ := no_lost_wakeup hs (a := 1) (by decide)
  refine ⟨(hquiescent hquiet).1, ?_⟩
  rw [(hquiescent hquiet).2 false]
  decide

/-- A message that arrives after the last look of the batch. The sender is refused by
`scheduled_`, the worker clears the flag and looks again. -/
def lateMessage : List (Action Bool) :=
  sendOne {} ++ List.replicate 5 (.work true) ++ .finish true false ::
    List.replicate 4 (.work true) ++ [.callSend false 1 { priority := true }] ++
    List.replicate 3 (.send false) ++ List.replicate 2 (.work true)

/-- Between a second look that saw a message and its compare-exchange nothing else announces the
message: there is no token, no sender in the gap, and no worker before its second look. -/
theorem seen_not_announced : ¬ ∀ (s : ActorSystem Bool) (a : ActorId), (machine Bool).Reachable s →
    (s.actors a).registration = .registered → (s.actors a).isMailboxEmpty = false →
    (s.tokenPlaces a).Nonempty ∨ s.SenderInGap a ∨ s.WorkerBeforeRecheck a := by
  intro h
  let s := (machine Bool).replay (start id) lateMessage
  have hs : (machine Bool).Reachable s := Machine.reachable_replay (reachable_start id) _
  rcases h s 1 hs (by decide) (by decide) with hp | ⟨t, ht⟩ | ⟨t, ht | ht⟩
  · rw [← hasToken_iff] at hp
    rcases hp with hq | ⟨t, ht⟩ | ⟨t, ht⟩
    · exact absurd hq (by decide)
    · cases t <;> cases ht
    · cases t <;> cases ht
  · cases t <;> cases ht
  · cases t <;> cases ht
  · cases t <;> cases ht

end ActorSystem

end Balabala
