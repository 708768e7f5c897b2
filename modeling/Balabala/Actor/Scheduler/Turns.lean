import Balabala.Actor.Scheduler.Effect

/-!
# Actors are parties that take turns

`readyQueue_`, `scheduled_`, the batches and the worker threads are how the scheduler works, not
what it is for. What it is for is a `Party` for each actor: messages arrive in two mailboxes, and
the actor takes them one at a time. Every run of the scheduler is such a run, so that what holds of
parties holds of actors.
-/

namespace Balabala

open Foundation

/-- An actor as a party. -/
def ActorObject.party (o : ActorObject) (turn : Party.Turn) : Party ActorMessage where
  mailbox p := (o.mailbox p).queue
  received p := (o.mailbox p).pushed
  taken p := (o.mailbox p).popped
  turn := turn

@[simp] lemma ActorObject.turn_party (o : ActorObject) (turn : Party.Turn) :
    (o.party turn).turn = turn := rfl

lemma ActorObject.party_congr {o o' : ActorObject} (h : o'.mailbox = o.mailbox) :
    o'.party = o.party := by
  funext turn
  rw [party, party, h]

lemma ActorObject.mailbox_setMailbox_apply (o : ActorObject) (p p' : Bool)
    (q : SpinLockQueue ActorMessage) :
    (o.setMailbox p q).mailbox p' = if p' = p then q else o.mailbox p' := by
  split_ifs with h
  · subst h
    exact mailbox_setMailbox_self o p' q
  · exact mailbox_setMailbox o q h

/-- `PushMessage` is the receipt of a message. -/
lemma ActorObject.next_receive (o : ActorObject) (msg : ActorMessage) (turn : Party.Turn) :
    (o.party turn).next (.receive msg.priority msg) = some ((o.pushMessage msg).party turn) := by
  rw [pushMessage_eq, Party.next]
  congr 1
  simp only [Party.receive, party, mailbox_setMailbox_apply, Party.mk.injEq, and_true]
  refine ⟨funext fun p => ?_, funext fun p => ?_, funext fun p => ?_⟩
  all_goals by_cases hp : p = msg.priority
  all_goals simp [hp]

/-- A successful `pop` is the taking of a message. -/
lemma ActorObject.next_take {o : ActorObject} {p : Bool} {msg : ActorMessage}
    {q : SpinLockQueue ActorMessage} (hq : (o.mailbox p).pop = some (msg, q)) :
    (o.party (.before p)).next (.take p) = some ((o.setMailbox p q).party .busy) := by
  obtain ⟨hqueue, hpushed, hpopped⟩ := SpinLockQueue.pop_eq_some hq
  rw [Party.next, if_pos (turn_party o _)]
  have hmail : (o.party (.before p)).mailbox p = msg :: q.queue := hqueue
  simp only [hmail]
  congr 1
  simp only [Party.takeFront, party, mailbox_setMailbox_apply, Party.mk.injEq, and_true]
  refine ⟨funext fun r => ?_, funext fun r => ?_, funext fun r => ?_⟩
  all_goals by_cases hr : r = p
  all_goals simp [hr, hpushed, hpopped]

namespace ActorSystem

variable {Tid : Type*}

/-- The parties have the messages of the actors, and whose turn it is the workers show. -/
structure Represents (s : ActorSystem Tid) (x : ActorId → Party ActorMessage) : Prop where
  messages : ∀ a, x a = (s.actors a).party (x a).turn
  inTurn : ∀ t a, (s.threads t).work.turn a ≠ .idle → (x a).turn = (s.threads t).work.turn a
  idle : ∀ a, (∀ t, (s.threads t).work.turn a = .idle) → (x a).turn = .idle

variable {s s' s₁ : ActorSystem Tid} {x : ActorId → Party ActorMessage} {t : Tid} {a : ActorId}

lemma Initial.represents (h : Initial s) : s.Represents fun _ => Party.fresh where
  messages a := by
    rw [h.actors a]
    simp only [Party.fresh, ActorObject.party, Party.mk.injEq, and_true]
    refine ⟨funext fun p => ?_, funext fun p => ?_, funext fun p => ?_⟩
    all_goals cases p <;> rfl
  inTurn t a hne := by
    rcases h.work t with hw | hw <;> simp [hw, WorkPc.turn] at hne
  idle _ _ := rfl

namespace Represents

/-- With other flags, tokens and batches, but the same messages and turns. -/
lemma frame (h : s.Represents x) (hmail : ∀ b, (s'.actors b).mailbox = (s.actors b).mailbox)
    (hturn : ∀ u b, (s'.threads u).work.turn b = (s.threads u).work.turn b) : s'.Represents x where
  messages b := by
    rw [ActorObject.party_congr (hmail b)]
    exact h.messages b
  inTurn u b hne := by
    rw [hturn] at hne ⊢
    exact h.inTurn u b hne
  idle b hidle := h.idle b fun u => (hturn u b).symm.trans (hidle u)

lemma setActor (h : s.Represents x) {o : ActorObject} (ho : o.mailbox = (s.actors a).mailbox) :
    (s.setActor a o).Represents x := by
  refine h.frame (fun b => ?_) fun _ _ => rfl
  by_cases hb : b = a
  · subst hb
    rw [actors_setActor_self, ho]
  · rw [actors_setActor _ _ _ _ hb]

lemma setReady (h : s.Represents x) (q : SpinLockQueue ActorId) : (s.setReady q).Represents x :=
  h.frame (fun _ => rfl) fun _ _ => rfl

/-- An actor gets a message. -/
lemma pushMessage (h : s.Represents x) (msg : ActorMessage) :
    (s.setActor a ((s.actors a).pushMessage msg)).Represents
      (Function.update x a (((s.actors a).pushMessage msg).party (x a).turn)) := by
  have hturn : ∀ b, (Function.update x a (((s.actors a).pushMessage msg).party (x a).turn) b).turn =
      (x b).turn := by
    intro b
    by_cases hb : b = a
    · subst hb
      rw [Function.update_self]
      rfl
    · rw [Function.update_of_ne hb]
  refine ⟨fun b => ?_, fun u b hne => ?_, fun b hidle => ?_⟩
  · rw [hturn]
    by_cases hb : b = a
    · subst hb
      rw [Function.update_self, actors_setActor_self]
    · rw [Function.update_of_ne hb, actors_setActor _ _ _ _ hb]
      exact h.messages b
  · rw [hturn]
    exact h.inTurn u b hne
  · rw [hturn]
    exact h.idle b hidle

/-- Only the worker that has the actor shows a turn of it. -/
lemma turn_eq (h : s.Represents x) (hex : Ticket.Exclusive s.tokens)
    (ht : (s.threads t).work.token = some a) : (x a).turn = (s.threads t).work.turn a := by
  by_cases hidle : (s.threads t).work.turn a = .idle
  · rw [hidle]
    refine h.idle a fun u => ?_
    by_cases hu : (s.threads u).work.token = some a
    · have hut : u = t := Sum.inl.inj (hex.held_unique (.inl u) (.inl t) a hu ht)
      rw [hut, hidle]
    · exact WorkPc.turn_eq_idle hu
  · exact h.inTurn t a hidle

variable [DecidableEq Tid]

lemma setSend (h : s.Represents x) (pc : SendPc) : (s.setSend t pc).Represents x :=
  h.frame (fun _ => rfl) fun u b => by rw [work_setSend]

/-- A worker moves on from one place without a turn to another. -/
lemma setWork (h : s.Represents x) {pc : WorkPc} (hfrom : ∀ b, (s.threads t).work.turn b = .idle)
    (hto : ∀ b, pc.turn b = .idle) : (s.setWork t pc).Represents x := by
  refine h.frame (fun _ => rfl) fun u b => ?_
  by_cases hu : u = t
  · subst hu
    rw [work_setWork_self, hto, hfrom]
  · rw [work_setWork _ _ _ _ hu]

/-- A worker that has the actor `a` moves on with it, and so does the party. -/
lemma advance (h : s.Represents x) (hex : Ticket.Exclusive s.tokens)
    (ht : (s.threads t).work.token = some a) (pc : WorkPc) (o : ActorObject)
    (hother : ∀ b, b ≠ a → pc.turn b = .idle) :
    ((s.setActor a o).setWork t pc).Represents (Function.update x a (o.party (pc.turn a))) := by
  have hbefore : ∀ b, b ≠ a → (s.threads t).work.turn b = .idle := by
    intro b hb
    refine WorkPc.turn_eq_idle fun ht' => hb ?_
    exact Option.some.inj (ht'.symm.trans ht)
  have hworkers : ∀ u, u ≠ t → (s.threads u).work.turn a = .idle := by
    intro u hu
    exact WorkPc.turn_eq_idle fun hu' =>
      hu (Sum.inl.inj (hex.held_unique (.inl u) (.inl t) a hu' ht))
  refine ⟨fun b => ?_, fun u b hne => ?_, fun b hidle => ?_⟩
  · by_cases hb : b = a
    · subst hb
      rw [Function.update_self, actors_setWork, actors_setActor_self]
      rfl
    · rw [Function.update_of_ne hb, actors_setWork, actors_setActor _ _ _ _ hb]
      exact h.messages b
  · by_cases hu : u = t
    · subst hu
      rw [work_setWork_self] at hne ⊢
      by_cases hb : b = a
      · subst hb
        rw [Function.update_self]
        rfl
      · exact absurd (hother b hb) hne
    · rw [work_setWork _ _ _ _ hu] at hne ⊢
      by_cases hb : b = a
      · subst hb
        exact absurd (hworkers u hu) hne
      · rw [Function.update_of_ne hb]
        exact h.inTurn u b hne
  · by_cases hb : b = a
    · subst hb
      rw [Function.update_self]
      simpa using hidle t
    · rw [Function.update_of_ne hb]
      refine h.idle b fun u => ?_
      by_cases hu : u = t
      · subst hu
        exact hbefore b hb
      · simpa [work_setWork _ _ _ _ hu] using hidle u

end Represents

/-! ### Every step is a step of a party, or none -/

/-- Writing an actor back changes nothing. -/
lemma setActor_self (s : ActorSystem Tid) (a : ActorId) : s.setActor a (s.actors a) = s := by
  rw [setActor, Function.update_eq_self]

lemma turn_pops (a : ActorId) (n : Nat) (p : Bool) : (WorkPc.pops a n p).turn a = .before p := by
  cases p <;> simp [WorkPc.pops, WorkPc.turn, Party.Turn.before]

lemma token_pops (a : ActorId) (n : Nat) (p : Bool) : (WorkPc.pops a n p).token = some a := by
  cases p <;> rfl

variable [DecidableEq Tid]

/-- A step of the worker that has the actor `a`. -/
lemma Represents.turn (h : s.Represents x) (hex : Ticket.Exclusive s.tokens)
    (ht : (s.threads t).work.token = some a) (act : Party.Action ActorMessage) {pc : WorkPc}
    (hact : ((s.actors a).party ((s.threads t).work.turn a)).next act =
      some ((s.actors a).party (pc.turn a)))
    (hother : ∀ b, b ≠ a → pc.turn b = .idle) : ∃ ls x',
      (Party.machine ActorId ActorMessage).run x ls = some x' ∧ (s.setWork t pc).Represents x' := by
  have hadvance := h.advance hex ht pc (s.actors a) hother
  rw [setActor_self] at hadvance
  refine ⟨[(a, act)], _, Party.run_one ?_, hadvance⟩
  rw [h.messages a, h.turn_eq hex ht]
  exact hact

theorem Effect.represented (h : Effect s s') (hex : Ticket.Exclusive s.tokens)
    (hx : s.Represents x) : ∃ ls x',
      (Party.machine ActorId ActorMessage).run x ls = some x' ∧ s'.Represents x' := by
  have hstay : ∀ {s' : ActorSystem Tid}, s'.Represents x → ∃ ls x',
      (Party.machine ActorId ActorMessage).run x ls = some x' ∧ s'.Represents x' :=
    fun hx' => ⟨[], x, rfl, hx'⟩
  cases h with
  | actor a o ho => exact hstay (hx.setActor ho.mailbox)
  | send t pc => exact hstay (hx.setSend pc)
  | push t a msg pc =>
    refine ⟨[(a, .receive msg.priority msg)], _, Party.run_one ?_, (hx.pushMessage msg).setSend pc⟩
    rw [hx.messages a]
    exact ActorObject.next_receive _ msg _
  | sendFlag t a f pc =>
    exact hstay ((hx.setActor (o := { s.actors a with scheduled := f }) rfl).setSend pc)
  | sendReady t a pc => exact hstay ((hx.setReady _).setSend pc)
  | starve => exact hstay hx
  | pop t a q hpc =>
    exact hstay ((hx.setReady q).setWork (by simp [hpc, WorkPc.turn]) fun _ => rfl)
  | move t pc hpc => exact hstay (hx.setWork hpc.outside hpc.turn)
  | flag t a f pc hpc =>
    exact hstay ((hx.setActor (o := { s.actors a with scheduled := f }) rfl).setWork hpc.outside
      hpc.turn)
  | ready t a pc hpc => exact hstay ((hx.setReady _).setWork hpc.outside hpc.turn)
  | take t a n p msg q hpc hq =>
    have ht : (s.threads t).work.token = some a := by rw [hpc, token_pops]
    refine ⟨[(a, .take p)], _, Party.run_one ?_, hx.advance hex ht _ _ ?_⟩
    · rw [hx.messages a, hx.turn_eq hex ht, hpc, turn_pops]
      simpa [WorkPc.turn] using ActorObject.next_take hq
    · intro b hb
      simp [WorkPc.turn, Ne.symm hb]
  | look t a n hpc he =>
    refine hx.turn hex (by rw [hpc, token_pops]) .look ?_ ?_
    · rw [hpc, turn_pops, turn_pops]
      exact if_pos ⟨rfl, he⟩
    · intro b hb
      simp [WorkPc.pops, WorkPc.turn, Ne.symm hb]
  | giveUp t a n hpc he =>
    refine hx.turn hex (by rw [hpc, token_pops]) .giveUp ?_ fun _ _ => rfl
    rw [hpc, turn_pops]
    exact if_pos ⟨rfl, he⟩
  | dispatch t a n p msg hpc =>
    have ht : (s.threads t).work.token = some a := by rw [hpc]; rfl
    have hadvance := hx.advance hex ht (.handler a n) ((s.actors a).dispatch p msg)
      fun b hb => by simp [WorkPc.turn, Ne.symm hb]
    have hsame : ((s.actors a).dispatch p msg).party ((WorkPc.handler a n).turn a) = x a := by
      rw [hx.messages a, hx.turn_eq hex ht, hpc, ActorObject.party_congr
        (ActorObject.mailbox_dispatch _ p msg)]
      simp [WorkPc.turn]
    rw [hsame, Function.update_eq_self] at hadvance
    exact hstay hadvance
  | finish t a n pc hpc haway =>
    refine hx.turn hex (by rw [hpc]; rfl) .finish ?_ fun b _ => haway.turn b
    rw [hpc, haway.turn]
    exact if_pos (by simp [WorkPc.turn])

/-! ### Whole runs -/

lemma represented_of_next {l : Action Tid} (hx : (machine Tid).Reachable s ∧ s.Represents x)
    (hs : (machine Tid).next s l = some s') : ∃ ls x',
      (Party.machine ActorId ActorMessage).run x ls = some x' ∧
        (machine Tid).Reachable s' ∧ s'.Represents x' := by
  obtain ⟨ls, x', hrun, hx'⟩ := (Effect.of_next hs).represented (exclusive_of_reachable hx.1) hx.2
  exact ⟨ls, x', hrun, hx.1.step trivial hs, hx'⟩

lemma exists_represents (h : (machine Tid).Reachable s) : ∃ x,
    (Party.machine ActorId ActorMessage).Reachable x ∧ s.Represents x := by
  induction h with
  | start hi => exact ⟨_, .start rfl, Initial.represents hi⟩
  | @step s s' l hr _ hs ih =>
    obtain ⟨x, hreach, hx⟩ := ih
    obtain ⟨ls, x', hrun, -, hx'⟩ := represented_of_next ⟨hr, hx⟩ hs
    exact ⟨x', Machine.reachable_run hreach hrun, hx'⟩

/-- Whatever the threads do, the actors are parties that take one message at a time: the mailboxes
are those of the parties, a party is busy while a worker is about to call `OnMessage` or inside it,
and what `OnMessage` was called with is what the party has taken, but for a message about to be
handed over. -/
theorem refines_parties (h : (machine Tid).Reachable s) : ∃ x,
    (Party.machine ActorId ActorMessage).Reachable x ∧ s.Represents x ∧
      ∀ a p, (s.actors a).dispatched p <+: (x a).taken p ∧
        ((x a).turn = .idle → (s.actors a).dispatched p = (x a).taken p) := by
  obtain ⟨x, hreach, hx⟩ := exists_represents h
  have haccounted := accounted_of_reachable h
  refine ⟨x, hreach, hx, fun a p => ?_⟩
  have htaken : (x a).taken p = ((s.actors a).mailbox p).popped := by
    rw [hx.messages a]
    rfl
  rw [htaken]
  by_cases hnone : ∀ t, (s.threads t).work.taken a p = none
  · rw [haccounted.settled a p hnone]
    exact ⟨List.prefix_refl _, fun _ => rfl⟩
  · obtain ⟨t, ht⟩ := not_forall.mp hnone
    obtain ⟨msg, hmsg⟩ := Option.ne_none_iff_exists'.mp ht
    refine ⟨haccounted.taken t a p msg hmsg ▸ List.prefix_append _ _, fun hidle => ?_⟩
    have hbusy : (s.threads t).work.turn a = .busy := by
      cases hpc : (s.threads t).work with
      | onMessage b n q m =>
        simp only [hpc, WorkPc.taken, Option.ite_none_right_eq_some] at hmsg
        simp [WorkPc.turn, hmsg.1.1]
      | _ => simp [hpc, WorkPc.taken] at hmsg
    have hturn := hx.inTurn t a (by rw [hbusy]; rintro ⟨⟩)
    rw [hidle, hbusy] at hturn
    cases hturn

/-- From any state on, while an actor has a priority message and no worker has already looked into
its priority mailbox and found nothing, `ProcessOne` takes no normal message of it before a priority
one, however many batches and workers it takes. -/
theorem priority_first (h : (machine Tid).Reachable s) {ls : List (Action Tid)}
    (hr : (machine Tid).run s ls = some s')
    (hpriority : (s.actors a).priorityMailbox.queue ≠ [])
    (hlook : ∀ t n, (s.threads t).work ≠ .popNormal a n)
    (hnone : (s'.actors a).priorityMailbox.popped = (s.actors a).priorityMailbox.popped) :
    (s'.actors a).normalMailbox.popped = (s.actors a).normalMailbox.popped := by
  obtain ⟨x, -, hx⟩ := exists_represents h
  obtain ⟨ls', x', hrun, -, hx'⟩ := Machine.run_refinement
    (fun _ _ _ _ hR hs => represented_of_next hR hs) ⟨h, hx⟩ hr
  have hmailbox : ∀ p, (x a).mailbox p = ((s.actors a).mailbox p).queue := by
    intro p
    rw [hx.messages a]
    rfl
  have htaken : ∀ p, (x a).taken p = ((s.actors a).mailbox p).popped := by
    intro p
    rw [hx.messages a]
    rfl
  have htaken' : ∀ p, (x' a).taken p = ((s'.actors a).mailbox p).popped := by
    intro p
    rw [hx'.messages a]
    rfl
  have hturn : (x a).turn ≠ .looked := by
    intro hlooked
    by_cases hidle : ∀ t, (s.threads t).work.turn a = .idle
    · rw [hx.idle a hidle] at hlooked
      cases hlooked
    · obtain ⟨t, ht⟩ := not_forall.mp hidle
      rw [hx.inTurn t a ht] at hlooked
      cases hpc : (s.threads t).work with
      | popNormal b n =>
        by_cases hb : b = a
        · exact hlook t n (hb ▸ hpc)
        · simp [hpc, WorkPc.turn, hb] at hlooked
      | onMessage b _ _ _ | handler b _ =>
        by_cases hb : b = a
        · simp [hpc, WorkPc.turn, hb] at hlooked
        · simp [hpc, WorkPc.turn, hb] at hlooked
      | _ => simp [hpc, WorkPc.turn] at hlooked
  have hfirst := Party.takes_urgent_first hrun (a := a) (by rw [hmailbox]; exact hpriority) hturn
    (by rw [htaken, htaken']; exact hnone)
  rw [htaken, htaken'] at hfirst
  exact hfirst

/-- A normal message and then a priority one, and a worker that begins a batch. -/
def sendBoth : List (Action Bool) :=
  sendOne {} ++ [.callSend false 1 { priority := true }, .send false, .send false, .send false] ++
    List.replicate 2 (.work true)

theorem refines_parties_sendBoth :
    let s := (machine Bool).replay (start id) sendBoth
    ∃ x, (Party.machine ActorId ActorMessage).Reachable x ∧ s.Represents x ∧
      ∀ a p, (s.actors a).dispatched p <+: (x a).taken p ∧
        ((x a).turn = .idle → (s.actors a).dispatched p = (x a).taken p) :=
  refines_parties (Machine.reachable_replay (reachable_start id) _ : (machine Bool).Reachable _)

theorem priority_first_sendBoth :
    let s := (machine Bool).replay (start id) sendBoth
    let s' := (machine Bool).replay s [.callSend false 1 {}, .send false, .send false]
    (s.actors 1).priorityMailbox.queue ≠ [] ∧
      (s'.actors 1).normalMailbox.popped = (s.actors 1).normalMailbox.popped := by
  intro s s'
  have hpriority : (s.actors 1).priorityMailbox.queue ≠ [] := by decide
  refine ⟨hpriority, priority_first (Machine.reachable_replay (reachable_start id) _)
    (Machine.run_replay (by decide)) hpriority ?_ (by decide)⟩
  rintro (_ | _) n hpc
  · cases (show (s.threads false).work = .outside from rfl).symm.trans hpc
  · cases (show (s.threads true).work = .popPriority 1 0 from rfl).symm.trans hpc

end ActorSystem

end Balabala
