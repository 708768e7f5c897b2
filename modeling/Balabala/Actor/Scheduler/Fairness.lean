import Balabala.Actor.Scheduler.Effect

/-!
# An actor that waits is not passed over

`readyQueue_` is first in, first out, and a worker that has handled 64 messages of an actor puts it
at the end again. While an actor waits in `readyQueue_`, no actor gets ahead of it, and no actor has
more than 64 messages handled, however many messages it has and however the threads are scheduled.
-/

namespace Balabala

open Foundation

namespace ActorSystem

variable {Tid : Type*}

/-- How many messages of an actor were handed to `OnMessage`. -/
def handled (s : ActorSystem Tid) (a : ActorId) : Nat :=
  ((s.actors a).dispatched true).length + ((s.actors a).dispatched false).length

/-- What is in front of an actor in `readyQueue_`. -/
def ahead (s : ActorSystem Tid) (b : ActorId) : List ActorId :=
  s.readyQueue.queue.takeWhile (· ≠ b)

/-- While `b` waits, at most `m` messages of `a` are still handled: by a worker that has `a`, or
since `a` is in front of `b`. -/
structure Owed (s : ActorSystem Tid) (b a : ActorId) (m : Nat) : Prop where
  worker : ∀ t, (s.threads t).work.share a ≤ m
  ahead : a ∈ s.ahead b → batchSize ≤ m

lemma share_le_batchSize (pc : WorkPc) (a : ActorId) : pc.share a ≤ batchSize := by
  cases pc <;> simp only [WorkPc.share, batchSize]
  case find => split_ifs <;> omega
  case popPriority => split_ifs <;> omega
  case popNormal => split_ifs <;> omega
  case onMessage => split_ifs <;> omega
  case handler => split_ifs <;> omega
  all_goals exact Nat.zero_le _

lemma owed_batchSize (s : ActorSystem Tid) (b a : ActorId) : s.Owed b a batchSize where
  worker _ := share_le_batchSize _ a
  ahead _ := le_rfl

/-- What a step does while `b` waits: nothing comes in front of `b`, and what is handled of `a` is
taken off what is owed. -/
structure Passes (s s' : ActorSystem Tid) (b a : ActorId) : Prop where
  ahead : s'.ahead b <:+ s.ahead b
  owed : ∀ m, s.Owed b a m → ∃ m', s'.Owed b a m' ∧ m' + s'.handled a ≤ m + s.handled a

variable {s s' : ActorSystem Tid} {t : Tid} {a b c : ActorId} {m : Nat}

/-- A step that handles nothing, and brings nobody into the hands of a worker who was not in front.
-/
lemma passes_of_owed (hahead : s'.ahead b <:+ s.ahead b) (hhandled : s'.handled a = s.handled a)
    (hwork : ∀ m, s.Owed b a m → ∀ t, (s'.threads t).work.share a ≤ m) : Passes s s' b a where
  ahead := hahead
  owed m ho := ⟨m, ⟨hwork m ho, fun ha => ho.ahead (hahead.subset ha)⟩, by rw [hhandled]⟩

/-! ### What the updates leave alone -/

lemma handled_setActor {o : ActorObject} (h : o.dispatched = (s.actors c).dispatched) :
    (s.setActor c o).handled a = s.handled a := by
  by_cases e : a = c
  · subst e
    rw [handled, handled, actors_setActor_self, h]
  · rw [handled, handled, actors_setActor _ _ _ _ e]

/-- One more message of `c` is handled. -/
lemma handled_dispatch (p : Bool) (msg : ActorMessage) :
    (s.setActor c ((s.actors c).dispatch p msg)).handled a =
      s.handled a + if c = a then 1 else 0 := by
  by_cases e : a = c
  · subst e
    rw [handled, handled, actors_setActor_self, if_pos rfl]
    cases p <;> simp only [ActorObject.dispatch, Function.update_self, ne_eq, reduceCtorEq,
      not_false_eq_true, Function.update_of_ne, List.length_append, List.length_singleton] <;> omega
  · rw [handled, handled, actors_setActor _ _ _ _ e, if_neg (Ne.symm e), Nat.add_zero]

/-- What is put into `readyQueue_` comes after the actors that wait there. -/
lemma ahead_push (hb : b ∈ s.readyQueue.queue) (c : ActorId) :
    (s.setReady (s.readyQueue.push c)).ahead b = s.ahead b := by
  obtain ⟨l, l', hq⟩ := List.append_of_mem hb
  have hstop : ∀ xs : List ActorId, (l ++ b :: xs).takeWhile (· ≠ b) = l.takeWhile (· ≠ b) := by
    intro xs
    rw [List.takeWhile_append, List.takeWhile_cons_of_neg (by simp), List.append_nil]
    split_ifs with hl
    · exact ((List.takeWhile_prefix _).eq_of_length hl).symm
    · rfl
  rw [ahead, ahead, readyQueue_setReady, SpinLockQueue.queue_push, hq, List.append_assoc,
    List.cons_append, hstop, hstop]

/-- What is taken out of `readyQueue_` was in front of the actors that stay there. -/
lemma ahead_pop {q : SpinLockQueue ActorId} (hq : s.readyQueue.pop = some (c, q)) (hne : c ≠ b) :
    s.ahead b = c :: (s.setReady q).ahead b := by
  rw [ahead, ahead, readyQueue_setReady, (SpinLockQueue.pop_eq_some hq).1,
    List.takeWhile_cons_of_pos (by simpa using hne)]

/-! ### The updates -/

lemma Passes.trans {s₁ : ActorSystem Tid} (h : Passes s s₁ b a) (h' : Passes s₁ s' b a) :
    Passes s s' b a where
  ahead := h'.ahead.trans h.ahead
  owed m ho := by
    obtain ⟨m₁, ho₁, hle⟩ := h.owed m ho
    obtain ⟨m', ho', hle'⟩ := h'.owed m₁ ho₁
    exact ⟨m', ho', hle'.trans (Nat.add_le_add_right le_rfl _ |>.trans hle)⟩

/-- A thread puts an actor into `readyQueue_`. -/
lemma passes_setReady (hb : b ∈ s.readyQueue.queue) (c : ActorId) :
    Passes s (s.setReady (s.readyQueue.push c)) b a :=
  passes_of_owed (ahead_push hb c ▸ List.suffix_refl _) rfl fun _ ho => ho.worker

lemma passes_setActor {o : ActorObject} (h : o.dispatched = (s.actors c).dispatched) :
    Passes s (s.setActor c o) b a :=
  passes_of_owed (List.suffix_refl _) (handled_setActor h) fun _ ho => ho.worker

variable [DecidableEq Tid]

lemma passes_setSend (pc : SendPc) : Passes s (s.setSend t pc) b a :=
  passes_of_owed (List.suffix_refl _) rfl fun _ ho u => by
    rw [work_setSend]
    exact ho.worker u

lemma share_setWork {pc : WorkPc} (hw : ∀ u, u ≠ t → (s.threads u).work.share a ≤ m)
    (hpc : pc.share a ≤ m) (u : Tid) : ((s.setWork t pc).threads u).work.share a ≤ m := by
  by_cases e : u = t
  · rw [e, work_setWork_self]
    exact hpc
  · rw [work_setWork _ _ _ _ e]
    exact hw u e

/-- A worker moves on within its batch. -/
lemma passes_setWork {pc : WorkPc} (hpc : pc.share a ≤ (s.threads t).work.share a) :
    Passes s (s.setWork t pc) b a :=
  passes_of_owed (List.suffix_refl _) rfl fun _ ho =>
    share_setWork (fun u _ => ho.worker u) (hpc.trans (ho.worker t))

/-- A worker takes the front of `readyQueue_`. -/
lemma passes_pop {q : SpinLockQueue ActorId} (hq : s.readyQueue.pop = some (c, q)) (hne : c ≠ b) :
    Passes s ((s.setReady q).setWork t (.find c)) b a := by
  have hahead := ahead_pop hq hne
  refine passes_of_owed ?_ rfl fun m ho =>
    share_setWork (s := s.setReady q) (fun u _ => ho.worker u) ?_
  · exact hahead ▸ List.suffix_cons _ _
  · rw [WorkPc.share]
    split_ifs with e
    · subst e
      exact ho.ahead (hahead ▸ List.mem_cons_self)
    · exact Nat.zero_le _

/-- A worker hands a message to `OnMessage`. No other worker has the actor, and it is not in
`readyQueue_`, so that only the rest of the batch is owed. -/
lemma passes_onMessage (hex : Ticket.Exclusive s.tokens) {n : Nat} {p : Bool} {msg : ActorMessage}
    (hpc : (s.threads t).work = .onMessage c n p msg) :
    Passes s ((s.setActor c ((s.actors c).dispatch p msg)).setWork t (.handler c n)) b a := by
  have hhandled := handled_dispatch (s := s) (a := a) (c := c) p msg
  have hheld : s.tokens.held (.inl t) = some c := held_worker hpc
  refine ⟨List.suffix_refl _, fun m ho => ?_⟩
  have hm := ho.worker t
  rw [hpc, WorkPc.share] at hm
  by_cases e : c = a
  · subst e
    rw [if_pos rfl] at hm hhandled
    refine ⟨m - 1, ⟨share_setWork (fun u hne => ?_) ?_, fun ha => ?_⟩, ?_⟩
    · have hother : (s.threads u).work.token ≠ some c := fun hu =>
        hne (Sum.inl.inj (hex.held_unique (.inl u) (.inl t) c hu hheld))
      exact (WorkPc.share_eq_zero hother).trans_le (Nat.zero_le _)
    · rw [WorkPc.share, if_pos rfl]
      omega
    · exact absurd ((List.takeWhile_sublist _).subset ha) (hex.held_notMem _ _ hheld)
    · change m - 1 + (s.setActor c _).handled c ≤ _
      omega
  · rw [if_neg e] at hhandled
    refine ⟨m, ⟨share_setWork (fun u _ => ho.worker u) ?_, ho.ahead⟩, ?_⟩
    · rw [WorkPc.share, if_neg e]
      exact Nat.zero_le _
    · change m + (s.setActor c _).handled a ≤ _
      rw [hhandled, Nat.add_zero]

/-! ### One step -/

theorem Effect.passes (h : Effect s s') (hex : Ticket.Exclusive s.tokens)
    (hb : b ∈ s.readyQueue.queue) (hb' : b ∈ s'.readyQueue.queue) : Passes s s' b a := by
  cases h with
  | actor c o ho => exact passes_setActor ho.dispatched
  | send t pc => exact passes_setSend pc
  | push t c msg pc =>
    refine (passes_setActor ?_).trans (passes_setSend pc)
    rw [ActorObject.pushMessage_eq, ActorObject.dispatched_setMailbox]
  | sendFlag t c f pc =>
    exact (passes_setActor (o := { s.actors c with scheduled := f }) rfl).trans (passes_setSend pc)
  | sendReady t c pc => exact (passes_setReady hb c).trans (passes_setSend pc)
  | starve => exact passes_of_owed (List.suffix_refl _) rfl fun _ ho => ho.worker
  | pop t c q hpc hq =>
    refine passes_pop hq fun e => ?_
    have hnodup := hex.queue_nodup
    rw [show s.tokens.queue = _ from (SpinLockQueue.pop_eq_some hq).1, List.nodup_cons] at hnodup
    exact hnodup.1 (e ▸ hb')
  | move t pc hpc => exact passes_setWork (hpc.share a)
  | flag t c f pc hpc =>
    exact (passes_setActor (o := { s.actors c with scheduled := f }) rfl).trans
      (passes_setWork (hpc.share a))
  | ready t c pc hpc => exact (passes_setReady hb c).trans (passes_setWork (hpc.share a))
  | take t c n p msg q hpc hq =>
    refine (passes_setActor (ActorObject.dispatched_setMailbox _ _ _)).trans (passes_setWork ?_)
    rw [threads_setActor, hpc]
    cases p <;> rfl
  | look t c n hpc =>
    refine passes_setWork ?_
    rw [hpc]
    rfl
  | giveUp t c n hpc => exact passes_setWork (Nat.zero_le _)
  | dispatch t c n p msg hpc => exact passes_onMessage hex hpc
  | finish t c n pc hpc haway => exact passes_setWork (haway.share a)

/-! ### A whole run -/

/-- What every step does while `b` waits, a run does. -/
theorem passes_run (h : (machine Tid).Reachable s) {ls : List (Action Tid)}
    (hr : (machine Tid).run s ls = some s')
    (hwait : (machine Tid).Always (fun s => b ∈ s.readyQueue.queue) s ls) :
    Passes s s' b a := by
  induction ls generalizing s with
  | nil =>
    obtain rfl : s = s' := by simpa using hr
    exact passes_of_owed (List.suffix_refl _) rfl fun _ ho => ho.worker
  | cons l ls ih =>
    obtain ⟨s₁, hs, hr⟩ := Option.bind_eq_some_iff.mp hr
    obtain ⟨hb, hwait⟩ := Machine.always_cons.mp hwait
    have hb₁ : b ∈ s₁.readyQueue.queue := hwait s₁ hs [] s₁ List.nil_prefix rfl
    exact ((Effect.of_next hs).passes (exclusive_of_reachable h) hb hb₁).trans
      (ih (h.step trivial hs) hr (hwait s₁ hs))

/-- While an actor waits in `readyQueue_`, nothing comes in front of it, and of no actor are more
than 64 messages handled; of those that are neither in front of it nor in the hands of a worker,
none. -/
theorem not_passed_over (h : (machine Tid).Reachable s) {ls : List (Action Tid)}
    (hr : (machine Tid).run s ls = some s')
    (hwait : (machine Tid).Always (fun s => b ∈ s.readyQueue.queue) s ls) :
    s'.ahead b <:+ s.ahead b ∧ (∀ a, s'.handled a ≤ s.handled a + 64) ∧
      ∀ a, a ∉ s.ahead b → (∀ t, (s.threads t).work.token ≠ some a) →
        s'.handled a ≤ s.handled a := by
  refine ⟨(passes_run (a := b) h hr hwait).ahead, fun a => ?_, fun a hahead htoken => ?_⟩
  · obtain ⟨m', -, hle⟩ := (passes_run h hr hwait).owed batchSize (owed_batchSize s b a)
    rw [batchSize] at hle
    omega
  · have howed : s.Owed b a 0 :=
      ⟨fun t => (WorkPc.share_eq_zero (htoken t)).le, fun ha => absurd ha hahead⟩
    obtain ⟨m', -, hle⟩ := (passes_run h hr hwait).owed 0 howed
    omega

/-- Two actors with a message each; the worker is about to handle the first while the second waits.
-/
def sendTwo : List (Action Bool) :=
  [.register 1, .register 2, .callSend false 1 {}, .send false, .send false, .send false,
    .send false, .callSend false 2 {}, .send false, .send false, .send false, .send false] ++
    List.replicate 2 (.work true)

theorem not_passed_over_second :
    let s := (machine Bool).replay (start id) sendTwo
    let s' := (machine Bool).replay s (List.replicate 3 (.work true))
    s.ahead 2 = [] ∧ s'.handled 1 = 1 ∧ s'.ahead 2 <:+ s.ahead 2 ∧
      (∀ a, s'.handled a ≤ s.handled a + 64) ∧
      ∀ a, a ∉ s.ahead 2 → (∀ t, (s.threads t).work.token ≠ some a) →
        s'.handled a ≤ s.handled a := by
  intro s s'
  exact ⟨by decide, by decide, not_passed_over
    (Machine.reachable_replay (reachable_start id) _ : (machine Bool).Reachable s)
    (Machine.run_replay (by decide)) (Machine.always_of_runWith (by decide))⟩

end ActorSystem

end Balabala
