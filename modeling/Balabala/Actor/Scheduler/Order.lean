import Balabala.Actor.Scheduler.Wakeup

/-!
# The order of the messages

A mailbox is a queue, but its messages pass through the hands of whatever worker holds the actor at
the time. They still reach `OnMessage` in the order of the pushes, because at most one worker is in
a batch of the actor, wherever the actor is rescheduled.

An observer records the calls of `Send`, the pushes to the mailboxes, and whether the priority
mailbox was empty when a `ProcessOne` began.
-/

namespace Balabala

open Foundation

/-- A push to a mailbox: by which thread, in which of its calls of `Send`, and what. -/
structure Push (Tid : Type*) where
  thread : Tid
  call : Nat
  msg : ActorMessage
  deriving DecidableEq

/-- What the observer of the scheduler has seen. -/
structure Trace (Tid : Type*) where
  /-- the calls of `Send` of a thread -/
  called : Tid → List (ActorId × ActorMessage)
  /-- the pushes to a mailbox of an actor -/
  pushes : ActorId → Bool → List (Push Tid)
  /-- the priority mailbox was not empty when the last `ProcessOne` of the thread began -/
  urgent : Tid → Bool

namespace ActorSystem

variable {Tid : Type*}

def emptyTrace (Tid : Type*) : Trace Tid where
  called := fun _ => []
  pushes := fun _ _ => []
  urgent := fun _ => false

/-- Whether a `ProcessOne` begins with a priority mailbox that is not empty. -/
def beginsUrgent (s : ActorSystem Tid) (t : Tid) : Option Bool :=
  match (s.threads t).work with
  | .popPriority a _ => some (!(s.actors a).priorityMailbox.empty)
  | _ => none

variable [DecidableEq Tid]

def recordCall (g : Trace Tid) (t : Tid) (a : ActorId) (msg : ActorMessage) : Trace Tid :=
  { g with called := Function.update g.called t (g.called t ++ [(a, msg)]) }

/-- The push belongs to the last call of the thread. -/
def recordPush (g : Trace Tid) (t : Tid) (a : ActorId) (msg : ActorMessage) : Trace Tid :=
  { g with pushes := Function.update g.pushes a (Function.update (g.pushes a) msg.priority
      (g.pushes a msg.priority ++ [⟨t, (g.called t).length - 1, msg⟩])) }

def recordBegin (g : Trace Tid) (t : Tid) (s' : ActorSystem Tid) : Trace Tid :=
  match s'.beginsUrgent t with
  | some urgent => { g with urgent := Function.update g.urgent t urgent }
  | none => g

/-- What the observer makes of a step. -/
def record (g : Trace Tid) (s : ActorSystem Tid) (l : Action Tid) (s' : ActorSystem Tid) :
    Trace Tid :=
  match l with
  | .callSend t a msg => recordCall g t a msg
  | .send t =>
    match (s.threads t).send with
    | .push a msg => recordPush g t a msg
    | _ => g
  | .work t | .finish t _ => recordBegin g t s'
  | .register _ | .unregister _ => g

/-- The scheduler with its observer. -/
def traced (Tid : Type*) [DecidableEq Tid] : Machine (ActorSystem Tid × Trace Tid) (Action Tid) :=
  (machine Tid).observed (emptyTrace Tid) record

/-! ### What a worker leaves alone -/

/-- A step of a worker pushes nothing, touches no other thread and no `Send`, and takes nothing from
a priority mailbox unless it is at the beginning of `ProcessOne`. -/
structure WorkFrame (s s' : ActorSystem Tid) (t : Tid) : Prop where
  pushed : ∀ a p, ((s'.actors a).mailbox p).pushed = ((s.actors a).mailbox p).pushed
  send : ∀ u, (s'.threads u).send = (s.threads u).send
  work : ∀ u, u ≠ t → (s'.threads u).work = (s.threads u).work
  urgent : ∀ a, (∀ n, (s.threads t).work ≠ .popPriority a n) →
    (s'.actors a).priorityMailbox.queue = (s.actors a).priorityMailbox.queue

variable {s s' : ActorSystem Tid} {t : Tid}

lemma workFrame_setWork {s₁ : ActorSystem Tid} (pc : WorkPc) (hth : s₁.threads = s.threads)
    (hp : ∀ a p, ((s₁.actors a).mailbox p).pushed = ((s.actors a).mailbox p).pushed)
    (hu : ∀ a, (∀ n, (s.threads t).work ≠ .popPriority a n) →
      (s₁.actors a).priorityMailbox.queue = (s.actors a).priorityMailbox.queue) :
    WorkFrame s (s₁.setWork t pc) t where
  pushed := hp
  send u := by rw [send_setWork, hth]
  work u hne := by rw [work_setWork _ _ _ _ hne, hth]
  urgent := hu

/-- Writing back the actor with nothing pushed. -/
lemma workFrame_setActor {a : ActorId} {o : ActorObject} (pc : WorkPc)
    (hp : ∀ p, (o.mailbox p).pushed = ((s.actors a).mailbox p).pushed)
    (hu : (∀ n, (s.threads t).work ≠ .popPriority a n) →
      o.priorityMailbox.queue = (s.actors a).priorityMailbox.queue) :
    WorkFrame s ((s.setActor a o).setWork t pc) t := by
  refine workFrame_setWork pc rfl (fun b p => ?_) fun b hb => ?_
  · by_cases e : b = a
    · subst e; simpa using hp p
    · rw [actors_setActor _ _ _ _ e]
  · by_cases e : b = a
    · subst e; simpa using hu hb
    · rw [actors_setActor _ _ _ _ e]

/-- Popping a mailbox. -/
lemma workFrame_pop {a : ActorId} {p : Bool} {msg : ActorMessage} {q : SpinLockQueue ActorMessage}
    (pc : WorkPc) (hq : ((s.actors a).mailbox p).pop = some (msg, q))
    (hp : p = true → ∃ n, (s.threads t).work = .popPriority a n) :
    WorkFrame s ((s.setActor a ((s.actors a).setMailbox p q)).setWork t pc) t := by
  obtain ⟨-, hpushed, -⟩ := SpinLockQueue.pop_eq_some hq
  refine workFrame_setActor pc (fun r => ?_) fun hu => ?_
  · by_cases e : r = p
    · subst e; simpa using hpushed
    · rw [ActorObject.mailbox_setMailbox _ _ e]
  · cases p with
    | true =>
      obtain ⟨n, hn⟩ := hp rfl
      exact absurd hn (hu n)
    | false => rfl

lemma workFrame (h : s.workNext t (s.threads t).work = some s') : WorkFrame s s' t := by
  have hsame : ∀ pc, WorkFrame s (s.setWork t pc) t :=
    fun pc => workFrame_setWork pc rfl (fun _ _ => rfl) fun _ _ => rfl
  have hready : ∀ q pc, WorkFrame s ((s.setReady q).setWork t pc) t :=
    fun q pc => workFrame_setWork pc rfl (fun _ _ => rfl) fun _ _ => rfl
  have hflag : ∀ a b pc, WorkFrame s
      ((s.setActor a { s.actors a with scheduled := b }).setWork t pc) t :=
    fun a b pc => workFrame_setActor pc (fun p => by cases p <;> rfl) fun _ => rfl
  cases hpc : (s.threads t).work with
  | outside | handler a n => simp [hpc, workNext] at h
  | pop =>
    simp only [hpc, workNext] at h
    split at h
    · cases h; exact ⟨fun _ _ => rfl, fun _ => rfl, fun _ _ => rfl, fun _ _ => rfl⟩
    · cases h; exact hready _ _
  | find a | checkPriority a | checkNormal a | recheckPriority a | recheckNormal a =>
    simp only [hpc, workNext] at h
    split_ifs at h
    all_goals cases h; exact hsame _
  | popPriority a n =>
    simp only [hpc, workNext] at h
    split at h
    · cases h; exact workFrame_pop _ ‹_› fun _ => ⟨n, hpc⟩
    · cases h; exact hsame _
  | popNormal a n =>
    simp only [hpc, workNext] at h
    split at h
    · cases h; exact workFrame_pop (p := false) _ ‹_› (by simp)
    · cases h; exact hsame _
  | onMessage a n p msg =>
    simp only [hpc, workNext] at h
    cases h
    exact workFrame_setActor _ (fun r => by rw [ActorObject.mailbox_dispatch]) fun _ => rfl
  | enqueue a | reenqueue a =>
    simp only [hpc, workNext] at h
    cases h; exact hready _ _
  | clear a =>
    simp only [hpc, workNext] at h
    cases h; exact hflag a false _
  | exchange a =>
    simp only [hpc, workNext] at h
    split_ifs at h
    · cases h; exact hsame _
    · cases h; exact hflag a true _

/-- A worker looks into the normal mailbox because the priority mailbox was empty, and takes a
normal message because it looked there. -/
lemma normal_of_workNext (h : s.workNext t (s.threads t).work = some s') :
    (∀ a n, (s'.threads t).work = .popNormal a n →
      (s.threads t).work = .popPriority a n ∧ (s.actors a).priorityMailbox.queue = []) ∧
    ∀ a n msg, (s'.threads t).work = .onMessage a n false msg →
      (s.threads t).work = .popNormal a n := by
  cases hpc : (s.threads t).work with
  | outside | handler a n => simp [hpc, workNext] at h
  | pop =>
    simp only [hpc, workNext] at h
    split at h
    · cases h; simp [hpc]
    · cases h; simp
  | find a | checkPriority a | checkNormal a | recheckPriority a | recheckNormal a | exchange a =>
    simp only [hpc, workNext] at h
    split_ifs at h
    all_goals cases h; simp
  | popPriority a n =>
    simp only [hpc, workNext] at h
    split at h
    · cases h; simp
    · rename_i hq
      cases h
      have hempty := SpinLockQueue.pop_eq_none hq
      refine ⟨fun b m hb => ?_, by simp⟩
      rw [work_setWork_self] at hb
      cases hb
      exact ⟨rfl, hempty⟩
  | popNormal a n =>
    simp only [hpc, workNext] at h
    split at h
    · cases h
      refine ⟨by simp, fun b m msg hb => ?_⟩
      rw [work_setWork_self] at hb
      cases hb
      rfl
    · cases h; simp
  | onMessage a n p msg | enqueue a | reenqueue a | clear a =>
    simp only [hpc, workNext] at h
    cases h; simp

end ActorSystem

/-- The message that a `Send` in progress has still to push. -/
def SendPc.pending : SendPc → Option (ActorId × ActorMessage)
  | .find a msg | .push a msg => some (a, msg)
  | .idle | .exchange _ | .enqueue _ => none

namespace ActorSystem

variable {Tid : Type*}

/-! ### Pushes are calls -/

/-- What was pushed to a mailbox is what the observer saw. Every push belongs to a call of `Send` of
its thread; those to one mailbox by one thread are in the order of its calls, and all of them are
before a call that has still to push. -/
structure Issued (x : ActorSystem Tid × Trace Tid) : Prop where
  pushed : ∀ a p, ((x.1.actors a).mailbox p).pushed = (x.2.pushes a p).map Push.msg
  last : ∀ t c, (x.1.threads t).send.pending = some c → (x.2.called t).getLast? = some c
  before : ∀ t c, (x.1.threads t).send.pending = some c →
    ∀ a p, ∀ q ∈ x.2.pushes a p, q.thread = t → q.call + 1 < (x.2.called t).length
  call : ∀ a p, ∀ q ∈ x.2.pushes a p,
    (x.2.called q.thread)[q.call]? = some (a, q.msg) ∧ q.msg.priority = p
  order : ∀ a p, (x.2.pushes a p).Pairwise fun q r => q.thread = r.thread → q.call < r.call

lemma pushes_recordPush_self (g : Trace Tid) (t : Tid) (a : ActorId) (msg : ActorMessage) :
    (recordPush g t a msg).pushes a msg.priority =
      g.pushes a msg.priority ++ [⟨t, (g.called t).length - 1, msg⟩] := by
  simp [recordPush]

lemma pushes_recordPush {g : Trace Tid} {t : Tid} {a b : ActorId} {msg : ActorMessage} {p : Bool}
    (hne : ¬(b = a ∧ p = msg.priority)) : (recordPush g t a msg).pushes b p = g.pushes b p := by
  by_cases e : b = a
  · subst e
    simp [recordPush, Function.update_of_ne fun e => hne ⟨rfl, e⟩]
  · simp [recordPush, Function.update_of_ne e]

/-- A push is an old one or the one that was recorded last. -/
lemma mem_recordPush {g : Trace Tid} {t : Tid} {a b : ActorId} {msg : ActorMessage} {p : Bool}
    {q : Push Tid} (hq : q ∈ (recordPush g t a msg).pushes b p) : q ∈ g.pushes b p ∨
      (b = a ∧ p = msg.priority ∧ q = ⟨t, (g.called t).length - 1, msg⟩) := by
  by_cases e : b = a ∧ p = msg.priority
  · obtain ⟨rfl, rfl⟩ := e
    rw [pushes_recordPush_self, List.mem_append, List.mem_singleton] at hq
    exact hq.imp id fun hq => ⟨rfl, rfl, hq⟩
  · rw [pushes_recordPush e] at hq
    exact .inl hq

namespace Issued

variable {s s' : ActorSystem Tid} {g g' : Trace Tid} {t : Tid}

lemma initial (h : Initial s) : Issued (s, emptyTrace Tid) where
  pushed a p := by rw [h.actors a]; cases p <;> rfl
  last t c hc := by simp [h.send t, SendPc.pending] at hc
  before t c hc := by simp [h.send t, SendPc.pending] at hc
  call a p q hq := by simp [emptyTrace] at hq
  order a p := List.Pairwise.nil

/-- A step that neither calls `Send` nor pushes. -/
lemma frame (h : Issued (s, g))
    (hp : ∀ a p, ((s'.actors a).mailbox p).pushed = ((s.actors a).mailbox p).pushed)
    (hs : ∀ u c, (s'.threads u).send.pending = some c → (s.threads u).send.pending = some c)
    (hcalled : g'.called = g.called) (hpushes : g'.pushes = g.pushes) : Issued (s', g') where
  pushed a p := by rw [hpushes, hp]; exact h.pushed a p
  last u c hc := by rw [hcalled]; exact h.last u c (hs u c hc)
  before u c hc := by rw [hcalled, hpushes]; exact h.before u c (hs u c hc)
  call := by rw [hcalled, hpushes]; exact h.call
  order := by rw [hpushes]; exact h.order

lemma call_lt (h : Issued (s, g)) {a : ActorId} {p : Bool} {q : Push Tid}
    (hq : q ∈ g.pushes a p) : q.call < (g.called q.thread).length := by
  obtain ⟨hcall, -⟩ := h.call a p q hq
  exact (List.getElem?_eq_some_iff.mp hcall).1

lemma setActor (h : Issued (s, g)) {a : ActorId} {o : ActorObject}
    (hp : ∀ p, (o.mailbox p).pushed = ((s.actors a).mailbox p).pushed) :
    Issued (s.setActor a o, g) := by
  refine h.frame (fun b p => ?_) (fun _ _ hc => hc) rfl rfl
  by_cases e : b = a
  · subst e; simpa using hp p
  · rw [actors_setActor _ _ _ _ e]

variable [DecidableEq Tid]

lemma setSend (h : Issued (s, g)) {pc : SendPc}
    (hpc : ∀ c, pc.pending = some c → (s.threads t).send.pending = some c) :
    Issued (s.setSend t pc, g) := by
  refine h.frame (fun _ _ => rfl) (fun u c hc => ?_) rfl rfl
  by_cases e : u = t
  · subst e
    rw [send_setSend_self] at hc
    exact hpc c hc
  · rw [send_setSend _ _ _ _ e] at hc
    exact hc

lemma recordCall (h : Issued (s, g)) (a : ActorId) (msg : ActorMessage) :
    Issued (s.setSend t (.find a msg), recordCall g t a msg) := by
  have hcalled : ∀ u, u ≠ t → (ActorSystem.recordCall g t a msg).called u = g.called u :=
    fun u hne => Function.update_of_ne hne _ _
  have hself : (ActorSystem.recordCall g t a msg).called t = g.called t ++ [(a, msg)] :=
    Function.update_self _ _ _
  constructor
  · exact h.pushed
  · intro u c hc
    by_cases e : u = t
    · subst e
      rw [send_setSend_self] at hc
      rw [hself, List.getLast?_concat]
      exact hc
    · rw [send_setSend _ _ _ _ e] at hc
      rw [hcalled u e]
      exact h.last u c hc
  · intro u c hc b p q hq hu
    by_cases e : u = t
    · have hlt := h.call_lt hq
      rw [hu, e] at hlt
      rw [e, hself, List.length_append, List.length_singleton]
      omega
    · rw [send_setSend _ _ _ _ e] at hc
      rw [hcalled u e]
      exact h.before u c hc b p q hq hu
  · intro b p q hq
    obtain ⟨hcall, hp⟩ := h.call b p q hq
    refine ⟨?_, hp⟩
    by_cases e : q.thread = t
    · have hlt := h.call_lt hq
      rw [e] at hcall hlt
      rw [e, hself, List.getElem?_append_left hlt]
      exact hcall
    · rw [hcalled _ e]
      exact hcall
  · exact h.order

lemma recordPush (h : Issued (s, g)) {a : ActorId} {msg : ActorMessage}
    (hpc : (s.threads t).send = .push a msg) :
    Issued ((s.setActor a ((s.actors a).pushMessage msg)).setSend t (.exchange a),
      recordPush g t a msg) := by
  have hpend : (s.threads t).send.pending = some (a, msg) := by rw [hpc]; rfl
  have hlast : (g.called t)[(g.called t).length - 1]? = some (a, msg) := by
    rw [← List.getLast?_eq_getElem?]
    exact h.last t _ hpend
  have hself := pushes_recordPush_self g t a msg
  have hother : ∀ b p, ¬(b = a ∧ p = msg.priority) →
      (ActorSystem.recordPush g t a msg).pushes b p = g.pushes b p :=
    fun _ _ hne => pushes_recordPush hne
  have hidle : ∀ u c, (((s.setActor a ((s.actors a).pushMessage msg)).setSend t
      (.exchange a)).threads u).send.pending = some c →
      u ≠ t ∧ (s.threads u).send.pending = some c := by
    intro u c hc
    by_cases e : u = t
    · subst e; simp [SendPc.pending] at hc
    · rw [send_setSend _ _ _ _ e] at hc
      exact ⟨e, hc⟩
  constructor
  · intro b p
    rw [actors_setSend]
    by_cases e : b = a
    · subst e
      rw [actors_setActor_self, ActorObject.pushMessage_eq]
      by_cases e : p = msg.priority
      · subst e
        rw [hself, ActorObject.mailbox_setMailbox_self, SpinLockQueue.pushed_push, h.pushed,
          List.map_append]
        rfl
      · rw [ActorObject.mailbox_setMailbox _ _ e, hother b p (fun h => e h.2)]
        exact h.pushed b p
    · rw [actors_setActor _ _ _ _ e, hother b p (fun h => e h.1)]
      exact h.pushed b p
  · intro u c hc
    exact h.last u c (hidle u c hc).2
  · intro u c hc b p q hq hu
    obtain ⟨hne, hc⟩ := hidle u c hc
    rcases mem_recordPush hq with hq | ⟨-, -, rfl⟩
    · exact h.before u c hc b p q hq hu
    · exact absurd hu.symm hne
  · intro b p q hq
    rcases mem_recordPush hq with hq | ⟨rfl, rfl, rfl⟩
    · exact h.call b p q hq
    · exact ⟨hlast, rfl⟩
  · intro b p
    by_cases e : b = a ∧ p = msg.priority
    · obtain ⟨rfl, rfl⟩ := e
      rw [hself, List.pairwise_append]
      refine ⟨h.order b _, List.pairwise_singleton _ _, fun q hq r hr hqr => ?_⟩
      rw [List.mem_singleton] at hr
      subst hr
      have hbefore : q.call + 1 < (g.called t).length := h.before t _ hpend b _ q hq hqr
      show q.call < (g.called t).length - 1
      omega
    · rw [hother b p e]
      exact h.order b p

lemma sendNext (h : Issued (s, g)) (hs : s.sendNext t (s.threads t).send = some s') :
    Issued (s', record g s (.send t) s') := by
  cases hpc : (s.threads t).send with
  | idle => simp [hpc, ActorSystem.sendNext] at hs
  | find a msg =>
    simp only [record, hpc]
    simp only [hpc, ActorSystem.sendNext] at hs
    split_ifs at hs
    · cases hs
      exact h.setSend fun c hc => by rw [hpc]; exact hc
    · cases hs
      exact h.setSend fun c hc => by simp [SendPc.pending] at hc
  | push a msg =>
    simp only [record, hpc]
    simp only [hpc, ActorSystem.sendNext] at hs
    cases hs
    exact h.recordPush hpc
  | exchange a =>
    simp only [record, hpc]
    simp only [hpc, ActorSystem.sendNext] at hs
    split_ifs at hs
    · cases hs
      exact h.setSend fun c hc => by simp [SendPc.pending] at hc
    · cases hs
      refine Issued.setSend (h.setActor fun p => ?_) fun c hc => by simp [SendPc.pending] at hc
      cases p <;> rfl
  | enqueue a =>
    simp only [record, hpc]
    simp only [hpc, ActorSystem.sendNext] at hs
    cases hs
    refine h.frame (fun _ _ => rfl) (fun u c hc => ?_) rfl rfl
    by_cases e : u = t
    · subst e; simp [SendPc.pending] at hc
    · rw [send_setSend _ _ _ _ e] at hc
      exact hc

end Issued

section

variable [DecidableEq Tid]

@[simp] lemma called_recordBegin (g : Trace Tid) (t : Tid) (s' : ActorSystem Tid) :
    (recordBegin g t s').called = g.called := by
  rw [recordBegin]
  split <;> rfl

@[simp] lemma pushes_recordBegin (g : Trace Tid) (t : Tid) (s' : ActorSystem Tid) :
    (recordBegin g t s').pushes = g.pushes := by
  rw [recordBegin]
  split <;> rfl

lemma Issued.step {s s' : ActorSystem Tid} {g : Trace Tid} {l : Action Tid} (h : Issued (s, g))
    (hs : (machine Tid).next s l = some s') : Issued (s', record g s l s') := by
  change next s l = some s' at hs
  cases l with
  | register a | unregister a =>
    simp only [next] at hs
    split_ifs at hs
    cases hs
    exact h.setActor fun p => by cases p <;> rfl
  | callSend t a msg =>
    simp only [next] at hs
    split_ifs at hs
    cases hs
    exact h.recordCall a msg
  | send t => exact h.sendNext hs
  | work t =>
    simp only [next] at hs
    split at hs
    · have hframe := workFrame hs
      refine h.frame hframe.pushed (fun u c hc => ?_) (called_recordBegin _ _ _)
        (pushes_recordBegin _ _ _)
      rw [hframe.send] at hc
      exact hc
    · cases hs
  | finish t threw =>
    simp only [next] at hs
    split at hs
    · cases hs
      refine h.frame (fun _ _ => rfl) (fun u c hc => ?_) (called_recordBegin _ _ _)
        (pushes_recordBegin _ _ _)
      rw [send_setWork] at hc
      exact hc
    · cases hs

theorem issued_of_reachable {x : ActorSystem Tid × Trace Tid} (h : (traced Tid).Reachable x) :
    Issued x := by
  apply h.invariant (P := Issued)
  · rintro ⟨s, g⟩ ⟨hi, rfl⟩
    exact Issued.initial hi
  · rintro ⟨s, g⟩ l ⟨s', g'⟩ _ hx _ hstep
    obtain ⟨hs, hg⟩ := Machine.next_of_observed hstep
    change g' = record g s l s' at hg
    rw [hg]
    exact hx.step hs

end

/-! ### The priority mailbox comes first -/

/-- While a `ProcessOne` that began with a priority message has not popped yet, the message is still
there. One that is at the normal mailbox, or took a message from it, began without. -/
structure Urgent (x : ActorSystem Tid × Trace Tid) : Prop where
  full : ∀ t a n, (x.1.threads t).work = .popPriority a n → x.2.urgent t = true →
    (x.1.actors a).priorityMailbox.queue ≠ []
  normal : ∀ t a n, (x.1.threads t).work = .popNormal a n → x.2.urgent t = false
  taken : ∀ t a n msg, (x.1.threads t).work = .onMessage a n false msg → x.2.urgent t = false

namespace Urgent

variable {s s' : ActorSystem Tid} {g g' : Trace Tid}

lemma initial (s : ActorSystem Tid) : Urgent (s, emptyTrace Tid) := by
  constructor
  · intro t a n _ hu
    simp [emptyTrace] at hu
  · intro t a n _
    rfl
  · intro t a n msg _
    rfl

/-- A step of no worker, which can only add to a priority mailbox. -/
lemma frame (h : Urgent (s, g)) (hw : ∀ u, (s'.threads u).work = (s.threads u).work)
    (hq : ∀ a, (s.actors a).priorityMailbox.queue ≠ [] → (s'.actors a).priorityMailbox.queue ≠ [])
    (hu : g'.urgent = g.urgent) : Urgent (s', g') := by
  constructor
  · intro u a n hpc hurgent
    rw [hw] at hpc
    rw [hu] at hurgent
    exact hq a (h.full u a n hpc hurgent)
  · intro u a n hpc
    rw [hw] at hpc
    rw [hu]
    exact h.normal u a n hpc
  · intro u a n msg hpc
    rw [hw] at hpc
    rw [hu]
    exact h.taken u a n msg hpc

/-- Only `ProcessOne` changes the record. -/
lemma of_record (h : Urgent (s, g)) (hu : g'.urgent = g.urgent) : Urgent (s, g') :=
  h.frame (fun _ => rfl) (fun _ => id) hu

/-- Setting an actor whose priority mailbox did not lose a message. -/
lemma setActor (h : Urgent (s, g)) {a : ActorId} {o : ActorObject}
    (ho : (s.actors a).priorityMailbox.queue ≠ [] → o.priorityMailbox.queue ≠ []) :
    Urgent (s.setActor a o, g) := by
  refine h.frame (fun _ => rfl) (fun b => ?_) rfl
  by_cases e : b = a
  · subst e
    rw [actors_setActor_self]
    exact ho
  · rw [actors_setActor _ _ _ _ e]
    exact id

lemma pushMessage (h : Urgent (s, g)) (a : ActorId) (msg : ActorMessage) :
    Urgent (s.setActor a ((s.actors a).pushMessage msg), g) := by
  refine h.setActor fun hne => ?_
  rw [ActorObject.pushMessage]
  split_ifs
  · exact List.append_ne_nil_of_left_ne_nil hne _
  · exact hne

end Urgent

variable [DecidableEq Tid]

lemma urgent_recordBegin_of_ne (g : Trace Tid) {t u : Tid} (s' : ActorSystem Tid) (h : u ≠ t) :
    (recordBegin g t s').urgent u = g.urgent u := by
  rw [recordBegin]
  split
  · exact Function.update_of_ne h _ _
  · rfl

/-- At the beginning of a `ProcessOne` the observer looks at the priority mailbox. -/
lemma urgent_recordBegin (g : Trace Tid) {t : Tid} {s' : ActorSystem Tid} {a : ActorId} {n : Nat}
    (h : (s'.threads t).work = .popPriority a n) :
    (recordBegin g t s').urgent t = !(s'.actors a).priorityMailbox.empty := by
  simp [recordBegin, beginsUrgent, h]

/-- Anywhere else the record stays as it is. -/
lemma urgent_recordBegin_of_not (g : Trace Tid) {t : Tid} {s' : ActorSystem Tid}
    (h : ∀ a n, (s'.threads t).work ≠ .popPriority a n) :
    (recordBegin g t s').urgent t = g.urgent t := by
  have hnone : s'.beginsUrgent t = none := by
    rw [beginsUrgent]
    split
    · rename_i a n hpc
      exact absurd hpc (h a n)
    · rfl
  simp [recordBegin, hnone]

namespace Urgent

variable {s s' : ActorSystem Tid} {g : Trace Tid} {t : Tid}

/-- A step of a worker. The priority mailbox another worker is at stays as it is, as no two workers
are in a batch of one actor. -/
lemma worker (h : Urgent (s, g)) (hex : Ticket.Exclusive s.tokens)
    (hw : ∀ u, u ≠ t → (s'.threads u).work = (s.threads u).work)
    (hq : ∀ a, (∀ n, (s.threads t).work ≠ .popPriority a n) →
      (s'.actors a).priorityMailbox.queue = (s.actors a).priorityMailbox.queue)
    (hnormal : ∀ a n, (s'.threads t).work = .popNormal a n →
      (s.threads t).work = .popPriority a n ∧ (s.actors a).priorityMailbox.queue = [])
    (htaken : ∀ a n msg, (s'.threads t).work = .onMessage a n false msg →
      (s.threads t).work = .popNormal a n) : Urgent (s', recordBegin g t s') := by
  constructor
  · intro u a n hpc hurgent
    by_cases e : u = t
    · subst e
      rw [urgent_recordBegin g hpc] at hurgent
      simpa using hurgent
    · rw [urgent_recordBegin_of_ne g s' e] at hurgent
      rw [hw u e] at hpc
      rw [hq a fun m hm => ?_]
      · exact h.full u a n hpc hurgent
      · exact e (Sum.inl.inj (hex.held_unique (.inl u) (.inl t) a (held_worker hpc)
          (held_worker hm)))
  · intro u a n hpc
    by_cases e : u = t
    · subst e
      obtain ⟨hbegan, hempty⟩ := hnormal a n hpc
      rw [urgent_recordBegin_of_not g fun b m hm => by rw [hpc] at hm; cases hm]
      by_contra hurgent
      exact h.full u a n hbegan (by simpa using hurgent) hempty
    · rw [urgent_recordBegin_of_ne g s' e]
      rw [hw u e] at hpc
      exact h.normal u a n hpc
  · intro u a n msg hpc
    by_cases e : u = t
    · subst e
      rw [urgent_recordBegin_of_not g fun b m hm => by rw [hpc] at hm; cases hm]
      exact h.normal u a n (htaken a n msg hpc)
    · rw [urgent_recordBegin_of_ne g s' e]
      rw [hw u e] at hpc
      exact h.taken u a n msg hpc

lemma setSend (h : Urgent (s, g)) (pc : SendPc) : Urgent (s.setSend t pc, g) :=
  h.frame (fun _ => work_setSend _ _ _ _) (fun _ => id) rfl

lemma sendNext (h : Urgent (s, g)) (hs : s.sendNext t (s.threads t).send = some s') :
    Urgent (s', g) := by
  cases hpc : (s.threads t).send with
  | idle => simp [hpc, ActorSystem.sendNext] at hs
  | find a msg =>
    simp only [hpc, ActorSystem.sendNext] at hs
    split_ifs at hs
    all_goals cases hs; exact h.setSend _
  | push a msg =>
    simp only [hpc, ActorSystem.sendNext] at hs
    cases hs
    exact (h.pushMessage a msg).setSend _
  | exchange a =>
    simp only [hpc, ActorSystem.sendNext] at hs
    split_ifs at hs
    · cases hs
      exact h.setSend _
    · cases hs
      refine Urgent.setSend (h.setActor fun hne => ?_) _
      exact hne
  | enqueue a =>
    simp only [hpc, ActorSystem.sendNext] at hs
    cases hs
    exact h.frame (fun u => work_setSend _ _ _ _) (fun _ => id) rfl

lemma step {l : Action Tid} (h : Urgent (s, g)) (hex : Ticket.Exclusive s.tokens)
    (hs : (machine Tid).next s l = some s') : Urgent (s', record g s l s') := by
  change next s l = some s' at hs
  cases l with
  | register a | unregister a =>
    simp only [next] at hs
    split_ifs at hs
    cases hs
    exact h.setActor fun hne => hne
  | callSend t a msg =>
    simp only [next] at hs
    split_ifs at hs
    cases hs
    exact (h.setSend _).of_record rfl
  | send t =>
    apply (h.sendNext hs).of_record
    simp only [record]
    split <;> rfl
  | work t =>
    simp only [next] at hs
    split at hs
    · have hframe := workFrame hs
      obtain ⟨hnormal, htaken⟩ := normal_of_workNext hs
      exact h.worker hex hframe.work hframe.urgent hnormal htaken
    · cases hs
  | finish t threw =>
    simp only [next] at hs
    split at hs
    · rename_i a n hpc _
      cases hs
      apply h.worker hex (fun u e => work_setWork _ _ _ _ e) (fun _ _ => rfl)
      all_goals
        intro b m
        rw [continueBatch]
        split_ifs <;> simp
    · cases hs

end Urgent

theorem urgent_of_reachable {x : ActorSystem Tid × Trace Tid} (h : (traced Tid).Reachable x) :
    Urgent x := by
  apply h.invariant (P := Urgent)
  · rintro ⟨s, g⟩ ⟨-, rfl⟩
    exact Urgent.initial s
  · rintro ⟨s, g⟩ l ⟨s', g'⟩ hr hx _ hstep
    obtain ⟨hs, hg⟩ := Machine.next_of_observed hstep
    change g' = record g s l s' at hg
    rw [hg]
    exact hx.step (exclusive_of_reachable hr.of_observed) hs

/-! ### Mailbox order -/

/-- What was handed to `OnMessage` is the beginning of what was pushed. -/
lemma dispatched_prefix {s : ActorSystem Tid} (h : (machine Tid).Reachable s) (a : ActorId)
    (p : Bool) : (s.actors a).dispatched p <+: ((s.actors a).mailbox p).pushed := by
  have haccount := accounted_of_reachable h
  have hpopped : (s.actors a).dispatched p <+: ((s.actors a).mailbox p).popped := by
    by_cases hnone : ∀ t, (s.threads t).work.taken a p = none
    · have heq := haccount.settled a p hnone
      exact heq ▸ List.prefix_refl _
    · obtain ⟨t, ht⟩ := not_forall.mp hnone
      obtain ⟨msg, hmsg⟩ := Option.ne_none_iff_exists'.mp ht
      rw [haccount.taken t a p msg hmsg]
      exact List.prefix_append _ _
  rw [SpinLockQueue.conserved]
  exact hpopped.trans (List.prefix_append _ _)

/-- The messages of an actor in one priority class. -/
structure InOrder (x : ActorSystem Tid × Trace Tid) (a : ActorId) (p : Bool) : Prop where
  /-- They are handed to `OnMessage` in the order of the pushes. -/
  dispatched : (x.1.actors a).dispatched p <+: (x.2.pushes a p).map Push.msg
  /-- A push is what its thread asked for in one of its calls of `Send`. -/
  call : ∀ q ∈ x.2.pushes a p,
    (x.2.called q.thread)[q.call]? = some (a, q.msg) ∧ q.msg.priority = p
  /-- The pushes of one thread are in the order of its calls. -/
  order : (x.2.pushes a p).Pairwise fun q r => q.thread = r.thread → q.call < r.call

/-- For every interleaving the messages of one actor and one priority class are handed to
`OnMessage` in the order they were pushed, and those of one thread in the order it sent them. A
`ProcessOne` that took a message from the normal mailbox had begun with the priority mailbox empty.
No other consumer exists, so this needs no further assumption. -/
theorem mailbox_order {x : ActorSystem Tid × Trace Tid} (h : (traced Tid).Reachable x) :
    (∀ a p, InOrder x a p) ∧
      ∀ t a n msg, (x.1.threads t).work = .onMessage a n false msg → x.2.urgent t = false := by
  have hissued := issued_of_reachable h
  refine ⟨fun a p => ⟨?_, hissued.call a p, hissued.order a p⟩, (urgent_of_reachable h).taken⟩
  rw [← hissued.pushed a p]
  exact dispatched_prefix h.of_observed a p

lemma traced_start (isWorker : Tid → Bool) :
    (traced Tid).Reachable (start isWorker, emptyTrace Tid) := by
  refine .start ⟨⟨fun _ => rfl, rfl, fun _ => rfl, fun t => ?_⟩, rfl⟩
  cases h : isWorker t
  · exact .inl (by simp [start, h])
  · exact .inr (by simp [start, h])

/-- Two messages of one thread, the second of which is sent while the first is in its handler. -/
theorem mailbox_order_two :
    let x := (traced Bool).replay (start id, emptyTrace Bool)
      (sendOne {} ++ List.replicate 5 (.work true) ++
        [.callSend false 1 { type := .userMessage }] ++
        List.replicate 3 (.send false) ++ .finish true false :: List.replicate 3 (.work true))
    (x.1.actors 1).dispatched false = [{}, { type := .userMessage }] ∧ InOrder x 1 false := by
  intro x
  have hx : (traced Bool).Reachable x := Machine.reachable_replay (traced_start id) _
  exact ⟨by decide, (mailbox_order hx).1 1 false⟩

end ActorSystem

end Balabala
