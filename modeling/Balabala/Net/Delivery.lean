import Mathlib.Data.Fintype.Basic
import Balabala.Net.Serving

/-!
# Which connection the bytes of a `Send` reach

Outside the loop thread `Send` queues a task that carries the number of its connection and looks
the number up again when it runs. What it finds is the connection of the `Send` unless another
object was entered under the number while the `Send` was on its way, that is, between reading
`socket_` and running the task, and no removal waits in front of it. If no step enters an object
like that (`crossesNone`), every byte reaches the socket and the buffer of its own connection only.
-/

namespace Balabala

namespace PendingTask

/-- A task that sends data of another object than `c` runs before the registration of `fd` is
removed. -/
def crosses (fd : Fd) (c : ConnId) : List PendingTask → Bool
  | .send x f _ :: tasks => (f = fd && x ≠ c) || crosses fd c tasks
  | .removeConnection _ f :: tasks => f ≠ fd && crosses fd c tasks
  | _ :: tasks => crosses fd c tasks
  | [] => false

/-- A removal of `fd` waits. -/
def removes (fd : Fd) : List PendingTask → Bool
  | .removeConnection _ f :: tasks => f = fd || removes fd tasks
  | _ :: tasks => removes fd tasks
  | [] => false

variable {fd : Fd} {c : ConnId} {tasks : List PendingTask}

@[simp] lemma crosses_removeConnection (x : ConnId) (f : Fd) :
    crosses fd c (.removeConnection x f :: tasks) = (f ≠ fd && crosses fd c tasks) := rfl

lemma crosses_append_of_removes (h : removes fd tasks = true) (task : PendingTask) :
    crosses fd c (tasks ++ [task]) = crosses fd c tasks := by
  induction tasks with
  | nil => cases h
  | cons t tasks ih =>
    cases t with
    | removeConnection x f =>
      by_cases hf : f = fd
      · simp [hf]
      · simp only [removes, hf, decide_false, Bool.false_or] at h
        simp only [List.cons_append, crosses_removeConnection, ih h]
    | send x f data => simp only [List.cons_append, crosses, ih h]
    | _ => exact ih h

/-- A task in which no data of another object is sent. -/
lemma crosses_append (h : crosses fd c tasks = false) {task : PendingTask}
    (ht : crosses fd c [task] = false) : crosses fd c (tasks ++ [task]) = false := by
  induction tasks with
  | nil => exact ht
  | cons t tasks ih =>
    cases t with
    | removeConnection x f =>
      by_cases hf : f = fd
      · simp [hf]
      · rw [crosses_removeConnection] at h
        simp only [List.cons_append, crosses_removeConnection, ih (by simpa [hf] using h),
          Bool.and_false]
    | send x f data =>
      simp only [crosses, Bool.or_eq_false_iff] at h
      simp only [List.cons_append, crosses, h.1, ih h.2, Bool.or_false]
    | _ => exact ih h

lemma removes_append (h : removes fd tasks = true) (task : PendingTask) :
    removes fd (tasks ++ [task]) = true := by
  induction tasks with
  | nil => cases h
  | cons t tasks ih =>
    cases t with
    | removeConnection x f =>
      rcases Bool.or_eq_true_iff.mp h with hf | hf
      · simp [removes, hf]
      · simp [removes, ih hf]
    | _ => exact ih h

lemma removes_of_mem {x : ConnId} (h : .removeConnection x fd ∈ tasks) :
    removes fd tasks = true := by
  induction tasks with
  | nil => cases h
  | cons t tasks ih =>
    rcases List.mem_cons.mp h with rfl | hmem
    · simp [removes]
    · cases t with
      | removeConnection y f => simp [removes, ih hmem]
      | _ => exact ih hmem

end PendingTask

/-- The thread is about to queue data of another object than `c` for `fd`. -/
def CallerPc.sendsTo (fd : Fd) (c : ConnId) : CallerPc → Bool
  | .sending x f _ => f = fd && x ≠ c
  | .idle | .holding _ | .accepted _ _ | .entered _ _ | .leaving _ => false

namespace EventLoop

open Foundation PendingTask

variable {Tid : Type*}

/-- Every byte written to a socket or kept in a buffer was sent on that very connection. -/
def DeliversOwn (s : EventLoop Tid) : Prop :=
  (∀ c, ∀ b ∈ s.written c, b.1 = c) ∧ ∀ c, ∀ b ∈ s.outputBuffer c, b.1 = c

/-- A `Send` of another object than `c` is on its way to `fd`, with no removal in front of it. -/
def Crossing (s : EventLoop Tid) (fd : Fd) (c : ConnId) : Prop :=
  crosses fd c s.queue = true ∨
    removes fd s.queue = false ∧ ∃ t, (s.callers t).sendsTo fd c = true

/-- The step does not enter an object that a `Send` of another one would reach. -/
def crossesNone (s : EventLoop Tid) : Action Tid → Prop
  | .construct c =>
    match s.stage c, s.socket c with
    | .addConnectionRaw, some fd => s.mapConnRaw fd = none → ¬ s.Crossing fd c
    | _, _ => True
  | .loop =>
    match s.loop with
    | .addConnection c fd => ¬ s.Crossing fd c
    | _ => True
  | .enter t =>
    match s.callers t with
    | .accepted c fd => ¬ s.Crossing fd c
    | _ => True
  | _ => True

instance [Fintype Tid] (s : EventLoop Tid) (fd : Fd) (c : ConnId) : Decidable (s.Crossing fd c) :=
  inferInstanceAs (Decidable (_ ∨ _ ∧ _))

instance [Fintype Tid] (s : EventLoop Tid) (l : Action Tid) : Decidable (s.crossesNone l) := by
  unfold crossesNone
  repeat' split
  all_goals infer_instance

/-! ### The invariant -/

/-- Whatever a `Send` finds under its number is its own connection. -/
def Clear (s : EventLoop Tid) : Prop :=
  ∀ fd c, s.getConnection fd = some c → s.alive c = true → ¬ s.Crossing fd c

variable {s s' : EventLoop Tid}

lemma Clear.frame (h : s.Clear) (hget : ∀ fd, s'.getConnection fd = s.getConnection fd)
    (halive : ∀ fd c, s.getConnection fd = some c → s'.alive c = true → s.alive c = true)
    (hcross : ∀ fd c, s'.Crossing fd c → s.Crossing fd c) : s'.Clear := by
  intro fd c hc ha hx
  rw [hget] at hc
  exact h fd c hc (halive fd c hc ha) (hcross fd c hx)

/-- The queue grows by a task that sends nothing, or the callers stop sending. -/
lemma Crossing.of_queue {fd : Fd} {c : ConnId} (h : s'.Crossing fd c)
    (hq : s'.queue = s.queue ∨ ∃ task, s'.queue = s.queue ++ [task] ∧ crosses fd c [task] = false)
    (hcallers : ∀ t, (s'.callers t).sendsTo fd c = true → (s.callers t).sendsTo fd c = true) :
    s.Crossing fd c := by
  rcases hq with hq | ⟨task, hq, ht⟩
  · rw [Crossing] at h
    rw [hq] at h
    exact h.imp_right (And.imp_right (Exists.imp hcallers))
  · rw [Crossing] at h
    rw [hq] at h
    rcases h with h | ⟨hr, t, hs⟩
    · refine .inl ?_
      by_contra hno
      rw [crosses_append (by simpa using hno) ht] at h
      cases h
    · refine .inr ⟨?_, t, hcallers t hs⟩
      by_contra hyes
      rw [removes_append (by simpa using hyes) task] at hr
      cases hr

/-- A task that removes no registration has been taken from the batch. -/
lemma Crossing.of_pop {fd : Fd} {c : ConnId} {task : PendingTask} {rest : List PendingTask}
    (hph : s.phase = .tasks (task :: rest)) (h : (s.setPhase (.tasks rest)).Crossing fd c)
    (ht : ∀ x, task ≠ .removeConnection x fd) : s.Crossing fd c := by
  unfold Crossing at h ⊢
  rw [queue_of_tasks hph]
  rcases h with h | ⟨hr, hs⟩
  · left
    cases task with
    | removeConnection x f =>
      have hf : f ≠ fd := by
        rintro rfl
        exact ht x rfl
      simpa [crosses, hf] using h
    | send x f data => simp [crosses, h]
    | _ => exact h
  · refine .inr ⟨?_, hs⟩
    cases task with
    | removeConnection x f =>
      have hf : f ≠ fd := by
        rintro rfl
        exact ht x rfl
      simpa [removes, hf] using hr
    | _ => exact hr

/-- A step that changes none of what a `Send` looks up, apart from deaths. -/
lemma Clear.same (h : s.Clear) (hconn : s'.mapConn = s.mapConn)
    (hraw : s'.mapConnRaw = s.mapConnRaw) (halive : ∀ c, s'.alive c = true → s.alive c = true)
    (hq : s'.queue = s.queue) (hcallers : s'.callers = s.callers) : s'.Clear := by
  refine h.frame (fun fd => ?_) (fun _ c _ => halive c) fun fd c hc => ?_
  · simp only [EventLoop.getConnection, hconn, hraw]
  · exact hc.of_queue (.inl hq) fun t => by rw [hcallers]; exact id

lemma Clear.quiet (h : s.Clear) (e : Quiet s s') : s'.Clear := by
  obtain ⟨_, _, _, _, _, rfl, -⟩ := e
  exact h.same rfl rfl (fun _ => id) rfl rfl

lemma Clear.relays (h : s.Clear) (e : Relays s s') : s'.Clear := by
  obtain ⟨_, _, _, rfl, hq⟩ := e
  exact h.same rfl rfl (fun _ => id) hq rfl

lemma Clear.setLoop (h : s.Clear) (pc : LoopPc) : (s.setLoop pc).Clear :=
  h.same rfl rfl (fun _ => id) rfl rfl

lemma Clear.closes (h : s.Clear) (e : Closes s s') : s'.Clear := by
  obtain ⟨_, _, stage, _, rfl, -, hkeep⟩ := e
  refine h.same rfl rfl (fun c ha => ?_) rfl rfl
  have ha : (stage c).alive = true := ha
  rwa [alive, ← hkeep c ha]

lemma Clear.setStage (h : s.Clear) {c : ConnId} {stage : Stage}
    (hc : stage.alive = true → s.alive c = true) : (s.setStage c stage).Clear := by
  refine h.same rfl rfl (fun x hx => ?_) rfl rfl
  by_cases hxc : x = c
  · subst hxc
    exact hc (by simpa [alive] using hx)
  · rwa [alive, setStage_of_ne stage hxc] at hx

lemma Clear.queueInLoop (h : s.Clear) {task : PendingTask}
    (ht : ∀ fd c, crosses fd c [task] = false) : (s.queueInLoop task).Clear :=
  h.frame (fun _ => rfl) (fun _ _ _ => id) fun fd c hc =>
    hc.of_queue (.inr ⟨task, queue_queueInLoop s task, ht fd c⟩) fun _ => id

lemma Clear.pop (h : s.Clear) {task : PendingTask} {rest : List PendingTask}
    (hph : s.phase = .tasks (task :: rest)) (ht : ∀ x f, task ≠ .removeConnection x f) :
    (s.setPhase (.tasks rest)).Clear :=
  h.frame (fun _ => rfl) (fun _ _ _ => id) fun fd _ hc => hc.of_pop hph fun x => ht x fd

/-- A found object was created before. -/
lemma Tables.lt_of_getConnection (ht : Tables s) {fd : Fd} {c : ConnId}
    (h : s.getConnection fd = some c) : c < s.created := by
  rw [EventLoop.getConnection] at h
  cases hm : s.mapConn fd with
  | some d =>
    obtain rfl : d = c := by simpa [hm] using h
    exact (ht.fds fd d (ht.fds_of_conn hm)).2
  | none => exact (ht.raw fd c (by simpa [hm] using h)).2.1

lemma Clear.create (h : s.Clear) (ht : Tables s) {fd : Fd} {kind : ConnKind} {stage : Stage}
    {connecting : Bool} : (s.create fd kind stage connecting).Clear := by
  refine h.frame (fun _ => rfl) (fun f c hc ha => ?_) fun f c hc => ?_
  · rwa [alive, create_stage_of_ne (Nat.ne_of_lt (ht.lt_of_getConnection hc))] at ha
  · exact hc.of_queue (.inl rfl) fun _ => id

lemma removes_of_due {fd : Fd} (h : s.RemovalDue fd) : removes fd s.queue = true := by
  obtain ⟨c, hc⟩ := h
  exact removes_of_mem (mem_queue_of_due hc)

/-- What is found under `socket_` of an object is the object, or will be removed first. -/
lemma Tables.found_of_socket (ht : Tables s) {c d : ConnId} {fd : Fd} (ha : s.alive c = true)
    (hsock : s.socket c = some fd) (hget : s.getConnection fd = some d)
    (had : s.alive d = true) (hno : removes fd s.queue = false) : d = c := by
  have hnot : ¬ s.RemovalDue fd := by
    intro hdue
    rw [removes_of_due hdue] at hno
    cases hno
  rcases ht.held c fd (.inl ha) hsock with hfd | hl
  · rw [EventLoop.getConnection] at hget
    cases hm : s.mapConn fd with
    | some x =>
      obtain rfl : x = d := by simpa [hm] using hget
      exact ht.eq_of_conn hfd hm
    | none =>
      by_contra hne
      refine hnot (ht.stale fd ⟨d, by simpa [hm] using hget, had, fun hd => hne ?_⟩).1
      simpa [hfd, eq_comm] using hd
  · have hloop := ht.loop
    rw [hl] at hloop
    exact absurd hloop.2.2 hnot

/-- A thread reads `socket_` for its `Send`. -/
lemma Clear.send [DecidableEq Tid] (h : s.Clear) (ht : Tables s) {t : Tid} {c : ConnId} {fd : Fd}
    {data : Bytes} (ha : s.alive c = true) (hsock : s.socket c = some fd) :
    (s.setCaller t (.sending c fd data)).Clear := by
  intro f d hget had hcross
  refine h f d hget had (hcross.imp_right ?_)
  rintro ⟨hr, u, hu⟩
  refine ⟨hr, u, ?_⟩
  by_cases hut : u = t
  · exfalso
    subst hut
    obtain ⟨rfl, hne⟩ : fd = f ∧ c ≠ d := by simpa [setCaller, CallerPc.sendsTo] using hu
    exact hne (ht.found_of_socket ha hsock hget had hr).symm
  · simpa [setCaller, hut] using hu

/-- A thread does something else than sending. -/
lemma Clear.stopSending [DecidableEq Tid] (h : s.Clear) {t : Tid} {pc : CallerPc}
    (hpc : ∀ fd c, pc.sendsTo fd c = false) : (s.setCaller t pc).Clear := by
  refine h.frame (fun _ => rfl) (fun _ _ _ => id) fun f d hx =>
    hx.of_queue (.inl rfl) fun u hu => ?_
  by_cases hut : u = t
  · subst hut
    simp [setCaller, hpc] at hu
  · simpa [setCaller, hut] using hu

/-- The task of a `Send` is queued. -/
lemma Clear.queue [DecidableEq Tid] (h : s.Clear) {t : Tid} {c : ConnId} {fd : Fd} {data : Bytes}
    (hpc : s.callers t = .sending c fd data) :
    ((s.queueInLoop (.send c fd data)).setCaller t (.holding c)).Clear := by
  refine h.frame (fun _ => rfl) (fun _ _ _ => id) fun f d hcross => ?_
  have hcallers : ∀ u, (((s.queueInLoop (.send c fd data)).setCaller t (.holding c)).callers
      u).sendsTo f d = true → (s.callers u).sendsTo f d = true := by
    intro u hu
    by_cases hut : u = t
    · subst hut
      simp [setCaller, CallerPc.sendsTo] at hu
    · simpa [setCaller, EventLoop.queueInLoop, hut] using hu
  by_cases hown : fd = f ∧ c ≠ d
  · by_cases hr : removes f s.queue = true
    · have hq : (s.queueInLoop (.send c fd data)).queue = s.queue ++ [.send c fd data] :=
        queue_queueInLoop s _
      rcases hcross with hx | ⟨hno, -⟩
      · have hx : crosses f d (s.queueInLoop (.send c fd data)).queue = true := hx
        rw [hq, crosses_append_of_removes hr] at hx
        exact .inl hx
      · have hno : removes f (s.queueInLoop (.send c fd data)).queue = false := hno
        rw [hq, removes_append hr] at hno
        cases hno
    · exact .inr ⟨by simpa using hr, t, by simp [hpc, CallerPc.sendsTo, hown]⟩
  · refine hcross.of_queue (.inr ⟨_, queue_queueInLoop s _, ?_⟩) hcallers
    simpa [crosses] using hown

/-- The loop thread calls `AddConnection`, with no `Send` on its way that would reach it. -/
lemma Clear.addConnection (h : s.Clear) {c : ConnId} {fd : Fd} (hok : ¬ s.Crossing fd c) :
    (s.addConnection c fd).Clear := by
  rw [EventLoop.addConnection]
  cases hm : s.mapConn fd with
  | some d => exact h
  | none =>
    intro f d hget had hcross
    by_cases hf : f = fd
    · subst hf
      obtain rfl : c = d := by simpa [EventLoop.getConnection] using hget
      exact hok hcross
    · exact h f d (by simpa [EventLoop.getConnection, hf] using hget) had hcross

/-- A constructor calls `AddConnectionRaw`. -/
lemma Clear.addConnectionRaw (h : s.Clear) {c : ConnId} {fd : Fd}
    (hok : s.mapConnRaw fd = none → ¬ s.Crossing fd c) : (s.addConnectionRaw c fd).Clear := by
  rw [EventLoop.addConnectionRaw]
  cases hm : s.mapConnRaw fd with
  | some d => exact h
  | none =>
    intro f d hget had hcross
    by_cases hf : f = fd
    · subst hf
      cases hconn : s.mapConn f with
      | some x => exact h f d (by simpa [EventLoop.getConnection, hconn] using hget) had hcross
      | none =>
        obtain rfl : c = d := by simpa [EventLoop.getConnection, hconn] using hget
        exact hok hm hcross
    · exact h f d (by simpa [EventLoop.getConnection, hf] using hget) had hcross

/-- The task of `RemoveConnection`: nothing is found under its number any more. -/
lemma Clear.taskRemove [DecidableEq Tid] (h : s.Clear) {c : ConnId} {fd : Fd}
    {rest : List PendingTask} (hph : s.phase = .tasks (.removeConnection c fd :: rest)) :
    ((s.setPhase (.tasks rest)).removeConnection fd).Clear := by
  refine Clear.closes ?_ (removeConnection_eq _ fd)
  intro f d hget had hcross
  by_cases hf : f = fd
  · simp [EventLoop.getConnection, hf] at hget
  · have hget : s.getConnection f = some d := by
      simpa [EventLoop.getConnection, setPhase, hf] using hget
    refine h f d hget had (Crossing.of_pop hph hcross fun x hx => hf ?_)
    cases hx
    rfl

section Steps

variable [DecidableEq Tid] {l : Action Tid}

lemma Step.clear (hs : Step s l s') (ht : Tables s) (h : s.Clear) (hok : s.crossesNone l) :
    s'.Clear := by
  cases hs with
  | connect fd connecting hfd => exact h.create ht
  | listen fd hfd => exact h.create ht
  | constructAddEvent c fd events stage hst hsock hk =>
    exact (h.queueInLoop fun _ _ => rfl).setStage fun _ => alive_eq hst
  | constructAddConnectionRaw c fd stage hst hsock hk =>
    have ha : s.alive c = true := alive_eq hst
    obtain ⟨_, he⟩ := addConnectionRaw_eq s c fd
    have hentered : (s.addConnectionRaw c fd).Clear :=
      h.addConnectionRaw (by simpa [crossesNone, hst, hsock] using hok)
    refine hentered.setStage fun _ => ?_
    rw [he]
    exact ha
  | constructNotify c stage hst hstage =>
    exact h.setStage fun _ => alive_eq hst
  | constructModify c fd hst hsock =>
    exact (h.queueInLoop fun _ _ => rfl).setStage fun _ => alive_eq hst
  | constructLate c hst hsock => exact h.setStage fun _ => alive_eq hst
  | destroy c fd hk hst hthis hsock =>
    exact (h.queueInLoop fun _ _ => by simp [crosses]).setStage (by simp [Stage.alive])
  | destroyClosed c hk hst hthis hsock => exact h.setStage (by simp [Stage.alive])
  | destructClose c fd hst hsock =>
    exact Clear.setStage (h.same rfl rfl (fun _ => id) rfl rfl) (by simp [Stage.alive])
  | destructClear c hst =>
    exact Clear.setStage (h.same rfl rfl (fun _ => id) rfl rfl) (by simp [Stage.alive])
  | getConnection t fd c hpc hget ha =>
    exact (h.stopSending (t := t) fun _ _ => rfl).same rfl rfl (fun _ => id) rfl rfl
  | getNothing t fd hpc => exact h
  | hold t c hpc hk hst => exact h.stopSending fun _ _ => rfl
  | send t c fd data hpc hsock ha hk hd => exact h.send ht ha hsock
  | sendNothing t c data hpc => exact h
  | queue t c fd data hpc => exact h.queue hpc
  | release t c hpc =>
    exact (h.stopSending fun _ _ => rfl).closes (closes_dropRef _ c (.thread t))
  | acceptFor t fd hpc hfd =>
    have hcreate : (s.create fd .connection .ready false).Clear := h.create ht
    have hset : ((s.create fd .connection .ready false).setCaller t
        (.accepted s.created fd)).Clear := hcreate.stopSending fun _ _ => rfl
    exact hset.same rfl rfl (fun _ => id) rfl rfl
  | enterConnection t c fd hpc =>
    have hentered : (s.addConnection c fd).Clear :=
      h.addConnection (by simpa [crossesNone, hpc] using hok)
    exact hentered.stopSending fun _ _ => rfl
  | enterEvent t c fd hpc =>
    have hqueued : (s.queueInLoop (.addEvent c fd .r)).Clear := h.queueInLoop fun _ _ => rfl
    exact hqueued.stopSending fun _ _ => rfl
  | handle msg hmem => exact h.relays (relays_mailbox s (s.mailbox.erase msg))
  | protocolError msg hmem =>
    have hmail := h.relays (relays_mailbox s (s.mailbox.erase msg))
    exact hmail.queueInLoop fun _ _ => by simp [crosses]
  | wait fired hpc hph hf => exact h.relays (relays_wait hph)
  | swap hpc hph => exact h.relays (relays_swap hph)
  | callback e rest hpc hph => exact (h.relays (relays_events hph)).setLoop (s.callback e)
  | taskAddEvent c fd events rest hpc hph =>
    obtain ⟨_, _, he⟩ := addEvent_eq (s.setPhase (.tasks rest)) c fd events
    rw [he]
    exact (h.pop hph (by simp)).same rfl rfl (fun _ => id) rfl rfl
  | taskModify fd events rest hpc hph =>
    exact (h.pop hph (by simp)).quiet (quiet_modify _ fd events)
  | taskRemove c fd rest hpc hph => exact h.taskRemove hph
  | taskSend c origin fd f data rs rest s' hpc hph hget ha hk hsock hsend =>
    exact (h.pop hph (by simp)).quiet (serves_sendInLoop hsend).quiet
  | taskDrop origin fd data rest hpc hph => exact h.pop hph (by simp)
  | accept fd hpc hfd =>
    have hcreate : (s.create fd .connection .ready false).Clear := h.create ht
    exact hcreate.setLoop (.addConnection s.created fd)
  | acceptDone hpc => exact h.setLoop .idle
  | addConnection c fd hpc =>
    have hentered : (s.addConnection c fd).Clear :=
      h.addConnection (by simpa [crossesNone, hpc] using hok)
    exact hentered.setLoop (.addEvent c fd)
  | addEvent c fd pc hpc hnext =>
    obtain ⟨_, _, he⟩ := addEvent_eq s c fd .r
    rw [he]
    exact h.same rfl rfl (fun _ => id) rfl rfl
  | recvData c fd out bytes hpc => exact h.relays (relays_mailbox s _)
  | recvEof c fd out hpc =>
    exact (h.queueInLoop fun _ _ => by simp [crosses]).setLoop (afterRead c fd out)
  | recvDone c fd out r hpc hr => exact h.setLoop (afterRead c fd out)
  | connected c fd hpc hc => exact (h.quiet (serves_handleConnected s c fd).quiet).setLoop .idle
  | connectFailed c fd hpc hc =>
    have hended : (s.endConnecting c).Clear := h.quiet (serves_endConnecting s c fd).quiet
    exact (hended.queueInLoop fun _ _ => by simp [crosses]).setLoop (.removeEvent c fd)
  | handleWrite c fd rs t hpc hc hw => exact (h.quiet (serves_handleWrite hw).quiet).setLoop .idle
  | removeEvent c fd hpc => exact h.same rfl rfl (fun _ => id) rfl rfl
  | close c fd f hpc hsock => exact h.same rfl rfl (fun _ => id) rfl rfl
  | closeNothing c fd hpc hsock => exact h.setLoop (.clearSocket c fd)
  | clearSocket c fd hpc => exact h.same rfl rfl (fun _ => id) rfl rfl

end Steps

/-! ### The bytes -/

lemma DeliversOwn.same (h : s.DeliversOwn) (hw : s'.written = s.written)
    (ho : s'.outputBuffer = s.outputBuffer) : s'.DeliversOwn := by
  rw [DeliversOwn]
  rw [hw, ho]
  exact h

lemma DeliversOwn.writeTo (h : s.DeliversOwn) {c : ConnId} {fd : Fd}
    {bytes : List (ConnId × UInt8)} (hfd : s.fds fd = some c) (hb : ∀ b ∈ bytes, b.1 = c) :
    (s.writeTo fd bytes).DeliversOwn := by
  rw [EventLoop.writeTo]
  simp only [hfd]
  refine ⟨fun x b hmem => ?_, h.2⟩
  by_cases hx : x = c
  · subst hx
    have hmem : b ∈ s.written x ++ bytes := by simpa using hmem
    exact (List.mem_append.mp hmem).elim (h.1 x b) (hb b)
  · exact h.1 x b (by simpa [hx] using hmem)

lemma DeliversOwn.setOutput (h : s.DeliversOwn) {c : ConnId} {bytes : List (ConnId × UInt8)}
    (hb : ∀ b ∈ bytes, b.1 = c) : (s.setOutput c bytes).DeliversOwn := by
  refine ⟨h.1, fun x b hmem => ?_⟩
  by_cases hx : x = c
  · subst hx
    exact hb b (by simpa [EventLoop.setOutput] using hmem)
  · exact h.2 x b (by simpa [EventLoop.setOutput, hx] using hmem)

lemma DeliversOwn.modify (h : s.DeliversOwn) (fd : Fd) (events : Interest) :
    (s.modifyEventKeepCallback fd events).DeliversOwn := by
  obtain ⟨_, he⟩ := modify_eq s fd events
  rw [he]
  exact h.same rfl rfl

lemma DeliversOwn.appendOutput (h : s.DeliversOwn) {c : ConnId} {fd : Fd}
    {rest : List (ConnId × UInt8)} (hb : ∀ b ∈ rest, b.1 = c) :
    (s.appendOutput c fd rest).DeliversOwn := by
  rw [EventLoop.appendOutput]
  split_ifs
  · exact h
  · refine (h.setOutput fun b hmem => ?_).modify fd .rw
    rcases List.mem_append.mp hmem with hmem | hmem
    · exact h.2 c b hmem
    · exact hb b hmem

lemma of_mem_sentOn {c : ConnId} {data : Bytes} {b : ConnId × UInt8} (h : b ∈ sentOn c data) :
    b.1 = c := by
  obtain ⟨x, -, rfl⟩ := List.mem_map.mp h
  rfl

lemma DeliversOwn.sendInLoop (h : s.DeliversOwn) {c : ConnId} {fd : Fd} {data : Bytes}
    {rs : List WriteResult} (hfd : s.fds fd = some c)
    (hs : s.sendInLoop c fd c data rs = some s') : s'.DeliversOwn := by
  rw [EventLoop.sendInLoop] at hs
  split_ifs at hs
  · obtain ⟨p, -, rfl⟩ := Option.map_eq_some_iff.mp hs
    have hw : (s.writeTo fd (sentOn c (data.take p.1))).DeliversOwn :=
      h.writeTo hfd fun _ => of_mem_sentOn
    dsimp only
    split_ifs
    · exact hw.same rfl rfl
    · exact hw.appendOutput fun _ => of_mem_sentOn
  · cases hs
    exact h.appendOutput fun _ => of_mem_sentOn

lemma DeliversOwn.handleWrite (h : s.DeliversOwn) {c : ConnId} {fd : Fd} {rs : List WriteResult}
    (hfd : s.fds fd = some c) (hs : s.handleWrite c fd rs = some s') : s'.DeliversOwn := by
  obtain ⟨p, -, rfl⟩ := Option.map_eq_some_iff.mp hs
  have hwritten : (s.writeTo fd ((s.outputBuffer c).take p.1)).DeliversOwn :=
    h.writeTo hfd fun b hb => h.2 c b (List.mem_of_mem_take hb)
  have hw : ((s.writeTo fd ((s.outputBuffer c).take p.1)).setOutput c
      ((s.outputBuffer c).drop p.1)).DeliversOwn :=
    hwritten.setOutput fun b hb => h.2 c b (List.mem_of_mem_drop hb)
  dsimp only
  split
  · exact hw.modify fd .rw
  · exact hw.same rfl rfl
  all_goals exact hw.modify fd .r

lemma DeliversOwn.create (h : s.DeliversOwn) {fd : Fd} {kind : ConnKind} {stage : Stage}
    {connecting : Bool} : (s.create fd kind stage connecting).DeliversOwn := by
  refine ⟨h.1, fun c b hmem => ?_⟩
  by_cases hc : c = s.created
  · simp [EventLoop.create, hc] at hmem
  · exact h.2 c b (by simpa [EventLoop.create, hc] using hmem)

lemma DeliversOwn.closes (h : s.DeliversOwn) (e : Closes s s') : s'.DeliversOwn := by
  obtain ⟨_, _, _, _, rfl, -, -⟩ := e
  exact h.same rfl rfl

/-- A `Send` whose task runs has found its own connection. -/
lemma Clear.taskSend (h : s.Clear) {c origin : ConnId} {fd : Fd} {data : Bytes}
    {rest : List PendingTask} (hph : s.phase = .tasks (.send origin fd data :: rest))
    (hget : s.getConnection fd = some c) (ha : s.alive c = true) : origin = c := by
  by_contra hne
  refine h fd c hget ha (.inl ?_)
  rw [queue_of_tasks hph]
  simp [crosses, hne]

lemma clear_start : (start Tid).Clear := fun _ _ h => by cases h

lemma deliversOwn_start : (start Tid).DeliversOwn :=
  ⟨fun _ _ h => (by cases h), fun _ _ h => (by cases h)⟩

section Runs

variable [DecidableEq Tid] {l : Action Tid}

lemma Step.deliversOwn (hs : Step s l s') (ht : Tables s) (hclear : s.Clear)
    (h : s.DeliversOwn) : s'.DeliversOwn := by
  cases hs with
  | connect fd connecting hfd => exact h.create
  | listen fd hfd => exact h.create
  | constructAddConnectionRaw c fd stage hst hsock hk =>
    obtain ⟨_, he⟩ := addConnectionRaw_eq s c fd
    rw [he]
    exact h.same rfl rfl
  | release t c hpc =>
    exact DeliversOwn.closes (s := s.setCaller t .idle) h (closes_dropRef _ c (.thread t))
  | taskAddEvent c fd events rest hpc hph =>
    obtain ⟨_, _, he⟩ := addEvent_eq (s.setPhase (.tasks rest)) c fd events
    rw [he]
    exact h.same rfl rfl
  | taskModify fd events rest hpc hph =>
    exact DeliversOwn.modify (s := s.setPhase (.tasks rest)) h fd events
  | taskRemove c fd rest hpc hph =>
    refine DeliversOwn.closes ?_ (removeConnection_eq (s.setPhase (.tasks rest)) fd)
    exact h.same rfl rfl
  | taskSend c origin fd f data rs rest s' hpc hph hget ha hk hsock hsend =>
    obtain rfl := hclear.taskSend hph hget ha
    exact DeliversOwn.sendInLoop (s := s.setPhase (.tasks rest)) h
      (ht.fds_of_socket hpc ha hsock) hsend
  | acceptFor t fd hpc hfd =>
    have hcreate : (s.create fd .connection .ready false).DeliversOwn := h.create
    exact hcreate.same rfl rfl
  | enterConnection t c fd hpc =>
    obtain ⟨_, _, he⟩ := addConnection_eq s c fd
    rw [he]
    exact h.same rfl rfl
  | accept fd hpc hfd =>
    have hcreate : (s.create fd .connection .ready false).DeliversOwn := h.create
    exact hcreate.same rfl rfl
  | addConnection c fd hpc =>
    obtain ⟨_, _, he⟩ := addConnection_eq s c fd
    rw [he]
    exact h.same rfl rfl
  | addEvent c fd pc hpc hnext =>
    obtain ⟨_, _, he⟩ := addEvent_eq s c fd .r
    rw [he]
    exact h.same rfl rfl
  | connected c fd hpc hc =>
    exact (DeliversOwn.modify (s := s.endConnecting c) (h.same rfl rfl) fd _).same rfl rfl
  | handleWrite c fd rs t hpc hc hw =>
    exact (h.handleWrite (ht.serving_writing hpc).1 hw).same rfl rfl
  | _ => exact h.same rfl rfl

/-- In a run where nothing is entered across a `Send`, every byte reaches its own connection. -/
theorem delivers_own (h : (machine Tid).Reach crossesNone s) : s.DeliversOwn := by
  suffices hboth : s.Clear ∧ s.DeliversOwn from hboth.2
  refine h.invariant (P := fun s => s.Clear ∧ s.DeliversOwn) (fun s hs => ?_)
    fun s l s' hr hi hok hs => ?_
  · rw [show s = start Tid from hs]
    exact ⟨clear_start, deliversOwn_start⟩
  · have ht := tables_of_reachable hr.reachable
    have hstep := Step.of_next hs
    exact ⟨hstep.clear ht hi.1 hok, hstep.deliversOwn ht hi.1 hi.2⟩

end Runs

/-- A client is sent two bytes, of which the kernel takes one. -/
theorem delivers_own_partial_write :
    let s := (machine Unit).replayWith crossesNone (start Unit) (listenOn3 ++ acceptOn4 ++
      [.getConnection () 4, .send () [7, 8], .queue (), .wait [], .loop,
        .write [.wrote 1, .eagain]])
    s.written 1 = [(1, 7)] ∧ s.outputBuffer 1 = [(1, 8)] ∧ s.DeliversOwn := by
  intro s
  exact ⟨by decide, by decide, delivers_own (Machine.reach_replayWith reach_start _)⟩

/-- A client leaves while an answer for it is on its way, and the next client gets its number. -/
def answerTooLate : List (Action Unit) :=
  listenOn3 ++ acceptOn4 ++
  [.getConnection () 4, .send () [7]] ++
  -- the client leaves, and its removal runs
  [.wait [⟨4, true, false⟩], .loop, .recv .eof, .loop, .loop] ++
  [.queue (), .release ()] ++
  acceptOn4 ++ [.write [.wrote 1]]

/-- The byte sent to the first client is written to the socket of the second. -/
theorem delivers_to_successor :
    ¬ ∀ s : EventLoop Unit, (machine Unit).Reachable s → s.DeliversOwn := by
  intro h
  let s := (machine Unit).replay (start Unit) answerTooLate
  have hs : (machine Unit).Reachable s := Machine.reachable_replay reach_start _
  have hmem : ((1, 7) : ConnId × UInt8) ∈ s.written 2 := by decide
  exact absurd ((h s hs).1 2 _ hmem) (by decide)

end EventLoop

end Balabala
