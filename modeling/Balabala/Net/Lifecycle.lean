import Balabala.Foundation.Machine
import Balabala.Actor.Message

/-!
# The life of an accepted connection

One iteration of `HandleAccept`, and the loop thread with the read events and the pending tasks of
the connection it accepted. Of the tables `fdToActor_`, `fdToLoop_`, `callbacks_`, `mapConn_` and of
the epoll set only the entry of this descriptor number matters. The number may have been in use
before: a binding that was left behind is overwritten, and somebody may still ask for the removal of
the number at any time, as `ClusterGatewayActor` does after a protocol error.

The actor gets one `Connected`, the bytes received, and one `Disconnected` in the end, unless `recv`
fails or the connection is removed before the end of the stream was read: neither way out of
reading notifies the actor or unbinds the number.
-/

namespace Balabala

open Foundation

/-! ### Steps of the acceptor and of the loop thread -/

/-- What `HandleAccept` does next. -/
inductive AcceptPc
  | addConnection | bindFdToActor | sendConnected | addEvent | accepted
  deriving DecidableEq

/-- `Connected` was sent. -/
def AcceptPc.connected : AcceptPc → Bool
  | .addConnection | .bindFdToActor | .sendConnected => false
  | .addEvent | .accepted => true

/-- A task of this descriptor number; `forced`: not requested by `HandleRead`. -/
inductive ConnTask
  | addEvent
  | removeConnection (forced : Bool)
  deriving DecidableEq

/-- Where the loop thread is. -/
inductive ReadPc
  /-- about to call `epoll_wait` -/
  | waiting
  /-- in the fired events; whether that of this number is still to come -/
  | events (fired : Bool)
  /-- in `HandleRead`, about to call `recv` -/
  | reading
  /-- in `runPendingTasks` -/
  | tasks (batch : List ConnTask)
  deriving DecidableEq

/-- What `recv` returns; an empty array of bytes is `eof`. -/
inductive RecvResult
  | data (bytes : Bytes)
  | eintr | eagain | eof | error
  deriving DecidableEq

/-- `sent` has the messages passed to `Send`, each with the actor. The last four fields are history:
the bytes received, whether `HandleRead` has seen the end of the stream or an error, and whether a
removal task has taken the connection out of `mapConn_`. -/
structure AcceptedConnection where
  fd : Fd
  listenerActorId : ActorId
  accept : AcceptPc
  loop : ReadPc
  pendingTasks : List ConnTask
  polled : Bool
  callback : Bool
  mapConn : Bool
  fdToActor : Option ActorId
  fdToLoop : Bool
  sent : List (ActorId × ActorMessage)
  received : Bytes
  sawEof : Bool
  sawError : Bool
  removed : Bool

namespace AcceptedConnection

inductive Action
  /-- the next call in `HandleAccept`; whether the acceptor runs in the same loop -/
  | accept (sameLoop : Bool)
  /-- `epoll_wait` returns, with or without a read event of the connection -/
  | wait (fired : Bool)
  /-- the loop thread goes on -/
  | loop
  | recv (result : RecvResult)
  /-- somebody else asks for the removal of the number -/
  | removeConnection

/-- The messages `Connected` and `Disconnected`. -/
def notice (type : MsgType) (fd : Fd) : ActorMessage := { type := type, sourceId := 0, fd := fd }

def netBuffSize : Nat := 64 * 1024

/-- `HandleAccept` has let go of the connection, and a removal was the last to do so. -/
def closed (s : AcceptedConnection) : Bool := s.removed && s.accept = .accepted

/-- `epoll_ctl` throws for a descriptor that has been closed, and `callbacks_` stays as it is. -/
def addEvent (s : AcceptedConnection) : AcceptedConnection :=
  if s.closed then s else { s with polled := true, callback := true }

/-- A task of `runPendingTasks`. -/
def runTask (s : AcceptedConnection) : ConnTask → AcceptedConnection
  | .addEvent => s.addEvent
  | .removeConnection _ =>
    { s with polled := false, callback := false, mapConn := false,
             removed := s.removed || s.mapConn }

def sendByFd (s : AcceptedConnection) (msg : ActorMessage) : AcceptedConnection :=
  let actorId := s.fdToActor.getD 0
  if 0 < actorId then { s with sent := s.sent ++ [(actorId, msg)] } else s

def unbindFd (s : AcceptedConnection) : AcceptedConnection :=
  { s with fdToActor := none, fdToLoop := false }

def queueInLoop (s : AcceptedConnection) (task : ConnTask) : AcceptedConnection :=
  { s with pendingTasks := s.pendingTasks ++ [task] }

/-- The calls of `HandleAccept` for the connection. -/
def handleAccept (s : AcceptedConnection) (sameLoop : Bool) :
    AcceptPc → Option AcceptedConnection
  | .addConnection => some { s with mapConn := true, accept := .bindFdToActor }
  | .bindFdToActor =>
    some { s with fdToActor := some s.listenerActorId, fdToLoop := true, accept := .sendConnected }
  | .sendConnected =>
    some { s with sent := s.sent ++ [(s.listenerActorId, notice .connected s.fd)],
                  accept := .addEvent }
  | .addEvent =>
    some (if sameLoop then { s.addEvent with accept := .accepted }
      else { s with accept := .accepted }.queueInLoop .addEvent)
  | .accepted => none

/-- What `HandleRead` makes of a result of `recv`. -/
def handleRead (s : AcceptedConnection) : RecvResult → AcceptedConnection
  | .data bytes =>
    { s.sendByFd (.make .networkRecv 0 s.fd bytes) with received := s.received ++ bytes }
  | .eintr => s
  | .eagain => { s with loop := .events false }
  | .eof =>
    { ((s.sendByFd (notice .disconnected s.fd)).unbindFd.queueInLoop (.removeConnection false)) with
      loop := .events false, sawEof := true }
  | .error => { s with loop := .events false, sawError := true }

/-- What the kernel can return from `recv`. -/
def RecvResult.valid : RecvResult → Bool
  | .data bytes => 0 < bytes.length && bytes.length ≤ netBuffSize
  | _ => true

/-- The loop thread, where it does not depend on the kernel. -/
def loopNext (s : AcceptedConnection) : ReadPc → Option AcceptedConnection
  | .waiting | .reading => none
  | .events true =>
    some { s with loop := if s.callback && s.mapConn then .reading else .events false }
  | .events false => some { s with loop := .tasks s.pendingTasks, pendingTasks := [] }
  | .tasks (task :: batch) => some { s.runTask task with loop := .tasks batch }
  | .tasks [] => some { s with loop := .waiting }

def next (s : AcceptedConnection) : Action → Option AcceptedConnection
  | .accept sameLoop => s.handleAccept sameLoop s.accept
  | .wait fired =>
    if s.loop = .waiting ∧ (fired = true → s.polled = true) then
      some { s with loop := .events fired }
    else none
  | .loop => s.loopNext s.loop
  | .recv result =>
    if s.loop = .reading ∧ RecvResult.valid result = true then some (s.handleRead result) else none
  | .removeConnection => some (s.queueInLoop (.removeConnection true))

/-- Accepted by the kernel, and not yet in any table but those of bindings. -/
structure Initial (s : AcceptedConnection) : Prop where
  listener : 0 < s.listenerActorId
  accept : s.accept = .addConnection
  loop : s.loop = .waiting
  tasks : s.pendingTasks = []
  polled : s.polled = false
  callback : s.callback = false
  mapConn : s.mapConn = false
  sent : s.sent = []
  received : s.received = []
  sawEof : s.sawEof = false
  sawError : s.sawError = false
  removed : s.removed = false

def machine : Machine AcceptedConnection Action where
  init := Initial
  next := next

/-! ### The life cycle -/

/-- Reading is over: at the end of the stream, after a failure, or because of a removal. -/
def ended (s : AcceptedConnection) : Bool := s.sawEof || s.sawError || s.removed

/-- The messages of a connection in the order they were sent, with what was received in between. -/
def Told (s : AcceptedConnection) (closed : Bool) : Prop :=
  ∃ recvs : List ActorMessage, (∀ m ∈ recvs, m.type = .networkRecv) ∧
    recvs.flatMap ActorMessage.dataBytes = s.received ∧
    s.sent = ((if s.accept.connected then [notice .connected s.fd] else []) ++ recvs ++
      if closed then [notice .disconnected s.fd] else []).map (Prod.mk s.listenerActorId)

/-- One `Connected`, then the bytes received, then exactly one `Disconnected` once reading has
ended. After the removal no table has an entry. -/
structure LifeCycle (s : AcceptedConnection) : Prop where
  messages : s.Told s.ended
  cleared : s.removed = true →
    s.fdToActor = none ∧ s.fdToLoop = false ∧ s.callback = false ∧ s.mapConn = false

/-- `recv` does not fail, and a removal that `HandleRead` did not ask for finds the connection only
after `HandleRead` has seen the end of the stream. -/
def Orderly (s : AcceptedConnection) : Action → Prop
  | .recv .error => s.loop ≠ .reading
  | .loop =>
    match s.loop with
    | .tasks (.removeConnection true :: _) => s.mapConn = true → s.sawEof = true
    | _ => True
  | _ => True

instance (s : AcceptedConnection) (l : Action) : Decidable (Orderly s l) := by
  unfold Orderly
  repeat' split
  all_goals infer_instance

/-! ### What orderly steps keep -/

/-- What waits to be run by the loop thread, in order. -/
def tasks (s : AcceptedConnection) : List ConnTask :=
  (match s.loop with
    | .tasks batch => batch
    | _ => []) ++ s.pendingTasks

/-- The connection on its way to removal, after the end of the stream. -/
def Leaving (s : AcceptedConnection) : Prop :=
  ∃ forced, match s.loop with
    | .events false => .removeConnection forced ∈ s.pendingTasks
    | .tasks batch => .removeConnection forced ∈ batch
    | _ => False

structure Sane (s : AcceptedConnection) : Prop where
  listener : 0 < s.listenerActorId
  noError : s.sawError = false
  once : s.tasks.count .addEvent ≤ 1
  added : s.polled = true ∨ s.sawEof = true → .addEvent ∉ s.tasks
  unadded : s.accept ≠ .accepted → s.polled = false ∧ .addEvent ∉ s.tasks
  asked : .removeConnection false ∈ s.tasks → s.sawEof = true
  callback : s.callback = s.polled
  reading : s.loop = .events true ∨ s.loop = .reading → s.polled = true ∧ s.sawEof = false
  bound : s.sawEof = false → s.accept ≠ .addConnection → s.accept ≠ .bindFdToActor →
    s.fdToActor = some s.listenerActorId
  unbound : s.sawEof = true → s.accept = .accepted ∧ s.fdToActor = none ∧ s.fdToLoop = false
  leaving : s.sawEof = true → s.removed = false → s.Leaving
  present : s.removed = false → s.accept ≠ .addConnection → s.mapConn = true
  absent : s.accept = .addConnection → s.mapConn = false
  gone : s.removed = true → s.sawEof = true ∧ s.polled = false ∧ s.mapConn = false
  silent : s.accept.connected = false → s.received = [] ∧ s.sent = []
  messages : s.Told s.sawEof

namespace Sane

variable {s : AcceptedConnection}

/-- A connection whose stream goes on has not been removed. -/
lemma not_removed (h : Sane s) (heof : s.sawEof = false) : s.removed = false := by
  by_contra hr
  rw [(h.gone (by simpa using hr)).1] at heof
  cases heof

/-- A number that is registered with epoll has been set up. -/
lemma accepted_of_polled (h : Sane s) (hpolled : s.polled = true) : s.accept = .accepted := by
  by_contra hne
  rw [(h.unadded hne).1] at hpolled
  cases hpolled

lemma lifeCycle (h : Sane s) : LifeCycle s := by
  have hended : s.ended = s.sawEof := by
    cases hr : s.removed with
    | false => simp [ended, h.noError, hr]
    | true => simp [ended, h.noError, hr, (h.gone hr).1]
  constructor
  · rw [hended]; exact h.messages
  · intro hr
    obtain ⟨heof, hpolled, hconn⟩ := h.gone hr
    obtain ⟨-, hactor, hloop⟩ := h.unbound heof
    exact ⟨hactor, hloop, h.callback.trans hpolled, hconn⟩

@[simp] lemma tasks_queueInLoop (s : AcceptedConnection) (task : ConnTask) :
    (s.queueInLoop task).tasks = s.tasks ++ [task] := by
  simp [tasks, queueInLoop]

lemma queueInLoop (h : Sane s) {task : ConnTask} (honce : (s.tasks ++ [task]).count .addEvent ≤ 1)
    (hadded : s.polled = true ∨ s.sawEof = true → task ≠ .addEvent)
    (hunadded : s.accept ≠ .accepted → task ≠ .addEvent)
    (hasked : task = .removeConnection false → s.sawEof = true) : Sane (s.queueInLoop task) := by
  have hnot : .addEvent ∉ s.tasks → task ≠ .addEvent → .addEvent ∉ (s.queueInLoop task).tasks := by
    intro hs htask hmem
    rw [tasks_queueInLoop, List.mem_append, List.mem_singleton] at hmem
    exact hmem.elim hs fun e => htask e.symm
  exact { h with
    once := by rw [tasks_queueInLoop]; exact honce
    added := fun hp => hnot (h.added hp) (hadded hp)
    unadded := fun ha => ⟨(h.unadded ha).1, hnot (h.unadded ha).2 (hunadded ha)⟩
    asked := by
      intro hmem
      rw [tasks_queueInLoop, List.mem_append, List.mem_singleton] at hmem
      exact hmem.elim h.asked fun e => hasked e.symm
    leaving := by
      intro heof hr
      obtain ⟨forced, hleaving⟩ := h.leaving heof hr
      refine ⟨forced, ?_⟩
      revert hleaving
      simp only [AcceptedConnection.queueInLoop]
      split
      · exact fun hmem => List.mem_append_left _ hmem
      · exact id
      · exact id }

lemma addEvent_of_not_removed (hr : s.removed = false) :
    s.addEvent = { s with polled := true, callback := true } := by
  rw [AcceptedConnection.addEvent, closed, hr]
  rfl

/-- The task `AddEvent`, which comes only once. -/
lemma addEvent (h : Sane s) (hnot : .addEvent ∉ s.tasks) (hacc : s.accept = .accepted)
    (heof : s.sawEof = false) : Sane { s with polled := true, callback := true } := by
  have hr : s.removed = false := h.not_removed heof
  exact { h with
    added := fun _ => hnot
    unadded := fun hne => absurd hacc hne
    callback := rfl
    reading := fun _ => ⟨rfl, heof⟩
    gone := fun hr' => by
      rw [show s.removed = true from hr'] at hr
      cases hr }

/-- A removal, of a connection whose stream has ended or of no connection. -/
lemma removeConnection (h : Sane s) {forced : Bool} {batch : List ConnTask}
    (hloop : s.loop = .tasks (.removeConnection forced :: batch))
    (hok : s.mapConn = true → s.sawEof = true) :
    Sane { s.runTask (.removeConnection forced) with loop := .tasks batch } := by
  have htasks : s.tasks = .removeConnection forced :: (batch ++ s.pendingTasks) := by
    simp [tasks, hloop]
  have hnot : .addEvent ∉ s.tasks → ConnTask.addEvent ∉ batch ++ s.pendingTasks := by
    rw [htasks]
    exact fun hnot hmem => hnot (List.mem_cons_of_mem _ hmem)
  -- what was not removed before and is not now was never in the table
  have hkept : (s.removed || s.mapConn) = false → s.accept = .addConnection := by
    intro hr
    obtain ⟨hr, hconn⟩ := Bool.or_eq_false_iff.mp hr
    by_contra hacc
    rw [h.present hr hacc] at hconn
    cases hconn
  exact { h with
    once := by
      have honce := h.once
      rw [htasks, List.count_cons_of_ne (by simp)] at honce
      exact honce
    added := fun hp => hnot (h.added (hp.imp (fun hp => by cases hp) id))
    unadded := fun hne => ⟨rfl, hnot (h.unadded hne).2⟩
    asked := fun hmem => h.asked (by rw [htasks]; exact List.mem_cons_of_mem _ hmem)
    callback := rfl
    reading := by simp
    leaving := by
      intro heof hr
      have hacc := (h.unbound heof).1
      rw [hkept hr] at hacc
      cases hacc
    present := fun hr hne => absurd (hkept hr) hne
    absent := fun _ => rfl
    gone := by
      intro hr
      refine ⟨?_, rfl, rfl⟩
      rcases Bool.or_eq_true_iff.mp hr with hr | hconn
      · exact (h.gone hr).1
      · exact hok hconn }

/-- The loop thread goes on, with the same tasks before it. -/
lemma moveLoop (h : Sane s) (loop : ReadPc) (pending : List ConnTask)
    (htasks : ({ s with loop := loop, pendingTasks := pending } : AcceptedConnection).tasks =
      s.tasks)
    (hreading : loop = .events true ∨ loop = .reading → s.polled = true ∧ s.sawEof = false)
    (hleaving : s.sawEof = true → s.removed = false →
      Leaving { s with loop := loop, pendingTasks := pending }) :
    Sane { s with loop := loop, pendingTasks := pending } :=
  { h with
    once := by rw [htasks]; exact h.once
    added := by rw [htasks]; exact h.added
    unadded := by rw [htasks]; exact h.unadded
    asked := by rw [htasks]; exact h.asked
    reading := hreading
    leaving := hleaving }

/-- The loop thread takes `AddEvent` from its batch. -/
lemma takeAddEvent (h : Sane s) {batch : List ConnTask}
    (hloop : s.loop = .tasks (.addEvent :: batch)) :
    Sane { s.runTask .addEvent with loop := .tasks batch } := by
  have htasks : s.tasks = .addEvent :: (batch ++ s.pendingTasks) := by simp [tasks, hloop]
  have hmem : ConnTask.addEvent ∈ s.tasks := by simp [htasks]
  have hnot : ConnTask.addEvent ∉ batch ++ s.pendingTasks := by
    have honce := h.once
    rw [htasks, List.count_cons_self] at honce
    exact List.count_eq_zero.mp (by omega)
  have hacc : s.accept = .accepted := by
    by_contra hne
    exact (h.unadded hne).2 hmem
  have heof : s.sawEof = false := by
    by_contra heof
    exact h.added (.inr (by simpa using heof)) hmem
  have h' : Sane { s with loop := .tasks batch } :=
    { h with
      once := by
        show (batch ++ s.pendingTasks).count .addEvent ≤ 1
        rw [List.count_eq_zero.mpr hnot]
        exact Nat.zero_le 1
      added := fun _ => hnot
      unadded := fun hne => absurd hacc hne
      asked := fun hmem => h.asked (by rw [htasks]; exact List.mem_cons_of_mem _ hmem)
      reading := by simp
      leaving := by simp [heof] }
  rw [runTask, addEvent_of_not_removed (h.not_removed heof)]
  exact h'.addEvent hnot hacc heof

/-- The loop thread, where the kernel has no say. -/
lemma loopNext (h : Sane s) {s' : AcceptedConnection} (hok : Orderly s .loop)
    (hs : s.loopNext s.loop = some s') : Sane s' := by
  cases hloop : s.loop with
  | waiting | reading => simp [hloop, AcceptedConnection.loopNext] at hs
  | events fired =>
    cases fired with
    | true =>
      simp only [hloop, AcceptedConnection.loopNext, Option.some.injEq] at hs
      subst hs
      obtain ⟨hpolled, heof⟩ := h.reading (.inl hloop)
      refine h.moveLoop _ s.pendingTasks ?_ (fun _ => ⟨hpolled, heof⟩) (by simp [heof])
      split_ifs <;> simp [tasks, hloop]
    | false =>
      simp only [hloop, AcceptedConnection.loopNext, Option.some.injEq] at hs
      subst hs
      refine h.moveLoop _ _ (by simp [tasks, hloop]) (by simp) fun heof hr => ?_
      simpa [Leaving, hloop] using h.leaving heof hr
  | tasks batch =>
    cases batch with
    | nil =>
      simp only [hloop, AcceptedConnection.loopNext, Option.some.injEq] at hs
      subst hs
      refine h.moveLoop _ s.pendingTasks (by simp [tasks, hloop]) (by simp)
        fun heof hr => ?_
      simpa [Leaving, hloop] using h.leaving heof hr
    | cons task batch =>
      simp only [hloop, AcceptedConnection.loopNext, Option.some.injEq] at hs
      subst hs
      cases task with
      | addEvent => exact h.takeAddEvent hloop
      | removeConnection forced =>
        refine h.removeConnection hloop fun hconn => ?_
        cases forced with
        | true =>
          simp only [Orderly, hloop] at hok
          exact hok hconn
        | false => exact h.asked (by simp [tasks, hloop])

/-- Inside `HandleRead` the messages of the number go to the listening actor. -/
lemma sendByFd (h : Sane s) (hloop : s.loop = .reading) (msg : ActorMessage) :
    s.sendByFd msg = { s with sent := s.sent ++ [(s.listenerActorId, msg)] } := by
  obtain ⟨hpolled, heof⟩ := h.reading (.inr hloop)
  have hacc : s.accept = .accepted := h.accepted_of_polled hpolled
  have hbound := h.bound heof (by simp [hacc]) (by simp [hacc])
  simp [AcceptedConnection.sendByFd, hbound, h.listener]

/-- What `HandleRead` makes of a result of `recv` that is not a failure. -/
lemma handleRead (h : Sane s) (hloop : s.loop = .reading) {result : RecvResult}
    (hok : result ≠ .error) : Sane (s.handleRead result) := by
  obtain ⟨hpolled, heof⟩ := h.reading (.inr hloop)
  have hacc : s.accept = .accepted := h.accepted_of_polled hpolled
  have hr : s.removed = false := h.not_removed heof
  cases result with
  | data bytes =>
    obtain ⟨recvs, htype, hdata, hsent⟩ := h.messages
    simp only [AcceptedConnection.handleRead, h.sendByFd hloop]
    exact { h with
      silent := by simp [hacc, AcceptPc.connected]
      messages := by
        refine ⟨recvs ++ [.make .networkRecv 0 s.fd bytes], ?_, ?_, ?_⟩
        · intro m hm
          rcases List.mem_append.mp hm with hm | hm
          · exact htype m hm
          · rw [List.mem_singleton.mp hm, ActorMessage.type_make]
        · simp [hdata]
        · simp [hsent, heof] }
  | eintr => exact h
  | eagain =>
    refine h.moveLoop _ s.pendingTasks ?_ (by simp) (by simp [heof])
    simp [tasks, hloop]
  | eof =>
    obtain ⟨recvs, htype, hdata, hsent⟩ := h.messages
    simp only [AcceptedConnection.handleRead, h.sendByFd hloop]
    have htasks : s.tasks = s.pendingTasks := by simp [tasks, hloop]
    have hnot : .addEvent ∉ s.pendingTasks ++ [ConnTask.removeConnection false] := by
      have hadded := h.added (.inl hpolled)
      rw [htasks] at hadded
      simpa using hadded
    exact { h with
      once := by
        show (s.pendingTasks ++ [ConnTask.removeConnection false]).count .addEvent ≤ 1
        rw [List.count_eq_zero.mpr hnot]
        exact Nat.zero_le 1
      added := fun _ => hnot
      unadded := fun hne => absurd hacc hne
      asked := fun _ => rfl
      reading := by simp
      bound := by simp
      unbound := fun _ => ⟨hacc, rfl, rfl⟩
      leaving := fun _ _ => ⟨false, List.mem_append_right _ (List.mem_singleton_self _)⟩
      present := h.present
      gone := by
        intro hr'
        rw [show s.removed = true from hr'] at hr
        cases hr
      silent := by
        intro hconnected
        change s.accept.connected = false at hconnected
        simp [hacc, AcceptPc.connected] at hconnected
      messages := by
        refine ⟨recvs, htype, hdata, ?_⟩
        simp [AcceptedConnection.queueInLoop, unbindFd, hsent, heof] }
  | error => exact absurd rfl hok

/-- The stream of a connection that is being set up goes on. -/
lemma not_ended_of_accept (h : Sane s) (hne : s.accept ≠ .accepted) :
    s.sawEof = false ∧ s.removed = false := by
  have heof : s.sawEof = false := by
    by_contra heof
    exact hne (h.unbound (by simpa using heof)).1
  exact ⟨heof, h.not_removed heof⟩

/-- A call of `HandleAccept` before its end. -/
lemma setAccept (h : Sane s) (hne : s.accept ≠ .accepted) {pc : AcceptPc} {mapConn fdToLoop : Bool}
    {fdToActor : Option ActorId} {sent : List (ActorId × ActorMessage)} (hpc : pc ≠ .addConnection)
    (hpresent : mapConn = true)
    (hbound : pc ≠ .bindFdToActor → fdToActor = some s.listenerActorId)
    (hsilent : pc.connected = false → s.received = [] ∧ sent = [])
    (hmessages : ({ s with accept := pc, sent } : AcceptedConnection).Told s.sawEof) :
    Sane { s with accept := pc, mapConn, fdToActor, fdToLoop, sent } := by
  obtain ⟨heof, hr⟩ := h.not_ended_of_accept hne
  exact { h with
    unadded := fun _ => h.unadded hne
    bound := fun _ _ hne' => hbound hne'
    unbound := by simp [heof]
    present := fun _ _ => hpresent
    absent := fun he => absurd he hpc
    gone := by simp [hr]
    silent := hsilent
    messages := hmessages }

/-- The calls of `HandleAccept`. -/
lemma handleAccept (h : Sane s) {sameLoop : Bool} {s' : AcceptedConnection}
    (hs : s.handleAccept sameLoop s.accept = some s') : Sane s' := by
  cases hpc : s.accept with
  | addConnection =>
    obtain ⟨hreceived, hsent⟩ := h.silent (by simp [hpc, AcceptPc.connected])
    simp only [hpc, AcceptedConnection.handleAccept, Option.some.injEq] at hs
    subst hs
    exact h.setAccept (by simp [hpc]) (by simp) rfl (fun hne => absurd rfl hne)
      (fun _ => ⟨hreceived, hsent⟩) (by simpa [Told, hpc, AcceptPc.connected] using h.messages)
  | bindFdToActor =>
    obtain ⟨-, hr⟩ := h.not_ended_of_accept (by simp [hpc])
    obtain ⟨hreceived, hsent⟩ := h.silent (by simp [hpc, AcceptPc.connected])
    simp only [hpc, AcceptedConnection.handleAccept, Option.some.injEq] at hs
    subst hs
    exact h.setAccept (by simp [hpc]) (by simp) (h.present hr (by simp [hpc])) (fun _ => rfl)
      (fun _ => ⟨hreceived, hsent⟩) (by simpa [Told, hpc, AcceptPc.connected] using h.messages)
  | sendConnected =>
    obtain ⟨heof, hr⟩ := h.not_ended_of_accept (by simp [hpc])
    obtain ⟨hreceived, hsent⟩ := h.silent (by simp [hpc, AcceptPc.connected])
    simp only [hpc, AcceptedConnection.handleAccept, Option.some.injEq] at hs
    subst hs
    exact h.setAccept (by simp [hpc]) (by simp) (h.present hr (by simp [hpc]))
      (fun _ => h.bound heof (by simp [hpc]) (by simp [hpc])) (by simp [AcceptPc.connected])
      ⟨[], by simp, by simp [hreceived], by simp [hsent, heof, AcceptPc.connected]⟩
  | addEvent =>
    obtain ⟨hpolled, hadds⟩ := h.unadded (by simp [hpc])
    obtain ⟨heof, hr⟩ := h.not_ended_of_accept (by simp [hpc])
    simp only [hpc, AcceptedConnection.handleAccept, Option.some.injEq] at hs
    have h' : Sane { s with accept := .accepted } :=
      h.setAccept (by simp [hpc]) (by simp) (h.present hr (by simp [hpc]))
        (fun _ => h.bound heof (by simp [hpc]) (by simp [hpc])) (by simp [AcceptPc.connected])
        (by simpa [Told, hpc, AcceptPc.connected] using h.messages)
    cases sameLoop with
    | true =>
      simp only [if_true, addEvent_of_not_removed hr] at hs
      subst hs
      exact h'.addEvent hadds rfl heof
    | false =>
      simp only [Bool.false_eq_true, if_false] at hs
      subst hs
      refine h'.queueInLoop ?_ (by simp [hpolled, heof]) (by simp) (by simp)
      have hzero : s.tasks.count .addEvent = 0 := List.count_eq_zero.mpr hadds
      show (s.tasks ++ [ConnTask.addEvent]).count .addEvent ≤ 1
      simp [hzero]
  | accepted => simp [hpc, AcceptedConnection.handleAccept] at hs

lemma next (h : Sane s) {l : Action} {s' : AcceptedConnection} (hok : Orderly s l)
    (hs : machine.next s l = some s') : Sane s' := by
  change AcceptedConnection.next s l = some s' at hs
  cases l with
  | accept sameLoop => exact h.handleAccept hs
  | wait fired =>
    simp only [AcceptedConnection.next] at hs
    split_ifs at hs with hw
    cases hs
    obtain ⟨hloop, hfired⟩ := hw
    have hstaying : s.sawEof = false ∨ s.removed = true := by
      by_contra hnot
      obtain ⟨heof, hr⟩ := not_or.mp hnot
      simpa [Leaving, hloop] using h.leaving (by simpa using heof) (by simpa using hr)
    refine h.moveLoop _ s.pendingTasks (by simp [tasks, hloop]) (fun hevent => ?_)
      fun heof hr => ?_
    · have hpolled := hfired (by simpa using hevent)
      refine ⟨hpolled, hstaying.resolve_right fun hr => ?_⟩
      rw [(h.gone hr).2.1] at hpolled
      cases hpolled
    · rcases hstaying with hstaying | hstaying
      · rw [hstaying] at heof
        cases heof
      · rw [hstaying] at hr
        cases hr
  | loop => exact h.loopNext hok hs
  | recv result =>
    simp only [AcceptedConnection.next] at hs
    split_ifs at hs with hw
    cases hs
    apply h.handleRead hw.1
    rintro rfl
    exact hok hw.1
  | removeConnection =>
    cases hs
    refine h.queueInLoop ?_ (by simp) (by simp) (by simp)
    have honce := h.once
    simpa using honce

/-- Before the end of the stream nobody was told that the connection is over. -/
lemma not_told (h : Sane s) (heof : s.sawEof = false) {s' : AcceptedConnection}
    (hsent : s'.sent = s.sent) : ¬s'.Told true := by
  rintro ⟨recvs', -, -, htold⟩
  obtain ⟨recvs, htype, -, hsent'⟩ := h.messages
  have hlast : (s'.listenerActorId, notice .disconnected s'.fd) ∈ s.sent := by
    rw [← hsent, htold]
    simp
  rw [hsent', heof] at hlast
  obtain ⟨m, hm, hmsg⟩ := List.mem_map.mp hlast
  obtain ⟨-, rfl⟩ := Prod.mk.inj hmsg
  simp only [Bool.false_eq_true, if_false, List.append_nil] at hm
  rcases List.mem_append.mp hm with hm | hm
  · split_ifs at hm
    · simp [notice] at hm
    · simp at hm
  · exact absurd (htype _ hm) (by simp [notice])

/-- A step keeps the life cycle exactly when it is orderly. -/
lemma lifeCycle_next_iff (h : Sane s) {l : Action} {s' : AcceptedConnection}
    (hs : machine.next s l = some s') : LifeCycle s' ↔ Orderly s l := by
  refine ⟨fun hlife => ?_, fun hok => (h.next hok hs).lifeCycle⟩
  change AcceptedConnection.next s l = some s' at hs
  by_contra hok
  cases l with
  | accept sameLoop | wait fired | removeConnection => exact hok trivial
  | loop =>
    cases hloop : s.loop with
    | waiting | reading | events fired => simp [Orderly, hloop] at hok
    | tasks batch =>
      rcases batch with _ | ⟨_ | ⟨_ | _⟩, batch⟩
      · simp [Orderly, hloop] at hok
      · simp [Orderly, hloop] at hok
      · simp [Orderly, hloop] at hok
      · simp only [Orderly, hloop, Classical.not_imp, Bool.not_eq_true] at hok
        obtain ⟨hconn, heof⟩ := hok
        simp only [AcceptedConnection.next, hloop, AcceptedConnection.loopNext,
          Option.some.injEq] at hs
        subst hs
        have hended : ended { s.runTask (.removeConnection true) with loop := .tasks batch } =
            true := by simp [ended, runTask, hconn]
        have htold := hlife.messages
        rw [hended] at htold
        exact h.not_told heof rfl htold
  | recv result =>
    cases result with
    | data bytes | eintr | eagain | eof => exact hok trivial
    | error =>
      have hloop : s.loop = .reading := Classical.not_not.mp hok
      simp only [AcceptedConnection.next] at hs
      split_ifs at hs
      cases hs
      have hended : (s.handleRead .error).ended = true := by
        simp [ended, AcceptedConnection.handleRead]
      have htold := hlife.messages
      rw [hended] at htold
      exact h.not_told (h.reading (.inr hloop)).2 rfl htold

end Sane

lemma Initial.sane {s : AcceptedConnection} (h : Initial s) : Sane s := by
  have htasks : s.tasks = [] := by simp [AcceptedConnection.tasks, h.loop, h.tasks]
  constructor
  · exact h.listener
  · exact h.sawError
  · simp [htasks]
  · simp [htasks]
  · simp [htasks, h.polled]
  · simp [htasks]
  · rw [h.callback, h.polled]
  · simp [h.loop]
  · exact fun _ hne => absurd h.accept hne
  · simp [h.sawEof]
  · simp [h.sawEof]
  · exact fun _ hne => absurd h.accept hne
  · exact fun _ => h.mapConn
  · simp [h.removed]
  · exact fun _ => ⟨h.received, h.sent⟩
  · exact ⟨[], by simp, by simp [h.received],
      by simp [h.sent, h.sawEof, h.accept, AcceptPc.connected]⟩

/-- All along a run the actor is told of the connection, of what it received, and of its end, and
the removal clears the tables, exactly when every step of the run is orderly. -/
theorem lifeCycle_iff {s : AcceptedConnection} (hs : Initial s) (ls : List Action) :
    machine.Always LifeCycle s ls ↔ machine.Admits Orderly s ls := by
  refine Machine.always_iff_admits (I := Sane) ?_ ?_ ?_ hs.sane hs.sane.lifeCycle ls
  · intro s l hnone
    change next s l = none at hnone
    cases l with
    | accept sameLoop | wait fired | removeConnection => trivial
    | loop =>
      cases hloop : s.loop with
      | waiting | reading | events fired => simp [Orderly, hloop]
      | tasks batch => cases batch <;> simp [next, hloop, loopNext] at hnone
    | recv result =>
      cases result with
      | data bytes | eintr | eagain | eof => trivial
      | error =>
        intro hloop
        simp [next, RecvResult.valid, hloop] at hnone
  · intro s l s' h hok hs
    exact h.next hok hs
  · intro s l s' h _ hs
    exact h.lifeCycle_next_iff hs

/-- A connection as the kernel hands it out. -/
def accepted (fd : Fd) (listenerActorId : ActorId) : AcceptedConnection where
  fd := fd
  listenerActorId := listenerActorId
  accept := .addConnection
  loop := .waiting
  pendingTasks := []
  polled := false
  callback := false
  mapConn := false
  fdToActor := none
  fdToLoop := false
  sent := []
  received := []
  sawEof := false
  sawError := false
  removed := false

lemma initial_accepted (fd : Fd) {a : ActorId} (h : 0 < a) : Initial (accepted fd a) := by
  constructor <;> first | exact h | rfl

/-- Accepting a connection of another loop, up to the first `recv`. -/
def untilRecv : List Action :=
  [.accept false, .accept false, .accept false, .accept false, .wait false, .loop, .loop, .loop,
    .wait true, .loop]

/-- The peer sends two bytes and closes its side. -/
def untilRemoval : List Action :=
  untilRecv ++ [.recv (.data [104, 105]), .recv .eof, .loop, .loop]

theorem lifeCycle_closed :
    machine.Always LifeCycle (accepted 5 1) untilRemoval ∧
      (machine.replay (accepted 5 1) untilRemoval).removed = true := by
  refine ⟨(lifeCycle_iff (initial_accepted 5 (by decide)) _).mpr ?_, by decide⟩
  exact Machine.admits_of_runWith (by decide)

/-- `recv` fails, say with `ECONNRESET`. -/
def readError : List Action := untilRecv ++ [.recv .error]

/-- Nobody is told that reading has ended. -/
theorem silent_of_readError :
    ¬∀ (s : AcceptedConnection) (ls : List Action), Initial s → machine.Always LifeCycle s ls := by
  intro h
  have hend : LifeCycle (machine.replay (accepted 5 1) readError) :=
    h _ readError (initial_accepted 5 (by decide)) readError _ (List.prefix_refl _) rfl
  obtain ⟨recvs, -, -, htold⟩ := hend.messages
  have hsent : (machine.replay (accepted 5 1) readError).sent.length = 1 := by decide
  have hconnected : (machine.replay (accepted 5 1) readError).accept.connected = true := by decide
  have hended : (machine.replay (accepted 5 1) readError).ended = true := by decide
  rw [htold, hconnected, hended] at hsent
  simp at hsent

end AcceptedConnection

end Balabala
