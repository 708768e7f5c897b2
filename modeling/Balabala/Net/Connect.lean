import Balabala.Net.Basic
import Balabala.Net.Lifecycle

/-!
# The result of a connect

A thread constructs a `Connector` while the loop thread already runs the callbacks of its descriptor
number: `AddEvent` is queued first, then comes `AddConnectionRaw`, and a connection that was
established at once is bound and announced last. Epoll is edge-triggered: a number is on the ready
list after `EPOLL_CTL_ADD`, after `EPOLL_CTL_MOD` or after a new edge, and reporting it takes it off
the list again.

An earlier owner of the number may have left its entry in `mapConnRaw_`, which the insertion does
not replace, its callback and an event of the current batch, and tasks: `RemoveConnection` goes by
the number and takes whatever it finds. It may also be called later, when a message of the earlier
owner turns out to be wrong. A callback that finds the entry of an earlier owner goes through a raw
pointer to an object that may be destroyed; what it does there is left out. An entry of `mapConn_`
keeps its socket open, so an earlier owner leaves none.

An event that the loop thread dispatches without finding the connector is used up, and what
`HandleRead` receives before `BindFdToActor` goes to nobody. Otherwise no result of a connect and no
received byte gets lost, as long as the tasks of earlier owners are not in the way of the
registration. What `Send` puts into the output buffer is left out.
-/

namespace Balabala

open Foundation

/-! ### The kernel, the constructing thread and the loop thread -/

inductive ConnectState
  | inProgress | established | failed
  deriving DecidableEq

/-- What the constructor does next; `check` is the test of `connecting_` after
`AddConnectionRaw`. -/
inductive ConstructPc
  | addEvent | addConnectionRaw | check | bindFdToActor | sendConnected | modifyEvent
  | constructed
  deriving DecidableEq

inductive ConnectorTask
  | addEvent | modifyEvent | removeConnection
  /-- asked for by an earlier owner of the number, or on its behalf -/
  | earlierAddEvent (events : Interest)
  | earlierModifyEvent (events : Interest)
  | earlierRemoveConnection
  deriving DecidableEq

/-- It is not the connector's own. -/
def ConnectorTask.earlier : ConnectorTask → Bool
  | .earlierAddEvent _ | .earlierModifyEvent _ | .earlierRemoveConnection => true
  | .addEvent | .modifyEvent | .removeConnection => false

/-- It may come after the connector's `AddEvent`. -/
def ConnectorTask.late : ConnectorTask → Bool
  | .modifyEvent | .removeConnection | .earlierRemoveConnection => true
  | .addEvent | .earlierAddEvent _ | .earlierModifyEvent _ => false

/-- Whose entry `mapConnRaw_` has for the number. -/
inductive RawEntry
  | nobody | earlier | connector
  deriving DecidableEq

/-- The events of a number that `epoll_wait` reports. -/
structure ReadyEvents where
  epollin : Bool
  epollout : Bool
  deriving DecidableEq

/-- Where the loop thread is. -/
inductive CallbackPc
  /-- about to call `epoll_wait` -/
  | waiting
  /-- in the fired events; those of this number are still to come, or not -/
  | events (fired : Option ReadyEvents)
  /-- in `ConnectionBase::HandleRead`; `out`: `HandleWrite` comes after it -/
  | reading (out : Bool)
  /-- about to call `HandleWrite` -/
  | writing
  | tasks (batch : List ConnectorTask)
  deriving DecidableEq

/-- It is in `HandleRead` or `HandleWrite`. -/
def CallbackPc.inHandler : CallbackPc → Bool
  | .reading _ | .writing => true
  | .waiting | .events _ | .tasks _ => false

/-- What is left of the tasks that are being run. -/
def CallbackPc.batch : CallbackPc → List ConnectorTask
  | .tasks batch => batch
  | .waiting | .events _ | .reading _ | .writing => []

/-- It is in a callback of the number, or about to be. -/
def CallbackPc.inCallback : CallbackPc → Bool
  | .events (some _) | .reading _ | .writing => true
  | .waiting | .events none | .tasks _ => false

/-- How `HandleWrite` leaves the output buffer. -/
inductive WriteOutcome
  | drained | left | failed
  deriving DecidableEq

/-- `async`: `connect` returned `EINPROGRESS`; `edge`: the number is on the ready list; `bound`: it
is bound to `ownerActorId_`; `sent` has the messages to it; `received` is what `recv` returned. -/
structure Connector where
  fd : Fd
  async : Bool
  connect : ConnectState
  unread : Bytes
  eof : Bool
  interest : Option Interest
  edge : Bool
  construct : ConstructPc
  loop : CallbackPc
  pendingTasks : List ConnectorTask
  connecting : Bool
  closed : Bool
  callback : Bool
  mapConnRaw : RawEntry
  bound : Bool
  sent : List ActorMessage
  received : Bytes

namespace Connector

inductive Action
  /-- the constructor goes on -/
  | construct
  /-- the connect succeeds -/
  | establish
  /-- the connect fails, or the connection is reset -/
  | fail
  | arrive (bytes : Bytes)
  /-- the peer closes its side -/
  | finish
  /-- any other edge -/
  | edge
  /-- `RemoveConnection` is called on behalf of an earlier owner of the number -/
  | removeEarlier
  /-- `epoll_wait` returns, with or without this number -/
  | wait (fired : Bool)
  /-- the loop thread goes on -/
  | loop
  | recv (result : RecvResult)
  | handleWrite (outcome : WriteOutcome)

/-! #### Epoll -/

def readyIn (s : Connector) : Bool :=
  !s.unread.isEmpty || s.eof || s.connect = .failed

def readyOut (s : Connector) : Bool := s.connect ≠ .inProgress

/-- What is ready among the events of interest. -/
def ready (s : Connector) (events : Interest) : ReadyEvents where
  epollin := s.readyIn
  epollout := s.readyOut && events = .rw

def anyReady (s : Connector) (events : Interest) : Bool :=
  (s.ready events).epollin || (s.ready events).epollout

/-- A new edge of a registered number. -/
def raise (s : Connector) : Connector := { s with edge := s.edge || s.interest.isSome }

/-- `epoll_ctl` fails for a number that is closed or registered, and the callback is not set. -/
def addEvent (s : Connector) (events : Interest) : Connector :=
  if s.closed || s.interest.isSome then s
  else { s with interest := some events, edge := s.anyReady events, callback := true }

def modifyEventKeepCallback (s : Connector) (events : Interest) : Connector :=
  if s.callback && s.interest.isSome then
    { s with interest := some events, edge := s.edge || s.anyReady events }
  else s

def removeEvent (s : Connector) : Connector :=
  { s with interest := none, edge := false, callback := false }

/-! #### The two threads -/

def queueInLoop (s : Connector) (task : ConnectorTask) : Connector :=
  { s with pendingTasks := s.pendingTasks ++ [task] }

def addConnectionRaw (s : Connector) : Connector :=
  { s with mapConnRaw := if s.mapConnRaw = .nobody then .connector else s.mapConnRaw }

/-- The task of `RemoveConnection`. -/
def removeConnection (s : Connector) : Connector := { s.removeEvent with mapConnRaw := .nobody }

def runTask (s : Connector) : ConnectorTask → Connector
  | .addEvent => s.addEvent .rw
  | .modifyEvent => s.modifyEventKeepCallback .r
  | .earlierAddEvent events => s.addEvent events
  | .earlierModifyEvent events => s.modifyEventKeepCallback events
  | .removeConnection | .earlierRemoveConnection => s.removeConnection

/-- `socket_`, which is -1 once a failed connect was closed. -/
def socket (s : Connector) : Fd := if s.closed then -1 else s.fd

def sendToOwner (s : Connector) (msg : ActorMessage) : Connector :=
  { s with sent := s.sent ++ [msg] }

def sendByFd (s : Connector) (msg : ActorMessage) : Connector :=
  if s.bound then s.sendToOwner msg else s

def connectedMessage (fd : Fd) : ActorMessage := { type := .connected, fd := fd }

/-- `"connect_failed"` -/
def connectFailed : Bytes :=
  [0x63, 0x6f, 0x6e, 0x6e, 0x65, 0x63, 0x74, 0x5f, 0x66, 0x61, 0x69, 0x6c, 0x65, 0x64]

def connectFailedMessage (fd : Fd) : ActorMessage :=
  { type := .disconnected, fd := fd, data := connectFailed }

/-- The calls of `_Connect` after `connect`. -/
def constructNext (s : Connector) : ConstructPc → Option Connector
  | .addEvent => some { s.queueInLoop .addEvent with construct := .addConnectionRaw }
  | .addConnectionRaw => some { s.addConnectionRaw with construct := .check }
  | .check =>
    some { s with construct := if s.connecting then .constructed else .bindFdToActor }
  | .bindFdToActor => some { s with bound := s.bound || !s.closed, construct := .sendConnected }
  | .sendConnected =>
    some { s.sendToOwner (connectedMessage s.socket) with construct := .modifyEvent }
  | .modifyEvent => some { s.queueInLoop .modifyEvent with construct := .constructed }
  | .constructed => none

/-- Inside `HandleRead`, with a result that the kernel can return. -/
def canRecv (s : Connector) (result : RecvResult) : Bool :=
  (match s.loop with
    | .reading _ => true
    | _ => false) &&
  match result with
  | .data bytes => 0 < bytes.length && bytes.length ≤ AcceptedConnection.netBuffSize &&
      bytes.isPrefixOf s.unread
  | .eintr => true
  | .eagain => s.unread.isEmpty
  | .eof => s.unread.isEmpty && (s.eof || s.connect = .failed)
  | .error => s.unread.isEmpty && s.connect = .failed

/-- Where the callback goes on after `HandleRead`. -/
def afterRead : CallbackPc → CallbackPc
  | .reading true => .writing
  | _ => .events none

/-- What `HandleRead` makes of a result of `recv`. -/
def handleRead (s : Connector) : RecvResult → Connector
  | .data bytes =>
    { s.sendByFd (.make .networkRecv 0 s.fd bytes) with
      unread := s.unread.drop bytes.length, received := s.received ++ bytes }
  | .eintr => s
  | .eagain | .error => { s with loop := afterRead s.loop }
  | .eof =>
    { (s.sendByFd (AcceptedConnection.notice .disconnected s.fd)).queueInLoop .removeConnection with
      bound := false, loop := afterRead s.loop }

/-- `Connector::HandleWrite`: the result of the connect, or output. -/
def handleWrite (s : Connector) (outcome : WriteOutcome) : Connector :=
  let s := { s with loop := .events none }
  let events := if outcome = .drained then Interest.r else .rw
  if s.connecting then
    let s := { s with connecting := false }
    if s.connect = .failed then
      { ((s.sendToOwner (connectFailedMessage s.fd)).queueInLoop .removeConnection).removeEvent with
        closed := true }
    else
      ({ s with bound := true }.sendToOwner (connectedMessage s.fd)).modifyEventKeepCallback events
  else if outcome = .failed then s
  else s.modifyEventKeepCallback events

/-- The callback of the fired events, which looks up the number. -/
def dispatch (s : Connector) (fired : ReadyEvents) : CallbackPc :=
  if s.callback && s.mapConnRaw = .connector then
    if fired.epollin && !s.connecting then .reading fired.epollout
    else if fired.epollout then .writing
    else .events none
  else .events none

def loopNext (s : Connector) : CallbackPc → Option Connector
  | .waiting | .reading _ | .writing => none
  | .events (some fired) => some { s with loop := s.dispatch fired }
  | .events none => some { s with loop := .tasks s.pendingTasks, pendingTasks := [] }
  | .tasks (task :: batch) => some { s.runTask task with loop := .tasks batch }
  | .tasks [] => some { s with loop := .waiting }

/-- What `epoll_wait` reports of a number on the ready list. -/
def report (s : Connector) : Option ReadyEvents :=
  match s.interest with
  | some events => if s.edge && s.anyReady events then some (s.ready events) else none
  | none => none

def next (s : Connector) : Action → Option Connector
  | .construct => s.constructNext s.construct
  | .establish =>
    if s.connect = .inProgress then some { s with connect := .established }.raise else none
  | .fail => if s.connect ≠ .failed then some { s with connect := .failed }.raise else none
  | .arrive bytes =>
    if s.connect = .established ∧ s.eof = false then
      some { s with unread := s.unread ++ bytes }.raise
    else none
  | .finish => if s.connect = .established then some { s with eof := true }.raise else none
  | .edge => some s.raise
  | .removeEarlier => some (s.queueInLoop .earlierRemoveConnection)
  | .wait fired =>
    if s.loop = .waiting then
      if fired then
        s.report.map fun events => { s with loop := .events (some events), edge := false }
      else some { s with loop := .events none }
    else none
  | .loop => s.loopNext s.loop
  | .recv result => if s.canRecv result then some (s.handleRead result) else none
  | .handleWrite outcome => if s.loop = .writing then some (s.handleWrite outcome) else none

/-- What earlier owners of the number have left, and where the loop thread is: outside the handlers
of the connector. -/
structure Leftover where
  loop : CallbackPc
  pendingTasks : List ConnectorTask
  callback : Bool
  mapConnRaw : RawEntry
  bound : Bool
  inHandler : loop.inHandler = false
  earlier : ∀ task ∈ loop.batch ++ pendingTasks, task.earlier = true
  not_connector : mapConnRaw ≠ .connector

/-- The number is used for the first time. -/
def Leftover.nothing : Leftover where
  loop := .waiting
  pendingTasks := []
  callback := false
  mapConnRaw := .nobody
  bound := false
  inHandler := rfl
  earlier := by simp [CallbackPc.batch]
  not_connector := by decide

/-- After `connect`, which was not completed at once exactly if `async`. -/
def start (fd : Fd) (async : Bool) (left : Leftover) : Connector where
  fd := fd
  async := async
  connect := if async then .inProgress else .established
  unread := []
  eof := false
  interest := none
  edge := false
  construct := .addEvent
  loop := left.loop
  pendingTasks := left.pendingTasks
  connecting := async
  closed := false
  callback := left.callback
  mapConnRaw := left.mapConnRaw
  bound := left.bound
  sent := []
  received := []

def machine : Machine Connector Action where
  init s := ∃ fd async left, s = start fd async left
  next := next

/-! ### Nothing is swallowed -/

/-- What waits to be run by the loop thread, in order. -/
def tasks (s : Connector) : List ConnectorTask := s.loop.batch ++ s.pendingTasks

/-- The connector's `AddEvent` is still to come. -/
def Unregistered (s : Connector) : Prop :=
  s.construct = .addEvent ∨ .addEvent ∈ s.tasks

/-- The owner knows how the connect ended. -/
def Told (s : Connector) : Prop :=
  ∃ msg ∈ s.sent, msg.type = .connected ∨ msg.type = .disconnected

/-- The loop thread has the result of the connect before it. -/
inductive ResultAwaited (s : Connector) : Prop
  | unregistered (h : s.Unregistered)
  | edge (hi : s.interest = some .rw) (he : s.edge = true)
  | event (fired : ReadyEvents) (hl : s.loop = .events (some fired)) (ho : fired.epollout = true)
  | writing (hl : s.loop = .writing)

/-- The loop thread will look for data: epoll will tell it, it is reading, `HandleWrite` or the
constructor is going to renew the interest, or the connection is closed. -/
inductive DataAwaited (s : Connector) : Prop
  | unregistered (h : s.Unregistered)
  | edge (hi : s.interest.isSome = true) (he : s.edge = true)
  | event (fired : ReadyEvents) (hl : s.loop = .events (some fired)) (hin : fired.epollin = true)
  | reading (out : Bool) (hl : s.loop = .reading out)
  | connecting (hc : s.connecting = true)
  | constructing (hc : s.construct ≠ .constructed)
  | modifyEvent (h : .modifyEvent ∈ s.tasks)
  | closed (hc : s.closed = true)

structure NotSwallowed (s : Connector) : Prop where
  /-- A connect that was completed later is announced, or about to be. -/
  result : s.async = true → s.connect ≠ .inProgress → s.Told ∨ s.ResultAwaited
  /-- Received bytes are passed on, -/
  bytes : (s.sent.filter (·.type = .networkRecv)).flatMap ActorMessage.dataBytes = s.received
  /-- and those that can be received are going to be. -/
  data : s.unread ≠ [] → s.DataAwaited

/-- Nothing more can be received. -/
def Ended (s : Connector) : Prop := s.unread = [] ∧ (s.eof = true ∨ s.connect = .failed)

instance (s : Connector) : Decidable s.Unregistered := by
  unfold Unregistered
  infer_instance

instance (s : Connector) : Decidable s.Ended := by
  unfold Ended
  infer_instance

/-- Of a connect that is over, nothing waits for the event that is being dispatched. -/
def Dispensable (s : Connector) : Prop :=
  s.connecting = false ∧
    (s.unread = [] ∨ s.construct ≠ .constructed ∨ .modifyEvent ∈ s.tasks ∨ s.closed = true)

instance (s : Connector) : Decidable s.Dispensable := by
  unfold Dispensable
  infer_instance

/-- No event finds the entry of an earlier owner; one that does not find the connector comes before
its `AddEvent`, comes again or is dispensable; `AddEvent` finds the number unregistered; an earlier
owner's removal comes before it or finds nothing to lose; and nothing is received while the number
is not bound. -/
def Timely (s : Connector) : Action → Prop
  | .loop =>
    match s.loop with
    | .events (some _) =>
      (s.callback = true → s.mapConnRaw ≠ .earlier) ∧
        (s.mapConnRaw ≠ .connector → s.Unregistered ∨ s.edge = true ∨ s.Dispensable)
    | .tasks (.addEvent :: _) => s.closed = true ∨ s.interest = none
    | .tasks (.earlierRemoveConnection :: _) =>
      s.Unregistered ∨ s.closed = true ∨ s.connecting = false ∧ s.Ended
    | _ => True
  | .recv (.data bytes) => s.canRecv (.data bytes) = true → s.bound = true
  | _ => True

instance (s : Connector) (l : Action) : Decidable (Timely s l) := by
  unfold Timely
  repeat' split
  all_goals infer_instance

/-! ### What timely steps keep -/

/-- Before its `AddEvent` has run, the connector has to do with the registrations of earlier owners
at most. -/
structure Sane (s : Connector) : Prop where
  notSwallowed : NotSwallowed s
  kernel : s.connect = .inProgress → s.unread = [] ∧ s.eof = false
  unqueued : s.construct = .addEvent → .addEvent ∉ s.tasks
  fifo : s.tasks.Pairwise fun task later => task = .addEvent → later.late = true
  removing : .removeConnection ∈ s.tasks → s.closed = true ∨ s.Ended
  shut : s.closed = true → s.interest = none ∧ s.callback = false ∧ s.loop.inHandler = false
  /-- once `AddEvent` has run -/
  late : ¬s.Unregistered → ∀ task ∈ s.tasks, task.late = true
  registered : ¬s.Unregistered → s.interest.isSome = s.callback
  inCallback : ¬s.Unregistered → s.loop.inCallback = true → s.callback = true
  gone : ¬s.Unregistered → s.callback = false → s.closed = true ∨ s.Ended
  /-- while the connect is going on -/
  async : s.connecting = true → s.async = true ∧ s.sent = [] ∧ s.closed = false
  pristine : s.connecting = true → ¬s.Unregistered → s.interest = some .rw
  quiet : s.connecting = true → .modifyEvent ∉ s.tasks ∧ .removeConnection ∉ s.tasks ∧
    (∀ out, s.loop ≠ .reading out) ∧ s.construct ≠ .bindFdToActor ∧
    s.construct ≠ .sendConnected ∧ s.construct ≠ .modifyEvent
  event : ∀ fired, s.connecting = true → ¬s.Unregistered → s.loop = .events (some fired) →
    fired.epollout = true ∧ s.connect ≠ .inProgress
  /-- and afterwards -/
  told : s.async = true → s.connecting = false → s.Told

section Awaited

variable {s s' : Connector}

lemma ResultAwaited.congr (h : s.ResultAwaited) (hunreg : s.Unregistered → s'.Unregistered)
    (hi : s'.interest = s.interest) (he : s'.edge = s.edge) (hl : s'.loop = s.loop) :
    s'.ResultAwaited := by
  cases h with
  | unregistered hu => exact .unregistered (hunreg hu)
  | edge hi' he' => exact .edge (hi.trans hi') (he.trans he')
  | event fired hl' ho => exact .event fired (hl.trans hl') ho
  | writing hl' => exact .writing (hl.trans hl')

/-- The constructor may have gone on and tasks may have been queued. -/
lemma DataAwaited.congr (h : s.DataAwaited) (hunreg : s.Unregistered → s'.Unregistered)
    (hi : s'.interest = s.interest) (he : s'.edge = s.edge) (hl : s'.loop = s.loop)
    (hc : s'.connecting = s.connecting) (hcl : s'.closed = s.closed)
    (hpc : s.construct ≠ .constructed → s'.DataAwaited)
    (htasks : .modifyEvent ∈ s.tasks → .modifyEvent ∈ s'.tasks) : s'.DataAwaited := by
  cases h with
  | unregistered hu => exact .unregistered (hunreg hu)
  | edge hi' he' => exact .edge (by rwa [hi]) (he.trans he')
  | event fired hl' hin => exact .event fired (hl.trans hl') hin
  | reading out hl' => exact .reading out (hl.trans hl')
  | connecting hc' => exact .connecting (hc.trans hc')
  | constructing hpc' => exact hpc hpc'
  | modifyEvent hm => exact .modifyEvent (htasks hm)
  | closed hcl' => exact .closed (hcl.trans hcl')

end Awaited

@[simp] lemma tasks_queueInLoop (s : Connector) (task : ConnectorTask) :
    (s.queueInLoop task).tasks = s.tasks ++ [task] := by
  simp [tasks, queueInLoop]

lemma told_append {s s' : Connector} (h : s.Told) (msgs : List ActorMessage)
    (hsent : s'.sent = s.sent ++ msgs) : s'.Told := by
  obtain ⟨msg, hmsg, htype⟩ := h
  exact ⟨msg, by rw [hsent]; exact List.mem_append_left _ hmsg, htype⟩

namespace Sane

variable {s s' : Connector}

lemma start (fd : Fd) (async : Bool) (left : Leftover) : Sane (start fd async left) := by
  have hown : ∀ task ∈ (Connector.start fd async left).tasks, task.earlier = true := left.earlier
  have hnot : ∀ task : ConnectorTask, task.earlier = false →
      task ∉ (Connector.start fd async left).tasks := by
    intro task ht hm
    simp [hown task hm] at ht
  have hunreg : (Connector.start fd async left).Unregistered := .inl rfl
  have hhandler : (Connector.start fd async left).loop.inHandler = false := left.inHandler
  exact {
    notSwallowed := ⟨fun _ _ => .inr (.unregistered hunreg), rfl, fun hne => absurd rfl hne⟩
    kernel := fun _ => ⟨rfl, rfl⟩
    unqueued := fun _ => hnot .addEvent rfl
    fifo := List.pairwise_of_forall_mem_list fun task hm _ _ ht =>
      absurd (ht ▸ hm) (hnot .addEvent rfl)
    removing := fun hm => absurd hm (hnot .removeConnection rfl)
    shut := fun hc => by cases hc
    late := fun hu => absurd hunreg hu
    registered := fun hu => absurd hunreg hu
    inCallback := fun hu => absurd hunreg hu
    gone := fun hu => absurd hunreg hu
    async := fun hc => ⟨hc, rfl, rfl⟩
    pristine := fun _ hu => absurd hunreg hu
    quiet := fun _ => by
      refine ⟨hnot .modifyEvent rfl, hnot .removeConnection rfl, fun out hl => ?_, nofun, nofun,
        nofun⟩
      rw [hl] at hhandler
      cases hhandler
    event := fun _ _ hu => absurd hunreg hu
    told := fun hasync hc => by
      have hc : async = false := hc
      rw [show async = true from hasync] at hc
      cases hc }

/-- Where `connecting_` is set, the result is still awaited. -/
lemma awaited (h : Sane s) (hc : s.connecting = true) (hdone : s.connect ≠ .inProgress) :
    s.ResultAwaited := by
  obtain ⟨hasync, hsent, -⟩ := h.async hc
  apply (h.notSwallowed.result hasync hdone).resolve_left
  rintro ⟨msg, hmsg, -⟩
  rw [hsent] at hmsg
  cases hmsg

/-- `connecting_` decides whether the owner was told. -/
lemma result_of (htold : s.async = true → s.connecting = false → s.Told)
    (hawaited : s.connecting = true → s.connect ≠ .inProgress → s.ResultAwaited) :
    s.async = true → s.connect ≠ .inProgress → s.Told ∨ s.ResultAwaited := by
  intro hasync hdone
  cases hc : s.connecting with
  | true => exact .inr (hawaited hc hdone)
  | false => exact .inl (htold hasync hc)

/-- The constructor moves on between the two tasks that it queues. -/
lemma moveConstruct (h : Sane s) (msgs : List ActorMessage) {pc : ConstructPc} {raw : RawEntry}
    {bound : Bool}
    (hs : s' = { s with construct := pc, mapConnRaw := raw, bound, sent := s.sent ++ msgs })
    (hbefore : s.construct ≠ .addEvent) (hafter : pc ≠ .addEvent)
    (hmsgs : s.connecting = true → msgs = []) (htype : ∀ msg ∈ msgs, msg.type ≠ .networkRecv)
    (hquiet : s.connecting = true → pc ≠ .bindFdToActor ∧ pc ≠ .sendConnected ∧ pc ≠ .modifyEvent)
    (hdata : pc = .constructed → s.connecting = true) : Sane s' := by
  have htasks : s'.tasks = s.tasks := by subst hs; rfl
  have hunreg : s'.Unregistered ↔ s.Unregistered := by
    rw [Unregistered, Unregistered, htasks, or_iff_right hbefore, or_iff_right]
    subst hs; exact hafter
  have htold : s.async = true → s.connecting = false → s'.Told := by
    intro hasync hc
    exact told_append (h.told hasync hc) msgs (by rw [hs])
  subst hs
  refine { h with
    notSwallowed := ⟨result_of htold fun hc hdone => ?_, ?_, ?_⟩
    unqueued := fun he => absurd he hafter
    late := fun hu => h.late fun hu' => hu (hunreg.mpr hu')
    registered := fun hu => h.registered fun hu' => hu (hunreg.mpr hu')
    inCallback := fun hu => h.inCallback fun hu' => hu (hunreg.mpr hu')
    gone := fun hu => h.gone fun hu' => hu (hunreg.mpr hu')
    async := fun hc => ⟨(h.async hc).1, ?_, (h.async hc).2.2⟩
    pristine := fun hc hu => h.pristine hc fun hu' => hu (hunreg.mpr hu')
    quiet := fun hc => ?_
    event := fun fired hc hu => h.event fired hc fun hu' => hu (hunreg.mpr hu')
    told := htold }
  · exact (h.awaited hc hdone).congr hunreg.mpr rfl rfl rfl
  · have hnone : msgs.filter (·.type = .networkRecv) = [] := by simpa using htype
    simp [hnone, h.notSwallowed.bytes]
  · intro hne
    refine (h.notSwallowed.data hne).congr hunreg.mpr rfl rfl rfl rfl rfl (fun _ => ?_) fun hm => ?_
    · by_cases hpc : pc = .constructed
      · exact .connecting (hdata hpc)
      · exact .constructing hpc
    · rwa [htasks]
  · simp [(h.async hc).2.1, hmsgs hc]
  · obtain ⟨hmodify, hremove, hreading, -⟩ := h.quiet hc
    exact ⟨hmodify, hremove, hreading, hquiet hc⟩

/-- What is queued behind `AddEvent`. -/
lemma fifo_append {tasks : List ConnectorTask} {task : ConnectorTask} (hlate : task.late = true)
    (h : tasks.Pairwise fun task later => task = .addEvent → later.late = true) :
    (tasks ++ [task]).Pairwise fun task later => task = .addEvent → later.late = true := by
  refine List.pairwise_append.mpr ⟨h, List.pairwise_singleton _ _, fun _ _ later hm _ => ?_⟩
  rwa [List.mem_singleton.mp hm]

/-- A task that is queued does not register the number. -/
lemma addEvent_mem_append_iff {tasks : List ConnectorTask} {task : ConnectorTask}
    (hlate : task.late = true) : .addEvent ∈ tasks ++ [task] ↔ .addEvent ∈ tasks := by
  rw [List.mem_append, List.mem_singleton, or_iff_left]
  rintro rfl
  cases hlate

lemma late_append {tasks : List ConnectorTask} {task : ConnectorTask} (hlate : task.late = true)
    (h : ∀ t ∈ tasks, t.late = true) : ∀ t ∈ tasks ++ [task], t.late = true := by
  intro t hm
  rcases List.mem_append.mp hm with hm | hm
  · exact h t hm
  · rwa [List.mem_singleton.mp hm]

lemma queueAddEvent (h : Sane s) (hpc : s.construct = .addEvent) :
    Sane { s.queueInLoop .addEvent with construct := .addConnectionRaw } := by
  have htasks : ({ s.queueInLoop .addEvent with construct := .addConnectionRaw } :
      Connector).tasks = s.tasks ++ [.addEvent] := tasks_queueInLoop s .addEvent
  have hunreg : Unregistered { s.queueInLoop .addEvent with construct := .addConnectionRaw } := by
    refine .inr ?_
    rw [htasks]
    exact List.mem_append_right _ (List.mem_singleton_self _)
  exact { h with
    notSwallowed := ⟨fun _ _ => .inr (.unregistered hunreg), h.notSwallowed.bytes,
      fun _ => .unregistered hunreg⟩
    unqueued := by simp
    fifo := by
      rw [htasks]
      refine List.pairwise_append.mpr ⟨h.fifo, List.pairwise_singleton _ _, ?_⟩
      rintro _ hm _ _ rfl
      exact absurd hm (h.unqueued hpc)
    removing := by
      rw [htasks]
      intro hm
      exact h.removing (by simpa using hm)
    late := fun hu => absurd hunreg hu
    registered := fun hu => absurd hunreg hu
    inCallback := fun hu => absurd hunreg hu
    gone := fun hu => absurd hunreg hu
    pristine := fun _ hu => absurd hunreg hu
    quiet := by
      intro hc
      obtain ⟨hmodify, hremove, hreading, -⟩ := h.quiet hc
      rw [htasks]
      exact ⟨by simpa using hmodify, by simpa using hremove, hreading, by simp, by simp, by simp⟩
    event := fun _ _ hu => absurd hunreg hu }

lemma queueModifyEvent (h : Sane s) (hpc : s.construct = .modifyEvent) :
    Sane { s.queueInLoop .modifyEvent with construct := .constructed } := by
  have htasks : ({ s.queueInLoop .modifyEvent with construct := .constructed } : Connector).tasks =
      s.tasks ++ [.modifyEvent] := tasks_queueInLoop s .modifyEvent
  have hunreg : Unregistered { s.queueInLoop .modifyEvent with construct := .constructed } ↔
      s.Unregistered := by
    rw [Unregistered, Unregistered, htasks]
    simp [hpc]
  have hc : ¬s.connecting = true := fun hc => (h.quiet hc).2.2.2.2.2 hpc
  exact { h with
    notSwallowed := ⟨fun hasync _ => .inl (h.told hasync (by simpa using hc)),
      h.notSwallowed.bytes, fun _ => .modifyEvent (by rw [htasks]; simp)⟩
    unqueued := by simp
    fifo := by
      rw [htasks]
      exact fifo_append rfl h.fifo
    removing := by
      rw [htasks]
      intro hm
      exact h.removing (by simpa using hm)
    late := fun hu => by
      rw [htasks]
      exact late_append rfl (h.late fun hu' => hu (hunreg.mpr hu'))
    registered := fun hu => h.registered fun hu' => hu (hunreg.mpr hu')
    inCallback := fun hu => h.inCallback fun hu' => hu (hunreg.mpr hu')
    gone := fun hu => h.gone fun hu' => hu (hunreg.mpr hu')
    pristine := fun hc' => absurd hc' hc
    quiet := fun hc' => absurd hc' hc
    event := fun _ hc' => absurd hc' hc }

/-- `RemoveConnection` is called on behalf of an earlier owner. -/
lemma queueEarlier (h : Sane s) : Sane (s.queueInLoop .earlierRemoveConnection) := by
  have htasks := tasks_queueInLoop s .earlierRemoveConnection
  have hunreg : (s.queueInLoop .earlierRemoveConnection).Unregistered ↔ s.Unregistered := by
    rw [Unregistered, Unregistered, htasks, addEvent_mem_append_iff rfl]
    rfl
  exact { h with
    notSwallowed := by
      refine ⟨result_of h.told fun hc hdone => ?_, h.notSwallowed.bytes, fun hne => ?_⟩
      · exact (h.awaited hc hdone).congr hunreg.mpr rfl rfl rfl
      · refine (h.notSwallowed.data hne).congr hunreg.mpr rfl rfl rfl rfl rfl
          (fun hpc => .constructing hpc) fun hm => ?_
        rw [htasks]
        exact List.mem_append_left _ hm
    unqueued := fun hpc => by
      rw [htasks, addEvent_mem_append_iff rfl]
      exact h.unqueued hpc
    fifo := by
      rw [htasks]
      exact fifo_append rfl h.fifo
    removing := by
      rw [htasks]
      intro hm
      exact h.removing (by simpa using hm)
    late := fun hu => by
      rw [htasks]
      exact late_append rfl (h.late fun hu' => hu (hunreg.mpr hu'))
    registered := fun hu => h.registered fun hu' => hu (hunreg.mpr hu')
    inCallback := fun hu => h.inCallback fun hu' => hu (hunreg.mpr hu')
    gone := fun hu => h.gone fun hu' => hu (hunreg.mpr hu')
    pristine := fun hc hu => h.pristine hc fun hu' => hu (hunreg.mpr hu')
    quiet := fun hc => by
      rw [htasks]
      simpa [queueInLoop] using h.quiet hc
    event := fun fired hc hu => h.event fired hc fun hu' => hu (hunreg.mpr hu') }

/-- The constructor. -/
lemma constructNext (h : Sane s) (hs : s.constructNext s.construct = some s') : Sane s' := by
  cases hpc : s.construct with
  | addEvent =>
    simp only [hpc, Connector.constructNext, Option.some.injEq] at hs
    subst hs
    exact h.queueAddEvent hpc
  | addConnectionRaw =>
    simp only [hpc, Connector.constructNext, Option.some.injEq] at hs
    apply h.moveConstruct [] (by rw [← hs, List.append_nil]; rfl) (by simp [hpc]) <;> simp
  | check =>
    simp only [hpc, Connector.constructNext, Option.some.injEq] at hs
    refine h.moveConstruct [] (by rw [← hs, List.append_nil]) (by simp [hpc]) ?_ ?_ ?_ ?_ ?_
    · split_ifs <;> simp
    · simp
    · simp
    · intro hc; simp [hc]
    · split_ifs with hc <;> simp [hc]
  | bindFdToActor =>
    have hc : s.connecting = false := by
      by_contra hc
      exact (h.quiet (by simpa using hc)).2.2.2.1 hpc
    simp only [hpc, Connector.constructNext, Option.some.injEq] at hs
    exact h.moveConstruct [] (by rw [← hs, List.append_nil]) (by simp [hpc]) (by simp)
      (by simp) (by simp) (by simp [hc]) (by simp)
  | sendConnected =>
    have hc : s.connecting = false := by
      by_contra hc
      exact (h.quiet (by simpa using hc)).2.2.2.2.1 hpc
    simp only [hpc, Connector.constructNext, Option.some.injEq] at hs
    exact h.moveConstruct _ hs.symm (by simp [hpc]) (by simp) (by simp [hc])
      (by simp [connectedMessage]) (by simp [hc]) (by simp)
  | modifyEvent =>
    simp only [hpc, Connector.constructNext, Option.some.injEq] at hs
    subst hs
    exact h.queueModifyEvent hpc
  | constructed => simp [hpc, Connector.constructNext] at hs

/-- The kernel: something happens to the socket, with an edge if the number is registered. -/
lemma raise (h : Sane s) {connect : ConnectState} {unread : Bytes} {eof : Bool}
    (hs : s' = Connector.raise { s with connect, unread, eof })
    (hkernel : connect = .inProgress → unread = [] ∧ eof = false)
    (hended : s.Ended → unread = [] ∧ (eof = true ∨ connect = .failed))
    (hdone : s.connect ≠ .inProgress → connect ≠ .inProgress) : Sane s' := by
  have hcallback : ¬s.Unregistered → s.callback = true →
      s'.interest.isSome = true ∧ s'.edge = true := by
    intro hu hc
    have hi : s.interest.isSome = true := (h.registered hu).trans hc
    rw [hs]
    exact ⟨hi, by simp [Connector.raise, hi]⟩
  subst hs
  exact { h with
    notSwallowed := by
      refine ⟨result_of h.told fun hc _ => ?_, h.notSwallowed.bytes, fun hne => ?_⟩
      · by_cases hu : s.Unregistered
        · exact .unregistered hu
        · have hi := h.pristine hc hu
          exact .edge hi (hcallback hu (by rw [← h.registered hu, hi]; rfl)).2
      · by_cases hu : s.Unregistered
        · exact .unregistered hu
        · cases hcb : s.callback with
          | true =>
            obtain ⟨hi, he⟩ := hcallback hu hcb
            exact .edge hi he
          | false =>
            refine .closed ((h.gone hu hcb).resolve_right fun he => ?_)
            exact hne (hended he).1
    kernel := hkernel
    gone := fun hu hcb => (h.gone hu hcb).imp id hended
    removing := fun hm => (h.removing hm).imp id hended
    event := fun fired hc hu hl => ⟨(h.event fired hc hu hl).1, hdone (h.event fired hc hu hl).2⟩ }

/-- The loop thread goes on, with the same tasks before it. -/
lemma moveLoop (h : Sane s) {loop : CallbackPc} {pending : List ConnectorTask} {edge : Bool}
    (hs : s' = { s with loop, pendingTasks := pending, edge }) (htasks : s'.tasks = s.tasks)
    (hcallback : ¬s.Unregistered → loop.inCallback = true → s.callback = true)
    (hclosed : s.closed = true → loop.inHandler = false)
    (hreading : ∀ out, loop = .reading out → s.connecting = false)
    (hevent : ∀ fired, s.connecting = true → ¬s.Unregistered → loop = .events (some fired) →
      fired.epollout = true ∧ s.connect ≠ .inProgress)
    (hresult : s.connecting = true → s.connect ≠ .inProgress → ¬s.Unregistered → s'.ResultAwaited)
    (hdata : s.unread ≠ [] → ¬s.Unregistered → s.connecting = false → s.construct = .constructed →
      .modifyEvent ∉ s.tasks → s.closed = false → s'.DataAwaited) : Sane s' := by
  have hunreg : s'.Unregistered ↔ s.Unregistered := by
    rw [Unregistered, Unregistered, htasks]
    subst hs; rfl
  subst hs
  exact { h with
    notSwallowed := by
      refine ⟨result_of h.told fun hc hdone => ?_, h.notSwallowed.bytes, fun hne => ?_⟩
      · by_cases hu : s.Unregistered
        · exact .unregistered (hunreg.mpr hu)
        · exact hresult hc hdone hu
      · by_cases hu : s.Unregistered
        · exact .unregistered (hunreg.mpr hu)
        by_cases hc : s.connecting = true
        · exact .connecting hc
        by_cases hpc : s.construct = .constructed
        · by_cases hm : .modifyEvent ∈ s.tasks
          · exact .modifyEvent (by rw [htasks]; exact hm)
          by_cases hcl : s.closed = true
          · exact .closed hcl
          · exact hdata hne hu (by simpa using hc) hpc hm (by simpa using hcl)
        · exact .constructing hpc
    unqueued := by rw [htasks]; exact h.unqueued
    fifo := by rw [htasks]; exact h.fifo
    removing := by rw [htasks]; exact h.removing
    shut := fun hc => ⟨(h.shut hc).1, (h.shut hc).2.1, hclosed hc⟩
    late := fun hu => by
      rw [htasks]
      exact h.late fun hu' => hu (hunreg.mpr hu')
    registered := fun hu => h.registered fun hu' => hu (hunreg.mpr hu')
    inCallback := fun hu => hcallback fun hu' => hu (hunreg.mpr hu')
    gone := fun hu => h.gone fun hu' => hu (hunreg.mpr hu')
    pristine := fun hc hu => h.pristine hc fun hu' => hu (hunreg.mpr hu')
    quiet := by
      intro hc
      obtain ⟨hmodify, hremove, -, hpc⟩ := h.quiet hc
      rw [htasks]
      refine ⟨hmodify, hremove, fun out hl => ?_, hpc⟩
      rw [hreading out hl] at hc
      cases hc
    event := fun fired hc hu => hevent fired hc fun hu' => hu (hunreg.mpr hu') }

lemma readyIn_of_unread (hne : s.unread ≠ []) : s.readyIn = true := by
  simp [readyIn, hne]

lemma readyOut_of_done (hdone : s.connect ≠ .inProgress) : s.readyOut = true := by
  simp [readyOut, hdone]

/-- Something is ready only when the connect is over. -/
lemma done_of_anyReady (h : Sane s) {events : Interest} (hready : s.anyReady events = true) :
    s.connect ≠ .inProgress := by
  intro hp
  obtain ⟨hunread, heof⟩ := h.kernel hp
  simp [anyReady, ready, readyIn, readyOut, hunread, heof, hp] at hready

/-- `epoll_wait` reports the number. -/
lemma report (h : Sane s) (hloop : s.loop = .waiting) {fired : ReadyEvents}
    (hreport : s.report = some fired) :
    Sane { s with loop := .events (some fired), edge := false } := by
  obtain ⟨events, hi⟩ : ∃ events, s.interest = some events := by
    cases hi : s.interest with
    | none => simp [Connector.report, hi] at hreport
    | some events => exact ⟨events, rfl⟩
  simp only [Connector.report, hi, Option.ite_none_right_eq_some, Bool.and_eq_true,
    Option.some.injEq] at hreport
  obtain ⟨⟨-, hready⟩, rfl⟩ := hreport
  have hrw : s.connecting = true → ¬s.Unregistered → events = .rw := by
    intro hc hu
    have hp := h.pristine hc hu
    rw [hi] at hp
    exact Option.some.inj hp
  have hdone := h.done_of_anyReady hready
  refine h.moveLoop rfl (by simp [tasks, hloop, CallbackPc.batch]) (fun hu _ => ?_) (fun _ => rfl)
    (by simp) ?_ ?_ ?_
  · rw [← h.registered hu, hi]
    rfl
  · intro fired hc hu hl
    cases hl
    exact ⟨by simp [ready, readyOut_of_done hdone, hrw hc hu], hdone⟩
  · intro hc _ hu
    exact .event _ rfl (by simp [ready, readyOut_of_done hdone, hrw hc hu])
  · intro hne _ _ _ _ _
    exact .event _ rfl (readyIn_of_unread hne)

/-- When nothing is left to be set up, unread bytes are announced by epoll, or the loop thread is
about to read them. -/
lemma unread_announced (h : Sane s) (hne : s.unread ≠ []) (hu : ¬s.Unregistered)
    (hc : s.connecting = false) (hpc : s.construct = .constructed) (hm : .modifyEvent ∉ s.tasks)
    (hcl : s.closed = false) : (s.interest.isSome = true ∧ s.edge = true) ∨
      (∃ fired, s.loop = .events (some fired) ∧ fired.epollin = true) ∨
      ∃ out, s.loop = .reading out := by
  cases h.notSwallowed.data hne with
  | unregistered hu' => exact absurd hu' hu
  | edge hi he => exact .inl ⟨hi, he⟩
  | event fired hl hin => exact .inr (.inl ⟨fired, hl, hin⟩)
  | reading out hl => exact .inr (.inr ⟨out, hl⟩)
  | connecting hc' => rw [hc] at hc'; cases hc'
  | constructing hpc' => exact absurd hpc hpc'
  | modifyEvent hm' => exact absurd hm' hm
  | closed hcl' => rw [hcl] at hcl'; cases hcl'

/-- The callback of the fired events. -/
lemma dispatch_cases (s : Connector) (fired : ReadyEvents) :
    s.dispatch fired = .events none ∨ s.callback = true ∧ s.mapConnRaw = .connector ∧
      (s.dispatch fired = .reading fired.epollout ∧ s.connecting = false ∨
        s.dispatch fired = .writing) := by
  rw [Connector.dispatch]
  split_ifs with hfound hin hout
  · obtain ⟨hcb, hraw⟩ : s.callback = true ∧ s.mapConnRaw = .connector := by simpa using hfound
    exact .inr ⟨hcb, hraw, .inl ⟨rfl, by simpa using (Bool.and_eq_true_iff.mp hin).2⟩⟩
  · obtain ⟨hcb, hraw⟩ : s.callback = true ∧ s.mapConnRaw = .connector := by simpa using hfound
    exact .inr ⟨hcb, hraw, .inr rfl⟩
  · exact .inl rfl
  · exact .inl rfl

/-- It finds the connector, or the event does not matter or comes again. -/
lemma dispatch (h : Sane s) {fired : ReadyEvents} (hloop : s.loop = .events (some fired))
    (hok : s.mapConnRaw ≠ .connector → s.Unregistered ∨ s.edge = true ∨ s.Dispensable) :
    Sane { s with loop := s.dispatch fired } := by
  have hcallback : ¬s.Unregistered → s.callback = true :=
    fun hu => h.inCallback hu (by rw [hloop]; rfl)
  refine h.moveLoop rfl ?_ (fun hu _ => hcallback hu) ?_ ?_ ?_ ?_ ?_
  · rcases dispatch_cases s fired with hd | ⟨-, -, ⟨hd, -⟩ | hd⟩ <;>
      simp [tasks, hloop, hd, CallbackPc.batch]
  · intro hcl
    have hcb := (h.shut hcl).2.1
    rcases dispatch_cases s fired with hd | ⟨hcb', -⟩
    · rw [hd]
      rfl
    · rw [hcb] at hcb'
      cases hcb'
  · intro out hl
    rcases dispatch_cases s fired with hd | ⟨-, -, ⟨-, hc⟩ | hd⟩
    · rw [hd] at hl
      cases hl
    · exact hc
    · rw [hd] at hl
      cases hl
  · intro fired' _ _ hl
    rcases dispatch_cases s fired with hd | ⟨-, -, ⟨hd, -⟩ | hd⟩ <;> rw [hd] at hl <;> cases hl
  · intro hc hdone hu
    obtain ⟨hout, -⟩ := h.event fired hc hu hloop
    by_cases hraw : s.mapConnRaw = .connector
    · exact .writing (by simp [Connector.dispatch, hcallback hu, hraw, hc, hout])
    · rcases hok hraw with hu' | he | hd
      · exact absurd hu' hu
      · exact .edge (h.pristine hc hu) he
      · rw [hd.1] at hc
        cases hc
  · intro hne hu hc hpc hm hcl
    have hi : s.interest.isSome = true := (h.registered hu).trans (hcallback hu)
    by_cases hraw : s.mapConnRaw = .connector
    · rcases h.unread_announced hne hu hc hpc hm hcl with ⟨hi, he⟩ | ⟨fired', hl, hin⟩ | ⟨out, hl⟩
      · exact .edge hi he
      · rw [hloop] at hl
        cases hl
        refine .reading fired.epollout ?_
        simp [Connector.dispatch, hcallback hu, hraw, hc, hin]
      · rw [hloop] at hl
        cases hl
    · rcases hok hraw with hu' | he | ⟨-, hnil | hpc' | hm' | hcl'⟩
      · exact absurd hu' hu
      · exact .edge hi he
      · exact absurd hnil hne
      · exact absurd hpc hpc'
      · exact absurd hm' hm
      · rw [hcl] at hcl'
        cases hcl'

/-- Outside a callback the result of the connect can only be announced by epoll. -/
lemma edge_of_awaited (h : Sane s) (hout : s.loop.inCallback = false) (hc : s.connecting = true)
    (hdone : s.connect ≠ .inProgress) (hu : ¬s.Unregistered) :
    s.interest = some .rw ∧ s.edge = true := by
  cases h.awaited hc hdone with
  | unregistered hu' => exact absurd hu' hu
  | edge hi he => exact ⟨hi, he⟩
  | event fired hl ho => simp [hl, CallbackPc.inCallback] at hout
  | writing hl => simp [hl, CallbackPc.inCallback] at hout

/-- The loop thread between two callbacks or tasks. -/
lemma moveOutside (h : Sane s) {loop : CallbackPc} {pending : List ConnectorTask}
    (hs : s' = { s with loop, pendingTasks := pending }) (htasks : s'.tasks = s.tasks)
    (hbefore : s.loop.inCallback = false) (hafter : loop.inCallback = false) : Sane s' := by
  have hne : ∀ pc : CallbackPc, pc.inCallback = true → loop ≠ pc := by
    rintro pc hpc rfl
    rw [hafter] at hpc
    cases hpc
  refine h.moveLoop hs htasks (fun _ hin => ?_) (fun _ => ?_) (fun out hl => ?_)
    (fun fired _ _ hl => ?_) (fun hc hdone hu => ?_) fun hunread hu hc hpc hm hcl => ?_
  · rw [hafter] at hin
    cases hin
  · cases loop <;> first | rfl | exact absurd rfl (hne _ rfl)
  · exact absurd hl (hne _ rfl)
  · exact absurd hl (hne _ rfl)
  · obtain ⟨hi, he⟩ := h.edge_of_awaited hbefore hc hdone hu
    exact .edge (by rw [hs]; exact hi) (by rw [hs]; exact he)
  · rcases h.unread_announced hunread hu hc hpc hm hcl with ⟨hi, he⟩ | ⟨fired, hl, -⟩ | ⟨out, hl⟩
    · exact .edge (by rw [hs]; exact hi) (by rw [hs]; exact he)
    · simp [hl, CallbackPc.inCallback] at hbefore
    · simp [hl, CallbackPc.inCallback] at hbefore

lemma tasks_of_loop {task : ConnectorTask} {batch : List ConnectorTask}
    (hloop : s.loop = .tasks (task :: batch)) :
    s.tasks = task :: (batch ++ s.pendingTasks) := by
  simp [tasks, hloop, CallbackPc.batch]

lemma mem_of_mem_rest {task t : ConnectorTask} {batch : List ConnectorTask}
    (hloop : s.loop = .tasks (task :: batch)) (hm : t ∈ batch ++ s.pendingTasks) : t ∈ s.tasks := by
  rw [tasks_of_loop hloop]
  exact List.mem_cons_of_mem _ hm

/-- A task has run: what it has made of the registration matters once `AddEvent` has run. -/
lemma afterTask (h : Sane s) {task : ConnectorTask} {batch : List ConnectorTask}
    (hloop : s.loop = .tasks (task :: batch)) {interest : Option Interest} {edge callback : Bool}
    {raw : RawEntry}
    (hs : s' = { s with loop := .tasks batch, interest, edge, callback, mapConnRaw := raw })
    (hshut : s.closed = true → interest = none ∧ callback = false)
    (hlate : ¬s'.Unregistered → ∀ t ∈ batch ++ s.pendingTasks, t.late = true)
    (hregistered : ¬s'.Unregistered → interest.isSome = callback)
    (hgone : ¬s'.Unregistered → callback = false → s.closed = true ∨ s.Ended)
    (hresult : s.connecting = true → ¬s'.Unregistered →
      interest = some .rw ∧ (s.connect ≠ .inProgress → edge = true))
    (hdata : s.unread ≠ [] → ¬s'.Unregistered → callback = true → edge = true) : Sane s' := by
  have hsub : ∀ t ∈ batch ++ s.pendingTasks, t ∈ s.tasks := fun _ => mem_of_mem_rest hloop
  have hfifo := h.fifo
  rw [tasks_of_loop hloop, List.pairwise_cons] at hfifo
  subst hs
  exact { h with
    notSwallowed := by
      refine ⟨result_of h.told fun hc hdone => ?_, h.notSwallowed.bytes, fun hne => ?_⟩
      · refine Classical.byCases .unregistered fun hu => ?_
        exact .edge (hresult hc hu).1 ((hresult hc hu).2 hdone)
      · refine Classical.byCases .unregistered fun hu => ?_
        by_cases hcb : callback = true
        · exact .edge ((hregistered hu).trans hcb) (hdata hne hu hcb)
        · exact .closed ((hgone hu (by simpa using hcb)).resolve_right fun he => hne he.1)
    unqueued := fun hpc hm => h.unqueued hpc (hsub _ hm)
    fifo := hfifo.2
    removing := fun hm => h.removing (hsub _ hm)
    shut := fun hc => ⟨(hshut hc).1, (hshut hc).2, rfl⟩
    late := hlate
    registered := hregistered
    inCallback := by simp [CallbackPc.inCallback]
    gone := hgone
    pristine := fun hc hu => (hresult hc hu).1
    quiet := by
      intro hc
      obtain ⟨hmodify, hremove, -, hpc⟩ := h.quiet hc
      exact ⟨fun hm => hmodify (hsub _ hm), fun hm => hremove (hsub _ hm), by simp, hpc⟩
    event := by simp }

/-- The task `AddEvent`, when no earlier owner has registered the number. -/
lemma addEvent (h : Sane s) {batch : List ConnectorTask}
    (hloop : s.loop = .tasks (.addEvent :: batch)) (hok : s.closed = true ∨ s.interest = none) :
    Sane { s.addEvent .rw with loop := .tasks batch } := by
  have hlate : ∀ task ∈ batch ++ s.pendingTasks, task.late = true := by
    have hfifo := h.fifo
    rw [tasks_of_loop hloop, List.pairwise_cons] at hfifo
    exact fun task hm => hfifo.1 task hm rfl
  cases hcl : s.closed with
  | true =>
    obtain ⟨hi, hcb, -⟩ := h.shut hcl
    have hc : ¬s.connecting = true := by
      intro hc
      have hopen := (h.async hc).2.2
      rw [hcl] at hopen
      cases hopen
    have hkept : s.addEvent .rw = s := by simp [Connector.addEvent, hcl]
    rw [hkept]
    refine h.afterTask hloop rfl (fun _ => ⟨hi, hcb⟩)
      (fun _ => hlate) (fun _ => by simp [hi, hcb]) (fun _ _ => .inl hcl)
      (fun hc' => absurd hc' hc) fun _ _ hcb' => ?_
    rw [hcb] at hcb'
    cases hcb'
  | false =>
    have hi : s.interest = none := hok.resolve_left (by simp [hcl])
    have hadded : s.addEvent .rw =
        { s with interest := some .rw, edge := s.anyReady .rw, callback := true } := by
      simp [Connector.addEvent, hcl, hi]
    rw [hadded]
    refine h.afterTask hloop rfl ?_
      (fun _ => hlate) (fun _ => rfl) ?_ ?_ ?_
    · simp [hcl]
    · simp
    · intro _ _
      refine ⟨rfl, fun hdone => ?_⟩
      simp [anyReady, ready, readyOut_of_done hdone]
    · intro hne _ _
      simp [anyReady, ready, readyIn_of_unread hne]

/-- What a task does to the registration. -/
lemma runTask_eq (s : Connector) (task : ConnectorTask) :
    ∃ interest edge callback raw, s.runTask task =
      { s with interest, edge, callback, mapConnRaw := raw } ∧
      (s.closed = true → s.interest = none ∧ s.callback = false →
        interest = none ∧ callback = false) := by
  have hadd : ∀ events, ∃ interest edge callback raw, s.addEvent events =
      { s with interest, edge, callback, mapConnRaw := raw } ∧
      (s.closed = true → s.interest = none ∧ s.callback = false →
        interest = none ∧ callback = false) := by
    intro events
    rw [Connector.addEvent]
    split_ifs with hc
    · exact ⟨_, _, _, _, rfl, fun _ => id⟩
    · exact ⟨_, _, _, _, rfl, fun hcl => by simp [hcl] at hc⟩
  have hmodify : ∀ events, ∃ interest edge callback raw, s.modifyEventKeepCallback events =
      { s with interest, edge, callback, mapConnRaw := raw } ∧
      (s.closed = true → s.interest = none ∧ s.callback = false →
        interest = none ∧ callback = false) := by
    intro events
    rw [modifyEventKeepCallback]
    split_ifs with hc
    · exact ⟨_, _, _, _, rfl, fun _ hn => by simp [hn.1] at hc⟩
    · exact ⟨_, _, _, _, rfl, fun _ => id⟩
  cases task with
  | addEvent => exact hadd .rw
  | earlierAddEvent events => exact hadd events
  | modifyEvent => exact hmodify .r
  | earlierModifyEvent events => exact hmodify events
  | removeConnection | earlierRemoveConnection => exact ⟨_, _, _, _, rfl, fun _ _ => ⟨rfl, rfl⟩⟩

/-- A task before `AddEvent`. -/
lemma taskBefore (h : Sane s) {task : ConnectorTask} {batch : List ConnectorTask}
    (hloop : s.loop = .tasks (task :: batch))
    (hu : s.construct = .addEvent ∨ .addEvent ∈ batch ++ s.pendingTasks) :
    Sane { s.runTask task with loop := .tasks batch } := by
  obtain ⟨interest, edge, callback, raw, he, hshut⟩ := runTask_eq s task
  have hunreg : Unregistered { s with
      loop := .tasks batch, interest, edge, callback, mapConnRaw := raw } := hu
  rw [he]
  refine h.afterTask hloop rfl (fun hcl => ?_) (fun hno => absurd hunreg hno)
    (fun hno => absurd hunreg hno) (fun hno => absurd hunreg hno)
    (fun _ hno => absurd hunreg hno) fun _ hno => absurd hunreg hno
  exact hshut hcl ⟨(h.shut hcl).1, (h.shut hcl).2.1⟩

/-- A task after `AddEvent`. -/
lemma taskAfter (h : Sane s) {task : ConnectorTask} {batch : List ConnectorTask}
    (hloop : s.loop = .tasks (task :: batch)) (hu : ¬s.Unregistered)
    (hok : task = .earlierRemoveConnection →
      s.closed = true ∨ s.connecting = false ∧ s.Ended) :
    Sane { s.runTask task with loop := .tasks batch } := by
  have hmem : task ∈ s.tasks := by simp [tasks_of_loop hloop]
  have hlate := h.late hu
  have hrest : ∀ t ∈ batch ++ s.pendingTasks, t.late = true :=
    fun t hm => hlate t (mem_of_mem_rest hloop hm)
  have hremoved : s.connecting = false → s.closed = true ∨ s.Ended →
      Sane { s.removeConnection with loop := .tasks batch } := by
    intro hc hgone
    refine h.afterTask hloop rfl (fun _ => ⟨rfl, rfl⟩) (fun _ => hrest) (fun _ => rfl)
      (fun _ _ => hgone) (fun hc' => ?_) fun _ _ hcb => by cases hcb
    rw [hc] at hc'
    cases hc'
  cases task with
  | addEvent | earlierAddEvent | earlierModifyEvent => cases hlate _ hmem
  | modifyEvent =>
    have hc : ¬s.connecting = true := fun hc => (h.quiet hc).1 hmem
    rw [Connector.runTask, modifyEventKeepCallback]
    split_ifs with hcb
    · obtain ⟨hcb, hi⟩ : s.callback = true ∧ s.interest.isSome = true := by simpa using hcb
      refine h.afterTask hloop rfl (fun hcl => ?_) (fun _ => hrest) (fun _ => by simp [hcb])
        (fun _ hcb' => ?_) (fun hc' => absurd hc' hc) fun hne _ _ => ?_
      · simp [(h.shut hcl).1] at hi
      · rw [hcb] at hcb'
        cases hcb'
      · simp [anyReady, ready, readyIn_of_unread hne]
    · refine h.afterTask hloop rfl (fun hcl => ⟨(h.shut hcl).1, (h.shut hcl).2.1⟩) (fun _ => hrest)
        (fun _ => h.registered hu) (fun _ => h.gone hu) (fun hc' => absurd hc' hc) ?_
      intro _ _ hcb'
      have hi : s.interest.isSome = true := (h.registered hu).trans hcb'
      simp [hcb', hi] at hcb
  | removeConnection =>
    have hc : ¬s.connecting = true := fun hc => (h.quiet hc).2.1 hmem
    exact hremoved (by simpa using hc) (h.removing hmem)
  | earlierRemoveConnection =>
    rcases hok rfl with hcl | ⟨hc, hend⟩
    · refine hremoved ?_ (.inl hcl)
      by_contra hc
      have := (h.async (by simpa using hc)).2.2
      rw [hcl] at this
      cases this
    · exact hremoved hc (.inr hend)

lemma runTask (h : Sane s) {task : ConnectorTask} {batch : List ConnectorTask}
    (hloop : s.loop = .tasks (task :: batch)) (hok : Timely s .loop) :
    Sane { s.runTask task with loop := .tasks batch } := by
  by_cases hadd : task = .addEvent
  · subst hadd
    simp only [Timely, hloop] at hok
    exact h.addEvent hloop hok
  by_cases hu : s.Unregistered
  · apply h.taskBefore hloop
    refine hu.imp id fun hm => ?_
    rw [tasks_of_loop hloop, List.mem_cons] at hm
    exact hm.resolve_left (Ne.symm hadd)
  · refine h.taskAfter hloop hu fun htask => ?_
    subst htask
    simp only [Timely, hloop] at hok
    exact hok.resolve_left hu

/-- The loop thread, where the kernel has no say. -/
lemma loopNext (h : Sane s) (hok : Timely s .loop) (hs : s.loopNext s.loop = some s') :
    Sane s' := by
  cases hloop : s.loop with
  | waiting | reading out | writing => simp [hloop, Connector.loopNext] at hs
  | events fired =>
    cases fired with
    | none =>
      simp only [hloop, Connector.loopNext, Option.some.injEq] at hs
      subst hs
      exact h.moveOutside rfl (by simp [tasks, hloop, CallbackPc.batch])
        (by simp [hloop, CallbackPc.inCallback]) rfl
    | some fired =>
      simp only [hloop, Connector.loopNext, Option.some.injEq] at hs
      subst hs
      apply h.dispatch hloop
      simp only [Timely, hloop] at hok
      exact hok.2
  | tasks batch =>
    cases batch with
    | nil =>
      simp only [hloop, Connector.loopNext, Option.some.injEq] at hs
      subst hs
      exact h.moveOutside rfl (by simp [tasks, hloop, CallbackPc.batch])
        (by simp [hloop, CallbackPc.inCallback]) rfl
    | cons task batch =>
      simp only [hloop, Connector.loopNext, Option.some.injEq] at hs
      subst hs
      exact h.runTask hloop hok

/-- In a handler the connector is open. -/
lemma open_of_inHandler (h : Sane s) (hloop : s.loop.inHandler = true) : s.closed = false := by
  by_contra hcl
  have hout := (h.shut (by simpa using hcl)).2.2
  rw [hloop] at hout
  cases hout

/-- Inside `ConnectionBase::HandleRead`. -/
lemma reading (h : Sane s) {out : Bool} (hloop : s.loop = .reading out) : ¬s.connecting = true :=
  fun hc => (h.quiet hc).2.2.1 out hloop

/-- `HandleRead` returns. -/
lemma stopReading (h : Sane s) {out : Bool} (hloop : s.loop = .reading out)
    (hunread : s.unread = []) : Sane { s with loop := afterRead s.loop } := by
  have hc := h.reading hloop
  have hopen := h.open_of_inHandler (by rw [hloop]; rfl)
  refine h.moveLoop rfl ?_ (fun hu _ => h.inCallback hu (by rw [hloop]; rfl)) (fun hcl => ?_)
    (fun _ _ => by simpa using hc) (fun _ hc' => absurd hc' hc)
    (fun hc' => absurd hc' hc) fun hne => absurd hunread hne
  · rw [hloop]
    cases out <;> simp [tasks, afterRead, hloop, CallbackPc.batch]
  · rw [hopen] at hcl
    cases hcl

/-- `HandleRead` has seen the end of the stream, and told the owner if the number is bound. -/
lemma endOfStream (h : Sane s) {out : Bool} (hloop : s.loop = .reading out) (hend : s.Ended)
    (msgs : List ActorMessage) (htype : ∀ msg ∈ msgs, msg.type ≠ .networkRecv)
    (hs : s' = { s with sent := s.sent ++ msgs, bound := false, loop := afterRead s.loop
                        pendingTasks := s.pendingTasks ++ [.removeConnection] }) : Sane s' := by
  have hc := h.reading hloop
  have hopen := h.open_of_inHandler (by rw [hloop]; rfl)
  have htasks : s'.tasks = s.tasks ++ [.removeConnection] := by
    rw [hs, hloop]
    cases out <;> simp [tasks, afterRead, hloop, CallbackPc.batch]
  have hunreg : s'.Unregistered ↔ s.Unregistered := by
    rw [Unregistered, Unregistered, htasks, addEvent_mem_append_iff rfl, hs]
  have hevents : ∀ fired, afterRead s.loop ≠ .events (some fired) := by
    rw [hloop]
    cases out <;> simp [afterRead]
  have htold : s.async = true → s'.Told :=
    fun hasync => told_append (h.told hasync (by simpa using hc)) msgs (by rw [hs])
  subst hs
  exact { h with
    notSwallowed := by
      refine ⟨fun hasync _ => .inl (htold hasync), ?_, fun hne => absurd hend.1 hne⟩
      have hnone : msgs.filter (·.type = .networkRecv) = [] := by simpa using htype
      simp [hnone, h.notSwallowed.bytes]
    unqueued := fun hpc => by
      rw [htasks, addEvent_mem_append_iff rfl]
      exact h.unqueued hpc
    fifo := by
      rw [htasks]
      exact fifo_append rfl h.fifo
    removing := fun _ => .inr hend
    shut := fun hcl => by rw [show s.closed = true from hcl] at hopen; cases hopen
    late := fun hu => by
      rw [htasks]
      exact late_append rfl (h.late fun hu' => hu (hunreg.mpr hu'))
    registered := fun hu => h.registered fun hu' => hu (hunreg.mpr hu')
    inCallback := fun hu _ => h.inCallback (fun hu' => hu (hunreg.mpr hu')) (by rw [hloop]; rfl)
    gone := fun _ _ => .inr hend
    async := fun hc' => absurd hc' hc
    pristine := fun hc' => absurd hc' hc
    quiet := fun hc' => absurd hc' hc
    event := fun fired _ _ hl => absurd hl (hevents fired)
    told := fun hasync _ => htold hasync }

/-- What `HandleRead` makes of a result of `recv`. -/
lemma handleRead (h : Sane s) {result : RecvResult} (hrecv : s.canRecv result = true)
    (hok : Timely s (.recv result)) : Sane (s.handleRead result) := by
  obtain ⟨out, hloop⟩ : ∃ out, s.loop = .reading out := by
    cases hloop : s.loop <;> simp [canRecv, hloop] at hrecv
    exact ⟨_, rfl⟩
  have hc := h.reading hloop
  simp only [canRecv, hloop, Bool.true_and] at hrecv
  cases result with
  | data bytes =>
    have hbound : s.bound = true := hok (by simpa [canRecv, hloop] using hrecv)
    simp only [Connector.handleRead, Connector.sendByFd, hbound, if_true]
    have hended : s.Ended → Ended { s.sendToOwner (.make .networkRecv 0 s.fd bytes) with
        unread := s.unread.drop bytes.length, received := s.received ++ bytes } := by
      rintro ⟨hunread, hend⟩
      exact ⟨by simp [hunread], hend⟩
    have htold : s.async = true → s.Told := fun hasync => h.told hasync (by simpa using hc)
    exact { h with
      notSwallowed := by
        refine ⟨fun hasync _ => .inl (told_append (htold hasync) _ rfl), ?_, fun _ => ?_⟩
        · simp [sendToOwner, h.notSwallowed.bytes]
        · exact .reading out hloop
      kernel := by
        intro hp
        obtain ⟨hunread, heof⟩ := h.kernel hp
        exact ⟨by simp [hunread], heof⟩
      gone := fun hu hcb => (h.gone hu hcb).imp id hended
      removing := fun hm => (h.removing hm).imp id hended
      async := fun hc' => absurd hc' hc
      told := fun hasync _ => told_append (htold hasync) _ rfl }
  | eintr => exact h
  | eagain => exact h.stopReading hloop (by simpa using hrecv)
  | error =>
    have hunread : s.unread = [] := by simpa using (Bool.and_eq_true_iff.mp hrecv).1
    exact h.stopReading hloop hunread
  | eof =>
    simp only [Bool.and_eq_true, List.isEmpty_iff, Bool.or_eq_true, decide_eq_true_eq] at hrecv
    simp only [Connector.handleRead, Connector.sendByFd]
    split_ifs
    · refine h.endOfStream hloop hrecv [_] ?_ rfl
      simp [AcceptedConnection.notice]
    · apply h.endOfStream hloop hrecv [] (by simp)
      simp [queueInLoop]

/-- The connect has failed. -/
lemma connectFailed (h : Sane s) (hloop : s.loop = .writing) (msg : ActorMessage)
    (htype : msg.type = .disconnected)
    (hs : s' = { s with loop := .events none, connecting := false, sent := s.sent ++ [msg],
                        pendingTasks := s.pendingTasks ++ [.removeConnection], interest := none,
                        edge := false, callback := false, closed := true }) : Sane s' := by
  have htasks : s'.tasks = s.tasks ++ [.removeConnection] := by
    rw [hs]
    simp [tasks, hloop, CallbackPc.batch]
  have hunreg : s'.Unregistered ↔ s.Unregistered := by
    rw [Unregistered, Unregistered, htasks, addEvent_mem_append_iff rfl, hs]
  have htold : s'.Told := ⟨msg, by rw [hs]; simp, .inr htype⟩
  subst hs
  exact { h with
    notSwallowed := by
      refine ⟨fun _ _ => .inl htold, ?_, fun _ => .closed rfl⟩
      simp [htype, h.notSwallowed.bytes]
    unqueued := fun hpc => by
      rw [htasks, addEvent_mem_append_iff rfl]
      exact h.unqueued hpc
    fifo := by
      rw [htasks]
      exact fifo_append rfl h.fifo
    removing := fun _ => .inl rfl
    shut := fun _ => ⟨rfl, rfl, rfl⟩
    late := fun hu => by
      rw [htasks]
      exact late_append rfl (h.late fun hu' => hu (hunreg.mpr hu'))
    registered := fun _ => rfl
    inCallback := by simp [CallbackPc.inCallback]
    gone := fun _ _ => .inl rfl
    async := by simp
    pristine := by simp
    quiet := by simp
    event := by simp
    told := fun _ _ => htold }

/-- `HandleWrite` leaves an interest, which counts once `AddEvent` has run. -/
lemma leaveWriting (h : Sane s) (hloop : s.loop = .writing) (msgs : List ActorMessage)
    (htype : ∀ msg ∈ msgs, msg.type = .connected) (htold : s.connecting = true → msgs ≠ [])
    {bound : Bool} {interest : Option Interest} {edge : Bool}
    (hs : s' = { s with loop := .events none, connecting := false, sent := s.sent ++ msgs, bound,
                        interest, edge })
    (hinterest : ¬s.Unregistered → interest.isSome = true)
    (hedge : ¬s.Unregistered → s.unread ≠ [] → edge = true) : Sane s' := by
  have hopen := h.open_of_inHandler (by rw [hloop]; rfl)
  have htasks : s'.tasks = s.tasks := by
    rw [hs]
    simp [tasks, hloop, CallbackPc.batch]
  have hunreg : s'.Unregistered ↔ s.Unregistered := by
    rw [Unregistered, Unregistered, htasks, hs]
  have hcb : ¬s.Unregistered → s.callback = true := fun hu => h.inCallback hu (by rw [hloop]; rfl)
  have htold' : s.async = true → s'.Told := by
    intro hasync
    cases hc : s.connecting with
    | false => exact told_append (h.told hasync hc) msgs (by rw [hs])
    | true =>
      obtain ⟨msg, hmsg⟩ := List.exists_mem_of_ne_nil msgs (htold hc)
      exact ⟨msg, by rw [hs]; exact List.mem_append_right _ hmsg, .inl (htype msg hmsg)⟩
  subst hs
  exact { h with
    notSwallowed := by
      refine ⟨fun hasync _ => .inl (htold' hasync), ?_, fun hne => ?_⟩
      · have hnone : msgs.filter (·.type = .networkRecv) = [] := by
          rw [List.filter_eq_nil_iff]
          intro msg hmsg
          simp [htype msg hmsg]
        simp [hnone, h.notSwallowed.bytes]
      · by_cases hu : s.Unregistered
        · exact .unregistered (hunreg.mpr hu)
        · exact .edge (hinterest hu) (hedge hu hne)
    unqueued := by rw [htasks]; exact h.unqueued
    fifo := by rw [htasks]; exact h.fifo
    removing := by rw [htasks]; exact h.removing
    shut := fun hcl => by rw [show s.closed = true from hcl] at hopen; cases hopen
    late := fun hu => by
      rw [htasks]
      exact h.late fun hu' => hu (hunreg.mpr hu')
    registered := fun hu => by
      have hu : ¬s.Unregistered := fun hu' => hu (hunreg.mpr hu')
      exact (hinterest hu).trans (hcb hu).symm
    inCallback := by simp [CallbackPc.inCallback]
    gone := fun hu hcb' => by
      rw [show s.callback = false from hcb'] at hcb
      cases hcb fun hu' => hu (hunreg.mpr hu')
    async := by simp
    pristine := by simp
    quiet := by simp
    event := by simp
    told := fun hasync _ => htold' hasync }

/-- `HandleWrite` renews the interest, after the connect or after output. -/
lemma renew (h : Sane s) (hloop : s.loop = .writing) (msgs : List ActorMessage)
    (htype : ∀ msg ∈ msgs, msg.type = .connected) (htold : s.connecting = true → msgs ≠ [])
    (bound : Bool) (events : Interest)
    (hs : s' = Connector.modifyEventKeepCallback
      { s with loop := .events none, connecting := false, sent := s.sent ++ msgs, bound } events) :
    Sane s' := by
  have hset : ¬s.Unregistered → s.callback = true ∧ s.interest.isSome = true := by
    intro hu
    have hcb : s.callback = true := h.inCallback hu (by rw [hloop]; rfl)
    exact ⟨hcb, (h.registered hu).trans hcb⟩
  rw [modifyEventKeepCallback] at hs
  split_ifs at hs with hc
  · refine h.leaveWriting hloop msgs htype htold hs (fun _ => rfl) fun _ hne => ?_
    have hin : s.readyIn = true := readyIn_of_unread hne
    simp only [readyIn] at hin
    simp [anyReady, ready, readyIn, hin]
  · refine h.leaveWriting hloop msgs htype htold hs (fun hu => (hset hu).2) fun hu => ?_
    simp [hset hu] at hc

lemma handleWrite (h : Sane s) (hloop : s.loop = .writing) (outcome : WriteOutcome) :
    Sane (s.handleWrite outcome) := by
  by_cases hc : s.connecting = true
  · by_cases hfailed : s.connect = .failed
    · simp only [Connector.handleWrite, hc, hfailed, if_true]
      apply h.connectFailed hloop (connectFailedMessage s.fd) rfl
      simp [queueInLoop, sendToOwner, removeEvent, hfailed]
    · simp only [Connector.handleWrite, hc, hfailed, if_true, if_false]
      exact h.renew hloop [connectedMessage s.fd] (by simp [connectedMessage]) (by simp) true
        (if outcome = .drained then .r else .rw) rfl
  · have hno : s.connecting = false := by simpa using hc
    by_cases hout : outcome = .failed
    · simp only [Connector.handleWrite, hno, hout, if_true, Bool.false_eq_true, if_false]
      refine h.moveLoop (by rw [hno]) (by simp [tasks, hloop, CallbackPc.batch])
        (by simp [CallbackPc.inCallback]) (fun _ => rfl) (fun _ _ => hno)
        (fun _ hc' => absurd hc' hc) (fun hc' => absurd hc' hc) ?_
      intro hne hu _ hpc hm hcl
      rcases h.unread_announced hne hu hno hpc hm hcl with ⟨hi, he⟩ | ⟨fired, hl, -⟩ | ⟨out, hl⟩
      · exact .edge hi he
      · rw [hloop] at hl
        cases hl
      · rw [hloop] at hl
        cases hl
    · simp only [Connector.handleWrite, hno, hout, Bool.false_eq_true, if_false]
      refine h.renew hloop [] (by simp) (fun hc' => absurd hc' hc) s.bound
        (if outcome = .drained then .r else .rw) ?_
      rw [List.append_nil]

lemma next (h : Sane s) {l : Action} (hok : Timely s l) (hs : machine.next s l = some s') :
    Sane s' := by
  change Connector.next s l = some s' at hs
  cases l with
  | construct => exact h.constructNext hs
  | establish =>
    simp only [Connector.next] at hs
    split_ifs at hs with hp
    cases hs
    obtain ⟨hunread, heof⟩ := h.kernel hp
    exact h.raise rfl (by simp) (fun he => ⟨he.1, by simpa [heof, hp] using he.2⟩) (by simp)
  | fail =>
    simp only [Connector.next] at hs
    split_ifs at hs
    cases hs
    exact h.raise rfl (by simp) (fun he => ⟨he.1, .inr rfl⟩) (by simp)
  | arrive bytes =>
    simp only [Connector.next] at hs
    split_ifs at hs with hp
    cases hs
    obtain ⟨hp, heof⟩ := hp
    exact h.raise rfl (by simp [hp]) (fun he => by simpa [heof, hp] using he.2) (by simp [hp])
  | finish =>
    simp only [Connector.next] at hs
    split_ifs at hs with hp
    cases hs
    exact h.raise rfl (by simp [hp]) (fun he => ⟨he.1, .inl rfl⟩) (by simp [hp])
  | edge =>
    cases hs
    exact h.raise rfl h.kernel id id
  | removeEarlier =>
    cases hs
    exact h.queueEarlier
  | wait fired =>
    simp only [Connector.next] at hs
    split_ifs at hs with hloop hfired
    · obtain ⟨events, hreport, rfl⟩ := Option.map_eq_some_iff.mp hs
      exact h.report hloop hreport
    · cases hs
      exact h.moveOutside rfl (by simp [tasks, hloop, CallbackPc.batch])
        (by simp [hloop, CallbackPc.inCallback]) rfl
  | loop => exact h.loopNext hok hs
  | recv result =>
    simp only [Connector.next] at hs
    split_ifs at hs with hrecv
    cases hs
    exact h.handleRead hrecv hok
  | handleWrite outcome =>
    simp only [Connector.next] at hs
    split_ifs at hs with hloop
    cases hs
    exact h.handleWrite hloop outcome

/-- After an event that was needed nothing tells the loop thread any more. -/
lemma lost_of_dispatch (h : Sane s) {fired : ReadyEvents} (hloop : s.loop = .events (some fired))
    (hu : ¬s.Unregistered) (hedge : s.edge = false) (hneeded : ¬s.Dispensable) :
    ¬NotSwallowed { s with loop := .events none } := by
  intro hkept
  have hunreg : ¬Unregistered { s with loop := .events none } := by
    have htasks : ({ s with loop := .events none } : Connector).tasks = s.tasks := by
      simp [tasks, hloop, CallbackPc.batch]
    rwa [Unregistered, htasks]
  have hnoEdge : ¬({ s with loop := .events none } : Connector).edge = true := by simp [hedge]
  cases hc : s.connecting with
  | true =>
    obtain ⟨hasync, hsent, -⟩ := h.async hc
    rcases hkept.result hasync (h.event fired hc hu hloop).2 with ⟨msg, hmsg, -⟩ | hawaited
    · have hmsg : msg ∈ s.sent := hmsg
      rw [hsent] at hmsg
      cases hmsg
    · cases hawaited with
      | unregistered hu' => exact hunreg hu'
      | edge _ he => exact hnoEdge he
      | event _ hl => cases hl
      | writing hl => cases hl
  | false =>
    simp only [Dispensable, hc, true_and, not_or, not_not] at hneeded
    obtain ⟨hne, hpc, hm, hcl⟩ := hneeded
    cases hkept.data hne with
    | unregistered hu' => exact hunreg hu'
    | edge _ he => exact hnoEdge he
    | event _ hl => cases hl
    | reading _ hl => cases hl
    | connecting hc' => exact absurd (hc.symm.trans hc') (by simp)
    | constructing hpc' => exact hpc' hpc
    | modifyEvent hm' =>
      refine hm ?_
      simpa [tasks, hloop, CallbackPc.batch] using hm'
    | closed hcl' => exact hcl hcl'

lemma of_reach (h : machine.Reach Timely s) : Sane s := by
  refine h.invariant (fun s hs => ?_) fun s l s' _ hi hok hs => hi.next hok hs
  obtain ⟨fd, async, left, rfl⟩ := hs
  exact Sane.start fd async left

end Sane

/-- An event that is dispatched too early is swallowed, and so is what is received too early. -/
theorem swallowed_of_not_timely {s s' : Connector} {l : Action} (h : machine.Reach Timely s)
    (hs : machine.next s l = some s') (hl : s.loop.batch = []) (hentry : s.mapConnRaw ≠ .earlier)
    (hok : ¬Timely s l) : ¬NotSwallowed s' := by
  have hsane := Sane.of_reach h
  change next s l = some s' at hs
  cases l with
  | construct | establish | fail | arrive bytes | finish | edge | removeEarlier | wait fired
  | handleWrite outcome => exact absurd trivial hok
  | loop =>
    cases hloop : s.loop with
    | waiting | reading out | writing => simp [Timely, hloop] at hok
    | tasks batch =>
      have hnil : batch = [] := by simpa [hloop, CallbackPc.batch] using hl
      simp [Timely, hloop, hnil] at hok
    | events fired =>
      cases fired with
      | none => simp [Timely, hloop] at hok
      | some fired =>
        simp only [Timely, hloop] at hok
        have hlost := not_and.mp hok fun _ => hentry
        simp only [Classical.not_imp, not_or, Bool.not_eq_true] at hlost
        obtain ⟨hraw, hu, hedge, hneeded⟩ := hlost
        simp only [next, hloop, loopNext, Option.some.injEq] at hs
        have hnone : s.dispatch fired = .events none :=
          (Sane.dispatch_cases s fired).resolve_right fun hd => hraw hd.2.1
        rw [hnone] at hs
        subst hs
        exact hsane.lost_of_dispatch hloop hu hedge hneeded
  | recv result =>
    cases result with
    | eintr | eagain | eof | error => exact absurd trivial hok
    | data bytes =>
      simp only [Timely, Classical.not_imp, Bool.not_eq_true] at hok
      obtain ⟨hrecv, hbound⟩ := hok
      simp only [next, hrecv, if_true, Option.some.injEq] at hs
      subst hs
      intro hkept
      have hbytes := hkept.bytes
      simp only [handleRead, sendByFd, hbound, Bool.false_eq_true, if_false,
        hsane.notSwallowed.bytes] at hbytes
      have hnone : bytes = [] := by simpa using hbytes
      simp [canRecv, hnone] at hrecv

/-- The number was used before, and its `RemoveConnection` comes in time. -/
def usedBefore : Leftover where
  loop := .waiting
  pendingTasks := [.earlierRemoveConnection]
  callback := true
  mapConnRaw := .earlier
  bound := false
  inHandler := rfl
  earlier := by simp [CallbackPc.batch, ConnectorTask.earlier]
  not_connector := by decide

/-- The connect succeeds while the constructor is between `AddEvent` and `AddConnectionRaw`, and the
loop thread dispatches the event at once. -/
def earlyEvent : List Action :=
  [.construct, .establish, .wait false, .loop, .loop, .loop, .wait true, .loop, .construct,
    .construct]

/-- The same after `AddConnectionRaw`, when the `RemoveConnection` of an earlier owner takes the new
entry. -/
example :
    let left : Leftover := { usedBefore with mapConnRaw := .nobody, not_connector := by decide }
    let s := machine.replay (start 7 true left)
      [.construct, .construct, .construct, .wait false, .loop, .loop, .loop, .loop, .establish,
        .wait true, .loop]
    s.construct = .constructed ∧ s.loop = .events none ∧ s.edge = false ∧ s.tasks = [] ∧
      s.connect = .established ∧ s.sent = [] := by
  decide

end Connector

end Balabala
