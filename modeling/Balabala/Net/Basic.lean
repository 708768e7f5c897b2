import Mathlib.Logic.Function.Basic
import Mathlib.Tactic.Common
import Balabala.Foundation.Machine
import Balabala.Actor.Message

/-!
# The event loop and its connections

One `EventLoop`: its thread, which runs the callbacks of an epoll batch and then the pending
tasks, and any number of other threads, which construct and destroy connectors, call `Send` and
handle received messages. The kernel hands out any free descriptor number.

A step is one critical section or one system call, except where only the loop thread can look: it
alone touches `callbacks_`, the epoll interest and the output buffers, so a whole `HandleWrite`, a
whole `sendInLoop` and a whole pending task are one step each. Every connection object has a
`ConnId` of its own, which no later object gets; it also stands for the open socket of the object.
Using a destroyed connector through a dangling pointer is undefined in C++ and does nothing here,
and a connector is not destroyed while the loop thread is inside one of its callbacks.

Tasks carry the object they were requested for, which the code does not look at. Calls that fail
with `EINTR` and are made again, binding numbers to actors, and log output are left out. An
acceptor lives as long as its loop. What the acceptor of another loop accepts for this one, it
enters here from the thread of that loop; all connections of the model belong to this one loop.
-/

namespace Balabala

open Foundation

abbrev ConnId := Nat

/-- `EPOLL_EVENTS_R` and `EPOLL_EVENTS_RW`. -/
inductive Interest
  | r | rw
  deriving DecidableEq

/-- A fired event of `epoll_wait`. -/
structure FiredEvent where
  fd : Fd
  epollin : Bool
  epollout : Bool
  deriving DecidableEq

inductive ConnKind
  | connection | connector | acceptor
  deriving DecidableEq

/-- How far the life of a connection object is. The steps of a constructor or a destructor are
named after what comes next. -/
inductive Stage
  | addEvent | addConnectionRaw | notifyConnected | modifyEvent
  | ready
  | close | clearSocket
  | destroyed
  deriving DecidableEq

/-- The destructor has not begun. -/
def Stage.alive : Stage → Bool
  | .close | .clearSocket | .destroyed => false
  | _ => true

/-- The constructor has yet to call `AddEvent` or `AddConnectionRaw`. -/
def Stage.unregistered : Stage → Bool
  | .addEvent | .addConnectionRaw => true
  | _ => false

/-- What is queued with `QueueInLoop`: `removeConnection` and `send` name the object they were
requested for. -/
inductive PendingTask
  | addEvent (c : ConnId) (fd : Fd) (events : Interest)
  | modifyEventKeepCallback (fd : Fd) (events : Interest)
  | removeConnection (c : ConnId) (fd : Fd)
  | send (c : ConnId) (fd : Fd) (data : Bytes)
  deriving DecidableEq

/-- The two halves of an iteration of `EventLoop::run`. -/
inductive Phase
  | events (fired : List FiredEvent)
  | tasks (batch : List PendingTask)

/-- Where the loop thread is inside a callback. -/
inductive LoopPc
  /-- between two callbacks or tasks -/
  | idle
  /-- in `HandleAccept`, about to call `accept` -/
  | accepting
  /-- accepted `c`, about to call `AddConnection` -/
  | addConnection (c : ConnId) (fd : Fd)
  /-- about to call `AddEvent` for `c` -/
  | addEvent (c : ConnId) (fd : Fd)
  /-- in `HandleRead`, about to call `recv`; `out`: `HandleWrite` comes after it -/
  | reading (c : ConnId) (fd : Fd) (out : Bool)
  /-- about to call `HandleWrite` -/
  | writing (c : ConnId) (fd : Fd)
  /-- the connect failed: `RemoveConnection` was called, three calls are left -/
  | removeEvent (c : ConnId) (fd : Fd)
  | close (c : ConnId) (fd : Fd)
  | clearSocket (c : ConnId) (fd : Fd)
  deriving DecidableEq

/-- The connection whose callback the loop thread is in. -/
def LoopPc.this : LoopPc → Option ConnId
  | .idle | .accepting => none
  | .addConnection c _ | .addEvent c _ | .reading c _ _ | .writing c _ => some c
  | .removeEvent c _ | .close c _ | .clearSocket c _ => some c

/-- Where another thread is that uses a connection. -/
inductive CallerPc
  | idle
  /-- has a pointer to `c` -/
  | holding (c : ConnId)
  /-- in `c`'s `Send`, has read `socket_`, about to queue the data -/
  | sending (c : ConnId) (fd : Fd) (data : Bytes)
  /-- in `HandleAccept` of another loop, accepted `c` for this one, about to call
  `AddConnection` -/
  | accepted (c : ConnId) (fd : Fd)
  /-- about to call `AddEvent` for `c` -/
  | entered (c : ConnId) (fd : Fd)
  /-- about to let go of `c`, which it has accepted -/
  | leaving (c : ConnId)
  deriving DecidableEq

/-- Who holds a `shared_ptr` to a `Connection` beyond a step of the loop thread. -/
inductive Ref (Tid : Type*)
  | mapConn
  | thread (t : Tid)
  deriving DecidableEq

/-- A `NetworkRecv` message on its way to an actor. -/
structure NetworkRecv where
  conn : ConnId
  fd : Fd
  data : Bytes
  deriving DecidableEq

/-- The members of the connection objects are functions of the object; `none` for `socket_` stands
for -1. -/
structure EventLoop (Tid : Type*) where
  /-- the open descriptor numbers -/
  fds : Fd → Option ConnId
  /-- the interest of the numbers registered with epoll -/
  epoll : Fd → Option Interest
  /-- by whom a callback was set -/
  callbacks : Fd → Option ConnId
  mapConn : Fd → Option ConnId
  mapConnRaw : Fd → Option ConnId
  pendingTasks : List PendingTask
  phase : Phase
  loop : LoopPc
  callers : Tid → CallerPc
  mailbox : List NetworkRecv
  /-- the number of objects so far -/
  created : Nat
  kind : ConnId → ConnKind
  stage : ConnId → Stage
  socket : ConnId → Option Fd
  connecting : ConnId → Bool
  /-- each byte with the object it was sent on -/
  outputBuffer : ConnId → List (ConnId × UInt8)
  /-- a `write` failed for good -/
  writeFailed : ConnId → Bool
  refs : ConnId → List (Ref Tid)
  /-- the history of what was written to a socket -/
  written : ConnId → List (ConnId × UInt8)

namespace EventLoop

variable {Tid : Type*}

/-- The tasks in the order in which they will run. -/
def queue (s : EventLoop Tid) : List PendingTask :=
  match s.phase with
  | .events _ => s.pendingTasks
  | .tasks batch => batch ++ s.pendingTasks

def alive (s : EventLoop Tid) (c : ConnId) : Bool := (s.stage c).alive

lemma alive_eq {s : EventLoop Tid} {c : ConnId} {stage : Stage} (h : s.stage c = stage) :
    s.alive c = stage.alive := by
  rw [alive, h]

def setStage (s : EventLoop Tid) (c : ConnId) (stage : Stage) : EventLoop Tid :=
  { s with stage := Function.update s.stage c stage }

def setLoop (s : EventLoop Tid) (pc : LoopPc) : EventLoop Tid := { s with loop := pc }

def setPhase (s : EventLoop Tid) (phase : Phase) : EventLoop Tid := { s with phase }

def setCaller [DecidableEq Tid] (s : EventLoop Tid) (t : Tid) (pc : CallerPc) : EventLoop Tid :=
  { s with callers := Function.update s.callers t pc }

def clearSocket (s : EventLoop Tid) (c : ConnId) : EventLoop Tid :=
  { s with socket := Function.update s.socket c none }

def setOutput (s : EventLoop Tid) (c : ConnId) (bytes : List (ConnId × UInt8)) : EventLoop Tid :=
  { s with outputBuffer := Function.update s.outputBuffer c bytes }

def failWrite (s : EventLoop Tid) (c : ConnId) : EventLoop Tid :=
  { s with writeFailed := Function.update s.writeFailed c true }

def endConnecting (s : EventLoop Tid) (c : ConnId) : EventLoop Tid :=
  { s with connecting := Function.update s.connecting c false }

/-! ### The kernel -/

/-- A new object gets the number `fd` from `socket` or `accept`. -/
def create (s : EventLoop Tid) (fd : Fd) (kind : ConnKind) (stage : Stage) (connecting : Bool) :
    EventLoop Tid :=
  { s with
    fds := Function.update s.fds fd (some s.created)
    created := s.created + 1
    kind := Function.update s.kind s.created kind
    stage := Function.update s.stage s.created stage
    socket := Function.update s.socket s.created (some fd)
    connecting := Function.update s.connecting s.created connecting
    outputBuffer := Function.update s.outputBuffer s.created []
    writeFailed := Function.update s.writeFailed s.created false
    refs := Function.update s.refs s.created [] }

/-- `close` also ends the registration with epoll. -/
def closeFd (s : EventLoop Tid) (fd : Fd) : EventLoop Tid :=
  { s with fds := Function.update s.fds fd none, epoll := Function.update s.epoll fd none }

/-- What `write` does with the bytes it accepts. -/
def writeTo (s : EventLoop Tid) (fd : Fd) (bytes : List (ConnId × UInt8)) : EventLoop Tid :=
  match s.fds fd with
  | none => s
  | some c => { s with written := Function.update s.written c (s.written c ++ bytes) }

/-! ### EventLoop -/

def queueInLoop (s : EventLoop Tid) (task : PendingTask) : EventLoop Tid :=
  { s with pendingTasks := s.pendingTasks ++ [task] }

/-- The body of `AddEvent`. `epoll_ctl` fails for a number that is closed or already registered,
and the exception skips the callback. -/
def addEvent (s : EventLoop Tid) (c : ConnId) (fd : Fd) (events : Interest) : EventLoop Tid :=
  if (s.fds fd).isSome ∧ s.epoll fd = none then
    { s with
      epoll := Function.update s.epoll fd (some events)
      callbacks := Function.update s.callbacks fd (some c) }
  else s

/-- The body of `ModifyEventKeepCallback`. -/
def modifyEventKeepCallback (s : EventLoop Tid) (fd : Fd) (events : Interest) : EventLoop Tid :=
  if (s.callbacks fd).isSome ∧ (s.epoll fd).isSome then
    { s with epoll := Function.update s.epoll fd (some events) }
  else s

/-- The body of `RemoveEvent`. -/
def removeEvent (s : EventLoop Tid) (fd : Fd) : EventLoop Tid :=
  { s with
    epoll := Function.update s.epoll fd none
    callbacks := Function.update s.callbacks fd none }

def getConnection (s : EventLoop Tid) (fd : Fd) : Option ConnId :=
  match s.mapConn fd with
  | some c => some c
  | none => s.mapConnRaw fd

/-- `AddConnection`; `insert` does not replace an entry. -/
def addConnection (s : EventLoop Tid) (c : ConnId) (fd : Fd) : EventLoop Tid :=
  match s.mapConn fd with
  | some _ => s
  | none =>
    { s with
      mapConn := Function.update s.mapConn fd (some c)
      refs := Function.update s.refs c (.mapConn :: s.refs c) }

def addConnectionRaw (s : EventLoop Tid) (c : ConnId) (fd : Fd) : EventLoop Tid :=
  match s.mapConnRaw fd with
  | some _ => s
  | none => { s with mapConnRaw := Function.update s.mapConnRaw fd (some c) }

/-- `~Connection` closes the socket. -/
def destroyConnection (s : EventLoop Tid) (c : ConnId) : EventLoop Tid :=
  match s.socket c with
  | none => s.setStage c .destroyed
  | some fd => (s.closeFd fd).setStage c .destroyed

variable [DecidableEq Tid]

/-- A `shared_ptr` to `c` goes away; the last one destroys a `Connection`. Those made of a raw
pointer have an empty deleter. -/
def dropRef (s : EventLoop Tid) (c : ConnId) (r : Ref Tid) : EventLoop Tid :=
  let s' := { s with refs := Function.update s.refs c ((s.refs c).erase r) }
  if (s.refs c).erase r = [] ∧ s.kind c = .connection then s'.destroyConnection c else s'

/-- The task that `RemoveConnection` queues. -/
def removeConnection (s : EventLoop Tid) (fd : Fd) : EventLoop Tid :=
  let s' := { s.removeEvent fd with
    mapConn := Function.update s.mapConn fd none
    mapConnRaw := Function.update s.mapConnRaw fd none }
  match s.mapConn fd with
  | none => s'
  | some c => s'.dropRef c .mapConn

end EventLoop

/-! ### Writing -/

/-- The results of `write`; a count is positive and at most what was asked for. -/
inductive WriteResult
  | wrote (n : Nat) | zero | eintr | eagain | error
  deriving DecidableEq

/-- Why a loop of `write` calls ends. -/
inductive WriteEnd
  | all | zero | eagain | error
  deriving DecidableEq

/-- The loop of `write` calls for `len` bytes: how many were written, and why it ended. -/
def writeLoop : Nat → List WriteResult → Option (Nat × WriteEnd)
  | len, [] => if len = 0 then some (0, .all) else none
  | len, r :: rs =>
    if len = 0 then none else
    match r with
    | .wrote n =>
      if 0 < n ∧ n ≤ len then (writeLoop (len - n) rs).map fun p => (n + p.1, p.2) else none
    | .eintr => writeLoop len rs
    | .zero => if rs = [] then some (0, .zero) else none
    | .eagain => if rs = [] then some (0, .eagain) else none
    | .error => if rs = [] then some (0, .error) else none

namespace EventLoop

variable {Tid : Type*}

/-- The bytes of `data`, sent on `c`. -/
def sentOn (c : ConnId) (data : Bytes) : List (ConnId × UInt8) := data.map (c, ·)

/-- What `sendInLoop` does with the bytes it did not write. -/
def appendOutput (s : EventLoop Tid) (c : ConnId) (fd : Fd) (rest : List (ConnId × UInt8)) :
    EventLoop Tid :=
  if rest = [] then s
  else (s.setOutput c (s.outputBuffer c ++ rest)).modifyEventKeepCallback fd .rw

/-- `connecting_`, which only a connector has. -/
def isConnecting (s : EventLoop Tid) (c : ConnId) : Bool :=
  s.kind c = .connector && s.connecting c

def canWriteDirectly (s : EventLoop Tid) (c : ConnId) : Bool := !s.isConnecting c

/-- `sendInLoop` of `c`, for bytes that were sent on `origin`. -/
def sendInLoop (s : EventLoop Tid) (c : ConnId) (fd : Fd) (origin : ConnId) (data : Bytes)
    (rs : List WriteResult) : Option (EventLoop Tid) :=
  if s.outputBuffer c = [] ∧ s.canWriteDirectly c then
    (writeLoop data.length rs).map fun p =>
      let s' := s.writeTo fd (sentOn origin (data.take p.1))
      if p.2 = .error then s'.failWrite c
      else s'.appendOutput c fd (sentOn origin (data.drop p.1))
  else if rs = [] then some (s.appendOutput c fd (sentOn origin data))
  else none

/-- `ConnectionBase::HandleWrite`. -/
def handleWrite (s : EventLoop Tid) (c : ConnId) (fd : Fd) (rs : List WriteResult) :
    Option (EventLoop Tid) :=
  (writeLoop (s.outputBuffer c).length rs).map fun p =>
    let s' := (s.writeTo fd ((s.outputBuffer c).take p.1)).setOutput c
      ((s.outputBuffer c).drop p.1)
    match p.2 with
    | .eagain => s'.modifyEventKeepCallback fd .rw
    | .error => s'.failWrite c
    | .all | .zero => s'.modifyEventKeepCallback fd .r

/-- `Connector::HandleWrite` when the connect has succeeded. -/
def handleConnected (s : EventLoop Tid) (c : ConnId) (fd : Fd) : EventLoop Tid :=
  (s.endConnecting c).modifyEventKeepCallback fd (if s.outputBuffer c = [] then .r else .rw)

/-! ### The loop thread -/

/-- The results of `recv`. -/
inductive RecvResult
  | data (bytes : Bytes) | eof | eagain | error
  deriving DecidableEq

/-- What the callback of a fired event comes to. An acceptor ignores reads and writes, a connection
ignores `HandleAccept`, and a connector that is still connecting ignores `HandleRead`. -/
def callback (s : EventLoop Tid) (e : FiredEvent) : LoopPc :=
  match s.callbacks e.fd, s.getConnection e.fd with
  | some o, some c =>
    if s.alive c then
      match s.kind o, s.kind c with
      | .acceptor, .acceptor => if e.epollin then .accepting else .idle
      | .acceptor, _ | _, .acceptor => .idle
      | _, _ =>
        if e.epollin ∧ ¬ s.isConnecting c then .reading c e.fd e.epollout
        else if e.epollout then .writing c e.fd
        else .idle
    else .idle
  | _, _ => .idle

/-- After `HandleRead` has returned. -/
def afterRead (c : ConnId) (fd : Fd) (out : Bool) : LoopPc := if out then .writing c fd else .idle

/-- The answer of `recv` in `HandleRead`. -/
def handleRead (s : EventLoop Tid) (c : ConnId) (fd : Fd) (out : Bool) :
    RecvResult → EventLoop Tid
  | .data bytes => { s with mailbox := s.mailbox ++ [{ conn := c, fd, data := bytes }] }
  | .eof => (s.queueInLoop (.removeConnection c fd)).setLoop (afterRead c fd out)
  | .eagain | .error => s.setLoop (afterRead c fd out)

/-- `Connector::HandleWrite` when the connect has failed, up to its call of `RemoveConnection`. -/
def handleConnectFailed (s : EventLoop Tid) (c : ConnId) (fd : Fd) : EventLoop Tid :=
  ((s.endConnecting c).queueInLoop (.removeConnection c fd)).setLoop (.removeEvent c fd)

variable [DecidableEq Tid]

/-- A pending task, already taken from the batch; a task that sends waits for answers of
`write`. -/
def runTask (s : EventLoop Tid) : PendingTask → Option (EventLoop Tid)
  | .addEvent c fd events => some (s.addEvent c fd events)
  | .modifyEventKeepCallback fd events => some (s.modifyEventKeepCallback fd events)
  | .removeConnection _ fd => some (s.removeConnection fd)
  | .send _ _ _ => none

/-- The task of a `Send`: look the number up again and send on what is found there. -/
def runSend (s : EventLoop Tid) (origin : ConnId) (fd : Fd) (data : Bytes)
    (rs : List WriteResult) : Option (EventLoop Tid) :=
  match s.getConnection fd with
  | none => if rs = [] then some s else none
  | some c =>
    if s.alive c ∧ s.kind c ≠ .acceptor then
      match s.socket c with
      | none => if rs = [] then some s else none
      | some f => s.sendInLoop c f origin data rs
    else if rs = [] then some s else none

/-- A step of the loop thread that needs no answer from the kernel. -/
def loopNext (s : EventLoop Tid) : Option (EventLoop Tid) :=
  match s.loop with
  | .idle =>
    match s.phase with
    | .events [] => some { s with phase := .tasks s.pendingTasks, pendingTasks := [] }
    | .events (e :: rest) => some ((s.setPhase (.events rest)).setLoop (s.callback e))
    | .tasks [] => none
    | .tasks (task :: rest) => (s.setPhase (.tasks rest)).runTask task
  | .addConnection c fd => some ((s.addConnection c fd).setLoop (.addEvent c fd))
  | .addEvent c fd =>
    -- the exception of a failed `epoll_ctl` would leave `HandleAccept`
    some ((s.addEvent c fd .r).setLoop
      (if (s.fds fd).isSome ∧ s.epoll fd = none then .accepting else .idle))
  | .removeEvent c fd => some ((s.removeEvent fd).setLoop (.close c fd))
  | .close c fd =>
    match s.socket c with
    | none => some (s.setLoop (.clearSocket c fd))
    | some f => some ((s.closeFd f).setLoop (.clearSocket c fd))
  | .clearSocket c _ => some ((s.clearSocket c).setLoop .idle)
  | .accepting | .reading _ _ _ | .writing _ _ => none

/-- A step of the loop thread that calls `write`. -/
def writeNext (s : EventLoop Tid) (rs : List WriteResult) : Option (EventLoop Tid) :=
  match s.loop, s.phase with
  | .writing c fd, _ =>
    if s.isConnecting c then none
    else (s.handleWrite c fd rs).map fun s' => s'.setLoop .idle
  | .idle, .tasks (.send c fd data :: rest) => (s.setPhase (.tasks rest)).runSend c fd data rs
  | _, _ => none

/-! ### The other threads -/

/-- The next step of the constructor of a connector or an acceptor. -/
def construct (s : EventLoop Tid) (c : ConnId) : Option (EventLoop Tid) :=
  match s.stage c, s.socket c, s.kind c with
  | .addEvent, some fd, .acceptor =>
    some ((s.queueInLoop (.addEvent c fd .r)).setStage c .ready)
  | .addEvent, some fd, _ =>
    some ((s.queueInLoop (.addEvent c fd .rw)).setStage c .addConnectionRaw)
  | .addConnectionRaw, some fd, .acceptor =>
    some ((s.addConnectionRaw c fd).setStage c .addEvent)
  | .addConnectionRaw, some fd, _ =>
    some ((s.addConnectionRaw c fd).setStage c .notifyConnected)
  | .notifyConnected, _, _ =>
    some (s.setStage c (if s.connecting c then .ready else .modifyEvent))
  | .modifyEvent, some fd, _ =>
    some ((s.queueInLoop (.modifyEventKeepCallback fd .r)).setStage c .ready)
  | .modifyEvent, none, _ => some (s.setStage c .ready)
  | _, _, _ => none

/-- `~Connector` up to its call of `RemoveConnection`. -/
def destroy (s : EventLoop Tid) (c : ConnId) : Option (EventLoop Tid) :=
  if s.kind c = .connector ∧ s.stage c = .ready ∧ s.loop.this ≠ some c then
    match s.socket c with
    | none => some (s.setStage c .destroyed)
    | some fd => some ((s.queueInLoop (.removeConnection c fd)).setStage c .close)
  else none

/-- The rest of `~Connector`. -/
def destruct (s : EventLoop Tid) (c : ConnId) : Option (EventLoop Tid) :=
  match s.stage c, s.socket c with
  | .close, some fd => some ((s.closeFd fd).setStage c .clearSocket)
  | .clearSocket, _ => some ((s.clearSocket c).setStage c .destroyed)
  | _, _ => none

/-- `GetConnection` in another thread, which then holds the pointer. -/
def acquire (s : EventLoop Tid) (t : Tid) (fd : Fd) : EventLoop Tid :=
  match s.getConnection fd with
  | none => s
  | some c =>
    if s.alive c then
      { s with
        callers := Function.update s.callers t (.holding c)
        refs := Function.update s.refs c (.thread t :: s.refs c) }
    else s

/-- `Send` outside the loop thread, up to reading `socket_`. -/
def beginSend (s : EventLoop Tid) (t : Tid) (c : ConnId) (data : Bytes) : EventLoop Tid :=
  match s.socket c with
  | none => s
  | some fd =>
    if s.alive c ∧ s.kind c ≠ .acceptor ∧ data ≠ [] then s.setCaller t (.sending c fd data) else s

/-- A thread lets go of its pointer. -/
def release (s : EventLoop Tid) (t : Tid) (c : ConnId) : EventLoop Tid :=
  (s.setCaller t .idle).dropRef c (.thread t)

/-- The acceptor of another loop gets a connection from `accept` and gives it to this loop; its
thread has the first pointer to it. -/
def acceptFor (s : EventLoop Tid) (t : Tid) (fd : Fd) : EventLoop Tid :=
  let s' := s.create fd .connection .ready false
  { s' with
    refs := Function.update s'.refs s.created [.thread t]
    callers := Function.update s.callers t (.accepted s.created fd) }

/-- The rest of `HandleAccept` for such a connection, in the thread of the other loop, where
`AddEvent` is queued. -/
def enter (s : EventLoop Tid) (t : Tid) : Option (EventLoop Tid) :=
  match s.callers t with
  | .accepted c fd => some ((s.addConnection c fd).setCaller t (.entered c fd))
  | .entered c fd => some ((s.queueInLoop (.addEvent c fd .r)).setCaller t (.leaving c))
  | _ => none

/-- An actor handles a message; `ClusterGatewayActor` calls `RemoveConnection` on a protocol
error. -/
def handleMessage (s : EventLoop Tid) (msg : NetworkRecv) (error : Bool) : EventLoop Tid :=
  let s' := { s with mailbox := s.mailbox.erase msg }
  if error then s'.queueInLoop (.removeConnection msg.conn msg.fd) else s'

/-! ### All threads together -/

inductive Action (Tid : Type*)
  /-- `socket` and `connect` of a connector's constructor; other outcomes leave no object -/
  | connect (fd : Fd) (connecting : Bool)
  /-- `socket`, `bind` and `listen` of an acceptor's constructor -/
  | listen (fd : Fd)
  | construct (c : ConnId)
  | destroy (c : ConnId)
  | destruct (c : ConnId)
  | getConnection (t : Tid) (fd : Fd)
  /-- the owner of a connector takes its pointer -/
  | hold (t : Tid) (c : ConnId)
  | send (t : Tid) (data : Bytes)
  | queue (t : Tid)
  | release (t : Tid)
  /-- the acceptor of another loop accepts a connection for this one -/
  | acceptFor (t : Tid) (fd : Fd)
  | enter (t : Tid)
  | handle (msg : NetworkRecv) (error : Bool)
  | wait (fired : List FiredEvent)
  | loop
  | accept (fd : Option Fd)
  | recv (r : RecvResult)
  /-- the outcome of a connect, as `getsockopt` reports it -/
  | connected (ok : Bool)
  | write (rs : List WriteResult)

/-- What `epoll_wait` may report: numbers that are registered, and only what is of interest. -/
def mayFire (s : EventLoop Tid) (e : FiredEvent) : Bool :=
  match s.epoll e.fd with
  | none => false
  | some events => !e.epollout || events = .rw

def next (s : EventLoop Tid) : Action Tid → Option (EventLoop Tid)
  | .connect fd connecting =>
    if s.fds fd = none then some (s.create fd .connector .addEvent connecting) else none
  | .listen fd =>
    if s.fds fd = none then some (s.create fd .acceptor .addConnectionRaw false) else none
  | .construct c => s.construct c
  | .destroy c => s.destroy c
  | .destruct c => s.destruct c
  | .getConnection t fd => if s.callers t = .idle then some (s.acquire t fd) else none
  | .hold t c =>
    if s.callers t = .idle ∧ s.kind c = .connector ∧ s.stage c = .ready then
      some (s.setCaller t (.holding c))
    else none
  | .send t data =>
    match s.callers t with
    | .holding c => some (s.beginSend t c data)
    | _ => none
  | .queue t =>
    match s.callers t with
    | .sending c fd data => some ((s.queueInLoop (.send c fd data)).setCaller t (.holding c))
    | _ => none
  | .release t =>
    match s.callers t with
    | .holding c | .leaving c => some (s.release t c)
    | _ => none
  | .acceptFor t fd =>
    if s.callers t = .idle ∧ s.fds fd = none then some (s.acceptFor t fd) else none
  | .enter t => s.enter t
  | .handle msg error =>
    if msg ∈ s.mailbox then
      some (s.handleMessage msg error)
    else none
  | .wait fired =>
    match s.loop, s.phase with
    | .idle, .tasks [] => if fired.all s.mayFire then some (s.setPhase (.events fired)) else none
    | _, _ => none
  | .loop => s.loopNext
  | .accept fd =>
    match s.loop, fd with
    | .accepting, none => some (s.setLoop .idle)
    | .accepting, some fd =>
      if s.fds fd = none then
        some ((s.create fd .connection .ready false).setLoop (.addConnection s.created fd))
      else none
    | _, _ => none
  | .recv r =>
    match s.loop with
    | .reading c fd out => some (s.handleRead c fd out r)
    | _ => none
  | .connected ok =>
    match s.loop with
    | .writing c fd =>
      if s.isConnecting c then
        some (if ok then (s.handleConnected c fd).setLoop .idle
          else s.handleConnectFailed c fd)
      else none
    | _ => none
  | .write rs => s.writeNext rs

/-- A loop just created: nothing is open, and it is about to call `epoll_wait`. -/
def start (Tid : Type*) : EventLoop Tid where
  fds := fun _ => none
  epoll := fun _ => none
  callbacks := fun _ => none
  mapConn := fun _ => none
  mapConnRaw := fun _ => none
  pendingTasks := []
  phase := .tasks []
  loop := .idle
  callers := fun _ => .idle
  mailbox := []
  created := 0
  kind := fun _ => .connection
  stage := fun _ => .destroyed
  socket := fun _ => none
  connecting := fun _ => false
  outputBuffer := fun _ => []
  writeFailed := fun _ => false
  refs := fun _ => []
  written := fun _ => []

/-- The event loop and its users as a machine. -/
def machine (Tid : Type*) [DecidableEq Tid] : Machine (EventLoop Tid) (Action Tid) where
  init := fun s => s = start Tid
  next := next

lemma reach_start {ok : EventLoop Tid → Action Tid → Prop} : (machine Tid).Reach ok (start Tid) :=
  .start rfl

end EventLoop

end Balabala
