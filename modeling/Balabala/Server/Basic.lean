import Balabala.Net.Basic
import Balabala.Net.Lifecycle

/-!
# The server and its reactors

`TcpServer` with the main loop, whose thread runs the acceptor, and any number of sub reactors, to
which `HandleAccept` deals out the connections. `ActorSystem` has one table for the actor and one
for the loop of a descriptor number, which the threads of all loops write. `EchoServerActor` sends
back what it receives: it finds the loop of the number, then the connection in that loop, and queues
a task there, which looks the number up again.

The kernel gives out any number that is not open. A connection is closed when the last `shared_ptr`
to it goes away: those in `mapConn_`, in `HandleAccept`, in a callback and in `SendToNetwork`.

A step is one critical section or one system call, except where only the thread of the loop can
look: it alone touches `callbacks_`, its epoll set and the output buffers. `ActorSystem` processes
the messages of an actor one at a time in the order they were sent, so that the workers are one
thread here. Letters and tasks carry the connection they come from, which the code does not look at.
The listening socket, which stays open, has no entry in the tables here.
-/

namespace Balabala

open Foundation

/-- The main loop, or an element of `loops_` of the thread pool. -/
inductive LoopId
  | main
  | sub (i : Nat)
  deriving DecidableEq

namespace TcpServer

/-- What was done last for a connection. -/
inductive Life
  | accepted | mapped | bound | announced | queued | serving | closing | unbound | leaving | removed
  deriving DecidableEq

/-- A message for the actor of the server. -/
structure Letter where
  msg : ActorMessage
  origin : ConnId
  deriving DecidableEq

/-- What is queued with `QueueInLoop`. -/
inductive Task
  | addEvent (c : ConnId) (fd : Fd)
  | removeConnection (c : ConnId) (fd : Fd)
  | send (origin : ConnId) (fd : Fd) (data : Bytes)
  deriving DecidableEq

/-- The two halves of an iteration of `EventLoop::run`. -/
inductive Phase
  | events (fired : List FiredEvent)
  | tasks (batch : List Task)
  deriving DecidableEq

/-- Where the thread of a loop is. The places are named after what comes next. -/
inductive LoopPc
  | idle
  /-- in `HandleAccept` -/
  | accepting
  | addConnection (c : ConnId)
  | bindFdToActor (c : ConnId)
  | sendConnected (c : ConnId)
  | addEvent (c : ConnId)
  /-- in `HandleRead`, about to call `recv`; `out`: `HandleWrite` comes after it -/
  | reading (c : ConnId) (out : Bool)
  /-- in `SendByFd`, about to call `GetActorIdByFd` -/
  | sendByFd (c : ConnId) (out : Bool) (msg : ActorMessage)
  | send (c : ConnId) (out : Bool) (msg : ActorMessage) (actorId : ActorId)
  | unbindFd (c : ConnId) (out : Bool)
  | removeConnection (c : ConnId) (out : Bool)
  | writing (c : ConnId)
  deriving DecidableEq

/-- Where the worker is that runs the handler of the actor, in `SendToNetwork`. -/
inductive WorkerPc
  | idle
  | getEventLoopByFd (m : Letter)
  | getConnection (m : Letter) (l : LoopId)
  | send (m : Letter) (c : ConnId)
  | release (c : ConnId)
  deriving DecidableEq

/-- The connection a thread has a `shared_ptr` to. -/
def LoopPc.conn : LoopPc → Option ConnId
  | .idle | .accepting => none
  | .addConnection c | .bindFdToActor c | .sendConnected c | .addEvent c => some c
  | .reading c _ | .sendByFd c _ _ | .send c _ _ _ => some c
  | .unbindFd c _ | .removeConnection c _ | .writing c => some c

def WorkerPc.conn : WorkerPc → Option ConnId
  | .idle | .getEventLoopByFd _ | .getConnection _ _ => none
  | .send _ c | .release c => some c

end TcpServer

/-- `home` is `loop_`. The last five fields are history. -/
structure TcpServer where
  serverActorId : ActorId
  /-- `loops_.size()` -/
  subReactors : Nat
  /-- `next_` of the thread pool -/
  nextLoop : UInt64
  /-- the number of connections so far -/
  accepted : Nat
  /-- the open descriptor numbers -/
  fds : Fd → Option ConnId
  epoll : LoopId × Fd → Option Interest
  callbacks : LoopId × Fd → Bool
  mapConn : LoopId × Fd → Option ConnId
  pendingTasks : LoopId → List TcpServer.Task
  phase : LoopId → TcpServer.Phase
  loop : LoopId → TcpServer.LoopPc
  fdToActor : Fd → Option ActorId
  fdToLoop : Fd → Option LoopId
  mailbox : List TcpServer.Letter
  worker : TcpServer.WorkerPc
  socket : ConnId → Fd
  home : ConnId → LoopId
  outputBuffer : ConnId → Bytes
  /-- a `write` failed for good -/
  writeFailed : ConnId → Bool
  life : ConnId → TcpServer.Life
  received : ConnId → List Bytes
  /-- the messages that `sendInLoop` was called with, each with the connection it comes from -/
  ran : ConnId → List (ConnId × Bytes)
  written : ConnId → Bytes
  /-- all messages sent to the actor -/
  sent : List TcpServer.Letter

namespace TcpServer

/-- The tasks of a loop in the order in which they will run. -/
def queue (s : TcpServer) (l : LoopId) : List Task :=
  match s.phase l with
  | .events _ => s.pendingTasks l
  | .tasks batch => batch ++ s.pendingTasks l

def setLoop (s : TcpServer) (l : LoopId) (pc : LoopPc) : TcpServer :=
  { s with loop := Function.update s.loop l pc }

@[simp] lemma loop_setLoop (s : TcpServer) (l : LoopId) (pc : LoopPc) :
    (s.setLoop l pc).loop l = pc := Function.update_self ..

lemma loop_setLoop_of_ne (s : TcpServer) {l l' : LoopId} (h : l' ≠ l) (pc : LoopPc) :
    (s.setLoop l pc).loop l' = s.loop l' := Function.update_of_ne h ..

def setPhase (s : TcpServer) (l : LoopId) (phase : Phase) : TcpServer :=
  { s with phase := Function.update s.phase l phase }

def setWorker (s : TcpServer) (pc : WorkerPc) : TcpServer := { s with worker := pc }

def setLife (s : TcpServer) (c : ConnId) (life : Life) : TcpServer :=
  { s with life := Function.update s.life c life }

/-! ### Descriptor numbers -/

/-- Somebody has a `shared_ptr` to the connection. -/
def owned (s : TcpServer) (c : ConnId) : Bool :=
  s.mapConn (s.home c, s.socket c) = some c || (s.loop (s.home c)).conn = some c ||
    (s.loop .main).conn = some c || s.worker.conn = some c

/-- `close` also ends the registrations with epoll. -/
def closeFd (s : TcpServer) (fd : Fd) : TcpServer :=
  { s with
    fds := Function.update s.fds fd none
    epoll := fun k => if k.2 = fd then none else s.epoll k }

/-- A `shared_ptr` has gone away; with the last one the connection is closed. -/
def release (s : TcpServer) (c : ConnId) : TcpServer :=
  if s.owned c then s else s.closeFd (s.socket c)

/-! ### ActorSystem -/

def getActorIdByFd (s : TcpServer) (fd : Fd) : ActorId := (s.fdToActor fd).getD 0

/-- A number without an entry is one of the main loop. -/
def getEventLoopByFd (s : TcpServer) (fd : Fd) : LoopId := (s.fdToLoop fd).getD .main

/-- `Send`: no other actor is registered. -/
def send (s : TcpServer) (actorId : ActorId) (m : Letter) : TcpServer :=
  if actorId = s.serverActorId then { s with mailbox := s.mailbox ++ [m], sent := s.sent ++ [m] }
  else s

/-! ### EventLoop -/

def queueInLoop (s : TcpServer) (l : LoopId) (task : Task) : TcpServer :=
  { s with pendingTasks := Function.update s.pendingTasks l (s.pendingTasks l ++ [task]) }

lemma pendingTasks_queueInLoop (s : TcpServer) (l : LoopId) (task : Task) (l' : LoopId) :
    (s.queueInLoop l task).pendingTasks l' =
      s.pendingTasks l' ++ if l' = l then [task] else [] := by
  by_cases h : l' = l
  · subst h
    simp [queueInLoop]
  · simp [queueInLoop, h]

/-- `epoll_ctl` fails for a number that is closed or already registered. -/
def canAdd (s : TcpServer) (l : LoopId) (fd : Fd) : Prop :=
  (s.fds fd).isSome ∧ s.epoll (l, fd) = none

instance (s : TcpServer) (l : LoopId) (fd : Fd) : Decidable (s.canAdd l fd) :=
  inferInstanceAs (Decidable (_ ∧ _))

/-- The body of `AddEvent`; the exception of `epoll_ctl` skips the callback. -/
def addEvent (s : TcpServer) (l : LoopId) (c : ConnId) (fd : Fd) : TcpServer :=
  if s.canAdd l fd then
    { s with
      epoll := Function.update s.epoll (l, fd) (some .r)
      callbacks := Function.update s.callbacks (l, fd) true
      life := Function.update s.life c .serving }
  else s

/-- The body of `ModifyEventKeepCallback`. -/
def modifyEventKeepCallback (s : TcpServer) (l : LoopId) (fd : Fd) (events : Interest) :
    TcpServer :=
  if s.callbacks (l, fd) = true ∧ (s.epoll (l, fd)).isSome then
    { s with epoll := Function.update s.epoll (l, fd) (some events) }
  else s

/-- The task that `RemoveConnection` queues. -/
def removeConnection (s : TcpServer) (l : LoopId) (fd : Fd) : TcpServer :=
  let s' := { s with
    epoll := Function.update s.epoll (l, fd) none
    callbacks := Function.update s.callbacks (l, fd) false
    mapConn := Function.update s.mapConn (l, fd) none }
  match s.mapConn (l, fd) with
  | none => s'
  | some c => (s'.setLife c .removed).release c

/-! ### HandleAccept -/

/-- `GetNextLoop`; without a thread pool the acceptor keeps to its own loop. -/
def targetLoop (s : TcpServer) : LoopId :=
  if s.subReactors = 0 then .main else .sub (s.nextLoop.toNat % s.subReactors)

/-- `accept` returns a number, and the connection is constructed. -/
def handleAccept (s : TcpServer) (l : LoopId) (fd : Fd) : TcpServer :=
  { s with
    nextLoop := if s.subReactors = 0 then s.nextLoop else s.nextLoop + 1
    accepted := s.accepted + 1
    fds := Function.update s.fds fd (some s.accepted)
    socket := Function.update s.socket s.accepted fd
    home := Function.update s.home s.accepted s.targetLoop
    life := Function.update s.life s.accepted .accepted
    loop := Function.update s.loop l (.addConnection s.accepted) }

/-- `insert` does not overwrite. -/
def addConnection (s : TcpServer) (l : LoopId) (c : ConnId) : TcpServer :=
  { s with
    mapConn := if s.mapConn (s.home c, s.socket c) = none then
      Function.update s.mapConn (s.home c, s.socket c) (some c) else s.mapConn
    life := Function.update s.life c .mapped
    loop := Function.update s.loop l (.bindFdToActor c) }

def bindFdToActor (s : TcpServer) (l : LoopId) (c : ConnId) : TcpServer :=
  { s with
    fdToActor := Function.update s.fdToActor (s.socket c) (some s.serverActorId)
    fdToLoop := Function.update s.fdToLoop (s.socket c) (some (s.home c))
    life := Function.update s.life c .bound
    loop := Function.update s.loop l (.sendConnected c) }

def sendConnected (s : TcpServer) (l : LoopId) (c : ConnId) : TcpServer :=
  ((s.send s.serverActorId ⟨AcceptedConnection.notice .connected (s.socket c), c⟩).setLife c
    .announced).setLoop l (.addEvent c)

/-- `RunInLoop` of `AddEvent`, and the end of the iteration. -/
def finishAccept (s : TcpServer) (l : LoopId) (c : ConnId) : TcpServer :=
  if s.home c = l then
    -- the exception of a failed `epoll_ctl` would leave `HandleAccept`
    ((s.addEvent l c (s.socket c)).setLoop l
      (if s.canAdd l (s.socket c) then .accepting else .idle)).release c
  else
    (((s.queueInLoop (s.home c) (.addEvent c (s.socket c))).setLife c .queued).setLoop l
      .accepting).release c

/-! ### HandleRead -/

/-- `HandleRead` has returned. -/
def afterRead (s : TcpServer) (l : LoopId) (c : ConnId) (out : Bool) : TcpServer :=
  if out then s.setLoop l (.writing c) else (s.setLoop l .idle).release c

/-- What `HandleRead` makes of a result of `recv`. -/
def handleRead (s : TcpServer) (l : LoopId) (c : ConnId) (out : Bool) : RecvResult → TcpServer
  | .data bytes =>
    { s with received := Function.update s.received c (s.received c ++ [bytes]) }.setLoop l
      (.sendByFd c out (.make .networkRecv 0 (s.socket c) bytes))
  | .eintr => s
  | .eagain | .error => s.afterRead l c out
  | .eof =>
    (s.setLife c .closing).setLoop l
      (.sendByFd c out (AcceptedConnection.notice .disconnected (s.socket c)))

/-- What follows `SendByFd`. -/
def afterSend (c : ConnId) (out : Bool) (msg : ActorMessage) : LoopPc :=
  if msg.type = .disconnected then .unbindFd c out else .reading c out

def unbindFd (s : TcpServer) (l : LoopId) (c : ConnId) (out : Bool) : TcpServer :=
  { s with
    fdToActor := Function.update s.fdToActor (s.socket c) none
    fdToLoop := Function.update s.fdToLoop (s.socket c) none
    life := Function.update s.life c .unbound
    loop := Function.update s.loop l (.removeConnection c out) }

/-- The call of `RemoveConnection`. -/
def requestRemoval (s : TcpServer) (l : LoopId) (c : ConnId) (out : Bool) : TcpServer :=
  ((s.queueInLoop l (.removeConnection c (s.socket c))).setLife c .leaving).afterRead l c out

/-! ### Writing -/

/-- What `write` does with the bytes it accepts. -/
def writeTo (s : TcpServer) (fd : Fd) (bytes : Bytes) : TcpServer :=
  match s.fds fd with
  | none => s
  | some c => { s with written := Function.update s.written c (s.written c ++ bytes) }

def setOutput (s : TcpServer) (c : ConnId) (bytes : Bytes) : TcpServer :=
  { s with outputBuffer := Function.update s.outputBuffer c bytes }

def failWrite (s : TcpServer) (c : ConnId) : TcpServer :=
  { s with writeFailed := Function.update s.writeFailed c true }

/-- What `sendInLoop` does with the bytes it did not write. -/
def appendOutput (s : TcpServer) (c : ConnId) (rest : Bytes) : TcpServer :=
  if rest = [] then s
  else (s.setOutput c (s.outputBuffer c ++ rest)).modifyEventKeepCallback (s.home c) (s.socket c)
    .rw

def sendInLoop (s : TcpServer) (c : ConnId) (data : Bytes) (rs : List WriteResult) :
    Option TcpServer :=
  if s.outputBuffer c = [] then
    (writeLoop data.length rs).map fun p =>
      let s' := s.writeTo (s.socket c) (data.take p.1)
      if p.2 = .error then s'.failWrite c else s'.appendOutput c (data.drop p.1)
  else if rs = [] then some (s.appendOutput c data)
  else none

def handleWrite (s : TcpServer) (c : ConnId) (rs : List WriteResult) : Option TcpServer :=
  (writeLoop (s.outputBuffer c).length rs).map fun p =>
    let s' := (s.writeTo (s.socket c) ((s.outputBuffer c).take p.1)).setOutput c
      ((s.outputBuffer c).drop p.1)
    match p.2 with
    | .eagain => s'.modifyEventKeepCallback (s.home c) (s.socket c) .rw
    | .error => s'.failWrite c
    | .all | .zero => s'.modifyEventKeepCallback (s.home c) (s.socket c) .r

/-- `Send` returns at once without data or without a socket. -/
def sendable (s : TcpServer) (c : ConnId) (data : Bytes) : Prop := data ≠ [] ∧ 0 ≤ s.socket c

instance (s : TcpServer) (c : ConnId) (data : Bytes) : Decidable (s.sendable c data) :=
  inferInstanceAs (Decidable (_ ∧ _))

/-- The task of a `Send` in another thread: look the number up again and send on what is found. -/
def runSend (s : TcpServer) (l : LoopId) (origin : ConnId) (fd : Fd) (data : Bytes)
    (rs : List WriteResult) : Option TcpServer :=
  match s.mapConn (l, fd) with
  | none => if rs = [] then some s else none
  | some c =>
    if s.sendable c data then
      { s with ran := Function.update s.ran c (s.ran c ++ [(origin, data)]) }.sendInLoop c data rs
    else if rs = [] then some s
    else none

/-! ### The threads -/

/-- What the callback of a fired event comes to. -/
def callback (s : TcpServer) (l : LoopId) (e : FiredEvent) : LoopPc :=
  if s.callbacks (l, e.fd) then
    match s.mapConn (l, e.fd) with
    | none => .idle
    | some c =>
      if e.epollin then .reading c e.epollout else if e.epollout then .writing c else .idle
  else .idle

/-- A step of the thread of a loop that needs no answer from the kernel. -/
def loopNext (s : TcpServer) (l : LoopId) : Option TcpServer :=
  match s.loop l with
  | .idle =>
    match s.phase l with
    | .events (e :: rest) => some ((s.setPhase l (.events rest)).setLoop l (s.callback l e))
    | .events [] =>
      some { s.setPhase l (.tasks (s.pendingTasks l)) with
        pendingTasks := Function.update s.pendingTasks l [] }
    | .tasks (.addEvent c fd :: rest) => some ((s.setPhase l (.tasks rest)).addEvent l c fd)
    | .tasks (.removeConnection _ fd :: rest) =>
      some ((s.setPhase l (.tasks rest)).removeConnection l fd)
    | .tasks (.send _ _ _ :: _) | .tasks [] => none
  | .addConnection c => some (s.addConnection l c)
  | .bindFdToActor c => some (s.bindFdToActor l c)
  | .sendConnected c => some (s.sendConnected l c)
  | .addEvent c => some (s.finishAccept l c)
  | .sendByFd c out msg =>
    let actorId := s.getActorIdByFd (s.socket c)
    some (s.setLoop l (if 0 < actorId then .send c out msg actorId else afterSend c out msg))
  | .send c out msg actorId => some ((s.send actorId ⟨msg, c⟩).setLoop l (afterSend c out msg))
  | .unbindFd c out => some (s.unbindFd l c out)
  | .removeConnection c out => some (s.requestRemoval l c out)
  | .accepting | .reading _ _ | .writing _ => none

/-- A step of the thread of a loop that calls `write`. -/
def writeNext (s : TcpServer) (l : LoopId) (rs : List WriteResult) : Option TcpServer :=
  match s.loop l, s.phase l with
  | .writing c, _ => (s.handleWrite c rs).map fun s' => (s'.setLoop l .idle).release c
  | .idle, .tasks (.send origin fd data :: rest) =>
    (s.setPhase l (.tasks rest)).runSend l origin fd data rs
  | _, _ => none

/-- A worker takes a message for `OnCoroutineMessage`, which only answers `NetworkRecv`. -/
def pop (s : TcpServer) : Option TcpServer :=
  match s.worker, s.mailbox with
  | .idle, m :: rest =>
    some { s with
      mailbox := rest
      worker := if m.msg.type = .networkRecv then .getEventLoopByFd m else .idle }
  | _, _ => none

/-- A step of `SendToNetwork`. -/
def workerNext (s : TcpServer) : Option TcpServer :=
  match s.worker with
  | .idle => none
  | .getEventLoopByFd m =>
    some (s.setWorker (.getConnection m (s.getEventLoopByFd m.msg.fd)))
  | .getConnection m l =>
    match s.mapConn (l, m.msg.fd) with
    | none => some (s.setWorker .idle)
    | some c => some (s.setWorker (.send m c))
  | .send m c =>
    if s.sendable c m.msg.dataBytes then
      some ((s.queueInLoop (s.home c) (.send m.origin (s.socket c) m.msg.dataBytes)).setWorker
        (.release c))
    else some (s.setWorker (.release c))
  | .release c => some ((s.setWorker .idle).release c)

inductive Action
  /-- the listening socket is readable -/
  | listen
  | accept (fd : Option Fd)
  | wait (l : LoopId) (fired : List FiredEvent)
  | loop (l : LoopId)
  | recv (l : LoopId) (result : RecvResult)
  | write (l : LoopId) (rs : List WriteResult)
  | pop
  | worker

/-- What `epoll_wait` may report: numbers that are registered, and only what is of interest. -/
def mayFire (s : TcpServer) (l : LoopId) (e : FiredEvent) : Bool :=
  match s.epoll (l, e.fd) with
  | none => false
  | some events => !e.epollout || events = .rw

def next (s : TcpServer) : Action → Option TcpServer
  | .listen =>
    match s.loop .main, s.phase .main with
    | .idle, .events _ => some (s.setLoop .main .accepting)
    | _, _ => none
  | .accept fd =>
    match s.loop .main, fd with
    | .accepting, none => some (s.setLoop .main .idle)
    | .accepting, some fd =>
      if 0 ≤ fd ∧ s.fds fd = none then some (s.handleAccept .main fd) else none
    | _, _ => none
  | .wait l fired =>
    match s.loop l, s.phase l with
    | .idle, .tasks [] =>
      if fired.all (s.mayFire l) ∧ (fired.map FiredEvent.fd).Nodup then
        some (s.setPhase l (.events fired))
      else none
    | _, _ => none
  | .loop l => s.loopNext l
  | .recv l result =>
    match s.loop l with
    | .reading c out =>
      if AcceptedConnection.RecvResult.valid result then some (s.handleRead l c out result)
      else none
    | _ => none
  | .write l rs => s.writeNext l rs
  | .pop => s.pop
  | .worker => s.workerNext

/-- Nothing was accepted yet. -/
def start (serverActorId : ActorId) (subReactors : Nat) : TcpServer where
  serverActorId
  subReactors
  nextLoop := 0
  accepted := 0
  fds := fun _ => none
  epoll := fun _ => none
  callbacks := fun _ => false
  mapConn := fun _ => none
  pendingTasks := fun _ => []
  phase := fun _ => .tasks []
  loop := fun _ => .idle
  fdToActor := fun _ => none
  fdToLoop := fun _ => none
  mailbox := []
  worker := .idle
  socket := fun _ => -1
  home := fun _ => .main
  outputBuffer := fun _ => []
  writeFailed := fun _ => false
  life := fun _ => .removed
  received := fun _ => []
  ran := fun _ => []
  written := fun _ => []
  sent := []

/-- `RegisterActor` gives out positive ids. -/
def machine : Machine TcpServer Action where
  init s := ∃ id n, 0 < id ∧ s = start id n
  next := next

end TcpServer

end Balabala
