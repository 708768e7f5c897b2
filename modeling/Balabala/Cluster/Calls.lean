import Balabala.Actor.Names
import Balabala.Actor.Session.Numbering
import Balabala.Cluster.Receive
import Balabala.Cluster.SendPaths
import Balabala.Util.SpinLockQueue

/-!
# Calls from node to node

The actors of several nodes call each other. A `ClusterCall` leaves as a packet with the name of its
caller as the return address, and the node that a packet reaches passes it to the actor that has the
target name then. `Call`, `ClusterCall` and `Sleep` draw on the same sessions of an actor.

Actors are honest: they send responses only by `Respond` and `RespondRemote`, to messages they were
given. What else they do is arbitrary, and so are the names, which anybody may register for anybody
at any time. Packets arrive in any order, timers fire in any order, and either may never do so: a
timer that is cancelled is one that does not fire. A step is one critical section, one access to a
mailbox, or a stretch of a handler that touches nothing outside its actor.
-/

namespace Balabala

open Foundation

/-- A call, sleeps included: the actor that made it and the number of its session. -/
structure CallId where
  node : Bytes
  actor : ActorId
  number : Nat
  deriving DecidableEq

/-- A message, and the call it belongs to, which no step of the code reads. -/
structure Letter where
  msg : ActorMessage
  call : Option CallId

/-- An actor of a node. -/
structure Peer where
  actor : Actor
  /-- the numbers of the sessions that the frames await in -/
  number : Nat → Nat
  priorityMailbox : SpinLockQueue Letter
  normalMailbox : SpinLockQueue Letter
  /-- the messages that `OnCoroutineMessage` was given; a coroutine has its own copy -/
  requests : List Letter

namespace Peer

def fresh : Peer where
  actor := .start
  number := fun _ => 0
  priorityMailbox := .mk'
  normalMailbox := .mk'
  requests := []

def pushMessage (p : Peer) (l : Letter) : Peer :=
  if l.msg.priority then { p with priorityMailbox := p.priorityMailbox.push l }
  else { p with normalMailbox := p.normalMailbox.push l }

/-- The message that `ProcessOne` takes. -/
def pop (p : Peer) : Option (Letter × Peer) :=
  match p.priorityMailbox.pop with
  | some (l, q) => some (l, { p with priorityMailbox := q })
  | none => p.normalMailbox.pop.map fun (l, q) => (l, { p with normalMailbox := q })

/-- A step of the coroutines. -/
def step (p : Peer) (action : Actor.Action) : Option Peer :=
  (p.actor.next action).map fun actor =>
    { p with actor, number := Actor.noteAwait p.number p.actor actor }

/-- Whether a coroutine is running, and not inside `await_suspend`. -/
def isRunning (p : Peer) : Bool :=
  match p.actor.stack with
  | ⟨_, .body⟩ :: _ => true
  | _ => false

end Peer

/-- A packet on its way. -/
structure Parcel where
  pkt : ClusterPacket
  call : Option CallId

/-- What `SetTimeout` was told to send. -/
structure Timeout where
  node : Bytes
  actorId : ActorId
  letter : Letter

/-- A coroutine was resumed: the call it was suspended in, and the call whose message did it. -/
structure Resumption where
  call : CallId
  cause : Option CallId
  deriving DecidableEq

structure Cluster where
  names : Bytes → Names
  peers : Bytes → ActorId → Option Peer
  packets : List Parcel
  timeouts : List Timeout
  resumptions : List Resumption

/-- The arguments of a call, for whichever awaiter it is, and the transports of the node as they
behave when it is made. -/
structure Request where
  targetId : ActorId := 0
  targetNodeId : Bytes := []
  targetActorName : Bytes := []
  msg : ActorMessage := {}
  transports : List Transport := []

namespace Cluster

variable (c : Cluster) (node : Bytes) (a : ActorId)

def setPeer (p : Peer) : Cluster :=
  { c with peers := Function.update c.peers node (Function.update (c.peers node) a (some p)) }

/-! ### Sending -/

def send (l : Letter) : Cluster :=
  match c.peers node a with
  | none => c
  | some p => c.setPeer node a (p.pushMessage l)

def sendByName (name : Bytes) (l : Letter) : Cluster :=
  let actorId := (c.names node).findActor name
  if 0 < actorId then c.send node actorId l else c

/-- `SendToRemote` leaves a packet with the last of the transports it tries, if that takes it. -/
def handOver (sent : Bool × List ClusterPacket) (call : Option CallId) : Cluster :=
  match sent.1, sent.2.getLast? with
  | true, some pkt => { c with packets := c.packets ++ [⟨pkt, call⟩] }
  | _, _ => c

/-- What `SendToRemote` sees of the system. -/
def view (transports : List Transport) : ClusterView := ⟨(c.names node).actorToName, transports⟩

/-- The sending of `await_suspend`. -/
def transmit (call : CallId) (w : Awaiter) (r : Request) : Cluster :=
  let msg : ActorMessage := { r.msg with sessionId := w.sessionId }
  match w.kind with
  | .call => c.send node r.targetId { msg := { msg with sourceId := a }, call }
  | .clusterCall =>
    c.handOver ((c.view node r.transports).actorSendToRemote a r.targetNodeId r.targetActorName msg)
      call
  | .sleep => c

/-- The timer of `await_suspend`; `positive` says whether `timeoutMs > 0`. A sleep always has
one. -/
def arm (call : CallId) (w : Awaiter) (positive : Bool) : Cluster :=
  let wakeup : ActorMessage :=
    { type := .userMessage, sessionId := w.sessionId, isResponse := true }
  match w.kind with
  | .call | .clusterCall =>
    if positive then
      { c with timeouts := c.timeouts ++ [⟨node, a, { wakeup with error := .timeout }, call⟩] }
    else c
  | .sleep => { c with timeouts := c.timeouts ++ [⟨node, a, wakeup, call⟩] }

def respond (request : Letter) (response : ActorMessage) : Cluster :=
  c.send node request.msg.sourceId
    { msg :=
        { response with sourceId := a, sessionId := request.msg.sessionId, isResponse := true }
      call := request.call }

def respondRemote (request : Letter) (responseData : Bytes) (transports : List Transport) :
    Cluster :=
  if ¬ request.msg.isRemote then c
  else
    let resp : ActorMessage :=
      { type := .userMessage, sourceId := a, data := responseData
        sessionId := request.msg.sessionId, isResponse := true }
    c.handOver ((c.view node transports).sendToRemote request.msg.sourceNodeId
      request.msg.sourceActorName resp []) request.call

/-! ### Receiving -/

/-- `OnMessage` of the message that was popped. -/
def onMessage (p : Peer) (l : Letter) : Option Cluster :=
  (p.step (.process l.msg)).map fun p' =>
    if l.msg.isResponse && 0 < l.msg.sessionId then
      { c.setPeer node a p' with
        resumptions :=
          match p.actor.waitMap l.msg.sessionId with
          | some h => c.resumptions ++ [⟨⟨node, a, p.number h⟩, l.call⟩]
          | none => c.resumptions }
    else c.setPeer node a { p' with requests := p'.requests ++ [l] }

inductive Action
  /-- some other message comes, of a connection, a plain send or a timer of the application -/
  | post (node : Bytes) (a : ActorId) (msg : ActorMessage)
  | processOne (node : Bytes) (a : ActorId)
  /-- the running coroutine calls another one, awaits or ends -/
  | run (node : Bytes) (a : ActorId) (action : Actor.Action)
  /-- `await_suspend` stores the handle, or returns -/
  | suspend (node : Bytes) (a : ActorId)
  /-- `await_suspend` sends its request -/
  | transmit (node : Bytes) (a : ActorId) (r : Request)
  /-- `await_suspend` sets its timer -/
  | arm (node : Bytes) (a : ActorId) (positive : Bool)
  /-- the running coroutine answers the `i`-th request -/
  | respond (node : Bytes) (a : ActorId) (i : Nat) (response : ActorMessage)
  | respondRemote (node : Bytes) (a : ActorId) (i : Nat) (responseData : Bytes)
      (transports : List Transport)
  /-- The gateway of a node gets the `i`-th packet. Which node that is depends on where the
  connection leads that the sender has for the name of the node. -/
  | deliver (i : Nat) (node : Bytes) (t : NodeTable) (fd : Fd)
  /-- the `i`-th timer fires -/
  | fire (i : Nat)
  | registerName (node name : Bytes) (a : ActorId)
  | unregisterName (node name : Bytes)

def next : Action → Option Cluster
  | .post node a msg =>
    if msg.sessionId = 0 then some (c.send node a { msg, call := none }) else none
  | .processOne node a =>
    (c.peers node a).bind fun p => p.pop.bind fun (l, p) => c.onMessage node a p l
  | .run node a action =>
    match action with
    | .process _ | .suspend => none
    | action =>
      (c.peers node a).bind fun p => (p.step action).map fun p' => c.setPeer node a p'
  | .suspend node a =>
    (c.peers node a).bind fun p =>
      match p.actor.stack with
      | ⟨_, .store _⟩ :: _ | ⟨_, .leave _⟩ :: _ =>
        (p.step .suspend).map fun p' => c.setPeer node a p'
      | _ => none
  | .transmit node a r =>
    (c.peers node a).bind fun p =>
      match p.actor.stack with
      | ⟨h, .send w⟩ :: _ =>
        if r.msg.isResponse then none
        else (p.step .suspend).map fun p' =>
          (c.setPeer node a p').transmit node a ⟨node, a, p.number h⟩ w r
      | _ => none
  | .arm node a positive =>
    (c.peers node a).bind fun p =>
      match p.actor.stack with
      | ⟨h, .setTimeout w⟩ :: _ =>
        (p.step .suspend).map fun p' =>
          (c.setPeer node a p').arm node a ⟨node, a, p.number h⟩ w positive
      | _ => none
  | .respond node a i response =>
    (c.peers node a).bind fun p =>
      if p.isRunning then p.requests[i]?.map fun request => c.respond node a request response
      else none
  | .respondRemote node a i responseData transports =>
    (c.peers node a).bind fun p =>
      if p.isRunning then
        p.requests[i]?.map fun request => c.respondRemote node a request responseData transports
      else none
  | .deliver i node t fd =>
    c.packets[i]?.map fun x =>
      (ClusterGatewayActor.handleDecodedPacket true t x.pkt fd).2.foldl
        (fun c call => c.sendByName node call.name { msg := call.msg, call := x.call })
        { c with packets := c.packets.eraseIdx i }
  | .fire i =>
    c.timeouts[i]?.map fun x =>
      { c with timeouts := c.timeouts.eraseIdx i }.send x.node x.actorId x.letter
  | .registerName node name a =>
    some { c with names := Function.update c.names node ((c.names node).registerName name a) }
  | .unregisterName node name =>
    some { c with names := Function.update c.names node ((c.names node).unregisterName name) }

/-- The registered actors are new and have no names. Nobody has the id `0`. -/
def start (isActor : Bytes → ActorId → Bool) : Cluster where
  names := fun _ => .empty
  peers := fun node a => if isActor node a && 0 < a then some .fresh else none
  packets := []
  timeouts := []
  resumptions := []

def machine (isActor : Bytes → ActorId → Bool) : Machine Cluster Action where
  init := (· = start isActor)
  next := next

/-- Every coroutine was resumed by its own timer, or the answer to its own request. -/
def Own : Prop := ∀ r ∈ c.resumptions, r.cause = some r.call

end Cluster

end Balabala
