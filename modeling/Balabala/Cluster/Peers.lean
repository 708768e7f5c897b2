import Balabala.Foundation.Transfer
import Balabala.Cluster.Receive
import Balabala.Cluster.Sending
import Balabala.Net.Connect

/-!
# Nodes and the connections between them

Every node has a `TcpClusterTransport` with its loop and its gateway. A connection has an end at
each of two nodes. What an end writes the other one receives in chunks, which become messages in the
mailbox of the gateway there. Neither the mailbox nor the tables nor the tasks of the loop know the
connection: they have its descriptor number, which another connection may use later on.

`SendPacket` looks up a number, then asks the loop for the connection. `Send` writes at once when it
is the loop's thread that calls it, and else leaves a task that asks for the connection again. Any
step of any thread may come in between.
-/

namespace Balabala

open Foundation

/-- One end of a connection. The serial number tells apart the connections that use a descriptor one
after another. -/
structure ConnEnd (ι : Type*) where
  node : ι
  fd : Fd
  serial : Nat
  deriving DecidableEq

/-- What the nodes are called, which threads run their loops, and which ends belong together. -/
structure Topology (ι Tid : Type*) where
  localNodeId : ι → Bytes
  loopThread : ι → Tid
  peer : ConnEnd ι → ConnEnd ι
  peer_peer : ∀ e, peer (peer e) = e

/-- The names of the nodes fit into a packet. -/
def Topology.NamesFit {ι Tid : Type*} (T : Topology ι Tid) : Prop :=
  ∀ i, (T.localNodeId i).length ≤ 65535

/-- `opened` and `atOnce`: the loop has the connection, the gateway was not told; `atOnce` when
`connect` has returned 0. `finished`: the end of the stream was read. `refused`: the connection
failed, and its socket is closed. -/
inductive EndStage
  | unused | opened | atOnce | announced | finished | refused
  deriving DecidableEq

/-- `Connected` was not sent. -/
def EndStage.Unannounced (st : EndStage) : Prop := st = .unused ∨ st = .opened ∨ st = .atOnce

instance : DecidablePred EndStage.Unannounced := fun _ => instDecidableOr

/-- A packet on its way through `SendPacket`, with the number that was looked up. `via` is history:
the end on which the node with that number last shook hands. -/
structure Outgoing (ι : Type*) where
  fd : Fd
  packet : ClusterPacket
  via : Option (ConnEnd ι)

/-- A node: `connections` is the loop's `mapConn_`, `tasks` are the sends queued there, `hand` has
what a thread looked up and `found` the connection that `GetConnection` gave it, where `none` is the
thread that runs the gateway. `calls` is what the gateway has still to do for the message in hand.
The messages and the calls are marked with the end they are about.

The last two fields are history: the end that the gateway's buffer of a number belongs to, and the
end on which a node was the last to shake hands. -/
structure ClusterHost (ι Tid : Type*) where
  gateway : ClusterGatewayActor
  table : NodeTable
  mailbox : List (ConnEnd ι × ActorMessage)
  calls : List (ConnEnd ι × GatewayCall)
  connections : Fd → Option (ConnEnd ι)
  hand : Tid → Option (Outgoing ι)
  found : Option Tid → Option (Outgoing ι × ConnEnd ι)
  tasks : List (Outgoing ι)
  current : Fd → Option (ConnEnd ι)
  shaken : Bytes → Option (ConnEnd ι)

/-- `inFlight` has what an end has not read yet. The last four fields are history: the packets that
were written at an end and those that were handled there, what the gateway has kept of the next one,
and the `SendByName` calls. -/
structure ClusterNet (ι Tid : Type*) where
  host : ι → ClusterHost ι Tid
  stage : ConnEnd ι → EndStage
  inFlight : ConnEnd ι → Bytes
  sent : ConnEnd ι → List ClusterPacket
  handled : ConnEnd ι → List ClusterPacket
  held : ConnEnd ι → Bytes
  delivered : ConnEnd ι → List SendByNameCall

namespace ClusterNet

variable {ι Tid : Type*} [DecidableEq ι] [DecidableEq Tid]

inductive Action (ι Tid : Type*)
  /-- `AddConnection` at a number that is free, or `AddConnectionRaw` while `connect` goes on -/
  | opened (e : ConnEnd ι)
  /-- `AddConnectionRaw` after `connect` has succeeded at once -/
  | openedAtOnce (e : ConnEnd ι)
  /-- `BindFdToActor`, then `Connected` for the gateway -/
  | announce (e : ConnEnd ι)
  /-- the connection was refused -/
  | refuse (e : ConnEnd ι)
  /-- `recv` returns the first `n` bytes -/
  | receive (e : ConnEnd ι) (n : Nat)
  /-- `recv` returns `n` bytes before `Connected` was sent; the number is bound or not -/
  | receiveEarly (e : ConnEnd ι) (n : Nat) (bound : Bool)
  /-- `recv` returns 0 -/
  | endOfStream (e : ConnEnd ι)
  /-- a `RemoveConnection` task, whoever asked for it -/
  | remove (i : ι) (fd : Fd)
  /-- `GetFdByNodeId` in `SendPacket` -/
  | lookup (i : ι) (t : Tid) (packet : ClusterPacket)
  /-- `GetConnection` in `SendPacket` -/
  | getConnection (i : ι) (t : Tid)
  /-- `Send` on the connection -/
  | send (i : ι) (t : Option Tid)
  /-- the first of the tasks that `Send` has queued -/
  | runTask (i : ι)
  /-- the gateway takes a message -/
  | fetch (i : ι)
  /-- the gateway goes on with it -/
  | call (i : ι)

/-! ### What the steps do -/

section Effects

variable (s : ClusterNet ι Tid) (e : ConnEnd ι) (i : ι)

def setHost (h : ClusterHost ι Tid) : ClusterNet ι Tid :=
  { s with host := Function.update s.host i h }

def setStage (st : EndStage) : ClusterNet ι Tid :=
  { s with stage := Function.update s.stage e st }

/-- A message about an end reaches the mailbox of the gateway there. -/
def post (msg : ActorMessage) : ClusterNet ι Tid :=
  s.setHost e.node
    { s.host e.node with mailbox := (s.host e.node).mailbox ++ [(e, msg)] }

def connect : ClusterNet ι Tid :=
  s.setHost e.node
    { s.host e.node with
      connections := Function.update (s.host e.node).connections e.fd (some e) }

def removeConnection (fd : Fd) : ClusterNet ι Tid :=
  s.setHost i
    { s.host i with connections := Function.update (s.host i).connections fd none }

/-- `recv` takes bytes off the stream. -/
def take (n : Nat) : ClusterNet ι Tid :=
  { s with inFlight := Function.update s.inFlight e ((s.inFlight e).drop n) }

def receive (n : Nat) : ClusterNet ι Tid :=
  (s.take e n).post e (.make .networkRecv 0 e.fd ((s.inFlight e).take n))

/-- `HandleRead` of a connection of which the gateway has not heard: `SendByFd` finds nobody unless
the number is bound. -/
def receiveEarly (n : Nat) (bound : Bool) : ClusterNet ι Tid :=
  if bound then
    (s.take e n).post e
      (if n = 0 then { type := .disconnected, fd := e.fd }
      else .make .networkRecv 0 e.fd ((s.inFlight e).take n))
  else s.take e n

/-- `sendInLoop`: the bytes are for the other end. -/
def write (T : Topology ι Tid) (packet : ClusterPacket) : ClusterNet ι Tid :=
  { s with
    sent := Function.update s.sent e (s.sent e ++ [packet])
    inFlight := Function.update s.inFlight (T.peer e)
      (s.inFlight (T.peer e) ++ handedOver (ClusterPacketCodec.encode packet)) }

def setHand (t : Tid) (out : Option (Outgoing ι)) : ClusterNet ι Tid :=
  s.setHost i { s.host i with hand := Function.update (s.host i).hand t out }

def setFound (t : Option Tid) (x : Option (Outgoing ι × ConnEnd ι)) : ClusterNet ι Tid :=
  s.setHost i { s.host i with found := Function.update (s.host i).found t x }

/-- `GetConnection`; nothing more is done when there is none. -/
def getConnection (t : Option Tid) (out : Outgoing ι) : ClusterNet ι Tid :=
  s.setFound i t (((s.host i).connections out.fd).map (out, ·))

def queueSend (out : Outgoing ι) : ClusterNet ι Tid :=
  s.setHost i { s.host i with tasks := (s.host i).tasks ++ [out] }

/-- `ConnectionBase::Send` on the connection that a thread has found. -/
def send (T : Topology ι Tid) (t : Option Tid) (out : Outgoing ι) : ClusterNet ι Tid :=
  if s.stage e = .refused then s
  else if t = some (T.loopThread i) then s.write e T out.packet
  else s.queueSend i out

/-- What `SendPacket` looks up; nothing is in hand when it returns false. -/
def lookup (packet : ClusterPacket) : Option (Outgoing ι) :=
  let fd := (s.host i).table.getFdByNodeId packet.targetNodeId
  if fd < 0 then none
  else some { fd, packet, via := (s.host i).shaken packet.targetNodeId }

/-- The packet of `sendHandshake`. -/
def handshake (nodeId : Bytes) : ClusterPacket :=
  { sourceNodeId := nodeId, data := clusterHandshakeMagic }

/-- Whose buffer the gateway has for a number, when it has taken a message. -/
def currentAfter (h : ClusterHost ι Tid) (msg : ActorMessage) : Fd → Option (ConnEnd ι) :=
  match msg.type with
  | .connected => Function.update h.current msg.fd (some e)
  | .disconnected => Function.update h.current msg.fd none
  | _ => h.current

/-- The gateway takes a message: what it keeps and what it will do. -/
def fetch (msg : ActorMessage) (mailbox : List (ConnEnd ι × ActorMessage)) : ClusterNet ι Tid :=
  let h := s.host e.node
  let r := h.gateway.onCoroutineMessage msg
  { s with
    host := Function.update s.host e.node
      { h with
        gateway := r.1
        mailbox
        calls := r.2.map (e, ·)
        current := currentAfter e h msg }
    held :=
      match msg.type with
      | .connected => Function.update s.held e []
      | .networkRecv => Function.update s.held e ((r.1.recvBuffers msg.fd).getD [])
      | _ => s.held }

/-- A packet shakes hands. -/
def Shakes (packet : ClusterPacket) : Prop :=
  packet.data = clusterHandshakeMagic ∧ packet.sourceNodeId ≠ []

instance (packet : ClusterPacket) : Decidable (Shakes packet) := by
  unfold Shakes
  infer_instance

def handlePacket (packet : ClusterPacket) : ClusterNet ι Tid :=
  let h := s.host e.node
  let r := ClusterGatewayActor.handleDecodedPacket true h.table packet e.fd
  { s with
    host := Function.update s.host e.node
      { h with
        table := r.1
        shaken :=
          if Shakes packet then Function.update h.shaken packet.sourceNodeId (some e)
          else h.shaken }
    handled := Function.update s.handled e (s.handled e ++ [packet])
    delivered := Function.update s.delivered e (s.delivered e ++ r.2) }

/-- One call of the gateway. The removal is left to the loop. -/
def perform (T : Topology ι Tid) : GatewayCall → ClusterNet ι Tid
  | .sendHandshake fd =>
    if T.localNodeId e.node = [] then s
    else s.getConnection e.node none
      { fd, packet := handshake (T.localNodeId e.node), via := some e }
  | .handleDecodedPacket packet _ => s.handlePacket e packet
  | .onNodeDisconnected fd =>
    s.setHost e.node { s.host e.node with table := (s.host e.node).table.onNodeDisconnected fd }
  | .removeConnection _ => s

def dropCall (calls : List (ConnEnd ι × GatewayCall)) : ClusterNet ι Tid :=
  s.setHost i { s.host i with calls }

def dropTask (tasks : List (Outgoing ι)) : ClusterNet ι Tid :=
  s.setHost i { s.host i with tasks }

def next (T : Topology ι Tid) (s : ClusterNet ι Tid) : Action ι Tid → Option (ClusterNet ι Tid)
  | .opened e =>
    if s.stage e = .unused ∧ (s.host e.node).connections e.fd = none then
      some ((s.connect e).setStage e .opened)
    else none
  | .openedAtOnce e =>
    if s.stage e = .unused ∧ (s.host e.node).connections e.fd = none then
      some ((s.connect e).setStage e .atOnce)
    else none
  | .announce e =>
    -- the constructor of a `Connector` does not ask the loop, but keeps the number
    if s.stage e = .opened ∧ (s.host e.node).connections e.fd = some e ∨
        s.stage e = .atOnce ∧ ((s.host e.node).connections e.fd = none ∨
          (s.host e.node).connections e.fd = some e) then
      some ((s.post e (Connector.connectedMessage e.fd)).setStage e .announced)
    else none
  | .refuse e =>
    if s.stage e = .opened ∧ (s.host e.node).connections e.fd = some e then
      some ((s.post e (Connector.connectFailedMessage e.fd)).setStage e .refused)
    else none
  | .receive e n =>
    if s.stage e = .announced ∧ (s.host e.node).connections e.fd = some e ∧
        0 < n ∧ n ≤ (s.inFlight e).length then
      some (s.receive e n)
    else none
  | .receiveEarly e n bound =>
    if s.stage e = .atOnce ∧ (s.host e.node).connections e.fd = some e ∧
        n ≤ (s.inFlight e).length then
      some (s.receiveEarly e n bound)
    else none
  | .endOfStream e =>
    if s.stage e = .announced ∧ (s.host e.node).connections e.fd = some e then
      some ((s.post e { type := .disconnected, fd := e.fd }).setStage e .finished)
    else none
  | .remove i fd => some (s.removeConnection i fd)
  | .lookup i t packet =>
    if ((s.host i).hand t).isNone ∧ ((s.host i).found (some t)).isNone then
      some (s.setHand i t (s.lookup i packet))
    else none
  | .getConnection i t =>
    match (s.host i).hand t with
    | some out => some ((s.setHand i t none).getConnection i (some t) out)
    | none => none
  | .send i t =>
    match (s.host i).found t with
    | some (out, e) => some ((s.setFound i t none).send e i T t out)
    | none => none
  | .runTask i =>
    match (s.host i).tasks with
    | [] => none
    | out :: tasks =>
      match (s.host i).connections out.fd with
      | some e => some ((s.dropTask i tasks).send e i T (some (T.loopThread i)) out)
      | none => some (s.dropTask i tasks)
  | .fetch i =>
    match (s.host i).found none, (s.host i).calls, (s.host i).mailbox with
    | none, [], (e, msg) :: mailbox => some (s.fetch e msg mailbox)
    | _, _, _ => none
  | .call i =>
    match (s.host i).found none, (s.host i).calls with
    | none, (e, c) :: calls => some ((s.dropCall i calls).perform e T c)
    | _, _ => none

end Effects

/-- No node has a connection yet. -/
def start : ClusterNet ι Tid where
  host _ :=
    { gateway := ⟨fun _ => none⟩
      table := .empty
      mailbox := []
      calls := []
      connections := fun _ => none
      hand := fun _ => none
      found := fun _ => none
      tasks := []
      current := fun _ => none
      shaken := fun _ => none }
  stage _ := .unused
  inFlight _ := []
  sent _ := []
  handled _ := []
  held _ := []
  delivered _ := []

def machine (T : Topology ι Tid) : Machine (ClusterNet ι Tid) (Action ι Tid) where
  init s := s = start
  next := next T

/-! ### Every step in turn -/

/-- What a step has found and what it has done. -/
inductive Step (T : Topology ι Tid) (s : ClusterNet ι Tid) :
    Action ι Tid → ClusterNet ι Tid → Prop
  | opened (e) (hstage : s.stage e = .unused) (hfree : (s.host e.node).connections e.fd = none) :
      Step T s (.opened e) ((s.connect e).setStage e .opened)
  | openedAtOnce (e) (hstage : s.stage e = .unused)
      (hfree : (s.host e.node).connections e.fd = none) :
      Step T s (.openedAtOnce e) ((s.connect e).setStage e .atOnce)
  | announce (e) (hstage : s.stage e = .opened ∨ s.stage e = .atOnce)
      (hconn : ∀ e', (s.host e.node).connections e.fd = some e' → e' = e) :
      Step T s (.announce e)
        ((s.post e (Connector.connectedMessage e.fd)).setStage e .announced)
  | refuse (e) (hstage : s.stage e = .opened)
      (hconn : (s.host e.node).connections e.fd = some e) :
      Step T s (.refuse e)
        ((s.post e (Connector.connectFailedMessage e.fd)).setStage e .refused)
  | receive (e n) (hstage : s.stage e = .announced)
      (hconn : (s.host e.node).connections e.fd = some e) :
      Step T s (.receive e n) (s.receive e n)
  | receiveEarly (e n bound) (hconn : (s.host e.node).connections e.fd = some e) :
      Step T s (.receiveEarly e n bound) (s.receiveEarly e n bound)
  | endOfStream (e) (hstage : s.stage e = .announced)
      (hconn : (s.host e.node).connections e.fd = some e) :
      Step T s (.endOfStream e)
        ((s.post e { type := .disconnected, fd := e.fd }).setStage e .finished)
  | remove (i fd) : Step T s (.remove i fd) (s.removeConnection i fd)
  | lookup (i t packet) : Step T s (.lookup i t packet) (s.setHand i t (s.lookup i packet))
  | getConnection (i t out) (hhand : (s.host i).hand t = some out) :
      Step T s (.getConnection i t) ((s.setHand i t none).getConnection i (some t) out)
  | send (i t out e) (hfound : (s.host i).found t = some (out, e)) :
      Step T s (.send i t) ((s.setFound i t none).send e i T t out)
  | sendTask (i e out tasks) (htasks : (s.host i).tasks = out :: tasks)
      (hconn : (s.host i).connections out.fd = some e) :
      Step T s (.runTask i) ((s.dropTask i tasks).send e i T (some (T.loopThread i)) out)
  | dropped (i out tasks) (htasks : (s.host i).tasks = out :: tasks)
      (hconn : (s.host i).connections out.fd = none) :
      Step T s (.runTask i) (s.dropTask i tasks)
  | fetch (i e msg mailbox) (hcalls : (s.host i).calls = [])
      (hmail : (s.host i).mailbox = (e, msg) :: mailbox) :
      Step T s (.fetch i) (s.fetch e msg mailbox)
  | call (i e c calls) (hcalls : (s.host i).calls = (e, c) :: calls) :
      Step T s (.call i) ((s.dropCall i calls).perform e T c)

variable {s : ClusterNet ι Tid} {T : Topology ι Tid} {a : Action ι Tid} {s' : ClusterNet ι Tid}

lemma step_of_next (h : (machine T).next s a = some s') : Step T s a s' := by
  cases a with
  | opened e =>
    obtain ⟨hg, hs⟩ := Option.ite_none_right_eq_some.mp h
    obtain rfl := Option.some.inj hs
    exact .opened e hg.1 hg.2
  | openedAtOnce e =>
    obtain ⟨hg, hs⟩ := Option.ite_none_right_eq_some.mp h
    obtain rfl := Option.some.inj hs
    exact .openedAtOnce e hg.1 hg.2
  | announce e =>
    obtain ⟨hg, hs⟩ := Option.ite_none_right_eq_some.mp h
    obtain rfl := Option.some.inj hs
    refine .announce e (hg.imp And.left And.left) fun e' he' => ?_
    rcases hg with ⟨-, hc⟩ | ⟨-, hc | hc⟩ <;> rw [hc] at he'
    · exact (Option.some.inj he').symm
    · cases he'
    · exact (Option.some.inj he').symm
  | refuse e =>
    obtain ⟨hg, hs⟩ := Option.ite_none_right_eq_some.mp h
    obtain rfl := Option.some.inj hs
    exact .refuse e hg.1 hg.2
  | receive e n =>
    obtain ⟨hg, hs⟩ := Option.ite_none_right_eq_some.mp h
    obtain rfl := Option.some.inj hs
    exact .receive e n hg.1 hg.2.1
  | receiveEarly e n bound =>
    obtain ⟨hg, hs⟩ := Option.ite_none_right_eq_some.mp h
    obtain rfl := Option.some.inj hs
    exact .receiveEarly e n bound hg.2.1
  | endOfStream e =>
    obtain ⟨hg, hs⟩ := Option.ite_none_right_eq_some.mp h
    obtain rfl := Option.some.inj hs
    exact .endOfStream e hg.1 hg.2
  | remove i fd =>
    obtain rfl := Option.some.inj h
    exact .remove i fd
  | lookup i t packet =>
    obtain ⟨-, hs⟩ := Option.ite_none_right_eq_some.mp h
    obtain rfl := Option.some.inj hs
    exact .lookup i t packet
  | getConnection i t =>
    cases hhand : (s.host i).hand t with
    | none => simp [machine, next, hhand] at h
    | some out =>
      simp only [machine, next, hhand] at h
      obtain rfl := Option.some.inj h
      exact .getConnection i t out hhand
  | send i t =>
    cases hfound : (s.host i).found t with
    | none => simp [machine, next, hfound] at h
    | some x =>
      simp only [machine, next, hfound] at h
      obtain rfl := Option.some.inj h
      exact .send i t x.1 x.2 hfound
  | runTask i =>
    cases htasks : (s.host i).tasks with
    | nil => simp [machine, next, htasks] at h
    | cons out tasks =>
      cases hconn : (s.host i).connections out.fd with
      | none =>
        simp only [machine, next, htasks, hconn] at h
        obtain rfl := Option.some.inj h
        exact .dropped i out tasks htasks hconn
      | some e =>
        simp only [machine, next, htasks, hconn] at h
        obtain rfl := Option.some.inj h
        exact .sendTask i e out tasks htasks hconn
  | fetch i =>
    simp only [machine, next] at h
    split at h
    · next e msg mailbox _ hcalls hmail =>
      obtain rfl := Option.some.inj h
      exact .fetch i e msg mailbox hcalls hmail
    · cases h
  | call i =>
    simp only [machine, next] at h
    split at h
    · next e c calls _ hcalls =>
      obtain rfl := Option.some.inj h
      exact .call i e c calls hcalls
    · cases h

/-! ### The other nodes -/

omit [DecidableEq Tid] in
/-- What holds of every node holds after one of them has changed. -/
lemma forall_update {P : ι → ClusterHost ι Tid → Prop} (h : ∀ j, P j (s.host j)) {i : ι}
    {x : ClusterHost ι Tid} (hx : P i x) : ∀ j, P j (Function.update s.host i x j) :=
  (Function.forall_update_iff s.host P).mpr ⟨hx, fun j _ => h j⟩

section Fetch

variable {e e' : ConnEnd ι} {h : ClusterHost ι Tid} {msg : ActorMessage} {fd : Fd}

omit [DecidableEq ι] [DecidableEq Tid] in
lemma currentAfter_other (hf : msg.fd ≠ fd) : currentAfter e h msg fd = h.current fd := by
  rw [currentAfter]
  cases msg.type <;> simp [Ne.symm hf]

omit [DecidableEq ι] [DecidableEq Tid] in
/-- The gateway turns to the end of the message at most. -/
lemma currentAfter_cases (hcur : currentAfter e h msg fd = some e') :
    e' = e ∧ fd = msg.fd ∨ h.current fd = some e' := by
  by_cases hf : msg.fd = fd
  · subst hf
    rw [currentAfter] at hcur
    cases ht : msg.type <;> simp only [ht, Function.update_self] at hcur
    case connected => exact .inl ⟨(Option.some.inj hcur).symm, rfl⟩
    case disconnected => cases hcur
    all_goals exact .inr hcur
  · rw [currentAfter_other hf] at hcur
    exact .inr hcur

end Fetch

omit [DecidableEq ι] [DecidableEq Tid] in
lemma only_connection {h : ClusterHost ι Tid} {fd : Fd} {e : ConnEnd ι}
    (hconn : h.connections fd = some e) (e' : ConnEnd ι) (he' : h.connections fd = some e') :
    e' = e := Option.some.inj (he'.symm.trans hconn)

/-! ### Receiving and sending -/

lemma fd_make (t : MsgType) (src : ActorId) (f : Fd) (p : Bytes) :
    (ActorMessage.make t src f p).fd = f := by
  rw [ActorMessage.make]
  split_ifs <;> rfl

omit [DecidableEq Tid] in
/-- An early `recv` takes its bytes, and may leave a message about the end. -/
lemma receiveEarly_cases (s : ClusterNet ι Tid) (e : ConnEnd ι) (n : Nat) (bound : Bool) :
    s.receiveEarly e n bound = s.take e n ∨
      ∃ msg, msg.fd = e.fd ∧ s.receiveEarly e n bound = (s.take e n).post e msg := by
  rw [receiveEarly]
  split_ifs with _ hn
  · exact .inr ⟨_, rfl, rfl⟩
  · exact .inr ⟨_, fd_make _ _ _ _, rfl⟩
  · exact .inl rfl

/-- `Send` does nothing, writes in the loop's thread, or leaves a task. -/
lemma send_cases (s : ClusterNet ι Tid) (e : ConnEnd ι) (i : ι) (T : Topology ι Tid)
    (t : Option Tid) (out : Outgoing ι) : s.send e i T t out = s ∨
      t = some (T.loopThread i) ∧ s.send e i T t out = s.write e T out.packet ∨
      s.send e i T t out = s.queueSend i out := by
  rw [send]
  split_ifs with _ ht
  · exact .inl rfl
  · exact .inr (.inl ⟨ht, rfl⟩)
  · exact .inr (.inr rfl)

end ClusterNet

end Balabala
