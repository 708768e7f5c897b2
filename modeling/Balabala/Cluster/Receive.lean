import Balabala.Cluster.Gateway
import Balabala.Cluster.NodeTable

/-!
# What the receiving node does with a packet

A packet reaches the actors of a node through `ClusterReceiver`, which `LoopbackTransport` calls
with the packet itself, or through `ClusterGatewayActor`, which decodes it from a stream. Both build
an `ActorMessage` and pass it to `SendByName`, each in its own code.

The stream also carries the handshakes, which the gateway knows by their data alone.
-/

namespace Balabala

open Foundation

/-- A call of `ActorSystem::SendByName`. -/
structure SendByNameCall where
  name : Bytes
  msg : ActorMessage
  deriving DecidableEq

/-! ### The loopback path -/

/-- `ClusterReceiver::OnPacketReceived`, where `sys` says whether `sys_` is set. -/
def ClusterReceiver.onPacketReceived (sys : Bool) (packet : ClusterPacket) : List SendByNameCall :=
  if ¬ sys then []
  else if packet.targetActorName ≠ [] then
    [{ name := packet.targetActorName
       msg :=
        { type := .userMessage
          sourceId := 0
          sessionId := packet.sessionId
          isResponse := packet.isResponse
          data := packet.data
          sourceNodeId := packet.sourceNodeId
          sourceActorName := packet.sourceActorName } }]
  else []

structure LoopbackTransport where
  localNodeId : Bytes
  handlers : Bytes → Option (ClusterPacket → List SendByNameCall)

namespace LoopbackTransport

def registerRemoteHandler (transport : LoopbackTransport) (nodeId : Bytes)
    (handler : ClusterPacket → List SendByNameCall) : LoopbackTransport :=
  { transport with handlers := Function.update transport.handlers nodeId (some handler) }

/-- `SendPacket`: what it returns, and the calls of the handler. -/
def sendPacket (transport : LoopbackTransport) (packet : ClusterPacket) :
    Bool × List SendByNameCall :=
  match transport.handlers packet.targetNodeId with
  | some handler => (true, handler packet)
  | none => (false, [])

end LoopbackTransport

/-! ### The path over the stream -/

/-- `CLUSTER_HANDSHAKE_MAGIC`, the bytes of `CLUSTER_HANDSHAKE`. -/
def clusterHandshakeMagic : Bytes :=
  [67, 76, 85, 83, 84, 69, 82, 95, 72, 65, 78, 68, 83, 72, 65, 75, 69]

namespace ClusterGatewayActor

def handleDecodedPacket (sys : Bool) (t : NodeTable) (pkt : ClusterPacket) (fd : Fd) :
    NodeTable × List SendByNameCall :=
  if pkt.data = clusterHandshakeMagic then
    let remoteNodeId := pkt.sourceNodeId
    if remoteNodeId = [] then (t, [])
    else (t.registerNodeFd remoteNodeId fd, [])
  else if ¬ sys then (t, [])
  else if pkt.targetActorName ≠ [] then
    (t, [{ name := pkt.targetActorName
           msg :=
            { type := .userMessage
              sourceId := 0
              sessionId := pkt.sessionId
              isResponse := pkt.isResponse
              data := pkt.data
              sourceNodeId := pkt.sourceNodeId
              sourceActorName := pkt.sourceActorName } }])
  else (t, [])

/-- What the calls of the gateway do to the tables of its transport, and the `SendByName` calls they
lead to. Sending a handshake or removing a connection does neither. -/
def perform (sys : Bool) (t : NodeTable) : List GatewayCall → NodeTable × List SendByNameCall
  | [] => (t, [])
  | .handleDecodedPacket pkt fd :: calls =>
    let (t, sent) := handleDecodedPacket sys t pkt fd
    let (t, sent') := perform sys t calls
    (t, sent ++ sent')
  | .onNodeDisconnected fd :: calls => perform sys (t.onNodeDisconnected fd) calls
  | .sendHandshake _ :: calls | .removeConnection _ :: calls => perform sys t calls

variable {t : NodeTable} {pkt : ClusterPacket} {pkts : List ClusterPacket} {f : Fd}

/-! ### Where they agree -/

/-- Apart from handshakes, the gateway does what `ClusterReceiver` does. -/
lemma handleDecodedPacket_of_ne (sys : Bool) (h : pkt.data ≠ clusterHandshakeMagic) :
    handleDecodedPacket sys t pkt f = (t, ClusterReceiver.onPacketReceived sys pkt) := by
  unfold handleDecodedPacket ClusterReceiver.onPacketReceived
  rw [if_neg h]
  split_ifs <;> rfl

/-- A packet with the data of a handshake is not passed on. -/
lemma handleDecodedPacket_magic (sys : Bool) (h : pkt.data = clusterHandshakeMagic) :
    (handleDecodedPacket sys t pkt f).2 = [] := by
  rw [handleDecodedPacket]
  rw [if_pos h]
  dsimp only
  split_ifs <;> rfl

lemma length_onPacketReceived (h : pkt.targetActorName ≠ []) :
    (ClusterReceiver.onPacketReceived true pkt).length = 1 := by
  simp [ClusterReceiver.onPacketReceived, h]

/-- Packets none of which looks like a handshake lead to the calls of `ClusterReceiver`. -/
lemma perform_of_ne (sys : Bool) (h : ∀ pkt ∈ pkts, pkt.data ≠ clusterHandshakeMagic) :
    perform sys t (pkts.map (GatewayCall.handleDecodedPacket · f)) =
      (t, pkts.flatMap (ClusterReceiver.onPacketReceived sys)) := by
  induction pkts with
  | nil => rfl
  | cons pkt pkts ih =>
    have hpkt := h pkt List.mem_cons_self
    simp only [List.map_cons, perform, handleDecodedPacket_of_ne sys hpkt,
      ih fun p hp => h p (List.mem_cons_of_mem pkt hp), List.flatMap_cons]

/-- The gateway makes one call for each packet that does not look like a handshake. -/
lemma length_perform (h : ∀ pkt ∈ pkts, pkt.targetActorName ≠ []) :
    (perform true t (pkts.map (GatewayCall.handleDecodedPacket · f))).2.length =
      pkts.countP (·.data ≠ clusterHandshakeMagic) := by
  induction pkts generalizing t with
  | nil => rfl
  | cons pkt pkts ih =>
    have htail := ih (t := (handleDecodedPacket true t pkt f).1)
      fun p hp => h p (List.mem_cons_of_mem pkt hp)
    simp only [List.map_cons, perform, List.length_append, htail]
    by_cases hdata : pkt.data = clusterHandshakeMagic
    · rw [handleDecodedPacket_magic true hdata, List.countP_cons_of_neg (by simpa using hdata)]
      exact Nat.zero_add _
    · rw [handleDecodedPacket_of_ne true hdata, length_onPacketReceived (h pkt List.mem_cons_self),
        List.countP_cons_of_pos (by simpa using hdata), Nat.add_comm]

/-- The calls for a stream of packets that reached the gateway in chunks, after what came before
was handled completely. -/
lemma callsFor_stream {g : ClusterGatewayActor} (hpkts : ∀ pkt ∈ pkts, ClusterPacketCodec.Fits pkt)
    {msgs recvs : List ActorMessage} (hbuf : g.recvBuffers f = some [])
    (hmsgs : msgs.filter (·.fd = f) = recvs) (hrecvs : ∀ m ∈ recvs, m.type = .networkRecv)
    (hstream : recvs.flatMap (·.dataBytes) = pkts.flatMap ClusterPacketCodec.encode) :
    callsFor f (g.processAll msgs).2 = pkts.map (GatewayCall.handleDecodedPacket · f) := by
  have hdrain := StreamDecoder.drain_flatMap clusterDecoder_encode clusterDecoder_nil hpkts
  rw [← hstream, List.flatMap_def] at hdrain
  obtain ⟨-, hcalls⟩ := processAll_recvs (g := g) hmsgs hrecvs
  rw [hcalls, hbuf, recvCalls_of_drain clusterDecoder_nil hdrain]

/-- Packets that fit the format and name a target lead to the same `SendByName` calls on both
paths, and leave the tables of the transport alone, exactly when none of them has the data of a
handshake. -/
theorem paths_agree_iff {g : ClusterGatewayActor}
    (hpkts : ∀ pkt ∈ pkts, ClusterPacketCodec.Fits pkt)
    (htarget : ∀ pkt ∈ pkts, pkt.targetActorName ≠ [])
    {msgs recvs : List ActorMessage} (hbuf : g.recvBuffers f = some [])
    (hmsgs : msgs.filter (·.fd = f) = recvs) (hrecvs : ∀ m ∈ recvs, m.type = .networkRecv)
    (hstream : recvs.flatMap (·.dataBytes) = pkts.flatMap ClusterPacketCodec.encode)
    {loopback : LoopbackTransport} (hloopback : ∀ pkt ∈ pkts,
      loopback.handlers pkt.targetNodeId = some (ClusterReceiver.onPacketReceived true)) :
    perform true t (callsFor f (g.processAll msgs).2) =
        (t, pkts.flatMap fun pkt => (loopback.sendPacket pkt).2) ↔
      ∀ pkt ∈ pkts, pkt.data ≠ clusterHandshakeMagic := by
  have hsent : pkts.flatMap (fun pkt => (loopback.sendPacket pkt).2) =
      pkts.flatMap (ClusterReceiver.onPacketReceived true) := by
    refine List.flatMap_congr fun pkt hpkt => ?_
    simp [LoopbackTransport.sendPacket, hloopback pkt hpkt]
  have hlength : (pkts.flatMap (ClusterReceiver.onPacketReceived true)).length = pkts.length := by
    rw [List.length_flatMap, List.map_congr_left fun pkt hpkt =>
      length_onPacketReceived (htarget pkt hpkt)]
    simp
  rw [callsFor_stream hpkts hbuf hmsgs hrecvs hstream, hsent]
  constructor
  · intro h
    have hcount := length_perform (t := t) (f := f) htarget
    rw [h, hlength] at hcount
    simpa using List.countP_eq_length.mp hcount.symm
  · exact perform_of_ne true

/-- The receiver behind the handler of node `[66]`. -/
def loopbackToB : LoopbackTransport :=
  LoopbackTransport.registerRemoteHandler ⟨[65], fun _ => none⟩ [66]
    (ClusterReceiver.onPacketReceived true)

/-- A packet for node `[66]`, cut inside a length. -/
def greetingToB : ClusterPacket := { greeting with targetNodeId := [66] }

def greetingToBChunks : List ActorMessage :=
  [.make .networkRecv 0 7 ((ClusterPacketCodec.encode greetingToB).take 5),
    .make .networkRecv 0 7 ((ClusterPacketCodec.encode greetingToB).drop 5)]

/-- The packet takes both paths alike. -/
theorem paths_agree_greeting :
    perform true .empty (callsFor 7
        (processAll ⟨fun _ => some []⟩ greetingToBChunks).2) =
      (.empty, [greetingToB].flatMap fun pkt => (loopbackToB.sendPacket pkt).2) := by
  have hfits : ClusterPacketCodec.Fits greetingToB := ⟨by decide, by decide, by decide, by decide,
    by decide⟩
  have hmsgs : greetingToBChunks.filter (·.fd = 7) = greetingToBChunks := by decide
  refine (paths_agree_iff ?_ ?_ rfl hmsgs (by decide) ?_ ?_).mpr ?_
  · simpa using hfits
  · simp [greetingToB, greeting]
  · simp [greetingToBChunks]
  · simp [loopbackToB, LoopbackTransport.registerRemoteHandler, greetingToB]
  · decide

/-- A request whose payload is the text of a handshake. -/
def lookalike : ClusterPacket where
  sourceNodeId := [65]
  targetNodeId := [66]
  targetActorName := [97]
  data := clusterHandshakeMagic

def lookalikeChunk : List ActorMessage :=
  [.make .networkRecv 0 7 (ClusterPacketCodec.encode lookalike)]

/-- It never arrives over the stream. -/
theorem lookalike_lost : ¬ ∀ (pkt : ClusterPacket) (g : ClusterGatewayActor) (f : Fd)
    (msgs recvs : List ActorMessage) (loopback : LoopbackTransport) (t : NodeTable),
    ClusterPacketCodec.Fits pkt → pkt.targetActorName ≠ [] → g.recvBuffers f = some [] →
    msgs.filter (·.fd = f) = recvs → (∀ m ∈ recvs, m.type = .networkRecv) →
    recvs.flatMap (·.dataBytes) = ClusterPacketCodec.encode pkt →
    loopback.handlers pkt.targetNodeId = some (ClusterReceiver.onPacketReceived true) →
    perform true t (callsFor f (g.processAll msgs).2) = (t, (loopback.sendPacket pkt).2) := by
  intro h
  have hfits : ClusterPacketCodec.Fits lookalike := ⟨by decide, by decide, by decide, by decide,
    by decide⟩
  have hstream : lookalikeChunk.flatMap (·.dataBytes) = ClusterPacketCodec.encode lookalike := by
    simp [lookalikeChunk]
  have heq := h lookalike ⟨fun _ => some []⟩ 7 lookalikeChunk lookalikeChunk loopbackToB .empty
    hfits (by decide) rfl rfl (by decide) hstream rfl
  have hcalls : callsFor 7 (processAll ⟨fun _ => some []⟩ lookalikeChunk).2 =
      [lookalike].map (GatewayCall.handleDecodedPacket · 7) := by
    refine callsFor_stream ?_ rfl (by decide : _ = lookalikeChunk) (by decide) ?_
    · simpa using hfits
    · rw [List.flatMap_singleton]
      exact hstream
  rw [hcalls] at heq
  exact absurd (congrArg Prod.snd heq) (by decide)

end ClusterGatewayActor

end Balabala
