import Balabala.Cluster.Codec

/-!
# The two ways to a remote actor

A message leaves the node either through a `ClusterProxy`, a local actor that stands for the remote
one, or through `SendToRemote`, the path of `ClusterCall`. Both build a `ClusterPacket` from the
message, each in its own place. The proxy looks at the payload through `CopyToString`,
`SendToRemote` moves the field `data`, which is empty when the payload is in `sharedBuf`.
-/

namespace Balabala

/-- A transport: the node it belongs to, and whether it accepts a packet. -/
structure Transport where
  localNodeId : Bytes
  sendPacket : ClusterPacket → Bool

structure RemoteActorRef where
  nodeId : Bytes
  remoteName : Bytes

/-- What the cluster paths read of the actor system. -/
structure ClusterView where
  actorToName : ActorId → Option Bytes
  transports : List Transport

namespace ClusterView

variable (sys : ClusterView)

def getActorName (actorId : ActorId) : Bytes := (sys.actorToName actorId).getD []

/-! ### SendToRemote -/

/-- Offer the message to one transport after the other. The packets that were handed out are
returned with the result; `data` is moved into the first of them, and empty afterwards. -/
def offer (pkt : Transport → Bytes → ClusterPacket) :
    List Transport → Bytes → Bool × List ClusterPacket
  | [], _ => (false, [])
  | transport :: transports, data =>
    if transport.sendPacket (pkt transport data) then (true, [pkt transport data])
    else
      let r := offer pkt transports []
      (r.1, pkt transport data :: r.2)

/-- What is handed out was built for one of the transports. -/
lemma exists_of_mem_offer {pkt : Transport → Bytes → ClusterPacket} {transports : List Transport}
    {data : Bytes} {x : ClusterPacket} (hx : x ∈ (offer pkt transports data).2) :
    ∃ transport ∈ transports, ∃ data', x = pkt transport data' := by
  induction transports generalizing data with
  | nil => cases hx
  | cons transport transports ih =>
    rw [offer] at hx
    split_ifs at hx
    · obtain rfl := List.mem_singleton.mp hx
      exact ⟨transport, List.mem_cons_self, data, rfl⟩
    · rcases List.mem_cons.mp hx with rfl | hx
      · exact ⟨transport, List.mem_cons_self, data, rfl⟩
      · obtain ⟨t, ht, data', rfl⟩ := ih hx
        exact ⟨t, List.mem_cons_of_mem _ ht, data', rfl⟩

def sendToRemote (targetNodeId targetActorName : Bytes) (msg : ActorMessage) (senderName : Bytes) :
    Bool × List ClusterPacket :=
  let resolvedSenderName :=
    if senderName.isEmpty && 0 < msg.sourceId then sys.getActorName msg.sourceId else senderName
  offer (fun transport data =>
    { sourceNodeId := transport.localNodeId
      targetNodeId
      sourceActorName := resolvedSenderName
      targetActorName
      sessionId := msg.sessionId
      isResponse := msg.isResponse
      data }) sys.transports msg.data

/-- `Actor::SendToRemote` of the actor `actorId`. -/
def actorSendToRemote (actorId : ActorId) (targetNodeId targetActorName : Bytes)
    (msg : ActorMessage) : Bool × List ClusterPacket :=
  sys.sendToRemote targetNodeId targetActorName { msg with sourceId := actorId } []

end ClusterView

/-! ### The proxy -/

structure ClusterProxy where
  remote : RemoteActorRef
  transport : Option Transport

namespace ClusterProxy

/-- `OnCoroutineMessage`; the packets handed to the transport. -/
def onCoroutineMessage (proxy : ClusterProxy) (sys : ClusterView) (msg : ActorMessage) :
    List ClusterPacket :=
  match proxy.transport with
  | none => []
  | some transport =>
    [{ sourceNodeId := transport.localNodeId
       targetNodeId := proxy.remote.nodeId
       sourceActorName := if 0 < msg.sourceId then sys.getActorName msg.sourceId else []
       targetActorName := proxy.remote.remoteName
       sessionId := msg.sessionId
       isResponse := msg.isResponse
       data := msg.copyToString }]

/-- `Actor::OnMessage` of the proxy. It never suspends, so no session of its own is waiting, and a
message that looks like a response is dropped. -/
def onMessage (proxy : ClusterProxy) (sys : ClusterView) (msg : ActorMessage) :
    List ClusterPacket :=
  if msg.isResponse && 0 < msg.sessionId then [] else proxy.onCoroutineMessage sys msg

/-- The packets of a message that the actor `actorId` sends to the proxy by `SendToActor`. -/
def sendThrough (proxy : ClusterProxy) (sys : ClusterView) (actorId : ActorId)
    (msg : ActorMessage) : List ClusterPacket :=
  proxy.onMessage sys { msg with sourceId := actorId }

end ClusterProxy

/-! ### Where they agree -/

/-- The payload is carried as `Make` chooses. -/
structure ActorMessage.AsMade (msg : ActorMessage) : Prop where
  data : msg.data = (make msg.type msg.sourceId msg.fd msg.dataBytes).data
  sharedBuf : msg.sharedBuf = (make msg.type msg.sourceId msg.fd msg.dataBytes).sharedBuf

/-- The field `data` is the payload exactly below the threshold. -/
lemma ActorMessage.AsMade.data_eq_iff {msg : ActorMessage} (h : msg.AsMade) :
    msg.data = msg.dataBytes ↔ msg.dataBytes.length < kBufferThreshold := by
  constructor
  · intro heq
    by_contra hlen
    rw [h.data, data_make_of_le _ _ _ (Nat.not_lt.mp hlen)] at heq
    rw [← heq] at hlen
    exact hlen (by decide)
  · intro hlen
    rw [h.data, data_make_of_lt _ _ _ hlen]

section OneTransport

variable (names : ActorId → Option Bytes) (transport : Transport) (remote : RemoteActorRef)
  (actorId : ActorId) (msg : ActorMessage)

/-- The packet of a message from `actorId`, with the payload `data`. -/
def packetOf (data : Bytes) : ClusterPacket where
  sourceNodeId := transport.localNodeId
  targetNodeId := remote.nodeId
  sourceActorName := if 0 < actorId then (names actorId).getD [] else []
  targetActorName := remote.remoteName
  sessionId := msg.sessionId
  isResponse := msg.isResponse
  data := data

/-- A transport that is the only one is handed one packet, accepted or not. -/
lemma ClusterView.offer_singleton (pkt : Transport → Bytes → ClusterPacket) (data : Bytes) :
    (offer pkt [transport] data).2 = [pkt transport data] := by
  rw [offer]
  split_ifs <;> rfl

lemma actorSendToRemote_eq : (ClusterView.actorSendToRemote ⟨names, [transport]⟩ actorId
    remote.nodeId remote.remoteName msg).2 =
      [packetOf names transport remote actorId msg msg.data] := by
  unfold ClusterView.actorSendToRemote ClusterView.sendToRemote
  rw [ClusterView.offer_singleton]
  simp [packetOf, ClusterView.getActorName]

lemma sendThrough_eq (h : ¬ (msg.isResponse = true ∧ 0 < msg.sessionId)) :
    ClusterProxy.sendThrough ⟨remote, some transport⟩ ⟨names, [transport]⟩ actorId msg =
      [packetOf names transport remote actorId msg msg.dataBytes] := by
  have hif : ¬ (msg.isResponse && decide (0 < msg.sessionId)) = true := by simpa using h
  unfold ClusterProxy.sendThrough ClusterProxy.onMessage
  rw [if_neg hif]
  rfl

lemma sendThrough_response (h : msg.isResponse = true ∧ 0 < msg.sessionId) :
    ClusterProxy.sendThrough ⟨remote, some transport⟩ ⟨names, [transport]⟩ actorId msg = [] := by
  simp [ClusterProxy.sendThrough, ClusterProxy.onMessage, h]

/-- The one transport is handed the same packet on both paths, with the whole payload, exactly
when the payload is below the threshold and the message is not a response to a session. -/
theorem send_paths_agree_iff (hmsg : msg.AsMade) :
    let direct := (ClusterView.actorSendToRemote ⟨names, [transport]⟩ actorId remote.nodeId
      remote.remoteName msg).2
    (ClusterProxy.sendThrough ⟨remote, some transport⟩ ⟨names, [transport]⟩ actorId msg = direct ∧
        ∀ pkt ∈ direct, pkt.data = msg.dataBytes) ↔
      msg.dataBytes.length < ActorMessage.kBufferThreshold ∧
        ¬ (msg.isResponse = true ∧ 0 < msg.sessionId) := by
  intro direct
  have hdirect : direct = [packetOf names transport remote actorId msg msg.data] :=
    actorSendToRemote_eq names transport remote actorId msg
  rw [hdirect, ← hmsg.data_eq_iff]
  by_cases hresp : msg.isResponse = true ∧ 0 < msg.sessionId
  · rw [sendThrough_response names transport remote actorId msg hresp]
    simp [hresp]
  · rw [sendThrough_eq names transport remote actorId msg hresp]
    constructor
    · rintro ⟨-, hdata⟩
      exact ⟨hdata _ List.mem_cons_self, hresp⟩
    · rintro ⟨hdata, -⟩
      rw [hdata]
      exact ⟨rfl, by simp [packetOf]⟩

/-- From the threshold on `SendToRemote` hands out a packet without the payload. -/
lemma actorSendToRemote_large {payload : Bytes}
    (hlarge : ActorMessage.kBufferThreshold ≤ payload.length) :
    (ClusterView.actorSendToRemote ⟨names, [transport]⟩ actorId remote.nodeId remote.remoteName
        (.make .userMessage 0 (-1) payload)).2 =
      [packetOf names transport remote actorId (.make .userMessage 0 (-1) payload) []] := by
  rw [actorSendToRemote_eq, ActorMessage.data_make_of_le _ _ _ hlarge]

end OneTransport

lemma ActorMessage.asMade_make (t : MsgType) (src : ActorId) (f : Fd) (payload : Bytes) :
    (make t src f payload).AsMade := by
  refine ⟨?_, ?_⟩ <;> rw [dataBytes_make] <;> unfold make <;> split_ifs <;> rfl

/-- A small request takes both paths alike. -/
theorem send_paths_agree_small :
    let msg := ActorMessage.make .userMessage 0 (-1) [104, 105]
    let transport : Transport := ⟨[65], fun _ => true⟩
    let direct :=
      (ClusterView.actorSendToRemote ⟨fun _ => some [97], [transport]⟩ 1 [66] [98] msg).2
    (ClusterProxy.sendThrough ⟨⟨[66], [98]⟩, some transport⟩ ⟨fun _ => some [97], [transport]⟩ 1
        msg = direct ∧ ∀ pkt ∈ direct, pkt.data = msg.dataBytes) ↔
      msg.dataBytes.length < ActorMessage.kBufferThreshold ∧
        ¬ (msg.isResponse = true ∧ 0 < msg.sessionId) := by
  intro msg transport direct
  exact send_paths_agree_iff (fun _ => some [97]) transport ⟨[66], [98]⟩ 1 msg
    (ActorMessage.asMade_make _ _ _ _)

/-- A payload of 1024 bytes reaches the transport empty when sent by `SendToRemote`. -/
theorem send_paths_differ : ¬ ∀ (names : ActorId → Option Bytes) (transport : Transport)
    (remote : RemoteActorRef) (actorId : ActorId) (msg : ActorMessage), msg.AsMade →
    ClusterProxy.sendThrough ⟨remote, some transport⟩ ⟨names, [transport]⟩ actorId msg =
      (ClusterView.actorSendToRemote ⟨names, [transport]⟩ actorId remote.nodeId remote.remoteName
        msg).2 := by
  intro h
  have hlarge : ActorMessage.kBufferThreshold ≤ (List.replicate 1024 0 : Bytes).length :=
    Nat.le_of_eq List.length_replicate.symm
  have heq := h (fun _ => some [97]) ⟨[65], fun _ => true⟩ ⟨[66], [98]⟩ 1
    (.make .userMessage 0 (-1) (List.replicate 1024 0)) (ActorMessage.asMade_make _ _ _ _)
  have hresp :
      ¬ ((ActorMessage.make .userMessage 0 (-1) (List.replicate 1024 0)).isResponse = true ∧
        0 < (ActorMessage.make .userMessage 0 (-1) (List.replicate 1024 0)).sessionId) := by
    rw [ActorMessage.make]
    split_ifs <;> rintro ⟨hf, -⟩ <;> cases hf
  rw [sendThrough_eq _ _ _ _ _ hresp, actorSendToRemote_large _ _ _ _ hlarge,
    ActorMessage.dataBytes_make] at heq
  have hdata := congrArg ClusterPacket.data (List.singleton_injective heq)
  exact List.ne_nil_of_length_pos (List.length_replicate.symm ▸ by decide) hdata

end Balabala
