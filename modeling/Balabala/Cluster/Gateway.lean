import Mathlib.Logic.Function.Basic
import Balabala.Cluster.Codec

/-!
# The cluster gateway

`ClusterGatewayActor` reassembles the packets of every connection from the chunks that the network
actor delivers, one receive buffer per descriptor. After a protocol error it drops the buffer and
asks the loop thread to remove the connection. Chunks of the same connection that are already in
the mailbox are processed after that.
-/

namespace Balabala

open Foundation

/-- The calls `ClusterGatewayActor` makes. -/
inductive GatewayCall
  | sendHandshake (fd : Fd)
  | handleDecodedPacket (pkt : ClusterPacket) (fd : Fd)
  | onNodeDisconnected (fd : Fd)
  | removeConnection (fd : Fd)
  deriving DecidableEq

def GatewayCall.fd : GatewayCall → Fd
  | .sendHandshake fd | .handleDecodedPacket _ fd => fd
  | .onNodeDisconnected fd | .removeConnection fd => fd

/-- The gateway; `none` for a descriptor without an entry in `recvBuffers_`. -/
structure ClusterGatewayActor where
  recvBuffers : Fd → Option Bytes

namespace ClusterGatewayActor

/-- The loop over `Decode` is `drain`: handle packets and erase them from the buffer until the
buffer is incomplete, or until a protocol error. -/
def onCoroutineMessage (g : ClusterGatewayActor) (msg : ActorMessage) :
    ClusterGatewayActor × List GatewayCall :=
  match msg.type with
  | .connected =>
    ({ recvBuffers := Function.update g.recvBuffers msg.fd (some []) }, [.sendHandshake msg.fd])
  | .networkRecv =>
    let buf := (g.recvBuffers msg.fd).getD [] ++ msg.dataBytes
    let (pkts, rest) := clusterDecoder.drain buf
    let calls := pkts.map (GatewayCall.handleDecodedPacket · msg.fd)
    match rest with
    | some buf => ({ recvBuffers := Function.update g.recvBuffers msg.fd (some buf) }, calls)
    | none =>
      ({ recvBuffers := Function.update g.recvBuffers msg.fd none },
        calls ++ [.onNodeDisconnected msg.fd, .removeConnection msg.fd])
  | .disconnected =>
    ({ recvBuffers := Function.update g.recvBuffers msg.fd none }, [.onNodeDisconnected msg.fd])
  | _ => (g, [])

/-- Process the messages of the mailbox one after another. -/
def processAll (g : ClusterGatewayActor) :
    List ActorMessage → ClusterGatewayActor × List GatewayCall
  | [] => (g, [])
  | msg :: msgs =>
    let (g, calls) := g.onCoroutineMessage msg
    let (g, calls') := g.processAll msgs
    (g, calls ++ calls')

/-! ### One descriptor at a time -/

/-- The calls about a descriptor. -/
def callsFor (f : Fd) (calls : List GatewayCall) : List GatewayCall := calls.filter (·.fd = f)

/-- The packets of a descriptor that were handled. -/
def packetsFor (f : Fd) (calls : List GatewayCall) : List ClusterPacket :=
  calls.filterMap fun
    | .handleDecodedPacket pkt fd => if fd = f then some pkt else none
    | _ => none

/-- The calls that the chunks of one descriptor lead to. -/
def recvCalls (f : Fd) : Option Bytes → List Bytes → List GatewayCall
  | _, [] => []
  | buf, c :: cs =>
    let r := clusterDecoder.drain (buf.getD [] ++ c)
    r.1.map (.handleDecodedPacket · f) ++
      (if r.2.isSome then [] else [.onNodeDisconnected f, .removeConnection f]) ++
      recvCalls f r.2 cs

variable {g : ClusterGatewayActor} {f : Fd} {msg : ActorMessage}

@[simp] lemma callsFor_append (f : Fd) (calls calls' : List GatewayCall) :
    callsFor f (calls ++ calls') = callsFor f calls ++ callsFor f calls' :=
  List.filter_append ..

/-- A message is only about its own descriptor. -/
lemma onCoroutineMessage_other (h : msg.fd ≠ f) :
    (g.onCoroutineMessage msg).1.recvBuffers f = g.recvBuffers f ∧
      callsFor f (g.onCoroutineMessage msg).2 = [] := by
  rw [onCoroutineMessage]
  split
  · simp [callsFor, GatewayCall.fd, h, Ne.symm h]
  · dsimp only
    split <;> simp [callsFor, GatewayCall.fd, h, Ne.symm h, List.filter_eq_nil_iff]
  · simp [callsFor, GatewayCall.fd, h, Ne.symm h]
  · simp [callsFor]

lemma onCoroutineMessage_connected (ht : msg.type = .connected) (hf : msg.fd = f) :
    (g.onCoroutineMessage msg).1.recvBuffers f = some [] ∧
      callsFor f (g.onCoroutineMessage msg).2 = [.sendHandshake f] := by
  subst hf
  simp [onCoroutineMessage, ht, callsFor, GatewayCall.fd]

/-- A chunk is drained together with what the buffer of its descriptor holds. -/
lemma onCoroutineMessage_recv (ht : msg.type = .networkRecv) (hf : msg.fd = f) :
    (g.onCoroutineMessage msg).1.recvBuffers f =
        (clusterDecoder.drain ((g.recvBuffers f).getD [] ++ msg.dataBytes)).2 ∧
      callsFor f (g.onCoroutineMessage msg).2 =
        recvCalls f (g.recvBuffers f) [msg.dataBytes] := by
  subst hf
  simp only [onCoroutineMessage, ht, recvCalls]
  rcases clusterDecoder.drain ((g.recvBuffers msg.fd).getD [] ++ msg.dataBytes) with ⟨pkts, _ | buf⟩
  all_goals simp [callsFor, GatewayCall.fd, List.filter_eq_self]

/-- What the messages do to a descriptor of which they bring nothing but chunks. -/
lemma processAll_recvs {msgs recvs : List ActorMessage}
    (hmsgs : msgs.filter (·.fd = f) = recvs) (hrecvs : ∀ m ∈ recvs, m.type = .networkRecv) :
    (g.processAll msgs).1.recvBuffers f =
        (clusterDecoder.feed (g.recvBuffers f) (recvs.map (·.dataBytes))).2 ∧
      callsFor f (g.processAll msgs).2 =
        recvCalls f (g.recvBuffers f) (recvs.map (·.dataBytes)) := by
  induction msgs generalizing g recvs with
  | nil =>
    subst hmsgs
    exact ⟨rfl, rfl⟩
  | cons msg msgs ih =>
    by_cases hf : msg.fd = f
    · rw [List.filter_cons_of_pos (by simpa using hf)] at hmsgs
      subst hmsgs
      obtain ⟨hbuf, hcalls⟩ :=
        onCoroutineMessage_recv (g := g) (hrecvs msg List.mem_cons_self) hf
      obtain ⟨ihbuf, ihcalls⟩ := ih (g := (g.onCoroutineMessage msg).1) rfl
        fun m hm => hrecvs m (List.mem_cons_of_mem msg hm)
      rw [hbuf] at ihbuf ihcalls
      refine ⟨ihbuf, ?_⟩
      simp only [processAll, callsFor_append, hcalls, ihcalls, List.map_cons, recvCalls,
        List.append_nil]
    · rw [List.filter_cons_of_neg (by simpa using hf)] at hmsgs
      obtain ⟨hbuf, hcalls⟩ := onCoroutineMessage_other (g := g) hf
      obtain ⟨ihbuf, ihcalls⟩ := ih (g := (g.onCoroutineMessage msg).1) hmsgs hrecvs
      rw [hbuf] at ihbuf ihcalls
      exact ⟨ihbuf, by simp only [processAll, callsFor_append, hcalls, ihcalls, List.nil_append]⟩

/-- The life of a connection: `Connected`, then chunks, among messages of other descriptors. -/
lemma processAll_connection {msgs recvs : List ActorMessage} {conn : ActorMessage}
    (hmsgs : msgs.filter (·.fd = f) = conn :: recvs) (hconn : conn.type = .connected)
    (hrecvs : ∀ m ∈ recvs, m.type = .networkRecv) :
    (g.processAll msgs).1.recvBuffers f =
        (clusterDecoder.feed (some []) (recvs.map (·.dataBytes))).2 ∧
      callsFor f (g.processAll msgs).2 =
        .sendHandshake f :: recvCalls f (some []) (recvs.map (·.dataBytes)) := by
  induction msgs generalizing g with
  | nil => simp at hmsgs
  | cons msg msgs ih =>
    by_cases hf : msg.fd = f
    · rw [List.filter_cons_of_pos (by simpa using hf)] at hmsgs
      obtain ⟨rfl, htail⟩ := List.cons_eq_cons.mp hmsgs
      obtain ⟨hbuf, hcalls⟩ := onCoroutineMessage_connected (g := g) hconn hf
      obtain ⟨hrest, hrestCalls⟩ :=
        processAll_recvs (g := (g.onCoroutineMessage msg).1) htail hrecvs
      rw [hbuf] at hrest hrestCalls
      exact ⟨hrest, by simp only [processAll, callsFor_append, hcalls, hrestCalls]; rfl⟩
    · rw [List.filter_cons_of_neg (by simpa using hf)] at hmsgs
      obtain ⟨hbuf, hcalls⟩ := onCoroutineMessage_other (g := g) hf
      obtain ⟨ihbuf, ihcalls⟩ := ih (g := (g.onCoroutineMessage msg).1) hmsgs
      exact ⟨ihbuf, by simp only [processAll, callsFor_append, hcalls, ihcalls, List.nil_append]⟩

/-! ### Streams of packets -/

lemma recvCalls_of_drain {buf : Bytes} {cs : List Bytes} {pkts : List ClusterPacket} {rest : Bytes}
    (hbuf : clusterDecoder.decode buf = .wait)
    (h : clusterDecoder.drain (buf ++ cs.flatten) = (pkts, some rest)) :
    recvCalls f (some buf) cs = pkts.map (.handleDecodedPacket · f) := by
  induction cs generalizing buf pkts with
  | nil =>
    rw [List.flatten_nil, List.append_nil, StreamDecoder.drain_wait hbuf] at h
    obtain rfl : [] = pkts := congrArg Prod.fst h
    rfl
  | cons c cs ih =>
    rw [List.flatten_cons, ← List.append_assoc, StreamDecoder.drain_append] at h
    rcases hr : clusterDecoder.drain (buf ++ c) with ⟨first, _ | mid⟩
    · simp [hr] at h
    · simp only [hr, Prod.mk.injEq] at h
      obtain ⟨rfl, hrest⟩ := h
      have hmid := StreamDecoder.decode_rest (d := clusterDecoder) (by rw [hr])
      simp only [recvCalls, Option.getD_some, hr, Option.isSome_some, if_true, List.append_nil,
        ih hmid (Prod.ext rfl hrest), List.map_append]

/-- However a prefix of a stream of encoded packets is cut into chunks, and whatever happens on
other descriptors, the gateway handles the packets that were received completely, in order, and
keeps what was received of the next one. -/
theorem reassembles {pkts : List ClusterPacket} (hpkts : ∀ pkt ∈ pkts, ClusterPacketCodec.Fits pkt)
    {msgs recvs : List ActorMessage} {conn : ActorMessage}
    (hmsgs : msgs.filter (·.fd = f) = conn :: recvs) (hconn : conn.type = .connected)
    (hrecvs : ∀ m ∈ recvs, m.type = .networkRecv)
    (hstream : recvs.flatMap (·.dataBytes) <+: pkts.flatMap ClusterPacketCodec.encode) :
    ∃ n rest, recvs.flatMap (·.dataBytes) =
          (pkts.take n).flatMap ClusterPacketCodec.encode ++ rest ∧
        (∀ pkt, pkts[n]? = some pkt → rest.length < (ClusterPacketCodec.encode pkt).length) ∧
        callsFor f (g.processAll msgs).2 =
          .sendHandshake f :: (pkts.take n).map (.handleDecodedPacket · f) ∧
        (g.processAll msgs).1.recvBuffers f = some rest := by
  obtain ⟨n, rest, heq, hrest, hdrain⟩ :=
    StreamDecoder.drain_prefix clusterDecoder_encode clusterDecoder_nil hpkts hstream
  obtain ⟨hbuf, hcalls⟩ := processAll_connection (g := g) hmsgs hconn hrecvs
  rw [List.flatMap_def] at hdrain
  refine ⟨n, rest, heq, hrest, ?_, ?_⟩
  · rw [hcalls, recvCalls_of_drain clusterDecoder_nil hdrain]
  · rw [hbuf, StreamDecoder.feed_eq_drain clusterDecoder_nil hdrain]

/-- A packet and its two parts, the first of which ends inside a length. -/
def greeting : ClusterPacket := { targetActorName := [97], data := [1, 2, 3] }

def greetingChunks : List ActorMessage :=
  [.make .networkRecv 0 7 ((ClusterPacketCodec.encode greeting).take 5),
    .make .networkRecv 0 7 ((ClusterPacketCodec.encode greeting).drop 5)]

def greetingTraffic : List ActorMessage :=
  { type := .connected, fd := 7 } :: greetingChunks.intersperse (.make .networkRecv 0 8 [0])

/-- The two parts, with another descriptor's message between them, are put together. -/
theorem reassembles_two_chunks :
    ∃ n rest, greetingChunks.flatMap (·.dataBytes) =
        ([greeting].take n).flatMap ClusterPacketCodec.encode ++ rest ∧
      (∀ pkt, [greeting][n]? = some pkt →
        rest.length < (ClusterPacketCodec.encode pkt).length) ∧
      callsFor 7 (processAll ⟨fun _ => none⟩ greetingTraffic).2 =
        .sendHandshake 7 :: ([greeting].take n).map (.handleDecodedPacket · 7) ∧
      (processAll ⟨fun _ => none⟩ greetingTraffic).1.recvBuffers 7 = some rest := by
  have hfits : ∀ pkt ∈ [greeting], ClusterPacketCodec.Fits pkt := by
    intro pkt hpkt
    rw [List.mem_singleton.mp hpkt]
    exact ⟨by decide, by decide, by decide, by decide, by decide⟩
  have hmsgs : greetingTraffic.filter (·.fd = 7) =
      { type := .connected, fd := 7 } :: greetingChunks := by decide
  have hrecvs : ∀ m ∈ greetingChunks, m.type = .networkRecv := by decide
  have hstream : greetingChunks.flatMap (·.dataBytes) <+:
      [greeting].flatMap ClusterPacketCodec.encode := by decide
  exact reassembles hfits hmsgs rfl hrecvs hstream

/-! ### After a protocol error -/

/-- After a connection was removed none of its packets is handled. -/
def ConnectionDead (f : Fd) (calls : List GatewayCall) : Prop :=
  calls.Pairwise fun c c' => c = .removeConnection f → ∀ pkt, c' ≠ .handleDecodedPacket pkt f

lemma packetsFor_recvCalls (buf : Option Bytes) (cs : List Bytes) :
    packetsFor f (recvCalls f buf cs) = (clusterDecoder.feed buf cs).1 := by
  induction cs generalizing buf with
  | nil => rfl
  | cons c cs ih =>
    have herr : ∀ b : Bool, packetsFor f
        (if b then [] else [GatewayCall.onNodeDisconnected f, .removeConnection f]) = [] := by
      intro b; cases b <;> rfl
    have hpkts : ∀ pkts : List ClusterPacket,
        packetsFor f (pkts.map (GatewayCall.handleDecodedPacket · f)) = pkts := by
      intro pkts
      simp [packetsFor, List.filterMap_map]
    have happ : ∀ l l', packetsFor f (l ++ l') = packetsFor f l ++ packetsFor f l' :=
      fun l l' => List.filterMap_append
    simp only [recvCalls, StreamDecoder.feed, happ, herr, hpkts, ih, List.append_nil]

lemma mem_packetsFor {calls : List GatewayCall} {pkt : ClusterPacket}
    (h : .handleDecodedPacket pkt f ∈ calls) : pkt ∈ packetsFor f calls :=
  List.mem_filterMap.mpr ⟨_, h, by simp⟩

lemma connectionDead_of_notMem {calls : List GatewayCall}
    (h : ∀ pkt, .handleDecodedPacket pkt f ∉ calls) : ConnectionDead f calls :=
  List.pairwise_of_forall_mem_list fun _ _ _ hc' _ pkt e => h pkt (e ▸ hc')

/-- Packets that are handled before anything else do no harm. -/
lemma ConnectionDead.map_append {calls : List GatewayCall} (h : ConnectionDead f calls)
    (pkts : List ClusterPacket) :
    ConnectionDead f (pkts.map (.handleDecodedPacket · f) ++ calls) := by
  have hmap : ∀ c ∈ pkts.map (GatewayCall.handleDecodedPacket · f), c ≠ .removeConnection f := by
    intro c hc
    obtain ⟨pkt, -, rfl⟩ := List.mem_map.mp hc
    exact GatewayCall.noConfusion
  refine List.pairwise_append.mpr ⟨?_, h, fun c hc _ _ e => absurd e (hmap c hc)⟩
  exact List.pairwise_of_forall_mem_list fun c hc _ _ e => absurd e (hmap c hc)

/-- Chunks that give the items of their concatenation leave the connection dead. -/
lemma connectionDead_recvCalls {buf : Bytes} {cs : List Bytes}
    (hbuf : clusterDecoder.decode buf = .wait)
    (h : (clusterDecoder.feed (some buf) cs).1 = (clusterDecoder.drain (buf ++ cs.flatten)).1) :
    ConnectionDead f (recvCalls f (some buf) cs) := by
  induction cs generalizing buf with
  | nil => exact List.Pairwise.nil
  | cons c cs ih =>
    rw [List.flatten_cons, ← List.append_assoc, StreamDecoder.drain_append] at h
    unfold recvCalls
    dsimp only [Option.getD_some]
    rcases hr : clusterDecoder.drain (buf ++ c) with ⟨pkts, _ | rest⟩
    · -- after the rejection no item comes out, so nothing is handled
      have hnone : (clusterDecoder.feed none cs).1 = [] := by
        simpa [StreamDecoder.feed, hr] using h
      rw [List.append_assoc]
      refine ConnectionDead.map_append (connectionDead_of_notMem fun pkt hmem => ?_) pkts
      rcases List.mem_append.mp hmem with hmem | hmem
      · simp at hmem
      · have hpkt := mem_packetsFor hmem
        rw [packetsFor_recvCalls, hnone] at hpkt
        cases hpkt
    · have hrest : (clusterDecoder.feed (some rest) cs).1 =
          (clusterDecoder.drain (rest ++ cs.flatten)).1 := by
        simpa [StreamDecoder.feed, hr] using h
      have hwait := StreamDecoder.decode_rest (d := clusterDecoder) (s := buf ++ c) (by rw [hr])
      rw [Option.isSome_some, if_pos rfl, List.append_nil]
      exact (ih hwait hrest).map_append pkts

/-- What is handled of a connection, and that it is dead after an error, is independent of how its
stream was cut exactly when no run of the chunks after the error begins with a packet, where a run
starts with the first of them or after another error. -/
theorem dead_iff_quiet {msgs recvs : List ActorMessage} {conn : ActorMessage}
    (hmsgs : msgs.filter (·.fd = f) = conn :: recvs) (hconn : conn.type = .connected)
    (hrecvs : ∀ m ∈ recvs, m.type = .networkRecv) :
    (ConnectionDead f (callsFor f (g.processAll msgs).2) ∧
      packetsFor f (callsFor f (g.processAll msgs).2) =
        (clusterDecoder.drain (recvs.flatMap (·.dataBytes))).1) ↔
    clusterDecoder.QuietAfterReject (recvs.map (·.dataBytes)) := by
  obtain ⟨-, hcalls⟩ := processAll_connection (g := g) hmsgs hconn hrecvs
  have hpkts : packetsFor f (callsFor f (g.processAll msgs).2) =
      (clusterDecoder.feed (some []) (recvs.map (·.dataBytes))).1 := by
    rw [hcalls, ← packetsFor_recvCalls]
    rfl
  rw [← StreamDecoder.feed_eq_drain_iff clusterDecoder_nil, hpkts, hcalls, List.flatMap_def]
  constructor
  · rintro ⟨-, h⟩
    exact h
  · intro h
    refine ⟨List.Pairwise.cons ?_ (connectionDead_recvCalls clusterDecoder_nil h), h⟩
    intro c _ hc
    cases hc

/-- Four bytes that begin no frame, and in the next chunk a packet. -/
def errorThenPacket (pkt : ClusterPacket) : List ActorMessage :=
  [.make .networkRecv 0 7 [255, 255, 255, 255],
    .make .networkRecv 0 7 (ClusterPacketCodec.encode pkt)]

/-- The chunks after the error begin with a packet, so the connection is not dead. -/
theorem dead_iff_quiet_of_error :
    let conn : ActorMessage := { type := .connected, fd := 7 }
    let recvs := errorThenPacket {}
    let calls := callsFor 7 (processAll ⟨fun _ => none⟩ (conn :: recvs)).2
    (ConnectionDead 7 calls ∧
      packetsFor 7 calls = (clusterDecoder.drain (recvs.flatMap (·.dataBytes))).1) ↔
    clusterDecoder.QuietAfterReject (recvs.map (·.dataBytes)) := by
  intro conn recvs calls
  have hmsgs : (conn :: recvs).filter (·.fd = 7) = conn :: recvs := by decide
  exact dead_iff_quiet hmsgs rfl (by decide)

/-- The packet after the error is handled, though the gateway has removed the connection. -/
lemma callsFor_errorThenPacket :
    callsFor 7 (processAll ⟨fun _ => none⟩ ({ type := .connected, fd := 7 } ::
      errorThenPacket {})).2 =
    [.sendHandshake 7, .onNodeDisconnected 7, .removeConnection 7, .handleDecodedPacket {} 7] := by
  have herror : clusterDecoder.drain [255, 255, 255, 255] = ([], none) :=
    StreamDecoder.drain_reject (by decide)
  have hpacket : clusterDecoder.drain (ClusterPacketCodec.encode {}) = ([{}], some []) := by
    have hdecode : clusterDecoder.decode (ClusterPacketCodec.encode {}) = .item 21 {} := by decide
    have hdrop : (ClusterPacketCodec.encode {}).drop 21 = [] := by decide
    rw [StreamDecoder.drain_item hdecode, hdrop, StreamDecoder.drain_wait clusterDecoder_nil]
  have hmsgs : (({ type := .connected, fd := 7 } : ActorMessage) :: errorThenPacket {}).filter
      (·.fd = 7) = { type := .connected, fd := 7 } :: errorThenPacket {} := by decide
  obtain ⟨-, hcalls⟩ := processAll_connection (g := ⟨fun _ => none⟩) hmsgs rfl (by decide)
  rw [hcalls]
  have hfirst : (ActorMessage.make .networkRecv 0 7 [255, 255, 255, 255]).dataBytes =
    [255, 255, 255, 255] := ActorMessage.dataBytes_make _ _ _ _
  simp [errorThenPacket, recvCalls, herror, hpacket]

/-- Packets are handled after a protocol error. -/
theorem packet_after_error : ¬ ∀ (g : ClusterGatewayActor) (f : Fd) (msgs recvs : List ActorMessage)
    (conn : ActorMessage), msgs.filter (·.fd = f) = conn :: recvs → conn.type = .connected →
    (∀ m ∈ recvs, m.type = .networkRecv) →
    ConnectionDead f (callsFor f (g.processAll msgs).2) := by
  intro h
  have hdead := h ⟨fun _ => none⟩ 7 ({ type := .connected, fd := 7 } :: errorThenPacket {})
    (errorThenPacket {}) { type := .connected, fd := 7 } (by decide) rfl (by decide)
  rw [callsFor_errorThenPacket] at hdead
  simp [ConnectionDead] at hdead

end ClusterGatewayActor

end Balabala
