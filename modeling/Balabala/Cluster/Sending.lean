import Balabala.Cluster.Grammar
import Balabala.Cluster.NodeTable
import Balabala.Cluster.SendPaths

/-!
# Sending a packet

`SendPacket` hands the encoding of a packet to a connection and returns true. It does not ask
whether the packet fits the wire format, and the limits are in `Decode` only: the peer of a packet
that does not fit recovers some other packets from the stream, or drops the connection.

`SendToRemote` tries one transport after the other. It moves the payload into the packet for the
first of them, so the others get a packet without it.
-/

namespace Balabala

open Foundation ClusterPacketCodec

/-! ### SendPacket -/

/-- `Connection::Send(pData, nLen)` gets the size cast to `int`, and does nothing unless it is
positive. -/
def handedOver (encoded : Bytes) : Bytes :=
  encoded.take (Int.bmod encoded.length (2 ^ 32)).toNat

/-- There is a connection that leads to the node. -/
def NodeTable.Routed (t : NodeTable) (getConnection : Fd → Bool) (packet : ClusterPacket) : Prop :=
  ¬ t.getFdByNodeId packet.targetNodeId < 0 ∧
    getConnection (t.getFdByNodeId packet.targetNodeId) = true

/-- What was sent is recovered by the peer, and what does not fit was not sent. -/
structure NodeTable.SentDecodable (t : NodeTable) (getConnection : Fd → Bool)
    (packet : ClusterPacket) : Prop where
  decoded : ∀ fd encoded, t.sendPacket getConnection packet = some (fd, encoded) →
    ∀ rest, decode (handedOver encoded ++ rest) = .item (handedOver encoded).length packet
  refused : ¬ Fits packet → t.sendPacket getConnection packet = none

/-- The size of a packet that fits is not changed by the cast. -/
lemma handedOver_encode {pkt : ClusterPacket} (h : Fits pkt) :
    handedOver (encode pkt) = encode pkt := by
  have hbody := h.body
  have hlen := length_encode pkt
  simp only [kMaxBodyLen] at hbody
  have hcast : Int.bmod (encode pkt).length (2 ^ 32) = (encode pkt).length :=
    Int.bmod_eq_of_le (by omega) (by omega)
  rw [handedOver, hcast, Int.toNat_natCast, List.take_length]

lemma sendPacket_of_routed {t : NodeTable} {getConnection : Fd → Bool} {pkt : ClusterPacket}
    (h : t.Routed getConnection pkt) :
    t.sendPacket getConnection pkt = some (t.getFdByNodeId pkt.targetNodeId, encode pkt) := by
  rw [NodeTable.sendPacket, if_neg h.1, if_pos h.2]

lemma sendPacket_of_not_routed {t : NodeTable} {getConnection : Fd → Bool} {pkt : ClusterPacket}
    (h : ¬ t.Routed getConnection pkt) : t.sendPacket getConnection pkt = none := by
  rw [NodeTable.sendPacket]
  split_ifs with hfd hconn
  · rfl
  · exact absurd ⟨hfd, hconn⟩ h
  · rfl

/-- What is sent can be decoded exactly when the packet fits, or when there is no connection to
the node and nothing is sent. -/
theorem sentDecodable_iff (t : NodeTable) (getConnection : Fd → Bool) (pkt : ClusterPacket) :
    t.SentDecodable getConnection pkt ↔ Fits pkt ∨ ¬ t.Routed getConnection pkt := by
  constructor
  · intro h
    by_contra hnot
    rw [not_or, Classical.not_not] at hnot
    obtain ⟨hfits, hrouted⟩ := hnot
    have hnone := h.refused hfits
    rw [sendPacket_of_routed hrouted] at hnone
    cases hnone
  · rintro (hfits | hrouted)
    · refine ⟨fun fd encoded h rest => ?_, fun hnot => absurd hfits hnot⟩
      have hsent : encoded = encode pkt := by
        by_cases hr : t.Routed getConnection pkt
        · rw [sendPacket_of_routed hr] at h
          exact (Prod.ext_iff.mp (Option.some.inj h)).2.symm
        · rw [sendPacket_of_not_routed hr] at h
          cases h
      rw [hsent, handedOver_encode hfits]
      exact decode_encode_append hfits rest
    · have hnone := sendPacket_of_not_routed hrouted
      refine ⟨fun fd encoded h => ?_, fun _ => hnone⟩
      rw [hnone] at h
      cases h

/-- A name of 65536 bytes is sent, with 0 as its length. -/
theorem sends_long_name : ¬ ∀ (t : NodeTable) (getConnection : Fd → Bool) (pkt : ClusterPacket),
    t.SentDecodable getConnection pkt := by
  intro h
  let t := NodeTable.empty.registerNodeFd [66] 7
  let pkt : ClusterPacket := { sourceNodeId := List.replicate 65536 0, targetNodeId := [66] }
  have hrouted : t.Routed (fun _ => true) pkt := ⟨by decide, rfl⟩
  rcases (sentDecodable_iff t (fun _ => true) pkt).mp (h _ _ _) with hfits | hnot
  · have hlen := hfits.sourceNodeId
    rw [List.length_replicate] at hlen
    exact absurd hlen (by decide)
  · exact hnot hrouted

/-- The peer recovers a sequence of packets from the stream exactly when all of them fit. -/
theorem drain_sent_iff (pkts : List ClusterPacket) :
    clusterDecoder.drain (pkts.flatMap encode) = (pkts, some []) ↔ ∀ pkt ∈ pkts, Fits pkt := by
  constructor
  · intro h pkt hpkt
    have hmem : pkt ∈ (clusterDecoder.drain (pkts.flatMap encode)).1 := by rwa [h]
    obtain ⟨s, n, hs⟩ := StreamDecoder.decode_of_mem_drain hmem
    exact fits_of_decode hs
  · exact StreamDecoder.drain_flatMap clusterDecoder_encode clusterDecoder_nil

/-! ### Fail-over -/

namespace ClusterView

/-- The packet that `SendToRemote` builds for a transport. -/
def packetFor (sys : ClusterView) (targetNodeId targetActorName : Bytes) (msg : ActorMessage)
    (senderName : Bytes) (transport : Transport) (data : Bytes) : ClusterPacket where
  sourceNodeId := transport.localNodeId
  targetNodeId := targetNodeId
  sourceActorName :=
    if senderName.isEmpty && 0 < msg.sourceId then sys.getActorName msg.sourceId else senderName
  targetActorName := targetActorName
  sessionId := msg.sessionId
  isResponse := msg.isResponse
  data := data

lemma sendToRemote_eq (sys : ClusterView) (targetNodeId targetActorName : Bytes)
    (msg : ActorMessage) (senderName : Bytes) :
    sys.sendToRemote targetNodeId targetActorName msg senderName =
      offer (sys.packetFor targetNodeId targetActorName msg senderName) sys.transports msg.data :=
  rfl

variable {pkt : Transport → Bytes → ClusterPacket} {transports : List Transport} {data : Bytes}

/-- Every packet that is handed out is one without the payload, but for the first. -/
lemma offer_getElem? {k : Nat} {p : ClusterPacket}
    (h : (offer pkt transports data).2[k]? = some p) :
    ∃ transport, transports[k]? = some transport ∧
      p = pkt transport (if k = 0 then data else []) := by
  induction transports generalizing data k with
  | nil => simp [offer] at h
  | cons transport transports ih =>
    rw [offer] at h
    cases k with
    | zero =>
      refine ⟨transport, rfl, ?_⟩
      split_ifs at h <;> exact (Option.some.inj h).symm
    | succ k =>
      split_ifs at h with ha
      · cases h
      · obtain ⟨t, ht, rfl⟩ := ih h
        exact ⟨t, ht, by simp⟩

/-- A message that is not accepted was offered to every transport. -/
lemma length_offer_of_refused (h : (offer pkt transports data).1 = false) :
    (offer pkt transports data).2.length = transports.length := by
  induction transports generalizing data with
  | nil => rfl
  | cons transport transports ih =>
    rw [offer] at h ⊢
    split_ifs at h ⊢ with ha
    exact congrArg Nat.succ (ih h)

/-- The transport that accepts a message is the last one it was offered to. -/
lemma exists_accepting (h : (offer pkt transports data).1 = true) :
    ∃ k transport p, transports[k]? = some transport ∧
      (offer pkt transports data).2[k]? = some p ∧
      (offer pkt transports data).2.length = k + 1 ∧ transport.sendPacket p = true := by
  induction transports generalizing data with
  | nil => cases h
  | cons transport transports ih =>
    rw [offer] at h ⊢
    split_ifs at h ⊢ with ha
    · exact ⟨0, transport, pkt transport data, rfl, rfl, rfl, ha⟩
    · obtain ⟨k, t, p, ht, hp, hlen, hacc⟩ := ih h
      exact ⟨k + 1, t, p, ht, hp, congrArg Nat.succ hlen, hacc⟩

/-- A refusal is followed by another offer. -/
lemma offer_of_refused {first : Transport} (second : Transport) (rest : List Transport)
    (h : first.sendPacket (pkt first data) = false) :
    ∃ p ps, (offer pkt (first :: second :: rest) data).2 = pkt first data :: p :: ps := by
  have hoffer : (offer pkt (first :: second :: rest) data).2 =
      pkt first data :: (offer pkt (second :: rest) []).2 := by
    rw [offer, if_neg (by simp [h])]
  have hmore : ∃ p ps, (offer pkt (second :: rest) []).2 = p :: ps := by
    rw [offer]
    split_ifs <;> exact ⟨_, _, rfl⟩
  obtain ⟨p, ps, hps⟩ := hmore
  exact ⟨p, ps, by rw [hoffer, hps]⟩

variable (sys : ClusterView) (targetNodeId targetActorName : Bytes) (msg : ActorMessage)
  (senderName : Bytes)

/-- The packet that was accepted is the one the transport would have got as the only one; or every
transport was offered the payload. -/
structure Intact : Prop where
  accepted : (sys.sendToRemote targetNodeId targetActorName msg senderName).1 = true →
    ∃ k transport p, sys.transports[k]? = some transport ∧
      (sys.sendToRemote targetNodeId targetActorName msg senderName).2[k]? = some p ∧
      (sys.sendToRemote targetNodeId targetActorName msg senderName).2.length = k + 1 ∧
      transport.sendPacket p = true ∧
      (sendToRemote { sys with transports := [transport] } targetNodeId targetActorName msg
        senderName).2 = [p]
  refused : (sys.sendToRemote targetNodeId targetActorName msg senderName).1 = false →
    (sys.sendToRemote targetNodeId targetActorName msg senderName).2.length =
        sys.transports.length ∧
      ∀ p ∈ (sys.sendToRemote targetNodeId targetActorName msg senderName).2, p.data = msg.data

/-- The only transport gets the payload. -/
lemma sendToRemote_alone (transport : Transport) :
    (sendToRemote { sys with transports := [transport] } targetNodeId targetActorName msg
      senderName).2 =
      [sys.packetFor targetNodeId targetActorName msg senderName transport msg.data] := by
  rw [sendToRemote_eq, offer_singleton]
  rfl

/-- No transport is tried after a refusal, or there is no payload to lose. -/
def NothingToLose : Prop :=
  msg.data = [] ∨ ∀ first second rest, sys.transports = first :: second :: rest →
    first.sendPacket
      (sys.packetFor targetNodeId targetActorName msg senderName first msg.data) = true

variable {sys targetNodeId targetActorName msg senderName}

/-- With nothing to lose every packet carries the payload. -/
lemma NothingToLose.getElem? (h : sys.NothingToLose targetNodeId targetActorName msg senderName)
    {k : Nat} {p : ClusterPacket}
    (hp : (sys.sendToRemote targetNodeId targetActorName msg senderName).2[k]? = some p) :
    ∃ transport, sys.transports[k]? = some transport ∧
      p = sys.packetFor targetNodeId targetActorName msg senderName transport msg.data := by
  rw [sendToRemote_eq] at hp
  obtain ⟨transport, ht, rfl⟩ := offer_getElem? hp
  refine ⟨transport, ht, ?_⟩
  rcases h with hdata | hfirst
  · simp [hdata]
  · have hk : k = 0 := by
      by_contra hk
      rcases hts : sys.transports with _ | ⟨first, _ | ⟨second, rest⟩⟩
      · simp [hts] at ht
      · simp [hts, hk] at ht
      · rw [hts, offer, if_pos (hfirst first second rest hts)] at hp
        simp [hk] at hp
    rw [if_pos hk]

/-- A message gets through fail-over intact exactly when there is nothing to lose. -/
theorem intact_iff : sys.Intact targetNodeId targetActorName msg senderName ↔
    sys.NothingToLose targetNodeId targetActorName msg senderName := by
  constructor
  · intro h
    by_contra hnot
    simp only [NothingToLose, not_or, not_forall] at hnot
    obtain ⟨hdata, first, second, rest, hts, hrefused⟩ := hnot
    have hoffer := offer_of_refused second rest (Bool.eq_false_iff.mpr hrefused)
    rw [← hts, ← sendToRemote_eq] at hoffer
    obtain ⟨p, ps, hps⟩ := hoffer
    -- the second packet, and every one after it, is without the payload
    have hempty : ∀ k q,
        (sys.sendToRemote targetNodeId targetActorName msg senderName).2[k + 1]? = some q →
          q.data ≠ msg.data := by
      intro k q hq
      rw [sendToRemote_eq] at hq
      obtain ⟨transport, -, rfl⟩ := offer_getElem? hq
      exact fun he => hdata he.symm
    cases hr : (sys.sendToRemote targetNodeId targetActorName msg senderName).1 with
    | true =>
      obtain ⟨k, transport, q, -, hq, hlen, -, halone⟩ := h.accepted hr
      rw [sendToRemote_alone] at halone
      cases k with
      | zero => simp [hps] at hlen
      | succ k =>
        apply hempty k q hq
        rw [← List.singleton_injective halone]
        rfl
    | false =>
      apply hempty 0 p (by rw [hps]; rfl)
      exact (h.refused hr).2 p (by rw [hps]; simp)
  · intro h
    refine ⟨fun hr => ?_, fun hr => ⟨length_offer_of_refused hr, fun p hp => ?_⟩⟩
    · obtain ⟨k, transport, p, ht, hp, hlen, hacc⟩ := exists_accepting hr
      obtain ⟨t, ht', hpt⟩ := h.getElem? hp
      obtain rfl : transport = t := Option.some.inj (ht.symm.trans ht')
      refine ⟨k, transport, p, ht, hp, hlen, hacc, ?_⟩
      rw [sendToRemote_alone, hpt]
    · obtain ⟨k, hk⟩ := List.mem_iff_getElem?.mp hp
      obtain ⟨transport, -, rfl⟩ := h.getElem? hk
      rfl

/-- The second transport accepts the message after the payload is gone. -/
theorem failover_loses_payload : ¬ ∀ (sys : ClusterView) (targetNodeId targetActorName : Bytes)
    (msg : ActorMessage) (senderName : Bytes),
    sys.Intact targetNodeId targetActorName msg senderName := by
  intro h
  have hnothing := intact_iff.mp (h ⟨fun _ => none, [⟨[65], fun _ => false⟩, ⟨[65], fun _ => true⟩]⟩
    [66] [98] { data := [104, 105] } [97])
  rcases hnothing with hdata | hfirst
  · cases hdata
  · exact absurd (hfirst _ _ _ rfl) (by decide)

end ClusterView

end Balabala
