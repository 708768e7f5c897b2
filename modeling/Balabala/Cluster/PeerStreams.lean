import Balabala.Cluster.PeerOrder

/-!
# What arrives at the other end

Whatever connections come and go, and whichever of them use the same descriptor number, the packets
that a gateway handles for one end are a prefix of those that were written at the other, and none is
ever taken for a broken frame.
-/

namespace Balabala

open Foundation ClusterPacketCodec

namespace ClusterNet

variable {ι Tid : Type*} [DecidableEq ι] {s s' : ClusterNet ι Tid}
  {T : Topology ι Tid} {a : Action ι Tid} {e : ConnEnd ι} {i : ι}

/-! ### The stream of each end -/

/-- The bytes of an end that wait in a mailbox. -/
def queuedFor (e : ConnEnd ι) (mail : List (ConnEnd ι × ActorMessage)) : Bytes :=
  mail.flatMap fun x => if x.1 = e ∧ x.2.type = .networkRecv then x.2.dataBytes else []

/-- The packet that a call handles, if it is about the end. -/
def packetFor (e : ConnEnd ι) (x : ConnEnd ι × GatewayCall) : Option ClusterPacket :=
  match x.2 with
  | .handleDecodedPacket packet _ => if x.1 = e then some packet else none
  | _ => none

/-- The bytes of an end that its gateway has not fetched, and the packets it has not handled. -/
def queued (s : ClusterNet ι Tid) (e : ConnEnd ι) : Bytes := queuedFor e (s.host e.node).mailbox

def pending (s : ClusterNet ι Tid) (e : ConnEnd ι) : List ClusterPacket :=
  (s.host e.node).calls.filterMap (packetFor e)

/-- What was written at the other end is what was handled, what will be, what the gateway keeps,
what waits in the mailbox and what is in flight. -/
structure Streamed (T : Topology ι Tid) (s : ClusterNet ι Tid) (e : ConnEnd ι) : Prop where
  transfer : clusterDecoder.Transfer encode (s.sent (T.peer e)) (s.handled e ++ s.pending e)
    (s.held e) (s.queued e ++ s.inFlight e)
  buffer : (s.host e.node).current e.fd = some e →
    (s.host e.node).gateway.recvBuffers e.fd = some (s.held e)
  accepted : ∀ x ∈ (s.host e.node).calls, ∀ fd, x.2 ≠ .removeConnection fd

section Streamed

variable {e' : ConnEnd ι} {msg : ActorMessage} {mail : List (ConnEnd ι × ActorMessage)}

lemma queuedFor_post (e' e : ConnEnd ι) (msg : ActorMessage)
    (mail : List (ConnEnd ι × ActorMessage)) : queuedFor e' (mail ++ [(e, msg)]) =
      queuedFor e' mail ++ if e = e' ∧ msg.type = .networkRecv then msg.dataBytes else [] := by
  simp [queuedFor]

lemma queuedFor_cons (e' e : ConnEnd ι) (msg : ActorMessage)
    (mail : List (ConnEnd ι × ActorMessage)) : queuedFor e' ((e, msg) :: mail) =
      (if e = e' ∧ msg.type = .networkRecv then msg.dataBytes else []) ++ queuedFor e' mail := by
  simp [queuedFor]

/-- A change of one node that the streams do not see. -/
lemma Streamed.update (h : Streamed T s e) {i : ι} {x : ClusterHost ι Tid}
    (hmail : x.mailbox = (s.host i).mailbox) (hcalls : x.calls = (s.host i).calls)
    (hcurrent : x.current = (s.host i).current) (hgateway : x.gateway = (s.host i).gateway) :
    Streamed T (s.setHost i x) e := by
  by_cases hi : e.node = i
  · subst hi
    refine ⟨?_, ?_, ?_⟩
    · simpa [queued, pending, setHost, hmail, hcalls] using h.transfer
    · simpa [setHost, hcurrent, hgateway] using h.buffer
    · simpa [setHost, hcalls] using h.accepted
  · refine ⟨?_, ?_, ?_⟩
    · simpa [queued, pending, setHost, hi] using h.transfer
    · simpa [setHost, hi] using h.buffer
    · simpa [setHost, hi] using h.accepted

lemma Streamed.setStage (h : Streamed T s e) {st : EndStage} :
    Streamed T (s.setStage e' st) e := ⟨h.transfer, h.buffer, h.accepted⟩

/-- What is queued for an end after a message for some end. -/
lemma queued_post (e' e : ConnEnd ι) (msg : ActorMessage) : (s.post e' msg).queued e =
    s.queued e ++ if e' = e ∧ msg.type = .networkRecv then msg.dataBytes else [] := by
  by_cases hi : e.node = e'.node
  · simp [queued, post, setHost, hi, queuedFor_post]
  · have hne : e' ≠ e := by
      rintro rfl
      exact hi rfl
    simp [queued, post, setHost, hi, hne]

lemma Streamed.post (h : Streamed T s e) (e' : ConnEnd ι) {msg : ActorMessage}
    (ht : msg.type ≠ .networkRecv) : Streamed T (s.post e' msg) e := by
  have hq : (s.post e' msg).queued e = s.queued e := by simp [queued_post, ht]
  by_cases hi : e.node = e'.node
  · refine ⟨?_, ?_, ?_⟩
    · rw [hq]
      simpa [pending, ClusterNet.post, setHost, hi] using h.transfer
    · simpa [ClusterNet.post, setHost, hi] using h.buffer
    · simpa [ClusterNet.post, setHost, hi] using h.accepted
  · refine ⟨?_, ?_, ?_⟩
    · rw [hq]
      simpa [pending, ClusterNet.post, setHost, hi] using h.transfer
    · simpa [ClusterNet.post, setHost, hi] using h.buffer
    · simpa [ClusterNet.post, setHost, hi] using h.accepted

/-- Bytes go from the stream to the mailbox. -/
lemma Streamed.receive (h : Streamed T s e) (e' : ConnEnd ι) (n : Nat) :
    Streamed T (s.receive e' n) e := by
  have hahead : (s.receive e' n).queued e ++ (s.receive e' n).inFlight e =
      s.queued e ++ s.inFlight e := by
    have hq : (s.receive e' n).queued e =
        s.queued e ++ if e' = e then (s.inFlight e').take n else [] := by
      rw [ClusterNet.receive, queued_post]
      simp [queued, take]
    have hf : (s.receive e' n).inFlight e =
        if e = e' then (s.inFlight e').drop n else s.inFlight e := by
      simp [ClusterNet.receive, take, ClusterNet.post, setHost, Function.update_apply]
    rw [hq, hf]
    by_cases hne : e = e'
    · simp [hne]
    · simp [hne, Ne.symm hne]
  refine ⟨?_, ?_, ?_⟩
  · rw [hahead]
    by_cases hi : e.node = e'.node <;>
      simpa [pending, ClusterNet.receive, take, ClusterNet.post, setHost, hi] using h.transfer
  · by_cases hi : e.node = e'.node <;>
      simpa [ClusterNet.receive, take, ClusterNet.post, setHost, hi] using h.buffer
  · by_cases hi : e.node = e'.node <;>
      simpa [ClusterNet.receive, take, ClusterNet.post, setHost, hi] using h.accepted

/-- A packet that fits is written at some end. -/
lemma Streamed.write (h : Streamed T s e) (e' : ConnEnd ι) {packet : ClusterPacket}
    (hfits : Fits packet) : Streamed T (s.write e' T packet) e := by
  refine ⟨?_, h.buffer, h.accepted⟩
  by_cases hpeer : T.peer e = e'
  · have he : T.peer e' = e := by rw [← hpeer, T.peer_peer]
    have hput := h.transfer.put packet
    rw [List.append_assoc, ← handedOver_encode hfits, hpeer] at hput
    simpa [ClusterNet.write, queued, pending, hpeer, he] using hput
  · have he : e ≠ T.peer e' := by
      rintro rfl
      exact hpeer (T.peer_peer e')
    simpa [ClusterNet.write, queued, pending, hpeer, he] using h.transfer

lemma Streamed.send [DecidableEq Tid] (h : Streamed T s e) (e' : ConnEnd ι) (i : ι)
    (t : Option Tid) {out : Outgoing ι} (hfits : Fits out.packet) :
    Streamed T (s.send e' i T t out) e := by
  rcases s.send_cases e' i T t out with heq | ⟨-, heq⟩ | heq <;> rw [heq]
  · exact h
  · exact h.write e' hfits
  · exact h.update rfl rfl rfl rfl

/-- The gateway does the first of its calls. -/
lemma Streamed.call [DecidableEq Tid] (h : Streamed T s e) {e' : ConnEnd ι} {c : GatewayCall}
    {calls : List (ConnEnd ι × GatewayCall)} (hi : e'.node = i)
    (hcalls : (s.host i).calls = (e', c) :: calls) :
    Streamed T ((s.dropCall i calls).perform e' T c) e := by
  subst hi
  have hdrop : packetFor e (e', c) = none → Streamed T (s.dropCall e'.node calls) e := by
    intro hc
    by_cases hi : e.node = e'.node
    · have htransfer := h.transfer
      have hacc := h.accepted
      simp only [pending, hi, hcalls, List.filterMap_cons, hc] at htransfer
      rw [hi, hcalls] at hacc
      refine ⟨?_, ?_, ?_⟩
      · simpa [dropCall, setHost, queued, pending, hi] using htransfer
      · simpa [dropCall, setHost, hi] using h.buffer
      · simpa [dropCall, setHost, hi] using fun x y hx => hacc (x, y) (List.mem_cons_of_mem _ hx)
    · refine ⟨?_, ?_, ?_⟩
      · simpa [dropCall, setHost, queued, pending, hi] using h.transfer
      · simpa [dropCall, setHost, hi] using h.buffer
      · simpa [dropCall, setHost, hi] using h.accepted
  cases c with
  | sendHandshake fd =>
    rw [perform]
    split_ifs
    · exact hdrop rfl
    · exact (hdrop rfl).update rfl rfl rfl rfl
  | onNodeDisconnected fd => exact (hdrop rfl).update rfl rfl rfl rfl
  | removeConnection fd => exact hdrop rfl
  | handleDecodedPacket packet fd =>
    rw [perform]
    by_cases hne : e' = e
    · subst hne
      have htransfer := h.transfer
      have hacc := h.accepted
      simp only [pending, hcalls, List.filterMap_cons, packetFor, if_true] at htransfer
      rw [hcalls] at hacc
      refine ⟨?_, ?_, ?_⟩
      · simpa [handlePacket, dropCall, setHost, queued, pending] using htransfer
      · simpa [handlePacket, dropCall, setHost] using h.buffer
      · simpa [handlePacket, dropCall, setHost] using
          fun x y hx => hacc (x, y) (List.mem_cons_of_mem _ hx)
    · have hd := hdrop (if_neg hne)
      have hu := hd.update (i := e'.node)
        (x := ((s.dropCall e'.node calls).handlePacket e' packet).host e'.node)
        (by simp [handlePacket]) (by simp [handlePacket]) (by simp [handlePacket])
        (by simp [handlePacket])
      refine ⟨?_, ?_, ?_⟩
      · simpa [handlePacket, setHost, queued, pending, Ne.symm hne] using hu.transfer
      · simpa [handlePacket, setHost] using hu.buffer
      · simpa [handlePacket, setHost] using hu.accepted

/-- The gateway takes a chunk: the stream is not rejected. -/
lemma Streamed.fetch_recv (h : Streamed T s e) (hfits : ∀ p ∈ s.sent (T.peer e), Fits p)
    (hcalls : (s.host e.node).calls = []) (hmail : (s.host e.node).mailbox = (e, msg) :: mail)
    (ht : msg.type = .networkRecv) (hfd : msg.fd = e.fd)
    (hcur : (s.host e.node).current e.fd = some e) : Streamed T (s.fetch e msg mail) e := by
  have hbuf := h.buffer hcur
  have htransfer := h.transfer
  simp only [queued, pending, hmail, hcalls, queuedFor_cons, ht, and_self, if_true,
    List.filterMap_nil, List.append_nil, List.append_assoc] at htransfer
  obtain ⟨pkts, rest, hdrain, hrest⟩ :=
    htransfer.take clusterDecoder_encode clusterDecoder_nil hfits
  have hmsg : (s.host e.node).gateway.onCoroutineMessage msg =
      (⟨Function.update (s.host e.node).gateway.recvBuffers e.fd (some rest)⟩,
        pkts.map (GatewayCall.handleDecodedPacket · e.fd)) := by
    simp [ClusterGatewayActor.onCoroutineMessage, ht, hfd, hbuf, hdrain]
  have hheld : (s.fetch e msg mail).held e = rest := by simp [ClusterNet.fetch, ht, hmsg, hfd]
  have hpending : (s.fetch e msg mail).pending e = pkts := by
    simp [ClusterNet.fetch, hmsg, pending, List.filterMap_map, packetFor, Function.comp_def]
  have hqueued : (s.fetch e msg mail).queued e = queuedFor e mail := by
    simp [ClusterNet.fetch, queued]
  refine ⟨?_, fun _ => ?_, ?_⟩
  · rw [hheld, hpending, hqueued]
    exact hrest
  · rw [hheld]
    simp [ClusterNet.fetch, hmsg]
  · simp [ClusterNet.fetch, hmsg]

/-- The gateway turns to a new connection, of which it has nothing yet. -/
lemma Streamed.fetch_connected (h : Streamed T s e) (hcalls : (s.host e.node).calls = [])
    (hmail : (s.host e.node).mailbox = (e, msg) :: mail) (ht : msg.type = .connected)
    (hfd : msg.fd = e.fd) (hheld : s.held e = []) : Streamed T (s.fetch e msg mail) e := by
  have htransfer := h.transfer
  simp only [queued, pending, hmail, hcalls, queuedFor_cons, ht, List.filterMap_nil, hheld]
    at htransfer
  refine ⟨?_, fun _ => ?_, ?_⟩
  · simpa [ClusterNet.fetch, ClusterGatewayActor.onCoroutineMessage, ht, queued, pending,
      List.filterMap_cons, packetFor] using htransfer
  · simp [ClusterNet.fetch, ClusterGatewayActor.onCoroutineMessage, ht, hfd]
  · simp [ClusterNet.fetch, ClusterGatewayActor.onCoroutineMessage, ht]

lemma Streamed.fetch_disconnected (h : Streamed T s e) (hcalls : (s.host e.node).calls = [])
    (hmail : (s.host e.node).mailbox = (e, msg) :: mail) (ht : msg.type = .disconnected)
    (hfd : msg.fd = e.fd) : Streamed T (s.fetch e msg mail) e := by
  have htransfer := h.transfer
  simp only [queued, pending, hmail, hcalls, queuedFor_cons, ht, List.filterMap_nil] at htransfer
  refine ⟨?_, fun hcur => ?_, ?_⟩
  · simpa [ClusterNet.fetch, ClusterGatewayActor.onCoroutineMessage, ht, queued, pending,
      List.filterMap_cons, packetFor] using htransfer
  · simp [ClusterNet.fetch, currentAfter, ht, hfd] at hcur
  · simp [ClusterNet.fetch, ClusterGatewayActor.onCoroutineMessage, ht]

/-- No other stream is touched, though its end may have the same descriptor number. -/
lemma Streamed.fetch_other (h : Streamed T s e')
    (ho : InOrder s.stage s.held e.node (s.host e.node)) (hcalls : (s.host e.node).calls = [])
    (hmail : (s.host e.node).mailbox = (e, msg) :: mail) (hne : e' ≠ e)
    (hacc : ∀ x ∈ ((s.fetch e msg mail).host e.node).calls, ∀ fd, x.2 ≠ .removeConnection fd) :
    Streamed T (s.fetch e msg mail) e' := by
  have hheld : (s.fetch e msg mail).held e' = s.held e' := by
    rw [ClusterNet.fetch]
    cases msg.type <;> simp [hne]
  by_cases hi : e'.node = e.node
  · have hqueued : (s.fetch e msg mail).queued e' = s.queued e' := by
      simp [ClusterNet.fetch, queued, hi, hmail, queuedFor_cons, Ne.symm hne]
    have hpending : (s.fetch e msg mail).pending e' = s.pending e' := by
      simp [ClusterNet.fetch, pending, hi, hcalls, List.filterMap_map, packetFor,
        Function.comp_def, Ne.symm hne]
      intro c _
      cases c <;> rfl
    refine ⟨?_, fun hcur => ?_, ?_⟩
    · rw [hheld, hqueued, hpending]
      exact h.transfer
    · have hcur : currentAfter e (s.host e.node) msg e'.fd = some e' := by
        simpa [ClusterNet.fetch, hi] using hcur
      by_cases hf : msg.fd = e'.fd
      · rw [← hf] at hcur
        exact absurd hcur (ho.currentAfter_ne hmail hne)
      · rw [currentAfter_other hf] at hcur
        rw [hheld, ← h.buffer (by rw [hi]; exact hcur)]
        simpa [ClusterNet.fetch, hi] using
          (ClusterGatewayActor.onCoroutineMessage_other (g := (s.host e.node).gateway) hf).1
    · rw [hi]
      exact hacc
  · refine ⟨?_, ?_, ?_⟩
    · rw [hheld]
      simpa [ClusterNet.fetch, queued, pending, hi] using h.transfer
    · rw [hheld]
      simpa [ClusterNet.fetch, hi] using h.buffer
    · simpa [ClusterNet.fetch, hi] using h.accepted

lemma Streamed.fetch (h : ∀ e, Streamed T s e) (hm : Marked e.node (s.host e.node))
    (ho : AllInOrder s) (hfits : ∀ e, ∀ p ∈ s.sent e, Fits p)
    (hcalls : (s.host e.node).calls = []) (hmail : (s.host e.node).mailbox = (e, msg) :: mail)
    (e' : ConnEnd ι) : Streamed T (s.fetch e msg mail) e' := by
  have hhead : (e, msg) ∈ (s.host e.node).mailbox := by
    rw [hmail]
    exact List.mem_cons_self
  have hfd : msg.fd = e.fd := (hm.mail _ hhead).2
  have hown : Streamed T (s.fetch e msg mail) e := by
    rcases (ho e.node).head hmail with ht | ht | ⟨ht, hcur⟩
    · have hnil := ((ho e.node).unheard e rfl (.inr ⟨_, hhead, rfl, ht⟩)).1
      exact (h e).fetch_connected hcalls hmail ht hfd hnil
    · exact (h e).fetch_disconnected hcalls hmail ht hfd
    · rw [hfd] at hcur
      exact (h e).fetch_recv (hfits _) hcalls hmail ht hfd hcur
  by_cases hne : e' = e
  · exact hne ▸ hown
  · exact (h e').fetch_other (ho e.node) hcalls hmail hne hown.accepted

lemma Streamed.next [DecidableEq Tid] (h : ∀ e, Streamed T s e) (hm : ∀ i, Marked i (s.host i))
    (ho : AllInOrder s) (hfits : Carries (fun _ => Fits) s)
    (hearly : ∀ e n bound, a ≠ .receiveEarly e n bound) (hs : Step T s a s') (e : ConnEnd ι) :
    Streamed T s' e := by
  cases hs with
  | opened e' hstage hfree | openedAtOnce e' hstage hfree =>
    have hconnect : Streamed T (s.connect e') e := (h e).update rfl rfl rfl rfl
    exact hconnect.setStage
  | announce e' hstage hconn =>
    refine ((h e).post e' ?_).setStage
    rintro ⟨⟩
  | refuse e' hstage hconn =>
    refine ((h e).post e' ?_).setStage
    rintro ⟨⟩
  | receive e' n hstage hconn => exact (h e).receive e' n
  | receiveEarly e' n bound hconn => exact absurd rfl (hearly e' n bound)
  | endOfStream e' hstage hconn =>
    refine ((h e).post e' ?_).setStage
    rintro ⟨⟩
  | remove i fd => exact (h e).update rfl rfl rfl rfl
  | lookup i t packet => exact (h e).update rfl rfl rfl rfl
  | getConnection i t out hhand =>
    have hset : Streamed T (s.setHand i t none) e := (h e).update rfl rfl rfl rfl
    exact hset.update rfl rfl rfl rfl
  | send i t out e' hfound =>
    have hset : Streamed T (s.setFound i t none) e := (h e).update rfl rfl rfl rfl
    exact hset.send e' i t (hfits.onItsWay i out (.inr (.inl ⟨t, e', hfound⟩)))
  | sendTask i e' out tasks htasks hconn =>
    have hdrop : Streamed T (s.dropTask i tasks) e := (h e).update rfl rfl rfl rfl
    have hout : out ∈ (s.host i).tasks := by
      rw [htasks]
      exact List.mem_cons_self
    exact hdrop.send e' i _ (hfits.onItsWay i out (.inr (.inr hout)))
  | dropped i out tasks htasks hconn => exact (h e).update rfl rfl rfl rfl
  | fetch i e' msg mailbox hcalls hmail =>
    obtain rfl : e'.node = i :=
      ((hm i).mail (e', msg) (by rw [hmail]; exact List.mem_cons_self)).1
    exact Streamed.fetch h (hm _) ho hfits.sent hcalls hmail e
  | call i e' c calls hcalls =>
    have hi : e'.node = i := ((hm i).calls (e', c) (by rw [hcalls]; exact List.mem_cons_self)).1
    exact (h e).call hi hcalls

end Streamed

/-! ### Every run -/

section Runs

variable [DecidableEq Tid]

/-- Senders build their packets as `SendToRemote` and `ClusterProxy` do, under the name of the node,
and send none for which the wire format has no room. Nothing comes over a connection established at
once before the gateway is told of it. -/
def Proper (T : Topology ι Tid) (_ : ClusterNet ι Tid) : Action ι Tid → Prop
  | .lookup i _ packet => Fits packet ∧ packet.sourceNodeId = T.localNodeId i
  | .receiveEarly _ _ _ => False
  | _ => True

instance (packet : ClusterPacket) : Decidable (Fits packet) :=
  decidable_of_iff (packet.sourceNodeId.length ≤ 65535 ∧ packet.targetNodeId.length ≤ 65535 ∧
      packet.sourceActorName.length ≤ 65535 ∧ packet.targetActorName.length ≤ 65535 ∧
      (encodeBody packet).length ≤ kMaxBodyLen)
    (by
      constructor
      · rintro ⟨h₁, h₂, h₃, h₄, h₅⟩
        exact ⟨h₁, h₂, h₃, h₄, h₅⟩
      · rintro ⟨h₁, h₂, h₃, h₄, h₅⟩
        exact ⟨h₁, h₂, h₃, h₄, h₅⟩)

instance (s : ClusterNet ι Tid) (a : Action ι Tid) : Decidable (Proper T s a) := by
  cases a <;> unfold Proper <;> infer_instance

omit [DecidableEq ι] [DecidableEq Tid] in
lemma Proper.notEarly (ha : Proper T s a) (e : ConnEnd ι) (n : Nat) (bound : Bool) :
    a ≠ .receiveEarly e n bound := by
  rintro rfl
  exact ha

omit [DecidableEq ι] [DecidableEq Tid] in
lemma fits_handshake {nodeId : Bytes} (h : nodeId.length ≤ 65535) : Fits (handshake nodeId) where
  sourceNodeId := h
  targetNodeId := Nat.zero_le _
  sourceActorName := Nat.zero_le _
  targetActorName := Nat.zero_le _
  body := by
    have hdata : clusterHandshakeMagic.length = 17 := rfl
    rw [length_encodeBody]
    simp only [handshake, List.length_nil, hdata, kMinBodyLen, kMaxBodyLen]
    omega

/-- The calls of `SendByName` for a packet: none for a handshake. -/
def passedOn (packet : ClusterPacket) : List SendByNameCall :=
  if packet.data = clusterHandshakeMagic then []
  else ClusterReceiver.onPacketReceived true packet

omit [DecidableEq Tid] in
lemma delivered_handlePacket (h : s.delivered e = (s.handled e).flatMap passedOn)
    (e' : ConnEnd ι) (packet : ClusterPacket) : (s.handlePacket e' packet).delivered e =
      ((s.handlePacket e' packet).handled e).flatMap passedOn := by
  have hmade : ∀ t : NodeTable,
      (ClusterGatewayActor.handleDecodedPacket true t packet e'.fd).2 = passedOn packet := by
    intro t
    rw [passedOn]
    split_ifs with hdata
    · exact ClusterGatewayActor.handleDecodedPacket_magic true hdata
    · rw [ClusterGatewayActor.handleDecodedPacket_of_ne true hdata]
  by_cases hne : e = e'
  · subst hne
    simp [handlePacket, hmade, h]
  · simp [handlePacket, hne, h]

/-- Only handling a packet calls `SendByName`. -/
lemma delivered_next (h : s.delivered e = (s.handled e).flatMap passedOn) (hs : Step T s a s') :
    s'.delivered e = (s'.handled e).flatMap passedOn := by
  have hsend : ∀ (s : ClusterNet ι Tid) e' i t out,
      s.delivered e = (s.handled e).flatMap passedOn →
      (s.send e' i T t out).delivered e = ((s.send e' i T t out).handled e).flatMap passedOn := by
    intro s e' i t out h
    rcases s.send_cases e' i T t out with heq | ⟨-, heq⟩ | heq <;> rw [heq] <;> exact h
  cases hs with
  | receiveEarly e' n bound hconn =>
    rcases s.receiveEarly_cases e' n bound with heq | ⟨msg, -, heq⟩ <;> rw [heq] <;> exact h
  | send i t out e' hfound => exact hsend (s.setFound i t none) e' i t out h
  | sendTask i e' out tasks htasks hconn => exact hsend (s.dropTask i tasks) e' i _ out h
  | call i e' c calls hcalls =>
    cases c with
    | sendHandshake fd =>
      rw [perform]
      split_ifs <;> exact h
    | handleDecodedPacket packet fd =>
      exact delivered_handlePacket (s := s.dropCall i calls) h e' packet
    | onNodeDisconnected fd => exact h
    | removeConnection fd => exact h
  | _ => exact h

/-- What every run keeps of the mailboxes and of the streams. -/
structure Sound (T : Topology ι Tid) (s : ClusterNet ι Tid) : Prop where
  marked : ∀ i, Marked i (s.host i)
  inOrder : AllInOrder s
  fits : Carries (fun _ => Fits) s
  named : Carries (fun i packet => packet.sourceNodeId = T.localNodeId i) s
  streamed : ∀ e, Streamed T s e
  delivered : ∀ e, s.delivered e = (s.handled e).flatMap passedOn

omit [DecidableEq Tid] in
lemma sound_start : Sound T (start : ClusterNet ι Tid) where
  marked i := ⟨by rintro x ⟨⟩, by rintro x ⟨⟩, by rintro fd e ⟨⟩, by rintro fd e ⟨⟩,
    by rintro t x ⟨⟩⟩
  inOrder i :=
    { follows := fun fd => ⟨none, rfl, by rintro e _ ⟨⟩⟩
      first := List.Pairwise.nil
      unmarked := by rintro e _ _ x ⟨⟩
      unheard := fun e _ _ => ⟨rfl, by rintro fd ⟨⟩⟩ }
  fits := ⟨fun i out h => absurd h not_onItsWay_start, by rintro e packet ⟨⟩⟩
  named := ⟨fun i out h => absurd h not_onItsWay_start, by rintro e packet ⟨⟩⟩
  streamed e := ⟨.start clusterDecoder_nil, by rintro ⟨⟩, by rintro x ⟨⟩⟩
  delivered e := rfl

lemma Sound.next (hT : T.NamesFit) (h : Sound T s) (ha : Proper T s a) (hs : Step T s a s') :
    Sound T s' where
  marked := marked_next h.marked hs
  inOrder := h.inOrder.next h.marked ha.notEarly hs
  fits := by
    refine h.fits.next h.marked (fun i => fits_handshake (hT i)) ?_ hs
    rintro i t packet rfl
    exact ha.1
  named := by
    refine h.named.next h.marked (fun i => rfl) ?_ hs
    rintro i t packet rfl
    exact ha.2
  streamed := Streamed.next h.streamed h.marked h.inOrder h.fits ha.notEarly hs
  delivered e := delivered_next (h.delivered e) hs

theorem sound_of_reach (hT : T.NamesFit) (h : (machine T).Reach (Proper T) s) : Sound T s := by
  refine h.invariant ?_ fun s a s' _ ih ha hs => ih.next hT ha (step_of_next hs)
  rintro s rfl
  exact sound_start

/-- Nothing of the stream is under way to the end. -/
structure Settled (s : ClusterNet ι Tid) (e : ConnEnd ι) : Prop where
  inFlight : s.inFlight e = []
  mailbox : ∀ x ∈ (s.host e.node).mailbox, x.1 ≠ e
  calls : ∀ x ∈ (s.host e.node).calls, x.1 ≠ e

/-- Two nodes, where both ends of a connection have the same number. The first of the two threads
runs the loop. -/
def twoNodes : Topology Bool Bool where
  localNodeId i := if i then [66] else [65]
  loopThread _ := false
  peer e := { e with node := !e.node }
  peer_peer e := by simp

lemma namesFit_twoNodes : twoNodes.NamesFit := by
  intro i
  cases i <;> decide

/-- Both nodes shake hands over a connection that one of them has established at once. The other one
sends a packet in its loop's thread, which overtakes the handshake of the gateway. -/
def shakeHands : List (Action Bool Bool) :=
  let a : ConnEnd Bool := { node := false, fd := 5, serial := 0 }
  let b : ConnEnd Bool := { node := true, fd := 5, serial := 0 }
  [.opened a, .announce a, .openedAtOnce b, .announce b, .fetch false, .fetch true, .call false,
    .call true, .send true none, .runTask true, .receive a 39, .send false none, .fetch false,
    .call false, .lookup false false { sourceNodeId := [65], targetNodeId := [66] },
    .getConnection false false, .send false (some false), .runTask false, .receive b 50]

example : (((machine twoNodes).runWith (Proper twoNodes) start shakeHands).map fun s =>
    ((s.sent ⟨false, 5, 0⟩).map (·.targetNodeId), s.inFlight ⟨true, 5, 0⟩)) =
  some ([[66], []], (encode (handshake [65])).drop 27) := by decide +kernel

end Runs

end ClusterNet

end Balabala
