import Balabala.Cluster.Calls

/-!
# Which coroutine an answer resumes

An answer finds its way back by the name of the caller and by the session id, and neither is kept
for it while the call is on its way: the name may go over to another actor, whose sessions have the
same ids, and after 2^32 sessions of the caller itself the id is given out again. Apart from that, a
coroutine that is resumed gets the answer to its own request.
-/

namespace Balabala

open Foundation

/-! ### What is on its way -/

/-- The session id of a message that belongs to a call is the one that the call was given, and one
that belongs to none has the session id `0`. -/
def Sound (peers : Bytes → ActorId → Option Peer) (k : UInt32) : Option CallId → Prop
  | none => k = 0
  | some call => k = UInt32.ofNat call.number ∧
      ∃ p, peers call.node call.actor = some p ∧ Actor.Issued p.actor p.number call.number

namespace Peer

variable {p p' : Peer} {l : Letter}

/-- All messages that an actor was sent and that may still have an effect. -/
def letters (p : Peer) : List Letter :=
  p.priorityMailbox.queue ++ p.normalMailbox.queue ++ p.requests

lemma mem_letters : l ∈ p.letters ↔
    (l ∈ p.priorityMailbox.queue ∨ l ∈ p.normalMailbox.queue) ∨ l ∈ p.requests := by
  rw [letters]
  rw [List.mem_append, List.mem_append]

lemma mem_letters_pushMessage {m : Letter} (h : l ∈ (p.pushMessage m).letters) :
    l ∈ p.letters ∨ l = m := by
  rw [pushMessage] at h
  split_ifs at h
  · rw [mem_letters] at h ⊢
    simp only [SpinLockQueue.queue_push, List.mem_append, List.mem_singleton] at h
    tauto
  · rw [mem_letters] at h ⊢
    simp only [SpinLockQueue.queue_push, List.mem_append, List.mem_singleton] at h
    tauto

@[simp] lemma actor_pushMessage : (p.pushMessage l).actor = p.actor := by
  rw [pushMessage]
  split_ifs <;> rfl

@[simp] lemma number_pushMessage : (p.pushMessage l).number = p.number := by
  rw [pushMessage]
  split_ifs <;> rfl

/-- `ProcessOne` takes a message out, and leaves the coroutines alone. -/
lemma pop_eq_some (h : p.pop = some (l, p')) :
    l ∈ p.letters ∧ (∀ m ∈ p'.letters, m ∈ p.letters) ∧ p'.actor = p.actor ∧
      p'.number = p.number := by
  rw [pop] at h
  split at h
  · rename_i m q hq
    cases h
    obtain ⟨hqueue, -, -⟩ := SpinLockQueue.pop_eq_some hq
    simp only [mem_letters, hqueue, List.mem_cons]
    refine ⟨.inl (.inl (.inl trivial)), fun m hm => ?_, trivial, trivial⟩
    exact hm.imp_left (Or.imp_left .inr)
  · obtain ⟨⟨m, q⟩, hq, he⟩ := Option.map_eq_some_iff.mp h
    cases he
    obtain ⟨hqueue, -, -⟩ := SpinLockQueue.pop_eq_some hq
    simp only [mem_letters, hqueue, List.mem_cons]
    refine ⟨.inl (.inr (.inl trivial)), fun m hm => ?_, trivial, trivial⟩
    exact hm.imp_left (Or.imp_right .inr)

lemma requests_of_pop (h : p.pop = some (l, p')) : p'.requests = p.requests := by
  rw [pop] at h
  split at h
  · cases h
    rfl
  · obtain ⟨x, -, he⟩ := Option.map_eq_some_iff.mp h
    cases he
    rfl

lemma letters_of_step {action : Actor.Action} (h : p.step action = some p') :
    p'.letters = p.letters ∧ p'.requests = p.requests := by
  obtain ⟨actor, -, rfl⟩ := Option.map_eq_some_iff.mp h
  exact ⟨rfl, rfl⟩

lemma step_eq_some {action : Actor.Action} (h : p.step action = some p') :
    Actor.Step p.actor p'.actor ∧ p'.number = Actor.noteAwait p.number p.actor p'.actor ∧
      p'.letters = p.letters := by
  obtain ⟨actor, hactor, rfl⟩ := Option.map_eq_some_iff.mp h
  exact ⟨Actor.Step.of_next hactor, rfl, rfl⟩

end Peer

namespace Cluster

variable {c c' : Cluster} {node : Bytes} {a : ActorId} {p p' : Peer} {k : UInt32}
  {call : Option CallId} {l : Letter}

/-! ### What one step can do -/

inductive Step (c : Cluster) : Action → Cluster → Prop
  | post (node : Bytes) (a : ActorId) (msg : ActorMessage) (hk : msg.sessionId = 0) :
      Step c (.post node a msg) (c.send node a { msg, call := none })
  | processOne (node : Bytes) (a : ActorId) (p q : Peer) (l : Letter) (c' : Cluster)
      (hp : c.peers node a = some p) (hpop : p.pop = some (l, q))
      (h : c.onMessage node a q l = some c') : Step c (.processOne node a) c'
  | run (node : Bytes) (a : ActorId) (action : Actor.Action) (p p' : Peer)
      (hp : c.peers node a = some p) (hs : p.step action = some p') :
      Step c (.run node a action) (c.setPeer node a p')
  | suspend (node : Bytes) (a : ActorId) (p p' : Peer) (hp : c.peers node a = some p)
      (hs : p.step .suspend = some p') : Step c (.suspend node a) (c.setPeer node a p')
  | transmit (node : Bytes) (a : ActorId) (r : Request) (p p' : Peer) (h : Nat) (w : Awaiter)
      (rest : List Activation) (hp : c.peers node a = some p)
      (hw : p.actor.stack = ⟨h, .send w⟩ :: rest) (hr : r.msg.isResponse = false)
      (hs : p.step .suspend = some p') : Step c (.transmit node a r)
        ((c.setPeer node a p').transmit node a ⟨node, a, p.number h⟩ w r)
  | arm (node : Bytes) (a : ActorId) (positive : Bool) (p p' : Peer) (h : Nat) (w : Awaiter)
      (rest : List Activation) (hp : c.peers node a = some p)
      (hw : p.actor.stack = ⟨h, .setTimeout w⟩ :: rest) (hs : p.step .suspend = some p') :
      Step c (.arm node a positive)
        ((c.setPeer node a p').arm node a ⟨node, a, p.number h⟩ w positive)
  | respond (node : Bytes) (a : ActorId) (i : Nat) (response : ActorMessage) (p : Peer)
      (request : Letter) (hp : c.peers node a = some p) (hr : p.requests[i]? = some request) :
      Step c (.respond node a i response) (c.respond node a request response)
  | respondRemote (node : Bytes) (a : ActorId) (i : Nat) (responseData : Bytes)
      (transports : List Transport) (p : Peer) (request : Letter)
      (hp : c.peers node a = some p) (hr : p.requests[i]? = some request) :
      Step c (.respondRemote node a i responseData transports)
        (c.respondRemote node a request responseData transports)
  | deliver (i : Nat) (node : Bytes) (t : NodeTable) (fd : Fd) (x : Parcel)
      (hx : c.packets[i]? = some x) :
      Step c (.deliver i node t fd)
        ((ClusterGatewayActor.handleDecodedPacket true t x.pkt fd).2.foldl
          (fun c call => c.sendByName node call.name { msg := call.msg, call := x.call })
          { c with packets := c.packets.eraseIdx i })
  | fire (i : Nat) (x : Timeout) (hx : x ∈ c.timeouts) :
      Step c (.fire i) ({ c with timeouts := c.timeouts.eraseIdx i }.send x.node x.actorId x.letter)
  | registerName (node name : Bytes) (a : ActorId) :
      Step c (.registerName node name a)
        { c with names := Function.update c.names node ((c.names node).registerName name a) }
  | unregisterName (node name : Bytes) :
      Step c (.unregisterName node name)
        { c with names := Function.update c.names node ((c.names node).unregisterName name) }

theorem Step.of_next {action : Action} (h : c.next action = some c') : Step c action c' := by
  cases action with
  | post node a msg =>
    simp only [next] at h
    split_ifs at h with hk
    cases h
    exact .post node a msg hk
  | processOne node a =>
    obtain ⟨p, hp, h⟩ := Option.bind_eq_some_iff.mp h
    obtain ⟨⟨l, q⟩, hpop, h⟩ := Option.bind_eq_some_iff.mp h
    exact .processOne node a p q l c' hp hpop h
  | run node a action =>
    simp only [next] at h
    split at h
    · cases h
    · cases h
    · obtain ⟨p, hp, h⟩ := Option.bind_eq_some_iff.mp h
      obtain ⟨p', hs, rfl⟩ := Option.map_eq_some_iff.mp h
      exact .run node a _ p p' hp hs
  | suspend node a =>
    obtain ⟨p, hp, h⟩ := Option.bind_eq_some_iff.mp h
    split at h
    · obtain ⟨p', hs, rfl⟩ := Option.map_eq_some_iff.mp h
      exact .suspend node a p p' hp hs
    · obtain ⟨p', hs, rfl⟩ := Option.map_eq_some_iff.mp h
      exact .suspend node a p p' hp hs
    · cases h
  | transmit node a r =>
    obtain ⟨p, hp, h⟩ := Option.bind_eq_some_iff.mp h
    split at h
    · rename_i g w rest hw
      split_ifs at h with hr
      obtain ⟨p', hs, rfl⟩ := Option.map_eq_some_iff.mp h
      exact .transmit node a r p p' g w rest hp hw (by simpa using hr) hs
    · cases h
  | arm node a positive =>
    obtain ⟨p, hp, h⟩ := Option.bind_eq_some_iff.mp h
    split at h
    · rename_i g w rest hw
      obtain ⟨p', hs, rfl⟩ := Option.map_eq_some_iff.mp h
      exact .arm node a positive p p' g w rest hp hw hs
    · cases h
  | respond node a i response =>
    obtain ⟨p, hp, h⟩ := Option.bind_eq_some_iff.mp h
    split_ifs at h
    obtain ⟨request, hr, rfl⟩ := Option.map_eq_some_iff.mp h
    exact .respond node a i response p request hp hr
  | respondRemote node a i responseData transports =>
    obtain ⟨p, hp, h⟩ := Option.bind_eq_some_iff.mp h
    split_ifs at h
    obtain ⟨request, hr, rfl⟩ := Option.map_eq_some_iff.mp h
    exact .respondRemote node a i responseData transports p request hp hr
  | deliver i node t fd =>
    obtain ⟨x, hx, rfl⟩ := Option.map_eq_some_iff.mp h
    exact .deliver i node t fd x hx
  | fire i =>
    obtain ⟨x, hx, rfl⟩ := Option.map_eq_some_iff.mp h
    exact .fire i x (List.mem_of_getElem? hx)
  | registerName node name a =>
    cases h
    exact .registerName node name a
  | unregisterName node name =>
    cases h
    exact .unregisterName node name

/-! ### The invariant -/

/-- The sessions of every actor are in order, and so is everything on its way. -/
structure InOrder (c : Cluster) : Prop where
  numbered : ∀ node a p, c.peers node a = some p → Actor.Numbered p.actor p.number
  letters : ∀ node a p, c.peers node a = some p → ∀ l ∈ p.letters,
    Sound c.peers l.msg.sessionId l.call
  packets : ∀ x ∈ c.packets, Sound c.peers x.pkt.sessionId x.call
  timeouts : ∀ x ∈ c.timeouts, Sound c.peers x.letter.msg.sessionId x.letter.call

/-! ### An actor moves on -/

lemma peers_setPeer (n : Bytes) (b : ActorId) :
    (c.setPeer node a p).peers n b = if n = node ∧ b = a then some p else c.peers n b := by
  rw [setPeer]
  by_cases hn : n = node
  · subst hn
    by_cases hb : b = a
    · subst hb
      simp
    · simp [hb]
  · simp [hn]

lemma Sound.setPeer (hs : Sound c.peers k call) (hp : c.peers node a = some p)
    (hl : Actor.Later p.actor p.number p'.actor p'.number) :
    Sound (c.setPeer node a p').peers k call := by
  cases call with
  | none => exact hs
  | some call =>
    obtain ⟨hk, q, hq, hi⟩ := hs
    refine ⟨hk, ?_⟩
    rw [peers_setPeer]
    split_ifs with he
    · obtain ⟨hn, ha⟩ := he
      rw [hn, ha, hp] at hq
      obtain rfl : p = q := Option.some.inj hq
      exact ⟨p', rfl, hi.later hl⟩
    · exact ⟨q, hq, hi⟩

namespace InOrder

lemma setPeer (hi : InOrder c) (hp : c.peers node a = some p)
    (hn : Actor.Numbered p'.actor p'.number)
    (hl : Actor.Later p.actor p.number p'.actor p'.number)
    (hs : ∀ l ∈ p'.letters, Sound c.peers l.msg.sessionId l.call) :
    InOrder (c.setPeer node a p') where
  numbered n b q hq := by
    rw [peers_setPeer] at hq
    split_ifs at hq with he
    · cases hq
      exact hn
    · exact hi.numbered n b q hq
  letters n b q hq l hmem := by
    rw [peers_setPeer] at hq
    split_ifs at hq with he
    · cases hq
      exact Sound.setPeer (hs l hmem) hp hl
    · exact Sound.setPeer (hi.letters n b q hq l hmem) hp hl
  packets x hx := Sound.setPeer (hi.packets x hx) hp hl
  timeouts x hx := Sound.setPeer (hi.timeouts x hx) hp hl

/-- A step of the coroutines of an actor. -/
lemma step (hi : InOrder c) (hp : c.peers node a = some p) {action : Actor.Action}
    (hs : p.step action = some p') : InOrder (c.setPeer node a p') := by
  obtain ⟨hstep, hnum, hletters⟩ := Peer.step_eq_some hs
  obtain ⟨hn, hl⟩ := hstep.numbered (hi.numbered node a p hp)
  rw [← hnum] at hn hl
  refine hi.setPeer hp hn hl fun l hmem => ?_
  rw [hletters] at hmem
  exact hi.letters node a p hp l hmem

end InOrder

/-! ### Messages move on -/

lemma Sound.send (hs : Sound c.peers k call) : Sound (c.send node a l).peers k call := by
  rw [Cluster.send]
  split
  · exact hs
  · rename_i p hp
    apply Sound.setPeer hs hp
    rw [Peer.actor_pushMessage, Peer.number_pushMessage]
    exact Actor.Later.refl _ _

lemma Sound.sendByName {name : Bytes} (hs : Sound c.peers k call) :
    Sound (c.sendByName node name l).peers k call := by
  unfold Cluster.sendByName
  dsimp only
  split_ifs
  · exact Sound.send hs
  · exact hs

/-- Every packet that `SendToRemote` builds has the session id of the message. -/
lemma sessionId_of_mem_sendToRemote {view : ClusterView} {nodeId name sender : Bytes}
    {msg : ActorMessage} {x : ClusterPacket}
    (hx : x ∈ (view.sendToRemote nodeId name msg sender).2) : x.sessionId = msg.sessionId := by
  rw [ClusterView.sendToRemote] at hx
  obtain ⟨transport, -, data, rfl⟩ := ClusterView.exists_of_mem_offer hx
  rfl

/-- The gateway makes no other calls than with the session id of the packet. -/
lemma sessionId_of_mem_handleDecodedPacket {t : NodeTable} {pkt : ClusterPacket} {fd : Fd}
    {x : SendByNameCall} (hx : x ∈ (ClusterGatewayActor.handleDecodedPacket true t pkt fd).2) :
    x.msg.sessionId = pkt.sessionId := by
  by_cases hdata : pkt.data = clusterHandshakeMagic
  · rw [ClusterGatewayActor.handleDecodedPacket_magic true hdata] at hx
    cases hx
  · rw [ClusterGatewayActor.handleDecodedPacket_of_ne true hdata] at hx
    simp only [ClusterReceiver.onPacketReceived, not_true_eq_false, if_false] at hx
    split_ifs at hx
    · obtain rfl := List.mem_singleton.mp hx
      rfl
    · cases hx

namespace InOrder

lemma send (hi : InOrder c) (hl : Sound c.peers l.msg.sessionId l.call) :
    InOrder (c.send node a l) := by
  rw [Cluster.send]
  split
  · exact hi
  · rename_i p hp
    apply hi.setPeer hp
    · rw [Peer.actor_pushMessage, Peer.number_pushMessage]
      exact hi.numbered node a p hp
    · rw [Peer.actor_pushMessage, Peer.number_pushMessage]
      exact Actor.Later.refl _ _
    · intro m hm
      rcases Peer.mem_letters_pushMessage hm with hm | rfl
      · exact hi.letters node a p hp m hm
      · exact hl

lemma sendByName {name : Bytes} (hi : InOrder c) (hl : Sound c.peers l.msg.sessionId l.call) :
    InOrder (c.sendByName node name l) := by
  unfold Cluster.sendByName
  dsimp only
  split_ifs
  · exact hi.send hl
  · exact hi

lemma setPackets (hi : InOrder c) {packets : List Parcel}
    (h : ∀ x ∈ packets, Sound c.peers x.pkt.sessionId x.call) :
    InOrder { c with packets } where
  numbered := hi.numbered
  letters := hi.letters
  packets := h
  timeouts := hi.timeouts

lemma setTimeouts (hi : InOrder c) {timeouts : List Timeout}
    (h : ∀ x ∈ timeouts, Sound c.peers x.letter.msg.sessionId x.letter.call) :
    InOrder { c with timeouts } where
  numbered := hi.numbered
  letters := hi.letters
  packets := hi.packets
  timeouts := h

lemma setNames (hi : InOrder c) (names : Bytes → Names) : InOrder { c with names } where
  numbered := hi.numbered
  letters := hi.letters
  packets := hi.packets
  timeouts := hi.timeouts

lemma setResumptions (hi : InOrder c) (resumptions : List Resumption) :
    InOrder { c with resumptions } where
  numbered := hi.numbered
  letters := hi.letters
  packets := hi.packets
  timeouts := hi.timeouts

lemma handOver (hi : InOrder c) {sent : Bool × List ClusterPacket}
    (h : ∀ pkt ∈ sent.2, Sound c.peers pkt.sessionId call) : InOrder (c.handOver sent call) := by
  rw [Cluster.handOver]
  split
  · rename_i pkt _ hlast
    refine hi.setPackets fun x hx => ?_
    rcases List.mem_append.mp hx with hx | hx
    · exact hi.packets x hx
    · obtain rfl := List.mem_singleton.mp hx
      exact h pkt (List.mem_of_getLast? hlast)
  · exact hi

lemma addTimeout (hi : InOrder c) {x : Timeout}
    (h : Sound c.peers x.letter.msg.sessionId x.letter.call) :
    InOrder { c with timeouts := c.timeouts ++ [x] } := by
  refine hi.setTimeouts fun y hy => ?_
  rcases List.mem_append.mp hy with hy | hy
  · exact hi.timeouts y hy
  · obtain rfl := List.mem_singleton.mp hy
    exact h

/-! ### What the steps keep -/

/-- The call of the coroutine that is inside `await_suspend`, its handle stored. -/
lemma sound_call (hi : InOrder c) (hp : c.peers node a = some p) {h : Nat} {pc : FramePc}
    {rest : List Activation} {w : Awaiter} (hs : p.actor.stack = ⟨h, pc⟩ :: rest)
    (hw : Actor.storing p.actor.stack = some (h, w)) (hpc : pc.awaiter = some w)
    {action : Actor.Action} (hstep : p.step action = some p') :
    Sound (c.setPeer node a p').peers w.sessionId (some ⟨node, a, p.number h⟩) := by
  obtain ⟨hk, hissued⟩ := (hi.numbered node a p hp).issued hs hw hpc
  obtain ⟨hnext, hnum, -⟩ := Peer.step_eq_some hstep
  have hlater := (hnext.numbered (hi.numbered node a p hp)).2
  rw [← hnum] at hlater
  exact Sound.setPeer ⟨hk, p, hp, hissued⟩ hp hlater

lemma transmit (hi : InOrder c) {id : CallId} {w : Awaiter} (r : Request)
    (hs : Sound c.peers w.sessionId (some id)) : InOrder (c.transmit node a id w r) := by
  rw [Cluster.transmit]
  dsimp only
  split
  · exact hi.send hs
  · refine hi.handOver fun pkt hpkt => ?_
    rw [sessionId_of_mem_sendToRemote hpkt]
    exact hs
  · exact hi

lemma arm (hi : InOrder c) {id : CallId} {w : Awaiter} (positive : Bool)
    (hs : Sound c.peers w.sessionId (some id)) : InOrder (c.arm node a id w positive) := by
  rw [Cluster.arm]
  dsimp only
  split
  · split_ifs
    · exact hi.addTimeout hs
    · exact hi
  · split_ifs
    · exact hi.addTimeout hs
    · exact hi
  · exact hi.addTimeout hs

lemma respond (hi : InOrder c) {request : Letter}
    (hr : Sound c.peers request.msg.sessionId request.call) (response : ActorMessage) :
    InOrder (c.respond node a request response) :=
  hi.send hr

lemma respondRemote (hi : InOrder c) {request : Letter}
    (hr : Sound c.peers request.msg.sessionId request.call) (responseData : Bytes)
    (transports : List Transport) :
    InOrder (c.respondRemote node a request responseData transports) := by
  rw [Cluster.respondRemote]
  dsimp only
  split_ifs
  · refine hi.handOver fun pkt hpkt => ?_
    rw [sessionId_of_mem_sendToRemote hpkt]
    exact hr
  · exact hi

/-- `ProcessOne`: the popped message goes to a coroutine that waits, or to a new one. -/
lemma onMessage (hi : InOrder c) (hp : c.peers node a = some p) {q : Peer}
    (hpop : p.pop = some (l, q)) (h : c.onMessage node a q l = some c') : InOrder c' := by
  obtain ⟨hl, hletters, hactor, hnumber⟩ := Peer.pop_eq_some hpop
  obtain ⟨q', hstep, rfl⟩ := Option.map_eq_some_iff.mp h
  obtain ⟨hnext, hnum, hq'⟩ := Peer.step_eq_some hstep
  rw [hactor, hnumber] at hnum
  rw [hactor] at hnext
  obtain ⟨hn, hlater⟩ := hnext.numbered (hi.numbered node a p hp)
  rw [← hnum] at hn hlater
  have hkept : ∀ m ∈ q'.letters, Sound c.peers m.msg.sessionId m.call := by
    intro m hm
    rw [hq'] at hm
    exact hi.letters node a p hp m (hletters m hm)
  split_ifs
  · exact (hi.setPeer hp hn hlater hkept).setResumptions _
  · refine hi.setPeer hp hn hlater fun m hm => ?_
    rcases Peer.mem_letters.mp hm with hm | hm
    · exact hkept m (Peer.mem_letters.mpr (.inl hm))
    · rcases List.mem_append.mp hm with hm | hm
      · exact hkept m (Peer.mem_letters.mpr (.inr hm))
      · obtain rfl := List.mem_singleton.mp hm
        exact hi.letters node a p hp m hl

/-- The calls of a gateway for one packet. -/
lemma sendAll (hi : InOrder c) {calls : List SendByNameCall}
    (hk : ∀ x ∈ calls, x.msg.sessionId = k) (hs : Sound c.peers k call) :
    InOrder (calls.foldl (fun c x => c.sendByName node x.name { msg := x.msg, call }) c) := by
  induction calls generalizing c with
  | nil => exact hi
  | cons x calls ih =>
    have hx : Sound c.peers x.msg.sessionId call := by
      rw [hk x List.mem_cons_self]
      exact hs
    exact ih (hi.sendByName hx) (fun y hy => hk y (List.mem_cons_of_mem x hy))
      (Sound.sendByName hs)

end InOrder

/-- Every step keeps sessions and messages in order. -/
theorem Step.inOrder {action : Action} (h : Step c action c') (hi : InOrder c) : InOrder c' := by
  cases h with
  | post node a msg hk => exact hi.send hk
  | processOne node a p q l c' hp hpop h => exact hi.onMessage hp hpop h
  | run node a action p p' hp hs => exact hi.step hp hs
  | suspend node a p p' hp hs => exact hi.step hp hs
  | transmit node a r p p' g w rest hp hw hr hs =>
    have hstoring : Actor.storing p.actor.stack = some (g, w) := by rw [hw]; rfl
    exact (hi.step hp hs).transmit r (hi.sound_call hp hw hstoring rfl hs)
  | arm node a positive p p' g w rest hp hw hs =>
    have hstoring : Actor.storing p.actor.stack = some (g, w) := by rw [hw]; rfl
    exact (hi.step hp hs).arm positive (hi.sound_call hp hw hstoring rfl hs)
  | respond node a i response p request hp hr =>
    have hmem : request ∈ p.letters := Peer.mem_letters.mpr (.inr (List.mem_of_getElem? hr))
    exact hi.respond (hi.letters node a p hp request hmem) response
  | respondRemote node a i responseData transports p request hp hr =>
    have hmem : request ∈ p.letters := Peer.mem_letters.mpr (.inr (List.mem_of_getElem? hr))
    exact hi.respondRemote (hi.letters node a p hp request hmem) responseData transports
  | deliver i node t fd x hx =>
    have hrest : InOrder { c with packets := c.packets.eraseIdx i } :=
      hi.setPackets fun y hy => hi.packets y (List.mem_of_mem_eraseIdx hy)
    exact hrest.sendAll (fun y hy => sessionId_of_mem_handleDecodedPacket hy)
      (hi.packets x (List.mem_of_getElem? hx))
  | fire i x hx =>
    have hrest : InOrder { c with timeouts := c.timeouts.eraseIdx i } :=
      hi.setTimeouts fun y hy => hi.timeouts y (List.mem_of_mem_eraseIdx hy)
    exact hrest.send (hi.timeouts x hx)
  | registerName | unregisterName => exact hi.setNames _

lemma inOrder_start (isActor : Bytes → ActorId → Bool) : InOrder (start isActor) where
  numbered node a p hp := by
    simp only [start] at hp
    split_ifs at hp
    cases hp
    exact Actor.numbered_start _
  letters node a p hp l hl := by
    simp only [start] at hp
    split_ifs at hp
    cases hp
    cases hl
  packets x hx := by cases hx
  timeouts x hx := by cases hx

/-! ### Who is resumed -/

section Resumptions

@[simp] lemma resumptions_send : (c.send node a l).resumptions = c.resumptions := by
  rw [send]
  split <;> rfl

@[simp] lemma resumptions_sendByName (name : Bytes) :
    (c.sendByName node name l).resumptions = c.resumptions := by
  unfold sendByName
  dsimp only
  split_ifs <;> simp

@[simp] lemma resumptions_handOver (sent : Bool × List ClusterPacket) :
    (c.handOver sent call).resumptions = c.resumptions := by
  rw [handOver]
  split <;> rfl

@[simp] lemma resumptions_transmit (id : CallId) (w : Awaiter) (r : Request) :
    (c.transmit node a id w r).resumptions = c.resumptions := by
  rw [transmit]
  dsimp only
  split <;> simp

@[simp] lemma resumptions_arm (id : CallId) (w : Awaiter) (positive : Bool) :
    (c.arm node a id w positive).resumptions = c.resumptions := by
  rw [arm]
  dsimp only
  split
  · split_ifs <;> rfl
  · split_ifs <;> rfl
  · rfl

lemma resumptions_sendAll (calls : List SendByNameCall) :
    (calls.foldl (fun c x => c.sendByName node x.name { msg := x.msg, call }) c).resumptions =
      c.resumptions := by
  induction calls generalizing c with
  | nil => rfl
  | cons x calls ih => rw [List.foldl_cons, ih, resumptions_sendByName]

lemma resumptions_respondRemote (request : Letter) (responseData : Bytes)
    (transports : List Transport) :
    (c.respondRemote node a request responseData transports).resumptions = c.resumptions := by
  rw [respondRemote]
  dsimp only
  split_ifs
  · exact resumptions_handOver _
  · rfl

/-- Only `ProcessOne` resumes. -/
lemma Step.resumptions_eq {action : Action} (h : Step c action c')
    (hne : ∀ node a, action ≠ .processOne node a) : c'.resumptions = c.resumptions := by
  cases h with
  | processOne node a p q l c' hp hpop h => exact absurd rfl (hne node a)
  | post | respond | fire => exact resumptions_send
  | run | suspend | registerName | unregisterName => rfl
  | transmit => exact resumptions_transmit _ _ _
  | arm => exact resumptions_arm _ _ _
  | respondRemote => exact resumptions_respondRemote _ _ _
  | deliver => exact resumptions_sendAll _

end Resumptions

/-- Where a response finds a coroutine waiting under its session id, the actor that handles it is
the one that made the call, and has allocated fewer than 2^32 sessions since. -/
def MeetsCaller (c : Cluster) : Action → Prop
  | .processOne node a => ∀ p l q, c.peers node a = some p → p.actor.stack = [] →
      p.pop = some (l, q) → l.msg.isResponse = true → 0 < l.msg.sessionId →
      p.actor.waitMap l.msg.sessionId ≠ none →
      ∃ number, l.call = some ⟨node, a, number⟩ ∧ p.actor.allocated < number + 2 ^ 32
  | _ => True

/-- A response resumes the coroutine it was produced for exactly when it meets its caller. -/
lemma InOrder.cause_eq_iff (hi : InOrder c) (hp : c.peers node a = some p)
    (hs : p.actor.stack = []) (hl : l ∈ p.letters) (hpos : 0 < l.msg.sessionId) {h : Nat}
    (hw : p.actor.waitMap l.msg.sessionId = some h) :
    l.call = some ⟨node, a, p.number h⟩ ↔
      ∃ number, l.call = some ⟨node, a, number⟩ ∧ p.actor.allocated < number + 2 ^ 32 := by
  have hsound := hi.letters node a p hp l hl
  have hn := hi.numbered node a p hp
  cases hcall : l.call with
  | none =>
    rw [hcall] at hsound
    rw [show l.msg.sessionId = 0 from hsound] at hpos
    exact absurd hpos (by decide)
  | some call =>
    rw [hcall] at hsound
    obtain ⟨hk, q, hq, hissued⟩ := hsound
    have hmeets : ∀ number, call = ⟨node, a, number⟩ →
        (p.number h = number ↔ p.actor.allocated < number + 2 ^ 32) := by
      rintro number rfl
      obtain rfl : p = q := Option.some.inj (hp.symm.trans hq)
      rw [hk] at hw
      exact hn.number_eq_iff hs hissued hw
    constructor
    · intro he
      exact ⟨p.number h, he, (hmeets _ (Option.some.inj he)).mp rfl⟩
    · rintro ⟨number, he, hlt⟩
      rw [he, (hmeets number (Option.some.inj he)).mpr hlt]

/-- What `ProcessOne` resumes is in place exactly when it meets the condition. -/
lemma InOrder.own_onMessage_iff (hi : InOrder c) (ho : Own c) (hp : c.peers node a = some p)
    {q : Peer} (hpop : p.pop = some (l, q)) (h : c.onMessage node a q l = some c') :
    Own c' ↔ MeetsCaller c (.processOne node a) := by
  obtain ⟨hl, -, hactor, hnumber⟩ := Peer.pop_eq_some hpop
  obtain ⟨q', hstep, rfl⟩ := Option.map_eq_some_iff.mp h
  have hs : p.actor.stack = [] := by
    obtain ⟨actor, hactor', -⟩ := Option.map_eq_some_iff.mp hstep
    simp only [Actor.next, hactor] at hactor'
    split_ifs at hactor' with hs
    exact hs
  -- only a response under whose session id a coroutine waits is at issue
  have hcond : MeetsCaller c (.processOne node a) ↔ (l.msg.isResponse = true →
      0 < l.msg.sessionId → p.actor.waitMap l.msg.sessionId ≠ none →
      ∃ number, l.call = some ⟨node, a, number⟩ ∧ p.actor.allocated < number + 2 ^ 32) := by
    constructor
    · intro hm
      exact hm p l q hp hs hpop
    · intro hm p₁ l₁ q₁ hp₁ _ hpop₁
      obtain rfl : p = p₁ := Option.some.inj (hp.symm.trans hp₁)
      obtain ⟨rfl, -⟩ := Prod.mk.inj (Option.some.inj (hpop.symm.trans hpop₁))
      exact hm
  rw [hcond]
  split_ifs with hresp
  · simp only [Bool.and_eq_true, decide_eq_true_eq] at hresp
    obtain ⟨hr, hpos⟩ := hresp
    rw [hactor, hnumber]
    cases hw : p.actor.waitMap l.msg.sessionId with
    | none => exact ⟨fun _ _ _ hne => absurd rfl hne, fun _ => ho⟩
    | some g =>
      have hiff := hi.cause_eq_iff hp hs hl hpos hw
      constructor
      · intro ho' _ _ _
        exact hiff.mp (ho' ⟨_, _⟩ (List.mem_append_right _ (List.mem_singleton_self _)))
      · intro hm r hr'
        rcases List.mem_append.mp hr' with hr' | hr'
        · exact ho r hr'
        · obtain rfl := List.mem_singleton.mp hr'
          exact hiff.mpr (hm hr hpos (by simp))
  · simp only [Bool.and_eq_true, decide_eq_true_eq] at hresp
    exact ⟨fun _ hr hpos => absurd ⟨hr, hpos⟩ hresp, fun _ => ho⟩

/-- An enabled step keeps every resumption in place exactly when it meets the condition. -/
lemma InOrder.own_next_iff (hi : InOrder c) (ho : Own c) {action : Action}
    (h : c.next action = some c') : Own c' ↔ MeetsCaller c action := by
  have hstep := Step.of_next h
  cases action with
  | processOne node a =>
    cases hstep with
    | processOne _ _ p q l _ hp hpop hm => exact hi.own_onMessage_iff ho hp hpop hm
  | _ =>
    have hsame : c'.resumptions = c.resumptions := hstep.resumptions_eq (by rintro _ _ ⟨⟩)
    rw [Own, hsame]
    exact ⟨fun _ => trivial, fun _ => ho⟩

/-- All along a run every coroutine is resumed by its own timer or by the answer to its own request,
exactly when every step of the run meets the condition. -/
theorem own_iff (isActor : Bytes → ActorId → Bool) (actions : List Action) :
    (machine isActor).Always Own (start isActor) actions ↔
      (machine isActor).Admits MeetsCaller (start isActor) actions := by
  refine Machine.always_iff_admits (I := InOrder) ?_ ?_ ?_ (inOrder_start isActor) ?_ actions
  · intro c action hnone
    change c.next action = none at hnone
    cases action with
    | processOne node a =>
      intro p l q hp hs hpop
      obtain ⟨-, -, hactor, -⟩ := Peer.pop_eq_some hpop
      simp [next, hp, hpop, onMessage, Peer.step, Actor.next, hactor, hs] at hnone
    | _ => trivial
  · intro c action c' hi _ h
    exact (Step.of_next h).inOrder hi
  · intro c action c' hi ho h
    exact hi.own_next_iff ho h
  · intro r hr
    cases hr

/-- Actor `1` of node `[65]`, which is called `[97]`, calls actor `1` of node `[66]`. While the
answer is on its way, actor `2` takes the name over and sleeps. -/
def takenOver : List Action :=
  [Action.registerName [65] [97] 1, .registerName [66] [98] 1,
    .post [65] 1 {}, .processOne [65] 1, .run [65] 1 (.coAwait .clusterCall), .suspend [65] 1,
    .transmit [65] 1
      { targetNodeId := [66], targetActorName := [98], transports := [⟨[65], fun _ => true⟩] },
    .arm [65] 1 true, .suspend [65] 1,
    .deliver 0 [66] .empty 7, .processOne [66] 1,
    .respondRemote [66] 1 0 [1] [⟨[66], fun _ => true⟩],
    .registerName [65] [97] 2,
    .post [65] 2 {}, .processOne [65] 2, .run [65] 2 (.coAwait .sleep), .suspend [65] 2,
    .transmit [65] 2 {}, .arm [65] 2 true, .suspend [65] 2,
    .deliver 0 [65] .empty 7, .processOne [65] 2]

/-- The answer wakes the sleeper. -/
theorem wokenBy_takenOver : ¬∀ (isActor : Bytes → ActorId → Bool) (actions : List Action),
    (machine isActor).Always Own (start isActor) actions := by
  intro h
  have hend : Own ((machine fun _ _ => true).replay (start fun _ _ => true) takenOver) :=
    h (fun _ _ => true) takenOver takenOver _ (List.prefix_refl _) rfl
  have hlast : ((machine fun _ _ => true).replay (start fun _ _ => true) takenOver).resumptions =
      [⟨⟨[65], 2, 1⟩, some ⟨[65], 1, 1⟩⟩] := by decide
  have hcause := hend ⟨⟨[65], 2, 1⟩, some ⟨[65], 1, 1⟩⟩ (by rw [hlast]; exact List.mem_cons_self)
  exact absurd hcause (by decide)

end Cluster

end Balabala
