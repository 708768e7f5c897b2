import Mathlib.Data.List.TakeWhile
import Balabala.Actor.Registry.Naming
import Balabala.Cluster.Answers

/-!
# Names between a call and its answer

The packet of a `ClusterCall` has the name of its caller as the return address, and the answer goes
to whoever has that name when it arrives. An observer writes down the calls and the operations on
names. As long as no answer arrives after its caller's name has gone over to another actor, every
coroutine is resumed by its own timer or by the answer to its own request.
-/

namespace Balabala

open Foundation

namespace Cluster

/-! ### The calls and the operations on names -/

inductive Event
  /-- `await_suspend` has sent its request -/
  | call (id : CallId)
  | registerName (node name : Bytes) (a : ActorId)
  | unregisterName (node name : Bytes)
  deriving DecidableEq

namespace Event

/-- An operation on this name of this node. -/
def concerns (node name : Bytes) : Event → Bool
  | .call _ => false
  | .registerName n m _ | .unregisterName n m => n = node ∧ m = name

/-- The operations on the name since the call, on the node that made it. -/
def since (id : CallId) (name : Bytes) (log : List Event) : List Event :=
  (log.dropWhile (· ≠ .call id)).filter (·.concerns id.node name)

/-- The last of them gave the name to another actor than the caller. -/
def takenOver (id : CallId) (name : Bytes) (log : List Event) : Bool :=
  match (since id name log).getLast? with
  | some (.registerName _ _ b) => b ≠ id.actor
  | _ => false

end Event

/-- The coroutine of the actor that is inside `await_suspend`, by its call. -/
def caller (c : Cluster) (node : Bytes) (a : ActorId) : Option CallId :=
  (c.peers node a).bind fun p => p.actor.stack.head?.map fun b => ⟨node, a, p.number b.frame⟩

/-- The observer. -/
def record (log : List Event) (c : Cluster) (action : Action) (_ : Cluster) : List Event :=
  match action with
  | .transmit node a _ => log ++ (c.caller node a).toList.map .call
  | .registerName node name a => log ++ [.registerName node name a]
  | .unregisterName node name => log ++ [.unregisterName node name]
  | _ => log

def recorded (isActor : Bytes → ActorId → Bool) : Machine (Cluster × List Event) Action :=
  (machine isActor).observed [] record

/-- Transports belong to their node, and packets come to the node they are addressed to. No answer
arrives after the name of its caller has been taken over. `RespondRemote` answers requests that came
in a packet, and an actor has not allocated 2^32 sessions since its call when it is about to resume
with the answer. -/
def NamesKept (x : Cluster × List Event) : Action → Prop
  | .transmit node _ r => ∀ transport ∈ r.transports, transport.localNodeId = node
  | .respondRemote node a i _ transports =>
    (∀ transport ∈ transports, transport.localNodeId = node) ∧
      ∀ p ∈ x.1.peers node a, ∀ request ∈ p.requests[i]?,
        request.call ≠ none → request.msg.sourceId = 0
  | .deliver i node _ _ => ∀ parcel ∈ x.1.packets[i]?, parcel.pkt.targetNodeId = node ∧
      (parcel.pkt.isResponse = true → ∀ id ∈ parcel.call,
        Event.takenOver id parcel.pkt.targetActorName x.2 = false)
  | .processOne node a => ∀ p ∈ x.1.peers node a, ∀ popped ∈ p.pop, ∀ id ∈ popped.1.call,
      popped.1.msg.isResponse = true → p.actor.waitMap popped.1.msg.sessionId ≠ none →
        id.node = node → id.actor = a → p.actor.allocated < id.number + 2 ^ 32
  | _ => True

/-! ### Where an answer goes -/

/-- An answer that is sent to this name of this node now gets to the caller, unless the name has
been taken over. Nobody gets what is sent to the empty name. -/
def LeadsBack (names : Bytes → Names) (log : List Event) (id : CallId) (node name : Bytes) : Prop :=
  name = [] ∨ node = id.node ∧ .call id ∈ log ∧
    ∀ b, (names node).nameToActor name = some b → b ≠ id.actor →
      Event.takenOver id name log = true

section Since

variable {id : CallId} {name : Bytes} {log : List Event} {e : Event}

lemma since_append (h : .call id ∈ log) (e : Event) :
    Event.since id name (log ++ [e]) =
      Event.since id name log ++ [e].filter (·.concerns id.node name) := by
  have hne : log.dropWhile (· ≠ .call id) ≠ [] := by
    rw [Ne, List.dropWhile_eq_nil_iff]
    intro hall
    simpa using hall _ h
  rw [Event.since, Event.since, List.dropWhile_append, if_neg (mt List.isEmpty_iff.mp hne),
    List.filter_append]

/-- What does not concern the name makes no difference. -/
lemma takenOver_append (h : .call id ∈ log) (he : e.concerns id.node name = false) :
    Event.takenOver id name (log ++ [e]) = Event.takenOver id name log := by
  rw [Event.takenOver, since_append h, List.filter_cons_of_neg (by simp [he]), List.filter_nil,
    List.append_nil, Event.takenOver]

/-- The name goes over to another actor. -/
lemma takenOver_registerName (h : .call id ∈ log) {b : ActorId} (hb : b ≠ id.actor) :
    Event.takenOver id name (log ++ [.registerName id.node name b]) = true := by
  have hc : (Event.registerName id.node name b).concerns id.node name = true := by
    simp [Event.concerns]
  rw [Event.takenOver, since_append h, List.filter_cons_of_pos hc, List.filter_nil,
    List.getLast?_concat]
  simpa using hb

end Since

namespace LeadsBack

variable {names : Bytes → Names} {log : List Event} {id : CallId} {node name : Bytes}

/-- Another call. -/
lemma call (h : LeadsBack names log id node name) (other : CallId) :
    LeadsBack names (log ++ [.call other]) id node name := by
  rcases h with h | ⟨hnode, hcall, hname⟩
  · exact .inl h
  · refine .inr ⟨hnode, List.mem_append_left _ hcall, fun b hb hne => ?_⟩
    rw [takenOver_append hcall rfl]
    exact hname b hb hne

/-- An operation on the names, after which the ones it does not concern lead to where they did, and
whom this one leads to, if to anybody, is whom it was registered for. -/
lemma operate (h : LeadsBack names log id node name) {names' : Bytes → Names} {e : Event}
    (hother : ∀ n m, e.concerns n m = false → (names' n).nameToActor m = (names n).nameToActor m)
    (hsame : ∀ n m b, e.concerns n m = true → (names' n).nameToActor m = some b →
      e = .registerName n m b) : LeadsBack names' (log ++ [e]) id node name := by
  rcases h with h | ⟨rfl, hcall, hname⟩
  · exact .inl h
  · refine .inr ⟨rfl, List.mem_append_left _ hcall, fun b hb hne => ?_⟩
    cases hc : e.concerns id.node name with
    | true =>
      rw [hsame _ _ b hc hb]
      exact takenOver_registerName hcall hne
    | false =>
      rw [takenOver_append hcall hc]
      rw [hother _ _ hc] at hb
      exact hname b hb hne

lemma registerName (h : LeadsBack names log id node name) (n m : Bytes) (a : ActorId) :
    LeadsBack (Function.update names n ((names n).registerName m a))
      (log ++ [.registerName n m a]) id node name := by
  refine h.operate (fun n' m' he => ?_) fun n' m' b he hb => ?_
  · by_cases hn : n' = n
    · subst hn
      have hm : m' ≠ m := by
        rintro rfl
        simp [Event.concerns] at he
      simp [Names.registerName, hm]
    · rw [Function.update_of_ne hn]
  · obtain ⟨rfl, rfl⟩ : n = n' ∧ m = m' := by simpa [Event.concerns] using he
    rw [Function.update_self] at hb
    obtain rfl : a = b := by simpa [Names.registerName] using hb
    rfl

lemma unregisterName (h : LeadsBack names log id node name) (n m : Bytes) :
    LeadsBack (Function.update names n ((names n).unregisterName m))
      (log ++ [.unregisterName n m]) id node name := by
  refine h.operate (fun n' m' he => ?_) fun n' m' b he hb => ?_
  · by_cases hn : n' = n
    · subst hn
      have hm : m' ≠ m := by
        rintro rfl
        simp [Event.concerns] at he
      rw [Function.update_self]
      ext b
      exact Names.nameToActor_unregisterName.trans (and_iff_right hm)
    · rw [Function.update_of_ne hn]
  · obtain ⟨rfl, rfl⟩ : n = n' ∧ m = m' := by simpa [Event.concerns] using he
    rw [Function.update_self] at hb
    exact absurd rfl (Names.nameToActor_unregisterName.mp hb).1

end LeadsBack

/-- Whose call a message belongs to that is on its way to the actor, or with it: an answer has come
back, a request can be answered. -/
def Addressed (names : Bytes → Names) (log : List Event) (node : Bytes) (a : ActorId)
    (l : Letter) : Prop :=
  ∀ id, l.call = some id → 0 < l.msg.sessionId →
    if l.msg.isResponse then node = id.node ∧ a = id.actor
    else if l.msg.sourceId = 0 then LeadsBack names log id l.msg.sourceNodeId l.msg.sourceActorName
    else node = id.node ∧ l.msg.sourceId = id.actor

/-- The same of a packet. -/
def Routed (names : Bytes → Names) (log : List Event) (x : Parcel) : Prop :=
  ∀ id, x.call = some id → 0 < x.pkt.sessionId →
    if x.pkt.isResponse then LeadsBack names log id x.pkt.targetNodeId x.pkt.targetActorName
    else LeadsBack names log id x.pkt.sourceNodeId x.pkt.sourceActorName

/-- Every call has its way back. -/
structure WaysBack (c : Cluster) (log : List Event) : Prop where
  nobody : ∀ node, c.peers node 0 = none
  consistent : ∀ node, (c.names node).Consistent
  letters : ∀ node a p, c.peers node a = some p → ∀ l ∈ p.letters, Addressed c.names log node a l
  requests : ∀ node a p, c.peers node a = some p → ∀ l ∈ p.requests, 0 < l.msg.sessionId →
    l.msg.isResponse = false
  packets : ∀ x ∈ c.packets, Routed c.names log x
  timeouts : ∀ x ∈ c.timeouts, Addressed c.names log x.node x.actorId x.letter

/-! ### What the operations keep -/

section Keep

variable {c c' : Cluster} {log log' : List Event} {node : Bytes} {a : ActorId} {p p' : Peer}
  {l : Letter}

/-- What the way back depends on has moved on. -/
lemma Addressed.mono {names names' : Bytes → Names} (hl : Addressed names log node a l)
    (h : ∀ {id n m}, LeadsBack names log id n m → LeadsBack names' log' id n m) :
    Addressed names' log' node a l := by
  intro id hid hpos
  have hid := hl id hid hpos
  split_ifs at hid ⊢
  · exact hid
  · exact h hid
  · exact hid

lemma Routed.mono {names names' : Bytes → Names} {x : Parcel} (hx : Routed names log x)
    (h : ∀ {id n m}, LeadsBack names log id n m → LeadsBack names' log' id n m) :
    Routed names' log' x := by
  intro id hid hpos
  have hid := hx id hid hpos
  split_ifs at hid ⊢
  · exact h hid
  · exact h hid

namespace WaysBack

lemma mono (hx : WaysBack c log) {names : Bytes → Names} (hn : ∀ node, (names node).Consistent)
    (h : ∀ {id n m}, LeadsBack c.names log id n m → LeadsBack names log' id n m) :
    WaysBack { c with names } log' where
  nobody := hx.nobody
  consistent := hn
  letters n b q hq m hm := (hx.letters n b q hq m hm).mono h
  requests := hx.requests
  packets x hmem := (hx.packets x hmem).mono h
  timeouts x hmem := (hx.timeouts x hmem).mono h

lemma ne_zero_of_peer (hx : WaysBack c log) (hp : c.peers node a = some p) : a ≠ 0 := by
  rintro rfl
  rw [hx.nobody] at hp
  cases hp

lemma setPeer (hx : WaysBack c log) (hp : c.peers node a = some p)
    (hl : ∀ l ∈ p'.letters, Addressed c.names log node a l)
    (hr : ∀ l ∈ p'.requests, 0 < l.msg.sessionId → l.msg.isResponse = false) :
    WaysBack (c.setPeer node a p') log where
  nobody n := by
    have ha : ¬ (n = node ∧ 0 = a) := fun h => hx.ne_zero_of_peer hp h.2.symm
    rw [peers_setPeer, if_neg ha]
    exact hx.nobody n
  consistent := hx.consistent
  letters n b q hq m hm := by
    rw [peers_setPeer] at hq
    split_ifs at hq with he
    · obtain ⟨rfl, rfl⟩ := he
      cases hq
      exact hl m hm
    · exact hx.letters n b q hq m hm
  requests n b q hq m hm := by
    rw [peers_setPeer] at hq
    split_ifs at hq with he
    · cases hq
      exact hr m hm
    · exact hx.requests n b q hq m hm
  packets := hx.packets
  timeouts := hx.timeouts

/-- A step of the coroutines of an actor. -/
lemma step (hx : WaysBack c log) (hp : c.peers node a = some p) {action : Actor.Action}
    (hs : p.step action = some p') : WaysBack (c.setPeer node a p') log := by
  obtain ⟨hletters, hrequests⟩ := Peer.letters_of_step hs
  refine hx.setPeer hp ?_ ?_
  · rw [hletters]
    exact hx.letters node a p hp
  · rw [hrequests]
    exact hx.requests node a p hp

lemma send (hx : WaysBack c log) (hl : Addressed c.names log node a l) :
    WaysBack (c.send node a l) log := by
  rw [Cluster.send]
  split
  · exact hx
  · rename_i p hp
    refine hx.setPeer hp (fun m hm => ?_) fun m hm => ?_
    · rcases Peer.mem_letters_pushMessage hm with hm | rfl
      · exact hx.letters node a p hp m hm
      · exact hl
    · refine hx.requests node a p hp m ?_
      rw [Peer.pushMessage] at hm
      split_ifs at hm <;> exact hm

lemma setPackets (hx : WaysBack c log) {packets : List Parcel}
    (h : ∀ x ∈ packets, Routed c.names log x) : WaysBack { c with packets } log where
  nobody := hx.nobody
  consistent := hx.consistent
  letters := hx.letters
  requests := hx.requests
  packets := h
  timeouts := hx.timeouts

lemma setTimeouts (hx : WaysBack c log) {timeouts : List Timeout}
    (h : ∀ x ∈ timeouts, Addressed c.names log x.node x.actorId x.letter) :
    WaysBack { c with timeouts } log where
  nobody := hx.nobody
  consistent := hx.consistent
  letters := hx.letters
  requests := hx.requests
  packets := hx.packets
  timeouts := h

lemma setResumptions (hx : WaysBack c log) (resumptions : List Resumption) :
    WaysBack { c with resumptions } log where
  nobody := hx.nobody
  consistent := hx.consistent
  letters := hx.letters
  requests := hx.requests
  packets := hx.packets
  timeouts := hx.timeouts

lemma handOver (hx : WaysBack c log) {sent : Bool × List ClusterPacket} {call : Option CallId}
    (h : ∀ pkt ∈ sent.2, Routed c.names log ⟨pkt, call⟩) : WaysBack (c.handOver sent call) log := by
  rw [Cluster.handOver]
  split
  · rename_i pkt _ hlast
    refine hx.setPackets fun x hmem => ?_
    rcases List.mem_append.mp hmem with hmem | hmem
    · exact hx.packets x hmem
    · obtain rfl := List.mem_singleton.mp hmem
      exact h pkt (List.mem_of_getLast? hlast)
  · exact hx

lemma addTimeout (hx : WaysBack c log) {x : Timeout}
    (h : Addressed c.names log x.node x.actorId x.letter) :
    WaysBack { c with timeouts := c.timeouts ++ [x] } log := by
  refine hx.setTimeouts fun y hy => ?_
  rcases List.mem_append.mp hy with hy | hy
  · exact hx.timeouts y hy
  · obtain rfl := List.mem_singleton.mp hy
    exact h

/-! ### The steps -/

/-- A request leaves with a return address that leads back. -/
lemma transmit (hx : WaysBack c log) {number : Nat} (hcall : .call ⟨node, a, number⟩ ∈ log)
    (ha : a ≠ 0) (w : Awaiter) {r : Request} (hr : r.msg.isResponse = false)
    (hown : ∀ transport ∈ r.transports, transport.localNodeId = node) :
    WaysBack (c.transmit node a ⟨node, a, number⟩ w r) log := by
  rw [Cluster.transmit]
  dsimp only
  split
  · refine hx.send fun id hid _ => ?_
    cases hid
    simp [hr, ha]
  · have hpos : 0 < a := UInt32.pos_iff_ne_zero.mpr ha
    refine hx.handOver fun pkt hpkt id hid _ => ?_
    cases hid
    rw [ClusterView.actorSendToRemote, ClusterView.sendToRemote] at hpkt
    obtain ⟨transport, ht, data, rfl⟩ := ClusterView.exists_of_mem_offer hpkt
    simp only [hr, Bool.false_eq_true, if_false, List.isEmpty_nil, Bool.true_and,
      decide_eq_true hpos, if_true, view, ClusterView.getActorName]
    cases hname : (c.names node).actorToName a with
    | none => exact .inl rfl
    | some name =>
      refine .inr ⟨hown transport ht, hcall, fun b hb hne => ?_⟩
      rw [hown transport ht, Option.getD_some, hx.consistent node a name hname] at hb
      exact absurd (Option.some.inj hb).symm hne
  · exact hx

/-- A timer is set for the actor itself. -/
lemma arm (hx : WaysBack c log) (number : Nat) (w : Awaiter) (positive : Bool) :
    WaysBack (c.arm node a ⟨node, a, number⟩ w positive) log := by
  have hself : ∀ msg : ActorMessage, msg.isResponse = true →
      Addressed c.names log node a { msg, call := some ⟨node, a, number⟩ } := by
    intro msg hm id hid _
    cases hid
    simp [hm]
  rw [Cluster.arm]
  dsimp only
  split
  · split_ifs
    · exact hx.addTimeout (hself _ rfl)
    · exact hx
  · split_ifs
    · exact hx.addTimeout (hself _ rfl)
    · exact hx
  · exact hx.addTimeout (hself _ rfl)

/-- `Respond` goes to the actor that has sent the request, or to nobody. -/
lemma respond (hx : WaysBack c log) {request : Letter} (hp : c.peers node a = some p)
    (hr : request ∈ p.requests) (response : ActorMessage) :
    WaysBack (c.respond node a request response) log := by
  by_cases hsource : request.msg.sourceId = 0
  · rw [Cluster.respond, Cluster.send, hsource, hx.nobody]
    exact hx
  · refine hx.send fun id hid hpos => ?_
    have hid := hx.letters node a p hp request (Peer.mem_letters.mpr (.inr hr)) id hid hpos
    rw [hx.requests node a p hp request hr hpos] at hid
    simpa [hsource] using hid

/-- `RespondRemote` goes where the packet came from. -/
lemma respondRemote (hx : WaysBack c log) {request : Letter} (hp : c.peers node a = some p)
    (hr : request ∈ p.requests) (responseData : Bytes) (transports : List Transport)
    (hsource : request.call ≠ none → request.msg.sourceId = 0) :
    WaysBack (c.respondRemote node a request responseData transports) log := by
  rw [Cluster.respondRemote]
  dsimp only
  split_ifs
  · refine hx.handOver fun pkt hpkt id hid hpos => ?_
    rw [ClusterView.sendToRemote] at hpkt
    obtain ⟨transport, -, data, rfl⟩ := ClusterView.exists_of_mem_offer hpkt
    have hid : request.call = some id := hid
    have hid' := hx.letters node a p hp request (Peer.mem_letters.mpr (.inr hr)) id hid hpos
    have hzero : request.msg.sourceId = 0 := hsource (by rw [hid]; exact Option.some_ne_none _)
    rw [hx.requests node a p hp request hr hpos] at hid'
    simpa [hzero] using hid'
  · exact hx

/-- `ProcessOne`. -/
lemma onMessage (hx : WaysBack c log) (hp : c.peers node a = some p) {q : Peer}
    (hpop : p.pop = some (l, q)) (h : c.onMessage node a q l = some c') : WaysBack c' log := by
  obtain ⟨hl, hletters, -, -⟩ := Peer.pop_eq_some hpop
  have hrequests : q.requests = p.requests := Peer.requests_of_pop hpop
  obtain ⟨q', hstep, rfl⟩ := Option.map_eq_some_iff.mp h
  obtain ⟨hq', hrequests'⟩ := Peer.letters_of_step hstep
  have hkept : ∀ m ∈ q'.letters, Addressed c.names log node a m := by
    rw [hq']
    exact fun m hm => hx.letters node a p hp m (hletters m hm)
  have hasked : ∀ m ∈ q'.requests, 0 < m.msg.sessionId → m.msg.isResponse = false := by
    rw [hrequests', hrequests]
    exact hx.requests node a p hp
  split_ifs with hresp
  · exact (hx.setPeer hp hkept hasked).setResumptions _
  · refine hx.setPeer hp (fun m hm => ?_) fun m hm hpos => ?_
    · rcases Peer.mem_letters.mp hm with hm | hm
      · exact hkept m (Peer.mem_letters.mpr (.inl hm))
      · rcases List.mem_append.mp hm with hm | hm
        · exact hkept m (Peer.mem_letters.mpr (.inr hm))
        · obtain rfl := List.mem_singleton.mp hm
          exact hx.letters node a p hp m hl
    · rcases List.mem_append.mp hm with hm | hm
      · exact hasked m hm hpos
      · obtain rfl := List.mem_singleton.mp hm
        simpa [hpos] using hresp

lemma findActor_eq {names : Names} {name : Bytes} {b : ActorId} (hpos : 0 < names.findActor name)
    (h : ∀ b', names.nameToActor name = some b' → b' = b) : names.findActor name = b := by
  rw [Names.findActor] at hpos ⊢
  cases hb : names.nameToActor name with
  | none =>
    rw [hb] at hpos
    exact absurd hpos (by decide)
  | some b' => exact h b' hb

/-- A packet that has come to the node it is addressed to is passed to whoever has its target name:
an answer gets to its caller. -/
lemma deliver (hx : WaysBack c log) {x : Parcel} (hr : Routed c.names log x)
    (hnode : x.pkt.targetNodeId = node)
    (hname : x.pkt.isResponse = true → ∀ id, x.call = some id →
      Event.takenOver id x.pkt.targetActorName log = false) (t : NodeTable) (fd : Fd) :
    WaysBack ((ClusterGatewayActor.handleDecodedPacket true t x.pkt fd).2.foldl
      (fun c call => c.sendByName node call.name { msg := call.msg, call := x.call }) c) log := by
  by_cases hdata : x.pkt.data = clusterHandshakeMagic
  · rw [ClusterGatewayActor.handleDecodedPacket_magic true hdata]
    exact hx
  rw [ClusterGatewayActor.handleDecodedPacket_of_ne true hdata,
    ClusterReceiver.onPacketReceived, if_neg (by simp)]
  split_ifs with htarget
  · rw [List.foldl_cons, List.foldl_nil, Cluster.sendByName]
    dsimp only
    split_ifs with hfound
    · refine hx.send fun id hid hpos => ?_
      have hid' := hr id hid hpos
      show if x.pkt.isResponse then
          node = id.node ∧ (c.names node).findActor x.pkt.targetActorName = id.actor
        else LeadsBack c.names log id x.pkt.sourceNodeId x.pkt.sourceActorName
      split_ifs at hid' ⊢ with hresp
      · rcases hid' with hempty | ⟨hback, -, howner⟩
        · exact absurd hempty htarget
        · rw [hnode] at hback howner
          exact ⟨hback, findActor_eq hfound fun b hb =>
            by_contra fun hne => absurd (howner b hb hne) (by simp [hname hresp id hid])⟩
      · exact hid'
    · exact hx
  · exact hx

/-- One step of a run in which the names are kept. -/
theorem next (hx : WaysBack c log) {action : Action} (hok : NamesKept (c, log) action)
    (h : c.next action = some c') : WaysBack c' (record log c action c') := by
  cases Step.of_next h with
  | post node a msg hk => exact hx.send fun id hid => by cases hid
  | processOne node a p q l c' hp hpop h => exact hx.onMessage hp hpop h
  | run node a action p p' hp hs => exact hx.step hp hs
  | suspend node a p p' hp hs => exact hx.step hp hs
  | transmit node a r p p' g w rest hp hw hr hs =>
    have hcaller : c.caller node a = some ⟨node, a, p.number g⟩ := by simp [caller, hp, hw]
    have hcalled : WaysBack c (log ++ [.call ⟨node, a, p.number g⟩]) :=
      hx.mono hx.consistent fun hback => hback.call _
    rw [record, hcaller]
    exact (hcalled.step hp hs).transmit (by simp) (hx.ne_zero_of_peer hp) w hr hok
  | arm node a positive p p' g w rest hp hw hs => exact (hx.step hp hs).arm _ _ _
  | respond node a i response p request hp hr =>
    exact hx.respond hp (List.mem_of_getElem? hr) response
  | respondRemote node a i responseData transports p request hp hr =>
    exact hx.respondRemote hp (List.mem_of_getElem? hr) responseData transports
      (hok.2 p hp request hr)
  | deliver i node t fd x hmem =>
    obtain ⟨hnode, hname⟩ := hok x hmem
    have hrest : WaysBack { c with packets := c.packets.eraseIdx i } log :=
      hx.setPackets fun y hy => hx.packets y (List.mem_of_mem_eraseIdx hy)
    exact hrest.deliver (hx.packets x (List.mem_of_getElem? hmem)) hnode hname t fd
  | fire i x hmem =>
    have hrest : WaysBack { c with timeouts := c.timeouts.eraseIdx i } log :=
      hx.setTimeouts fun y hy => hx.timeouts y (List.mem_of_mem_eraseIdx hy)
    exact hrest.send (hx.timeouts x hmem)
  | registerName node name a =>
    refine hx.mono (fun n => ?_) fun hback => hback.registerName node name a
    by_cases hn : n = node
    · subst hn
      simpa using (hx.consistent n).registerName name a
    · simpa [hn] using hx.consistent n
  | unregisterName node name =>
    refine hx.mono (fun n => ?_) fun hback => hback.unregisterName node name
    by_cases hn : n = node
    · subst hn
      simpa using (hx.consistent n).unregisterName name
    · simpa [hn] using hx.consistent n

lemma start (isActor : Bytes → ActorId → Bool) : WaysBack (.start isActor) [] where
  nobody node := by simp [Cluster.start]
  consistent node := .empty
  letters node a p hp l hl := by
    simp only [Cluster.start] at hp
    split_ifs at hp
    cases hp
    cases hl
  requests node a p hp l hl := by
    simp only [Cluster.start] at hp
    split_ifs at hp
    cases hp
    cases hl
  packets x hx := by cases hx
  timeouts x hx := by cases hx

/-- An answer that is processed has come back to its caller. -/
lemma meetsCaller (hx : WaysBack c log) (hi : InOrder c) {action : Action}
    (hok : NamesKept (c, log) action) : MeetsCaller c action := by
  cases action with
  | processOne node a =>
    intro p l q hp _ hpop hresp hpos hw
    have hl : l ∈ p.letters := (Peer.pop_eq_some hpop).1
    have hsound := hi.letters node a p hp l hl
    cases hcall : l.call with
    | none =>
      rw [hcall] at hsound
      rw [show l.msg.sessionId = 0 from hsound] at hpos
      exact absurd hpos (by decide)
    | some id =>
      have hback := hx.letters node a p hp l hl id hcall hpos
      rw [if_pos hresp] at hback
      obtain ⟨rfl, rfl⟩ := hback
      exact ⟨id.number, rfl, hok p hp (l, q) hpop id hcall hresp hw rfl rfl⟩
  | _ => trivial

end WaysBack

end Keep

/-- In every run in which the names are kept, every coroutine is resumed by its own timer or by the
answer to its own request. -/
theorem own_of_reach {isActor : Bytes → ActorId → Bool} {x : Cluster × List Event}
    (h : (recorded isActor).Reach NamesKept x) : Own x.1 := by
  have hx : InOrder x.1 ∧ WaysBack x.1 x.2 ∧ Own x.1 := by
    apply h.invariant (P := fun x => InOrder x.1 ∧ WaysBack x.1 x.2 ∧ Own x.1)
    · rintro ⟨c, log⟩ ⟨rfl, rfl⟩
      refine ⟨inOrder_start isActor, .start isActor, fun r hr => ?_⟩
      cases hr
    · rintro ⟨c, log⟩ action ⟨c', log'⟩ - ⟨hi, hback, ho⟩ hok hs
      obtain ⟨hnext, hlog⟩ := Machine.next_of_observed hs
      obtain rfl : log' = record log c action c' := hlog
      have hnext : c.next action = some c' := hnext
      exact ⟨(Step.of_next hnext).inOrder hi, hback.next hok hnext,
        (hi.own_next_iff ho hnext).mpr (hback.meetsCaller hi hok)⟩
  exact hx.2.2

instance (x : Cluster × List Event) (action : Action) : Decidable (NamesKept x action) := by
  unfold NamesKept
  split
  all_goals infer_instance

/-- The name goes over to actor `2` and back while the answer is on its way. -/
def takenOverAndBack : List Action :=
  [Action.registerName [65] [97] 1, .registerName [66] [98] 1,
    .post [65] 1 {}, .processOne [65] 1, .run [65] 1 (.coAwait .clusterCall), .suspend [65] 1,
    .transmit [65] 1
      { targetNodeId := [66], targetActorName := [98], transports := [⟨[65], fun _ => true⟩] },
    .arm [65] 1 true, .suspend [65] 1,
    .deliver 0 [66] .empty 7, .processOne [66] 1,
    .respondRemote [66] 1 0 [1] [⟨[66], fun _ => true⟩],
    .registerName [65] [97] 2, .registerName [65] [97] 1,
    .deliver 0 [65] .empty 7, .processOne [65] 1]

/-- The answer resumes its caller. -/
theorem own_takenOverAndBack :
    let x := (recorded fun _ _ => true).replayWith NamesKept (start fun _ _ => true, [])
      takenOverAndBack
    x.1.resumptions = [⟨⟨[65], 1, 1⟩, some ⟨[65], 1, 1⟩⟩] ∧ Own x.1 := by
  intro x
  have hstart : (recorded fun _ _ => true).init (start fun _ _ => true, []) := ⟨rfl, rfl⟩
  exact ⟨by decide, own_of_reach (Machine.reach_replayWith (.start hstart) _)⟩

end Cluster

end Balabala
