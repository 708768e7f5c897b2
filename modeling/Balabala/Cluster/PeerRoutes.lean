import Balabala.Cluster.PeerStreams

/-!
# Where a packet goes

`GetFdByNodeId` returns the number of a connection over which the node has shaken hands itself:
nobody else can have caused the entry. By the time the bytes are written the number may belong to
another connection. That is the only way for a packet to come to another node than the one it is
for.

It cannot happen when a number is given to a new connection only after the node has done with the
old one: no message of it is in the mailbox, no entry leads to it and no packet is on its way to it.
-/

namespace Balabala

open Foundation ClusterPacketCodec

namespace ClusterNet

variable {ι Tid : Type*} [DecidableEq ι] [DecidableEq Tid] {s s' : ClusterNet ι Tid}
  {T : Topology ι Tid} {a : Action ι Tid} {e : ConnEnd ι} {i : ι}

/-! ### What a step does to a node -/

/-- The connection that the loop gets. -/
def Action.opens : Action ι Tid → Option (ConnEnd ι)
  | .opened e | .openedAtOnce e => some e
  | _ => none

/-- The steps from `SendPacket` to the loop. -/
def Action.Sending : Action ι Tid → Prop
  | .lookup _ _ _ | .getConnection _ _ | .send _ _ | .runTask _ => True
  | _ => False

section Steps

variable {fd : Fd} {n : Bytes} {β : Type*}

omit [DecidableEq Tid] in
/-- What does not change when one node changes. -/
lemma frame (f : ClusterHost ι Tid → β) {j : ι} {x : ClusterHost ι Tid}
    (hx : f x = f (s.host j)) : f (Function.update s.host j x i) = f (s.host i) := by
  by_cases hi : i = j
  · subst hi
    rw [Function.update_self, hx]
  · rw [Function.update_of_ne hi]

omit [DecidableEq Tid] in
lemma frame_receiveEarly (f : ClusterHost ι Tid → β)
    (hf : ∀ h mailbox, f { h with mailbox } = f h) (e : ConnEnd ι) (n : Nat) (bound : Bool) :
    f ((s.receiveEarly e n bound).host i) = f (s.host i) := by
  rcases s.receiveEarly_cases e n bound with heq | ⟨msg, -, heq⟩ <;> rw [heq]
  · rfl
  · exact frame (s := s.take e n) f (hf _ _)

/-- From `SendPacket` to the loop only what is on its way changes. -/
lemma frame_sending (f : ClusterHost ι Tid → β)
    (hf : ∀ h hand found tasks, f { h with hand, found, tasks } = f h) (hs : Step T s a s') :
    a.Sending → f (s'.host i) = f (s.host i) := by
  have hsend : ∀ (s₁ : ClusterNet ι Tid) e j t out, f (s₁.host i) = f (s.host i) →
      f ((s₁.send e j T t out).host i) = f (s.host i) := by
    intro s₁ e j t out h₁
    rcases s₁.send_cases e j T t out with heq | ⟨-, heq⟩ | heq <;> rw [heq]
    · exact h₁
    · exact h₁
    · exact (frame f (hf _ _ _ _)).trans h₁
  cases hs with
  | lookup j t packet => exact fun _ => frame f (hf _ _ _ _)
  | getConnection j t out hhand =>
    intro _
    have hset : f ((s.setHand j t none).host i) = f (s.host i) := frame f (hf _ _ _ _)
    exact (frame f (hf _ _ _ _)).trans hset
  | send j t out e hfound => exact fun _ => hsend _ e j t out (frame f (hf _ _ _ _))
  | sendTask j e out tasks htasks hconn => exact fun _ => hsend _ e j _ out (frame f (hf _ _ _ _))
  | dropped j out tasks htasks hconn => exact fun _ => frame f (hf _ _ _ _)
  | _ => exact False.elim

/-- What the loop has under a number: the same as before, or nothing, or a connection that was
opened. -/
lemma connections_next (hs : Step T s a s') (i : ι) (fd : Fd) :
    (s'.host i).connections fd = (s.host i).connections fd ∨ (s'.host i).connections fd = none ∨
      ∃ e, a.opens = some e ∧ e.node = i ∧ e.fd = fd ∧ (s'.host i).connections fd = some e := by
  have hconnect : ∀ e st, (((s.connect e).setStage e st).host i).connections fd =
      (s.host i).connections fd ∨
        e.node = i ∧ e.fd = fd ∧
          (((s.connect e).setStage e st).host i).connections fd = some e := by
    intro e st
    by_cases hi : i = e.node
    · by_cases hf : fd = e.fd
      · exact .inr ⟨hi.symm, hf.symm, by simp [connect, setStage, setHost, hi, hf]⟩
      · exact .inl (by simp [connect, setStage, setHost, hi, hf])
    · exact .inl (by simp [connect, setStage, setHost, hi])
  have hsending := frame_sending (i := i) (fun h => h.connections fd) (fun _ _ _ _ => rfl) hs
  cases hs with
  | opened e hstage hfree | openedAtOnce e hstage hfree =>
    exact (hconnect e _).imp_right fun h => .inr ⟨e, rfl, h⟩
  | receiveEarly e n bound hconn =>
    exact .inl (frame_receiveEarly (fun h => h.connections fd) (fun _ _ => rfl) e n bound)
  | remove j fd' =>
    by_cases hi : i = j
    · by_cases hf : fd = fd'
      · exact .inr (.inl (by simp [removeConnection, setHost, hi, hf]))
      · exact .inl (by simp [removeConnection, setHost, hi, hf])
    · exact .inl (by simp [removeConnection, setHost, hi])
  | lookup | getConnection | send | sendTask | dropped => exact .inl (hsending trivial)
  | call j e c calls hcalls =>
    have hdrop : ((s.dropCall j calls).host i).connections fd = (s.host i).connections fd :=
      frame (fun h => h.connections fd) rfl
    refine .inl (Eq.trans ?_ hdrop)
    cases c with
    | sendHandshake fd' =>
      rw [perform]
      split_ifs
      · rfl
      · exact frame (fun h => h.connections fd) rfl
    | handleDecodedPacket packet fd' | onNodeDisconnected fd' =>
      exact frame (s := s.dropCall j calls) (fun h => h.connections fd) rfl
    | removeConnection fd' => rfl
  | _ => exact .inl (frame (fun h => h.connections fd) rfl)

omit [DecidableEq ι] [DecidableEq Tid] in
/-- A packet enters its own connection for the node that it names, or changes nothing. -/
lemma entry_handlePacket (table : NodeTable) (shaken : Bytes → Option (ConnEnd ι))
    (e : ConnEnd ι) (packet : ClusterPacket) (n : Bytes) :
    let table' := (ClusterGatewayActor.handleDecodedPacket true table packet e.fd).1
    let shaken' := if Shakes packet then Function.update shaken packet.sourceNodeId (some e)
      else shaken
    (n = packet.sourceNodeId ∧ table'.nodeToFd n = some e.fd ∧ shaken' n = some e) ∨
      (table'.nodeToFd n = table.nodeToFd n ∧ shaken' n = shaken n) := by
  intro table' shaken'
  by_cases hshakes : Shakes packet
  · have htable : table' = table.registerNodeFd packet.sourceNodeId e.fd := by
      simp only [table', ClusterGatewayActor.handleDecodedPacket, if_pos hshakes.1,
        if_neg hshakes.2]
    have hshaken : shaken' = Function.update shaken packet.sourceNodeId (some e) :=
      if_pos hshakes
    rw [htable, hshaken, NodeTable.nodeToFd_registerNodeFd]
    by_cases hn : n = packet.sourceNodeId
    · exact .inl ⟨hn, if_pos hn, by rw [hn, Function.update_self]⟩
    · exact .inr ⟨if_neg hn, Function.update_of_ne hn _ _⟩
  · have htable : table' = table := by
      by_cases hdata : packet.data = clusterHandshakeMagic
      · have hempty : packet.sourceNodeId = [] := by
          by_contra hne
          exact hshakes ⟨hdata, hne⟩
        simp only [table', ClusterGatewayActor.handleDecodedPacket, if_pos hdata, if_pos hempty]
      · simp only [table', ClusterGatewayActor.handleDecodedPacket_of_ne true hdata]
    rw [htable]
    exact .inr ⟨rfl, by rw [show shaken' = shaken from if_neg hshakes]⟩


/-- What a node has for a name: the number, and the end that it last shook hands on. -/
def entry (n : Bytes) (h : ClusterHost ι Tid) : Option Fd × Option (ConnEnd ι) :=
  (h.table.nodeToFd n, h.shaken n)

/-- An entry of a table: it is as it was, or it was erased, or the node has shaken hands over the
connection that it leads to. -/
lemma entry_next (hm : ∀ i, Marked i (s.host i)) (hs : Step T s a s') (i : ι) (n : Bytes) :
    ((∀ fd, (s'.host i).table.nodeToFd n = some fd → (s.host i).table.nodeToFd n = some fd) ∧
      (s'.host i).shaken n = (s.host i).shaken n) ∨
    ∃ e packet fd, e.node = i ∧ (e, .handleDecodedPacket packet fd) ∈ (s.host i).calls ∧
      n = packet.sourceNodeId ∧ (s'.host i).table.nodeToFd n = some e.fd ∧
      (s'.host i).shaken n = some e := by
  have hsame : ∀ {h : ClusterHost ι Tid}, entry n h = entry n (s.host i) →
      (∀ fd, h.table.nodeToFd n = some fd → (s.host i).table.nodeToFd n = some fd) ∧
        h.shaken n = (s.host i).shaken n := by
    intro h heq
    obtain ⟨htable, hshaken⟩ := Prod.mk.inj heq
    exact ⟨fun fd hfd => htable ▸ hfd, hshaken⟩
  have hsending := frame_sending (i := i) (entry n) (fun _ _ _ _ => rfl) hs
  cases hs with
  | receiveEarly e k bound hconn =>
    exact .inl (hsame (frame_receiveEarly (entry n) (fun _ _ => rfl) e k bound))
  | lookup | getConnection | send | sendTask | dropped => exact .inl (hsame (hsending trivial))
  | call j e c calls hcalls =>
    have hmem : (e, c) ∈ (s.host j).calls := by
      rw [hcalls]
      exact List.mem_cons_self
    obtain ⟨rfl, -⟩ := (hm j).calls _ hmem
    have hdrop : entry n ((s.dropCall e.node calls).host i) = entry n (s.host i) :=
      frame (entry n) rfl
    cases c with
    | sendHandshake fd' =>
      refine .inl (hsame (Eq.trans ?_ hdrop))
      rw [perform]
      split_ifs
      · rfl
      · exact frame (entry n) rfl
    | handleDecodedPacket packet fd' =>
      by_cases hi : i = e.node
      · subst hi
        rcases entry_handlePacket (s.host e.node).table (s.host e.node).shaken e packet n with
          ⟨hn, htable, hshaken⟩ | ⟨htable, hshaken⟩
        · refine .inr ⟨e, packet, fd', rfl, hmem, hn, ?_, ?_⟩
          · simpa [perform, handlePacket, dropCall, setHost] using htable
          · simpa [perform, handlePacket, dropCall, setHost] using hshaken
        · refine .inl ⟨fun fd hfd => ?_, ?_⟩
          · rw [← htable]
            simpa [perform, handlePacket, dropCall, setHost] using hfd
          · simpa [perform, handlePacket, dropCall, setHost] using hshaken
      · refine .inl (hsame (Eq.trans ?_ hdrop))
        simp [entry, perform, handlePacket, hi]
    | onNodeDisconnected fd' =>
      by_cases hi : i = e.node
      · subst hi
        refine .inl ⟨fun fd hfd => ?_, by simp [perform, dropCall, setHost]⟩
        simp only [perform, dropCall, setHost, Function.update_self,
          NodeTable.nodeToFd_onNodeDisconnected] at hfd
        split_ifs at hfd
        exact hfd
      · refine .inl (hsame (Eq.trans ?_ hdrop))
        simp [entry, perform, setHost, hi]
    | removeConnection fd' => exact .inl (hsame hdrop)
  | _ => exact .inl (hsame (frame (entry n) rfl))

/-- A message of an end waits, or the gateway is at one. -/
def Heard (h : ClusterHost ι Tid) (e : ConnEnd ι) : Prop :=
  (∃ x ∈ h.mailbox, x.1 = e) ∨ ∃ x ∈ h.calls, x.1 = e

omit [DecidableEq Tid] in
/-- After a message has come. -/
lemma heard_post {e' : ConnEnd ι} {msg : ActorMessage}
    (hconn : ∀ e'', (s.host e'.node).connections e'.fd = some e'' → e'' = e')
    (h : Heard ((s.post e' msg).host i) e) : Heard (s.host i) e ∨
      ∀ e'', ((s.post e' msg).host i).connections e.fd = some e'' → e'' = e := by
  by_cases hi : i = e'.node
  · subst hi
    have hself : (s.post e' msg).host e'.node =
        { s.host e'.node with mailbox := (s.host e'.node).mailbox ++ [(e', msg)] } :=
      Function.update_self _ _ _
    rw [hself] at h ⊢
    rcases h with ⟨x, hx, rfl⟩ | h
    · rcases List.mem_append.mp hx with hx | hx
      · exact .inl (.inl ⟨x, hx, rfl⟩)
      · obtain rfl := List.mem_singleton.mp hx
        exact .inr hconn
    · exact .inl (.inr h)
  · have hother : (s.post e' msg).host i = s.host i := Function.update_of_ne hi _ _
    rw [hother] at h
    exact .inl h

/-- A message that comes is about an end of which the loop has the number to itself. -/
lemma heard_next (hm : ∀ i, Marked i (s.host i)) (hs : Step T s a s') (h : Heard (s'.host i) e) :
    Heard (s.host i) e ∨ ∀ e', (s'.host i).connections e.fd = some e' → e' = e := by
  have hframe : ∀ {h h' : ClusterHost ι Tid}, Heard h e →
      (h.mailbox, h.calls) = (h'.mailbox, h'.calls) → Heard h' e := by
    intro h h' hh heq
    obtain ⟨hmail, hcalls⟩ := Prod.mk.inj heq
    rwa [Heard, ← hmail, ← hcalls]
  have hsending := frame_sending (i := i) (fun h => (h.mailbox, h.calls)) (fun _ _ _ _ => rfl) hs
  cases hs with
  | opened e' hstage hfree | openedAtOnce e' hstage hfree | remove j fd' =>
    exact .inl (hframe h (frame (fun h => (h.mailbox, h.calls)) rfl))
  | announce e' hstage hconn => exact heard_post hconn h
  | refuse e' hstage hconn => exact heard_post (only_connection hconn) h
  | endOfStream e' hstage hconn => exact heard_post (only_connection hconn) h
  | receive e' k hstage hconn => exact heard_post (s := s.take e' k) (only_connection hconn) h
  | receiveEarly e' k bound hconn =>
    rcases s.receiveEarly_cases e' k bound with heq | ⟨msg, -, heq⟩ <;> rw [heq] at h ⊢
    · exact .inl h
    · exact heard_post (s := s.take e' k) (only_connection hconn) h
  | lookup | getConnection | send | sendTask | dropped => exact .inl (hframe h (hsending trivial))
  | fetch j e' msg mailbox hcalls hmail =>
    have hhead : (e', msg) ∈ (s.host j).mailbox := by
      rw [hmail]
      exact List.mem_cons_self
    obtain ⟨rfl, -⟩ := (hm j).mail _ hhead
    by_cases hi : i = e'.node
    · subst hi
      simp only [Heard, ClusterNet.fetch, Function.update_self] at h
      rcases h with ⟨x, hx, rfl⟩ | ⟨x, hx, rfl⟩
      · exact .inl (.inl ⟨x, by rw [hmail]; exact List.mem_cons_of_mem _ hx, rfl⟩)
      · obtain ⟨c, -, rfl⟩ := List.mem_map.mp hx
        exact .inl (.inl ⟨_, hhead, rfl⟩)
    · have hother : (s.fetch e' msg mailbox).host i = s.host i := Function.update_of_ne hi _ _
      rw [hother] at h
      exact .inl h
  | call j e' c calls hcalls =>
    have hdrop : Heard ((s.dropCall j calls).host i) e → Heard (s.host i) e := by
      intro h
      by_cases hi : i = j
      · subst hi
        simp only [Heard, dropCall, setHost, Function.update_self] at h
        refine h.imp_right ?_
        rintro ⟨x, hx, hxe⟩
        exact ⟨x, by rw [hcalls]; exact List.mem_cons_of_mem _ hx, hxe⟩
      · have hother : (s.dropCall j calls).host i = s.host i := Function.update_of_ne hi _ _
        rwa [hother] at h
    refine .inl (hdrop ?_)
    cases c with
    | sendHandshake fd' =>
      rw [perform] at h
      split_ifs at h
      · exact h
      · exact hframe h (frame (fun h => (h.mailbox, h.calls)) rfl)
    | handleDecodedPacket packet fd' | onNodeDisconnected fd' =>
      refine hframe h ?_
      exact frame (s := s.dropCall j calls) (fun h => (h.mailbox, h.calls)) rfl
    | removeConnection fd' => exact h

/-- What `GetConnection` gives a thread is what the loop has. -/
lemma found_next (hs : Step T s a s') {t : Option Tid} {x : Outgoing ι × ConnEnd ι}
    (h : (s'.host i).found t = some x) : (s.host i).found t = some x ∨
      (s'.host i).connections x.1.fd = some x.2 := by
  have hget : ∀ (s₁ : ClusterNet ι Tid) j t' out,
      ((s₁.getConnection j t' out).host i).found t = some x → (s₁.host i).found t = some x ∨
        ((s₁.getConnection j t' out).host i).connections x.1.fd = some x.2 := by
    intro s₁ j t' out hx
    by_cases hi : i = j
    · subst hi
      by_cases ht : t = t'
      · subst ht
        have hmap : ((s₁.host i).connections out.fd).map (out, ·) = some x := by
          simpa [ClusterNet.getConnection, setFound, setHost] using hx
        obtain ⟨e, hconn, rfl⟩ := Option.map_eq_some_iff.mp hmap
        exact .inr (by simpa [ClusterNet.getConnection, setFound, setHost] using hconn)
      · exact .inl (by simpa [ClusterNet.getConnection, setFound, setHost, ht] using hx)
    · exact .inl (by simpa [ClusterNet.getConnection, setFound, setHost, hi] using hx)
  have hsend : ∀ (s₁ : ClusterNet ι Tid) e j t' out,
      ((s₁.send e j T t' out).host i).found = (s₁.host i).found := by
    intro s₁ e j t' out
    rcases s₁.send_cases e j T t' out with heq | ⟨-, heq⟩ | heq <;> rw [heq]
    · rfl
    · exact frame (·.found) rfl
  cases hs with
  | receiveEarly e n bound hconn =>
    rw [frame_receiveEarly (·.found) fun _ _ => rfl] at h
    exact .inl h
  | getConnection j t' out hhand =>
    rcases hget _ _ _ _ h with h | h
    · refine .inl (Eq.trans (congrFun ?_ t) h)
      exact Eq.symm (frame (·.found) rfl)
    · exact .inr h
  | send j t' out e hfound =>
    rw [hsend] at h
    by_cases hi : i = j
    · subst hi
      by_cases ht : t = t'
      · simp [setFound, setHost, ht] at h
      · exact .inl (by simpa [setFound, setHost, ht] using h)
    · exact .inl (by simpa [setFound, setHost, hi] using h)
  | sendTask j e out tasks htasks hconn =>
    rw [hsend] at h
    refine .inl (Eq.trans (congrFun ?_ t) h)
    exact Eq.symm (frame (·.found) rfl)
  | call j e c calls hcalls =>
    have hdrop : ((s.dropCall j calls).host i).found = (s.host i).found := frame (·.found) rfl
    rw [← hdrop]
    cases c with
    | sendHandshake fd' =>
      rw [perform] at h ⊢
      split_ifs at h ⊢
      · exact .inl h
      · exact hget _ _ _ _ h
    | handleDecodedPacket packet fd' | onNodeDisconnected fd' =>
      refine .inl (Eq.trans (congrFun ?_ t) h)
      exact Eq.symm (frame (s := s.dropCall j calls) (·.found) rfl)
    | removeConnection fd' => exact .inl h
  | _ =>
    refine .inl (Eq.trans (congrFun ?_ t) h)
    exact Eq.symm (frame (·.found) rfl)

end Steps

/-! ### What the tables lead to -/

/-- What a node has for a name, and what it has looked up, is the number of the end on which the
name last shook hands. -/
structure Linked (i : ι) (h : ClusterHost ι Tid) : Prop where
  table : ∀ n fd, h.table.nodeToFd n = some fd → ∃ e, h.shaken n = some e ∧ e.node = i ∧ e.fd = fd
  onItsWay : ∀ out, OnItsWay h out → ∃ e, out.via = some e ∧ e.node = i ∧ e.fd = out.fd

omit [DecidableEq ι] [DecidableEq Tid] in
/-- The end that a lookup finds. -/
lemma lookup_eq_some {packet : ClusterPacket} {out : Outgoing ι}
    (hout : s.lookup i packet = some out) :
    (s.host i).table.nodeToFd packet.targetNodeId = some out.fd ∧ out.packet = packet ∧
      out.via = (s.host i).shaken packet.targetNodeId := by
  simp only [ClusterNet.lookup] at hout
  split_ifs at hout with hneg
  obtain rfl := Option.some.inj hout
  cases hn : (s.host i).table.nodeToFd packet.targetNodeId with
  | none => simp [NodeTable.getFdByNodeId, hn] at hneg
  | some fd => exact ⟨by simp [NodeTable.getFdByNodeId, hn], rfl, rfl⟩

lemma linked_next (hm : ∀ i, Marked i (s.host i)) (h : ∀ i, Linked i (s.host i))
    (hs : Step T s a s') (i : ι) : Linked i (s'.host i) where
  table n fd hn := by
    rcases entry_next hm hs i n with ⟨htable, hshaken⟩ | ⟨e, packet, fd', hi, -, -, htable, hshaken⟩
    · rw [hshaken]
      exact (h i).table n fd (htable fd hn)
    · exact ⟨e, hshaken, hi, Option.some.inj (htable.symm.trans hn)⟩
  onItsWay out hout := by
    rcases onItsWay_next hm hs hout with hout | ⟨t, packet, -, hlook⟩ | ⟨e, fd, hi, hcall, rfl⟩
    · exact (h i).onItsWay out hout
    · obtain ⟨htable, -, hvia⟩ := lookup_eq_some hlook
      obtain ⟨e, hshaken, hi, hfd⟩ := (h i).table _ _ htable
      exact ⟨e, hvia.trans hshaken, hi, hfd⟩
    · exact ⟨e, rfl, hi, ((hm i).calls _ hcall).2.symm⟩

/-- A packet for the node at the other end, or the handshake of this one. -/
def For (T : Topology ι Tid) (e : ConnEnd ι) (packet : ClusterPacket) : Prop :=
  packet = handshake (T.localNodeId e.node) ∨
    packet.targetNodeId = T.localNodeId (T.peer e).node

/-- Only the node with the name shakes hands, and what is looked up is for that node. -/
structure Aimed (T : Topology ι Tid) (h : ClusterHost ι Tid) : Prop where
  shaken : ∀ n e, h.shaken n = some e → n = T.localNodeId (T.peer e).node
  onItsWay : ∀ out e, OnItsWay h out → out.via = some e → For T e out.packet

omit [DecidableEq Tid] in
/-- The packet of a call was written at the other end. -/
lemma mem_sent_of_call (h : Sound T s) {packet : ClusterPacket} {fd : Fd}
    (hc : (e, .handleDecodedPacket packet fd) ∈ (s.host e.node).calls) :
    packet ∈ s.sent (T.peer e) := by
  apply (h.streamed e).transfer.isPrefix.subset
  refine List.mem_append_right _ (List.mem_filterMap.mpr ⟨_, hc, ?_⟩)
  simp [packetFor]

lemma aimed_next (hsound : Sound T s) (h : ∀ i, Aimed T (s.host i)) (hs : Step T s a s') (i : ι) :
    Aimed T (s'.host i) where
  shaken n e hn := by
    rcases entry_next hsound.marked hs i n with
      ⟨-, hshaken⟩ | ⟨e', packet, fd, rfl, hcall, rfl, -, hshaken⟩
    · exact (h i).shaken n e (hshaken ▸ hn)
    · obtain rfl := Option.some.inj (hshaken.symm.trans hn)
      exact hsound.named.sent _ packet (mem_sent_of_call hsound hcall)
  onItsWay out e hout hvia := by
    rcases onItsWay_next hsound.marked hs hout with
      hout | ⟨t, packet, -, hlook⟩ | ⟨e', fd, rfl, -, rfl⟩
    · exact (h i).onItsWay out e hout hvia
    · obtain ⟨-, rfl, hlooked⟩ := lookup_eq_some hlook
      exact .inr ((h i).shaken _ e (hlooked.symm.trans hvia))
    · obtain rfl := Option.some.inj hvia
      exact .inl rfl

/-! ### Packets and their addressees -/

/-- A packet is written at the end that was looked up for it. -/
def OwnNumber (T : Topology ι Tid) (s : ClusterNet ι Tid) (a : Action ι Tid) : Prop :=
  ∀ x ∈ writes T s a, x.1.via = some x.2

instance (s : ClusterNet ι Tid) (a : Action ι Tid) : Decidable (OwnNumber T s a) :=
  inferInstanceAs (Decidable (∀ x ∈ writes T s a, x.1.via = some x.2))

omit [DecidableEq ι] [DecidableEq Tid] in
lemma linked_start : Linked i ((start : ClusterNet ι Tid).host i) :=
  ⟨by rintro n fd ⟨⟩, fun _ h => absurd h not_onItsWay_start⟩

/-- In every run. -/
theorem linked_of_reach {ok : ClusterNet ι Tid → Action ι Tid → Prop}
    (h : (machine T).Reach ok s) :
    (∀ i, Marked i (s.host i)) ∧ ∀ i, Linked i (s.host i) := by
  refine h.invariant
    (P := fun s => (∀ i, Marked i (s.host i)) ∧ ∀ i, Linked i (s.host i)) ?_ ?_
  · rintro s rfl
    exact ⟨(sound_start (T := T)).marked, fun i => linked_start⟩
  · rintro s a s' _ ⟨hm, hl⟩ _ hs
    exact ⟨marked_next hm (step_of_next hs), linked_next hm hl (step_of_next hs)⟩

theorem aimed_of_reach (hT : T.NamesFit) (h : (machine T).Reach (Proper T) s) (i : ι) :
    Aimed T (s.host i) := by
  refine h.invariant (P := fun s => ∀ i, Aimed T (s.host i)) ?_ ?_ i
  · rintro s rfl i
    exact ⟨by rintro n e ⟨⟩, fun _ _ h => absurd h not_onItsWay_start⟩
  · intro s a s' hr ih _ hs
    exact aimed_next (sound_of_reach hT hr) ih (step_of_next hs)

lemma addressed_of_reach (hT : T.NamesFit)
    (h : (machine T).Reach (fun s a => Proper T s a ∧ OwnNumber T s a) s) :
    ∀ e, ∀ packet ∈ s.sent e, For T e packet := by
  refine h.invariant (P := fun s => ∀ e, ∀ packet ∈ s.sent e, For T e packet) ?_ ?_
  · rintro s rfl e packet ⟨⟩
  · intro s a s' hr ih ha hs
    have hr : (machine T).Reach (Proper T) s := hr.mono fun _ _ h => h.1
    refine sent_next ih (fun x hx => ?_) (step_of_next hs)
    have hway : OnItsWay (s.host x.2.node) x.1 := onItsWay_of_writes (linked_of_reach hr).1 hx
    exact (aimed_of_reach hT hr _).onItsWay x.1 x.2 hway (ha.2 x hx)

/-- Both nodes shake hands, and one sends the other a packet. -/
def exchange : List (Action Bool Bool) :=
  let a : ConnEnd Bool := { node := false, fd := 5, serial := 0 }
  let b : ConnEnd Bool := { node := true, fd := 5, serial := 0 }
  [.opened a, .announce a, .opened b, .announce b, .fetch true, .call true, .send true none,
    .runTask true, .receive a 39, .fetch false, .call false, .send false none, .fetch false,
    .call false,
    .lookup false true { sourceNodeId := [65], targetNodeId := [66], targetActorName := [97] },
    .getConnection false true, .send false (some true), .runTask false, .runTask false,
    .receive b 63, .fetch true, .call true, .call true]

example : (((machine twoNodes).replayWith
    (fun s a => Proper twoNodes s a ∧ OwnNumber twoNodes s a) start exchange).handled
      ⟨true, 5, 0⟩).map (·.targetActorName) = [[], [97]] := by decide +kernel

/-- A node still has to do with an end: a message or a call is about it, an entry leads to it, or a
packet is on its way to it. -/
def Refers (h : ClusterHost ι Tid) (e : ConnEnd ι) : Prop :=
  Heard h e ∨ (∃ n, h.table.nodeToFd n = some e.fd ∧ h.shaken n = some e) ∨
    ∃ out, OnItsWay h out ∧ out.via = some e

/-- A number is given to a new connection only when the node has done with the old ones. -/
def NoTakeover (s : ClusterNet ι Tid) (a : Action ι Tid) : Prop :=
  ∀ e ∈ a.opens, ∀ e₀, Refers (s.host e.node) e₀ → e₀.fd ≠ e.fd

/-- What a node refers to after a step it did before, or the loop has the number for that end. -/
lemma refers_next (hm : ∀ i, Marked i (s.host i)) (hlinked : ∀ i, Linked i (s.host i))
    (hs : Step T s a s') (h : Refers (s'.host i) e) :
    Refers (s.host i) e ∨ ∀ e', (s'.host i).connections e.fd = some e' → e' = e := by
  rcases h with h | ⟨n, hn, he⟩ | ⟨out, hout, hvia⟩
  · exact (heard_next hm hs h).imp_left .inl
  · rcases entry_next hm hs i n with ⟨htable, hshaken⟩ | ⟨e', packet, fd, -, hcall, -, -, hshaken⟩
    · exact .inl (.inr (.inl ⟨n, htable _ hn, hshaken ▸ he⟩))
    · obtain rfl := Option.some.inj (hshaken.symm.trans he)
      exact .inl (.inl (.inr ⟨_, hcall, rfl⟩))
  · rcases onItsWay_next hm hs hout with hout | ⟨t, packet, -, hlook⟩ | ⟨e', fd, -, hcall, rfl⟩
    · exact .inl (.inr (.inr ⟨out, hout, hvia⟩))
    · obtain ⟨htable, -, hlooked⟩ := lookup_eq_some hlook
      obtain ⟨e', hshaken, -, hfd⟩ := (hlinked i).table _ _ htable
      have he : (s.host i).shaken packet.targetNodeId = some e := hlooked.symm.trans hvia
      obtain rfl := Option.some.inj (hshaken.symm.trans he)
      exact .inl (.inr (.inl ⟨_, hfd ▸ htable, he⟩))
    · obtain rfl := Option.some.inj hvia
      exact .inl (.inl (.inr ⟨_, hcall, rfl⟩))

/-- The loop has no other connection with the number of an end that the node refers to, and a thread
has found the end that it looked up. -/
structure Kept (h : ClusterHost ι Tid) : Prop where
  own : ∀ e₀ e, Refers h e₀ → h.connections e₀.fd = some e → e = e₀
  found : ∀ t x, h.found t = some x → x.1.via = some x.2

lemma kept_next (hm : ∀ i, Marked i (s.host i)) (hlinked : ∀ i, Linked i (s.host i))
    (h : ∀ i, Kept (s.host i)) (ha : NoTakeover s a) (hs : Step T s a s') (i : ι) :
    Kept (s'.host i) := by
  have hown : ∀ e₀ e, Refers (s'.host i) e₀ → (s'.host i).connections e₀.fd = some e →
      e = e₀ := by
    intro e₀ e hr hc
    rcases refers_next hm hlinked hs hr with hold | honly
    · rcases connections_next hs i e₀.fd with hsame | hnone | ⟨e', hopens, rfl, hfd, -⟩
      · exact (h i).own e₀ e hold (hsame ▸ hc)
      · rw [hnone] at hc
        cases hc
      · exact absurd hfd.symm (ha e' hopens e₀ hold)
    · exact honly e hc
  refine ⟨hown, fun t x hx => ?_⟩
  rcases found_next hs hx with hold | hconn
  · exact (h i).found t x hold
  · have hway : OnItsWay (s'.host i) x.1 := .inr (.inl ⟨t, x.2, hx⟩)
    obtain ⟨e₀, hvia, -, hfd⟩ := (linked_next hm hlinked hs i).onItsWay x.1 hway
    rw [hvia, hown e₀ x.2 (.inr (.inr ⟨x.1, hway, hvia⟩)) (hfd ▸ hconn)]

/-- A connection comes to its end, and the node has done with it when its number is used again. The
gateway has left a task that sends the second handshake. -/
def secondConnection : List (Action Bool Bool) :=
  let a : ConnEnd Bool := { node := false, fd := 5, serial := 0 }
  let a' : ConnEnd Bool := { node := false, fd := 5, serial := 1 }
  [.opened a, .announce a, .fetch false, .call false, .send false none, .runTask false,
    .endOfStream a, .remove false 5, .fetch false, .call false,
    .opened a', .announce a', .fetch false, .call false, .send false none]

end ClusterNet

end Balabala
