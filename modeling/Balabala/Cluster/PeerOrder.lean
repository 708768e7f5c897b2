import Balabala.Cluster.Peers

/-!
# The order of the messages of one descriptor

The mailbox of a gateway has the messages of all connections that use a descriptor number one after
another. Whichever of them were closed in what way, those of one connection come before those of the
next, and `Connected` comes first. So a chunk always finds the buffer of its own connection.
-/

namespace Balabala

open Foundation ClusterPacketCodec

namespace ClusterNet

variable {ι Tid : Type*} [DecidableEq ι] {s s' : ClusterNet ι Tid}
  {T : Topology ι Tid} {a : Action ι Tid} {e : ConnEnd ι} {i : ι}

/-! ### Everything bears the right mark -/

/-- What a node has of an end belongs there. -/
structure Marked (i : ι) (h : ClusterHost ι Tid) : Prop where
  mail : ∀ x ∈ h.mailbox, x.1.node = i ∧ x.2.fd = x.1.fd
  calls : ∀ x ∈ h.calls, x.1.node = i ∧ x.2.fd = x.1.fd
  connections : ∀ fd e, h.connections fd = some e → e.node = i ∧ e.fd = fd
  current : ∀ fd e, h.current fd = some e → e.node = i ∧ e.fd = fd
  found : ∀ t x, h.found t = some x → x.2.node = i ∧ x.2.fd = x.1.fd

/-- The gateway's calls are about the descriptor of the message. -/
lemma fd_of_mem_onCoroutineMessage {g : ClusterGatewayActor} {msg : ActorMessage} {c : GatewayCall}
    (h : c ∈ (g.onCoroutineMessage msg).2) : c.fd = msg.fd := by
  by_contra hne
  obtain ⟨-, hnil⟩ := ClusterGatewayActor.onCoroutineMessage_other (g := g) (Ne.symm hne)
  have hmem : c ∈ ClusterGatewayActor.callsFor c.fd (g.onCoroutineMessage msg).2 :=
    List.mem_filter.mpr ⟨h, by simp⟩
  rw [hnil] at hmem
  cases hmem

omit [DecidableEq ι] in
lemma Marked.post {h : ClusterHost ι Tid} (hm : Marked i h) {msg : ActorMessage}
    (hi : e.node = i) (hfd : msg.fd = e.fd) :
    Marked i { h with mailbox := h.mailbox ++ [(e, msg)] } where
  mail x hx := by
    rcases List.mem_append.mp hx with hx | hx
    · exact hm.mail x hx
    · rw [List.mem_singleton.mp hx]
      exact ⟨hi, hfd⟩
  calls := hm.calls
  connections := hm.connections
  current := hm.current
  found := hm.found

omit [DecidableEq ι] in
lemma Marked.update {h : ClusterHost ι Tid} (hm : Marked i h) {fd : Fd} {o : Option (ConnEnd ι)}
    (ho : ∀ e, o = some e → e.node = i ∧ e.fd = fd) :
    Marked i { h with connections := Function.update h.connections fd o } where
  mail := hm.mail
  calls := hm.calls
  connections f e he := by
    by_cases hf : f = fd
    · subst hf
      exact ho e (by simpa using he)
    · exact hm.connections f e (by simpa [hf] using he)
  current := hm.current
  found := hm.found

lemma marked_setFound [DecidableEq Tid] (h : ∀ i, Marked i (s.host i)) {t : Option Tid}
    {o : Option (Outgoing ι × ConnEnd ι)}
    (ho : ∀ x, o = some x → x.2.node = i ∧ x.2.fd = x.1.fd) :
    ∀ j, Marked j ((s.setFound i t o).host j) := by
  refine forall_update h
    ⟨(h i).mail, (h i).calls, (h i).connections, (h i).current, fun t' x hx => ?_⟩
  by_cases ht : t' = t
  · subst ht
    exact ho x (by simpa using hx)
  · exact (h i).found t' x (by simpa [ht] using hx)

/-- `GetConnection` gives the connection with the number that was looked up. -/
lemma marked_getConnection [DecidableEq Tid] (h : ∀ i, Marked i (s.host i)) (i : ι)
    (t : Option Tid) (out : Outgoing ι) : ∀ j, Marked j ((s.getConnection i t out).host j) := by
  refine marked_setFound h fun x hx => ?_
  obtain ⟨e, hconn, rfl⟩ := Option.map_eq_some_iff.mp hx
  exact (h i).connections out.fd e hconn

lemma marked_send [DecidableEq Tid] (h : ∀ i, Marked i (s.host i)) (e : ConnEnd ι) (i : ι)
    (t : Option Tid) (out : Outgoing ι) : ∀ j, Marked j ((s.send e i T t out).host j) := by
  rcases s.send_cases e i T t out with heq | ⟨-, heq⟩ | heq <;> rw [heq]
  · exact h
  · exact h
  · exact forall_update h
      ⟨(h i).mail, (h i).calls, (h i).connections, (h i).current, (h i).found⟩

lemma marked_fetch (h : ∀ i, Marked i (s.host i)) {msg : ActorMessage}
    {mailbox : List (ConnEnd ι × ActorMessage)}
    (hmail : (s.host e.node).mailbox = (e, msg) :: mailbox) :
    ∀ j, Marked j ((s.fetch e msg mailbox).host j) := by
  have hfd : msg.fd = e.fd := ((h e.node).mail (e, msg) (by rw [hmail]; exact List.mem_cons_self)).2
  refine forall_update h
    ⟨fun x hx => ?_, fun x hx => ?_, (h e.node).connections, fun fd e' he' => ?_,
      (h e.node).found⟩
  · exact (h e.node).mail x (by rw [hmail]; exact List.mem_cons_of_mem _ hx)
  · obtain ⟨c, hc, rfl⟩ := List.mem_map.mp hx
    exact ⟨rfl, (fd_of_mem_onCoroutineMessage hc).trans hfd⟩
  · rcases currentAfter_cases he' with ⟨rfl, rfl⟩ | he'
    · exact ⟨rfl, hfd.symm⟩
    · exact (h e.node).current fd e' he'

lemma marked_perform [DecidableEq Tid] (h : ∀ i, Marked i (s.host i)) (e : ConnEnd ι)
    (c : GatewayCall) : ∀ j, Marked j ((s.perform e T c).host j) := by
  cases c with
  | sendHandshake fd =>
    rw [perform]
    split_ifs
    · exact h
    · exact marked_getConnection h _ _ _
  | handleDecodedPacket packet fd =>
    exact forall_update h
      ⟨(h _).mail, (h _).calls, (h _).connections, (h _).current, (h _).found⟩
  | onNodeDisconnected fd =>
    exact forall_update h
      ⟨(h _).mail, (h _).calls, (h _).connections, (h _).current, (h _).found⟩
  | removeConnection fd => exact h

lemma marked_next [DecidableEq Tid] (h : ∀ i, Marked i (s.host i)) (hs : Step T s a s') :
    ∀ i, Marked i (s'.host i) := by
  cases hs with
  | opened e hstage hfree | openedAtOnce e hstage hfree =>
    refine forall_update h ((h e.node).update ?_)
    rintro e' ⟨⟩
    exact ⟨rfl, rfl⟩
  | announce e hstage hconn => exact forall_update h ((h e.node).post rfl rfl)
  | refuse e hstage hconn => exact forall_update h ((h e.node).post rfl rfl)
  | receive e n hstage hconn => exact forall_update h ((h e.node).post rfl (fd_make _ _ _ _))
  | receiveEarly e n bound hconn =>
    rcases s.receiveEarly_cases e n bound with heq | ⟨msg, hfd, heq⟩ <;> rw [heq]
    · exact h
    · exact forall_update h ((h e.node).post rfl hfd)
  | endOfStream e hstage hconn => exact forall_update h ((h e.node).post rfl rfl)
  | remove i fd =>
    refine forall_update h ((h i).update ?_)
    rintro e' ⟨⟩
  | lookup i t packet =>
    exact forall_update h
      ⟨(h i).mail, (h i).calls, (h i).connections, (h i).current, (h i).found⟩
  | getConnection i t out hhand =>
    refine marked_getConnection (forall_update h ?_) i (some t) out
    exact ⟨(h i).mail, (h i).calls, (h i).connections, (h i).current, (h i).found⟩
  | send i t out e hfound =>
    have hnone : ∀ j, Marked j ((s.setFound i t none).host j) :=
      marked_setFound h (by rintro x ⟨⟩)
    exact marked_send hnone e i t out
  | sendTask i e out tasks htasks hconn =>
    refine marked_send (forall_update h ?_) e i _ out
    exact ⟨(h i).mail, (h i).calls, (h i).connections, (h i).current, (h i).found⟩
  | dropped i out tasks htasks hconn =>
    exact forall_update h
      ⟨(h i).mail, (h i).calls, (h i).connections, (h i).current, (h i).found⟩
  | fetch i e msg mailbox hcalls hmail =>
    obtain rfl : e.node = i := ((h i).mail (e, msg) (by rw [hmail]; exact List.mem_cons_self)).1
    exact marked_fetch h hmail
  | call i e c calls hcalls =>
    refine marked_perform (forall_update h ?_) e c
    refine ⟨(h i).mail, fun x hx => (h i).calls x ?_, (h i).connections, (h i).current,
      (h i).found⟩
    rw [hcalls]
    exact List.mem_cons_of_mem _ hx

/-! ### The messages of one descriptor -/

/-- The end that the buffer of a descriptor belongs to once these messages were handled. There is
none when a chunk comes at the wrong time. -/
def follow (fd : Fd) : Option (ConnEnd ι) → List (ConnEnd ι × ActorMessage) →
    Option (Option (ConnEnd ι))
  | cur, [] => some cur
  | cur, x :: mail =>
    if x.2.fd = fd then
      match x.2.type with
      | .connected => follow fd (some x.1) mail
      | .disconnected => follow fd none mail
      | .networkRecv => if cur = some x.1 then follow fd cur mail else none
      | _ => none
    else follow fd cur mail

/-- The gateway has not heard of the end. -/
def Unheard (stage : ConnEnd ι → EndStage) (h : ClusterHost ι Tid) (e : ConnEnd ι) : Prop :=
  (stage e).Unannounced ∨ ∃ x ∈ h.mailbox, x.1 = e ∧ x.2.type = .connected

/-- The mailbox has the messages of the connections of a descriptor one connection after another,
and the last of them is the one that the loop reads. -/
structure InOrder (stage : ConnEnd ι → EndStage) (held : ConnEnd ι → Bytes) (i : ι)
    (h : ClusterHost ι Tid) : Prop where
  follows : ∀ fd, ∃ last, follow fd (h.current fd) h.mailbox = some last ∧
    ∀ e, e.node = i → h.connections fd = some e → stage e = .announced → last = some e
  first : h.mailbox.Pairwise fun x y => y.2.type = .connected → x.1 ≠ y.1
  unmarked : ∀ e, e.node = i → (stage e).Unannounced → ∀ x ∈ h.mailbox, x.1 ≠ e
  unheard : ∀ e, e.node = i → Unheard stage h e → held e = [] ∧ ∀ fd, h.current fd ≠ some e

section InOrder

variable {fd : Fd} {cur : Option (ConnEnd ι)} {mail mail' : List (ConnEnd ι × ActorMessage)}
  {stage stage' : ConnEnd ι → EndStage} {held held' : ConnEnd ι → Bytes} {h : ClusterHost ι Tid}
  {msg : ActorMessage}

lemma follow_append : follow fd cur (mail ++ mail') =
    (follow fd cur mail).bind fun cur => follow fd cur mail' := by
  induction mail generalizing cur with
  | nil => rfl
  | cons x mail ih =>
    simp only [List.cons_append, follow]
    by_cases hf : x.2.fd = fd
    · rw [if_pos hf, if_pos hf]
      cases x.2.type <;> dsimp only
      case networkRecv => by_cases hc : cur = some x.1 <;> simp [hc, ih]
      all_goals first | exact ih | rfl
    · rw [if_neg hf, if_neg hf]
      exact ih

lemma follow_other (hfd : msg.fd ≠ fd) : follow fd cur [(e, msg)] = some cur := by
  simp [follow, hfd]

omit [DecidableEq ι] in
lemma Unheard.congr (hu : Unheard stage' h e)
    (hst : (stage' e).Unannounced → (stage e).Unannounced) : Unheard stage h e := hu.imp_left hst

/-- Nothing changes for a node when the ends of other nodes change. -/
lemma InOrder.congr (ho : InOrder stage held i h) (hst : ∀ e, e.node = i → stage' e = stage e)
    (hh : ∀ e, e.node = i → held' e = held e) : InOrder stage' held' i h where
  follows fd := by
    obtain ⟨last, hlast, hconn⟩ := ho.follows fd
    exact ⟨last, hlast, fun e he hc hs => hconn e he hc (by rwa [← hst e he])⟩
  first := ho.first
  unmarked e he hs := ho.unmarked e he (by rwa [← hst e he])
  unheard e he hu := by
    rw [hh e he]
    exact ho.unheard e he (hu.congr (by rw [hst e he]; exact id))

/-- A message about a connection, when the loop has no other with its number. `msg` says what
becomes of the end. -/
lemma InOrder.post (ho : InOrder stage held i h) (hm : Marked i h) (hi : e.node = i)
    (hconn : ∀ e', h.connections e.fd = some e' → e' = e) (hfd : msg.fd = e.fd)
    (hst : ∀ e', e' ≠ e → stage' e' = stage e') (hstage : ¬ (stage' e).Unannounced)
    (hopened : msg.type = .connected → (stage e).Unannounced)
    (hafter : ∀ last, (h.connections e.fd = some e → stage e = .announced → last = some e) →
      ∃ last', follow e.fd last [(e, msg)] = some last' ∧
        (stage' e = .announced → last' = some e)) :
    InOrder stage' held i { h with mailbox := h.mailbox ++ [(e, msg)] } where
  follows fd := by
    obtain ⟨last, hlast, hlive⟩ := ho.follows fd
    by_cases hf : e.fd = fd
    · subst hf
      obtain ⟨last', hlast', hlive'⟩ := hafter last (hlive e hi)
      refine ⟨last', by simp only [follow_append, hlast, Option.bind_some, hlast'], ?_⟩
      intro e' _ hc hs
      obtain rfl := hconn e' hc
      exact hlive' hs
    · refine ⟨last, by simp only [follow_append, hlast, Option.bind_some,
        follow_other (hfd.trans_ne hf)], ?_⟩
      intro e' he' hc hs
      have hne : e' ≠ e := by
        rintro rfl
        exact hf (hm.connections fd e' hc).2
      exact hlive e' he' hc (by rwa [← hst e' hne])
  first := by
    refine List.pairwise_append.mpr ⟨ho.first, List.pairwise_singleton _ _, fun x hx y hy ht => ?_⟩
    obtain rfl := List.mem_singleton.mp hy
    exact ho.unmarked e hi (hopened ht) x hx
  unmarked e' he' hs x hx := by
    have hne : e' ≠ e := by
      rintro rfl
      exact hstage hs
    rcases List.mem_append.mp hx with hx | hx
    · exact ho.unmarked e' he' (by rwa [← hst e' hne]) x hx
    · rw [List.mem_singleton.mp hx]
      exact hne.symm
  unheard e' he' hu := by
    apply ho.unheard e' he'
    by_cases hne : e' = e
    · subst hne
      rcases hu with hu | ⟨x, hx, hxe, ht⟩
      · exact absurd hu hstage
      · rcases List.mem_append.mp hx with hx | hx
        · exact .inr ⟨x, hx, hxe, ht⟩
        · obtain rfl := List.mem_singleton.mp hx
          exact .inl (hopened ht)
    · rcases hu with hu | ⟨x, hx, hxe, ht⟩
      · exact .inl (by rwa [← hst e' hne])
      · rcases List.mem_append.mp hx with hx | hx
        · exact .inr ⟨x, hx, hxe, ht⟩
        · obtain rfl := List.mem_singleton.mp hx
          exact absurd hxe.symm hne

/-- The loop has a connection less. -/
lemma InOrder.remove (ho : InOrder stage held i h) (fd : Fd) :
    InOrder stage held i { h with connections := Function.update h.connections fd none } where
  follows f := by
    obtain ⟨last, hlast, hlive⟩ := ho.follows f
    refine ⟨last, hlast, fun e he hc => hlive e he ?_⟩
    by_cases hf : f = fd
    · simp [hf] at hc
    · simpa [hf] using hc
  first := ho.first
  unmarked := ho.unmarked
  unheard := ho.unheard

/-- The loop has one more, which is not announced. -/
lemma InOrder.connect (ho : InOrder stage held i h) (hi : e.node = i) (hstage : stage e = .unused)
    {st : EndStage} (hst : st ≠ .announced) : InOrder (Function.update stage e st) held i
      { h with connections := Function.update h.connections e.fd (some e) } where
  follows f := by
    obtain ⟨last, hlast, hlive⟩ := ho.follows f
    refine ⟨last, hlast, fun e' he' hc hs => ?_⟩
    by_cases hne : e' = e
    · simp [hne, hst] at hs
    · by_cases hf : f = e.fd
      · simp [hf, Ne.symm hne] at hc
      · exact hlive e' he' (by simpa [hf] using hc) (by simpa [hne] using hs)
  first := ho.first
  unmarked e' he' hs := by
    by_cases hne : e' = e
    · exact hne ▸ ho.unmarked e hi (.inl hstage)
    · exact ho.unmarked e' he' (by simpa [hne] using hs)
  unheard e' he' hu := by
    by_cases hne : e' = e
    · exact hne ▸ ho.unheard e hi (.inl (.inl hstage))
    · exact ho.unheard e' he' (hu.congr (by simp [hne]))

/-- The first message is one that may come next. -/
lemma InOrder.head (ho : InOrder stage held i h) (hmail : h.mailbox = (e, msg) :: mail) :
    msg.type = .connected ∨ msg.type = .disconnected ∨
      msg.type = .networkRecv ∧ h.current msg.fd = some e := by
  obtain ⟨last, hlast, -⟩ := ho.follows msg.fd
  rw [hmail, follow, if_pos rfl] at hlast
  cases ht : msg.type <;> simp only [ht] at hlast
  case connected => exact .inl rfl
  case disconnected => exact .inr (.inl rfl)
  case networkRecv =>
    split_ifs at hlast with hc
    exact .inr (.inr ⟨rfl, hc⟩)
  all_goals cases hlast

lemma follow_currentAfter (hf : follow fd (h.current fd) ((e, msg) :: mail) = some cur) :
    follow fd (currentAfter e h msg fd) mail = some cur := by
  rw [follow] at hf
  by_cases hfd : msg.fd = fd
  · subst hfd
    rw [if_pos rfl] at hf
    rw [currentAfter]
    cases ht : msg.type <;> simp only [ht, Function.update_self] at hf ⊢
    case connected => exact hf
    case disconnected => exact hf
    case networkRecv =>
      split_ifs at hf
      exact hf
    all_goals cases hf
  · rw [if_neg hfd] at hf
    rwa [currentAfter_other hfd]

/-- The gateway does not have the buffer of another end with this number. -/
lemma InOrder.currentAfter_ne (ho : InOrder stage held i h) (hmail : h.mailbox = (e, msg) :: mail)
    {e' : ConnEnd ι} (hne : e' ≠ e) : currentAfter e h msg msg.fd ≠ some e' := by
  rw [currentAfter]
  rcases ho.head hmail with ht | ht | ⟨ht, hcur⟩
  · simpa [ht] using Ne.symm hne
  · simp [ht]
  · simpa [ht, hcur] using Ne.symm hne

/-- The gateway takes a message. -/
lemma InOrder.fetch (ho : InOrder stage held i h) (hmail : h.mailbox = (e, msg) :: mail)
    (hheld : ∀ e', e' ≠ e → held' e' = held e') {x : ClusterHost ι Tid} (hx : x.mailbox = mail)
    (hcurrent : x.current = currentAfter e h msg) (hconns : x.connections = h.connections) :
    InOrder stage held' i x where
  follows fd := by
    obtain ⟨last, hlast, hlive⟩ := ho.follows fd
    rw [hmail] at hlast
    exact ⟨last, by rw [hcurrent, hx, follow_currentAfter hlast], by rwa [hconns]⟩
  first := by
    rw [hx]
    exact (hmail ▸ ho.first).of_cons
  unmarked e' he' hs y hy := by
    apply ho.unmarked e' he' hs y
    rw [hmail]
    rw [hx] at hy
    exact List.mem_cons_of_mem _ hy
  unheard e' he' hu := by
    have hold : Unheard stage h e' := by
      refine hu.imp_right ?_
      rintro ⟨y, hy, hye, ht⟩
      rw [hx] at hy
      exact ⟨y, by rw [hmail]; exact List.mem_cons_of_mem _ hy, hye, ht⟩
    -- the message was not about an end of which the gateway has not heard
    have hne : e' ≠ e := by
      rintro rfl
      have hhead : (e', msg) ∈ h.mailbox := by
        rw [hmail]
        exact List.mem_cons_self
      rcases hu with hu | ⟨y, hy, rfl, ht⟩
      · exact ho.unmarked _ he' hu _ hhead rfl
      · have hfirst := ho.first
        rw [hmail] at hfirst
        rw [hx] at hy
        exact List.rel_of_pairwise_cons hfirst hy ht rfl
    obtain ⟨hnil, hcur⟩ := ho.unheard e' he' hold
    rw [hheld e' hne, hcurrent]
    refine ⟨hnil, fun fd hfd => ?_⟩
    rcases currentAfter_cases hfd with ⟨rfl, -⟩ | hfd
    · exact hne rfl
    · exact hcur fd hfd

end InOrder

/-- The mailbox of every node is in order. -/
def AllInOrder (s : ClusterNet ι Tid) : Prop := ∀ i, InOrder s.stage s.held i (s.host i)

lemma AllInOrder.getConnection [DecidableEq Tid] (h : AllInOrder s) (i : ι) (t : Option Tid)
    (out : Outgoing ι) : AllInOrder (s.getConnection i t out) :=
  forall_update h ⟨(h i).follows, (h i).first, (h i).unmarked, (h i).unheard⟩

lemma AllInOrder.send [DecidableEq Tid] (h : AllInOrder s) (e : ConnEnd ι) (i : ι) (t : Option Tid)
    (out : Outgoing ι) : AllInOrder (s.send e i T t out) := by
  rcases s.send_cases e i T t out with heq | ⟨-, heq⟩ | heq <;> rw [heq]
  · exact h
  · exact h
  · exact forall_update h ⟨(h i).follows, (h i).first, (h i).unmarked, (h i).unheard⟩

lemma AllInOrder.perform [DecidableEq Tid] (h : AllInOrder s) (e : ConnEnd ι) (c : GatewayCall) :
    AllInOrder (s.perform e T c) := by
  cases c with
  | sendHandshake fd =>
    rw [ClusterNet.perform]
    split_ifs
    · exact h
    · exact h.getConnection _ _ _
  | handleDecodedPacket packet fd =>
    exact forall_update h ⟨(h _).follows, (h _).first, (h _).unmarked, (h _).unheard⟩
  | onNodeDisconnected fd =>
    exact forall_update h ⟨(h _).follows, (h _).first, (h _).unmarked, (h _).unheard⟩
  | removeConnection fd => exact h

/-- The loop has one more connection while the end comes to a stage. -/
lemma AllInOrder.connect (h : AllInOrder s) (hstage : s.stage e = .unused) {st : EndStage}
    (hst : st ≠ .announced) : AllInOrder ((s.connect e).setStage e st) := by
  refine (Function.forall_update_iff s.host
    fun i x => InOrder (Function.update s.stage e st) s.held i x).mpr
      ⟨(h e.node).connect rfl hstage hst, fun i hi => ?_⟩
  refine (h i).congr (fun e' he' => Function.update_of_ne ?_ _ _) fun _ _ => rfl
  rintro rfl
  exact hi he'.symm

/-- A message for the gateway while the end comes to another stage. -/
lemma AllInOrder.post (h : AllInOrder s) (hm : ∀ i, Marked i (s.host i)) {msg : ActorMessage}
    {st : EndStage} (hconn : ∀ e', (s.host e.node).connections e.fd = some e' → e' = e)
    (hfd : msg.fd = e.fd) (hstage : ¬ st.Unannounced)
    (hopened : msg.type = .connected → (s.stage e).Unannounced)
    (hafter : ∀ last, ((s.host e.node).connections e.fd = some e → s.stage e = .announced →
        last = some e) →
      ∃ last', follow e.fd last [(e, msg)] = some last' ∧ (st = .announced → last' = some e)) :
    AllInOrder ((s.post e msg).setStage e st) := by
  have hother : ∀ e', e' ≠ e → Function.update s.stage e st e' = s.stage e' :=
    fun e' hne => Function.update_of_ne hne _ _
  have hst : ∀ i, i ≠ e.node → InOrder (Function.update s.stage e st) s.held i (s.host i) := by
    intro i hi
    refine (h i).congr (fun e' he' => hother e' ?_) fun _ _ => rfl
    rintro rfl
    exact hi he'.symm
  refine (Function.forall_update_iff s.host
    fun i x => InOrder (Function.update s.stage e st) s.held i x).mpr ⟨?_, hst⟩
  refine (h e.node).post (hm e.node) rfl hconn hfd hother ?_ hopened ?_
  · rwa [Function.update_self]
  · rwa [Function.update_self]

lemma AllInOrder.next [DecidableEq Tid] (h : AllInOrder s) (hm : ∀ i, Marked i (s.host i))
    (hearly : ∀ e n bound, a ≠ .receiveEarly e n bound) (hs : Step T s a s') : AllInOrder s' := by
  cases hs with
  | opened e hstage hfree => exact h.connect hstage (by decide)
  | openedAtOnce e hstage hfree => exact h.connect hstage (by decide)
  | announce e hstage hconn =>
    refine h.post hm hconn rfl (by decide) (fun _ => .inr hstage) fun last _ => ?_
    exact ⟨some e, by simp [follow, Connector.connectedMessage], fun _ => rfl⟩
  | refuse e hstage hconn =>
    refine h.post hm (only_connection hconn) rfl (by decide) (fun ht => by cases ht)
      fun last _ => ?_
    exact ⟨none, by simp [follow, Connector.connectFailedMessage], fun hst => by cases hst⟩
  | receive e n hstage hconn =>
    have hpost : AllInOrder ((s.post e
        (.make .networkRecv 0 e.fd ((s.inFlight e).take n))).setStage e .announced) := by
      refine h.post hm (only_connection hconn) (fd_make _ _ _ _) (by decide) (fun ht => ?_)
        fun last hl => ?_
      · rw [ActorMessage.type_make] at ht
        cases ht
      · exact ⟨some e, by simp [follow, fd_make, hl hconn hstage], fun _ => rfl⟩
    intro i
    refine (hpost i).congr (fun e' _ => ?_) fun _ _ => rfl
    change s.stage e' = Function.update s.stage e .announced e'
    rw [← hstage, Function.update_eq_self]
  | receiveEarly e n bound hconn => exact absurd rfl (hearly e n bound)
  | endOfStream e hstage hconn =>
    refine h.post hm (only_connection hconn) rfl (by decide) (fun ht => by cases ht)
      fun last _ => ?_
    exact ⟨none, by simp [follow], fun hst => by cases hst⟩
  | remove i fd => exact forall_update h ((h i).remove fd)
  | lookup i t packet =>
    exact forall_update h ⟨(h i).follows, (h i).first, (h i).unmarked, (h i).unheard⟩
  | getConnection i t out hhand =>
    have hhand : AllInOrder (s.setHand i t none) :=
      forall_update h ⟨(h i).follows, (h i).first, (h i).unmarked, (h i).unheard⟩
    exact hhand.getConnection i (some t) out
  | send i t out e hfound =>
    have hfound : AllInOrder (s.setFound i t none) :=
      forall_update h ⟨(h i).follows, (h i).first, (h i).unmarked, (h i).unheard⟩
    exact hfound.send e i t out
  | sendTask i e out tasks htasks hconn =>
    have hdrop : AllInOrder (s.dropTask i tasks) :=
      forall_update h ⟨(h i).follows, (h i).first, (h i).unmarked, (h i).unheard⟩
    exact hdrop.send e i _ out
  | dropped i out tasks htasks hconn =>
    exact forall_update h ⟨(h i).follows, (h i).first, (h i).unmarked, (h i).unheard⟩
  | fetch i e msg mailbox hcalls hmail =>
    obtain rfl : e.node = i := ((hm i).mail (e, msg) (by rw [hmail]; exact List.mem_cons_self)).1
    have hother : ∀ e', e' ≠ e → (s.fetch e msg mailbox).held e' = s.held e' := by
      intro e' hne
      rw [ClusterNet.fetch]
      cases msg.type <;> simp [hne]
    refine (Function.forall_update_iff s.host
      fun i x => InOrder s.stage (s.fetch e msg mailbox).held i x).mpr
        ⟨(h e.node).fetch hmail hother rfl rfl rfl, fun i hi => (h i).congr (fun _ _ => rfl) ?_⟩
    rintro e' rfl
    refine hother e' ?_
    rintro rfl
    exact hi rfl
  | call i e c calls hcalls =>
    have hdrop : AllInOrder (s.dropCall i calls) :=
      forall_update h ⟨(h i).follows, (h i).first, (h i).unmarked, (h i).unheard⟩
    exact hdrop.perform e c

/-! ### The packets under way -/

/-- A packet that a node is about to send. -/
def OnItsWay (h : ClusterHost ι Tid) (out : Outgoing ι) : Prop :=
  (∃ t, h.hand t = some out) ∨ (∃ t e, h.found t = some (out, e)) ∨ out ∈ h.tasks

section OnItsWay

variable {j : ι} {out out' : Outgoing ι}

lemma onItsWay_update {x : ClusterHost ι Tid} (h : OnItsWay (Function.update s.host j x i) out) :
    OnItsWay (s.host i) out ∨ i = j ∧ OnItsWay x out := by
  by_cases hi : i = j
  · subst hi
    exact .inr ⟨rfl, by simpa using h⟩
  · exact .inl (by simpa [hi] using h)

/-- A change of a node that has nothing to do with the packets it sends. -/
lemma onItsWay_frame {x : ClusterHost ι Tid} (h : OnItsWay (Function.update s.host j x i) out)
    (hx : OnItsWay x out → OnItsWay (s.host j) out) : OnItsWay (s.host i) out := by
  rcases onItsWay_update h with hold | ⟨rfl, hnew⟩
  · exact hold
  · exact hx hnew

lemma onItsWay_dropTask {tasks : List (Outgoing ι)} (htasks : (s.host j).tasks = out' :: tasks)
    (h : OnItsWay ((s.dropTask j tasks).host i) out) : OnItsWay (s.host i) out := by
  rcases onItsWay_update h with h | ⟨rfl, h | h | h⟩
  · exact h
  · exact .inl h
  · exact .inr (.inl h)
  · exact .inr (.inr (by rw [htasks]; exact List.mem_cons_of_mem _ h))

omit [DecidableEq ι] in
lemma not_onItsWay_start : ¬ OnItsWay ((start : ClusterNet ι Tid).host i) out := by
  rintro (⟨t, ⟨⟩⟩ | ⟨t, e, ⟨⟩⟩ | hout)
  exact List.not_mem_nil hout

variable [DecidableEq Tid]

lemma onItsWay_setHand {t : Tid} {o : Option (Outgoing ι)}
    (h : OnItsWay ((s.setHand j t o).host i) out) :
    OnItsWay (s.host i) out ∨ i = j ∧ o = some out := by
  rcases onItsWay_update h with h | ⟨rfl, ⟨t', h⟩ | h⟩
  · exact .inl h
  · by_cases ht : t' = t
    · subst ht
      exact .inr ⟨rfl, by simpa using h⟩
    · exact .inl (.inl ⟨t', by simpa [ht] using h⟩)
  · exact .inl (.inr h)

lemma onItsWay_setFound {t : Option Tid} {o : Option (Outgoing ι × ConnEnd ι)}
    (h : OnItsWay ((s.setFound j t o).host i) out) :
    OnItsWay (s.host i) out ∨ i = j ∧ ∃ e, o = some (out, e) := by
  rcases onItsWay_update h with h | ⟨rfl, h | ⟨t', e, h⟩ | h⟩
  · exact .inl h
  · exact .inl (.inl h)
  · by_cases ht : t' = t
    · subst ht
      exact .inr ⟨rfl, e, by simpa using h⟩
    · exact .inl (.inr (.inl ⟨t', e, by simpa [ht] using h⟩))
  · exact .inl (.inr (.inr h))

lemma onItsWay_getConnection {t : Option Tid}
    (h : OnItsWay ((s.getConnection j t out').host i) out) :
    OnItsWay (s.host i) out ∨ i = j ∧ out = out' := by
  refine (onItsWay_setFound h).imp_right (And.imp_right ?_)
  rintro ⟨e, he⟩
  obtain ⟨e', -, heq⟩ := Option.map_eq_some_iff.mp he
  exact (congrArg Prod.fst heq).symm

lemma onItsWay_send {t : Option Tid} (h : OnItsWay ((s.send e j T t out').host i) out) :
    OnItsWay (s.host i) out ∨ i = j ∧ out = out' := by
  rcases s.send_cases e j T t out' with heq | ⟨-, heq⟩ | heq <;> rw [heq] at h
  · exact .inl h
  · exact .inl h
  · rcases onItsWay_update h with h | ⟨rfl, h | h | h⟩
    · exact .inl h
    · exact .inl (.inl h)
    · exact .inl (.inr (.inl h))
    · rcases List.mem_append.mp h with h | h
      · exact .inl (.inr (.inr h))
      · exact .inr ⟨rfl, List.mem_singleton.mp h⟩

/-- A packet that a node is about to send after a step it was about to send before, or it was looked
up for, or it is a handshake. -/
lemma onItsWay_next (hm : ∀ i, Marked i (s.host i)) (hs : Step T s a s')
    (h : OnItsWay (s'.host i) out) : OnItsWay (s.host i) out ∨
      (∃ t packet, a = .lookup i t packet ∧ s.lookup i packet = some out) ∨
      ∃ e fd, e.node = i ∧ (e, .sendHandshake fd) ∈ (s.host i).calls ∧
        out = { fd, packet := handshake (T.localNodeId i), via := some e } := by
  cases hs with
  | receiveEarly e n bound hconn =>
    rcases s.receiveEarly_cases e n bound with heq | ⟨msg, -, heq⟩ <;> rw [heq] at h
    · exact .inl h
    · exact .inl (onItsWay_frame (s := s.take e n) h id)
  | lookup j t packet =>
    refine (onItsWay_setHand h).imp_right fun hout => .inl ?_
    obtain ⟨rfl, hout⟩ := hout
    exact ⟨t, packet, rfl, hout⟩
  | getConnection j t out' hhand =>
    rcases onItsWay_getConnection h with h | ⟨rfl, rfl⟩
    · rcases onItsWay_setHand h with h | ⟨-, ⟨⟩⟩
      exact .inl h
    · exact .inl (.inl ⟨t, hhand⟩)
  | send j t out' e hfound =>
    rcases onItsWay_send h with h | ⟨rfl, rfl⟩
    · rcases onItsWay_setFound h with h | ⟨-, e', ⟨⟩⟩
      exact .inl h
    · exact .inl (.inr (.inl ⟨t, e, hfound⟩))
  | sendTask j e out' tasks htasks hconn =>
    rcases onItsWay_send h with h | ⟨rfl, rfl⟩
    · exact .inl (onItsWay_dropTask htasks h)
    · exact .inl (.inr (.inr (by rw [htasks]; exact List.mem_cons_self)))
  | dropped j out' tasks htasks hconn => exact .inl (onItsWay_dropTask htasks h)
  | call j e c calls hcalls =>
    have hmem : (e, c) ∈ (s.host j).calls := by
      rw [hcalls]
      exact List.mem_cons_self
    have hdrop : OnItsWay ((s.dropCall j calls).host i) out → OnItsWay (s.host i) out :=
      fun h => onItsWay_frame h id
    obtain ⟨rfl, -⟩ := (hm j).calls _ hmem
    cases c with
    | sendHandshake fd =>
      rw [perform] at h
      split_ifs at h
      · exact .inl (hdrop h)
      · rcases onItsWay_getConnection h with h | ⟨rfl, rfl⟩
        · exact .inl (hdrop h)
        · exact .inr (.inr ⟨e, fd, rfl, hmem, rfl⟩)
    | handleDecodedPacket packet fd | onNodeDisconnected fd =>
      exact .inl (hdrop (onItsWay_frame (s := s.dropCall e.node calls) h id))
    | removeConnection fd => exact .inl (hdrop h)
  | _ => exact .inl (onItsWay_frame h id)

/-- The packet that a step writes, and at which end. -/
def writes (T : Topology ι Tid) (s : ClusterNet ι Tid) :
    Action ι Tid → Option (Outgoing ι × ConnEnd ι)
  | .runTask i =>
    (s.host i).tasks.head?.bind fun out => ((s.host i).connections out.fd).map (out, ·)
  | .send i t => if t = some (T.loopThread i) then (s.host i).found t else none
  | _ => none

omit [DecidableEq ι] in
lemma onItsWay_of_writes (hm : ∀ i, Marked i (s.host i)) {x : Outgoing ι × ConnEnd ι}
    (hx : x ∈ writes T s a) : OnItsWay (s.host x.2.node) x.1 := by
  cases a with
  | runTask i =>
    obtain ⟨out, hout, hmap⟩ := Option.bind_eq_some_iff.mp hx
    obtain ⟨e, hconn, rfl⟩ := Option.map_eq_some_iff.mp hmap
    obtain ⟨rfl, -⟩ := (hm i).connections out.fd e hconn
    exact .inr (.inr (List.mem_of_mem_head? hout))
  | send i t =>
    obtain ⟨-, hfound⟩ := Option.ite_none_right_eq_some.mp hx
    obtain ⟨rfl, -⟩ := (hm i).found t x hfound
    exact .inr (.inl ⟨t, x.2, hfound⟩)
  | _ => cases hx

/-- What holds of the packets that were written goes on to hold when it holds of the next one. -/
lemma sent_next {R : ConnEnd ι → ClusterPacket → Prop} (h : ∀ e, ∀ packet ∈ s.sent e, R e packet)
    (hw : ∀ x ∈ writes T s a, R x.2 x.1.packet) (hs : Step T s a s') :
    ∀ e, ∀ packet ∈ s'.sent e, R e packet := by
  have hsend : ∀ (s₁ : ClusterNet ι Tid) e i t out, s₁.sent = s.sent →
      (t = some (T.loopThread i) → R e out.packet) →
      ∀ e', ∀ packet ∈ (s₁.send e i T t out).sent e', R e' packet := by
    intro s₁ e i t out hsent hout
    have h₁ : ∀ e, ∀ packet ∈ s₁.sent e, R e packet := by rwa [hsent]
    rcases s₁.send_cases e i T t out with heq | ⟨ht, heq⟩ | heq <;> rw [heq]
    · exact h₁
    · intro e' packet hp
      by_cases hne : e' = e
      · subst hne
        simp only [write, Function.update_self] at hp
        rcases List.mem_append.mp hp with hp | hp
        · exact h₁ e' packet hp
        · rw [List.mem_singleton.mp hp]
          exact hout ht
      · simp only [write, Function.update_of_ne hne] at hp
        exact h₁ e' packet hp
    · exact h₁
  cases hs with
  | receiveEarly e n bound hconn =>
    rcases s.receiveEarly_cases e n bound with heq | ⟨msg, -, heq⟩ <;> rw [heq] <;> exact h
  | send i t out e hfound =>
    refine hsend (s.setFound i t none) e i t out rfl fun ht => hw (out, e) ?_
    rwa [writes, if_pos ht]
  | sendTask i e out tasks htasks hconn =>
    refine hsend (s.dropTask i tasks) e i _ out rfl fun _ => hw (out, e) ?_
    simp [writes, htasks, hconn]
  | call i e c calls hcalls =>
    cases c with
    | sendHandshake fd =>
      rw [perform]
      split_ifs <;> exact h
    | handleDecodedPacket packet fd | onNodeDisconnected fd | removeConnection fd => exact h
  | _ => exact h

/-- Every packet that a node is about to send, or has written, is as `P` says. -/
structure Carries (P : ι → ClusterPacket → Prop) (s : ClusterNet ι Tid) : Prop where
  onItsWay : ∀ i out, OnItsWay (s.host i) out → P i out.packet
  sent : ∀ e, ∀ packet ∈ s.sent e, P e.node packet

/-- What holds of the packets that are looked up for, and of the handshakes, holds of all. -/
lemma Carries.next {P : ι → ClusterPacket → Prop} (h : Carries P s)
    (hm : ∀ i, Marked i (s.host i)) (hs : ∀ i, P i (handshake (T.localNodeId i)))
    (ha : ∀ i t packet, a = .lookup i t packet → P i packet) (hstep : Step T s a s') :
    Carries P s' where
  onItsWay i out hout := by
    rcases onItsWay_next hm hstep hout with hout | ⟨t, packet, rfl, hlook⟩ | ⟨e, fd, -, -, rfl⟩
    · exact h.onItsWay i out hout
    · simp only [lookup] at hlook
      split_ifs at hlook
      obtain rfl := Option.some.inj hlook
      exact ha i t packet rfl
    · exact hs i
  sent := sent_next h.sent (fun x hx => h.onItsWay _ x.1 (onItsWay_of_writes hm hx)) hstep

end OnItsWay

end ClusterNet

end Balabala
