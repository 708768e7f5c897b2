import Balabala.Server.Letters

/-!
# What the actor is told

The actor knows a connection by its number only. For every connection it is told that it is there,
then what was received on it, in order and without a gap, then that it has ended; and under one
number the connections come one after another.
-/

namespace Balabala.TcpServer

open Foundation

variable {s s' : TcpServer} {a : Action} {l : LoopId} {c d : ConnId} {pc : LoopPc}

/-- The messages about `c` that were sent to the actor. -/
def letters (s : TcpServer) (c : ConnId) : List ActorMessage :=
  (s.sent.filter fun m => m.origin = c).map Letter.msg

/-- What has happened on `c`, as messages. -/
def story (s : TcpServer) (c : ConnId) : List ActorMessage :=
  (if (s.life c).isAnnounced then [AcceptedConnection.notice .connected (s.socket c)] else []) ++
    (s.received c).map (ActorMessage.make .networkRecv 0 (s.socket c)) ++
    if (s.life c).isOver then [AcceptedConnection.notice .disconnected (s.socket c)] else []

/-- The connections that were accepted under a number. -/
def holders (s : TcpServer) (fd : Fd) : List ConnId :=
  (List.range s.accepted).filter fun c => s.socket c = fd

/-- What the actor was told about the connections accepted so far. -/
structure Told (s : TcpServer) : Prop where
  origin : ∀ m ∈ s.sent, m.origin < s.accepted
  unread : ∀ c, s.accepted ≤ c ∨ (s.life c).isAnnounced = false → s.received c = []
  letters : ∀ c < s.accepted, s.letters c ++ s.hand c = s.story c
  latest : ∀ f c, s.fds f = some c → ∀ d < s.accepted, s.socket d = f → d ≤ c
  order : s.sent.Pairwise fun m m' =>
    s.socket m.origin = s.socket m'.origin → m.origin ≤ m'.origin

/-! ### Messages at the threads -/

lemma LoopPc.hand_of_conn_ne (h : pc.conn ≠ some c) : pc.hand c = [] := by
  cases pc with
  | sendByFd d | send d => exact if_neg fun he => h (congrArg some he)
  | _ => rfl

/-- Only the thread at `c` sends messages about `c`. -/
lemma Coherent.hand_eq_nil (h : Coherent s) (hl : (s.loop l).conn = some c)
    (hempty : (s.loop l).emptyHanded = true) : s.hand c = [] := by
  by_cases hhome : s.home c = l
  · rw [hand, hhome]
    exact LoopPc.hand_eq_nil hempty c
  · exact LoopPc.hand_of_conn_ne fun hc => hhome (h.staged.unique hc hl)

/-- The thread at `c` goes on with it. -/
lemma hand_update_of_ne (hloop : s'.loop = Function.update s.loop l pc) (hhome : s'.home = s.home)
    (hold : (s.loop l).conn = some c) (hnew : pc.conn = some c) (hd : d ≠ c) :
    s'.hand d = s.hand d := by
  have hne : some c ≠ some d := fun he => hd (Option.some.inj he).symm
  rw [hand, hand, hhome, hloop]
  by_cases hl : s.home d = l
  · rw [hl, Function.update_self, LoopPc.hand_of_conn_ne (by rwa [hnew]),
      LoopPc.hand_of_conn_ne (by rwa [hold])]
  · rw [Function.update_of_ne hl]

lemma hand_update_self (hloop : s'.loop = Function.update s.loop l pc) (hhome : s'.home = s.home)
    (hc : s.home c = l) : s'.hand c = pc.hand c := by
  rw [hand, hhome, hloop, hc, Function.update_self]

lemma Coherent.below (h : Coherent s) (hl : (s.loop l).conn = some c) : c < s.accepted :=
  (h.numbered.socket _ _ (h.isOpen hl)).1

/-! ### Steps -/

lemma letters_congr (hsent : s'.sent = s.sent) (c : ConnId) : s'.letters c = s.letters c := by
  rw [letters, letters, hsent]

lemma letters_append {m : Letter} (hsent : s'.sent = s.sent ++ [m]) (c : ConnId) :
    s'.letters c = s.letters c ++ if m.origin = c then [m.msg] else [] := by
  rw [letters, letters, hsent, List.filter_append, List.map_append]
  by_cases hc : m.origin = c
  · rw [if_pos hc, List.filter_cons_of_pos (by simpa using hc)]
    rfl
  · rw [if_neg hc, List.filter_cons_of_neg (by simpa using hc)]
    rfl

lemma story_congr (hsocket : s'.socket c = s.socket c) (hreceived : s'.received c = s.received c)
    (hannounced : (s'.life c).isAnnounced = (s.life c).isAnnounced)
    (hover : (s'.life c).isOver = (s.life c).isOver) : s'.story c = s.story c := by
  rw [story, story, hsocket, hreceived, hannounced, hover]

/-- Nothing is said about a connection, and none comes. -/
lemma Told.frame (h : Told s) (hconns : SameConns s s') (hsent : s'.sent = s.sent)
    (hreceived : s'.received = s.received) (hhand : ∀ c, s'.hand c = s.hand c)
    (hannounced : ∀ c, (s'.life c).isAnnounced = (s.life c).isAnnounced)
    (hover : ∀ c, (s'.life c).isOver = (s.life c).isOver)
    (hfds : ∀ f c, s'.fds f = some c → s.fds f = some c) : Told s' where
  origin := by
    rw [hsent, hconns.accepted]
    exact h.origin
  unread c hc := by
    rw [hreceived]
    exact h.unread c (by rwa [hconns.accepted, hannounced] at hc)
  letters c hc := by
    rw [letters_congr hsent, hhand, story_congr (by rw [hconns.socket]) (by rw [hreceived])
      (hannounced c) (hover c)]
    exact h.letters c (hconns.accepted ▸ hc)
  latest f c hc := by
    rw [hconns.accepted, hconns.socket]
    exact h.latest f c (hfds f c hc)
  order := by
    rw [hsent, hconns.socket]
    exact h.order

/-- A message about an open connection comes after all others under its number. -/
lemma Told.order_append (h : Told s) (hopen : s.fds (s.socket c) = some c) (msg : ActorMessage) :
    (s.sent ++ [Letter.mk msg c]).Pairwise fun m m' =>
      s.socket m.origin = s.socket m'.origin → m.origin ≤ m'.origin := by
  refine List.pairwise_append.mpr ⟨h.order, List.pairwise_singleton .., fun m hm m' hm' he => ?_⟩
  obtain rfl := List.mem_singleton.mp hm'
  exact h.latest _ c hopen _ (h.origin m hm) he

/-- The thread at `c` goes on with it, and at most the message it was at is sent. -/
lemma Told.advance (h : Told s) (hc : Coherent s) (hl : (s.loop l).conn = some c)
    (pc : LoopPc) (hconns : SameConns s s') (hfds : s'.fds = s.fds)
    (hloop : s'.loop = Function.update s.loop l pc) (hpc : pc.conn = some c)
    (hsent : s'.sent = s.sent ∨ ∃ msg, s'.sent = s.sent ++ [⟨msg, c⟩])
    (hreceived : ∀ d, d ≠ c → s'.received d = s.received d)
    (hlife : ∀ d, d ≠ c → s'.life d = s.life d)
    (hunread : (s'.life c).isAnnounced = true ∨ s'.received c = [])
    (hstory : s'.letters c ++ s'.hand c = s'.story c) : Told s' where
  origin m hm := by
    rw [hconns.accepted]
    rcases hsent with he | ⟨msg, he⟩
    · exact h.origin m (he ▸ hm)
    · rw [he, List.mem_append, List.mem_singleton] at hm
      rcases hm with hm | rfl
      · exact h.origin m hm
      · exact hc.below hl
  unread d hd := by
    rw [hconns.accepted] at hd
    by_cases hdc : d = c
    · subst hdc
      refine hunread.resolve_left fun hannounced => ?_
      rcases hd with hd | hd
      · exact Nat.not_lt_of_le hd (hc.below hl)
      · rw [hannounced] at hd
        cases hd
    · rw [hlife d hdc] at hd
      rw [hreceived d hdc]
      exact h.unread d hd
  letters d hd := by
    by_cases hdc : d = c
    · subst hdc
      exact hstory
    · have hletters : s'.letters d = s.letters d := by
        rcases hsent with he | ⟨msg, he⟩
        · exact letters_congr he d
        · rw [letters_append he, if_neg (Ne.symm hdc), List.append_nil]
      rw [hletters, hand_update_of_ne hloop hconns.home hl hpc hdc,
        story_congr (by rw [hconns.socket]) (hreceived d hdc) (by rw [hlife d hdc])
          (by rw [hlife d hdc])]
      exact h.letters d (hconns.accepted ▸ hd)
  latest := by
    rw [hfds, hconns.accepted, hconns.socket]
    exact h.latest
  order := by
    rw [hconns.socket]
    rcases hsent with he | ⟨msg, he⟩
    · rw [he]
      exact h.order
    · rw [he]
      exact h.order_append (hc.isOpen hl) msg

lemma Told.accept (h : Told s) (hc : Coherent s) (hl : s.loop .main = .accepting) {fd : Fd}
    (hfree : s.fds fd = none) : Told (s.handleAccept .main fd) := by
  have hold : ∀ {d}, d < s.accepted →
      (s.handleAccept .main fd).life d = s.life d ∧ (s.handleAccept .main fd).home d = s.home d ∧
        (s.handleAccept .main fd).socket d = s.socket d := by
    intro d hd
    simp [handleAccept, Nat.ne_of_lt hd]
  have hpc : (s.handleAccept .main fd).loop =
      Function.update s.loop .main (.addConnection s.accepted) := rfl
  have hloop : ∀ d, d < s.accepted → (s.handleAccept .main fd).hand d = s.hand d := by
    intro d hd
    rw [hand, hand, (hold hd).2.1, hpc]
    by_cases hhome : s.home d = .main
    · rw [hhome, Function.update_self, hl]
      rfl
    · rw [Function.update_of_ne hhome]
  exact {
    origin := fun m hm => Nat.lt_succ_of_lt (h.origin m hm)
    unread := by
      rintro d (hd | hd)
      · exact h.unread d (.inl (Nat.le_of_succ_le hd))
      · by_cases hdn : d = s.accepted
        · exact h.unread d (.inl hdn.ge)
        · refine h.unread d (.inr ?_)
          have hlife : (s.handleAccept .main fd).life d = s.life d := Function.update_of_ne hdn ..
          rwa [hlife] at hd
    letters := by
      intro d hd
      by_cases hdn : d = s.accepted
      · subst hdn
        have hnone : (s.handleAccept .main fd).letters s.accepted = [] := by
          rw [TcpServer.letters, List.map_eq_nil_iff, List.filter_eq_nil_iff]
          intro m hm
          simpa using Nat.ne_of_lt (h.origin m hm)
        have hhand : (s.handleAccept .main fd).hand s.accepted = [] := by
          rw [hand, hpc]
          by_cases hhome : (s.handleAccept .main fd).home s.accepted = .main
          · rw [hhome, Function.update_self]
            rfl
          · rw [Function.update_of_ne hhome]
            exact LoopPc.hand_of_conn_ne fun hconn => Nat.lt_irrefl _ (hc.below hconn)
        have hreceived : s.received s.accepted = [] := h.unread _ (.inl (Nat.le_refl _))
        rw [hnone, hhand, story]
        simp [handleAccept, hreceived, Life.isAnnounced, Life.isOver]
      · have hd : d < s.accepted := Nat.lt_of_le_of_ne (Nat.le_of_lt_succ hd) hdn
        rw [letters_congr (by rfl) d, hloop d hd,
          story_congr (hold hd).2.2 (by rfl) (by rw [(hold hd).1]) (by rw [(hold hd).1])]
        exact h.letters d hd
    latest := by
      intro f d hd e he hsocket
      by_cases hf : f = fd
      · subst hf
        have hnew : (s.handleAccept .main f).fds f = some s.accepted := Function.update_self ..
        obtain rfl := Option.some.inj (hnew.symm.trans hd)
        exact Nat.le_of_lt_succ he
      · have hd : s.fds f = some d := (Function.update_of_ne hf _ _).symm.trans hd
        by_cases hen : e = s.accepted
        · subst hen
          exact absurd ((Function.update_self ..).symm.trans hsocket).symm hf
        · refine h.latest f d hd e (Nat.lt_of_le_of_ne (Nat.le_of_lt_succ he) hen) ?_
          exact (Function.update_of_ne hen _ _).symm.trans hsocket
    order := by
      refine h.order.imp_of_mem fun {m m'} hm hm' hle => ?_
      rw [(hold (h.origin m hm)).2.2, (hold (h.origin m' hm')).2.2]
      exact hle }

lemma Told.connected (h : Told s) (hc : Coherent s) (hl : s.loop l = .sendConnected c) :
    Told (s.sendConnected l c) := by
  have hconn : (s.loop l).conn = some c := by rw [hl]; rfl
  have hlife : s.life c = .bound := (hc.staged.fits hl).2
  have hreceived : s.received c = [] := h.unread c (.inr (by rw [hlife]; rfl))
  have hhand : s.hand c = [] := hc.hand_eq_nil hconn (by rw [hl]; rfl)
  -- nothing was said about `c` before
  have hletters : s.letters c = [] := by
    have hstory := h.letters c (hc.below hconn)
    rw [story, hhand, hreceived, hlife] at hstory
    simpa [Life.isAnnounced, Life.isOver] using hstory
  rw [TcpServer.sendConnected, send_eq]
  refine h.advance hc hconn (.addEvent c) ⟨rfl, rfl, rfl, rfl, rfl, rfl⟩ rfl rfl rfl
    (.inr ⟨_, rfl⟩) (fun _ _ => rfl) (fun d hd => Function.update_of_ne hd ..) (.inr hreceived) ?_
  rw [letters_append (by rfl), if_pos rfl, hletters,
    (hand_update (by rfl) (by rfl) (by rw [hl]; rfl) rfl c).trans hhand, story]
  simp [setLoop, setLife, hreceived, Life.isAnnounced, Life.isOver]

/-- The thread of a loop reads a connection. -/
lemma Coherent.reading (h : Coherent s) {out : Bool} (hl : s.loop l = .reading c out) :
    (s.loop l).conn = some c ∧ s.home c = l ∧ s.life c = .serving ∧ s.hand c = [] := by
  have hconn : (s.loop l).conn = some c := by rw [hl]; rfl
  have hfits := h.staged.fits hl
  exact ⟨hconn, hfits.1, hfits.2, h.hand_eq_nil hconn (by rw [hl]; rfl)⟩

lemma Told.recv (h : Told s) (hc : Coherent s) {out : Bool} (bytes : Bytes)
    (hl : s.loop l = .reading c out) : Told (s.handleRead l c out (.data bytes)) := by
  obtain ⟨hconn, hhome, hlife, hhand⟩ := hc.reading hl
  have hstory := h.letters c (hc.below hconn)
  rw [hhand, List.append_nil] at hstory
  refine h.advance hc hconn (.sendByFd c out (.make .networkRecv 0 (s.socket c) bytes))
    ⟨rfl, rfl, rfl, rfl, rfl, rfl⟩ rfl rfl rfl (.inl rfl)
    (fun d hd => Function.update_of_ne hd ..) (fun _ _ => rfl) (.inl ?_) ?_
  · show (s.life c).isAnnounced = true
    rw [hlife]
    rfl
  · have hletters : (s.handleRead l c out (.data bytes)).letters c = s.letters c := rfl
    rw [hletters, hand_update_self (by rfl) (by rfl) hhome, hstory, story, story]
    simp [handleRead, setLoop, LoopPc.hand, hlife, Life.isOver]

lemma Told.eof (h : Told s) (hc : Coherent s) {out : Bool} (hl : s.loop l = .reading c out) :
    Told (s.handleRead l c out .eof) := by
  obtain ⟨hconn, hhome, hlife, hhand⟩ := hc.reading hl
  have hstory := h.letters c (hc.below hconn)
  rw [hhand, List.append_nil] at hstory
  refine h.advance hc hconn
    (.sendByFd c out (AcceptedConnection.notice .disconnected (s.socket c)))
    ⟨rfl, rfl, rfl, rfl, rfl, rfl⟩ rfl rfl rfl (.inl rfl) (fun _ _ => rfl)
    (fun d hd => Function.update_of_ne hd ..) (.inl ?_) ?_
  · simp [handleRead, setLoop, setLife, Life.isAnnounced]
  · have hletters : (s.handleRead l c out .eof).letters c = s.letters c := rfl
    rw [hletters, hand_update_self (by rfl) (by rfl) hhome, hstory, story, story]
    simp [handleRead, setLoop, setLife, LoopPc.hand, hlife, Life.isAnnounced, Life.isOver]

lemma Told.post (h : Told s) (hc : Coherent s) {out : Bool} {msg : ActorMessage} {id : ActorId}
    (hl : s.loop l = .send c out msg id) :
    Told ((s.send s.serverActorId ⟨msg, c⟩).setLoop l (afterSend c out msg)) := by
  have hconn : (s.loop l).conn = some c := by rw [hl]; rfl
  have hfits := hc.staged.fits hl
  have hstory := h.letters c (hc.below hconn)
  rw [hand, hfits.1, hl, LoopPc.hand, if_pos rfl] at hstory
  rw [send_eq]
  refine h.advance hc hconn (afterSend c out msg) ⟨rfl, rfl, rfl, rfl, rfl, rfl⟩ rfl rfl
    (conn_afterSend c out msg) (.inr ⟨msg, rfl⟩) (fun _ _ => rfl) (fun _ _ => rfl) (.inl ?_) ?_
  · show (s.life c).isAnnounced = true
    rcases hfits.2 with ⟨hlife, -⟩ | ⟨hlife, -⟩ <;> rw [hlife] <;> rfl
  · rw [letters_append (by rfl), if_pos rfl, hand_update_self (by rfl) (by rfl) hfits.1,
      LoopPc.hand_eq_nil (emptyHanded_afterSend c out msg), List.append_nil]
    exact hstory

/-- The worker tells the actor nothing new. -/
lemma Told.worker (h : Told s) (mailbox : List Letter) (worker : WorkerPc)
    (pendingTasks : LoopId → List Task) : Told { s with mailbox, worker, pendingTasks } :=
  h.frame ⟨rfl, rfl, rfl, rfl, rfl, rfl⟩ rfl rfl (fun _ => rfl) (fun _ => rfl) (fun _ => rfl)
    fun _ _ hc => hc

theorem Told.next (h : Told s) (hc : Coherent s) (ha : Addressed s)
    (hs : machine.next s a = some s') : Told s' := by
  cases Effect.of_next hc ha hs with
  | quiet a s' hq =>
    exact h.frame hq.conns hq.sent hq.received hq.hand hq.announced hq.overs hq.fds
  | accept fd hl hfd hfree => exact h.accept hc hl hfree
  | connected l c hl => exact h.connected hc hl
  | recv l c out bytes hl hbytes => exact h.recv hc bytes hl
  | eof l c out hl => exact h.eof hc hl
  | post l c out msg hl => exact h.post hc hl
  | pop | getEventLoopByFd | notFound | getConnection | queueSend | skipSend =>
    exact h.worker _ _ _
  | runSend l origin fd data rest rs s₁ hl hp hw =>
    obtain ⟨ran, ho⟩ := outputOnly_runSend hw
    have hran : Told { s.setPhase l (.tasks rest) with ran } :=
      h.frame ⟨rfl, rfl, rfl, rfl, rfl, rfl⟩ rfl rfl (fun _ => rfl) (fun _ => rfl) (fun _ => rfl)
        fun _ _ hd => hd
    have hq := ho.quiet
    exact hran.frame hq.conns hq.sent hq.received hq.hand hq.announced hq.overs hq.fds

theorem told_of_reach {ok : TcpServer → Action → Prop} (h : machine.Reach ok s) : Told s := by
  induction h with
  | start hi =>
    obtain ⟨id, n, -, rfl⟩ := hi
    exact {
      origin := by
        rintro m ⟨⟩
      unread := fun _ _ => rfl
      letters := fun c hc => absurd hc (Nat.not_lt_zero c)
      latest := by
        rintro f c ⟨⟩
      order := .nil }
  | step hr _ hs ih => exact ih.next (coherent_of_reach hr) (addressed_of_reach hr) hs

/-! ### The messages under a number -/

/-- The elements with the smallest key come first. -/
lemma filter_append_filter_ne {α : Type*} (key : α → Nat) {k : Nat} {xs : List α}
    (hsorted : xs.Pairwise fun x y => key x ≤ key y) (hk : ∀ x ∈ xs, k ≤ key x) :
    xs.filter (fun x => key x = k) ++ xs.filter (fun x => key x ≠ k) = xs := by
  induction xs with
  | nil => rfl
  | cons x xs ih =>
    obtain ⟨hx, hxs⟩ := List.pairwise_cons.mp hsorted
    by_cases hxk : key x = k
    · rw [List.filter_cons_of_pos (by simpa using hxk),
        List.filter_cons_of_neg (by simpa using hxk), List.cons_append,
        ih hxs fun y hy => hk y (List.mem_cons_of_mem x hy)]
    · have hlt : ∀ y ∈ x :: xs, key y ≠ k := by
        intro y hy
        have hle : key x ≤ key y := by
          rcases List.mem_cons.mp hy with rfl | hy
          · exact Nat.le_refl _
          · exact hx y hy
        have hkx := hk x List.mem_cons_self
        omega
      rw [List.filter_eq_nil_iff.mpr (by simpa using hlt), List.nil_append,
        List.filter_eq_self.mpr (by simpa using hlt)]

/-- A list in the order of its keys is put together from what there is of each key. -/
lemma eq_flatMap_filter {α : Type*} (key : α → Nat) {ks : List Nat} (hks : ks.Pairwise (· < ·))
    {xs : List α} (hsorted : xs.Pairwise fun x y => key x ≤ key y) (hk : ∀ x ∈ xs, key x ∈ ks) :
    xs = ks.flatMap fun k => xs.filter fun x => key x = k := by
  induction ks generalizing xs with
  | nil =>
    cases xs with
    | nil => rfl
    | cons x xs => exact absurd (hk x List.mem_cons_self) List.not_mem_nil
  | cons k ks ih =>
    obtain ⟨hlt, hks⟩ := List.pairwise_cons.mp hks
    have hrest : (xs.filter fun x => key x ≠ k) =
        ks.flatMap fun j => (xs.filter fun x => key x ≠ k).filter fun x => key x = j := by
      apply ih hks (hsorted.sublist List.filter_sublist)
      intro x hx
      obtain ⟨hx, hne⟩ := List.mem_filter.mp hx
      exact (List.mem_cons.mp (hk x hx)).resolve_left (by simpa using hne)
    have hfilter : ∀ j ∈ ks, ((xs.filter fun x => key x ≠ k).filter fun x => key x = j) =
        xs.filter fun x => key x = j := by
      intro j hj
      rw [List.filter_filter]
      refine List.filter_congr fun x _ => ?_
      by_cases hxj : key x = j
      · simp [hxj, (hlt j hj).ne']
      · simp [hxj]
    rw [List.flatMap_cons, ← List.flatMap_congr hfilter, ← hrest]
    refine (filter_append_filter_ne key hsorted fun x hx => ?_).symm
    rcases List.mem_cons.mp (hk x hx) with he | hmem
    · exact he.ge
    · exact (hlt _ hmem).le

/-- The messages under a number. -/
def under (s : TcpServer) (fd : Fd) : List ActorMessage :=
  (s.sent.filter fun m => m.msg.fd = fd).map Letter.msg

lemma Told.mem_story (h : Told s) {m : Letter} (hm : m ∈ s.sent) : m.msg ∈ s.story m.origin := by
  rw [← h.letters _ (h.origin m hm)]
  exact List.mem_append_left _ (List.mem_map_of_mem (List.mem_filter.mpr ⟨hm, by simp⟩))

/-- A message has the number of its connection. -/
lemma Told.fd (h : Told s) {m : Letter} (hm : m ∈ s.sent) : m.msg.fd = s.socket m.origin := by
  have hstory := h.mem_story hm
  rw [story, List.mem_append, List.mem_append, List.mem_map] at hstory
  rcases hstory with (hconnected | ⟨bytes, -, he⟩) | hdisconnected
  · split_ifs at hconnected
    · rw [List.mem_singleton.mp hconnected]
      rfl
    · cases hconnected
  · rw [← he, ActorMessage.make]
    split_ifs <;> rfl
  · split_ifs at hdisconnected
    · rw [List.mem_singleton.mp hdisconnected]
      rfl
    · cases hdisconnected

lemma Told.under_eq_flatMap (h : Told s) (fd : Fd) :
    s.under fd = (s.holders fd).flatMap s.letters := by
  have hholders : (s.holders fd).Pairwise (· < ·) := List.pairwise_lt_range.filter _
  have hsorted : (s.sent.filter fun m => m.msg.fd = fd).Pairwise
      fun m m' => m.origin ≤ m'.origin := by
    refine (h.order.filter _).imp_of_mem fun {m m'} hm hm' hle => hle ?_
    obtain ⟨hm, hfd⟩ := List.mem_filter.mp hm
    obtain ⟨hm', hfd'⟩ := List.mem_filter.mp hm'
    rw [← h.fd hm, ← h.fd hm', of_decide_eq_true hfd, of_decide_eq_true hfd']
  have hkeys : ∀ m ∈ s.sent.filter fun m => m.msg.fd = fd, m.origin ∈ s.holders fd := by
    intro m hm
    obtain ⟨hm, hfd⟩ := List.mem_filter.mp hm
    refine List.mem_filter.mpr ⟨List.mem_range.mpr (h.origin m hm), ?_⟩
    rwa [← h.fd hm]
  rw [under, eq_flatMap_filter Letter.origin hholders hsorted hkeys, List.map_flatMap]
  refine List.flatMap_congr fun c hc => ?_
  have hsocket : s.socket c = fd := of_decide_eq_true (List.mem_filter.mp hc).2
  rw [TcpServer.letters, List.filter_filter]
  congr 1
  refine List.filter_congr fun m hm => ?_
  by_cases hmc : m.origin = c
  · simp [hmc, h.fd hm, hsocket]
  · simp [hmc]

/-- Under every number the actor is told about one connection after another: that it is there, then
all that was received on it, recv by recv, and at its end that it has ended. Only about the
connection that is open under the number it may not have been told everything; what is missing is
at the thread that reads it. -/
theorem under_eq (h : machine.Reachable s) (fd : Fd) :
    s.under fd = (s.holders fd).flatMap s.letters ∧
    ∀ c ∈ s.holders fd, s.letters c ++ s.hand c = s.story c ∧
      (s.fds fd ≠ some c → s.letters c =
        AcceptedConnection.notice .connected fd ::
          (s.received c).map (ActorMessage.make .networkRecv 0 fd) ++
          [AcceptedConnection.notice .disconnected fd]) := by
  have ht := told_of_reach h
  have hc := coherent_of_reach h
  refine ⟨ht.under_eq_flatMap fd, fun c hmem => ?_⟩
  obtain ⟨hlt, hsocket⟩ := List.mem_filter.mp hmem
  have hstory := ht.letters c (List.mem_range.mp hlt)
  have hsocket : s.socket c = fd := of_decide_eq_true hsocket
  refine ⟨hstory, fun hclosed => ?_⟩
  have hlife : s.life c = .removed := by
    by_contra hne
    have hopen := hc.numbered.isOpen c (.inl hne)
    rw [hsocket] at hopen
    exact hclosed hopen
  have hhand : s.hand c = [] :=
    LoopPc.hand_of_conn_ne (hc.staged.conn_ne (.inr hlife))
  rw [hhand, List.append_nil, story, hlife, hsocket] at hstory
  exact hstory

/-- A client sends a byte and closes; its number is given out again. -/
def reusedNumber : List Action :=
  [.wait .main [], .listen, .accept (some 5), .loop .main, .loop .main, .loop .main, .loop .main,
    .accept none, .wait (.sub 0) [], .loop (.sub 0), .loop (.sub 0),
    .wait (.sub 0) [⟨5, true, false⟩], .loop (.sub 0), .recv (.sub 0) (.data [7]), .loop (.sub 0),
    .loop (.sub 0), .recv (.sub 0) .eof, .loop (.sub 0), .loop (.sub 0), .loop (.sub 0),
    .loop (.sub 0), .loop (.sub 0), .loop (.sub 0), .listen, .accept (some 5), .loop .main,
    .loop .main, .loop .main]

theorem under_eq_reusedNumber :
    let s := machine.replay (start 1 1) reusedNumber
    s.holders 5 = [0, 1] ∧ s.under 5 = s.letters 0 ++ s.letters 1 ∧
      s.letters 0 = [AcceptedConnection.notice .connected 5, .make .networkRecv 0 5 [7],
        AcceptedConnection.notice .disconnected 5] := by
  intro s
  have hs : machine.Reachable s := reachable_replay_start (by decide) 1 reusedNumber
  have hholders : s.holders 5 = [0, 1] := by decide +kernel
  have hreceived : s.received 0 = [[7]] := by decide +kernel
  have hclosed : s.fds 5 ≠ some 0 := by decide +kernel
  refine ⟨hholders, ?_, ?_⟩
  · rw [(under_eq hs 5).1, hholders]
    simp
  · rw [((under_eq hs 5).2 0 (by simp [hholders])).2 hclosed, hreceived]
    rfl

end Balabala.TcpServer
