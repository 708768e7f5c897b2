import Balabala.Callback.EchoServer

/-!
# Who gets what the echo server sends

A message waits in `msgQueue_` under a number, and the connection may be gone when the main thread
looks the number up, or a new one may have got it. And the loop thread deletes a connection whatever
the main thread is doing with it.
-/

namespace Balabala.EchoServer

open Foundation

variable {s s' : EchoServer} {a : Action}

/-! ### What the two threads know of the connections -/

/-- `mapConn_` has the connections that are not deleted, under their numbers. -/
structure Known (s : EchoServer) : Prop where
  mapped : ∀ fd c, s.mapConn fd = some c → s.alive c = true ∧ (s.base c).socket = fd
  registered : ∀ c, s.alive c = true → s.loop ≠ .addConnection c →
    s.mapConn (s.base c).socket = some c
  adding : ∀ c, s.loop = .addConnection c →
    s.alive c = true ∧ s.mapConn (s.base c).socket = none
  below : ∀ c, s.alive c = true → c < s.accepted ∧ 0 ≤ (s.base c).socket
  reading : ∀ c out, s.loop = .reading c out ∨ s.loop = .removeConnection c out →
    s.alive c = true
  writing : ∀ c, s.loop ≠ .writing c → (s.base c).loop = .idle

lemma socket_next {b b' : ConnectionBase Unit} {a : ConnectionBase.Action Unit}
    (h : b.next a = some b') : b'.socket = b.socket := by
  cases ConnectionBase.Step.of_next h with
  | _ => rfl

lemma known_start : Known start where
  mapped fd c h := by cases h
  registered c h := by cases h
  adding c h := by cases h
  below c h := by cases h
  reading c out h := by rcases h with h | h <;> cases h
  writing c _ := rfl

/-- No connection comes or goes. -/
lemma Known.frame (h : Known s) (hmap : s'.mapConn = s.mapConn) (halive : s'.alive = s.alive)
    (haccepted : s'.accepted = s.accepted)
    (hsocket : ∀ c, (s'.base c).socket = (s.base c).socket)
    (hadd : ∀ c, s'.loop = .addConnection c ↔ s.loop = .addConnection c)
    (hread : ∀ c out, s'.loop = .reading c out ∨ s'.loop = .removeConnection c out →
      s.alive c = true)
    (hwrite : ∀ c, s'.loop ≠ .writing c → (s'.base c).loop = .idle) : Known s' where
  mapped fd c hc := by
    rw [halive, hsocket]
    exact h.mapped fd c (hmap ▸ hc)
  registered c hc hne := by
    rw [hmap, hsocket]
    exact h.registered c (halive ▸ hc) fun hl => hne ((hadd c).mpr hl)
  adding c hl := by
    rw [halive, hmap, hsocket]
    exact h.adding c ((hadd c).mp hl)
  below c hc := by
    rw [haccepted, hsocket]
    exact h.below c (halive ▸ hc)
  reading c out hl := halive ▸ hread c out hl
  writing := hwrite

lemma socket_update (base : ConnId → ConnectionBase Unit) {c : ConnId} {b : ConnectionBase Unit}
    (hb : b.socket = (base c).socket) (g : ConnId) :
    (Function.update base c b g).socket = (base g).socket := by
  by_cases hg : g = c
  · subst hg
    rw [Function.update_self, hb]
  · rw [Function.update_of_ne hg]

lemma loop_update {base : ConnId → ConnectionBase Unit} {c : ConnId} {b : ConnectionBase Unit}
    (hb : b.loop = (base c).loop) (g : ConnId) :
    (Function.update base c b g).loop = (base g).loop := by
  by_cases hg : g = c
  · subst hg
    rw [Function.update_self, hb]
  · rw [Function.update_of_ne hg]

/-- A call of `Send` leaves `HandleWrite` where it is. -/
lemma loop_next {b b' : ConnectionBase Unit} {a : ConnectionBase.Action Unit}
    (h : b.next a = some b') (ha : a ≠ .handleWrite ∧ a ≠ .loop ∧ ∀ r, a ≠ .write r) :
    b'.loop = b.loop := by
  cases ConnectionBase.Step.of_next h with
  | refuse | push | finishSend => rfl
  | handleWrite => exact absurd rfl ha.1
  | again | drained | takeCache | popNone | pop | modifyRW | modifyR => exact absurd rfl ha.2.1
  | wrote | eintr | eagain | error | zero => exact absurd rfl (ha.2.2 _)

/-- The callback goes on with `HandleWrite`, or is done. -/
lemma Known.afterRead (h : Known s) (hl : s.loop = .idle) (c : ConnId) (out : Bool) :
    Known (s.afterRead c out) := by
  have hidle : ∀ g, (s.base g).loop = .idle := fun g => h.writing g (by simp [hl])
  cases out with
  | false =>
    exact h.frame rfl rfl rfl (fun _ => rfl) (by simp [EchoServer.afterRead, hl])
      (by simp [EchoServer.afterRead]) fun g _ => hidle g
  | true =>
    refine h.frame rfl rfl rfl (socket_update s.base rfl) (by simp [EchoServer.afterRead, hl])
      (by simp [EchoServer.afterRead]) fun g hg => ?_
    have hne : g ≠ c := by
      rintro rfl
      exact hg rfl
    show (Function.update s.base c _ g).loop = _
    rw [Function.update_of_ne hne]
    exact hidle g

lemma afterRead_setLoop (s : EchoServer) (l : LoopPc) (c : ConnId) (out : Bool) :
    ({ s with loop := l }).afterRead c out = s.afterRead c out := by cases out <;> rfl

/-- `HandleRead` is done. -/
lemma Known.endRead (h : Known s) {c : ConnId} {out : Bool} (hl : s.loop = .reading c out) :
    Known { s with loop := .idle } :=
  h.frame rfl rfl rfl (fun _ => rfl) (by simp [hl]) (by simp)
    fun g _ => h.writing g (by simp [hl])

lemma Known.handleAccept (h : Known s) (hl : s.loop = .idle) {fd : Fd} (hfd : s.Free fd) :
    Known (s.handleAccept fd) where
  mapped fd' c hc := by
    obtain ⟨ha, hs⟩ := h.mapped fd' c hc
    have hne : c ≠ s.accepted := Nat.ne_of_lt (h.below c ha).1
    simpa [EchoServer.handleAccept, hne] using ⟨ha, hs⟩
  registered c hc hadd := by
    have hne : c ≠ s.accepted := by
      rintro rfl
      exact hadd rfl
    simp only [EchoServer.handleAccept, Function.update_of_ne hne] at hc ⊢
    exact h.registered c hc (by simp [hl])
  adding c hc := by
    cases hc
    refine ⟨by simp [EchoServer.handleAccept], ?_⟩
    by_contra hsome
    obtain ⟨g, hg⟩ := Option.ne_none_iff_exists'.mp hsome
    simp only [EchoServer.handleAccept, Function.update_self, ConnectionBase.start] at hg
    obtain ⟨ha, hs⟩ := h.mapped fd g hg
    exact hfd.2 g (h.below g ha).1 ha hs
  below c hc := by
    by_cases hne : c = s.accepted
    · subst hne
      exact ⟨Nat.lt_succ_self _, by simp [EchoServer.handleAccept, ConnectionBase.start, hfd.1]⟩
    · simp only [EchoServer.handleAccept, Function.update_of_ne hne] at hc ⊢
      exact ⟨Nat.lt_succ_of_lt (h.below c hc).1, (h.below c hc).2⟩
  reading c out hc := by rcases hc with hc | hc <;> cases hc
  writing c _ := by
    by_cases hne : c = s.accepted
    · subst hne
      simp [EchoServer.handleAccept, ConnectionBase.start]
    · simp only [EchoServer.handleAccept, Function.update_of_ne hne]
      exact h.writing c (by simp [hl])

lemma Known.addConnection (h : Known s) {c : ConnId} (hl : s.loop = .addConnection c) :
    Known (s.addConnection c) := by
  obtain ⟨halive, hnone⟩ := h.adding c hl
  have hmap : (s.addConnection c).mapConn = Function.update s.mapConn (s.base c).socket (some c) :=
    if_pos hnone
  exact {
    mapped := by
      intro fd g hg
      rw [hmap] at hg
      by_cases hfd : fd = (s.base c).socket
      · subst hfd
        obtain rfl : c = g := by simpa using hg
        exact ⟨halive, rfl⟩
      · rw [Function.update_of_ne hfd] at hg
        exact h.mapped fd g hg
    registered := by
      intro g hg _
      rw [hmap]
      by_cases hgc : g = c
      · subst hgc
        exact Function.update_self ..
      · have hreg := h.registered g hg (by simpa [hl] using Ne.symm hgc)
        have hfd : (s.base g).socket ≠ (s.base c).socket := by
          intro he
          rw [he, hnone] at hreg
          cases hreg
        exact (Function.update_of_ne hfd _ _).trans hreg
    adding := by
      rintro g ⟨⟩
    below := h.below
    reading := by
      rintro g out (hg | hg) <;> cases hg
    writing := fun g _ => h.writing g (by simp [hl]) }

/-- `RemoveConnection` deletes the connection that has seen the end of its stream. -/
lemma Known.removeConnection_eq (h : Known s) {c : ConnId} {out : Bool}
    (hl : s.loop = .removeConnection c out) :
    s.removeConnection (s.base c).socket =
      { s with
        alive := Function.update s.alive c false
        mapConn := Function.update s.mapConn (s.base c).socket none } := by
  have hreg := h.registered c (h.reading c out (.inr hl)) (by simp [hl])
  simp only [EchoServer.removeConnection, hreg]

lemma Known.remove (h : Known s) {c : ConnId} {out : Bool}
    (hl : s.loop = .removeConnection c out) :
    Known { s.removeConnection (s.base c).socket with loop := .idle } := by
  have hreg := h.registered c (h.reading c out (.inr hl)) (by simp [hl])
  rw [h.removeConnection_eq hl]
  exact {
    mapped := by
      intro fd g hg
      have hfd : fd ≠ (s.base c).socket := by
        rintro rfl
        simp at hg
      simp only [Function.update_of_ne hfd] at hg
      obtain ⟨ha, hs⟩ := h.mapped fd g hg
      have hgc : g ≠ c := by
        rintro rfl
        exact hfd hs.symm
      exact ⟨by simpa [hgc] using ha, hs⟩
    registered := by
      intro g hg _
      have hgc : g ≠ c := by
        rintro rfl
        simp at hg
      simp only [Function.update_of_ne hgc] at hg
      have hg' := h.registered g hg (by simp [hl])
      have hfd : (s.base g).socket ≠ (s.base c).socket := by
        intro he
        rw [he, hreg] at hg'
        exact hgc (Option.some.inj hg').symm
      exact (Function.update_of_ne hfd _ _).trans hg'
    adding := by
      rintro g ⟨⟩
    below := by
      intro g hg
      have hgc : g ≠ c := by
        rintro rfl
        simp at hg
      simp only [Function.update_of_ne hgc] at hg
      exact h.below g hg
    reading := by
      rintro g out (hg | hg) <;> cases hg
    writing := fun g _ => h.writing g (by simp [hl]) }

lemma Known.next (h : Known s) (hs : machine.next s a = some s') : Known s' := by
  cases Step.of_next hs with
  | accept fd hl hfd => exact h.handleAccept hl hfd
  | addConnection c hl => exact h.addConnection hl
  | ignore | again => exact h
  | read fd out c hl hfd =>
    refine h.frame rfl rfl rfl (fun _ => rfl) (by simp [hl]) ?_
      fun g _ => h.writing g (by simp [hl])
    rintro g out' (hg | hg)
    · cases hg
      exact (h.mapped fd _ hfd).1
    · cases hg
  | noRead fd out c hl => exact h.afterRead hl c out
  | recv bytes c out hl =>
    exact h.frame rfl rfl rfl (fun _ => rfl) (fun _ => Iff.rfl) h.reading h.writing
  | endRead r c out hl =>
    rw [← afterRead_setLoop s .idle]
    exact (h.endRead hl).afterRead rfl c out
  | eof c out hl =>
    refine h.frame rfl rfl rfl (fun _ => rfl) (by simp [hl]) ?_
      fun g _ => h.writing g (by simp [hl])
    rintro g out' (hg | hg)
    · cases hg
    · cases hg
      exact h.reading c out (.inl hl)
  | remove c out hl =>
    rw [← afterRead_setLoop _ .idle]
    exact (h.remove hl).afterRead rfl c out
  | write r c b hl hb =>
    refine h.frame rfl rfl rfl (socket_update s.base (socket_next hb)) ?_ ?_ fun g hg => ?_
    · intro g
      simp only [withBase, hl]
      split_ifs <;> simp
    · intro g out hg
      simp only [withBase] at hg
      split_ifs at hg <;> simp at hg
    · simp only [withBase] at hg ⊢
      by_cases hgc : g = c
      · subst hgc
        rw [Function.update_self]
        split_ifs at hg with hidle
        · exact hidle
        · exact absurd rfl hg
      · rw [Function.update_of_ne hgc]
        refine h.writing g ?_
        rw [hl]
        simpa using Ne.symm hgc
  | pop | drop | getConnection =>
    exact h.frame rfl rfl rfl (fun _ => rfl) (fun _ => Iff.rfl) h.reading h.writing
  | send c msg b hm hb =>
    refine h.frame rfl rfl rfl (socket_update s.base (socket_next hb)) (fun _ => Iff.rfl) h.reading
      fun g hg => ?_
    exact (loop_update (loop_next hb (by simp)) g).trans (h.writing g hg)
  | modifyEvent c b hm hb =>
    refine h.frame rfl rfl rfl (socket_update s.base (socket_next hb)) (fun _ => Iff.rfl) h.reading
      fun g hg => ?_
    exact (loop_update (loop_next hb (by simp)) g).trans (h.writing g hg)

/-! ### Connections deleted while they are used -/

/-- Both threads go on with connections that are not deleted. -/
structure HoldsLive (s : EchoServer) : Prop where
  loop : ∀ c, s.loop.conn = some c → s.alive c = true
  main : ∀ c, s.main.conn = some c → s.alive c = true

/-- A connection is deleted when the main thread is not in its callback, and the event that its
stream has ended with is not one for writing, too. -/
def RemovesUnheld (s : EchoServer) (a : Action) : Prop :=
  a = .removeConnection → ∀ c out, s.loop = .removeConnection c out →
    out = false ∧ s.main.conn ≠ some c

lemma holdsLive_start : HoldsLive start where
  loop c h := by cases h
  main c h := by cases h

lemma HoldsLive.afterRead (h : HoldsLive s) {c : ConnId} (out : Bool) (hc : s.alive c = true) :
    HoldsLive (s.afterRead c out) := by
  cases out with
  | false =>
    refine ⟨fun g hg => ?_, h.main⟩
    cases hg
  | true =>
    refine ⟨fun g hg => ?_, h.main⟩
    cases hg
    exact hc

/-- Any other step leaves live what is used. -/
lemma HoldsLive.next (h : HoldsLive s) (hk : Known s) (hs : machine.next s a = some s')
    (ha : a ≠ .removeConnection) : HoldsLive s' := by
  cases Step.of_next hs with
  | accept fd hl hfd =>
    refine ⟨fun g hg => ?_, fun g hg => ?_⟩
    · cases hg
      exact Function.update_self ..
    · have hg := h.main g hg
      have hne : g ≠ s.accepted := Nat.ne_of_lt (hk.below g hg).1
      exact (Function.update_of_ne hne _ _).trans hg
  | addConnection c hl =>
    refine ⟨fun g hg => ?_, h.main⟩
    cases hg
  | ignore | again => exact h
  | read fd out c hl hfd =>
    refine ⟨fun g hg => ?_, h.main⟩
    cases hg
    exact (hk.mapped fd c hfd).1
  | noRead fd out c hl hfd => exact h.afterRead out (hk.mapped fd c hfd).1
  | recv bytes c out hl => exact ⟨h.loop, h.main⟩
  | endRead r c out hl => exact h.afterRead out (hk.reading c out (.inl hl))
  | eof c out hl =>
    refine ⟨fun g hg => ?_, h.main⟩
    cases hg
    exact hk.reading c out (.inl hl)
  | remove => exact absurd rfl ha
  | write r c b hl hb =>
    refine ⟨fun g hg => ?_, h.main⟩
    simp only [withBase] at hg
    split_ifs at hg
    · cases hg
    · cases hg
      exact h.loop c (by rw [hl]; rfl)
  | pop msg q hm hq | drop msg hm hfd =>
    refine ⟨h.loop, fun g hg => ?_⟩
    cases hg
  | getConnection msg c hm hfd =>
    refine ⟨h.loop, fun g hg => ?_⟩
    cases hg
    exact (hk.mapped _ c hfd).1
  | send c msg b hm hb =>
    refine ⟨h.loop, fun g hg => ?_⟩
    cases hg
    exact h.main c (by rw [hm]; rfl)
  | modifyEvent c b hm hb =>
    refine ⟨h.loop, fun g hg => ?_⟩
    cases hg

/-- What a deletion leaves the two threads with. -/
lemma holdsLive_removeConnection_iff (h : HoldsLive s) (hk : Known s) {c : ConnId} {out : Bool}
    (hl : s.loop = .removeConnection c out) :
    HoldsLive ((s.removeConnection (s.base c).socket).afterRead c out) ↔
      out = false ∧ s.main.conn ≠ some c := by
  rw [hk.removeConnection_eq hl]
  constructor
  · intro h'
    constructor
    · cases out with
      | false => rfl
      | true =>
        have hc := h'.loop c rfl
        simp [EchoServer.afterRead] at hc
    · intro hm
      cases out with
      | _ =>
        have hc := h'.main c hm
        simp [EchoServer.afterRead] at hc
  · rintro ⟨rfl, hm⟩
    refine ⟨fun g hg => ?_, fun g hg => ?_⟩
    · cases hg
    · have hg : s.main.conn = some g := hg
      have hgc : g ≠ c := by
        rintro rfl
        exact hm hg
      exact (Function.update_of_ne hgc _ _).trans (h.main g hg)

/-- In a run no thread goes on with a deleted connection exactly when each connection is deleted
while the main thread is not in its callback, and by an event that is not one for writing, too. -/
theorem holdsLive_iff (as : List Action) :
    machine.Always HoldsLive start as ↔ machine.Admits RemovesUnheld start as := by
  refine Machine.always_iff_admits (I := Known) ?_ (fun s a s' h _ hs => h.next hs) ?_ known_start
    holdsLive_start as
  · rintro s a hnone rfl c out hl
    have hnone : next s .removeConnection = none := hnone
    rw [next, hl] at hnone
    cases hnone
  · intro s a s' hk h hs
    by_cases ha : a = .removeConnection
    · subst ha
      cases Step.of_next hs with
      | remove c out hl =>
        rw [holdsLive_removeConnection_iff h hk hl]
        constructor
        · rintro hr - g out' hg
          rw [hl] at hg
          cases hg
          exact hr
        · intro hok
          exact hok rfl c out hl
    · exact ⟨fun _ he => absurd he ha, fun _ => h.next hk hs ha⟩

/-! ### Whose bytes are sent back -/

/-- What was received and is not sent back yet, the oldest first. -/
def waiting (s : EchoServer) : List RecvMsg := s.main.inHand ++ s.msgQueue.queue

/-- What of it was received on `c`. -/
def waitingOn (s : EchoServer) (c : ConnId) : List Bytes :=
  (s.waiting.filter (·.origin = c)).map RecvMsg.str

/-- Where messages wait, and under which numbers. -/
structure Posted (s : EchoServer) : Prop where
  fd : ∀ m ∈ s.waiting, m.fd = (s.base m.origin).socket
  origin : ∀ m ∈ s.waiting, m.origin < s.accepted ∧ s.loop ≠ .addConnection m.origin
  fresh : ∀ c, s.accepted ≤ c → s.received c = []

/-- The main thread sends to the connection a message came from, and what was received on a
connection is what was sent back on it and what waits for it. -/
structure Echoes (s : EchoServer) : Prop where
  own : ∀ c m, s.main = .send c m → m.origin = c
  stream : ∀ c, s.alive c = true → s.received c = (s.base c).sendMQ.pushed ++ s.waitingOn c

/-- The number of a message is that of the connection it came from, or of none. -/
def FindsOwn (s : EchoServer) (a : Action) : Prop :=
  a = .getConnection → ∀ m c, s.main = .getConnection m → s.mapConn m.fd = some c → m.origin = c

lemma posted_start : Posted start where
  fd m hm := by cases hm
  origin m hm := by cases hm
  fresh c _ := rfl

lemma echoes_start : Echoes start where
  own c m h := by cases h
  stream c h := by cases h

lemma Posted.frame (h : Posted s) (hwaiting : ∀ m ∈ s'.waiting, m ∈ s.waiting)
    (hsocket : ∀ c, (s'.base c).socket = (s.base c).socket) (haccepted : s'.accepted = s.accepted)
    (hadd : ∀ c, s'.loop = .addConnection c → s.loop = .addConnection c)
    (hreceived : s'.received = s.received) : Posted s' where
  fd m hm := by
    rw [hsocket]
    exact h.fd m (hwaiting m hm)
  origin m hm := by
    rw [haccepted]
    exact ⟨(h.origin m (hwaiting m hm)).1,
      fun hl => (h.origin m (hwaiting m hm)).2 (hadd _ hl)⟩
  fresh c hc := by
    rw [hreceived]
    exact h.fresh c (haccepted ▸ hc)

lemma Posted.afterRead (h : Posted s) (c : ConnId) (out : Bool) : Posted (s.afterRead c out) := by
  cases out with
  | false =>
    refine h.frame (fun m hm => hm) (fun _ => rfl) rfl (fun g hg => ?_) rfl
    cases hg
  | true =>
    refine h.frame (fun m hm => hm) (socket_update s.base rfl) rfl (fun g hg => ?_) rfl
    cases hg

lemma Posted.next (h : Posted s) (hk : Known s) (hs : machine.next s a = some s') : Posted s' := by
  cases Step.of_next hs with
  | accept fd hl hfd =>
    refine ⟨fun m hm => ?_, fun m hm => ?_, fun c hc => h.fresh c (Nat.le_of_succ_le hc)⟩
    · have hne : m.origin ≠ s.accepted := Nat.ne_of_lt (h.origin m hm).1
      rw [EchoServer.handleAccept]
      simp only [Function.update_of_ne hne]
      exact h.fd m hm
    · refine ⟨Nat.lt_succ_of_lt (h.origin m hm).1, fun he => ?_⟩
      have hne : m.origin ≠ s.accepted := Nat.ne_of_lt (h.origin m hm).1
      simp only [EchoServer.handleAccept, LoopPc.addConnection.injEq] at he
      exact hne he.symm
  | addConnection c hl =>
    refine h.frame (fun m hm => hm) (fun _ => rfl) rfl (fun g hg => ?_) rfl
    cases hg
  | ignore | again => exact h
  | read fd out c hl hfd =>
    refine h.frame (fun m hm => hm) (fun _ => rfl) rfl (fun g hg => ?_) rfl
    cases hg
  | noRead fd out c => exact h.afterRead c out
  | recv bytes c out hl =>
    have hlt := (hk.below c (hk.reading c out (.inl hl))).1
    have hcases : ∀ m, m ∈ s.main.inHand ++ (s.msgQueue.queue ++ [⟨(s.base c).socket, bytes, c⟩]) →
        m ∈ s.waiting ∨ m = ⟨(s.base c).socket, bytes, c⟩ := by
      intro m hm
      rw [← List.append_assoc, List.mem_append, List.mem_singleton] at hm
      exact hm
    refine ⟨fun m hm => ?_, fun m hm => ?_, fun g hg => ?_⟩
    · rcases hcases m hm with hm | rfl
      · exact h.fd m hm
      · rfl
    · rcases hcases m hm with hm | rfl
      · exact h.origin m hm
      · exact ⟨hlt, by simp [hl]⟩
    · have hne : g ≠ c := by
        rintro rfl
        exact Nat.not_lt.mpr hg hlt
      exact (Function.update_of_ne hne _ _).trans (h.fresh g hg)
  | endRead r c out => exact h.afterRead c out
  | eof c out =>
    refine h.frame (fun m hm => hm) (fun _ => rfl) rfl (fun g hg => ?_) rfl
    cases hg
  | remove c out hl =>
    rw [hk.removeConnection_eq hl]
    refine Posted.afterRead ?_ c out
    exact h.frame (fun m hm => hm) (fun _ => rfl) rfl (fun g hg => hg) rfl
  | write r c b hl hb =>
    refine h.frame (fun m hm => hm) (socket_update s.base (socket_next hb)) rfl (fun g hg => ?_) rfl
    simp only [withBase] at hg
    split_ifs at hg
  | pop msg q hm hq =>
    refine h.frame (fun m hmem => ?_) (fun _ => rfl) rfl (fun g hg => hg) rfl
    rw [waiting, (SpinLockQueue.pop_eq_some hq).1, hm]
    exact hmem
  | drop msg hm =>
    refine h.frame (fun m hmem => ?_) (fun _ => rfl) rfl (fun g hg => hg) rfl
    rw [waiting, hm]
    exact List.mem_cons_of_mem _ hmem
  | getConnection msg c hm =>
    refine h.frame (fun m hmem => ?_) (fun _ => rfl) rfl (fun g hg => hg) rfl
    rw [waiting, hm]
    exact hmem
  | send c msg b hm hb =>
    refine h.frame (fun m hmem => ?_) (socket_update s.base (socket_next hb)) rfl
      (fun g hg => hg) rfl
    rw [waiting, hm]
    exact List.mem_cons_of_mem _ hmem
  | modifyEvent c b hm hb =>
    refine h.frame (fun m hmem => ?_) (socket_update s.base (socket_next hb)) rfl
      (fun g hg => hg) rfl
    rw [waiting, hm]
    exact hmem

/-- Only `Send` pushes. -/
lemma pushed_next {b b' : ConnectionBase Unit} {a : ConnectionBase.Action Unit}
    (h : b.next a = some b') (ha : ∀ t data, a ≠ .send t data) :
    b'.sendMQ.pushed = b.sendMQ.pushed := by
  cases ConnectionBase.Step.of_next h with
  | push t data => exact absurd rfl (ha t data)
  | pop hpc hcache msg q hq => exact (SpinLockQueue.pop_eq_some hq).2.1
  | _ => rfl

lemma pushed_send {b b' : ConnectionBase Unit} {data : Bytes}
    (h : b.next (.send () data) = some b') (hsocket : 0 ≤ b.socket) :
    b'.sendMQ.pushed = b.sendMQ.pushed ++ [data] := by
  have hstep : ConnectionBase.Step b (.send () data) b' := .of_next h
  cases hstep with
  | refuse _ _ hneg => exact absurd hneg (Int.not_lt.mpr hsocket)
  | push => rfl

lemma pushed_update (base : ConnId → ConnectionBase Unit) {c : ConnId} {b : ConnectionBase Unit}
    (hb : b.sendMQ.pushed = (base c).sendMQ.pushed) (g : ConnId) :
    (Function.update base c b g).sendMQ.pushed = (base g).sendMQ.pushed := by
  by_cases hg : g = c
  · subst hg
    rw [Function.update_self, hb]
  · rw [Function.update_of_ne hg]

/-- Nothing is received or sent back. -/
lemma Echoes.frame (h : Echoes s) (hown : ∀ c m, s'.main = .send c m → s.main = .send c m)
    (halive : ∀ c, s'.alive c = true → s.alive c = true)
    (hreceived : s'.received = s.received)
    (hpushed : ∀ c, (s'.base c).sendMQ.pushed = (s.base c).sendMQ.pushed)
    (hwaiting : s'.waiting = s.waiting) : Echoes s' where
  own c m hm := h.own c m (hown c m hm)
  stream c hc := by
    rw [hreceived, hpushed, waitingOn, hwaiting]
    exact h.stream c (halive c hc)

lemma Echoes.afterRead (h : Echoes s) (c : ConnId) (out : Bool) : Echoes (s.afterRead c out) := by
  cases out with
  | false => exact h.frame (fun _ _ hm => hm) (fun _ hc => hc) rfl (fun _ => rfl) rfl
  | true => exact h.frame (fun _ _ hm => hm) (fun _ hc => hc) rfl (pushed_update s.base rfl) rfl

lemma waitingOn_cons {m : RecvMsg} {ms : List RecvMsg} (hs : s.waiting = m :: ms)
    (hs' : s'.waiting = ms) (c : ConnId) :
    s.waitingOn c = (if m.origin = c then [m.str] else []) ++ s'.waitingOn c := by
  rw [waitingOn, waitingOn, hs, hs', List.filter_cons]
  by_cases hc : m.origin = c <;> simp [hc]

/-- A message whose number has no connection came from one that was deleted. -/
lemma Echoes.drop (h : Echoes s) (hk : Known s) (hp : Posted s) {msg : RecvMsg}
    (hm : s.main = .getConnection msg) (hfd : s.mapConn msg.fd = none) :
    Echoes { s with main := .idle } where
  own c m hs := by cases hs
  stream c hc := by
    have hmem : msg ∈ s.waiting := by
      rw [waiting, hm]
      exact List.mem_cons_self
    have hne : msg.origin ≠ c := by
      rintro rfl
      have hreg := hk.registered _ hc (hp.origin msg hmem).2
      rw [← hp.fd msg hmem, hfd] at hreg
      cases hreg
    have hwaiting : s.waitingOn c = (if msg.origin = c then [msg.str] else []) ++
        waitingOn { s with main := .idle } c :=
      waitingOn_cons (by rw [waiting, hm]; rfl) rfl c
    rw [if_neg hne, List.nil_append] at hwaiting
    rw [← hwaiting]
    exact h.stream c hc

lemma Echoes.send (h : Echoes s) (hk : Known s) {c : ConnId} {msg : RecvMsg}
    {b : ConnectionBase Unit} (hm : s.main = .send c msg)
    (hb : (s.base c).next (.send () msg.str) = some b) :
    Echoes (s.withBase c b s.loop (.modifyEvent c)) where
  own g m hs := by cases hs
  stream g hg := by
    have hg : s.alive g = true := hg
    have hown := h.own c msg hm
    have hwaiting : s.waitingOn g = (if msg.origin = g then [msg.str] else []) ++
        (s.withBase c b s.loop (.modifyEvent c)).waitingOn g :=
      waitingOn_cons (by rw [waiting, hm]; rfl) rfl g
    have hstream := h.stream g hg
    rw [hwaiting, hown] at hstream
    show s.received g = (Function.update s.base c b g).sendMQ.pushed ++ _
    by_cases hgc : g = c
    · subst hgc
      rw [Function.update_self, pushed_send hb (hk.below g hg).2, List.append_assoc, hstream,
        if_pos rfl]
    · rw [Function.update_of_ne hgc, hstream, if_neg (Ne.symm hgc), List.nil_append]

lemma Echoes.recv (h : Echoes s) {bytes : Bytes} {c : ConnId} (fd : Fd) :
    Echoes { s with
      msgQueue := s.msgQueue.push ⟨fd, bytes, c⟩
      received := Function.update s.received c (s.received c ++ [bytes]) } where
  own := h.own
  stream g hg := by
    have hstream := h.stream g hg
    simp only [waitingOn, waiting, SpinLockQueue.queue_push, ← List.append_assoc,
      List.filter_append, List.map_append]
    simp only [waitingOn, waiting, List.filter_append, List.map_append] at hstream
    by_cases hgc : g = c
    · subst hgc
      rw [Function.update_self, hstream]
      simp
    · rw [Function.update_of_ne hgc, hstream]
      simp [Ne.symm hgc]

lemma Echoes.next (h : Echoes s) (hk : Known s) (hp : Posted s)
    (hs : machine.next s a = some s') (hok : FindsOwn s a) : Echoes s' := by
  cases Step.of_next hs with
  | accept fd hl hfd =>
    refine ⟨h.own, fun c hc => ?_⟩
    by_cases hne : c = s.accepted
    · -- nothing was received on a new connection
      subst hne
      have hnone : s.waitingOn s.accepted = [] := by
        rw [waitingOn, List.map_eq_nil_iff, List.filter_eq_nil_iff]
        intro m hm
        simpa using Nat.ne_of_lt (hp.origin m hm).1
      have hreceived := hp.fresh s.accepted (Nat.le_refl _)
      show s.received s.accepted = _ ++ s.waitingOn s.accepted
      rw [hreceived, hnone]
      simp [EchoServer.handleAccept, ConnectionBase.start]
    · simp only [EchoServer.handleAccept, Function.update_of_ne hne] at hc ⊢
      exact h.stream c hc
  | addConnection | read | eof =>
    exact h.frame (fun _ _ hm => hm) (fun _ hc => hc) rfl (fun _ => rfl) rfl
  | ignore | again => exact h
  | noRead fd out c | endRead r c out => exact h.afterRead c out
  | recv bytes c out hl => exact h.recv _
  | remove c out hl =>
    rw [hk.removeConnection_eq hl]
    refine Echoes.afterRead ?_ c out
    refine h.frame (fun _ _ hm => hm) (fun g hg => ?_) rfl (fun _ => rfl) rfl
    have hgc : g ≠ c := by
      rintro rfl
      simp at hg
    simpa [hgc] using hg
  | write r c b hl hb =>
    refine h.frame (fun _ _ hm => hm) (fun _ hc => hc) rfl
      (pushed_update s.base (pushed_next hb ?_)) rfl
    cases r with
    | none => simp
    | some r => simp
  | pop msg q hm hq =>
    refine h.frame (fun _ _ hs => ?_) (fun _ hc => hc) rfl (fun _ => rfl) ?_
    · cases hs
    · rw [waiting, waiting, (SpinLockQueue.pop_eq_some hq).1, hm]
      rfl
  | drop msg hm hfd => exact h.drop hk hp hm hfd
  | getConnection msg c hm hfd =>
    refine ⟨fun g m he => ?_, fun g hg => ?_⟩
    · cases he
      exact hok rfl msg c hm hfd
    · have hwaiting : waiting { s with main := .send c msg } = s.waiting := by
        rw [waiting, waiting, hm]
        rfl
      rw [waitingOn, hwaiting]
      exact h.stream g hg
  | send c msg b hm hb => exact h.send hk hm hb
  | modifyEvent c b hm hb =>
    refine h.frame (fun _ _ hs => ?_) (fun _ hc => hc) rfl
      (pushed_update s.base (pushed_next hb (by simp))) ?_
    · cases hs
    · rw [waiting, waiting, hm]
      rfl

/-- No number is given out while a message waits under it, and no `write` returns 0. -/
def Orderly (s : EchoServer) : Action → Prop
  | .accept fd => ∀ m ∈ s.waiting, m.fd ≠ fd
  | .write result => result ≠ some .zero
  | _ => True

instance (s : EchoServer) (a : Action) : Decidable (s.Orderly a) :=
  match a with
  | .accept _ => inferInstanceAs (Decidable (∀ m ∈ _, _))
  | .write _ => inferInstanceAs (Decidable (_ ≠ _))
  | .addConnection | .event _ _ _ | .recv _ | .removeConnection | .pop | .getConnection | .send
  | .modifyEvent => inferInstanceAs (Decidable True)

/-- The numbers of the messages that wait are not given out again. -/
def Aimed (s : EchoServer) : Prop :=
  ∀ m ∈ s.waiting, ∀ c, (s.mapConn m.fd = some c → m.origin = c) ∧
    (s.loop = .addConnection c → (s.base c).socket ≠ m.fd)

lemma Aimed.frame (h : Aimed s) (hwaiting : ∀ m ∈ s'.waiting, m ∈ s.waiting)
    (hmap : ∀ fd c, s'.mapConn fd = some c → s.mapConn fd = some c)
    (hadd : ∀ c, s'.loop = .addConnection c → s.loop = .addConnection c)
    (hsocket : ∀ c, (s'.base c).socket = (s.base c).socket) : Aimed s' := by
  intro m hm c
  obtain ⟨hown, hother⟩ := h m (hwaiting m hm) c
  refine ⟨fun hc => hown (hmap _ c hc), fun hl => ?_⟩
  rw [hsocket]
  exact hother (hadd c hl)

lemma Aimed.afterRead (h : Aimed s) (c : ConnId) (out : Bool) : Aimed (s.afterRead c out) := by
  cases out with
  | false =>
    refine h.frame (fun m hm => hm) (fun _ _ hc => hc) (fun g hg => ?_) fun _ => rfl
    cases hg
  | true =>
    refine h.frame (fun m hm => hm) (fun _ _ hc => hc) (fun g hg => ?_) (socket_update s.base rfl)
    cases hg

lemma Aimed.next (h : Aimed s) (hk : Known s) (hs : machine.next s a = some s')
    (hok : s.Orderly a) : Aimed s' := by
  cases Step.of_next hs with
  | accept fd hl hfd =>
    intro m hm c
    refine ⟨(h m hm c).1, fun hc => ?_⟩
    cases hc
    rw [EchoServer.handleAccept]
    simp only [Function.update_self, ConnectionBase.start]
    exact (hok m hm).symm
  | addConnection c hl =>
    intro m hm g
    obtain ⟨hown, -⟩ := h m hm g
    refine ⟨fun hg => hown ?_, fun hg => by cases hg⟩
    have hne : m.fd ≠ (s.base c).socket := ((h m hm c).2 hl).symm
    rw [EchoServer.addConnection] at hg
    dsimp only at hg
    split_ifs at hg
    · rwa [Function.update_of_ne hne] at hg
    · exact hg
  | ignore | again => exact h
  | read | eof =>
    refine h.frame (fun m hm => hm) (fun _ _ hc => hc) (fun g hg => ?_) fun _ => rfl
    cases hg
  | noRead fd out c | endRead r c out => exact h.afterRead c out
  | recv bytes c out hl =>
    intro m hm g
    have hcases : m ∈ s.waiting ∨ m = ⟨(s.base c).socket, bytes, c⟩ := by
      rw [waiting, SpinLockQueue.queue_push, ← List.append_assoc, List.mem_append,
        List.mem_singleton] at hm
      exact hm
    rcases hcases with hm | rfl
    · exact h m hm g
    · refine ⟨fun hg => ?_, fun hg => ?_⟩
      · have hreg := hk.registered c (hk.reading c out (.inl hl)) (by simp [hl])
        exact Option.some.inj (hreg.symm.trans hg)
      · rw [show s.loop = .addConnection g from hg] at hl
        cases hl
  | remove c out hl =>
    rw [hk.removeConnection_eq hl]
    refine Aimed.afterRead ?_ c out
    refine h.frame (fun m hm => hm) (fun fd g hg => ?_) (fun _ hg => hg) fun _ => rfl
    have hfd : fd ≠ (s.base c).socket := by
      rintro rfl
      simp at hg
    exact (Function.update_of_ne hfd _ _).symm.trans hg
  | write r c b hl hb =>
    refine h.frame (fun m hm => hm) (fun _ _ hc => hc) (fun g hg => ?_)
      (socket_update s.base (socket_next hb))
    simp only [withBase] at hg
    split_ifs at hg
  | pop msg q hm hq =>
    refine h.frame (fun m hmem => ?_) (fun _ _ hc => hc) (fun _ hg => hg) fun _ => rfl
    rw [waiting, (SpinLockQueue.pop_eq_some hq).1, hm]
    exact hmem
  | drop msg hm =>
    refine h.frame (fun m hmem => ?_) (fun _ _ hc => hc) (fun _ hg => hg) fun _ => rfl
    rw [waiting, hm]
    exact List.mem_cons_of_mem _ hmem
  | getConnection msg c hm =>
    refine h.frame (fun m hmem => ?_) (fun _ _ hc => hc) (fun _ hg => hg) fun _ => rfl
    rw [waiting, hm]
    exact hmem
  | send c msg b hm hb =>
    refine h.frame (fun m hmem => ?_) (fun _ _ hc => hc) (fun _ hg => hg)
      (socket_update s.base (socket_next hb))
    rw [waiting, hm]
    exact List.mem_cons_of_mem _ hmem
  | modifyEvent c b hm hb =>
    refine h.frame (fun m hmem => ?_) (fun _ _ hc => hc) (fun _ hg => hg)
      (socket_update s.base (socket_next hb))
    rw [waiting, hm]
    exact hmem

lemma Aimed.findsOwn (h : Aimed s) (a : Action) : FindsOwn s a := by
  rintro - m c hm hfd
  refine (h m ?_ c).1 hfd
  rw [waiting, hm]
  exact List.mem_cons_self

/-- Before a `write` fails for good, what a connection has taken from its queue is written or
kept. -/
structure Writes (b : ConnectionBase Unit) : Prop where
  cache : b.CacheTaken
  balanced : b.failed = false → b.Balanced

lemma Writes.next {b b' : ConnectionBase Unit} {a : ConnectionBase.Action Unit} (h : Writes b)
    (hs : b.next a = some b') (hzero : a ≠ .write .zero) : Writes b' where
  cache := h.cache.next hs
  balanced hf := by
    have hfailed : b.failed = false := by
      by_contra hne
      have hf' := ConnectionBase.failed_next (by simpa using hne) hs
      rw [hf] at hf'
      cases hf'
    have herror : a ≠ .write .error := by
      rintro rfl
      have hstep : ConnectionBase.Step b (.write .error) b' := .of_next hs
      cases hstep
      cases hf
    exact (h.balanced hfailed).next h.cache hs ⟨hzero, herror⟩

/-- The steps of a connection are those of a `ConnectionBase`. -/
lemma writes_next (h : ∀ c, Writes (s.base c)) (hk : Known s) (hs : machine.next s a = some s')
    (hok : s.Orderly a) : ∀ c, Writes (s'.base c) := by
  have hafter : ∀ {t : EchoServer} (c : ConnId) (out : Bool), (∀ g, Writes (t.base g)) →
      (out = true → (t.base c).loop = .idle) → ∀ g, Writes ((t.afterRead c out).base g) := by
    intro t c out ht hidle g
    cases out with
    | false => exact ht g
    | true =>
      have hb : (t.base c).next .handleWrite = some ((t.base c).setLoop .test) := if_pos (hidle rfl)
      by_cases hgc : g = c
      · subst hgc
        simp only [afterRead, if_true, Function.update_self]
        exact (ht g).next hb (by simp)
      · simp only [afterRead, if_true, Function.update_of_ne hgc]
        exact ht g
  have hupdate : ∀ {c : ConnId} {b : ConnectionBase Unit} {a : ConnectionBase.Action Unit},
      (s.base c).next a = some b → a ≠ .write .zero →
        ∀ g, Writes (Function.update s.base c b g) := by
    intro c b a hb ha g
    by_cases hgc : g = c
    · subst hgc
      rw [Function.update_self]
      exact (h g).next hb ha
    · rw [Function.update_of_ne hgc]
      exact h g
  cases Step.of_next hs with
  | accept fd hl hfd =>
    intro g
    by_cases hg : g = s.accepted
    · subst hg
      simp only [handleAccept, Function.update_self]
      exact ⟨ConnectionBase.cacheTaken_start _ _, fun _ => rfl⟩
    · simp only [handleAccept, Function.update_of_ne hg]
      exact h g
  | noRead fd out c hl => exact hafter c out h fun _ => hk.writing c (by simp [hl])
  | endRead r c out hl => exact hafter c out h fun _ => hk.writing c (by simp [hl])
  | remove c out hl =>
    rw [hk.removeConnection_eq hl]
    exact hafter c out h fun _ => hk.writing c (by simp [hl])
  | write r c b hl hb =>
    refine hupdate hb ?_
    cases r with
    | none => simp
    | some r =>
      rintro he
      cases he
      exact hok rfl
  | send c msg b hm hb => exact hupdate hb (by simp)
  | modifyEvent c b hm hb => exact hupdate hb (by simp)
  | addConnection | ignore | read | recv | again | eof | pop | drop | getConnection => exact h

lemma echoes_of_reach (h : machine.Reach Orderly s) :
    Known s ∧ Posted s ∧ Aimed s ∧ Echoes s ∧ ∀ c, Writes (s.base c) := by
  induction h with
  | start hi =>
    obtain rfl : _ = start := hi
    refine ⟨known_start, posted_start, fun m hm => ?_, echoes_start, fun g => ?_⟩
    · cases hm
    · exact ⟨ConnectionBase.cacheTaken_start _ _, fun _ => rfl⟩
  | step _ hok hs ih =>
    obtain ⟨hk, hp, haimed, hechoes, hwrites⟩ := ih
    exact ⟨hk.next hs, hp.next hk hs, haimed.next hk hs hok,
      hechoes.next hk hp hs (haimed.findsOwn _), writes_next hwrites hk hs hok⟩

/-- Two clients send, and the first gets one byte of three back. -/
def twoClients : List Action :=
  [.accept 5, .addConnection, .accept 6, .addConnection, .event 5 true false,
    .recv (.data [1, 2, 3]), .recv .eagain, .event 6 true false, .recv (.data [9]), .pop,
    .getConnection, .send, .recv .eagain, .modifyEvent, .event 5 false true, .write none,
    .write none, .write (some (.wrote 1))]

end Balabala.EchoServer
