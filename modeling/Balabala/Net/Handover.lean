import Balabala.Net.Serving

/-!
# Connections that another loop has accepted

The acceptor of another loop enters a connection into `mapConn_` from its own thread and queues the
`AddEvent` for it. Until that task has run the connection is awaited: no callback is set for it, it
sends no messages, and nobody asks for its removal, so that it is still in `mapConn_` when the task
runs. `Handover` says so; the steps that could break it are those that `RemoveConnection` is asked
for on behalf of another object.
-/

namespace Balabala

/-- The connection that the acceptor of another loop has not registered yet. -/
def CallerPc.hands : CallerPc → Option ConnId
  | .accepted c _ | .entered c _ => some c
  | .idle | .holding _ | .sending _ _ _ | .leaving _ => none

/-- The `AddEvent` task of `c`. -/
def PendingTask.adds (c : ConnId) : PendingTask → Bool
  | .addEvent x _ _ => x = c
  | .modifyEventKeepCallback _ _ | .removeConnection _ _ | .send _ _ _ => false

namespace EventLoop

open Foundation PendingTask

variable {Tid : Type*}

/-- A `Connection` for which `AddEvent` has not run yet, in this loop or in the thread of another
one. -/
def Awaited (s : EventLoop Tid) (c : ConnId) : Prop :=
  s.kind c = .connection ∧
    ((∃ t, (s.callers t).hands = some c) ∨ ∃ fd events, .addEvent c fd events ∈ s.queue)

/-- An object that is not awaited any more, or never was. -/
def Settled (s : EventLoop Tid) (c : ConnId) : Prop := c < s.created ∧ ¬ s.Awaited c

/-- The connection is in `mapConn_`, and nobody has asked for its removal. -/
def Mapped (s : EventLoop Tid) (c : ConnId) (fd : Fd) : Prop :=
  s.mapConn fd = some c ∧ ∀ x, .removeConnection x fd ∉ s.queue

/-- What is known of the connections that other loops have accepted. -/
structure Handover (s : EventLoop Tid) : Prop where
  once : ∀ t u c, (s.callers t).hands = some c → (s.callers u).hands = some c → t = u
  alone : ∀ c, s.kind c = .connection → s.queue.countP (adds c) ≤ 1
  notYet : ∀ t c, (s.callers t).hands = some c →
    s.kind c = .connection ∧ ∀ fd events, .addEvent c fd events ∉ s.queue
  entered : ∀ t c fd, s.callers t = .entered c fd → s.Mapped c fd
  queued : ∀ c fd events, .addEvent c fd events ∈ s.queue →
    c < s.created ∧ (s.kind c = .connection → s.Mapped c fd)
  callbacks : ∀ fd c, s.callbacks fd = some c → s.Settled c
  mailbox : ∀ msg ∈ s.mailbox, s.Settled msg.conn
  this : ∀ c, s.loop.this = some c → s.Settled c
  removing : ∀ c fd, .removeConnection c fd ∈ s.queue → s.Settled c

variable {s s' : EventLoop Tid}

lemma settled_of_kind {c : ConnId} (hlt : c < s.created) (hk : s.kind c ≠ .connection) :
    s.Settled c :=
  ⟨hlt, fun h => hk h.1⟩

/-- An awaited connection that is in `mapConn_` at all is `Mapped`. -/
lemma Handover.mapped (h : Handover s) (ht : Tables s) {c : ConnId} {fd : Fd} (hc : s.Awaited c)
    (hconn : s.mapConn fd = some c) : s.Mapped c fd := by
  obtain ⟨hk, ⟨t, hhands⟩ | ⟨f, events, hmem⟩⟩ := hc
  · cases hpc : s.callers t with
    | accepted x f =>
      obtain rfl : x = c := by simpa [hpc, CallerPc.hands] using hhands
      exact absurd (by simp [getConnection, hconn]) (ht.not_found_of_accepted hpc fd)
    | entered x f =>
      obtain rfl : x = c := by simpa [hpc, CallerPc.hands] using hhands
      have hm := h.entered t x f hpc
      rwa [ht.fds_unique (ht.fds_of_conn hconn) (ht.fds_of_conn hm.1)]
    | _ => simp [hpc, CallerPc.hands] at hhands
  · have hm := (h.queued c f events hmem).2 hk
    rwa [ht.fds_unique (ht.fds_of_conn hconn) (ht.fds_of_conn hm.1)]

/-! ### Steps that await nothing new -/

/-- Nothing is awaited that was not before. -/
structure Awaits (s s' : EventLoop Tid) : Prop where
  kind : s'.kind = s.kind
  created : s'.created = s.created
  callers : ∀ t, s'.callers t = s.callers t ∨ (s'.callers t).hands = none
  queue : s'.queue.Sublist s.queue
  mapConn : ∀ fd c, s.mapConn fd = some c → s.Awaited c → s'.mapConn fd = some c

namespace Awaits

lemma hands (e : Awaits s s') {t : Tid} {c : ConnId} (h : (s'.callers t).hands = some c) :
    s'.callers t = s.callers t :=
  (e.callers t).resolve_right fun hn => by simp [hn] at h

lemma awaited (e : Awaits s s') {c : ConnId} (h : s'.Awaited c) : s.Awaited c := by
  obtain ⟨hk, hc⟩ := h
  refine ⟨by rwa [← e.kind], hc.imp ?_ ?_⟩
  · rintro ⟨t, ht⟩
    exact ⟨t, by rwa [← e.hands ht]⟩
  · rintro ⟨fd, events, hmem⟩
    exact ⟨fd, events, e.queue.subset hmem⟩

lemma settled (e : Awaits s s') {c : ConnId} (h : s.Settled c) : s'.Settled c :=
  ⟨by rw [e.created]; exact h.1, fun hc => h.2 (e.awaited hc)⟩

lemma mapped (e : Awaits s s') {c : ConnId} {fd : Fd} (hc : s.Awaited c) (h : s.Mapped c fd) :
    s'.Mapped c fd :=
  ⟨e.mapConn fd c h.1 hc, fun x hx => h.2 x (e.queue.subset hx)⟩

end Awaits

lemma Handover.frame (h : Handover s) (e : Awaits s s')
    (hcb : ∀ fd c, s'.callbacks fd = some c → s.callbacks fd = some c ∨ s'.Settled c)
    (hmail : ∀ msg ∈ s'.mailbox, msg ∈ s.mailbox ∨ s'.Settled msg.conn)
    (hthis : ∀ c, s'.loop.this = some c → s.loop.this = some c ∨ s'.Settled c) : Handover s' where
  once := fun t u c ht hu => by
    rw [e.hands ht] at ht
    rw [e.hands hu] at hu
    exact h.once t u c ht hu
  alone := fun c hk => Nat.le_trans e.queue.countP_le (h.alone c (by rwa [← e.kind]))
  notYet := fun t c hc => by
    rw [e.hands hc] at hc
    obtain ⟨hk, hno⟩ := h.notYet t c hc
    exact ⟨by rwa [e.kind], fun fd events hmem => hno fd events (e.queue.subset hmem)⟩
  entered := fun t c fd hpc => by
    have hhands : (s'.callers t).hands = some c := by simp [hpc, CallerPc.hands]
    rw [e.hands hhands] at hpc hhands
    exact e.mapped ⟨(h.notYet t c hhands).1, .inl ⟨t, hhands⟩⟩ (h.entered t c fd hpc)
  queued := fun c fd events hmem => by
    have hmem := e.queue.subset hmem
    obtain ⟨hlt, hm⟩ := h.queued c fd events hmem
    rw [e.created, e.kind]
    exact ⟨hlt, fun hk => e.mapped ⟨hk, .inr ⟨fd, events, hmem⟩⟩ (hm hk)⟩
  callbacks := fun fd c hc => (hcb fd c hc).elim (fun hc => e.settled (h.callbacks fd c hc)) id
  mailbox := fun msg hm => (hmail msg hm).elim (fun hm => e.settled (h.mailbox msg hm)) id
  this := fun c hc => (hthis c hc).elim (fun hc => e.settled (h.this c hc)) id
  removing := fun c fd hmem => e.settled (h.removing c fd (e.queue.subset hmem))

/-- The tables may lose callbacks and the loop thread may leave a callback. -/
lemma Handover.keeps (h : Handover s) (e : Awaits s s')
    (hcb : ∀ fd c, s'.callbacks fd = some c → s.callbacks fd = some c)
    (hmail : ∀ msg ∈ s'.mailbox, msg ∈ s.mailbox)
    (hthis : ∀ c, s'.loop.this = some c → s.loop.this = some c) : Handover s' :=
  h.frame e (fun fd c hc => .inl (hcb fd c hc)) (fun msg hm => .inl (hmail msg hm))
    fun c hc => .inl (hthis c hc)

lemma awaits_of_eq (hk : s'.kind = s.kind) (hcr : s'.created = s.created)
    (hcallers : s'.callers = s.callers) (hq : s'.queue = s.queue)
    (hmap : s'.mapConn = s.mapConn) : Awaits s s' where
  kind := hk
  created := hcr
  callers := fun t => .inl (by rw [hcallers])
  queue := hq ▸ List.Sublist.refl _
  mapConn := fun fd c hc _ => by rwa [hmap]

/-- A step that changes nothing that `Handover` speaks of. -/
lemma Handover.same (h : Handover s) (e : Awaits s s') (hcb : s'.callbacks = s.callbacks)
    (hmail : s'.mailbox = s.mailbox) (hloop : s'.loop = s.loop) : Handover s' :=
  h.keeps e (fun _ _ hc => hcb ▸ hc) (fun _ hm => hmail ▸ hm) fun _ hc => hloop ▸ hc

lemma Handover.relays (h : Handover s) (e : Relays s s')
    (hmail : ∀ msg ∈ s'.mailbox, msg ∈ s.mailbox ∨ s'.Settled msg.conn) : Handover s' := by
  obtain ⟨_, _, _, rfl, hq⟩ := e
  exact h.frame (awaits_of_eq rfl rfl rfl hq rfl) (fun _ _ => .inl) hmail fun _ => .inl

lemma Handover.quiet (h : Handover s) (e : Quiet s s') : Handover s' := by
  obtain ⟨_, _, _, _, _, rfl, -⟩ := e
  exact h.same (awaits_of_eq rfl rfl rfl rfl rfl) rfl rfl rfl

lemma Handover.closes (h : Handover s) (e : Closes s s') : Handover s' := by
  obtain ⟨_, _, _, _, rfl, -, -⟩ := e
  exact h.same (awaits_of_eq rfl rfl rfl rfl rfl) rfl rfl rfl

lemma Handover.setStage (h : Handover s) (c : ConnId) (stage : Stage) :
    Handover (s.setStage c stage) :=
  h.same (awaits_of_eq rfl rfl rfl rfl rfl) rfl rfl rfl

lemma Handover.setLoop (h : Handover s) {pc : LoopPc}
    (hthis : ∀ c, pc.this = some c → s.loop.this = some c ∨ s.Settled c) :
    Handover (s.setLoop pc) := by
  have e : Awaits s (s.setLoop pc) := awaits_of_eq rfl rfl rfl rfl rfl
  exact h.frame e (fun _ _ => .inl) (fun _ => .inl) fun c hc => (hthis c hc).imp_right e.settled

/-- The callers' pointers to connections that are no concern of the tables here. -/
lemma Handover.setCaller [DecidableEq Tid] (h : Handover s) {t : Tid} {pc : CallerPc}
    (hpc : pc.hands = none) : Handover (s.setCaller t pc) := by
  refine h.same ⟨rfl, rfl, fun u => ?_, List.Sublist.refl _, fun _ _ hc _ => hc⟩ rfl rfl rfl
  by_cases hu : u = t
  · exact .inr (by simp [EventLoop.setCaller, hu, hpc])
  · exact .inl (by simp [EventLoop.setCaller, hu])

lemma awaits_pop {task : PendingTask} {rest : List PendingTask}
    (hph : s.phase = .tasks (task :: rest)) : Awaits s (s.setPhase (.tasks rest)) where
  kind := rfl
  created := rfl
  callers := fun _ => .inl rfl
  queue := by
    rw [queue_of_tasks hph]
    exact List.sublist_cons_self _ _
  mapConn := fun _ _ hc _ => hc

lemma Handover.pop (h : Handover s) {task : PendingTask} {rest : List PendingTask}
    (hph : s.phase = .tasks (task :: rest)) : Handover (s.setPhase (.tasks rest)) :=
  h.same (awaits_pop hph) rfl rfl rfl

/-! ### Objects are created and entered -/

/-- A new object is not known to anyone. -/
lemma Handover.create (h : Handover s) (ht : Tables s) {fd : Fd} {kind : ConnKind} {stage : Stage}
    {connecting : Bool} : Handover (s.create fd kind stage connecting) := by
  have hkind : ∀ c, c < s.created → (s.create fd kind stage connecting).kind c = s.kind c :=
    fun c hc => create_kind_of_ne (Nat.ne_of_lt hc)
  have hlt : ∀ t c, (s.callers t).hands = some c → c < s.created := by
    intro t c hc
    refine (ht.callers t c ?_).1
    cases hpc : s.callers t <;> simp_all [CallerPc.hands, CallerPc.conn]
  have hset : ∀ c, s.Settled c → (s.create fd kind stage connecting).Settled c := by
    rintro c ⟨hc, hno⟩
    refine ⟨Nat.lt_succ_of_lt hc, fun ha => hno ⟨?_, ha.2⟩⟩
    rw [← hkind c hc]
    exact ha.1
  refine ⟨h.once, fun c hk => ?_, fun t c hc => ?_, h.entered, fun c f events hmem => ?_,
    fun f c hc => hset c (h.callbacks f c hc), fun msg hm => hset _ (h.mailbox msg hm),
    fun c hc => hset c (h.this c hc), fun c f hmem => hset c (h.removing c f hmem)⟩
  · by_cases hc : c < s.created
    · exact h.alone c (by rwa [← hkind c hc])
    · have hzero : s.queue.countP (adds c) = 0 := by
        refine List.countP_eq_zero.mpr fun task hmem hadds => hc ?_
        cases task with
        | addEvent x f events =>
          obtain rfl : x = c := by simpa [adds] using hadds
          exact (h.queued x f events hmem).1
        | _ => cases hadds
      exact Nat.le_trans (Nat.le_of_eq hzero) (Nat.zero_le 1)
  · rw [hkind c (hlt t c hc)]
    exact h.notYet t c hc
  · obtain ⟨hc, hm⟩ := h.queued c f events hmem
    rw [hkind c hc]
    exact ⟨Nat.lt_succ_of_lt hc, hm⟩

/-- A task is queued that neither registers a connection nor removes an awaited one. -/
lemma Handover.queueInLoop (h : Handover s) {task : PendingTask}
    (hadd : ∀ c fd events, task = .addEvent c fd events → c < s.created ∧ s.kind c ≠ .connection)
    (hremove : ∀ c fd, task = .removeConnection c fd →
      s.Settled c ∧ ∀ x, s.Awaited x → s.mapConn fd ≠ some x) :
    Handover (s.queueInLoop task) := by
  have hmem : ∀ t, t ∈ (s.queueInLoop task).queue ↔ t ∈ s.queue ∨ t = task := by
    intro t
    rw [queue_queueInLoop, List.mem_append, List.mem_singleton]
  have hawaited : ∀ c, (s.queueInLoop task).Awaited c → s.Awaited c := by
    rintro c ⟨hk, ht | ⟨fd, events, hx⟩⟩
    · exact ⟨hk, .inl ht⟩
    · refine ⟨hk, .inr ⟨fd, events, ((hmem _).mp hx).resolve_right fun heq => ?_⟩⟩
      exact (hadd c fd events heq.symm).2 hk
  have hset : ∀ c, s.Settled c → (s.queueInLoop task).Settled c :=
    fun c hc => ⟨hc.1, fun ha => hc.2 (hawaited c ha)⟩
  have hmapped : ∀ c fd, s.Awaited c → s.Mapped c fd → (s.queueInLoop task).Mapped c fd := by
    intro c fd hc hm
    refine ⟨hm.1, fun x hx => ?_⟩
    rcases (hmem _).mp hx with hx | heq
    · exact hm.2 x hx
    · exact (hremove x fd heq.symm).2 c hc hm.1
  refine ⟨h.once, fun c hk => ?_, fun t c hc => ?_, fun t c fd hpc => ?_,
    fun c fd events hx => ?_, fun fd c hc => hset c (h.callbacks fd c hc),
    fun msg hm => hset _ (h.mailbox msg hm), fun c hc => hset c (h.this c hc), fun c fd hx => ?_⟩
  · rw [queue_queueInLoop, List.countP_append]
    have hzero : [task].countP (adds c) = 0 := by
      refine List.countP_eq_zero.mpr fun t hmem hadds => ?_
      rw [List.mem_singleton] at hmem
      subst hmem
      cases t with
      | addEvent x f events =>
        obtain rfl : x = c := by simpa [adds] using hadds
        exact (hadd x f events rfl).2 hk
      | _ => cases hadds
    rw [hzero]
    exact h.alone c hk
  · obtain ⟨hk, hno⟩ := h.notYet t c hc
    refine ⟨hk, fun fd events hx => ?_⟩
    rcases (hmem _).mp hx with hx | heq
    · exact hno fd events hx
    · exact (hadd c fd events heq.symm).2 hk
  · have hpc : s.callers t = .entered c fd := hpc
    have hhands : (s.callers t).hands = some c := by simp [hpc, CallerPc.hands]
    exact hmapped c fd ⟨(h.notYet t c hhands).1, .inl ⟨t, hhands⟩⟩ (h.entered t c fd hpc)
  · rcases (hmem _).mp hx with hx | heq
    · obtain ⟨hlt, hm⟩ := h.queued c fd events hx
      exact ⟨hlt, fun hk => hmapped c fd ⟨hk, .inr ⟨fd, events, hx⟩⟩ (hm hk)⟩
    · obtain ⟨hlt, hk⟩ := hadd c fd events heq.symm
      exact ⟨hlt, fun hc => absurd hc hk⟩
  · rcases (hmem _).mp hx with hx | heq
    · exact hset c (h.removing c fd hx)
    · exact hset c (hremove c fd heq.symm).1

/-- The removal of a settled connection is asked for under the number it holds. -/
lemma Handover.queueRemoval (h : Handover s) {c : ConnId} {fd : Fd} (hset : s.Settled c)
    (hown : ∀ x, s.mapConn fd = some x → x = c) :
    Handover (s.queueInLoop (.removeConnection c fd)) := by
  refine h.queueInLoop (fun _ _ _ hx => by cases hx) fun x f hx => ?_
  cases hx
  refine ⟨hset, fun y hy hconn => hset.2 ?_⟩
  rwa [← hown y hconn]

/-- `AddEvent` of a settled connection enters no other callback. -/
lemma Handover.addEvent (h : Handover s) {c : ConnId} {fd : Fd} {events : Interest}
    (hset : s.Settled c) : Handover (s.addEvent c fd events) := by
  rw [EventLoop.addEvent]
  split_ifs
  · refine h.frame (awaits_of_eq rfl rfl rfl rfl rfl) (fun f x hx => ?_) (fun _ => .inl)
      fun _ => .inl
    by_cases hf : f = fd
    · subst hf
      obtain rfl : c = x := by simpa using hx
      exact .inr hset
    · exact .inl (by simpa [hf] using hx)
  · exact h

/-- The loop accepts a connection for itself: nobody awaits the new object. -/
lemma Handover.accept (h : Handover s) (ht : Tables s) {fd : Fd} :
    Handover ((s.create fd .connection .ready false).setLoop (.addConnection s.created fd)) := by
  have hnew : Handover (s.create fd .connection .ready false) := h.create ht
  refine hnew.setLoop fun c hc => .inr ?_
  obtain rfl : s.created = c := by simpa [LoopPc.this] using hc
  refine ⟨Nat.lt_succ_self _, ?_⟩
  rintro ⟨-, ⟨t, hhands⟩ | ⟨f, events, hmem⟩⟩
  · refine absurd (ht.callers t s.created ?_).1 (Nat.lt_irrefl _)
    have hhands : (s.callers t).hands = some s.created := hhands
    cases hpc : s.callers t <;> simp_all [CallerPc.hands, CallerPc.conn]
  · exact absurd (h.queued s.created f events hmem).1 (Nat.lt_irrefl _)

/-- `AddConnection` leaves the entries of `mapConn_` as they are. -/
lemma awaits_addConnection (s : EventLoop Tid) (c : ConnId) (fd : Fd) :
    Awaits s (s.addConnection c fd) := by
  obtain ⟨_, _, he⟩ := addConnection_eq s c fd
  refine ⟨by rw [he], by rw [he], fun t => .inl (by rw [he]), ?_, fun f x hx hax => ?_⟩
  · rw [he]
    exact List.Sublist.refl _
  · rw [EventLoop.addConnection]
    cases hm : s.mapConn fd with
    | some d => exact hx
    | none =>
      have hf : f ≠ fd := by
        rintro rfl
        simp [hm] at hx
      simpa [hf] using hx

lemma Handover.addConnection (h : Handover s) (c : ConnId) (fd : Fd) :
    Handover (s.addConnection c fd) := by
  obtain ⟨_, _, he⟩ := addConnection_eq s c fd
  exact h.same (awaits_addConnection s c fd) (by rw [he]) (by rw [he]) (by rw [he])

/-! ### The thread of the other loop -/

variable [DecidableEq Tid]

/-- A connection is accepted, and nobody else knows it. -/
lemma Handover.acceptFor (h : Handover s) (ht : Tables s) {t : Tid} {fd : Fd}
    (hpc : s.callers t = .idle) : Handover (s.acceptFor t fd) := by
  have hnew : Handover (s.create fd .connection .ready false) := h.create ht
  have hcallers : ∀ u, u ≠ t → (s.acceptFor t fd).callers u = s.callers u := by
    intro u hu
    simp [EventLoop.acceptFor, hu]
  have hlt : ∀ u c, (s.callers u).hands = some c → c < s.created := by
    intro u c hc
    refine (ht.callers u c ?_).1
    cases hpc : s.callers u <;> simp_all [CallerPc.hands, CallerPc.conn]
  have hhands : ∀ u c, ((s.acceptFor t fd).callers u).hands = some c →
      u = t ∧ c = s.created ∨ u ≠ t ∧ (s.callers u).hands = some c := by
    intro u c hc
    by_cases hu : u = t
    · subst hu
      exact .inl ⟨rfl, by simpa [EventLoop.acceptFor, CallerPc.hands, eq_comm] using hc⟩
    · exact .inr ⟨hu, by rwa [hcallers u hu] at hc⟩
  have hset : ∀ c, c < s.created → (s.create fd .connection .ready false).Settled c →
      (s.acceptFor t fd).Settled c := by
    rintro c hc ⟨hlt, hno⟩
    refine ⟨hlt, fun ha => hno ⟨ha.1, ha.2.imp_left ?_⟩⟩
    rintro ⟨u, hu⟩
    rcases hhands u c hu with ⟨-, rfl⟩ | ⟨-, hu⟩
    · exact absurd hc (Nat.lt_irrefl _)
    · exact ⟨u, hu⟩
  refine ⟨fun u v c hu hv => ?_, hnew.alone, fun u c hc => ?_, fun u c f hu => ?_, hnew.queued,
    fun f c hc => hset c (h.callbacks f c hc).1 (hnew.callbacks f c hc),
    fun msg hm => hset _ (h.mailbox msg hm).1 (hnew.mailbox msg hm),
    fun c hc => hset c (h.this c hc).1 (hnew.this c hc),
    fun c f hmem => hset c (h.removing c f hmem).1 (hnew.removing c f hmem)⟩
  · rcases hhands u c hu with ⟨hut, hcu⟩ | ⟨-, hcu⟩ <;>
      rcases hhands v c hv with ⟨hvt, hcv⟩ | ⟨-, hcv⟩
    · exact hut.trans hvt.symm
    · exact absurd (hlt v c hcv) (hcu ▸ Nat.lt_irrefl _)
    · exact absurd (hlt u c hcu) (hcv ▸ Nat.lt_irrefl _)
    · exact h.once u v c hcu hcv
  · rcases hhands u c hc with ⟨-, rfl⟩ | ⟨-, hc⟩
    · refine ⟨by simp [EventLoop.acceptFor, EventLoop.create], fun f events hmem => ?_⟩
      exact absurd (h.queued _ f events hmem).1 (Nat.lt_irrefl _)
    · exact hnew.notYet u c hc
  · by_cases hut : u = t
    · simp [EventLoop.acceptFor, hut] at hu
    · exact hnew.entered u c f (by rwa [hcallers u hut] at hu)

/-- `AddConnection` in the thread of the other loop, when no removal of another object waits. -/
lemma Handover.enterConnection (h : Handover s) (ht : Tables s) {t : Tid} {c : ConnId} {fd : Fd}
    (hpc : s.callers t = .accepted c fd)
    (honly : ∀ x, .removeConnection x fd ∈ s.queue → x = c) :
    Handover ((s.addConnection c fd).setCaller t (.entered c fd)) := by
  have hnone := ht.mapConn_of_accepted hpc
  have hhands : (s.callers t).hands = some c := by simp [hpc, CallerPc.hands]
  have hk := (h.notYet t c hhands).1
  have hawait : s.Awaited c := ⟨hk, .inl ⟨t, hhands⟩⟩
  have hadd : s.addConnection c fd = { s with
      mapConn := Function.update s.mapConn fd (some c)
      refs := Function.update s.refs c (.mapConn :: s.refs c) } := by
    rw [EventLoop.addConnection]
    simp only [hnone]
  rw [hadd]
  have hpcs : ∀ u, (Function.update s.callers t (CallerPc.entered c fd) u).hands =
      (s.callers u).hands := by
    intro u
    by_cases hu : u = t
    · subst hu
      simp [hpc, CallerPc.hands]
    · simp [hu]
  have hset : ∀ x, s.Settled x → (EventLoop.setCaller { s with
      mapConn := Function.update s.mapConn fd (some c)
      refs := Function.update s.refs c (.mapConn :: s.refs c) } t (.entered c fd)).Settled x := by
    rintro x ⟨hlt, hno⟩
    refine ⟨hlt, fun ha => hno ⟨ha.1, ha.2.imp_left ?_⟩⟩
    rintro ⟨u, hu⟩
    exact ⟨u, (hpcs u).symm.trans hu⟩
  have hmapped : ∀ x f, s.Mapped x f → (EventLoop.setCaller { s with
      mapConn := Function.update s.mapConn fd (some c)
      refs := Function.update s.refs c (.mapConn :: s.refs c) } t (.entered c fd)).Mapped x f := by
    rintro x f ⟨hm, hno⟩
    refine ⟨?_, hno⟩
    have hf : f ≠ fd := by
      rintro rfl
      simp [hnone] at hm
    simpa [EventLoop.setCaller, hf] using hm
  refine ⟨fun u v x hu hv => h.once u v x ((hpcs u).symm.trans hu) ((hpcs v).symm.trans hv),
    h.alone, fun u x hx => h.notYet u x ((hpcs u).symm.trans hx), fun u x f hu => ?_,
    fun x f events hmem => (h.queued x f events hmem).imp_right fun hm hx => hmapped x f (hm hx),
    fun f x hx => hset x (h.callbacks f x hx), fun msg hm => hset _ (h.mailbox msg hm),
    fun x hx => hset x (h.this x hx), fun x f hmem => hset x (h.removing x f hmem)⟩
  by_cases hut : u = t
  · subst hut
    obtain ⟨rfl, rfl⟩ : c = x ∧ fd = f := by simpa [EventLoop.setCaller] using hu
    refine ⟨by simp [EventLoop.setCaller], fun y hy => ?_⟩
    obtain rfl := honly y hy
    exact (h.removing y fd hy).2 hawait
  · exact hmapped x f (h.entered u x f (by simpa [EventLoop.setCaller, hut] using hu))

/-- `AddEvent` in the thread of the other loop. -/
lemma Handover.enterEvent (h : Handover s) (ht : Tables s) {t : Tid} {c : ConnId} {fd : Fd}
    (hpc : s.callers t = .entered c fd) :
    Handover ((s.queueInLoop (.addEvent c fd .r)).setCaller t (.leaving c)) := by
  have hhands : (s.callers t).hands = some c := by simp [hpc, CallerPc.hands]
  obtain ⟨hk, hnone⟩ := h.notYet t c hhands
  have hlt := (ht.callers t c (by simp [hpc, CallerPc.conn])).1
  have hmem : ∀ task, task ∈ ((s.queueInLoop (.addEvent c fd .r)).setCaller t
      (.leaving c)).queue ↔ task ∈ s.queue ∨ task = .addEvent c fd .r := by
    intro task
    rw [show ((s.queueInLoop (.addEvent c fd .r)).setCaller t (.leaving c)).queue =
      (s.queueInLoop (.addEvent c fd .r)).queue from rfl, queue_queueInLoop, List.mem_append,
      List.mem_singleton]
  have hpcs : ∀ u x, (Function.update s.callers t (CallerPc.leaving c) u).hands = some x →
      u ≠ t ∧ (s.callers u).hands = some x := by
    intro u x hu
    by_cases hut : u = t
    · simp [hut, CallerPc.hands] at hu
    · exact ⟨hut, by simpa [hut] using hu⟩
  have hset : ∀ x, s.Settled x → ((s.queueInLoop (.addEvent c fd .r)).setCaller t
      (.leaving c)).Settled x := by
    rintro x ⟨hx, hno⟩
    refine ⟨hx, fun ha => hno ⟨ha.1, ?_⟩⟩
    rcases ha.2 with ⟨u, hu⟩ | ⟨f, events, hx⟩
    · exact .inl ⟨u, (hpcs u x hu).2⟩
    · rcases (hmem _).mp hx with hx | heq
      · exact .inr ⟨f, events, hx⟩
      · cases heq
        exact .inl ⟨t, hhands⟩
  have hmapped : ∀ x f, s.Mapped x f → ((s.queueInLoop (.addEvent c fd .r)).setCaller t
      (.leaving c)).Mapped x f := by
    rintro x f ⟨hm, hno⟩
    refine ⟨hm, fun y hy => hno y (((hmem _).mp hy).resolve_right (by simp))⟩
  refine ⟨fun u v x hu hv => h.once u v x (hpcs u x hu).2 (hpcs v x hv).2, fun x hx => ?_,
    fun u x hu => ?_, fun u x f hu => ?_, fun x f events hx => ?_,
    fun f x hx => hset x (h.callbacks f x hx), fun msg hm => hset _ (h.mailbox msg hm),
    fun x hx => hset x (h.this x hx),
    fun x f hx => hset x (h.removing x f (((hmem _).mp hx).resolve_right (by simp)))⟩
  · rw [show ((s.queueInLoop (.addEvent c fd .r)).setCaller t (.leaving c)).queue =
      (s.queueInLoop (.addEvent c fd .r)).queue from rfl, queue_queueInLoop, List.countP_append]
    by_cases hxc : c = x
    · subst hxc
      have hzero : s.queue.countP (adds c) = 0 := by
        refine List.countP_eq_zero.mpr fun task htask hadds => ?_
        cases task with
        | addEvent y f events =>
          obtain rfl : y = c := by simpa [adds] using hadds
          exact hnone f events htask
        | _ => cases hadds
      rw [hzero]
      simp [adds]
    · have hzero : [PendingTask.addEvent c fd .r].countP (adds x) = 0 := by simp [adds, hxc]
      rw [hzero]
      exact h.alone x hx
  · obtain ⟨hut, hu⟩ := hpcs u x hu
    obtain ⟨hkx, hno⟩ := h.notYet u x hu
    refine ⟨hkx, fun f events hx => ?_⟩
    rcases (hmem _).mp hx with hx | heq
    · exact hno f events hx
    · cases heq
      exact hut (h.once u t c hu hhands)
  · have hut : u ≠ t := by
      rintro rfl
      simp [EventLoop.setCaller] at hu
    refine hmapped x f (h.entered u x f ?_)
    simpa [EventLoop.setCaller, EventLoop.queueInLoop, hut] using hu
  · rcases (hmem _).mp hx with hx | heq
    · exact (h.queued x f events hx).imp_right fun hm hk => hmapped x f (hm hk)
    · cases heq
      exact ⟨hlt, fun _ => hmapped c fd (h.entered t c fd hpc)⟩

/-! ### Tasks -/

omit [DecidableEq Tid] in
/-- The `AddEvent` task of an awaited connection is its only one: it is awaited no more. -/
lemma Handover.settled_of_addEvent (h : Handover s) {c : ConnId} {fd : Fd} {events : Interest}
    {rest : List PendingTask} (hph : s.phase = .tasks (.addEvent c fd events :: rest)) :
    (s.setPhase (.tasks rest)).Settled c := by
  have hq := queue_of_tasks hph
  have hmem : .addEvent c fd events ∈ s.queue := by
    rw [hq]
    exact List.mem_cons_self
  refine ⟨(h.queued c fd events hmem).1, ?_⟩
  rintro ⟨hk, ⟨t, ht⟩ | ⟨f, ev, hf⟩⟩
  · exact (h.notYet t c ht).2 fd events hmem
  · have hone := h.alone c hk
    rw [hq, List.countP_cons_of_pos (by simp [adds])] at hone
    have hpos : 0 < (s.setPhase (.tasks rest)).queue.countP (adds c) :=
      List.countP_pos_iff.mpr ⟨_, hf, by simp [adds]⟩
    omega

omit [DecidableEq Tid] in
/-- The task of `AddEvent`. -/
lemma Handover.taskAddEvent (h : Handover s) {c : ConnId} {fd : Fd} {events : Interest}
    {rest : List PendingTask} (hph : s.phase = .tasks (.addEvent c fd events :: rest)) :
    Handover ((s.setPhase (.tasks rest)).addEvent c fd events) := by
  exact (h.pop hph).addEvent (h.settled_of_addEvent hph)

/-- The task of `RemoveConnection`: its number has no awaited connection. -/
lemma Handover.taskRemove (h : Handover s) (ht : Tables s) {c : ConnId} {fd : Fd}
    {rest : List PendingTask} (hph : s.phase = .tasks (.removeConnection c fd :: rest)) :
    Handover ((s.setPhase (.tasks rest)).removeConnection fd) := by
  refine Handover.closes ?_ (removeConnection_eq (s.setPhase (.tasks rest)) fd)
  have hmem : .removeConnection c fd ∈ s.queue := by
    rw [queue_of_tasks hph]
    exact List.mem_cons_self
  refine (h.pop hph).keeps ⟨rfl, rfl, fun _ => .inl rfl, List.Sublist.refl _, fun f x hx ha => ?_⟩
    (fun f x hx => ?_) (fun _ => id) fun _ => id
  · have hf : f ≠ fd := by
      rintro rfl
      exact (h.mapped ht ((awaits_pop hph).awaited ha) hx).2 c hmem
    simpa [hf] using hx
  · have hf : f ≠ fd := by
      rintro rfl
      simp [EventLoop.removeEvent] at hx
    simpa [EventLoop.removeEvent, hf] using hx

omit [DecidableEq Tid] in
lemma handover_start : Handover (start Tid) where
  once := fun _ _ _ h => by cases h
  alone := fun _ _ => Nat.zero_le _
  notYet := fun _ _ h => by cases h
  entered := fun _ _ _ h => by cases h
  queued := fun _ _ _ h => by cases h
  callbacks := fun _ _ h => by cases h
  mailbox := fun _ h => by cases h
  this := fun _ h => by cases h
  removing := fun _ _ h => by cases h

end EventLoop

end Balabala
