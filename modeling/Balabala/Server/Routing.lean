import Mathlib.Data.Int.CardIntervalMod
import Balabala.Server.Coherence

/-!
# Where a number leads, and who gets a connection

`SendToNetwork` looks the loop of a number up and then the number in that loop. Both tables are
written by the threads of all loops, and a number may be given out again in another loop as soon as
it is closed. `GetNextLoop` deals the connections out in turn.
-/

namespace Balabala.TcpServer

open Foundation

variable {s s' : TcpServer} {a : Action} {c : ConnId}

lemma coherent_start (id : ActorId) (n : Nat) : Coherent (start id n) where
  numbered := {
    socket := by
      rintro f c ⟨⟩
    held := by
      rintro f c ⟨⟩
    isOpen := by
      rintro c (hc | hc)
      · exact absurd rfl hc
      · cases hc
    worker := by
      rintro c ⟨⟩ }
  tables := ⟨fun _ => rfl, fun _ => rfl, fun _ => rfl, fun _ => rfl, fun _ => rfl⟩
  staged := {
    pc := fun _ => trivial
    events := fun _ hl => absurd rfl hl
    busy := by
      rintro c (hc | hc) <;> cases hc
    tasks := by
      rintro l t ⟨⟩
    once := fun _ => List.nodup_nil
    leaving := by
      rintro c ⟨⟩
    distinct := fun _ => List.nodup_nil
    fired := by
      rintro l e ⟨⟩ }

lemma coherent_of_reach {ok : TcpServer → Action → Prop} (h : machine.Reach ok s) :
    Coherent s := by
  induction h with
  | start hi =>
    obtain ⟨id, n, -, rfl⟩ := hi
    exact coherent_start id n
  | step _ _ hs ih => exact ih.next hs

/-! ### Where a number leads -/

/-- What the two lookups of `SendToNetwork` find, made at once. -/
def route (s : TcpServer) (fd : Fd) : Option ConnId := s.mapConn (s.getEventLoopByFd fd, fd)

/-- `GetEventLoopByFd` gives the loop of the connection that is open under the number, if that is
bound. -/
lemma Tables.getEventLoopByFd (h : Tables s) {fd : Fd} (hc : s.fds fd = some c) :
    s.getEventLoopByFd fd = if (s.life c).isBound then s.home c else .main := by
  rw [TcpServer.getEventLoopByFd, h.fdToLoop, hc, Option.filter_some]
  split_ifs <;> rfl

/-- At any time and over all loops, a number leads to the connection that is open under it, from
`BindFdToActor` until `UnbindFd`, and in the main loop as long as that is in the map. There is no
number under which two loops have a connection. -/
theorem route_eq_some_iff (h : machine.Reachable s) (fd : Fd) :
    (s.route fd = some c ↔ s.fds fd = some c ∧
      ((s.life c).isBound = true ∨ (s.life c).isMapped = true ∧ s.home c = .main)) ∧
    ∀ l l', (s.mapConn (l, fd)).isSome → (s.mapConn (l', fd)).isSome → l = l' := by
  have ht := (coherent_of_reach h).tables
  constructor
  · rw [route, ht.mapConn_eq_some]
    constructor
    · rintro ⟨hc, hhome, hmapped⟩
      refine ⟨hc, ?_⟩
      rw [ht.getEventLoopByFd hc] at hhome
      split_ifs at hhome with hbound
      · exact .inl hbound
      · exact .inr ⟨hmapped, hhome⟩
    · rintro ⟨hc, hlife⟩
      rw [ht.getEventLoopByFd hc]
      rcases hlife with hbound | ⟨hmapped, hhome⟩
      · rw [if_pos hbound]
        refine ⟨hc, rfl, ?_⟩
        cases hx : s.life c with
        | accepted | removed => rw [hx] at hbound; cases hbound
        | _ => rfl
      · rw [hhome, ite_self]
        exact ⟨hc, rfl, hmapped⟩
  · intro l l' hl hl'
    obtain ⟨d, hd⟩ := Option.isSome_iff_exists.mp hl
    obtain ⟨d', hd'⟩ := Option.isSome_iff_exists.mp hl'
    obtain ⟨hopen, hhome, -⟩ := ht.mapConn_eq_some.mp hd
    obtain ⟨hopen', hhome', -⟩ := ht.mapConn_eq_some.mp hd'
    obtain rfl := Option.some.inj (hopen.symm.trans hopen')
    exact hhome.symm.trans hhome'

/-- Two clients are given to two sub reactors, and the first is served. -/
def twoClients : List Action :=
  [.wait .main [], .listen, .accept (some 5), .loop .main, .loop .main, .loop .main, .loop .main,
    .accept (some 6), .loop .main, .loop .main, .loop .main, .loop .main, .accept none,
    .wait (.sub 0) [], .loop (.sub 0), .loop (.sub 0)]

lemma reachable_replay_start {id : ActorId} (hid : 0 < id) (n : Nat) (as : List Action) :
    machine.Reachable (machine.replay (start id n) as) := by
  apply Machine.reachable_replay
  apply Machine.Reach.start
  exact ⟨id, n, hid, rfl⟩

theorem route_eq_some_iff_twoClients :
    let s := machine.replay (start 1 2) twoClients
    s.home 0 = .sub 0 ∧ s.fds 5 = some 0 ∧ s.home 1 = .sub 1 ∧ s.fds 6 = some 1 := by
  intro s
  have hs : machine.Reachable s := reachable_replay_start (by decide) 2 twoClients
  have h5 : s.route 5 = some 0 := by decide +kernel
  have h6 : s.route 6 = some 1 := by decide +kernel
  exact ⟨by decide +kernel, ((route_eq_some_iff hs 5).1.mp h5).1, by decide +kernel,
    ((route_eq_some_iff hs 6).1.mp h6).1⟩

/-! ### Who gets a connection -/

/-- No connection is accepted. -/
structure SameConns (s s' : TcpServer) : Prop where
  serverActorId : s'.serverActorId = s.serverActorId
  subReactors : s'.subReactors = s.subReactors
  nextLoop : s'.nextLoop = s.nextLoop
  accepted : s'.accepted = s.accepted
  socket : s'.socket = s.socket
  home : s'.home = s.home

lemma SameConns.refl (s : TcpServer) : SameConns s s := ⟨rfl, rfl, rfl, rfl, rfl, rfl⟩

lemma SameConns.trans {s₁ s₂ s₃ : TcpServer} (h : SameConns s₁ s₂) (h' : SameConns s₂ s₃) :
    SameConns s₁ s₃ :=
  ⟨h'.1.trans h.1, h'.2.trans h.2, h'.3.trans h.3, h'.4.trans h.4, h'.5.trans h.5, h'.6.trans h.6⟩

lemma SameConns.setLoop (h : SameConns s s') (l : LoopId) (pc : LoopPc) :
    SameConns s (s'.setLoop l pc) := ⟨h.1, h.2, h.3, h.4, h.5, h.6⟩

lemma SameConns.release (h : SameConns s s') (c : ConnId) : SameConns s (s'.release c) := by
  rw [TcpServer.release]
  split_ifs <;> exact ⟨h.1, h.2, h.3, h.4, h.5, h.6⟩

lemma SameConns.addEvent (h : SameConns s s') (l : LoopId) (c : ConnId) (fd : Fd) :
    SameConns s (s'.addEvent l c fd) := by
  rw [TcpServer.addEvent]
  split_ifs <;> exact ⟨h.1, h.2, h.3, h.4, h.5, h.6⟩

lemma SameConns.afterRead (h : SameConns s s') (l : LoopId) (c : ConnId) (out : Bool) :
    SameConns s (s'.afterRead l c out) := by
  rw [TcpServer.afterRead]
  split_ifs
  · exact h.setLoop l _
  · exact (h.setLoop l _).release c

lemma sameConns_finishAccept (s : TcpServer) (l : LoopId) (c : ConnId) :
    SameConns s (s.finishAccept l c) := by
  rw [finishAccept]
  split_ifs
  · exact (((SameConns.refl s).addEvent l c _).setLoop l _).release c
  · exact (((SameConns.refl s).addEvent l c _).setLoop l _).release c
  · apply SameConns.release
    exact ⟨rfl, rfl, rfl, rfl, rfl, rfl⟩

lemma OutputOnly.sameConns (h : OutputOnly s s') : SameConns s s' := by
  obtain ⟨e, o, f, w, rfl, -⟩ := h
  exact ⟨rfl, rfl, rfl, rfl, rfl, rfl⟩

/-- Only `accept` deals out. -/
lemma sameConns_next (hs : machine.next s a = some s') (ha : ∀ fd, a ≠ .accept (some fd)) :
    SameConns s s' := by
  cases Step.of_next hs with
  | accept fd hl hfd hfree => exact absurd rfl (ha fd)
  | finishAccept l c hl => exact sameConns_finishAccept s l c
  | taskAddEvent l c fd rest hl hp =>
    apply SameConns.addEvent
    exact ⟨rfl, rfl, rfl, rfl, rfl, rfl⟩
  | taskRemove l c fd rest hl hp =>
    rw [removeConnection]
    split
    · exact ⟨rfl, rfl, rfl, rfl, rfl, rfl⟩
    · apply SameConns.release
      exact ⟨rfl, rfl, rfl, rfl, rfl, rfl⟩
  | recv l c out result hl hv =>
    cases result with
    | data bytes | eof => exact ⟨rfl, rfl, rfl, rfl, rfl, rfl⟩
    | eintr => exact .refl s
    | eagain | error => exact (SameConns.refl s).afterRead l c out
  | send l c out msg actorId hl =>
    rw [TcpServer.send]
    split_ifs <;> exact ⟨rfl, rfl, rfl, rfl, rfl, rfl⟩
  | requestRemoval l c out hl =>
    apply SameConns.afterRead
    exact ⟨rfl, rfl, rfl, rfl, rfl, rfl⟩
  | handleWrite l c rs s₁ hl hw =>
    exact ((outputOnly_handleWrite hw).sameConns.setLoop l .idle).release c
  | runSend l origin fd data rest rs s₁ hl hp hw =>
    obtain ⟨ran, ho⟩ := outputOnly_runSend hw
    have hran : SameConns s { s.setPhase l (.tasks rest) with ran } :=
      ⟨rfl, rfl, rfl, rfl, rfl, rfl⟩
    exact hran.trans ho.sameConns
  | sendConnected l c hl =>
    rw [sendConnected, send_eq]
    exact ⟨rfl, rfl, rfl, rfl, rfl, rfl⟩
  | release c hw =>
    apply SameConns.release
    exact ⟨rfl, rfl, rfl, rfl, rfl, rfl⟩
  | _ => exact ⟨rfl, rfl, rfl, rfl, rfl, rfl⟩

/-- The connections accepted so far were dealt out in turn. -/
structure DealtOut (s : TcpServer) : Prop where
  next : s.subReactors ≠ 0 → s.nextLoop = UInt64.ofNat s.accepted
  home : ∀ c < s.accepted, s.home c =
    if s.subReactors = 0 then .main else .sub (c % 2 ^ 64 % s.subReactors)

lemma DealtOut.handleAccept (h : DealtOut s) (fd : Fd) : DealtOut (s.handleAccept .main fd) where
  next hsub := by
    have hsub : s.subReactors ≠ 0 := hsub
    have hnext := h.next hsub
    simp only [TcpServer.handleAccept, if_neg hsub, hnext]
    exact (UInt64.ofNat_add s.accepted 1).symm
  home c hc := by
    show Function.update s.home s.accepted s.targetLoop c = _
    by_cases hca : c = s.accepted
    · subst hca
      rw [Function.update_self, targetLoop]
      by_cases hsub : s.subReactors = 0
      · rw [if_pos hsub]
        exact (if_pos hsub).symm
      · rw [if_neg hsub, h.next hsub]
        exact (if_neg hsub).symm
    · rw [Function.update_of_ne hca]
      exact h.home c (Nat.lt_of_le_of_ne (Nat.le_of_lt_succ hc) hca)

lemma dealtOut_of_reach (h : machine.Reachable s) : DealtOut s := by
  induction h with
  | start hi =>
    obtain ⟨id, n, -, rfl⟩ := hi
    exact ⟨fun _ => rfl, fun c hc => absurd hc (Nat.not_lt_zero c)⟩
  | @step s s' a _ _ hs ih =>
    by_cases ha : ∃ fd, a = .accept (some fd)
    · obtain ⟨fd, rfl⟩ := ha
      cases Step.of_next hs with
      | accept _ hl hfd hfree => exact ih.handleAccept fd
    · have hsame := sameConns_next hs (not_exists.mp ha)
      exact ⟨by rw [hsame.subReactors, hsame.nextLoop, hsame.accepted]; exact ih.next,
        by rw [hsame.subReactors, hsame.home, hsame.accepted]; exact ih.home⟩

/-- The number of connections that were given to a sub reactor. -/
def given (s : TcpServer) (i : Nat) : Nat := Nat.count (fun c => s.home c = .sub i) s.accepted

end Balabala.TcpServer
