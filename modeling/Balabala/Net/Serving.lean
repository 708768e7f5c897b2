import Balabala.Net.Ownership

/-!
# The loop thread inside a callback

The steps of the loop thread between two tasks keep the tables in order, and so `Tables` holds in
every reachable state. The number that `HandleRead` or `HandleWrite` was given is always the
connection's own, even after `RemoveConnection` was called for it.
-/

namespace Balabala.EventLoop

open Foundation PendingTask

variable {Tid : Type*} {s : EventLoop Tid}

/-! ### Callbacks -/

/-- The callback of a fired event finds the connection that has the number. -/
lemma Tables.serving_callback (h : Tables s) (hev : s.InEvents) {fd : Fd} {o c : ConnId}
    (hcall : s.callbacks fd = some o) (hget : s.getConnection fd = some c)
    (ha : s.alive c = true) (hk : s.kind c ≠ .acceptor) : s.Serving c fd := by
  rw [EventLoop.getConnection] at hget
  cases hm : s.mapConn fd with
  | some d =>
    obtain rfl : d = c := by simpa [hm] using hget
    exact ⟨h.fds_of_conn hm, .inl hm⟩
  | none =>
    have hraw : s.mapConnRaw fd = some c := by simpa [hm] using hget
    have hcalled : s.Called fd := ⟨by simp [hcall], hm⟩
    have hfd : s.fds fd = some c := by
      by_contra hne
      exact (h.stale fd ⟨c, hraw, ha, hne⟩).2 hev hcalled
    obtain ⟨hkc, -, hreg⟩ := h.raw fd c hraw
    have hcon : s.kind c = .connector := by
      cases hkind : s.kind c with
      | connection => exact absurd hkind hkc
      | acceptor => exact absurd hkind hk
      | connector => rfl
    exact ⟨hfd, .inr ⟨hcon, ha, hreg hcon⟩⟩

lemma callback_cases (s : EventLoop Tid) (e : FiredEvent) :
    s.callback e = .idle ∨ s.callback e = .accepting ∨
      ∃ o c, s.callbacks e.fd = some o ∧ s.getConnection e.fd = some c ∧ s.alive c = true ∧
        s.kind c ≠ .acceptor ∧
        (s.callback e = .reading c e.fd e.epollout ∨ s.callback e = .writing c e.fd) := by
  rw [callback]
  split
  next o c hcall hget =>
    by_cases ha : s.alive c = true
    · rw [if_pos ha]
      split
      · by_cases hin : e.epollin = true
        · exact .inr (.inl (if_pos hin))
        · exact .inl (if_neg hin)
      · exact .inl rfl
      · exact .inl rfl
      next hk _ =>
        by_cases hin : e.epollin = true ∧ ¬ s.isConnecting c = true
        · exact .inr (.inr ⟨o, c, hcall, hget, ha, hk, .inl (if_pos hin)⟩)
        rw [if_neg hin]
        by_cases hout : e.epollout = true
        · exact .inr (.inr ⟨o, c, hcall, hget, ha, hk, .inr (if_pos hout)⟩)
        · exact .inl (if_neg hout)
    · exact .inl (if_neg ha)
  next => exact .inl rfl

lemma callback_failing (s : EventLoop Tid) (e : FiredEvent) :
    (s.callback e).failing = false := by
  rcases callback_cases s e with h | h | ⟨o, c, -, -, -, -, h | h⟩ <;> rw [h] <;> rfl

lemma Tables.loopOk_callback (h : Tables s) (hev : s.InEvents) (e : FiredEvent) :
    s.LoopOk (s.callback e) := by
  rcases callback_cases s e with hc | hc | ⟨o, c, hcall, hget, ha, hk, hc | hc⟩ <;> rw [hc]
  · trivial
  · trivial
  · exact h.serving_callback hev hcall hget ha hk
  · exact h.serving_callback hev hcall hget ha hk

lemma sameTables_setLoop (s : EventLoop Tid) (pc : LoopPc) : SameTables s (s.setLoop pc) :=
  ⟨⟨rfl, rfl, rfl, rfl, rfl, rfl, rfl, fun _ => id⟩, rfl, rfl, rfl, fun _ _ => .inl,
    fun _ _ _ => id, fun _ => id, id⟩

/-- The loop thread goes on to another place, outside a failed connect. -/
lemma Tables.setLoop (h : Tables s) {pc : LoopPc} (hf : s.loop.failing = false)
    (hbusy : pc ≠ .idle → s.InEvents) (hpc : s.LoopOk pc) : Tables (s.setLoop pc) :=
  h.moved (sameTables_setLoop s pc) hf hbusy ((sameTables_setLoop s pc).loopOk hpc)

/-- Inside a callback the loop thread goes on to another place. -/
lemma Tables.goOn (h : Tables s) {pc pc' : LoopPc} (hloop : s.loop = pc) (hne : pc ≠ .idle)
    (hf : pc.failing = false) (hpc : s.LoopOk pc') : Tables (s.setLoop pc') := by
  subst hloop
  exact h.setLoop hf (fun _ => h.busy hne) hpc

lemma Tables.callback (h : Tables s) {e : FiredEvent} {rest : List FiredEvent}
    (hpc : s.loop = .idle) (hph : s.phase = .events (e :: rest)) :
    Tables ((s.setPhase (.events rest)).setLoop (s.callback e)) := by
  have hpop : Unmoved s (s.setPhase (.events rest)) := unmoved_events hph
  refine (h.unmoved hpop).setLoop ?_ (fun _ => ⟨rest, rfl⟩)
    (hpop.loopOk (h.loopOk_callback ⟨_, hph⟩ e))
  rw [hpop.loop, hpc]
  rfl

/-! ### Accepting -/

/-- `accept` returns a free number. -/
lemma Tables.accept (h : Tables s) {fd : Fd} (hpc : s.loop = .accepting) (hfd : s.fds fd = none) :
    Tables ((s.create fd .connection .ready false).setLoop (.addConnection s.created fd)) := by
  have hloop : (s.create fd .connection .ready false).loop = .accepting := hpc
  refine (h.create hfd rfl fun hreg => absurd hreg (by simp [Stage.unregistered])).goOn hloop
    (by simp) rfl ?_
  simp [LoopOk, EventLoop.create]

/-- The loop thread calls `AddConnection`. -/
lemma Tables.addConnection (h : Tables s) {c : ConnId} {fd : Fd}
    (hpc : s.loop = .addConnection c fd) :
    Tables ((s.addConnection c fd).setLoop (.addEvent c fd)) := by
  have hloop := h.loop
  rw [hpc] at hloop
  obtain ⟨hk, hst, hsock, hrefs⟩ := hloop
  have hfd : s.fds fd = some c := h.fds_connection hk (alive_eq hst) hsock
  have hnone : s.mapConn fd = none := by
    by_contra hne
    obtain ⟨d, hd⟩ := Option.ne_none_iff_exists'.mp hne
    obtain rfl : c = d := (h.eq_of_conn hfd hd).symm
    have := (h.conn fd c hd).2.2.2
    simp [hrefs] at this
  have hmem : ∀ x r, r ∈ s.refs x →
      r ∈ Function.update s.refs c (.mapConn :: s.refs c) x := by
    intro x r hr
    by_cases hx : x = c
    · subst hx
      simp [hr]
    · simpa [hx] using hr
  rw [EventLoop.addConnection]
  simp only [hnone]
  refine { h with
    held := fun x f ha hx => .inl ((h.held x f ha hx).resolve_right (by simp [hpc]))
    conn := fun f x hx => ?_
    loop := by simp [EventLoop.setLoop, LoopOk]
    busy := fun _ => h.busy (by simp [hpc])
    stale := fun f hs => ?_
    callers := fun t x hx => ?_
    accepted := fun t x f hx => ?_ }
  · by_cases hf : f = fd
    · subst hf
      obtain rfl : c = x := by simpa [EventLoop.setLoop] using hx
      exact ⟨hk, hst, hsock, by simp [EventLoop.setLoop]⟩
    · obtain ⟨hkx, hstx, hsx, hr⟩ := h.conn f x (by simpa [EventLoop.setLoop, hf] using hx)
      exact ⟨hkx, hstx, hsx, hmem x _ hr⟩
  · refine (h.stale f hs).imp_right fun hcalled hev hc => hcalled hev ⟨hc.1, ?_⟩
    by_cases hf : f = fd
    · rw [hf]
      exact hnone
    · simpa [EventLoop.setLoop, hf] using hc.2
  · obtain ⟨hlt, hh⟩ := h.callers t x hx
    exact ⟨hlt, fun hkx => ⟨(hh hkx).1, hmem x _ (hh hkx).2⟩⟩
  · have hx : s.callers t = .accepted x f := hx
    obtain ⟨hkx, hsx, hrx⟩ := h.accepted t x f hx
    have hxc : x ≠ c := by
      rintro rfl
      simp [hrefs] at hrx
    exact ⟨hkx, hsx, by simpa [EventLoop.setLoop, hxc] using hrx⟩

/-- The loop thread calls `AddEvent` for the accepted connection. -/
lemma Tables.addEvent (h : Tables s) {c : ConnId} {fd : Fd} {pc : LoopPc}
    (hpc : s.loop = .addEvent c fd) (hnext : pc = .accepting ∨ pc = .idle) :
    Tables ((s.addEvent c fd .r).setLoop pc) := by
  have hmap : s.mapConn fd = some c := by
    have hloop := h.loop
    rwa [hpc] at hloop
  have htables : Tables (s.addEvent c fd .r) := by
    rw [EventLoop.addEvent]
    split_ifs
    · have hloop' : ({ s with
          epoll := Function.update s.epoll fd (some .r)
          callbacks := Function.update s.callbacks fd (some c) } : EventLoop Tid).loop =
          .addEvent c fd := hpc
      refine { h with
        loop := by rw [hloop']; exact hmap
        stale := fun f hs => (h.stale f hs).imp_right fun hcalled hev hc => hcalled hev ?_ }
      by_cases hf : f = fd
      · subst hf
        exact absurd (hmap.symm.trans hc.2) (by simp)
      · simpa [Called, hf] using hc
    · exact h
  have hloop : (s.addEvent c fd .r).loop = .addEvent c fd := by
    obtain ⟨_, _, he⟩ := addEvent_eq s c fd .r
    rw [he]
    exact hpc
  apply htables.goOn hloop (by simp) rfl
  rcases hnext with rfl | rfl <;> trivial

/-! ### Reading and writing -/

lemma afterRead_failing (c : ConnId) (fd : Fd) (out : Bool) :
    (afterRead c fd out).failing = false := by
  cases out <;> rfl

lemma loopOk_afterRead {c : ConnId} {fd : Fd} (h : s.Serving c fd) (out : Bool) :
    s.LoopOk (afterRead c fd out) := by
  cases out with
  | false => trivial
  | true => exact h

lemma Tables.serving_reading (h : Tables s) {c : ConnId} {fd : Fd} {out : Bool}
    (hpc : s.loop = .reading c fd out) : s.Serving c fd := by
  have hloop := h.loop
  rwa [hpc] at hloop

lemma Tables.serving_writing (h : Tables s) {c : ConnId} {fd : Fd}
    (hpc : s.loop = .writing c fd) : s.Serving c fd := by
  have hloop := h.loop
  rwa [hpc] at hloop

/-- `HandleRead` at the end of the stream. -/
lemma Tables.recvEof (h : Tables s) {c : ConnId} {fd : Fd} {out : Bool}
    (hpc : s.loop = .reading c fd out) :
    Tables ((s.queueInLoop (.removeConnection c fd)).setLoop (afterRead c fd out)) := by
  have hserving : (s.queueInLoop (.removeConnection c fd)).Serving c fd := h.serving_reading hpc
  exact (h.queueInLoop (.removeConnection c fd)).goOn hpc (by simp) rfl
    (loopOk_afterRead hserving out)

lemma Tables.recvDone (h : Tables s) {c : ConnId} {fd : Fd} {out : Bool}
    (hpc : s.loop = .reading c fd out) : Tables (s.setLoop (afterRead c fd out)) :=
  h.goOn hpc (by simp) rfl (loopOk_afterRead (h.serving_reading hpc) out)

/-- `HandleWrite` is done. -/
lemma Tables.written (h : Tables s) {s' : EventLoop Tid} {c : ConnId} {fd : Fd}
    (hpc : s.loop = .writing c fd) (e : Unmoved s s') : Tables (s'.setLoop .idle) :=
  (h.unmoved e).goOn (e.loop.trans hpc) (by simp) rfl trivial

/-! ### A failed connect -/

/-- `RemoveConnection` is called after a failed connect. -/
lemma Tables.connectFailed (h : Tables s) {c : ConnId} {fd : Fd} (hpc : s.loop = .writing c fd)
    (hc : s.isConnecting c = true) : Tables (s.handleConnectFailed c fd) := by
  have hk : s.kind c = .connector := by simpa using (Bool.and_eq_true_iff.mp hc).1
  obtain ⟨hfd, hmap | hentered⟩ := h.serving_writing hpc
  · exact absurd ((h.conn fd c hmap).1.symm.trans hk) (by simp)
  have hev := h.busy (by simp [hpc])
  have hq : Tables ((s.endConnecting c).queueInLoop (.removeConnection c fd)) :=
    (h.unmoved (serves_endConnecting s c fd).quiet.unmoved).queueInLoop _
  exact { hq with
    held := fun x f ha hx => .inl ((hq.held x f ha hx).resolve_right fun hl => by
      have hl : s.loop = .clearSocket x f := hl
      simp [hpc] at hl)
    loop := ⟨hentered, hfd, removalDue_queueInLoop (s := s.endConnecting c) hev c fd⟩
    busy := fun _ => hev }

/-- The loop thread calls `RemoveEvent`. -/
lemma Tables.removeEvent (h : Tables s) {c : ConnId} {fd : Fd}
    (hpc : s.loop = .removeEvent c fd) :
    Tables ((s.removeEvent fd).setLoop (.close c fd)) := by
  have hloop := h.loop
  rw [hpc] at hloop
  refine { h with
    held := fun x f ha hx => .inl ((h.held x f ha hx).resolve_right (by simp [hpc]))
    loop := ⟨hloop.1, hloop.2.1, hloop.2.2, by simp [EventLoop.setLoop, EventLoop.removeEvent]⟩
    busy := fun _ => h.busy (by simp [hpc])
    stale := fun f hs => (h.stale f hs).imp_right fun hcalled hev hc => hcalled hev ?_ }
  by_cases hf : f = fd
  · subst hf
    have := hc.1
    simp [EventLoop.setLoop, EventLoop.removeEvent] at this
  · simpa [Called, EventLoop.setLoop, EventLoop.removeEvent, hf] using hc

/-- The loop thread calls `close`. -/
lemma Tables.close (h : Tables s) {c : ConnId} {fd f : Fd} (hpc : s.loop = .close c fd)
    (hsock : s.socket c = some f) : Tables ((s.closeFd f).setLoop (.clearSocket c fd)) := by
  have hloop := h.loop
  rw [hpc] at hloop
  obtain ⟨hentered, hfd, hdue, hcallback⟩ := hloop
  obtain rfl : fd = f := by simpa [hsock, eq_comm] using (h.fds fd c hfd).1
  have hfds : ∀ g x, ((s.closeFd fd).setLoop (.clearSocket c fd)).fds g = some x ↔
      g ≠ fd ∧ s.fds g = some x := by
    intro g x
    by_cases hg : g = fd
    · simp [hg, closeFd, EventLoop.setLoop]
    · simp [hg, closeFd, EventLoop.setLoop]
  refine { h with
    fds := fun g x hx => h.fds g x ((hfds g x).mp hx).2
    held := fun x g ha hx => ?_
    cleared := fun x hx g hg => h.cleared x hx g ((hfds g x).mp hg).2
    loop := ⟨hentered, fun g hg => ?_, hdue⟩
    busy := fun _ => h.busy (by simp [hpc])
    stale := fun g hs => ?_ }
  · rcases h.held x g ha hx with hg | hl
    · by_cases hxc : x = c
      · subst hxc
        obtain rfl := h.fds_unique hfd hg
        exact .inr rfl
      · refine .inl ((hfds g x).mpr ⟨?_, hg⟩)
        rintro rfl
        exact hxc (by simpa [hfd, eq_comm] using hg)
    · simp [hpc] at hl
  · obtain ⟨hne, hg⟩ := (hfds g c).mp hg
    exact hne (h.fds_unique hg hfd)
  · by_cases hg : g = fd
    · subst hg
      exact ⟨hdue, fun _ hc => hc.1 hcallback⟩
    · refine h.stale g ?_
      obtain ⟨x, hx, ha, hne⟩ := hs
      exact ⟨x, hx, ha, fun hgx => hne ((hfds g x).mpr ⟨hg, hgx⟩)⟩

/-- The loop thread sets `socket_` to -1. -/
lemma Tables.clearedSocket (h : Tables s) {c : ConnId} {fd : Fd}
    (hpc : s.loop = .clearSocket c fd) : Tables ((s.clearSocket c).setLoop .idle) := by
  have hloop := h.loop
  rw [hpc] at hloop
  have h' := h.clearSocket hloop.2.1
  have hloop' : (s.clearSocket c).loop = .clearSocket c fd := hpc
  refine { h' with
    held := fun x f ha hx => .inl ((h'.held x f ha hx).resolve_right fun hl => ?_)
    loop := trivial
    busy := fun hne => absurd rfl hne }
  obtain ⟨rfl, -⟩ : c = x ∧ fd = f := by simpa [hloop'] using hl
  simp [EventLoop.setLoop, EventLoop.clearSocket] at hx

/-! ### Every reachable state -/

lemma tables_start : Tables (start Tid) where
  fds := fun _ _ h => by cases h
  held := fun _ _ _ h => by cases h
  fresh := fun _ _ => rfl
  cleared := fun _ h => by cases h
  unregistered := fun _ h => by cases h
  conn := fun _ _ h => by cases h
  raw := fun _ _ h => by cases h
  loop := trivial
  busy := fun h => absurd rfl h
  stale := fun fd h => by
    obtain ⟨c, hc, -⟩ := h
    cases hc
  callers := fun _ _ h => by cases h
  accepted := fun _ _ _ h => by cases h

variable [DecidableEq Tid] {l : Action Tid} {s' : EventLoop Tid}

theorem Step.tables (hs : Step s l s') (h : Tables s) : Tables s' := by
  cases hs with
  | connect fd connecting hfd => exact h.create hfd rfl (by simp)
  | listen fd hfd => exact h.create hfd rfl (by simp)
  | constructAddEvent c fd events stage hst hsock hk =>
    exact h.constructAddEvent hst (by rcases hk with ⟨-, -, rfl⟩ | ⟨-, -, rfl⟩ <;> simp)
  | constructAddConnectionRaw c fd stage hst hsock hk =>
    exact h.constructAddConnectionRaw hst hsock hk
  | constructNotify c stage hst hstage => exact h.constructed (.inl hst) hstage
  | constructModify c fd hst hsock =>
    exact (h.unmoved (unmoved_queueInLoop fun _ => rfl)).constructed (.inr hst) (.inl rfl)
  | constructLate c hst hsock => exact h.constructed (.inr hst) (.inl rfl)
  | destroy c fd hk hst hthis hsock => exact h.destroy fd hk hst hthis
  | destroyClosed c hk hst hthis hsock => exact h.destroyClosed hk hst hthis
  | destructClose c fd hst hsock => exact h.destructClose hst hsock
  | destructClear c hst => exact h.destructClear hst
  | getConnection t fd c hpc hget ha => exact h.getConnection hget
  | getNothing t fd hpc => exact h
  | hold t c hpc hk hst =>
    refine h.unmoved (unmoved_setCaller (fun x hx => .inr ?_) (by simp))
    obtain rfl : c = x := by simpa [CallerPc.conn] using hx
    exact ⟨h.lt_of_stage (by simp [hst]), by simp [hk]⟩
  | send t c fd data hpc hsock ha hk hd =>
    exact h.unmoved
      (unmoved_setCaller (fun x hx => .inl (by simpa [CallerPc.conn, hpc] using hx)) (by simp))
  | sendNothing t c data hpc => exact h
  | queue t c fd data hpc =>
    have hq : Unmoved s (s.queueInLoop (.send c fd data)) := unmoved_queueInLoop fun _ => rfl
    have hpc' : (s.queueInLoop (.send c fd data)).callers t = .sending c fd data := hpc
    exact h.unmoved (hq.trans (unmoved_setCaller (fun x hx =>
      .inl (by simpa [CallerPc.conn, hpc'] using hx)) (by simp)))
  | release t c hpc => exact h.release hpc
  | acceptFor t fd hpc hfd => exact h.acceptFor hpc hfd
  | enterConnection t c fd hpc => exact h.enterConnection hpc
  | enterEvent t c fd hpc => exact h.enterEvent hpc
  | handle msg hmem => exact h.unmoved (unmoved_mailbox s (s.mailbox.erase msg))
  | protocolError msg hmem =>
    exact (h.unmoved (unmoved_mailbox s (s.mailbox.erase msg))).queueInLoop
      (.removeConnection msg.conn msg.fd)
  | wait fired hpc hph hf => exact h.wait hpc hph
  | swap hpc hph => exact h.unmoved (unmoved_swap hpc hph)
  | callback e rest hpc hph => exact h.callback hpc hph
  | taskAddEvent c fd events rest hpc hph => exact h.taskAddEvent hpc hph
  | taskModify fd events rest hpc hph =>
    exact h.unmoved
      ((unmoved_setPhase hpc hph fun _ => rfl).trans (quiet_modify _ fd events).unmoved)
  | taskRemove c fd rest hpc hph => exact h.taskRemove hpc hph
  | taskSend c origin fd f data rs rest s' hpc hph hget ha hk hsock hsend =>
    have hpop : Unmoved s (s.setPhase (.tasks rest)) := unmoved_setPhase hpc hph fun _ => rfl
    exact h.unmoved (hpop.trans (serves_sendInLoop hsend).quiet.unmoved)
  | taskDrop origin fd data rest hpc hph => exact h.unmoved (unmoved_setPhase hpc hph fun _ => rfl)
  | accept fd hpc hfd => exact h.accept hpc hfd
  | acceptDone hpc => exact h.goOn hpc (by simp) rfl trivial
  | addConnection c fd hpc => exact h.addConnection hpc
  | addEvent c fd pc hpc hnext => exact h.addEvent hpc hnext
  | recvData c fd out bytes hpc => exact h.unmoved (unmoved_mailbox s _)
  | recvEof c fd out hpc => exact h.recvEof hpc
  | recvDone c fd out r hpc hr => exact h.recvDone hpc
  | connected c fd hpc hc => exact h.written hpc (serves_handleConnected s c fd).quiet.unmoved
  | connectFailed c fd hpc hc => exact h.connectFailed hpc hc
  | handleWrite c fd rs t hpc hc hw => exact h.written hpc (serves_handleWrite hw).quiet.unmoved
  | removeEvent c fd hpc => exact h.removeEvent hpc
  | close c fd f hpc hsock => exact h.close hpc hsock
  | closeNothing c fd hpc hsock =>
    have hloop := h.loop
    rw [hpc] at hloop
    exact absurd (hsock.symm.trans (h.fds fd c hloop.2.1).1) (by simp)
  | clearSocket c fd hpc => exact h.clearedSocket hpc

/-- The tables are in order in every reachable state. -/
theorem tables_of_reachable (h : (machine Tid).Reachable s) : Tables s := by
  refine h.invariant (fun s hs => ?_) fun s l s' _ hi _ hs => (Step.of_next hs).tables hi
  rw [show s = start Tid from hs]
  exact tables_start

/-- Inside `HandleRead` and `HandleWrite` the number is the connection's own. -/
theorem serving_of_reachable (h : (machine Tid).Reachable s) {c : ConnId} {fd : Fd}
    (hpc : (∃ out, s.loop = .reading c fd out) ∨ s.loop = .writing c fd) :
    s.fds fd = some c ∧ s.socket c = some fd := by
  have ht := tables_of_reachable h
  have hfd : s.fds fd = some c := by
    rcases hpc with ⟨out, hpc⟩ | hpc
    · exact (ht.serving_reading hpc).1
    · exact (ht.serving_writing hpc).1
  exact ⟨hfd, (ht.fds fd c hfd).1⟩

/-! ### The beginning of a run -/

/-- An acceptor listens on descriptor 3, and the loop waits for its first connection. -/
def listenOn3 : List (Action Unit) :=
  [.listen 3, .construct 0, .construct 0, .wait [], .loop, .loop]

/-- The loop accepts a connection on descriptor 4. -/
def acceptOn4 : List (Action Unit) :=
  [.wait [⟨3, true, false⟩], .loop, .accept (some 4), .loop, .loop, .accept none, .loop]

end Balabala.EventLoop
