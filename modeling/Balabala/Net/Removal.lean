import Balabala.Net.Handover
import Balabala.Net.Turn

/-!
# What a `RemoveConnection` task removes

`RemoveConnection` is asked for on behalf of an object and carries a bare number. The task removes
what belongs to its object as long as every step is `inTurn`: no object is entered into the tables
under a number for which the removal of another object still waits, `AddEvent` does not run for a
number that has passed to another object, and no protocol error of a former connection is handled
once the next one has registered. Runs that break the first of these exist
(`removes_successor`): a connect fails, and the socket is closed before the task runs.
-/

namespace Balabala.EventLoop

open Foundation PendingTask

variable {Tid : Type*}

/-- Whose entries there are under `fd`. -/
def EntryOf (s : EventLoop Tid) (fd : Fd) (c : ConnId) : Prop :=
  s.callbacks fd = some c ∨ s.mapConn fd = some c ∨ s.mapConnRaw fd = some c

/-- A removal that is about to run finds only what belongs to its object. -/
def RemovesOwn (s : EventLoop Tid) : Prop :=
  ∀ c fd rest, s.phase = .tasks (.removeConnection c fd :: rest) →
    (s.epoll fd ≠ none → s.fds fd = some c) ∧ ∀ o, s.EntryOf fd o → o = c

/-! ### The condition on the steps -/

/-- No removal of another object waits. -/
def removesOnly (s : EventLoop Tid) (fd : Fd) (c : ConnId) : Bool :=
  (s.tasksOn fd).all fun
    | .removeConnection x _ => x = c
    | _ => true

/-- The number is closed or belongs to `c`. -/
def belongsTo (s : EventLoop Tid) (fd : Fd) (c : ConnId) : Bool :=
  s.fds fd = none || s.fds fd = some c

def registered (s : EventLoop Tid) (fd : Fd) : Bool :=
  (s.epoll fd).isSome || (s.callbacks fd).isSome || (s.mapConn fd).isSome ||
    (s.mapConnRaw fd).isSome

/-- Something is registered under `fd` after the tasks that wait now. -/
def staysRegistered (s : EventLoop Tid) (fd : Fd) : Bool :=
  stays (s.registered fd) (s.tasksOn fd)

/-- The steps that respect the objects whose removal waits. -/
def inTurn (s : EventLoop Tid) : Action Tid → Bool
  | .construct c =>
    match s.stage c, s.socket c with
    | .addConnectionRaw, some fd => (s.mapConnRaw fd).isSome || s.removesOnly fd c
    | _, _ => true
  | .loop =>
    match s.loop, s.phase with
    | .addConnection c fd, _ => s.removesOnly fd c
    | .idle, .tasks (.addEvent c fd _ :: _) => (s.epoll fd).isSome || s.belongsTo fd c
    | _, _ => true
  | .enter t =>
    match s.callers t with
    | .accepted c fd => s.removesOnly fd c
    | _ => true
  | .handle msg true => s.belongsTo msg.fd msg.conn || !s.staysRegistered msg.fd
  | _ => true

/-! ### The invariant -/

def TurnAt (s : EventLoop Tid) (fd : Fd) : Prop :=
  Turn (s.tasksOn fd) (s.fds fd) s.Closing (s.EntryOf fd) (s.epoll fd ≠ none)

/-- Every removal will remove what belongs to its object; and a `Connection` has no callback once
it has left `mapConn_`. -/
structure Turns (s : EventLoop Tid) : Prop where
  turn : ∀ fd, s.TurnAt fd
  callback : ∀ fd c, s.callbacks fd = some c →
    c < s.created ∧ (s.kind c = .connection → s.mapConn fd = some c)

variable {s s' : EventLoop Tid}

lemma Turns.removesOwn (h : Turns s) : RemovesOwn s := by
  intro c fd rest hph
  have hfirst : firstRemoval (s.tasksOn fd) = some c := by
    rw [tasksOn_of_tasks hph (by simp [registers])]
    rfl
  refine ⟨fun hep => ?_, fun o ho => (due_of_some hfirst).mp ((h.turn fd).entries o ho)⟩
  obtain ⟨o, hfd, hdue⟩ := (h.turn fd).epoll hep
  obtain rfl := (due_of_some hfirst).mp hdue
  exact hfd

lemma firstRemoval_of_removesOnly {fd : Fd} {c : ConnId} (h : s.removesOnly fd c = true)
    (x : ConnId) (hx : firstRemoval (s.tasksOn fd) = some x) : x = c := by
  obtain ⟨f, hf⟩ := firstRemoval_mem hx
  simpa using List.all_eq_true.mp h _ hf

lemma registered_of_entry {fd : Fd} (h : (∃ o, s.EntryOf fd o) ∨ s.epoll fd ≠ none) :
    s.registered fd = true := by
  rw [registered]
  rcases h with ⟨o, ho | ho | ho⟩ | hep
  · simp [ho]
  · simp [ho]
  · simp [ho]
  · simp [Option.isSome_iff_ne_none.mpr hep]

/-! ### Steps that leave a number alone -/

lemma TurnAt.frame {fd : Fd} (h : s.TurnAt fd) (htasks : s'.tasksOn fd = s.tasksOn fd)
    (hfds : s'.fds fd = s.fds fd)
    (hclosing : ∀ c, s.fds fd = some c → s'.Closing c → s.Closing c)
    (hentry : ∀ c, s'.EntryOf fd c → s.EntryOf fd c)
    (hepoll : s'.epoll fd ≠ none → s.epoll fd ≠ none) : s'.TurnAt fd := by
  rw [TurnAt]
  rw [htasks, hfds]
  exact h.mono hclosing hentry hepoll

lemma Turns.frame (h : Turns s) (e : SameEntries s s')
    (hclosing : ∀ c, s'.Closing c → s.Closing c) : Turns s' where
  turn := fun fd => (h.turn fd).frame (congrFun e.tasksOn fd) (congrFun e.fds fd)
    (fun c _ => hclosing c)
    (by simp only [EntryOf, e.callbacks, e.mapConn, e.mapConnRaw]; exact fun _ => id)
    (e.epoll fd)
  callback := by
    rw [e.callbacks, e.created, e.kind, e.mapConn]
    exact h.callback

lemma Turns.unmoved (h : Turns s) (e : Unmoved s s') : Turns s' :=
  h.frame e.toSameEntries fun c hc => by simpa only [Closing, e.stage, e.loop] using hc

lemma Turns.relays (h : Turns s) (e : Relays s s') : Turns s' := by
  have hentries := e.sameEntries
  obtain ⟨_, _, _, rfl, -⟩ := e
  exact h.frame hentries fun _ => id

lemma not_closing {c : ConnId} (hst : s.stage c ≠ .close) (hthis : s.loop.this ≠ some c) :
    ¬ s.Closing c := by
  rintro (hc | ⟨fd, hc | hc⟩)
  · exact hst hc
  · simp [hc, LoopPc.this] at hthis
  · simp [hc, LoopPc.this] at hthis

lemma closing_of_setStage {c x : ConnId} {stage : Stage} (hst : stage ≠ .close)
    (h : (s.setStage c stage).Closing x) : s.Closing x := by
  rcases h with h | h
  · by_cases hx : x = c
    · subst hx
      rw [setStage_self] at h
      exact absurd h hst
    · rw [setStage_of_ne stage hx] at h
      exact .inl h
  · exact .inr h

lemma closing_of_setLoop {c : ConnId} {pc : LoopPc}
    (hpc : ∀ fd, pc ≠ .removeEvent c fd ∧ pc ≠ .close c fd) (h : (s.setLoop pc).Closing c) :
    s.Closing c := by
  rcases h with h | ⟨fd, h | h⟩
  · exact .inl h
  · exact absurd h (hpc fd).1
  · exact absurd h (hpc fd).2

lemma not_failing {pc : LoopPc} (hpc : pc.failing = false) (c : ConnId) (fd : Fd) :
    pc ≠ .removeEvent c fd ∧ pc ≠ .close c fd := by
  constructor <;> rintro rfl <;> cases hpc

lemma Turns.setStage (h : Turns s) {c : ConnId} {stage : Stage} (hst : stage ≠ .close) :
    Turns (s.setStage c stage) :=
  h.frame ⟨rfl, rfl, rfl, rfl, rfl, rfl, rfl, fun _ => id⟩ fun _ => closing_of_setStage hst

lemma Turns.goOn (h : Turns s) {pc : LoopPc}
    (hpc : ∀ c fd, pc ≠ .removeEvent c fd ∧ pc ≠ .close c fd) : Turns (s.setLoop pc) :=
  h.frame ⟨rfl, rfl, rfl, rfl, rfl, rfl, rfl, fun _ => id⟩ fun c => closing_of_setLoop (hpc c)

lemma Turns.setLoop (h : Turns s) {pc : LoopPc} (hpc : pc.failing = false) :
    Turns (s.setLoop pc) :=
  h.goOn fun c fd => not_failing hpc c fd

lemma Turns.setCaller [DecidableEq Tid] (h : Turns s) {t : Tid} {pc : CallerPc} :
    Turns (s.setCaller t pc) :=
  h.frame ⟨rfl, rfl, rfl, rfl, rfl, rfl, rfl, fun _ => id⟩ fun _ => id

lemma Turns.clearSocket (h : Turns s) (c : ConnId) : Turns (s.clearSocket c) :=
  h.frame ⟨rfl, rfl, rfl, rfl, rfl, rfl, rfl, fun _ => id⟩ fun _ => id

/-! ### Numbers are opened and closed -/

lemma Turns.create (h : Turns s) (ht : Tables s) {fd : Fd} {kind : ConnKind} {stage : Stage}
    {connecting : Bool} (hfd : s.fds fd = none) :
    Turns (s.create fd kind stage connecting) where
  turn := fun f => by
    by_cases hf : f = fd
    · subst hf
      have hturn := h.turn f
      rw [TurnAt] at hturn
      rw [hfd] at hturn
      exact hturn.opened (fun _ => id) id
    · refine (h.turn f).frame rfl (create_fds_of_ne hf) (fun c hc hcl => ?_) (fun _ => id) id
      rw [Closing] at hcl
      rwa [create_stage_of_ne (ht.ne_of_fds hc)] at hcl
  callback := fun f c hc => by
    obtain ⟨hlt, hk⟩ := h.callback f c hc
    refine ⟨Nat.lt_succ_of_lt hlt, ?_⟩
    rw [create_kind_of_ne (Nat.ne_of_lt hlt)]
    exact hk

/-- A number is closed by its holder, who has asked for its removal or has left nothing behind. -/
lemma Turns.closeFd (h : Turns s) {fd : Fd}
    (hgone : ∀ o, s.fds fd = some o →
      s.Closing o ∨ ¬ s.EntryOf fd o ∧ ∀ f events, .addEvent o f events ∉ s.queue) :
    Turns (s.closeFd fd) where
  turn := fun f => by
    by_cases hf : f = fd
    · subst hf
      have hfds : (s.closeFd f).fds f = none := by simp [EventLoop.closeFd]
      have hep : (s.closeFd f).epoll f = none := by simp [EventLoop.closeFd]
      have hturn : Turn (s.tasksOn f) none s.Closing (s.EntryOf f)
          (none ≠ (none : Option Interest)) := by
        refine (h.turn f).closed (fun o ho => ?_) (fun _ => id) (fun hne => hne rfl)
        obtain ⟨he, hno⟩ := (hgone o ho.1).resolve_left ho.2
        exact ⟨he, fun g events hadd => hno g events (List.mem_filter.mp hadd).1⟩
      rw [TurnAt]
      rw [hfds, hep]
      exact hturn
    · exact (h.turn f).frame rfl (by simp [EventLoop.closeFd, hf]) (fun _ _ => id) (fun _ => id)
        (by simp [EventLoop.closeFd, hf])
  callback := h.callback

/-- The last pointer to a `Connection` that has left the tables goes away. -/
lemma Turns.dropRef [DecidableEq Tid] (h : Turns s) {c : ConnId} {r : Ref Tid}
    (hgone : s.kind c = .connection → (s.refs c).erase r = [] → ∀ fd, s.socket c = some fd →
      s.fds fd = some c ∧ ¬ s.EntryOf fd c ∧ ∀ f events, .addEvent c f events ∉ s.queue) :
    Turns (s.dropRef c r) := by
  have hrefs : Turns { s with refs := Function.update s.refs c ((s.refs c).erase r) } :=
    h.frame ⟨rfl, rfl, rfl, rfl, rfl, rfl, rfl, fun _ => id⟩ fun _ => id
  unfold EventLoop.dropRef
  dsimp only
  split_ifs with hc
  · rw [destroyConnection]
    split
    next => exact hrefs.setStage (by simp)
    next fd hsock =>
      obtain ⟨hfd, he⟩ := hgone hc.2 hc.1 fd hsock
      refine (hrefs.closeFd fun o ho => .inr ?_).setStage (by simp)
      obtain rfl : c = o := by simpa [hfd] using ho
      exact he
  · exact hrefs

/-- A thread lets go of its pointer. -/
lemma Turns.release [DecidableEq Tid] (h : Turns s) (ht : Tables s) (hh : Handover s) {t : Tid}
    {c : ConnId} (hpc : s.callers t = .holding c ∨ s.callers t = .leaving c) :
    Turns ((s.setCaller t .idle).dropRef c (.thread t)) := by
  refine Turns.dropRef h.setCaller fun hk hnil fd hsock => ?_
  have hk : s.kind c = .connection := hk
  have hconn : (s.callers t).conn = some c := by
    rcases hpc with hpc | hpc <;> simp [hpc, CallerPc.conn]
  have hst : s.stage c = .ready := ((ht.callers t c hconn).2 hk).1
  have hmap : ∀ f, s.mapConn f ≠ some c := by
    intro f hf
    have hnil : (s.refs c).erase (.thread t) = [] := hnil
    have := (List.mem_erase_of_ne (b := .thread t) (by simp)).mpr (ht.conn f c hf).2.2.2
    simp [hnil] at this
  refine ⟨ht.fds_connection hk (alive_eq hst) hsock, ?_, fun f events hmem => ?_⟩
  · rintro (hcb | hconn | hraw)
    · exact hmap fd ((h.callback fd c hcb).2 hk)
    · exact hmap fd hconn
    · exact (ht.raw fd c hraw).1 hk
  · exact hmap f ((hh.queued c f events hmem).2 hk).1

/-! ### Removals are requested -/

/-- `RemoveConnection` is called for `c`, and nothing stays that belongs to another object. -/
lemma Turns.removing (h : Turns s) (ht : Tables s) {c : ConnId} {fd : Fd}
    (hc : s.belongsTo fd c = true ∨ s.staysRegistered fd = false)
    (hq : s'.queue = s.queue ++ [.removeConnection c fd]) (hfds : s'.fds = s.fds)
    (hepoll : s'.epoll = s.epoll) (hcb : s'.callbacks = s.callbacks)
    (hconn : s'.mapConn = s.mapConn) (hraw : s'.mapConnRaw = s.mapConnRaw)
    (hcr : s'.created = s.created) (hk : s'.kind = s.kind)
    (hclosing : ∀ x, s'.Closing x → s.Closing x ∨ s.fds fd = some x) : Turns s' where
  turn := fun f => by
    have hentry : s'.EntryOf f = s.EntryOf f := by
      funext x
      simp only [EntryOf, hcb, hconn, hraw]
    by_cases hf : f = fd
    · subst hf
      have htasks : s'.tasksOn f = s.tasksOn f ++ [.removeConnection c f] := by
        simp [tasksOn, hq, List.filter_append, registers]
      rw [TurnAt]
      rw [htasks, hfds, hentry, hepoll]
      refine (h.turn f).queueRemove c f registered_of_entry (fun hs o ho => ?_) _
      have hb : s.belongsTo f c = true := hc.resolve_right fun hno => by
        rw [staysRegistered, hs] at hno
        cases hno
      simpa [belongsTo, ho] using hb
    · refine (h.turn f).frame ?_ (congrFun hfds f) (fun x hx hcl => ?_)
        (by rw [hentry]; exact fun _ => id) (by rw [hepoll]; exact id)
      · simp [tasksOn, hq, List.filter_append, registers, Ne.symm hf]
      · exact (hclosing x hcl).resolve_right fun hfd => hf (ht.fds_unique hx hfd)
  callback := by
    rw [hcb, hcr, hk, hconn]
    exact h.callback

lemma Turns.queueRemove (h : Turns s) (ht : Tables s) {c : ConnId} {fd : Fd}
    (hc : s.belongsTo fd c = true ∨ s.staysRegistered fd = false) :
    Turns (s.queueInLoop (.removeConnection c fd)) :=
  h.removing ht hc (queue_queueInLoop s _) rfl rfl rfl rfl rfl rfl rfl fun _ => .inl

/-- `~Connector` calls `RemoveConnection`. -/
lemma Turns.destroy (h : Turns s) (ht : Tables s) {c : ConnId} {fd : Fd}
    (hst : s.stage c = .ready) (hthis : s.loop.this ≠ some c) (hsock : s.socket c = some fd) :
    Turns ((s.queueInLoop (.removeConnection c fd)).setStage c .close) := by
  have hfd : s.fds fd = some c := by
    refine (ht.held c fd (.inl (alive_eq hst)) hsock).resolve_right
      fun hl => hthis ?_
    rw [hl]
    rfl
  refine h.removing ht (c := c) (.inl (by simp [belongsTo, hfd])) (queue_queueInLoop s _)
    rfl rfl rfl rfl rfl rfl rfl fun x hx => ?_
  by_cases hxc : x = c
  · exact .inr (hxc ▸ hfd)
  · unfold Closing at hx ⊢
    rw [setStage_of_ne _ hxc] at hx
    exact .inl hx

/-- `RemoveConnection` is called after a failed connect. -/
lemma Turns.connectFailed (h : Turns s) (ht : Tables s) {c : ConnId} {fd : Fd}
    (hpc : s.loop = .writing c fd) : Turns (s.handleConnectFailed c fd) := by
  have hfd := (ht.serving_writing hpc).1
  refine h.removing ht (c := c) (.inl (by simp [belongsTo, hfd]))
    (queue_queueInLoop (s.endConnecting c) _) rfl rfl rfl rfl rfl rfl rfl fun x hx => ?_
  rcases hx with hx | ⟨f, hx | hx⟩
  · exact .inl (.inl hx)
  · obtain ⟨rfl, -⟩ : c = x ∧ fd = f := by
      simpa [handleConnectFailed, EventLoop.setLoop] using hx
    exact .inr hfd
  · cases hx

/-! ### Objects are entered -/

lemma held_of_unregistered (ht : Tables s) {c : ConnId} {fd : Fd}
    (hst : (s.stage c).unregistered = true) (hsock : s.socket c = some fd) :
    Held (s.fds fd) s.Closing c := by
  refine ⟨ht.fds_of_unregistered hst hsock,
    not_closing (fun hc => ?_) (ht.not_this_of_unregistered hst)⟩
  rw [hc] at hst
  cases hst

/-- Only a connector closes its own number. -/
lemma not_closing_of_connection (ht : Tables s) {c : ConnId} (hk : s.kind c = .connection)
    (hst : s.stage c = .ready) : ¬ s.Closing c := by
  have hloop := ht.loop
  rintro (hc | ⟨f, hc | hc⟩)
  · simp [hst] at hc
  all_goals
    rw [hc] at hloop
    exact absurd (hk.symm.trans hloop.1.1) (by simp)

lemma held_of_accepted (ht : Tables s) {t : Tid} {c : ConnId} {fd : Fd}
    (hpc : s.callers t = .accepted c fd) : Held (s.fds fd) s.Closing c := by
  have hk := (ht.accepted t c fd hpc).1
  have hst := ((ht.callers t c (by simp [hpc, CallerPc.conn])).2 hk).1
  exact ⟨ht.fds_of_accepted hpc, not_closing_of_connection ht hk hst⟩

lemma held_of_mapped (ht : Tables s) {c : ConnId} {fd : Fd} (hc : s.mapConn fd = some c) :
    Held (s.fds fd) s.Closing c :=
  ⟨ht.fds_of_conn hc, not_closing_of_connection ht (ht.conn fd c hc).1 (ht.conn fd c hc).2.1⟩

/-- `AddEvent` is called for the holder of a number. -/
lemma Turns.queueAddEvent (h : Turns s) {c : ConnId} {fd : Fd} {events : Interest}
    (hheld : Held (s.fds fd) s.Closing c) : Turns (s.queueInLoop (.addEvent c fd events)) where
  turn := fun f => by
    by_cases hf : fd = f
    · subst hf
      rw [TurnAt]
      rw [tasksOn_queueInLoop (by simp [registers])]
      exact (h.turn fd).queueAdd hheld fd events
    · exact (h.turn f).frame (tasksOn_queueInLoop_of_not (by simpa [registers] using hf)) rfl
        (fun _ _ => id) (fun _ => id) id
  callback := h.callback

/-- The constructor calls `AddConnectionRaw`. -/
lemma Turns.addConnectionRaw (h : Turns s) {c : ConnId} {fd : Fd}
    (hc : s.mapConnRaw fd = none → Due (Held (s.fds fd) s.Closing) (s.tasksOn fd) c) :
    Turns (s.addConnectionRaw c fd) := by
  rw [EventLoop.addConnectionRaw]
  cases hm : s.mapConnRaw fd with
  | some d => exact h
  | none =>
    refine ⟨fun f => ?_, h.callback⟩
    by_cases hf : f = fd
    · subst hf
      refine (h.turn f).enter (hc hm) (fun o ho => ?_) .inl
      rcases ho with ho | ho | ho
      · exact .inl (.inl ho)
      · exact .inl (.inr (.inl ho))
      · exact .inr (by simpa [eq_comm] using ho)
    · refine (h.turn f).frame rfl rfl (fun _ _ => id) (fun x hx => ?_) id
      simpa [EntryOf, hf] using hx

/-- `AddConnection` is called for the holder of a number, in whatever thread. -/
lemma Turns.addConnection (h : Turns s) {c : ConnId} {fd : Fd}
    (hheld : Held (s.fds fd) s.Closing c) (hok : s.removesOnly fd c = true) :
    Turns (s.addConnection c fd) := by
  rw [EventLoop.addConnection]
  cases hm : s.mapConn fd with
  | some d => exact h
  | none =>
    refine ⟨fun f => ?_, fun f x hx => ?_⟩
    · by_cases hf : f = fd
      · subst hf
        refine (h.turn f).enter (due_of_held hheld (firstRemoval_of_removesOnly hok))
          (fun o ho => ?_) .inl
        rcases ho with ho | ho | ho
        · exact .inl (.inl ho)
        · exact .inr (by simpa [eq_comm] using ho)
        · exact .inl (.inr (.inr ho))
      · refine (h.turn f).frame rfl rfl (fun _ _ => id) (fun x hx => ?_) id
        simpa [EntryOf, hf] using hx
    · obtain ⟨hlt, hconn⟩ := h.callback f x hx
      refine ⟨hlt, fun hkx => ?_⟩
      have hfx := hconn hkx
      have hf : f ≠ fd := by
        rintro rfl
        simp [hm] at hfx
      simpa [hf] using hfx

/-- `epoll_ctl` and the new callback, for an object whose turn it is. -/
lemma Turns.addEvent (h : Turns s) {c : ConnId} {fd : Fd} {events : Interest}
    (hlt : c < s.created) (hk : s.kind c = .connection → s.mapConn fd = some c)
    (hdue : Due (Held (s.fds fd) s.Closing) (s.tasksOn fd) c)
    (hfd : s.epoll fd = none → s.fds fd ≠ none → s.fds fd = some c) :
    Turns (s.addEvent c fd events) := by
  rw [EventLoop.addEvent]
  split_ifs with hadd
  · have hmine := hfd hadd.2 (Option.isSome_iff_ne_none.mp hadd.1)
    refine ⟨fun f => ?_, fun f x hx => ?_⟩
    · by_cases hf : f = fd
      · subst hf
        refine (h.turn f).enter hdue (fun o ho => ?_) fun _ => .inr hmine
        rcases ho with ho | ho
        · exact .inr (by simpa [eq_comm] using ho)
        · exact .inl (.inr ho)
      · refine (h.turn f).frame rfl rfl (fun _ _ => id) (fun x hx => ?_) (by simp [hf])
        simpa [EntryOf, hf] using hx
    · by_cases hf : f = fd
      · subst hf
        obtain rfl : c = x := by simpa using hx
        exact ⟨hlt, hk⟩
      · exact h.callback f x (by simpa [hf] using hx)
  · exact h

/-! ### Tasks -/

/-- An `AddEvent` task has been taken from the batch: its object is due. -/
lemma Turns.popAddEvent (h : Turns s) {c : ConnId} {fd : Fd} {events : Interest}
    {rest : List PendingTask} (hph : s.phase = .tasks (.addEvent c fd events :: rest)) :
    Turns (s.setPhase (.tasks rest)) ∧
      Due (Held (s.fds fd) s.Closing) ((s.setPhase (.tasks rest)).tasksOn fd) c := by
  have hturn := h.turn fd
  rw [TurnAt] at hturn
  rw [tasksOn_of_tasks hph (by simp [registers])] at hturn
  refine ⟨⟨fun f => ?_, h.callback⟩, hturn.follows.1⟩
  by_cases hf : f = fd
  · subst hf
    exact ⟨hturn.entries, hturn.follows.2, hturn.epoll⟩
  · exact (h.turn f).frame
      (tasksOn_of_tasks_of_not hph (by simpa [registers, eq_comm] using hf)) rfl
      (fun _ _ => id) (fun _ => id) id

/-- The task of `AddEvent`, for a number that has not passed to another object. -/
lemma Turns.taskAddEvent (h : Turns s) (hh : Handover s) {c : ConnId} {fd : Fd}
    {events : Interest} {rest : List PendingTask}
    (hph : s.phase = .tasks (.addEvent c fd events :: rest))
    (hok : ((s.epoll fd).isSome || s.belongsTo fd c) = true) :
    Turns ((s.setPhase (.tasks rest)).addEvent c fd events) := by
  obtain ⟨hpop, hdue⟩ := h.popAddEvent hph
  obtain ⟨hlt, hmapped⟩ := hh.queued c fd events (by
    rw [queue_of_tasks hph]
    exact List.mem_cons_self)
  refine hpop.addEvent hlt (fun hk => (hmapped hk).1) hdue fun hep hfd => ?_
  have hep : s.epoll fd = none := hep
  have hfd : s.fds fd ≠ none := hfd
  have hmine : s.fds fd = some c := by simpa [hep, hfd, belongsTo] using hok
  exact hmine

/-- The task of `RemoveConnection`. -/
lemma Turns.taskRemove [DecidableEq Tid] (h : Turns s) (ht : Tables s) (hh : Handover s)
    {c : ConnId} {fd : Fd} {rest : List PendingTask}
    (hph : s.phase = .tasks (.removeConnection c fd :: rest)) :
    Turns ((s.setPhase (.tasks rest)).removeConnection fd) := by
  have hturns : Turns { (s.setPhase (.tasks rest)).removeEvent fd with
      mapConn := Function.update s.mapConn fd none
      mapConnRaw := Function.update s.mapConnRaw fd none } := by
    refine ⟨fun f => ?_, fun f x hx => ?_⟩
    · by_cases hf : f = fd
      · subst hf
        have hturn := h.turn f
        rw [TurnAt] at hturn
        rw [tasksOn_of_tasks hph (by simp [registers])] at hturn
        refine hturn.removed (fun o ho => ?_) ?_
        · simp [EntryOf, EventLoop.removeEvent] at ho
        · simp [EventLoop.removeEvent]
      · refine (h.turn f).frame ?_ rfl (fun _ _ => id) (fun x hx => ?_) ?_
        · exact tasksOn_of_tasks_of_not hph (by simpa [registers, eq_comm] using hf)
        · simpa [EntryOf, EventLoop.removeEvent, setPhase, hf] using hx
        · simp [EventLoop.removeEvent, setPhase, hf]
    · have hf : f ≠ fd := by
        rintro rfl
        simp [EventLoop.removeEvent] at hx
      have hx : s.callbacks f = some x := by
        simpa [EventLoop.removeEvent, setPhase, hf] using hx
      obtain ⟨hlt, hconn⟩ := h.callback f x hx
      exact ⟨hlt, fun hk => by simpa [hf] using hconn hk⟩
  rw [EventLoop.removeConnection]
  cases hm : s.mapConn fd with
  | none =>
    have hm' : (s.setPhase (.tasks rest)).mapConn fd = none := hm
    simp only [hm']
    exact hturns
  | some x =>
    have hm' : (s.setPhase (.tasks rest)).mapConn fd = some x := hm
    simp only [hm']
    refine hturns.dropRef fun hk _ f hsock => ?_
    have hk : s.kind x = .connection := hk
    have hsock : s.socket x = some f := hsock
    obtain rfl : fd = f := by simpa [hsock, eq_comm] using (ht.conn fd x hm).2.2.1
    refine ⟨ht.fds_of_conn hm, by simp [EntryOf, EventLoop.removeEvent], fun f events hmem => ?_⟩
    have hmem : .addEvent x f events ∈ s.queue := by
      rw [queue_of_tasks hph]
      exact List.mem_cons_of_mem _ hmem
    refine (hh.mapped ht ⟨hk, .inr ⟨f, events, hmem⟩⟩ hm).2 c ?_
    rw [queue_of_tasks hph]
    exact List.mem_cons_self

/-- The loop thread calls `RemoveEvent` after a failed connect. -/
lemma Turns.removeEvent (h : Turns s) {c : ConnId} {fd : Fd} (hpc : s.loop = .removeEvent c fd) :
    Turns ((s.removeEvent fd).setLoop (.close c fd)) := by
  have hcallback : ∀ f x, (s.removeEvent fd).callbacks f = some x → s.callbacks f = some x := by
    intro f x hx
    have hf : f ≠ fd := by
      rintro rfl
      simp [EventLoop.removeEvent] at hx
    simpa [EventLoop.removeEvent, hf] using hx
  refine ⟨fun f => ?_, fun f x hx => h.callback f x (hcallback f x hx)⟩
  refine (h.turn f).frame rfl rfl (fun x _ hx => ?_) (fun x hx => hx.imp_left (hcallback f x))
    fun hep => ?_
  · rcases hx with hx | ⟨g, hx | hx⟩
    · exact .inl hx
    · cases hx
    · obtain ⟨rfl, -⟩ : c = x ∧ fd = g := by simpa [EventLoop.setLoop] using hx
      exact .inr ⟨fd, .inl hpc⟩
  · have hf : f ≠ fd := by
      rintro rfl
      simp [EventLoop.setLoop, EventLoop.removeEvent] at hep
    simpa [EventLoop.setLoop, EventLoop.removeEvent, hf] using hep

/-! ### Runs -/

lemma turns_start : Turns (start Tid) where
  turn := fun fd =>
    ⟨fun o ho => absurd ho (by rintro (h | h | h) <;> cases h), trivial, fun h => absurd rfl h⟩
  callback := fun _ _ h => by cases h

variable [DecidableEq Tid] {l : Action Tid}

lemma Step.turns (hs : Step s l s') (ht : Tables s) (hh : Handover s) (h : Turns s)
    (hok : s.inTurn l = true) : Turns s' := by
  cases hs with
  | connect fd connecting hfd => exact h.create ht hfd
  | listen fd hfd => exact h.create ht hfd
  | constructAddEvent c fd events stage hst hsock hk =>
    have hheld := held_of_unregistered ht (by simp [hst, Stage.unregistered]) hsock
    apply (h.queueAddEvent hheld).setStage
    rcases hk with ⟨-, -, rfl⟩ | ⟨-, -, rfl⟩ <;> simp
  | constructAddConnectionRaw c fd stage hst hsock hk =>
    have hheld := held_of_unregistered ht (by simp [hst, Stage.unregistered]) hsock
    refine (h.addConnectionRaw fun hm => due_of_held hheld ?_).setStage ?_
    · exact firstRemoval_of_removesOnly (by simpa [inTurn, hst, hsock, hm] using hok)
    · rcases hk with ⟨-, rfl⟩ | ⟨-, rfl⟩ <;> simp
  | constructNotify c stage hst hstage =>
    apply h.setStage
    rcases hstage with rfl | rfl <;> simp
  | constructModify c fd hst hsock =>
    exact (h.unmoved (unmoved_queueInLoop fun _ => rfl)).setStage (by simp)
  | constructLate c hst hsock => exact h.setStage (by simp)
  | destroy c fd hk hst hthis hsock => exact h.destroy ht hst hthis hsock
  | destroyClosed c hk hst hthis hsock => exact h.setStage (by simp)
  | destructClose c fd hst hsock =>
    refine (h.closeFd fun o ho => .inl (.inl ?_)).setStage (by simp)
    obtain rfl : o = c := by
      have := (ht.held c fd (.inr hst) hsock).resolve_right fun hl => by
        have := (ht.registered_of_this (c := c) (by simp [hl, LoopPc.this])).1
        simp [alive, hst, Stage.alive] at this
      simpa [this, eq_comm] using ho
    exact hst
  | destructClear c hst => exact (h.clearSocket c).setStage (by simp)
  | getConnection t fd c hpc hget ha =>
    exact h.frame ⟨rfl, rfl, rfl, rfl, rfl, rfl, rfl, fun _ => id⟩ fun _ => id
  | getNothing t fd hpc => exact h
  | hold t c hpc hk hst => exact h.setCaller
  | send t c fd data hpc hsock ha hk hd => exact h.setCaller
  | sendNothing t c data hpc => exact h
  | queue t c fd data hpc =>
    have hq : Unmoved s (s.queueInLoop (.send c fd data)) := unmoved_queueInLoop fun _ => rfl
    exact (h.unmoved hq).setCaller
  | release t c hpc => exact h.release ht hh hpc
  | acceptFor t fd hpc hfd =>
    have hnew : Turns (s.create fd .connection .ready false) := h.create ht hfd
    exact hnew.frame ⟨rfl, rfl, rfl, rfl, rfl, rfl, rfl, fun _ => id⟩ fun _ => id
  | enterConnection t c fd hpc =>
    have hok : s.removesOnly fd c = true := by simpa [inTurn, hpc] using hok
    exact (h.addConnection (held_of_accepted ht hpc) hok).setCaller
  | enterEvent t c fd hpc =>
    have hheld := held_of_mapped ht (hh.entered t c fd hpc).1
    exact (h.queueAddEvent hheld).setCaller
  | handle msg hmem => exact h.relays (relays_mailbox s (s.mailbox.erase msg))
  | protocolError msg hmem =>
    have hc : s.belongsTo msg.fd msg.conn = true ∨ s.staysRegistered msg.fd = false := by
      simpa [inTurn] using hok
    exact h.removing ht hc (queue_queueInLoop _ _) rfl rfl rfl rfl rfl rfl rfl fun _ => .inl
  | wait fired hpc hph hf => exact h.relays (relays_wait hph)
  | swap hpc hph => exact h.relays (relays_swap hph)
  | callback e rest hpc hph => exact (h.relays (relays_events hph)).setLoop (callback_failing s e)
  | taskAddEvent c fd events rest hpc hph =>
    exact h.taskAddEvent hh hph (by simpa [inTurn, hpc, hph] using hok)
  | taskModify fd events rest hpc hph =>
    exact h.unmoved
      ((unmoved_setPhase hpc hph fun _ => rfl).trans (quiet_modify _ fd events).unmoved)
  | taskRemove c fd rest hpc hph => exact h.taskRemove ht hh hph
  | taskSend c origin fd f data rs rest s' hpc hph hget ha hk hsock hsend =>
    have hpop : Unmoved s (s.setPhase (.tasks rest)) := unmoved_setPhase hpc hph fun _ => rfl
    exact h.unmoved (hpop.trans (serves_sendInLoop hsend).quiet.unmoved)
  | taskDrop origin fd data rest hpc hph => exact h.unmoved (unmoved_setPhase hpc hph fun _ => rfl)
  | accept fd hpc hfd => exact (h.create ht hfd).setLoop rfl
  | acceptDone hpc => exact h.setLoop rfl
  | addConnection c fd hpc =>
    have hloop := ht.loop
    rw [hpc] at hloop
    have hfd := ht.fds_connection hloop.1 (alive_eq hloop.2.1) hloop.2.2.1
    have hheld : Held (s.fds fd) s.Closing c :=
      ⟨hfd, not_closing_of_connection ht hloop.1 hloop.2.1⟩
    exact (h.addConnection hheld (by simpa [inTurn, hpc] using hok)).setLoop rfl
  | addEvent c fd pc hpc hnext =>
    have hmap : s.mapConn fd = some c := by
      have hloop := ht.loop
      rwa [hpc] at hloop
    have hfd := ht.fds_of_conn hmap
    refine (h.addEvent (ht.fds fd c hfd).2 (fun _ => hmap)
      ((h.turn fd).entries c (.inr (.inl hmap))) fun _ _ => hfd).setLoop ?_
    rcases hnext with rfl | rfl <;> rfl
  | recvData c fd out bytes hpc => exact h.relays (relays_mailbox s _)
  | recvEof c fd out hpc =>
    have hfd := (ht.serving_reading hpc).1
    exact (h.queueRemove ht (.inl (by simp [belongsTo, hfd]))).setLoop (afterRead_failing c fd out)
  | recvDone c fd out r hpc hr => exact h.setLoop (afterRead_failing c fd out)
  | connected c fd hpc hc =>
    exact (h.unmoved (serves_handleConnected s c fd).quiet.unmoved).setLoop rfl
  | connectFailed c fd hpc hc => exact h.connectFailed ht hpc
  | handleWrite c fd rs t hpc hc hw =>
    exact (h.unmoved (serves_handleWrite hw).quiet.unmoved).setLoop rfl
  | removeEvent c fd hpc => exact h.removeEvent hpc
  | close c fd f hpc hsock =>
    have hloop := ht.loop
    rw [hpc] at hloop
    have hclosed : Turns (s.closeFd f) := by
      refine h.closeFd fun o ho => .inl (.inr ⟨fd, .inr ?_⟩)
      obtain rfl : fd = f := by simpa [hsock, eq_comm] using (ht.fds fd c hloop.2.1).1
      obtain rfl : c = o := by simpa [hloop.2.1] using ho
      exact hpc
    exact hclosed.goOn (by simp)
  | closeNothing c fd hpc hsock => exact h.goOn (by simp)
  | clearSocket c fd hpc => exact (h.clearSocket c).setLoop rfl

omit [DecidableEq Tid] in
/-- No removal is asked for under the number of an awaited connection. -/
lemma Handover.removes_settled (hh : Handover s) (ht : Tables s) {msg : NetworkRecv}
    (hmem : msg ∈ s.mailbox)
    (hok : s.belongsTo msg.fd msg.conn = true ∨ s.staysRegistered msg.fd = false) (x : ConnId)
    (hx : s.Awaited x) : s.mapConn msg.fd ≠ some x := by
  intro hconn
  have hfd := ht.fds_of_conn hconn
  rcases hok with hb | hno
  · have hxc : x = msg.conn := by simpa [belongsTo, hfd] using hb
    exact (hh.mailbox msg hmem).2 (hxc ▸ hx)
  · have hnone : firstRemoval (s.tasksOn msg.fd) = none := by
      by_contra hne
      obtain ⟨c, hc⟩ := Option.ne_none_iff_exists'.mp hne
      obtain ⟨f, hf⟩ := firstRemoval_mem hc
      obtain ⟨hq, hr⟩ := List.mem_filter.mp hf
      obtain rfl : f = msg.fd := by simpa [registers] using hr
      exact (hh.mapped ht hx hconn).2 c hq
    have hreg := registered_of_entry (.inl ⟨x, .inr (.inl hconn)⟩)
    rw [staysRegistered, hreg, stays_of_firstRemoval hnone] at hno
    cases hno

omit [DecidableEq Tid] in
/-- The callback of a fired event is not of an awaited connection. -/
lemma Turns.settled_callback (h : Turns s) (ht : Tables s) (hh : Handover s) (e : FiredEvent)
    {c : ConnId} (hthis : (s.callback e).this = some c) (hev : s.InEvents) : s.Settled c := by
  have hfound : ∃ o, s.callbacks e.fd = some o ∧ s.getConnection e.fd = some c ∧
      s.alive c = true ∧ s.kind c ≠ .acceptor := by
    rcases callback_cases s e with hc | hc | ⟨o, x, hcall, hget, ha, hk, hc | hc⟩ <;>
      rw [hc] at hthis
    · cases hthis
    · cases hthis
    all_goals
      obtain rfl : x = c := by simpa [LoopPc.this] using hthis
      exact ⟨o, hcall, hget, ha, hk⟩
  obtain ⟨o, hcall, hget, ha, hk⟩ := hfound
  refine ⟨ht.lt_of_alive ha, fun hx => ?_⟩
  rcases (ht.serving_callback hev hcall hget ha hk).2 with hconn | hentered
  · -- its number has no removal, so the callback is its own
    have hnone : firstRemoval (s.tasksOn e.fd) = none := by
      by_contra hne
      obtain ⟨y, hy⟩ := Option.ne_none_iff_exists'.mp hne
      obtain ⟨f, hf⟩ := firstRemoval_mem hy
      obtain ⟨hq, hr⟩ := List.mem_filter.mp hf
      obtain rfl : f = e.fd := by simpa [registers] using hr
      exact (hh.mapped ht hx hconn).2 y hq
    have hheld := (due_of_none hnone).mp ((h.turn e.fd).entries o (.inl hcall))
    obtain rfl : c = o := by simpa [ht.fds_of_conn hconn] using hheld.1
    exact (hh.callbacks e.fd c hcall).2 hx
  · exact absurd (hx.1.symm.trans hentered.1) (by simp)

lemma Step.handover (hs : Step s l s') (ht : Tables s) (h : Turns s) (hh : Handover s)
    (hok : s.inTurn l = true) : Handover s' := by
  cases hs with
  | connect fd connecting hfd => exact hh.create ht
  | listen fd hfd => exact hh.create ht
  | constructAddEvent c fd events stage hst hsock hk =>
    have hlt := ht.lt_of_stage (c := c) (by simp [hst])
    refine (hh.queueInLoop (fun x f ev hx => ?_) fun x f hx => by cases hx).setStage c stage
    cases hx
    exact ⟨hlt, ht.unregistered c (by simp [hst, Stage.unregistered])⟩
  | constructAddConnectionRaw c fd stage hst hsock hk =>
    obtain ⟨_, he⟩ := addConnectionRaw_eq s c fd
    have hentered : Handover (s.addConnectionRaw c fd) := by
      rw [he]
      exact hh.same (awaits_of_eq rfl rfl rfl rfl rfl) rfl rfl rfl
    exact hentered.setStage c stage
  | constructNotify c stage hst hstage => exact hh.setStage c stage
  | constructModify c fd hst hsock =>
    exact (hh.queueInLoop (fun _ _ _ hx => by cases hx) fun _ _ hx => by cases hx).setStage c _
  | constructLate c hst hsock => exact hh.setStage c _
  | destroy c fd hk hst hthis hsock =>
    have hset : s.Settled c := settled_of_kind (ht.lt_of_stage (by simp [hst])) (by simp [hk])
    have hfd : s.fds fd = some c := by
      refine (ht.held c fd (.inl (alive_eq hst)) hsock).resolve_right fun hl => hthis ?_
      rw [hl]
      rfl
    exact (hh.queueRemoval hset fun _ => ht.eq_of_conn hfd).setStage c _
  | destroyClosed c hk hst hthis hsock => exact hh.setStage c _
  | destructClose c fd hst hsock =>
    exact hh.same (awaits_of_eq rfl rfl rfl rfl rfl) rfl rfl rfl
  | destructClear c hst => exact hh.same (awaits_of_eq rfl rfl rfl rfl rfl) rfl rfl rfl
  | getConnection t fd c hpc hget ha =>
    have hset : Handover (s.setCaller t (.holding c)) := hh.setCaller rfl
    exact hset.same (awaits_of_eq rfl rfl rfl rfl rfl) rfl rfl rfl
  | getNothing t fd hpc => exact hh
  | hold t c hpc hk hst => exact hh.setCaller rfl
  | send t c fd data hpc hsock ha hk hd => exact hh.setCaller rfl
  | sendNothing t c data hpc => exact hh
  | queue t c fd data hpc =>
    have hqueued : Handover (s.queueInLoop (.send c fd data)) :=
      hh.queueInLoop (fun _ _ _ hx => by cases hx) fun _ _ hx => by cases hx
    exact hqueued.setCaller rfl
  | release t c hpc =>
    have hset : Handover (s.setCaller t .idle) := hh.setCaller rfl
    exact hset.closes (closes_dropRef _ c (.thread t))
  | acceptFor t fd hpc hfd => exact hh.acceptFor ht hpc
  | enterConnection t c fd hpc =>
    have hok : s.removesOnly fd c = true := by simpa [inTurn, hpc] using hok
    refine hh.enterConnection ht hpc fun x hx => ?_
    simpa using List.all_eq_true.mp hok _ (List.mem_filter.mpr ⟨hx, by simp [registers]⟩)
  | enterEvent t c fd hpc => exact hh.enterEvent ht hpc
  | handle msg hmem =>
    exact hh.relays (relays_mailbox s _) fun m hm => .inl (List.mem_of_mem_erase hm)
  | protocolError msg hmem =>
    have hc : s.belongsTo msg.fd msg.conn = true ∨ s.staysRegistered msg.fd = false := by
      simpa [inTurn] using hok
    have hmail : Handover { s with mailbox := s.mailbox.erase msg } :=
      hh.relays (relays_mailbox s _) fun m hm => .inl (List.mem_of_mem_erase hm)
    refine hmail.queueInLoop (fun _ _ _ hx => by cases hx) fun x f hx => ?_
    cases hx
    exact ⟨hh.mailbox msg hmem, fun y hy => hh.removes_settled ht hmem hc y hy⟩
  | wait fired hpc hph hf => exact hh.relays (relays_wait hph) fun _ => .inl
  | swap hpc hph => exact hh.relays (relays_swap hph) fun _ => .inl
  | callback e rest hpc hph =>
    have hpop : Handover (s.setPhase (.events rest)) :=
      hh.relays (relays_events hph) fun _ => .inl
    have hq : (s.setPhase (.events rest)).queue = s.queue := by
      simp [EventLoop.queue, setPhase, hph]
    have e' : Awaits s (s.setPhase (.events rest)) := awaits_of_eq rfl rfl rfl hq rfl
    exact hpop.setLoop fun c hc => .inr (e'.settled (h.settled_callback ht hh e hc ⟨_, hph⟩))
  | taskAddEvent c fd events rest hpc hph => exact hh.taskAddEvent hph
  | taskModify fd events rest hpc hph => exact (hh.pop hph).quiet (quiet_modify _ fd events)
  | taskRemove c fd rest hpc hph => exact hh.taskRemove ht hph
  | taskSend c origin fd f data rs rest s' hpc hph hget ha hk hsock hsend =>
    exact (hh.pop hph).quiet (serves_sendInLoop hsend).quiet
  | taskDrop origin fd data rest hpc hph => exact hh.pop hph
  | accept fd hpc hfd => exact hh.accept ht
  | acceptDone hpc => exact hh.setLoop fun c hc => by cases hc
  | addConnection c fd hpc =>
    refine (hh.addConnection c fd).setLoop fun x hx => .inr ?_
    obtain rfl : c = x := by simpa [LoopPc.this] using hx
    exact (awaits_addConnection s c fd).settled (hh.this c (by simp [hpc, LoopPc.this]))
  | addEvent c fd pc hpc hnext =>
    have hset := hh.this c (by simp [hpc, LoopPc.this])
    refine (hh.addEvent hset).setLoop fun x hx => ?_
    rcases hnext with rfl | rfl <;> cases hx
  | recvData c fd out bytes hpc =>
    have hset := hh.this c (by simp [hpc, LoopPc.this])
    refine hh.relays (relays_mailbox s _) fun m hm => ?_
    rcases List.mem_append.mp hm with hm | hm
    · exact .inl hm
    · rw [List.mem_singleton.mp hm]
      exact .inr hset
  | recvEof c fd out hpc =>
    have hset := hh.this c (by simp [hpc, LoopPc.this])
    have hfd := (ht.serving_reading hpc).1
    have hqueued : Handover (s.queueInLoop (.removeConnection c fd)) :=
      hh.queueRemoval hset fun _ => ht.eq_of_conn hfd
    refine hqueued.setLoop fun x hx => .inl ?_
    rw [show (s.queueInLoop (.removeConnection c fd)).loop = s.loop from rfl, hpc]
    cases out <;> simp_all [afterRead, LoopPc.this]
  | recvDone c fd out r hpc hr =>
    refine hh.setLoop fun x hx => .inl ?_
    rw [hpc]
    cases out <;> simp_all [afterRead, LoopPc.this]
  | connected c fd hpc hc =>
    exact (hh.quiet (serves_handleConnected s c fd).quiet).setLoop fun x hx => by cases hx
  | connectFailed c fd hpc hc =>
    have hset := hh.this c (by simp [hpc, LoopPc.this])
    have hfd := (ht.serving_writing hpc).1
    have hended : Handover (s.endConnecting c) := hh.quiet (serves_endConnecting s c fd).quiet
    have hqueued : Handover ((s.endConnecting c).queueInLoop (.removeConnection c fd)) :=
      hended.queueRemoval hset fun _ => ht.eq_of_conn hfd
    refine hqueued.setLoop fun x hx => .inl ?_
    rw [show ((s.endConnecting c).queueInLoop (.removeConnection c fd)).loop = s.loop from rfl,
      hpc]
    exact hx
  | handleWrite c fd rs t hpc hc hw =>
    exact (hh.quiet (serves_handleWrite hw).quiet).setLoop fun x hx => by cases hx
  | removeEvent c fd hpc =>
    have hremoved : Handover (s.removeEvent fd) := by
      refine hh.keeps (awaits_of_eq rfl rfl rfl rfl rfl) (fun f x hx => ?_) (fun _ => id)
        fun _ => id
      have hf : f ≠ fd := by
        rintro rfl
        simp [EventLoop.removeEvent] at hx
      simpa [EventLoop.removeEvent, hf] using hx
    refine hremoved.setLoop fun x hx => .inl ?_
    rw [show (s.removeEvent fd).loop = s.loop from rfl, hpc]
    exact hx
  | close c fd f hpc hsock =>
    refine hh.keeps (awaits_of_eq rfl rfl rfl rfl rfl) (fun _ _ => id) (fun _ => id) fun x hx => ?_
    rw [hpc]
    exact hx
  | closeNothing c fd hpc hsock =>
    refine hh.setLoop fun x hx => .inl ?_
    rw [hpc]
    exact hx
  | clearSocket c fd hpc =>
    exact hh.keeps (awaits_of_eq rfl rfl rfl rfl rfl) (fun _ _ => id) (fun _ => id) fun x hx => by
      cases hx

lemma turns_of_reach (h : (machine Tid).Reach (fun s l => s.inTurn l = true) s) : Turns s := by
  suffices hboth : Turns s ∧ Handover s from hboth.1
  refine h.invariant (P := fun s => Turns s ∧ Handover s) (fun s hs => ?_)
    fun s l s' hr hi hok hs => ?_
  · rw [show s = start Tid from hs]
    exact ⟨turns_start, handover_start⟩
  · have ht := tables_of_reachable hr.reachable
    have hstep := Step.of_next hs
    exact ⟨hstep.turns ht hi.2 hi.1 hok, hstep.handover ht hi.1 hi.2 hok⟩

/-- In a run whose steps are in turn, a removal finds only what belongs to its object. -/
theorem removes_own (h : (machine Tid).Reach (fun s l => s.inTurn l = true) s) : RemovesOwn s :=
  (turns_of_reach h).removesOwn

/-- A connection comes to its end, and its removal is about to run. -/
theorem removes_own_at_eof :
    let s := (machine Unit).replayWith (fun s l => s.inTurn l = true) (start Unit)
      (listenOn3 ++ acceptOn4 ++ [.wait [⟨4, true, false⟩], .loop, .recv .eof, .loop])
    s.phase = .tasks [.removeConnection 1 4] ∧ s.mapConn 4 = some 1 ∧ s.RemovesOwn := by
  intro s
  exact ⟨rfl, by decide, removes_own (Machine.reach_replayWith reach_start _)⟩

/-- A connector is refused while a client waits to be accepted. -/
def refusedThenAccept : List (Action Unit) :=
  listenOn3 ++
  -- the connector has descriptor 4
  [.connect 4 true, .construct 1, .construct 1, .construct 1, .wait [], .loop, .loop] ++
  -- one batch: the connect has failed, so 4 is closed, and the client gets it
  [.wait [⟨4, false, true⟩, ⟨3, true, false⟩], .loop, .connected false, .loop, .loop, .loop] ++
  [.loop, .accept (some 4), .loop, .loop, .accept none, .loop]

/-- The removal that a failed connect asked for finds the connection that was accepted after it. -/
theorem removes_successor : ¬ ∀ s : EventLoop Unit, (machine Unit).Reachable s → RemovesOwn s := by
  intro h
  let s := (machine Unit).replay (start Unit) refusedThenAccept
  have hs : (machine Unit).Reachable s := Machine.reachable_replay reach_start _
  have hphase : s.phase = .tasks [.removeConnection 1 4] := rfl
  have hentry : s.EntryOf 4 2 := .inl (by decide)
  exact absurd ((h s hs 1 4 [] hphase).2 2 hentry) (by decide)

end Balabala.EventLoop
