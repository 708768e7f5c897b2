import Balabala.Net.Step

/-!
# Who owns a descriptor number

`Tables` relates the tables of the event loop to the open descriptors: an entry of `mapConn_` is a
`Connection` that still has its number, an open number belongs to an object that knows it, and an
entry of `mapConnRaw_` that has outlived its socket is removed before `epoll_wait` is called again
and has no callback before that. It holds in every reachable state (`tables_of_reachable`), however
numbers are reused. What it is for: whenever the loop thread is inside `HandleRead` or `HandleWrite`
of a connection, the number it was given is that connection's (`serving_of_reachable`).
-/

namespace Balabala

/-- The tasks that add or remove the registration of `fd`. -/
def PendingTask.registers (fd : Fd) : PendingTask → Bool
  | .addEvent _ f _ | .removeConnection _ f => f = fd
  | .modifyEventKeepCallback _ _ | .send _ _ _ => false

/-- After a failed connect: `RemoveConnection` was called. -/
def LoopPc.failing : LoopPc → Bool
  | .removeEvent _ _ | .close _ _ | .clearSocket _ _ => true
  | _ => false

/-- The object a caller has a pointer to. -/
def CallerPc.conn : CallerPc → Option ConnId
  | .idle => none
  | .holding c | .sending c _ _ | .accepted c _ | .entered c _ | .leaving c => some c

namespace EventLoop

open Foundation PendingTask

variable {Tid : Type*}

/-! ### The queue -/

/-- The tasks that add or remove the registration of `fd`, in the order in which they will run. -/
def tasksOn (s : EventLoop Tid) (fd : Fd) : List PendingTask := s.queue.filter (registers fd)

lemma queue_queueInLoop (s : EventLoop Tid) (task : PendingTask) :
    (s.queueInLoop task).queue = s.queue ++ [task] := by
  cases hph : s.phase <;> simp [queue, queueInLoop, hph]

lemma queue_of_tasks {s : EventLoop Tid} {task : PendingTask} {rest : List PendingTask}
    (hph : s.phase = .tasks (task :: rest)) :
    s.queue = task :: (s.setPhase (.tasks rest)).queue := by
  simp [queue, hph, setPhase]

lemma tasksOn_queueInLoop_of_not {s : EventLoop Tid} {task : PendingTask} {fd : Fd}
    (h : registers fd task = false) : (s.queueInLoop task).tasksOn fd = s.tasksOn fd := by
  simp [tasksOn, queue_queueInLoop, List.filter_append, h]

lemma tasksOn_queueInLoop {s : EventLoop Tid} {task : PendingTask} {fd : Fd}
    (h : registers fd task = true) : (s.queueInLoop task).tasksOn fd = s.tasksOn fd ++ [task] := by
  simp [tasksOn, queue_queueInLoop, List.filter_append, h]

lemma tasksOn_of_tasks_of_not {s : EventLoop Tid} {task : PendingTask} {rest : List PendingTask}
    (hph : s.phase = .tasks (task :: rest)) {fd : Fd} (h : registers fd task = false) :
    (s.setPhase (.tasks rest)).tasksOn fd = s.tasksOn fd := by
  simp [tasksOn, queue_of_tasks hph, h]

lemma tasksOn_of_tasks {s : EventLoop Tid} {task : PendingTask} {rest : List PendingTask}
    (hph : s.phase = .tasks (task :: rest)) {fd : Fd} (h : registers fd task = true) :
    s.tasksOn fd = task :: (s.setPhase (.tasks rest)).tasksOn fd := by
  simp [tasksOn, queue_of_tasks hph, h]

/-- The loop thread is between `epoll_wait` and the pending tasks. -/
def InEvents (s : EventLoop Tid) : Prop := ∃ fired, s.phase = .events fired

/-- The tasks that run before `epoll_wait` is called again. -/
def due (s : EventLoop Tid) : List PendingTask :=
  match s.phase with
  | .events _ => s.pendingTasks
  | .tasks batch => batch

/-- A removal of `fd` runs before `epoll_wait` is called again. -/
def RemovalDue (s : EventLoop Tid) (fd : Fd) : Prop := ∃ c, .removeConnection c fd ∈ s.due

lemma mem_queue_of_due {s : EventLoop Tid} {task : PendingTask} (h : task ∈ s.due) :
    task ∈ s.queue := by
  cases hph : s.phase with
  | events fired => simpa [due, queue, hph] using h
  | tasks batch =>
    simp only [due, hph] at h
    simp [queue, hph, h]

lemma RemovalDue.queueInLoop {s : EventLoop Tid} {fd : Fd} (h : s.RemovalDue fd)
    (task : PendingTask) : (s.queueInLoop task).RemovalDue fd := by
  obtain ⟨c, hc⟩ := h
  refine ⟨c, ?_⟩
  cases hph : s.phase with
  | events fired =>
    simp only [due, hph] at hc
    simp [due, EventLoop.queueInLoop, hph, hc]
  | tasks batch => simpa [due, EventLoop.queueInLoop, hph] using hc

/-- Inside a callback a removal that is asked for is due. -/
lemma removalDue_queueInLoop {s : EventLoop Tid} (h : s.InEvents) (c : ConnId) (fd : Fd) :
    (s.queueInLoop (.removeConnection c fd)).RemovalDue fd := by
  obtain ⟨fired, hph⟩ := h
  exact ⟨c, by simp [due, EventLoop.queueInLoop, hph]⟩

/-! ### The invariant -/

/-- `RemoveConnection` was called for `c`, and its number is about to be closed. -/
def Closing (s : EventLoop Tid) (c : ConnId) : Prop :=
  s.stage c = .close ∨ ∃ fd, s.loop = .removeEvent c fd ∨ s.loop = .close c fd

def Called (s : EventLoop Tid) (fd : Fd) : Prop := s.callbacks fd ≠ none ∧ s.mapConn fd = none

/-- The object found in `mapConnRaw_` has lost its number. -/
def Stale (s : EventLoop Tid) (fd : Fd) : Prop :=
  ∃ c, s.mapConnRaw fd = some c ∧ s.alive c = true ∧ s.fds fd ≠ some c

/-- A connector that its constructor has entered into `mapConnRaw_`. -/
def Entered (s : EventLoop Tid) (c : ConnId) : Prop :=
  s.kind c = .connector ∧ s.alive c = true ∧ (s.stage c).unregistered = false

/-- The number `fd` is that of the connection `c` whose callback runs. -/
def Serving (s : EventLoop Tid) (c : ConnId) (fd : Fd) : Prop :=
  s.fds fd = some c ∧ (s.mapConn fd = some c ∨ s.Entered c)

/-- What is known inside a callback. -/
def LoopOk (s : EventLoop Tid) : LoopPc → Prop
  | .idle | .accepting => True
  | .addConnection c fd =>
    s.kind c = .connection ∧ s.stage c = .ready ∧ s.socket c = some fd ∧ s.refs c = []
  | .addEvent c fd => s.mapConn fd = some c
  | .reading c fd _ | .writing c fd => s.Serving c fd
  | .removeEvent c fd => s.Entered c ∧ s.fds fd = some c ∧ s.RemovalDue fd
  | .close c fd =>
    s.Entered c ∧ s.fds fd = some c ∧ s.RemovalDue fd ∧ s.callbacks fd = none
  | .clearSocket c fd => s.Entered c ∧ (∀ f, s.fds f ≠ some c) ∧ s.RemovalDue fd

/-- The entries of the tables, the open numbers and the objects agree. -/
structure Owners (s : EventLoop Tid) : Prop where
  fds : ∀ fd c, s.fds fd = some c → s.socket c = some fd ∧ c < s.created
  held : ∀ c fd, s.alive c = true ∨ s.stage c = .close → s.socket c = some fd →
    s.fds fd = some c ∨ s.loop = .clearSocket c fd
  fresh : ∀ c, s.created ≤ c → s.stage c = .destroyed
  cleared : ∀ c, s.stage c = .clearSocket → ∀ fd, s.fds fd ≠ some c
  unregistered : ∀ c, (s.stage c).unregistered = true → s.kind c ≠ .connection
  conn : ∀ fd c, s.mapConn fd = some c →
    s.kind c = .connection ∧ s.stage c = .ready ∧ s.socket c = some fd ∧ .mapConn ∈ s.refs c
  raw : ∀ fd c, s.mapConnRaw fd = some c → s.kind c ≠ .connection ∧ c < s.created ∧
    (s.kind c = .connector → (s.stage c).unregistered = false)
  loop : s.LoopOk s.loop

/-- What is known of the other threads and of the entries without a number. -/
structure Tables (s : EventLoop Tid) : Prop extends Owners s where
  busy : s.loop ≠ .idle → s.InEvents
  stale : ∀ fd, s.Stale fd → s.RemovalDue fd ∧ (s.InEvents → ¬ s.Called fd)
  callers : ∀ t c, (s.callers t).conn = some c →
    c < s.created ∧ (s.kind c = .connection → s.stage c = .ready ∧ .thread t ∈ s.refs c)
  accepted : ∀ t c fd, s.callers t = .accepted c fd →
    s.kind c = .connection ∧ s.socket c = some fd ∧ s.refs c = [.thread t]

section Consequences

variable {s : EventLoop Tid}

lemma Owners.fds_unique (h : Owners s) {fd f : Fd} {c : ConnId} (hfd : s.fds fd = some c)
    (hf : s.fds f = some c) : fd = f := by
  have := (h.fds fd c hfd).1.symm.trans (h.fds f c hf).1
  simpa using this

/-- A `Connection` that is not destroyed has its number. -/
lemma Owners.fds_connection (h : Owners s) {c : ConnId} {fd : Fd} (hk : s.kind c = .connection)
    (ha : s.alive c = true) (hsock : s.socket c = some fd) : s.fds fd = some c := by
  refine (h.held c fd (.inl ha) hsock).resolve_right fun hl => ?_
  have hloop := h.loop
  rw [hl] at hloop
  rw [hloop.1.1] at hk
  cases hk

lemma Owners.fds_of_conn (h : Owners s) {c : ConnId} {fd : Fd} (hc : s.mapConn fd = some c) :
    s.fds fd = some c := by
  obtain ⟨hk, hst, hsock, -⟩ := h.conn fd c hc
  exact h.fds_connection hk (alive_eq hst) hsock

/-- `mapConn_` has nobody else under the number of a connection. -/
lemma Owners.eq_of_conn (h : Owners s) {c d : ConnId} {fd : Fd} (hfd : s.fds fd = some c)
    (hd : s.mapConn fd = some d) : d = c :=
  Option.some.inj ((h.fds_of_conn hd).symm.trans hfd)

/-- While the loop thread is between two callbacks, the `socket_` of an object is its own. -/
lemma Owners.fds_of_socket (h : Owners s) (hpc : s.loop = .idle) {c : ConnId} {fd : Fd}
    (ha : s.alive c = true) (hsock : s.socket c = some fd) : s.fds fd = some c := by
  refine (h.held c fd (.inl ha) hsock).resolve_right fun hl => ?_
  rw [hpc] at hl
  cases hl

end Consequences

/-! ### Steps that leave the tables alone -/

/-- The tables and the registration tasks are the same, and no number is newly registered. -/
structure SameEntries (s s' : EventLoop Tid) : Prop where
  fds : s'.fds = s.fds
  callbacks : s'.callbacks = s.callbacks
  mapConn : s'.mapConn = s.mapConn
  mapConnRaw : s'.mapConnRaw = s.mapConnRaw
  created : s'.created = s.created
  kind : s'.kind = s.kind
  tasksOn : s'.tasksOn = s.tasksOn
  epoll : ∀ fd, s'.epoll fd ≠ none → s.epoll fd ≠ none

/-- In addition the objects' lives are the same, and the removals that are due stay so. -/
structure SameTables (s s' : EventLoop Tid) : Prop extends SameEntries s s' where
  stage : s'.stage = s.stage
  socket : s'.socket = s.socket
  refs : s'.refs = s.refs
  callers : ∀ t c, (s'.callers t).conn = some c →
    (s.callers t).conn = some c ∨ c < s.created ∧ s.kind c ≠ .connection
  accepted : ∀ t c fd, s'.callers t = .accepted c fd → s.callers t = .accepted c fd
  due : ∀ fd, s.RemovalDue fd → s'.RemovalDue fd
  events : s'.InEvents → s.InEvents

namespace SameTables

variable {s s' s'' : EventLoop Tid}

lemma trans (h : SameTables s s') (h' : SameTables s' s'') : SameTables s s'' where
  fds := h'.fds.trans h.fds
  callbacks := h'.callbacks.trans h.callbacks
  mapConn := h'.mapConn.trans h.mapConn
  mapConnRaw := h'.mapConnRaw.trans h.mapConnRaw
  created := h'.created.trans h.created
  kind := h'.kind.trans h.kind
  tasksOn := h'.tasksOn.trans h.tasksOn
  epoll := fun fd hfd => h.epoll fd (h'.epoll fd hfd)
  stage := h'.stage.trans h.stage
  socket := h'.socket.trans h.socket
  refs := h'.refs.trans h.refs
  callers := fun t c hc => by
    apply (h'.callers t c hc).elim (h.callers t c)
    rw [h.created, h.kind]
    exact .inr
  accepted := fun t c fd hc => h.accepted t c fd (h'.accepted t c fd hc)
  due := fun fd hfd => h'.due fd (h.due fd hfd)
  events := fun he => h.events (h'.events he)

lemma entered (e : SameTables s s') {c : ConnId} (h : s.Entered c) : s'.Entered c := by
  simpa only [Entered, alive, e.kind, e.stage] using h

lemma serving (e : SameTables s s') {c : ConnId} {fd : Fd} (h : s.Serving c fd) :
    s'.Serving c fd := by
  refine ⟨by rw [e.fds]; exact h.1, h.2.imp (fun hm => ?_) e.entered⟩
  rwa [e.mapConn]

lemma loopOk (e : SameTables s s') {pc : LoopPc} (h : s.LoopOk pc) : s'.LoopOk pc := by
  cases pc with
  | idle | accepting => trivial
  | reading c fd out | writing c fd => exact e.serving h
  | addConnection c fd | addEvent c fd =>
    simpa only [LoopOk, e.mapConn, e.kind, e.stage, e.socket, e.refs] using h
  | removeEvent c fd => exact ⟨e.entered h.1, by rw [e.fds]; exact h.2.1, e.due fd h.2.2⟩
  | close c fd =>
    refine ⟨e.entered h.1, by rw [e.fds]; exact h.2.1, e.due fd h.2.2.1, ?_⟩
    rw [e.callbacks]
    exact h.2.2.2
  | clearSocket c fd => exact ⟨e.entered h.1, by rw [e.fds]; exact h.2.1, e.due fd h.2.2⟩

end SameTables

variable {s s' : EventLoop Tid}

lemma Owners.frame (h : Owners s) (e : SameTables s s')
    (hheld : ∀ c fd, s.loop = .clearSocket c fd → s'.loop = .clearSocket c fd)
    (hloop : s'.LoopOk s'.loop) : Owners s' where
  fds := by
    rw [e.fds, e.socket, e.created]
    exact h.fds
  held := by
    simp only [alive, e.stage, e.socket, e.fds]
    exact fun c fd ha hsock => (h.held c fd ha hsock).imp_right (hheld c fd)
  fresh := by
    rw [e.stage, e.created]
    exact h.fresh
  cleared := by
    rw [e.stage, e.fds]
    exact h.cleared
  unregistered := by
    rw [e.stage, e.kind]
    exact h.unregistered
  conn := by
    rw [e.mapConn, e.kind, e.stage, e.socket, e.refs]
    exact h.conn
  raw := by
    rw [e.mapConnRaw, e.kind, e.stage, e.created]
    exact h.raw
  loop := hloop

lemma Tables.frame (h : Tables s) (e : SameTables s s')
    (hheld : ∀ c fd, s.loop = .clearSocket c fd → s'.loop = .clearSocket c fd)
    (hbusy : s'.loop ≠ .idle → s'.InEvents) (hloop : s'.LoopOk s'.loop) : Tables s' where
  toOwners := h.toOwners.frame e hheld hloop
  busy := hbusy
  stale := fun fd hs => by
    obtain ⟨hdue, hcalled⟩ := h.stale fd (by
      simpa only [Stale, alive, e.mapConnRaw, e.stage, e.fds] using hs)
    refine ⟨e.due fd hdue, fun he => ?_⟩
    simpa only [Called, e.callbacks, e.mapConn] using hcalled (e.events he)
  callers := by
    intro t c hc
    rw [e.created, e.kind, e.stage, e.refs]
    exact (e.callers t c hc).elim (h.callers t c) fun h => ⟨h.1, fun hc => absurd hc h.2⟩
  accepted := by
    rw [e.kind, e.socket, e.refs]
    exact fun t c fd hc => h.accepted t c fd (e.accepted t c fd hc)

/-- A step of the loop thread to another place, outside the failing connect. -/
lemma Tables.moved (h : Tables s) (e : SameTables s s') (hf : s.loop.failing = false)
    (hbusy : s'.loop ≠ .idle → s'.InEvents) (hloop : s'.LoopOk s'.loop) : Tables s' := by
  refine h.frame e (fun c fd hc => ?_) hbusy hloop
  simp [hc, LoopPc.failing] at hf

/-- A step that changes neither the tables nor where the loop thread is. -/
structure Unmoved (s s' : EventLoop Tid) : Prop extends SameTables s s' where
  loop : s'.loop = s.loop
  busy : s.loop ≠ .idle → s.InEvents → s'.InEvents

lemma Tables.unmoved (h : Tables s) (e : Unmoved s s') : Tables s' := by
  refine h.frame e.toSameTables (fun c fd hc => e.loop.trans hc) (fun hpc => ?_) ?_
  · rw [e.loop] at hpc
    exact e.busy hpc (h.busy hpc)
  · rw [e.loop]
    exact e.loopOk h.loop

lemma Unmoved.trans {s'' : EventLoop Tid} (h : Unmoved s s') (h' : Unmoved s' s'') :
    Unmoved s s'' where
  toSameTables := h.toSameTables.trans h'.toSameTables
  loop := h'.loop.trans h.loop
  busy := fun hpc he => h'.busy (by rwa [h.loop]) (h.busy hpc he)

/-- Events, tasks and messages have moved on; the tasks and their order are the same. -/
def Relays (s s' : EventLoop Tid) : Prop :=
  ∃ phase pendingTasks mailbox, s' = { s with phase, pendingTasks, mailbox } ∧ s'.queue = s.queue

lemma relays_wait {fired : List FiredEvent} (hph : s.phase = .tasks []) :
    Relays s (s.setPhase (.events fired)) :=
  ⟨_, _, _, rfl, by simp [queue, hph, setPhase]⟩

lemma relays_events {fired fired' : List FiredEvent} (hph : s.phase = .events fired) :
    Relays s (s.setPhase (.events fired')) :=
  ⟨_, _, _, rfl, by simp [queue, hph, setPhase]⟩

lemma relays_swap (hph : s.phase = .events []) :
    Relays s { s with phase := .tasks s.pendingTasks, pendingTasks := [] } :=
  ⟨_, _, _, rfl, by simp [queue, hph]⟩

lemma relays_mailbox (s : EventLoop Tid) (mailbox : List NetworkRecv) :
    Relays s { s with mailbox } :=
  ⟨_, _, _, rfl, rfl⟩

lemma Relays.sameEntries (h : Relays s s') : SameEntries s s' := by
  obtain ⟨phase, pendingTasks, mailbox, rfl, hq⟩ := h
  refine ⟨rfl, rfl, rfl, rfl, rfl, rfl, ?_, fun _ => id⟩
  funext fd
  simp [tasksOn, hq]

/-- Apart from `epoll_wait`, which ends the time in which removals were due. -/
lemma Relays.unmoved (h : Relays s s') (hdue : s'.due = s.due)
    (hevents : s'.InEvents → s.InEvents)
    (hbusy : s.loop ≠ .idle → s.InEvents → s'.InEvents) : Unmoved s s' := by
  have e := h.sameEntries
  obtain ⟨phase, pendingTasks, mailbox, rfl, hq⟩ := h
  exact ⟨⟨e, rfl, rfl, rfl, fun _ _ => .inl, fun _ _ _ => id,
    fun fd hfd => by rwa [RemovalDue, hdue], hevents⟩, rfl, hbusy⟩

lemma unmoved_mailbox (s : EventLoop Tid) (mailbox : List NetworkRecv) :
    Unmoved s { s with mailbox } :=
  (relays_mailbox s mailbox).unmoved rfl id fun _ => id

lemma unmoved_events {fired fired' : List FiredEvent} (hph : s.phase = .events fired) :
    Unmoved s (s.setPhase (.events fired')) := by
  refine (relays_events hph).unmoved ?_ (fun _ => ⟨fired, hph⟩) fun _ _ => ⟨fired', rfl⟩
  simp [due, setPhase, hph]

/-- The tasks that were queued so far are taken. -/
lemma unmoved_swap (hpc : s.loop = .idle) (hph : s.phase = .events []) :
    Unmoved s { s with phase := .tasks s.pendingTasks, pendingTasks := [] } := by
  refine (relays_swap hph).unmoved ?_ (fun he => ?_) fun hne => absurd hpc hne
  · simp [due, hph]
  · obtain ⟨fired, hf⟩ := he
    cases hf

/-- When `epoll_wait` is called, nothing in the tables is stale. -/
lemma Tables.wait (h : Tables s) {fired : List FiredEvent} (hpc : s.loop = .idle)
    (hph : s.phase = .tasks []) : Tables (s.setPhase (.events fired)) := by
  have hloop : (s.setPhase (.events fired)).loop = .idle := hpc
  refine { h with
    loop := by rw [hloop]; trivial
    busy := fun hne => absurd hloop hne
    stale := fun fd hs => ?_ }
  obtain ⟨⟨c, hc⟩, -⟩ := h.stale fd hs
  simp [due, hph] at hc

/-! ### What else the table functions change -/

lemma addConnection_eq (s : EventLoop Tid) (c : ConnId) (fd : Fd) :
    ∃ mapConn refs, s.addConnection c fd = { s with mapConn, refs } := by
  rw [addConnection]
  split <;> exact ⟨_, _, rfl⟩

lemma addConnectionRaw_eq (s : EventLoop Tid) (c : ConnId) (fd : Fd) :
    ∃ mapConnRaw, s.addConnectionRaw c fd = { s with mapConnRaw } := by
  rw [addConnectionRaw]
  split <;> exact ⟨_, rfl⟩

lemma addEvent_eq (s : EventLoop Tid) (c : ConnId) (fd : Fd) (events : Interest) :
    ∃ epoll callbacks, s.addEvent c fd events = { s with epoll, callbacks } := by
  rw [addEvent]
  split_ifs <;> exact ⟨_, _, rfl⟩

lemma modify_eq (s : EventLoop Tid) (fd : Fd) (events : Interest) :
    ∃ epoll, s.modifyEventKeepCallback fd events = { s with epoll } := by
  rw [modifyEventKeepCallback]
  split_ifs <;> exact ⟨_, rfl⟩

/-- Some `Connection`s die, and their numbers are closed. -/
def Closes (s s' : EventLoop Tid) : Prop :=
  ∃ fds epoll stage refs, s' = { s with fds, epoll, stage, refs } ∧
    (∀ fd, fds fd = s.fds fd ∧ epoll fd = s.epoll fd ∨ fds fd = none ∧ epoll fd = none) ∧
    ∀ c, (stage c).alive = true → stage c = s.stage c

lemma closes_dropRef [DecidableEq Tid] (s : EventLoop Tid) (c : ConnId) (r : Ref Tid) :
    Closes s (s.dropRef c r) := by
  have hkeep : ∀ x, (Function.update s.stage c .destroyed x).alive = true →
      Function.update s.stage c .destroyed x = s.stage x := by
    intro x hx
    by_cases hxc : x = c
    · subst hxc
      simp [Stage.alive] at hx
    · exact Function.update_of_ne hxc _ _
  unfold dropRef
  dsimp only
  split_ifs with hc
  · rw [destroyConnection]
    split
    · exact ⟨_, _, _, _, rfl, fun _ => .inl ⟨rfl, rfl⟩, hkeep⟩
    next fd _ =>
      refine ⟨_, _, _, _, rfl, fun f => ?_, hkeep⟩
      by_cases hf : f = fd
      · exact .inr (by simp [closeFd, hf])
      · exact .inl (by simp [closeFd, hf])
  · exact ⟨_, _, _, _, rfl, fun _ => .inl ⟨rfl, rfl⟩, fun _ _ => rfl⟩

/-- The entries that `RemoveConnection` erases, before the connection is destroyed. -/
lemma removeConnection_eq [DecidableEq Tid] (s : EventLoop Tid) (fd : Fd) :
    Closes { s.removeEvent fd with
      mapConn := Function.update s.mapConn fd none
      mapConnRaw := Function.update s.mapConnRaw fd none } (s.removeConnection fd) := by
  rw [removeConnection]
  cases s.mapConn fd with
  | none => exact ⟨_, _, _, _, rfl, fun _ => .inl ⟨rfl, rfl⟩, fun _ _ => rfl⟩
  | some c => exact closes_dropRef _ c .mapConn

/-! ### Writing leaves the tables alone -/

/-- Only members that concern writing are different, and no number is newly registered. -/
def Quiet (s s' : EventLoop Tid) : Prop :=
  ∃ epoll connecting outputBuffer writeFailed written,
    s' = { s with epoll, connecting, outputBuffer, writeFailed, written } ∧
      ∀ fd, epoll fd ≠ none → s.epoll fd ≠ none

lemma Quiet.unmoved (h : Quiet s s') : Unmoved s s' := by
  obtain ⟨epoll, connecting, outputBuffer, writeFailed, written, rfl, hep⟩ := h
  exact ⟨⟨⟨rfl, rfl, rfl, rfl, rfl, rfl, rfl, hep⟩, rfl, rfl, rfl, fun _ _ => .inl, fun _ _ _ => id,
    fun _ => id, id⟩, rfl, fun _ => id⟩

lemma Quiet.trans {s'' : EventLoop Tid} (h : Quiet s s') (h' : Quiet s' s'') : Quiet s s'' := by
  obtain ⟨_, _, _, _, _, rfl, hep⟩ := h
  obtain ⟨_, _, _, _, _, rfl, hep'⟩ := h'
  exact ⟨_, _, _, _, _, rfl, fun fd hfd => hep fd (hep' fd hfd)⟩

lemma quiet_modify (s : EventLoop Tid) (fd : Fd) (events : Interest) :
    Quiet s (s.modifyEventKeepCallback fd events) := by
  rw [modifyEventKeepCallback]
  split_ifs with hc
  · refine ⟨_, _, _, _, _, rfl, fun f hf => ?_⟩
    by_cases hfd : f = fd
    · subst hfd
      exact Option.isSome_iff_ne_none.mp hc.2
    · simpa [hfd] using hf
  · exact ⟨_, _, _, _, _, rfl, fun _ => id⟩

/-- Of the connections only `c` is different, and of the registrations only that of `fd`. -/
structure Serves (c : ConnId) (fd : Fd) (s s' : EventLoop Tid) : Prop where
  quiet : Quiet s s'
  outputBuffer : ∀ x, x ≠ c → s'.outputBuffer x = s.outputBuffer x
  writeFailed : ∀ x, x ≠ c → s'.writeFailed x = s.writeFailed x
  connecting : ∀ x, x ≠ c → s'.connecting x = s.connecting x
  epoll : ∀ f, f ≠ fd → s'.epoll f = s.epoll f

lemma Serves.trans {s'' : EventLoop Tid} {c : ConnId} {fd : Fd} (h : Serves c fd s s')
    (h' : Serves c fd s' s'') : Serves c fd s s'' where
  quiet := h.quiet.trans h'.quiet
  outputBuffer := fun x hx => (h'.outputBuffer x hx).trans (h.outputBuffer x hx)
  writeFailed := fun x hx => (h'.writeFailed x hx).trans (h.writeFailed x hx)
  connecting := fun x hx => (h'.connecting x hx).trans (h.connecting x hx)
  epoll := fun f hf => (h'.epoll f hf).trans (h.epoll f hf)

lemma serves_modify (s : EventLoop Tid) (c : ConnId) (fd : Fd) (events : Interest) :
    Serves c fd s (s.modifyEventKeepCallback fd events) := by
  refine ⟨quiet_modify s fd events, ?_, ?_, ?_, ?_⟩ <;> unfold modifyEventKeepCallback <;>
    split_ifs
  all_goals intro f hf
  all_goals simp [hf]

lemma serves_writeTo (s : EventLoop Tid) (c : ConnId) (fd f : Fd)
    (bytes : List (ConnId × UInt8)) : Serves c fd s (s.writeTo f bytes) := by
  rw [writeTo]
  split <;> exact ⟨⟨_, _, _, _, _, rfl, fun _ => id⟩, fun _ _ => rfl, fun _ _ => rfl,
    fun _ _ => rfl, fun _ _ => rfl⟩

lemma serves_setOutput (s : EventLoop Tid) (c : ConnId) (fd : Fd)
    (bytes : List (ConnId × UInt8)) : Serves c fd s (s.setOutput c bytes) :=
  ⟨⟨_, _, _, _, _, rfl, fun _ => id⟩, fun x hx => by simp [setOutput, hx], fun _ _ => rfl,
    fun _ _ => rfl, fun _ _ => rfl⟩

lemma serves_failWrite (s : EventLoop Tid) (c : ConnId) (fd : Fd) :
    Serves c fd s (s.failWrite c) :=
  ⟨⟨_, _, _, _, _, rfl, fun _ => id⟩, fun _ _ => rfl, fun x hx => by simp [failWrite, hx],
    fun _ _ => rfl, fun _ _ => rfl⟩

lemma serves_endConnecting (s : EventLoop Tid) (c : ConnId) (fd : Fd) :
    Serves c fd s (s.endConnecting c) :=
  ⟨⟨_, _, _, _, _, rfl, fun _ => id⟩, fun _ _ => rfl, fun _ _ => rfl,
    fun x hx => by simp [endConnecting, hx], fun _ _ => rfl⟩

lemma serves_appendOutput (s : EventLoop Tid) (c : ConnId) (fd : Fd)
    (rest : List (ConnId × UInt8)) : Serves c fd s (s.appendOutput c fd rest) := by
  rw [appendOutput]
  split_ifs
  · exact ⟨⟨_, _, _, _, _, rfl, fun _ => id⟩, fun _ _ => rfl, fun _ _ => rfl, fun _ _ => rfl,
      fun _ _ => rfl⟩
  · exact (serves_setOutput s c fd _).trans (serves_modify _ c fd .rw)

lemma serves_sendInLoop {c : ConnId} {fd : Fd} {origin : ConnId} {data : Bytes}
    {rs : List WriteResult} (h : s.sendInLoop c fd origin data rs = some s') :
    Serves c fd s s' := by
  rw [sendInLoop] at h
  split_ifs at h
  · obtain ⟨p, -, rfl⟩ := Option.map_eq_some_iff.mp h
    have hw := serves_writeTo s c fd fd (sentOn origin (data.take p.1))
    dsimp only
    split_ifs
    · exact hw.trans (serves_failWrite _ c fd)
    · exact hw.trans (serves_appendOutput _ c fd _)
  · cases h
    exact serves_appendOutput s c fd _

lemma serves_handleWrite {c : ConnId} {fd : Fd} {rs : List WriteResult}
    (h : s.handleWrite c fd rs = some s') : Serves c fd s s' := by
  obtain ⟨p, -, rfl⟩ := Option.map_eq_some_iff.mp h
  have hw := (serves_writeTo s c fd fd ((s.outputBuffer c).take p.1)).trans
    (serves_setOutput _ c fd ((s.outputBuffer c).drop p.1))
  dsimp only
  split
  · exact hw.trans (serves_modify _ c fd .rw)
  · exact hw.trans (serves_failWrite _ c fd)
  all_goals exact hw.trans (serves_modify _ c fd .r)

lemma serves_handleConnected (s : EventLoop Tid) (c : ConnId) (fd : Fd) :
    Serves c fd s (s.handleConnected c fd) :=
  (serves_endConnecting s c fd).trans (serves_modify _ c fd _)

end EventLoop

end Balabala
