import Balabala.Net.Tables

/-!
# Every step keeps the tables in order

The steps of constructors, destructors and of the loop thread that touch the tables, one lemma
each; then `Tables` holds in every reachable state.
-/

namespace Balabala.EventLoop

open Foundation PendingTask

variable {Tid : Type*} {s : EventLoop Tid}

/-! ### New objects -/

section Create

variable {fd : Fd} {kind : ConnKind} {stage : Stage} {connecting : Bool}

lemma create_kind_of_ne {c : ConnId} (hc : c ≠ s.created) :
    (s.create fd kind stage connecting).kind c = s.kind c := by
  simp [create, hc]

lemma create_stage_of_ne {c : ConnId} (hc : c ≠ s.created) :
    (s.create fd kind stage connecting).stage c = s.stage c := by
  simp [create, hc]

lemma Owners.lt_of_alive (h : Owners s) {c : ConnId} (ha : s.alive c = true) : c < s.created := by
  by_contra hle
  simp [alive, h.fresh c (Nat.le_of_not_lt hle), Stage.alive] at ha

lemma Owners.ne_of_alive (h : Owners s) {c : ConnId} (ha : s.alive c = true) : c ≠ s.created :=
  Nat.ne_of_lt (h.lt_of_alive ha)

lemma Owners.ne_of_fds (h : Owners s) {f : Fd} {c : ConnId} (hc : s.fds f = some c) :
    c ≠ s.created :=
  Nat.ne_of_lt (h.fds f c hc).2

lemma Owners.entered_create (h : Owners s) {c : ConnId} (hc : s.Entered c) :
    (s.create fd kind stage connecting).Entered c := by
  have hne := h.ne_of_alive hc.2.1
  simpa only [Entered, alive, create_kind_of_ne hne, create_stage_of_ne hne] using hc

lemma create_fds_of_ne {f : Fd} (hf : f ≠ fd) :
    (s.create fd kind stage connecting).fds f = s.fds f := by
  simp [create, hf]

lemma create_fds_of_some (hfd : s.fds fd = none) {f : Fd} {c : ConnId} (hc : s.fds f = some c) :
    (s.create fd kind stage connecting).fds f = some c := by
  rwa [create_fds_of_ne]
  rintro rfl
  simp [hfd] at hc

lemma Owners.loopOk_create (h : Owners s) (hfd : s.fds fd = none) {pc : LoopPc}
    (hpc : s.LoopOk pc) : (s.create fd kind stage connecting).LoopOk pc := by
  have hserving : ∀ c f, s.Serving c f → (s.create fd kind stage connecting).Serving c f :=
    fun c f hs => ⟨create_fds_of_some hfd hs.1, hs.2.imp_right h.entered_create⟩
  cases pc with
  | idle | accepting => trivial
  | addConnection c f =>
    obtain ⟨hk, hst, hsock, hrefs⟩ := hpc
    have hne := h.ne_of_alive (c := c) (alive_eq hst)
    exact ⟨(create_kind_of_ne hne).trans hk, (create_stage_of_ne hne).trans hst,
      by simpa [create, hne] using hsock, by simpa [create, hne] using hrefs⟩
  | addEvent c f => exact hpc
  | reading c f out | writing c f => exact hserving c f hpc
  | removeEvent c f => exact ⟨h.entered_create hpc.1, create_fds_of_some hfd hpc.2.1, hpc.2.2⟩
  | close c f => exact ⟨h.entered_create hpc.1, create_fds_of_some hfd hpc.2.1, hpc.2.2⟩
  | clearSocket c f =>
    refine ⟨h.entered_create hpc.1, fun g hg => ?_, hpc.2.2⟩
    by_cases hgfd : g = fd
    · subst hgfd
      apply h.ne_of_alive hpc.1.2.1
      simpa [create, eq_comm] using hg
    · exact hpc.2.1 g (by rwa [create_fds_of_ne hgfd] at hg)

lemma Tables.lt_of_accepted (h : Tables s) {t : Tid} {c : ConnId} {f : Fd}
    (hpc : s.callers t = .accepted c f) : c < s.created :=
  (h.callers t c (by simp [hpc, CallerPc.conn])).1

/-- A connection that was accepted for this loop has its number. -/
lemma Tables.fds_of_accepted (h : Tables s) {t : Tid} {c : ConnId} {f : Fd}
    (hpc : s.callers t = .accepted c f) : s.fds f = some c := by
  obtain ⟨hk, hsock, -⟩ := h.accepted t c f hpc
  have hst := ((h.callers t c (by simp [hpc, CallerPc.conn])).2 hk).1
  exact h.fds_connection hk (alive_eq hst) hsock

/-- A free number is handed out. -/
lemma Tables.create (h : Tables s) (hfd : s.fds fd = none) (hst : stage.alive = true)
    (hreg : stage.unregistered = true → kind ≠ .connection) :
    Tables (s.create fd kind stage connecting) where
  fds := by
    intro f c hc
    by_cases hf : f = fd
    · subst hf
      obtain rfl : s.created = c := by simpa [EventLoop.create] using hc
      simp [EventLoop.create]
    · rw [create_fds_of_ne hf] at hc
      obtain ⟨hsock, hlt⟩ := h.fds f c hc
      have hne := Nat.ne_of_lt hlt
      exact ⟨by simpa [EventLoop.create, hne] using hsock, Nat.lt_succ_of_lt hlt⟩
  held := by
    intro c f ha hsock
    by_cases hc : c = s.created
    · subst hc
      obtain rfl : fd = f := by simpa [EventLoop.create] using hsock
      simp [EventLoop.create]
    · simp only [alive, create_stage_of_ne hc] at ha
      simp only [EventLoop.create, Function.update_of_ne hc] at hsock
      exact (h.held c f ha hsock).imp_left (create_fds_of_some hfd)
  fresh := by
    intro c hc
    have hc : s.created + 1 ≤ c := hc
    rw [create_stage_of_ne (Nat.ne_of_gt hc)]
    exact h.fresh c (Nat.le_of_succ_le hc)
  cleared := by
    intro c hc f hcf
    by_cases hne : c = s.created
    · subst hne
      simp only [EventLoop.create, Function.update_self] at hc
      simp [hc, Stage.alive] at hst
    · rw [create_stage_of_ne hne] at hc
      by_cases hf : f = fd
      · subst hf
        apply hne
        simpa [EventLoop.create, eq_comm] using hcf
      · rw [create_fds_of_ne hf] at hcf
        exact h.cleared c hc f hcf
  unregistered := by
    intro c hc
    by_cases hne : c = s.created
    · subst hne
      simp only [EventLoop.create, Function.update_self] at hc ⊢
      exact hreg hc
    · rw [create_stage_of_ne hne] at hc
      rw [create_kind_of_ne hne]
      exact h.unregistered c hc
  conn := by
    intro f c hc
    have hne := h.ne_of_fds (h.fds_of_conn hc)
    obtain ⟨hk, hst, hsock, hrefs⟩ := h.conn f c hc
    exact ⟨(create_kind_of_ne hne).trans hk, (create_stage_of_ne hne).trans hst,
      by simpa [EventLoop.create, hne] using hsock, by simpa [EventLoop.create, hne] using hrefs⟩
  raw := by
    intro f c hc
    obtain ⟨hk, hlt, hr⟩ := h.raw f c hc
    rw [create_kind_of_ne (Nat.ne_of_lt hlt), create_stage_of_ne (Nat.ne_of_lt hlt)]
    exact ⟨hk, Nat.lt_succ_of_lt hlt, hr⟩
  loop := h.loopOk_create hfd h.loop
  busy := h.busy
  stale := by
    intro f hs
    refine h.stale f ?_
    obtain ⟨c, hc, ha, hne⟩ := hs
    have hlt := Nat.ne_of_lt (h.raw f c hc).2.1
    refine ⟨c, hc, ?_, fun hcf => hne (create_fds_of_some hfd hcf)⟩
    simpa only [alive, create_stage_of_ne hlt] using ha
  callers := by
    intro t c hc
    obtain ⟨hlt, hh⟩ := h.callers t c hc
    have hne := Nat.ne_of_lt hlt
    refine ⟨Nat.lt_succ_of_lt hlt, ?_⟩
    rw [create_kind_of_ne hne, create_stage_of_ne hne]
    simpa [EventLoop.create, hne] using hh
  accepted := by
    intro t c f hc
    have hne := Nat.ne_of_lt (h.lt_of_accepted hc)
    rw [create_kind_of_ne hne]
    simpa [EventLoop.create, hne] using h.accepted t c f hc

end Create

/-! ### Constructors -/

lemma setStage_of_ne {c x : ConnId} (stage : Stage) (hx : x ≠ c) :
    (s.setStage c stage).stage x = s.stage x := by
  simp [setStage, hx]

@[simp] lemma setStage_self (c : ConnId) (stage : Stage) :
    (s.setStage c stage).stage c = stage := by
  simp [setStage]

lemma Owners.lt_of_stage (h : Owners s) {c : ConnId} (hst : s.stage c ≠ .destroyed) :
    c < s.created := by
  by_contra hle
  exact hst (h.fresh c (Nat.le_of_not_lt hle))

/-- What is known of the object in whose callback the loop thread is. -/
lemma Owners.registered_of_this (h : Owners s) {c : ConnId} (hthis : s.loop.this = some c) :
    s.alive c = true ∧ (s.stage c).unregistered = false := by
  have hloop := h.loop
  have hready : s.stage c = .ready → s.alive c = true ∧ (s.stage c).unregistered = false := by
    intro hst
    simp [alive, hst, Stage.alive, Stage.unregistered]
  have hserving : ∀ fd, s.Serving c fd → s.alive c = true ∧ (s.stage c).unregistered = false := by
    rintro fd ⟨-, hc | he⟩
    · exact hready (h.conn fd c hc).2.1
    · exact he.2
  cases hl : s.loop with
  | idle | accepting => simp [hl, LoopPc.this] at hthis
  | addConnection d fd =>
    obtain rfl : d = c := by simpa [hl, LoopPc.this] using hthis
    rw [hl] at hloop
    exact hready hloop.2.1
  | addEvent d fd =>
    obtain rfl : d = c := by simpa [hl, LoopPc.this] using hthis
    rw [hl] at hloop
    exact hready (h.conn fd d hloop).2.1
  | reading d fd out | writing d fd =>
    obtain rfl : d = c := by simpa [hl, LoopPc.this] using hthis
    rw [hl] at hloop
    exact hserving fd hloop
  | removeEvent d fd | close d fd | clearSocket d fd =>
    obtain rfl : d = c := by simpa [hl, LoopPc.this] using hthis
    rw [hl] at hloop
    exact hloop.1.2

lemma Entered.setStage {c x : ConnId} {stage : Stage} (hx : s.Entered x)
    (hc : x = c → stage.alive = true ∧ stage.unregistered = false) :
    (s.setStage c stage).Entered x := by
  by_cases hxc : x = c
  · subst hxc
    exact ⟨hx.1, by simpa [alive] using (hc rfl).1, by simpa using (hc rfl).2⟩
  · unfold Entered alive
    rw [setStage_of_ne stage hxc]
    exact hx

/-- The object whose callback runs stays entered, and a `Connection` stays ready. -/
lemma LoopOk.setStage {pc : LoopPc} (h : s.LoopOk pc) {c : ConnId} {stage : Stage}
    (hc : pc.this = some c →
      stage.alive = true ∧ stage.unregistered = false ∧ s.stage c ≠ .ready) :
    (s.setStage c stage).LoopOk pc := by
  have hentered : ∀ x, pc.this = some x → s.Entered x → (s.setStage c stage).Entered x := by
    intro x hx he
    refine he.setStage fun hxc => ?_
    subst hxc
    exact ⟨(hc hx).1, (hc hx).2.1⟩
  have hserving : ∀ x fd, pc.this = some x → s.Serving x fd →
      (s.setStage c stage).Serving x fd :=
    fun x fd hx hs => ⟨hs.1, hs.2.imp_right (hentered x hx)⟩
  cases pc with
  | idle | accepting => trivial
  | addConnection x fd =>
    have hne : x ≠ c := by
      rintro rfl
      exact (hc rfl).2.2 h.2.1
    exact ⟨h.1, (setStage_of_ne stage hne).trans h.2.1, h.2.2⟩
  | addEvent x fd => exact h
  | reading x fd out | writing x fd => exact hserving x fd rfl h
  | removeEvent x fd | close x fd | clearSocket x fd => exact ⟨hentered x rfl h.1, h.2⟩

lemma Owners.setStage (h : Owners s) {c : ConnId} {stage : Stage} (hlt : c < s.created)
    (hheld : stage.alive = true ∨ stage = .close → s.alive c = true ∨ s.stage c = .close)
    (hclear : stage = .clearSocket → ∀ fd, s.fds fd ≠ some c)
    (hreg : stage.unregistered = true → (s.stage c).unregistered = true)
    (hconn : ∀ fd, s.mapConn fd ≠ some c)
    (hloop : (s.setStage c stage).LoopOk s.loop) : Owners (s.setStage c stage) where
  fds := h.fds
  held := by
    intro x fd ha hsock
    by_cases hx : x = c
    · subst hx
      exact h.held x fd (hheld (by simpa [alive] using ha)) hsock
    · rw [alive, setStage_of_ne stage hx] at ha
      exact h.held x fd ha hsock
  fresh := by
    intro x hx
    rw [setStage_of_ne stage (Nat.ne_of_gt (Nat.lt_of_lt_of_le hlt hx))]
    exact h.fresh x hx
  cleared := by
    intro x hx
    by_cases hxc : x = c
    · subst hxc
      exact hclear (by simpa using hx)
    · rw [setStage_of_ne stage hxc] at hx
      exact h.cleared x hx
  unregistered := by
    intro x hx
    by_cases hxc : x = c
    · subst hxc
      exact h.unregistered x (hreg (by simpa using hx))
    · rw [setStage_of_ne stage hxc] at hx
      exact h.unregistered x hx
  conn := by
    intro fd x hx
    obtain ⟨hk, hst, hrest⟩ := h.conn fd x hx
    have hxc : x ≠ c := by
      rintro rfl
      exact hconn fd hx
    exact ⟨hk, (setStage_of_ne stage hxc).trans hst, hrest⟩
  raw := by
    intro fd x hx
    obtain ⟨hk, hltx, hr⟩ := h.raw fd x hx
    refine ⟨hk, hltx, fun hcon => ?_⟩
    by_cases hxc : x = c
    · subst hxc
      by_contra hne
      have := hreg (by simpa using hne)
      rw [hr hcon] at this
      cases this
    · rw [setStage_of_ne stage hxc]
      exact hr hcon
  loop := hloop

/-- Only a ready `Connection` is in `mapConn_`. -/
lemma Owners.not_conn (h : Owners s) {c : ConnId}
    (hc : s.stage c = .ready → s.kind c ≠ .connection) (fd : Fd) : s.mapConn fd ≠ some c :=
  fun hfd => hc (h.conn fd c hfd).2.1 (h.conn fd c hfd).1

lemma Tables.not_caller (h : Tables s) {c : ConnId}
    (hc : s.stage c = .ready → s.kind c ≠ .connection) (t : Tid)
    (ht : (s.callers t).conn = some c) : s.kind c ≠ .connection :=
  fun hk => hc ((h.callers t c ht).2 hk).1 hk

lemma callers_setStage (h : Tables s) {c : ConnId} (stage : Stage)
    (hconn : ∀ t, (s.callers t).conn = some c → s.kind c ≠ .connection) (t : Tid) (x : ConnId)
    (hx : (s.callers t).conn = some x) :
    x < s.created ∧
      (s.kind x = .connection → (s.setStage c stage).stage x = .ready ∧ .thread t ∈ s.refs x) := by
  obtain ⟨hlt, hh⟩ := h.callers t x hx
  refine ⟨hlt, fun hk => ?_⟩
  obtain ⟨hst, href⟩ := hh hk
  have hxc : x ≠ c := by
    rintro rfl
    exact hconn t hx hk
  exact ⟨(setStage_of_ne stage hxc).trans hst, href⟩

lemma Stale.of_setStage {c : ConnId} {stage : Stage} {fd : Fd} (h : (s.setStage c stage).Stale fd)
    (hc : stage.alive = true → s.alive c = true) : s.Stale fd := by
  obtain ⟨x, hx, ha, hne⟩ := h
  refine ⟨x, hx, ?_, hne⟩
  by_cases hxc : x = c
  · subst hxc
    exact hc (by simpa [alive] using ha)
  · rwa [alive, setStage_of_ne stage hxc] at ha

/-- An object goes on with its life. -/
lemma Tables.setStage (h : Tables s) {c : ConnId} {stage : Stage} (hlt : c < s.created)
    (halive : stage.alive = true → s.alive c = true)
    (hclose : stage = .close → s.alive c = true ∨ s.stage c = .close)
    (hclear : stage = .clearSocket → ∀ fd, s.fds fd ≠ some c)
    (hreg : stage.unregistered = true → (s.stage c).unregistered = true)
    (hconn : ∀ fd, s.mapConn fd ≠ some c)
    (hcallers : ∀ t, (s.callers t).conn = some c → s.kind c ≠ .connection)
    (hloop : (s.setStage c stage).LoopOk s.loop) : Tables (s.setStage c stage) where
  toOwners := h.toOwners.setStage hlt (fun hs => hs.elim (fun ha => .inl (halive ha)) hclose)
    hclear hreg hconn hloop
  busy := h.busy
  stale := fun fd hs => h.stale fd (hs.of_setStage halive)
  callers := callers_setStage h stage hcallers
  accepted := h.accepted

/-- The last steps of a constructor, which may race with callbacks of its object. -/
lemma Tables.constructed (h : Tables s) {c : ConnId} {stage : Stage}
    (hst : s.stage c = .notifyConnected ∨ s.stage c = .modifyEvent)
    (hstage : stage = .ready ∨ stage = .modifyEvent) : Tables (s.setStage c stage) := by
  have hne : s.stage c ≠ .ready := by rcases hst with hst | hst <;> simp [hst]
  have halive : s.alive c = true := by rcases hst with hst | hst <;> simp [alive, hst, Stage.alive]
  have hreg : stage.alive = true ∧ stage.unregistered = false := by
    rcases hstage with rfl | rfl <;> exact ⟨rfl, rfl⟩
  refine h.setStage (h.lt_of_alive halive) (fun _ => halive) (fun _ => .inl halive) ?_
    (by simp [hreg.2]) (h.not_conn fun hr => absurd hr hne) (h.not_caller fun hr => absurd hr hne)
    (LoopOk.setStage h.loop fun _ => ⟨hreg.1, hreg.2, hne⟩)
  rcases hstage with rfl | rfl <;> simp

/-! ### Queueing tasks -/

lemma LoopOk.queueInLoop {pc : LoopPc} (h : s.LoopOk pc) (task : PendingTask) :
    (s.queueInLoop task).LoopOk pc := by
  cases pc with
  | removeEvent c fd | clearSocket c fd => exact ⟨h.1, h.2.1, h.2.2.queueInLoop task⟩
  | close c fd => exact ⟨h.1, h.2.1, h.2.2.1.queueInLoop task, h.2.2.2⟩
  | _ => exact h

/-- A task is queued, whatever it is and whoever asks for it. -/
lemma Tables.queueInLoop (h : Tables s) (task : PendingTask) : Tables (s.queueInLoop task) :=
  { h with
    loop := LoopOk.queueInLoop h.loop task
    stale := fun fd hs => (h.stale fd hs).imp_left (·.queueInLoop task) }

/-- A task that does not touch the registrations is queued. -/
lemma unmoved_queueInLoop {task : PendingTask} (ht : ∀ fd, registers fd task = false) :
    Unmoved s (s.queueInLoop task) where
  fds := rfl
  callbacks := rfl
  mapConn := rfl
  mapConnRaw := rfl
  created := rfl
  kind := rfl
  tasksOn := by
    funext fd
    exact tasksOn_queueInLoop_of_not (ht fd)
  epoll := fun _ => id
  stage := rfl
  socket := rfl
  refs := rfl
  callers := fun _ _ => .inl
  accepted := fun _ _ _ => id
  due := fun _ hfd => hfd.queueInLoop task
  events := id
  loop := rfl
  busy := fun _ => id

lemma not_entered {c : ConnId} (hst : (s.stage c).unregistered = true) :
    ¬ s.Entered c := by
  rintro ⟨-, -, hr⟩
  rw [hst] at hr
  cases hr

/-- An object whose constructor has not registered it has its number. -/
lemma Tables.fds_of_unregistered (h : Tables s) {c : ConnId} {fd : Fd}
    (hst : (s.stage c).unregistered = true) (hsock : s.socket c = some fd) :
    s.fds fd = some c := by
  have ha : s.alive c = true := by
    rw [alive]
    cases hs : s.stage c <;> simp_all [Stage.unregistered, Stage.alive]
  refine (h.held c fd (.inl ha) hsock).resolve_right fun hl => ?_
  have hloop := h.loop
  rw [hl] at hloop
  exact not_entered hst hloop.1

lemma Tables.not_this_of_unregistered (h : Tables s) {c : ConnId}
    (hst : (s.stage c).unregistered = true) : s.loop.this ≠ some c := by
  intro hthis
  have := (h.registered_of_this hthis).2
  rw [hst] at this
  cases this

/-- The constructor goes on to another step, of which its object is not registered before. -/
lemma Tables.constructing (h : Tables s) {c : ConnId} {stage : Stage}
    (hst : (s.stage c).unregistered = true) (hstage : stage ≠ .clearSocket) :
    Tables (s.setStage c stage) := by
  have halive : s.alive c = true := by
    rw [alive]
    cases hs : s.stage c <;> simp_all [Stage.unregistered, Stage.alive]
  have hready : s.stage c ≠ .ready := by
    intro hr
    simp [hr, Stage.unregistered] at hst
  exact h.setStage (h.lt_of_alive halive) (fun _ => halive) (fun _ => .inl halive)
    (fun hc => absurd hc hstage) (fun _ => hst) (h.not_conn fun hr => absurd hr hready)
    (h.not_caller fun hr => absurd hr hready)
    (LoopOk.setStage h.loop fun ht => absurd ht (h.not_this_of_unregistered hst))

/-- The constructor calls `AddEvent`. -/
lemma Tables.constructAddEvent (h : Tables s) {c : ConnId} {fd : Fd} {events : Interest}
    {stage : Stage} (hst : s.stage c = .addEvent) (hstage : stage ≠ .clearSocket) :
    Tables ((s.queueInLoop (.addEvent c fd events)).setStage c stage) := by
  apply (h.queueInLoop (.addEvent c fd events)).constructing _ hstage
  have hst : (s.queueInLoop (.addEvent c fd events)).stage c = .addEvent := hst
  simp [hst, Stage.unregistered]

/-- An entry in `mapConnRaw_` of an object that has the number. -/
lemma Tables.addConnectionRaw (h : Tables s) {c : ConnId} {fd : Fd} (hfd : s.fds fd = some c)
    (hk : s.kind c ≠ .connection)
    (hreg : s.kind c = .connector → (s.stage c).unregistered = false) :
    Tables (s.addConnectionRaw c fd) := by
  rw [EventLoop.addConnectionRaw]
  split
  · exact h
  have hentry : ∀ f x, Function.update s.mapConnRaw fd (some c) f = some x →
      f = fd ∧ x = c ∨ s.mapConnRaw f = some x := by
    intro f x hx
    by_cases hf : f = fd
    · subst hf
      exact .inl ⟨rfl, by simpa [eq_comm] using hx⟩
    · exact .inr (by simpa [hf] using hx)
  refine { h with raw := fun f x hx => ?_, stale := fun f hs => h.stale f ?_ }
  · rcases hentry f x hx with ⟨rfl, rfl⟩ | hx
    · exact ⟨hk, (h.fds f x hfd).2, hreg⟩
    · exact h.raw f x hx
  · obtain ⟨x, hx, ha, hne⟩ := hs
    rcases hentry f x hx with ⟨rfl, rfl⟩ | hx
    · exact absurd hfd hne
    · exact ⟨x, hx, ha, hne⟩

/-- The constructor calls `AddConnectionRaw`. -/
lemma Tables.constructAddConnectionRaw (h : Tables s) {c : ConnId} {fd : Fd} {stage : Stage}
    (hst : s.stage c = .addConnectionRaw) (hsock : s.socket c = some fd)
    (hk : s.kind c = .acceptor ∧ stage = .addEvent ∨
      s.kind c ≠ .acceptor ∧ stage = .notifyConnected) :
    Tables ((s.addConnectionRaw c fd).setStage c stage) := by
  have hunreg : (s.stage c).unregistered = true := by simp [hst, Stage.unregistered]
  have hfd := h.fds_of_unregistered hunreg hsock
  have htables : Tables (s.setStage c stage) :=
    h.constructing hunreg (by rcases hk with ⟨-, rfl⟩ | ⟨-, rfl⟩ <;> simp)
  have hcomm : (s.addConnectionRaw c fd).setStage c stage =
      (s.setStage c stage).addConnectionRaw c fd := by
    unfold EventLoop.addConnectionRaw EventLoop.setStage
    cases s.mapConnRaw fd <;> rfl
  rw [hcomm]
  refine htables.addConnectionRaw hfd (h.unregistered c hunreg) fun hcon => ?_
  rcases hk with ⟨hk, -⟩ | ⟨-, rfl⟩
  · have hcon : s.kind c = .connector := hcon
    simp [hk] at hcon
  · simp [Stage.unregistered]

/-! ### Destructors -/

/-- `~Connector` calls `RemoveConnection`. -/
lemma Tables.destroy (h : Tables s) {c : ConnId} (fd : Fd) (hk : s.kind c = .connector)
    (hst : s.stage c = .ready) (hthis : s.loop.this ≠ some c) :
    Tables ((s.queueInLoop (.removeConnection c fd)).setStage c .close) := by
  have halive : s.alive c = true := alive_eq hst
  have hconn : s.stage c = .ready → s.kind c ≠ .connection := by simp [hk]
  have hq := h.queueInLoop (.removeConnection c fd)
  exact hq.setStage (h.lt_of_alive halive) (by simp [Stage.alive]) (fun _ => .inl halive) (by simp)
    (by simp [Stage.unregistered]) (h.not_conn hconn) (h.not_caller hconn)
    (LoopOk.setStage hq.loop fun ht => absurd ht hthis)

/-- An object without a number goes away. -/
lemma Tables.setDestroyed (h : Tables s) {c : ConnId} (hlt : c < s.created)
    (hthis : s.loop.this ≠ some c) (hconn : ∀ fd, s.mapConn fd ≠ some c)
    (hcallers : ∀ t, (s.callers t).conn = some c → s.kind c ≠ .connection) :
    Tables (s.setStage c .destroyed) :=
  h.setStage hlt (by simp [Stage.alive]) (by simp) (by simp) (by simp [Stage.unregistered])
    hconn hcallers (LoopOk.setStage h.loop fun ht => absurd ht hthis)

/-- `~Connector` after a failed connect, which has cleared `socket_`. -/
lemma Tables.destroyClosed (h : Tables s) {c : ConnId} (hk : s.kind c = .connector)
    (hst : s.stage c = .ready) (hthis : s.loop.this ≠ some c) :
    Tables (s.setStage c .destroyed) := by
  have hconn : s.stage c = .ready → s.kind c ≠ .connection := by simp [hk]
  exact h.setDestroyed (h.lt_of_stage (by simp [hst])) hthis (h.not_conn hconn)
    (h.not_caller hconn)

/-- The number of an object that is gone from the tables is closed. -/
lemma LoopOk.closeDead {pc : LoopPc} (h : s.LoopOk pc) {c : ConnId} {fd : Fd} {stage : Stage}
    (hfd : s.fds fd = some c) (hthis : pc.this ≠ some c) :
    ((s.closeFd fd).setStage c stage).LoopOk pc := by
  have hother : ∀ x f, x ≠ c → s.fds f = some x →
      ((s.closeFd fd).setStage c stage).fds f = some x := by
    intro x f hx hf
    have hne : f ≠ fd := by
      rintro rfl
      exact hx (by simpa [hfd, eq_comm] using hf)
    simpa [closeFd, EventLoop.setStage, hne] using hf
  have hne : ∀ x, pc.this = some x → x ≠ c := by
    rintro x hx rfl
    exact hthis hx
  have h' : (s.setStage c stage).LoopOk pc := h.setStage fun ht => absurd ht hthis
  cases pc with
  | idle | accepting => trivial
  | addConnection x f | addEvent x f => exact h'
  | reading x f out | writing x f => exact ⟨hother x f (hne x rfl) h.1, h'.2⟩
  | removeEvent x f => exact ⟨h'.1, hother x f (hne x rfl) h.2.1, h.2.2⟩
  | close x f => exact ⟨h'.1, hother x f (hne x rfl) h.2.1, h.2.2⟩
  | clearSocket x f =>
    refine ⟨h'.1, fun g hg => ?_, h.2.2⟩
    by_cases hgf : g = fd
    · subst hgf
      simp [closeFd, EventLoop.setStage] at hg
    · exact h.2.1 g (by simpa [closeFd, EventLoop.setStage, hgf] using hg)

/-- The number of an object that is gone from the tables is closed. -/
lemma Tables.closeDead (h : Tables s) {c : ConnId} {fd : Fd} {stage : Stage}
    (hfd : s.fds fd = some c) (hst : stage = .clearSocket ∨ stage = .destroyed)
    (hmap : s.mapConn fd ≠ some c) (hthis : s.loop.this ≠ some c)
    (hcallers : ∀ t, (s.callers t).conn = some c → s.kind c ≠ .connection) :
    Tables ((s.closeFd fd).setStage c stage) := by
  have hdead : stage.alive = false ∧ stage ≠ .close ∧ stage.unregistered = false := by
    rcases hst with rfl | rfl <;> exact ⟨rfl, by simp, rfl⟩
  have hfds : ∀ f x, ((s.closeFd fd).setStage c stage).fds f = some x ↔
      f ≠ fd ∧ s.fds f = some x := by
    intro f x
    by_cases hf : f = fd
    · simp [hf, closeFd, EventLoop.setStage]
    · simp [hf, closeFd, EventLoop.setStage]
  have hstage : ∀ x, x ≠ c → ((s.closeFd fd).setStage c stage).stage x = s.stage x :=
    fun x hx => setStage_of_ne stage hx
  have hself : ((s.closeFd fd).setStage c stage).stage c = stage := setStage_self c stage
  have hlt := (h.fds fd c hfd).2
  have hstale : ∀ f, ((s.closeFd fd).setStage c stage).Stale f → s.Stale f := by
    rintro f ⟨x, hx, ha, hne⟩
    have hxc : x ≠ c := by
      rintro rfl
      simp [alive, hdead.1] at ha
    refine ⟨x, hx, by rwa [alive, hstage x hxc] at ha, fun hf => ?_⟩
    rw [ne_eq, hfds] at hne
    refine hne ⟨?_, hf⟩
    rintro rfl
    exact hxc (by simpa [hfd, eq_comm] using hf)
  refine ⟨⟨?_, ?_, ?_, ?_, ?_, ?_, ?_, LoopOk.closeDead h.loop hfd hthis⟩, h.busy,
    fun f hs => h.stale f (hstale f hs), ?_, h.accepted⟩
  · intro f x hx
    exact h.fds f x ((hfds f x).mp hx).2
  · intro x f ha hsock
    have hxc : x ≠ c := by
      rintro rfl
      simp [alive, hdead.1, hdead.2.1] at ha
    rw [alive, hstage x hxc] at ha
    refine (h.held x f ha hsock).imp_left fun hf => (hfds f x).mpr ⟨?_, hf⟩
    rintro rfl
    exact hxc (by simpa [hfd, eq_comm] using hf)
  · intro x hx
    rw [hstage x (Nat.ne_of_gt (Nat.lt_of_lt_of_le hlt hx))]
    exact h.fresh x hx
  · intro x hx f hf
    obtain ⟨hne, hold⟩ := (hfds f x).mp hf
    by_cases hxc : x = c
    · subst hxc
      exact hne (h.fds_unique hold hfd)
    · rw [hstage x hxc] at hx
      exact h.cleared x hx f hold
  · intro x hx
    have hxc : x ≠ c := by
      rintro rfl
      rw [hself, hdead.2.2] at hx
      cases hx
    rw [hstage x hxc] at hx
    exact h.unregistered x hx
  · intro f x hx
    obtain ⟨hk, hstx, hrest⟩ := h.conn f x hx
    have hxc : x ≠ c := by
      rintro rfl
      exact hmap (h.fds_unique (h.fds_of_conn hx) hfd ▸ hx)
    exact ⟨hk, (hstage x hxc).trans hstx, hrest⟩
  · intro f x hx
    obtain ⟨hk, hltx, hr⟩ := h.raw f x hx
    refine ⟨hk, hltx, fun hcon => ?_⟩
    by_cases hxc : x = c
    · rw [hxc, hself]
      exact hdead.2.2
    · rw [hstage x hxc]
      exact hr hcon
  · intro t x hx
    obtain ⟨hltx, hh⟩ := h.callers t x hx
    refine ⟨hltx, fun hk => ?_⟩
    have hxc : x ≠ c := by
      rintro rfl
      exact hcallers t hx hk
    exact ⟨(hstage x hxc).trans (hh hk).1, (hh hk).2⟩

/-- `~Connector` closes its socket. -/
lemma Tables.destructClose (h : Tables s) {c : ConnId} {fd : Fd} (hst : s.stage c = .close)
    (hsock : s.socket c = some fd) : Tables ((s.closeFd fd).setStage c .clearSocket) := by
  have hdead : s.alive c = false := alive_eq hst
  have hthis : s.loop.this ≠ some c := by
    intro hthis
    simp [(h.registered_of_this hthis).1] at hdead
  have hfd : s.fds fd = some c := by
    refine (h.held c fd (.inr hst) hsock).resolve_right fun hl => hthis ?_
    simp [hl, LoopPc.this]
  have hready : s.stage c ≠ .ready := by simp [hst]
  exact h.closeDead hfd (.inl rfl) (fun hc => hready (h.conn fd c hc).2.1) hthis
    fun t ht hk => hready ((h.callers t c ht).2 hk).1

/-- `socket_` of an object without a number is set to -1. -/
lemma Tables.clearSocket (h : Tables s) {c : ConnId} (hno : ∀ fd, s.fds fd ≠ some c) :
    Tables (s.clearSocket c) := by
  have hsocket : ∀ x, x ≠ c → (s.clearSocket c).socket x = s.socket x := by
    intro x hx
    simp [EventLoop.clearSocket, hx]
  have hne : ∀ x f, s.fds f = some x → x ≠ c := by
    rintro x f hx rfl
    exact hno f hx
  refine { h with fds := fun f x hx => ?_, held := fun x f ha hsock => ?_, conn := fun f x hx => ?_,
                  loop := ?_, accepted := fun t x f hx => ?_ }
  · rw [hsocket x (hne x f hx)]
    exact h.fds f x hx
  · have hxc : x ≠ c := by
      rintro rfl
      simp [EventLoop.clearSocket] at hsock
    exact h.held x f ha ((hsocket x hxc).symm.trans hsock)
  · rw [hsocket x (hne x f (h.fds_of_conn hx))]
    exact h.conn f x hx
  · have hloop := h.loop
    cases hl : s.loop with
    | addConnection x f =>
      rw [hl] at hloop
      obtain ⟨hk, hst, hsock, hrefs⟩ := hloop
      have hf := h.fds_connection hk (alive_eq hst) hsock
      have hl' : (s.clearSocket c).loop = .addConnection x f := hl
      rw [hl']
      exact ⟨hk, hst, (hsocket x (hne x f hf)).trans hsock, hrefs⟩
    | _ =>
      have hl' : (s.clearSocket c).loop = s.loop := rfl
      rw [hl] at hloop
      rw [hl', hl]
      exact hloop
  · have hx : s.callers t = .accepted x f := hx
    obtain ⟨hk, hsock, hrefs⟩ := h.accepted t x f hx
    exact ⟨hk, (hsocket x (hne x f (h.fds_of_accepted hx))).trans hsock, hrefs⟩

/-- `~Connector` clears `socket_`. -/
lemma Tables.destructClear (h : Tables s) {c : ConnId} (hst : s.stage c = .clearSocket) :
    Tables ((s.clearSocket c).setStage c .destroyed) := by
  have hno := h.cleared c hst
  have h' := h.clearSocket hno
  have hdead : s.alive c = false := alive_eq hst
  have hthis : s.loop.this ≠ some c := by
    intro hthis
    simp [(h.registered_of_this hthis).1] at hdead
  have hready : (s.clearSocket c).stage c ≠ .ready := by
    rw [show (s.clearSocket c).stage c = s.stage c from rfl, hst]
    simp
  exact h'.setDestroyed (h.lt_of_stage (by simp [hst])) hthis
    (h'.not_conn fun hr => absurd hr hready) (h'.not_caller fun hr => absurd hr hready)

/-! ### Shared pointers -/

lemma found_of_getConnection {fd : Fd} {c : ConnId} (hget : s.getConnection fd = some c) :
    s.mapConn fd = some c ∨ s.mapConnRaw fd = some c := by
  rw [EventLoop.getConnection] at hget
  cases hm : s.mapConn fd with
  | none => exact .inr (by simpa [hm] using hget)
  | some d => exact .inl (by simpa [hm] using hget)

/-- Nothing finds what was only accepted. -/
lemma Tables.not_found_of_accepted (h : Tables s) {t : Tid} {c : ConnId} {f : Fd}
    (hpc : s.callers t = .accepted c f) (fd : Fd) : s.getConnection fd ≠ some c := by
  obtain ⟨hk, -, hrefs⟩ := h.accepted t c f hpc
  intro hget
  rcases found_of_getConnection hget with hc | hc
  · have := (h.conn fd c hc).2.2.2
    simp [hrefs] at this
  · exact (h.raw fd c hc).1 hk

/-- A thread takes a pointer that it found in the tables. -/
lemma Tables.getConnection [DecidableEq Tid] (h : Tables s) {t : Tid} {fd : Fd} {c : ConnId}
    (hget : s.getConnection fd = some c) :
    Tables { s with
      callers := Function.update s.callers t (.holding c)
      refs := Function.update s.refs c (.thread t :: s.refs c) } := by
  have hc := found_of_getConnection hget
  have hmem : ∀ x r, r ∈ s.refs x →
      r ∈ Function.update s.refs c (.thread t :: s.refs c) x := by
    intro x r hr
    by_cases hx : x = c
    · subst hx
      simp [hr]
    · simpa [hx] using hr
  refine { h with conn := fun f x hx => ?_, loop := ?_, callers := fun u x hx => ?_,
                  accepted := fun u x f hx => ?_ }
  · obtain ⟨hk, hst, hsock, hr⟩ := h.conn f x hx
    exact ⟨hk, hst, hsock, hmem x _ hr⟩
  · have hloop := h.loop
    cases hl : s.loop with
    | addConnection x f =>
      rw [hl] at hloop
      have hxc : x ≠ c := by
        rintro rfl
        rcases hc with hc | hc
        · have := (h.conn fd x hc).2.2.2
          rw [hloop.2.2.2] at this
          cases this
        · exact (h.raw fd x hc).1 hloop.1
      exact ⟨hloop.1, hloop.2.1, hloop.2.2.1, by simpa [hxc] using hloop.2.2.2⟩
    | _ =>
      rw [hl] at hloop
      exact hloop
  · by_cases hu : u = t
    · subst hu
      obtain rfl : c = x := by simpa [CallerPc.conn] using hx
      rcases hc with hc | hc
      · exact ⟨(h.fds fd c (h.fds_of_conn hc)).2, fun _ => ⟨(h.conn fd c hc).2.1, by simp⟩⟩
      · exact ⟨(h.raw fd c hc).2.1, fun hk => absurd hk (h.raw fd c hc).1⟩
    · obtain ⟨hlt, hh⟩ := h.callers u x (by simpa [hu] using hx)
      exact ⟨hlt, fun hk => ⟨(hh hk).1, hmem x _ (hh hk).2⟩⟩
  · by_cases hu : u = t
    · simp [hu] at hx
    · have hacc : s.callers u = .accepted x f := by simpa [hu] using hx
      have hxc : x ≠ c := by
        rintro rfl
        exact h.not_found_of_accepted hacc _ hget
      simpa [hxc] using h.accepted u x f hacc

/-- A counted pointer to a `Connection` that has left `mapConn_`, or one of several, goes away. -/
lemma Tables.dropRef [DecidableEq Tid] (h : Tables s) {c : ConnId} {r : Ref Tid}
    (hst : s.kind c = .connection → s.stage c = .ready)
    (hthis : s.kind c = .connection → (s.refs c).erase r = [] → s.loop.this ≠ some c)
    (hmap : ∀ fd, s.mapConn fd = some c → r ≠ .mapConn)
    (hcallers : ∀ t, (s.callers t).conn = some c → r ≠ .thread t)
    (haccepted : ∀ t fd, s.callers t ≠ .accepted c fd) : Tables (s.dropRef c r) := by
  have hmem : ∀ x p, p ∈ s.refs x → (x = c → p ≠ r) →
      p ∈ Function.update s.refs c ((s.refs c).erase r) x := by
    intro x p hp hne
    by_cases hx : x = c
    · subst hx
      simpa using (List.mem_erase_of_ne (hne rfl)).mpr hp
    · simpa [hx] using hp
  have hrefs : Tables { s with refs := Function.update s.refs c ((s.refs c).erase r) } := by
    refine { h with conn := fun f x hx => ?_, loop := ?_, callers := fun u x hx => ?_,
                    accepted := fun u x f hx => ?_ }
    · obtain ⟨hk, hst, hsock, hr⟩ := h.conn f x hx
      refine ⟨hk, hst, hsock, hmem x _ hr ?_⟩
      rintro rfl
      exact (hmap f hx).symm
    · have hloop := h.loop
      cases hl : s.loop with
      | addConnection x f =>
        rw [hl] at hloop
        refine ⟨hloop.1, hloop.2.1, hloop.2.2.1, ?_⟩
        by_cases hx : x = c
        · subst hx
          simp [hloop.2.2.2]
        · simpa [hx] using hloop.2.2.2
      | _ =>
        rw [hl] at hloop
        exact hloop
    · obtain ⟨hlt, hh⟩ := h.callers u x hx
      refine ⟨hlt, fun hk => ⟨(hh hk).1, hmem x _ (hh hk).2 ?_⟩⟩
      rintro rfl
      exact (hcallers u hx).symm
    · have hxc : x ≠ c := by
        rintro rfl
        exact haccepted u f hx
      simpa [hxc] using h.accepted u x f hx
  unfold EventLoop.dropRef
  dsimp only
  split_ifs with hc
  · obtain ⟨hnil, hk⟩ := hc
    have hready := hst hk
    have halive : s.alive c = true := alive_eq hready
    have hempty : ∀ p, p ∈ s.refs c → p = r := by
      intro p hp
      by_contra hne
      have := hmem c p hp fun _ => hne
      simp [hnil] at this
    have hmapped : ∀ fd, s.mapConn fd ≠ some c :=
      fun fd hm => hmap fd hm (hempty _ (h.conn fd c hm).2.2.2).symm
    have hheld : ∀ t, (s.callers t).conn = some c → s.kind c ≠ .connection :=
      fun t ht _ => hcallers t ht (hempty _ ((h.callers t c ht).2 hk).2).symm
    rw [destroyConnection]
    split
    next hsock => exact hrefs.setDestroyed (h.lt_of_alive halive) (hthis hk hnil) hmapped hheld
    next fd hsock =>
      have hfd : s.fds fd = some c := h.fds_connection hk halive hsock
      exact hrefs.closeDead hfd (.inr rfl) (hmapped fd) (hthis hk hnil) hheld
  · exact hrefs

/-- Where a thread is does not matter, as long as it has no new pointer to a `Connection`. -/
lemma unmoved_setCaller [DecidableEq Tid] {t : Tid} {pc : CallerPc}
    (hpc : ∀ c, pc.conn = some c →
      (s.callers t).conn = some c ∨ c < s.created ∧ s.kind c ≠ .connection)
    (haccepted : ∀ c fd, pc ≠ .accepted c fd) : Unmoved s (s.setCaller t pc) where
  fds := rfl
  callbacks := rfl
  mapConn := rfl
  mapConnRaw := rfl
  created := rfl
  kind := rfl
  tasksOn := rfl
  epoll := fun _ => id
  stage := rfl
  socket := rfl
  refs := rfl
  callers := fun u c hc => by
    by_cases hu : u = t
    · subst hu
      exact hpc c (by simpa [setCaller] using hc)
    · exact .inl (by simpa [setCaller, hu] using hc)
  accepted := fun u c fd hc => by
    by_cases hu : u = t
    · exact absurd (by simpa [setCaller, hu] using hc) (haccepted c fd)
    · simpa [setCaller, hu] using hc
  due := fun _ => id
  events := id
  loop := rfl
  busy := fun _ => id

/-- A `Connection` in whose callback the loop thread is was just accepted or is in `mapConn_`. -/
lemma Owners.mapped_of_this (h : Owners s) {c : ConnId} (hthis : s.loop.this = some c)
    (hk : s.kind c = .connection) : s.refs c = [] ∨ .mapConn ∈ s.refs c := by
  have hloop := h.loop
  have hserving : ∀ fd, s.Serving c fd → .mapConn ∈ s.refs c := by
    rintro fd ⟨-, hc | he⟩
    · exact (h.conn fd c hc).2.2.2
    · exact absurd (hk.symm.trans he.1) (by simp)
  cases hl : s.loop with
  | idle | accepting => simp [hl, LoopPc.this] at hthis
  | addConnection d fd =>
    obtain rfl : d = c := by simpa [hl, LoopPc.this] using hthis
    rw [hl] at hloop
    exact .inl hloop.2.2.2
  | addEvent d fd =>
    obtain rfl : d = c := by simpa [hl, LoopPc.this] using hthis
    rw [hl] at hloop
    exact .inr (h.conn fd d hloop).2.2.2
  | reading d fd out | writing d fd =>
    obtain rfl : d = c := by simpa [hl, LoopPc.this] using hthis
    rw [hl] at hloop
    exact .inr (hserving fd hloop)
  | removeEvent d fd | close d fd | clearSocket d fd =>
    obtain rfl : d = c := by simpa [hl, LoopPc.this] using hthis
    rw [hl] at hloop
    exact absurd (hk.symm.trans hloop.1.1) (by simp)

/-- A thread lets go of its pointer. -/
lemma Tables.release [DecidableEq Tid] (h : Tables s) {t : Tid} {c : ConnId}
    (hpc : s.callers t = .holding c ∨ s.callers t = .leaving c) :
    Tables ((s.setCaller t .idle).dropRef c (.thread t)) := by
  have hc := h.callers t c (by rcases hpc with hpc | hpc <;> simp [hpc, CallerPc.conn])
  have hidle : Unmoved s (s.setCaller t .idle) :=
    unmoved_setCaller (fun _ hc => by cases hc) fun _ _ hc => by cases hc
  refine (h.unmoved hidle).dropRef (fun hk => (hc.2 hk).1) (fun hk hnil hthis => ?_)
    (by simp) (fun u hu hut => ?_) fun u fd hu => ?_
  · have href : .thread t ∈ s.refs c := (hc.2 hk).2
    have hnil : (s.refs c).erase (.thread t) = [] := hnil
    rcases h.mapped_of_this hthis hk with hnone | hmap
    · simp [hnone] at href
    · have := (List.mem_erase_of_ne (b := .thread t) (by simp)).mpr hmap
      simp [hnil] at this
  · obtain rfl : t = u := by simpa using hut
    simp [setCaller, CallerPc.conn] at hu
  · by_cases hut : u = t
    · simp [setCaller, hut] at hu
    · obtain ⟨hk, -, hrefs⟩ := h.accepted u c fd (by simpa [setCaller, hut] using hu)
      have := (hc.2 hk).2
      rw [hrefs, List.mem_singleton] at this
      exact hut (Ref.thread.inj this).symm

/-! ### Entered by another loop -/

/-- What is `accept`ed for this loop is not known here. -/
lemma Tables.acceptFor [DecidableEq Tid] (h : Tables s) {t : Tid} {fd : Fd}
    (hpc : s.callers t = .idle) (hfd : s.fds fd = none) : Tables (s.acceptFor t fd) := by
  have hnew : Tables (s.create fd .connection .ready false) :=
    h.create hfd rfl fun hreg => absurd hreg (by simp [Stage.unregistered])
  have hrefs : ∀ x, x ≠ s.created → (s.acceptFor t fd).refs x = s.refs x := by
    intro x hx
    simp [EventLoop.acceptFor, EventLoop.create, hx]
  have hold : ∀ x, x < s.created →
      (s.create fd .connection .ready false).refs x = (s.acceptFor t fd).refs x := by
    intro x hx
    simp [EventLoop.acceptFor, EventLoop.create, Nat.ne_of_lt hx]
  refine { hnew with conn := fun f x hx => ?_, loop := ?_, callers := fun u x hx => ?_,
                     accepted := fun u x f hx => ?_ }
  · obtain ⟨hk, hst, hsock, hr⟩ := hnew.conn f x hx
    refine ⟨hk, hst, hsock, ?_⟩
    rw [← hold x (h.fds f x (h.fds_of_conn hx)).2]
    exact hr
  · have hloop := hnew.loop
    have hsame : (s.acceptFor t fd).loop = s.loop := rfl
    rw [hsame]
    cases hl : s.loop with
    | addConnection x f =>
      have hl' : (s.create fd .connection .ready false).loop = .addConnection x f := hl
      have hx : x < s.created := by
        have hloop := h.loop
        rw [hl] at hloop
        exact h.lt_of_alive (alive_eq hloop.2.1)
      rw [hl'] at hloop
      exact ⟨hloop.1, hloop.2.1, hloop.2.2.1, (hold x hx).symm.trans hloop.2.2.2⟩
    | _ =>
      have hl' : (s.create fd .connection .ready false).loop = s.loop := rfl
      rw [hl', hl] at hloop
      exact hloop
  · by_cases hu : u = t
    · subst hu
      obtain rfl : s.created = x := by simpa [EventLoop.acceptFor, CallerPc.conn] using hx
      exact ⟨Nat.lt_succ_self _, fun _ =>
        ⟨by simp [EventLoop.acceptFor, EventLoop.create], by simp [EventLoop.acceptFor]⟩⟩
    · have hx : (s.callers u).conn = some x := by simpa [EventLoop.acceptFor, hu] using hx
      obtain ⟨hlt, hh⟩ := hnew.callers u x hx
      refine ⟨hlt, fun hk => ⟨(hh hk).1, ?_⟩⟩
      rw [← hold x (h.callers u x hx).1]
      exact (hh hk).2
  · by_cases hu : u = t
    · subst hu
      obtain ⟨rfl, rfl⟩ : s.created = x ∧ fd = f := by simpa [EventLoop.acceptFor] using hx
      simp [EventLoop.acceptFor, EventLoop.create]
    · have hx : s.callers u = .accepted x f := by simpa [EventLoop.acceptFor, hu] using hx
      obtain ⟨hk, hsock, hr⟩ := hnew.accepted u x f hx
      exact ⟨hk, hsock, (hold x (h.lt_of_accepted hx)).symm.trans hr⟩

lemma Tables.mapConn_of_accepted (h : Tables s) {t : Tid} {c : ConnId} {fd : Fd}
    (hpc : s.callers t = .accepted c fd) : s.mapConn fd = none := by
  by_contra hne
  obtain ⟨d, hd⟩ := Option.ne_none_iff_exists'.mp hne
  obtain rfl : c = d := (h.eq_of_conn (h.fds_of_accepted hpc) hd).symm
  exact h.not_found_of_accepted hpc fd (by simp [EventLoop.getConnection, hd])

/-- `AddConnection` in the thread of another loop. -/
lemma Tables.enterConnection [DecidableEq Tid] (h : Tables s) {t : Tid} {c : ConnId} {fd : Fd}
    (hpc : s.callers t = .accepted c fd) :
    Tables ((s.addConnection c fd).setCaller t (.entered c fd)) := by
  obtain ⟨hk, hsock, hrefs⟩ := h.accepted t c fd hpc
  have hst := ((h.callers t c (by simp [hpc, CallerPc.conn])).2 hk).1
  have hmem : ∀ x r, r ∈ s.refs x →
      r ∈ Function.update s.refs c (.mapConn :: s.refs c) x := by
    intro x r hr
    by_cases hx : x = c
    · subst hx
      simp [hr]
    · simpa [hx] using hr
  have hentry : ∀ f x, s.mapConn f = some x →
      Function.update s.mapConn fd (some c) f = some x := by
    intro f x hx
    have hf : f ≠ fd := by
      rintro rfl
      rw [h.mapConn_of_accepted hpc] at hx
      cases hx
    simpa [hf] using hx
  rw [EventLoop.addConnection]
  simp only [h.mapConn_of_accepted hpc]
  refine { h with
    conn := fun f x hx => ?_, loop := ?_, stale := fun f hs => (h.stale f hs).imp_right ?_,
    callers := fun u x hx => ?_, accepted := fun u x f hx => ?_ }
  · by_cases hf : f = fd
    · subst hf
      obtain rfl : c = x := by simpa [setCaller] using hx
      exact ⟨hk, hst, hsock, by simp [setCaller]⟩
    · obtain ⟨hkx, hstx, hsx, hr⟩ := h.conn f x (by simpa [setCaller, hf] using hx)
      exact ⟨hkx, hstx, hsx, hmem x _ hr⟩
  · have hloop := h.loop
    cases hl : s.loop with
    | addConnection x f =>
      rw [hl] at hloop
      have hxc : x ≠ c := by
        rintro rfl
        rw [hloop.2.2.2] at hrefs
        cases hrefs
      exact ⟨hloop.1, hloop.2.1, hloop.2.2.1, by simpa [setCaller, hxc] using hloop.2.2.2⟩
    | addEvent x f =>
      rw [hl] at hloop
      exact hentry f x hloop
    | reading x f out | writing x f =>
      rw [hl] at hloop
      exact ⟨hloop.1, hloop.2.imp_left (hentry f x)⟩
    | _ =>
      rw [hl] at hloop
      exact hloop
  · intro hcalled hev hc
    refine hcalled hev ⟨hc.1, ?_⟩
    by_contra hne
    obtain ⟨x, hx⟩ := Option.ne_none_iff_exists'.mp hne
    have := (hentry f x hx).symm.trans hc.2
    cases this
  · by_cases hu : u = t
    · subst hu
      obtain rfl : c = x := by simpa [setCaller, CallerPc.conn] using hx
      exact ⟨h.lt_of_accepted hpc, fun _ => ⟨hst, hmem c _ (by simp [hrefs])⟩⟩
    · obtain ⟨hlt, hh⟩ := h.callers u x (by simpa [setCaller, hu] using hx)
      exact ⟨hlt, fun hkx => ⟨(hh hkx).1, hmem x _ (hh hkx).2⟩⟩
  · by_cases hu : u = t
    · simp [setCaller, hu] at hx
    · have hx : s.callers u = .accepted x f := by simpa [setCaller, hu] using hx
      obtain ⟨hkx, hsx, hrx⟩ := h.accepted u x f hx
      have hxc : x ≠ c := by
        rintro rfl
        rw [hrefs, List.cons.injEq] at hrx
        exact hu (Ref.thread.inj hrx.1).symm
      exact ⟨hkx, hsx, by simpa [setCaller, hxc] using hrx⟩

/-- `AddEvent` in the thread of another loop. -/
lemma Tables.enterEvent [DecidableEq Tid] (h : Tables s) {t : Tid} {c : ConnId} {fd : Fd}
    (hpc : s.callers t = .entered c fd) :
    Tables ((s.queueInLoop (.addEvent c fd .r)).setCaller t (.leaving c)) := by
  have hq : (s.queueInLoop (.addEvent c fd .r)).callers t = .entered c fd := hpc
  refine (h.queueInLoop _).unmoved (unmoved_setCaller (fun x hx => .inl ?_) (by simp))
  simpa [hq, CallerPc.conn] using hx

/-! ### Tasks -/

/-- Removals for other numbers stay due when a task is taken from the batch. -/
lemma RemovalDue.pop {task : PendingTask} {rest : List PendingTask} {fd : Fd}
    (hph : s.phase = .tasks (task :: rest)) (h : s.RemovalDue fd)
    (ht : ∀ c, task ≠ .removeConnection c fd) : (s.setPhase (.tasks rest)).RemovalDue fd := by
  obtain ⟨c, hc⟩ := h
  refine ⟨c, ?_⟩
  have hc : .removeConnection c fd ∈ task :: rest := by simpa only [due, hph] using hc
  exact (List.mem_cons.mp hc).resolve_left fun he => ht c he.symm

lemma not_inEvents {s : EventLoop Tid} {batch : List PendingTask} (hph : s.phase = .tasks batch) :
    ¬ s.InEvents := by
  rintro ⟨fired, hf⟩
  rw [hph] at hf
  cases hf

/-- A task that does not touch the registrations is taken from the batch. -/
lemma unmoved_setPhase {task : PendingTask} {rest : List PendingTask} (hpc : s.loop = .idle)
    (hph : s.phase = .tasks (task :: rest)) (ht : ∀ fd, registers fd task = false) :
    Unmoved s (s.setPhase (.tasks rest)) where
  fds := rfl
  callbacks := rfl
  mapConn := rfl
  mapConnRaw := rfl
  created := rfl
  kind := rfl
  tasksOn := by
    funext fd
    exact tasksOn_of_tasks_of_not hph (ht fd)
  epoll := fun _ => id
  stage := rfl
  socket := rfl
  refs := rfl
  callers := fun _ _ => .inl
  accepted := fun _ _ _ => id
  due := fun fd hfd => hfd.pop hph fun c hc => by
    have := ht fd
    simp [hc, registers] at this
  events := fun he => absurd he (not_inEvents rfl)
  loop := rfl
  busy := fun hne => absurd hpc hne

/-- The task of `AddEvent`. -/
lemma Tables.taskAddEvent (h : Tables s) {c : ConnId} {fd : Fd} {events : Interest}
    {rest : List PendingTask} (hpc : s.loop = .idle)
    (hph : s.phase = .tasks (.addEvent c fd events :: rest)) :
    Tables ((s.setPhase (.tasks rest)).addEvent c fd events) := by
  obtain ⟨_, _, he⟩ := addEvent_eq (s.setPhase (.tasks rest)) c fd events
  have hloop : (s.setPhase (.tasks rest)).loop = .idle := hpc
  rw [he]
  refine { h with
    loop := by rw [hloop]; trivial
    busy := fun hne => absurd hloop hne
    stale := fun f hs => ⟨?_, fun hev => absurd hev (not_inEvents rfl)⟩ }
  exact (h.stale f hs).1.pop hph (by simp)

/-- The task of `RemoveConnection`. -/
lemma Tables.taskRemove [DecidableEq Tid] (h : Tables s) {c : ConnId} {fd : Fd}
    {rest : List PendingTask} (hpc : s.loop = .idle)
    (hph : s.phase = .tasks (.removeConnection c fd :: rest)) :
    Tables ((s.setPhase (.tasks rest)).removeConnection fd) := by
  have hloop : (s.setPhase (.tasks rest)).loop = .idle := hpc
  have htables : Tables { (s.setPhase (.tasks rest)).removeEvent fd with
      mapConn := Function.update s.mapConn fd none
      mapConnRaw := Function.update s.mapConnRaw fd none } := by
    have hentry : ∀ (m : Fd → Option ConnId) f x, Function.update m fd none f = some x →
        f ≠ fd ∧ m f = some x := by
      intro m f x hx
      by_cases hf : f = fd
      · simp [hf] at hx
      · exact ⟨hf, by simpa [hf] using hx⟩
    refine { h with
      conn := fun f x hx => h.conn f x (hentry _ f x hx).2
      raw := fun f x hx => h.raw f x (hentry _ f x hx).2
      loop := ?_
      busy := fun hne => absurd hloop hne
      stale := fun f hs => ⟨?_, fun hev => absurd hev (not_inEvents rfl)⟩ }
    · simp only [EventLoop.removeEvent, hloop]
      trivial
    · obtain ⟨x, hx, ha, hne⟩ := hs
      obtain ⟨hf, hx⟩ := hentry _ f x hx
      refine (h.stale f ⟨x, hx, ha, hne⟩).1.pop hph fun y hy => hf ?_
      cases hy
      rfl
  rw [EventLoop.removeConnection]
  cases hm : s.mapConn fd with
  | none =>
    have hm' : (s.setPhase (.tasks rest)).mapConn fd = none := hm
    simp only [hm']
    exact htables
  | some x =>
    have hm' : (s.setPhase (.tasks rest)).mapConn fd = some x := hm
    simp only [hm']
    refine htables.dropRef (fun _ => (h.conn fd x hm).2.1) (fun _ _ => ?_) (fun f hf => ?_)
      (by simp) fun u f hu => ?_
    · simp [EventLoop.removeEvent, hloop, LoopPc.this]
    · by_cases hfd : f = fd
      · simp [hfd] at hf
      · have hf : s.mapConn f = some x := by simpa [setPhase, hfd] using hf
        exact absurd (h.fds_unique (h.fds_of_conn hf) (h.fds_of_conn hm)) hfd
    · have hu : s.callers u = .accepted x f := hu
      exact h.not_found_of_accepted hu fd (by simp [EventLoop.getConnection, hm])

end Balabala.EventLoop
