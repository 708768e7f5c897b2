import Balabala.Server.Tables

/-!
# Where the threads and the tasks are

What the steps of the threads keep of the relation between the places the threads are at, the tasks
in the queues of the loops, the events to come, and what was done last for each connection.
-/

namespace Balabala.TcpServer

open Foundation

variable {s s' : TcpServer} {l : LoopId} {c : ConnId} {pc : LoopPc} {t : Task}

/-! ### What depends on one connection only -/

lemma Fits.congr (h : s.Fits l pc)
    (hc : ∀ d, pc.conn = some d → s'.life d = s.life d ∧ s'.home d = s.home d) : s'.Fits l pc := by
  cases pc with
  | idle | accepting => exact h
  | addConnection d | bindFdToActor d | sendConnected d | addEvent d | reading d _ | sendByFd d _ _
  | send d _ _ _ | unbindFd d _ | removeConnection d _ | writing d =>
    obtain ⟨hlife, hhome⟩ := hc d rfl
    simpa only [Fits, hlife, hhome] using h

lemma TaskFits.congr (h : s.TaskFits l t) (hc : ∀ d, t.subject = some d →
    s'.life d = s.life d ∧ s'.home d = s.home d ∧ s'.socket d = s.socket d) : s'.TaskFits l t := by
  cases t with
  | addEvent d fd | removeConnection d fd =>
    obtain ⟨hlife, hhome, hsocket⟩ := hc d rfl
    simpa only [TaskFits, hlife, hhome, hsocket] using h
  | send => exact h

/-- What was done last for the connection that a task adds or removes. -/
lemma TaskFits.life (h : s.TaskFits l t) (hc : t.subject = some c) :
    s.home c = l ∧ (s.life c = .queued ∨ s.life c = .leaving) := by
  cases t with
  | addEvent d fd =>
    cases hc
    exact ⟨h.2.1, .inl h.1⟩
  | removeConnection d fd =>
    cases hc
    exact ⟨h.2.1, .inr h.1⟩
  | send => cases hc

lemma mem_subjects {ts : List Task} : c ∈ ts.filterMap Task.subject ↔
    ∃ t ∈ ts, t.subject = some c := List.mem_filterMap

/-- A thread is at no connection that waits for its `AddEvent`. -/
lemma Staged.conn_ne (h : Staged s) (hlife : s.life c = .queued ∨ s.life c = .removed) :
    (s.loop l).conn ≠ some c := by
  intro hc
  obtain ⟨hremoved, hqueued⟩ := (h.pc l).life hc
  rcases hlife with he | he
  · exact hqueued he
  · exact hremoved he

lemma queue_eq_of_phase (hphase : s'.phase l = s.phase l) {new : List Task}
    (hpending : s'.pendingTasks l = s.pendingTasks l ++ new) : s'.queue l = s.queue l ++ new := by
  rw [queue, queue, hphase, hpending]
  split
  · rfl
  · rw [List.append_assoc]

lemma mem_nextTasks_of_phase (hphase : s'.phase l = s.phase l) {new : List Task}
    (hpending : s'.pendingTasks l = s.pendingTasks l ++ new) (ht : t ∈ s.nextTasks l) :
    t ∈ s'.nextTasks l := by
  rw [nextTasks] at ht ⊢
  rw [hphase, hpending]
  split at ht
  · exact List.mem_append_left _ ht
  · exact ht

lemma fired_of_phase (hphase : s'.phase l = s.phase l) : s'.fired l = s.fired l := by
  rw [TcpServer.fired, TcpServer.fired, hphase]

/-! ### Steps -/

/-- No thread of a loop moves; at most tasks that send are queued, and numbers of removed
connections are closed. -/
lemma Staged.frame (h : Staged s) (new : LoopId → List Task)
    (hfds : ∀ f d, s.fds f = some d → s.life d = .serving → s'.fds f = some d)
    (hhome : s'.home = s.home) (hsocket : s'.socket = s.socket) (hlife : s'.life = s.life)
    (hphase : s'.phase = s.phase) (hloop : s'.loop = s.loop)
    (hpending : ∀ l, s'.pendingTasks l = s.pendingTasks l ++ new l)
    (hnew : ∀ l, ∀ t ∈ new l, t.subject = none) : Staged s' where
  pc l := by
    rw [hloop]
    exact (h.pc l).congr fun d _ => ⟨by rw [hlife], by rw [hhome]⟩
  events l hl := by
    rw [hphase]
    exact h.events l (hloop ▸ hl)
  busy d hd := by
    rw [hloop, hhome]
    exact h.busy d (hlife ▸ hd)
  tasks l t ht := by
    rw [queue_eq_of_phase (congrFun hphase _) (hpending l), List.mem_append] at ht
    rcases ht with ht | ht
    · exact (h.tasks l t ht).congr fun d _ => ⟨by rw [hlife], by rw [hhome], by rw [hsocket]⟩
    · cases t with
      | send => trivial
      | addEvent | removeConnection => cases hnew l _ ht
  once l := by
    have hnone : (new l).filterMap Task.subject = [] :=
      List.filterMap_eq_nil_iff.mpr (hnew l)
    rw [queue_eq_of_phase (congrFun hphase _) (hpending l), List.filterMap_append, hnone,
      List.append_nil]
    exact h.once l
  leaving d hd := by
    rw [hsocket, hhome]
    exact mem_nextTasks_of_phase (congrFun hphase _) (hpending _) (h.leaving d (hlife ▸ hd))
  distinct l := by
    rw [fired_of_phase (congrFun hphase _)]
    exact h.distinct l
  fired l e he := by
    rw [fired_of_phase (congrFun hphase _)] at he
    obtain ⟨d, hd, hhd, hserving, hconn⟩ := h.fired l e he
    exact ⟨d, hfds _ _ hd hserving, by rw [hhome, hhd], by rw [hlife, hserving], by rwa [hloop]⟩

/-- The thread of the loop `l`, which is at `c`, moves on to `pc`, the last thing done for `c` is
then `x`, and the tasks `new` are queued. -/
structure Moved (s : TcpServer) (l : LoopId) (c : ConnId) (x : Life) (pc : LoopPc)
    (new : LoopId → List Task) (s' : TcpServer) : Prop where
  conn : (s.loop l).conn = some c
  fds : s'.fds = s.fds
  home : s'.home = s.home
  socket : s'.socket = s.socket
  phase : s'.phase = s.phase
  pending : ∀ l, s'.pendingTasks l = s.pendingTasks l ++ new l
  loop : s'.loop = Function.update s.loop l pc
  life : s'.life = Function.update s.life c x

namespace Moved

variable {x : Life} {new : LoopId → List Task} {l' : LoopId} {d : ConnId}

lemma life_self (hm : Moved s l c x pc new s') : s'.life c = x := by
  rw [hm.life, Function.update_self]

lemma life_of_ne (hm : Moved s l c x pc new s') (hd : d ≠ c) : s'.life d = s.life d := by
  rw [hm.life, Function.update_of_ne hd]

lemma loop_self (hm : Moved s l c x pc new s') : s'.loop l = pc := by
  rw [hm.loop, Function.update_self]

lemma loop_of_ne (hm : Moved s l c x pc new s') (hl : l' ≠ l) : s'.loop l' = s.loop l' := by
  rw [hm.loop, Function.update_of_ne hl]

lemma queue_eq (hm : Moved s l c x pc new s') (l' : LoopId) :
    s'.queue l' = s.queue l' ++ new l' :=
  queue_eq_of_phase (congrFun hm.phase _) (hm.pending l')

lemma fired_eq (hm : Moved s l c x pc new s') (l' : LoopId) : s'.fired l' = s.fired l' :=
  fired_of_phase (congrFun hm.phase _)

lemma not_queued (hm : Moved s l c x pc new s') (h : Staged s) : s.life c ≠ .queued :=
  ((h.pc l).life hm.conn).2

lemma fits (hm : Moved s l c x pc new s') (h : Staged s) (hfits : s'.Fits l pc) (l' : LoopId) :
    s'.Fits l' (s'.loop l') := by
  by_cases hll : l' = l
  · subst hll
    rwa [hm.loop_self]
  · rw [hm.loop_of_ne hll]
    refine (h.pc l').congr fun d hd => ⟨hm.life_of_ne ?_, by rw [hm.home]⟩
    rintro rfl
    exact hll (h.unique hd hm.conn)

lemma events (hm : Moved s l c x pc new s') (h : Staged s) (hne : s'.loop l' ≠ .idle) :
    ∃ fired, s'.phase l' = .events fired := by
  rw [hm.phase]
  refine h.events l' fun hidle => ?_
  by_cases hll : l' = l
  · subst hll
    have hconn := hm.conn
    rw [hidle] at hconn
    cases hconn
  · rw [hm.loop_of_ne hll] at hne
    exact hne hidle

lemma busy (hm : Moved s l c x pc new s') (h : Staged s) (hfits : s'.Fits l pc)
    (hbusy : x = .closing ∨ x = .unbound → pc.conn = some c)
    (hd : s'.life d = .closing ∨ s'.life d = .unbound) :
    (s'.loop (s'.home d)).conn = some d := by
  rw [hm.home]
  by_cases hdc : d = c
  · subst hdc
    rw [hm.life_self] at hd
    have hpc := hbusy hd
    have hhomel : s.home d = l := by
      rw [hfits.keeper hpc, keeper, hm.life_self, hm.home]
      rcases hd with rfl | rfl <;> rfl
    rw [hhomel, hm.loop_self, hpc]
  · rw [hm.life_of_ne hdc] at hd
    have hbusy' := h.busy d hd
    have hne : s.home d ≠ l := by
      rintro he
      rw [he, hm.conn] at hbusy'
      exact hdc (Option.some.inj hbusy').symm
    rwa [hm.loop_of_ne hne]

/-- The tasks that wait already still fit: a task of `c` is there only when `c` is leaving. -/
lemma taskFits (hm : Moved s l c x pc new s') (h : Staged s)
    (hx : x = s.life c ∨ s.life c ≠ .leaving) (ht : t ∈ s.queue l') : s'.TaskFits l' t := by
  have hfit := h.tasks l' t ht
  refine hfit.congr fun d hd => ⟨?_, by rw [hm.home], by rw [hm.socket]⟩
  by_cases hdc : d = c
  · subst hdc
    have hleaving := (hfit.life hd).2.resolve_left (hm.not_queued h)
    rw [hm.life_self]
    exact hx.resolve_right (not_not.mpr hleaving)
  · exact hm.life_of_ne hdc

lemma once (hm : Moved s l c x pc new s') (h : Staged s)
    (hnew : new l' = [] ∨ s.life c ≠ .leaving ∧ ∃ t, new l' = [t] ∧ t.subject = some c) :
    ((s'.queue l').filterMap Task.subject).Nodup := by
  rw [hm.queue_eq, List.filterMap_append]
  rcases hnew with hnil | ⟨hnotleaving, t, hnew, hsubject⟩
  · rw [hnil, List.filterMap_nil, List.append_nil]
    exact h.once l'
  · rw [hnew, List.filterMap_cons_some hsubject, List.filterMap_nil]
    refine List.nodup_append.mpr ⟨h.once l', by simp, ?_⟩
    rintro d hmem _ hd rfl
    obtain rfl := List.mem_singleton.mp hd
    obtain ⟨t, ht, hsub⟩ := mem_subjects.mp hmem
    exact ((h.tasks l' t ht).life hsub).2.elim (hm.not_queued h) hnotleaving

lemma leaving (hm : Moved s l c x pc new s') (h : Staged s)
    (hleaving : x = .leaving → s.life c = .leaving ∨
      Task.removeConnection c (s.socket c) ∈ s'.nextTasks (s.home c))
    (hd : s'.life d = .leaving) :
    Task.removeConnection d (s'.socket d) ∈ s'.nextTasks (s'.home d) := by
  rw [hm.socket, hm.home]
  have hmono : ∀ t, t ∈ s.nextTasks (s.home d) → t ∈ s'.nextTasks (s.home d) :=
    fun t => mem_nextTasks_of_phase (congrFun hm.phase _) (hm.pending _)
  by_cases hdc : d = c
  · subst hdc
    rcases hleaving (hm.life_self.symm.trans hd) with hold | hin
    · exact hmono _ (h.leaving d hold)
    · exact hin
  · rw [hm.life_of_ne hdc] at hd
    exact hmono _ (h.leaving d hd)

lemma fired (hm : Moved s l c x pc new s') (h : Staged s) (hconn : ∀ d, pc.conn = some d → d = c)
    {e : FiredEvent} (he : e ∈ s'.fired l') : ∃ d, s'.fds e.fd = some d ∧ s'.home d = l' ∧
      s'.life d = .serving ∧ (s'.loop l').conn ≠ some d := by
  rw [hm.fired_eq] at he
  obtain ⟨d, hd, hhome, hserving, hne⟩ := h.fired l' e he
  -- the event of `c` itself has been taken from the batch
  have hdc : d ≠ c := by
    rintro rfl
    have hkeeper := (h.pc l).keeper hm.conn
    simp only [keeper, hserving] at hkeeper
    rw [← hhome, ← hkeeper] at hne
    exact hne hm.conn
  refine ⟨d, by rw [hm.fds, hd], by rw [hm.home, hhome], by rw [hm.life_of_ne hdc, hserving], ?_⟩
  by_cases hll : l' = l
  · subst hll
    rw [hm.loop_self]
    exact fun hpc => hdc (hconn d hpc)
  · rwa [hm.loop_of_ne hll]

end Moved

/-- The thread of the loop `l`, which is at `c`, moves on, does something for `c` and may queue a
task for it. -/
theorem Staged.move (h : Staged s) (hl : (s.loop l).conn = some c) {x : Life}
    (new : LoopId → List Task) (hfds : s'.fds = s.fds) (hhome : s'.home = s.home)
    (hsocket : s'.socket = s.socket) (hphase : s'.phase = s.phase)
    (hpending : ∀ l, s'.pendingTasks l = s.pendingTasks l ++ new l)
    (hloop : s'.loop = Function.update s.loop l pc) (hlife : s'.life = Function.update s.life c x)
    (hx : x = s.life c ∨ s.life c ≠ .leaving) (hfits : s'.Fits l pc)
    (hconn : ∀ d, pc.conn = some d → d = c)
    (hbusy : x = .closing ∨ x = .unbound → pc.conn = some c)
    (hnew : ∀ l, new l = [] ∨ s.life c ≠ .leaving ∧
      ∃ t, new l = [t] ∧ t.subject = some c ∧ s'.TaskFits l t)
    (hleaving : x = .leaving → s.life c = .leaving ∨
      Task.removeConnection c (s.socket c) ∈ s'.nextTasks (s.home c)) : Staged s' := by
  have hm : Moved s l c x pc new s' :=
    ⟨hl, hfds, hhome, hsocket, hphase, hpending, hloop, hlife⟩
  exact {
    pc := hm.fits h hfits
    events := fun _ hne => hm.events h hne
    busy := fun _ hd => hm.busy h hfits hbusy hd
    tasks := by
      intro l' t ht
      rw [hm.queue_eq, List.mem_append] at ht
      rcases ht with ht | ht
      · exact hm.taskFits h hx ht
      · rcases hnew l' with hnil | ⟨-, t', hnew', -, hfit⟩
        · rw [hnil] at ht
          cases ht
        · rw [hnew', List.mem_singleton] at ht
          rwa [ht]
    once := fun l' => hm.once h <| (hnew l').imp_right fun ⟨hnotleaving, t, ht, hsubject, _⟩ =>
      ⟨hnotleaving, t, ht, hsubject⟩
    leaving := fun _ hd => hm.leaving h hleaving hd
    distinct := by
      intro l'
      rw [hm.fired_eq]
      exact h.distinct l'
    fired := fun _ _ he => hm.fired h hconn he }

/-- The thread of a loop goes between two places where it is at no connection. -/
lemma Staged.setLoop (h : Staged s) (hl : (s.loop l).conn = none) (hpc : pc.conn = none)
    (hfits : s.Fits l pc) (hphase : pc ≠ .idle → ∃ fired, s.phase l = .events fired) :
    Staged (s.setLoop l pc) where
  pc l' := by
    by_cases hll : l' = l
    · subst hll
      rw [loop_setLoop]
      exact hfits.congr fun _ _ => ⟨rfl, rfl⟩
    · rw [loop_setLoop_of_ne s hll]
      exact (h.pc l').congr fun _ _ => ⟨rfl, rfl⟩
  events l' hne := by
    by_cases hll : l' = l
    · subst hll
      rw [loop_setLoop] at hne
      exact hphase hne
    · rw [loop_setLoop_of_ne s hll] at hne
      exact h.events l' hne
  busy d hd := by
    have hbusy := h.busy d hd
    have hne : s.home d ≠ l := by
      rintro he
      rw [he, hl] at hbusy
      cases hbusy
    exact (congrArg LoopPc.conn (loop_setLoop_of_ne s hne pc)).trans hbusy
  tasks := h.tasks
  once := h.once
  leaving := h.leaving
  distinct := h.distinct
  fired l' e he := by
    obtain ⟨d, hd, hhome, hserving, hne⟩ := h.fired l' e he
    refine ⟨d, hd, hhome, hserving, ?_⟩
    by_cases hll : l' = l
    · subst hll
      rw [loop_setLoop, hpc]
      simp
    · rwa [loop_setLoop_of_ne s hll]

/-! ### The batches -/

lemma phase_setPhase_of_ne (s : TcpServer) {l l' : LoopId} (h : l' ≠ l) (phase : Phase) :
    (s.setPhase l phase).phase l' = s.phase l' := Function.update_of_ne h ..

@[simp] lemma phase_setPhase (s : TcpServer) (l : LoopId) (phase : Phase) :
    (s.setPhase l phase).phase l = phase := Function.update_self ..

/-- Only events are taken or put where the loop has its tasks all pending. -/
lemma queue_setPhase_events (hq : s.queue l = s.pendingTasks l) (fired : List FiredEvent)
    (l' : LoopId) : (s.setPhase l (.events fired)).queue l' = s.queue l' := by
  by_cases hl : l' = l
  · subst hl
    rw [hq, queue, phase_setPhase]
    rfl
  · rw [queue, phase_setPhase_of_ne s hl, queue]
    rfl

/-- The tasks that were pending are the batch. -/
lemma queue_swap (hp : s.phase l = .events []) (l' : LoopId) :
    TcpServer.queue { s.setPhase l (.tasks (s.pendingTasks l)) with
      pendingTasks := Function.update s.pendingTasks l [] } l' = s.queue l' := by
  by_cases hl : l' = l
  · subst hl
    simp [queue, hp, setPhase]
  · simp [queue, setPhase, hl]

/-- The other loops have what they had. -/
lemma Staged.of_phase (h : Staged s) (hhome : s'.home = s.home) (hsocket : s'.socket = s.socket)
    (hlife : s'.life = s.life) (hfds : s'.fds = s.fds) (hloop : s'.loop = s.loop)
    (hother : ∀ l', l' ≠ l → s'.phase l' = s.phase l' ∧ s'.pendingTasks l' = s.pendingTasks l')
    (hidle : s.loop l = .idle) (hqueue : (s'.queue l).Sublist (s.queue l))
    (hleaving : ∀ d, s.home d = l → s.life d = .leaving →
      Task.removeConnection d (s.socket d) ∈ s'.nextTasks l)
    (hdistinct : ((s'.fired l).map FiredEvent.fd).Nodup)
    (hfired : ∀ e ∈ s'.fired l, ∃ c, s.fds e.fd = some c ∧ s.home c = l ∧ s.life c = .serving) :
    Staged s' := by
  have hqueue' : ∀ l', (s'.queue l').Sublist (s.queue l') := by
    intro l'
    by_cases hll : l' = l
    · rwa [hll]
    · have hsame : s'.queue l' = s.queue l' := by
        rw [queue, queue, (hother l' hll).1, (hother l' hll).2]
      exact hsame ▸ List.Sublist.refl _
  exact {
    pc := by
      intro l'
      rw [hloop]
      exact (h.pc l').congr fun d _ => ⟨by rw [hlife], by rw [hhome]⟩
    events := by
      intro l' hne
      rw [hloop] at hne
      have hll : l' ≠ l := by
        rintro rfl
        exact hne hidle
      rw [(hother l' hll).1]
      exact h.events l' hne
    busy := by
      rw [hlife, hloop, hhome]
      exact h.busy
    tasks := by
      intro l' t ht
      exact (h.tasks l' t ((hqueue' l').subset ht)).congr
        fun d _ => ⟨by rw [hlife], by rw [hhome], by rw [hsocket]⟩
    once := by
      intro l'
      exact (h.once l').sublist ((hqueue' l').filterMap _)
    leaving := by
      intro d hd
      rw [hlife] at hd
      rw [hsocket, hhome]
      by_cases hdl : s.home d = l
      · rw [hdl]
        exact hleaving d hdl hd
      · rw [nextTasks, (hother _ hdl).1, (hother _ hdl).2]
        exact h.leaving d hd
    distinct := by
      intro l'
      by_cases hll : l' = l
      · rwa [hll]
      · rw [fired_of_phase (hother l' hll).1]
        exact h.distinct l'
    fired := by
      intro l' e he
      rw [hfds, hhome, hlife, hloop]
      by_cases hll : l' = l
      · subst hll
        obtain ⟨d, hd, hhd, hserving⟩ := hfired e he
        refine ⟨d, hd, hhd, hserving, ?_⟩
        rw [hidle]
        simp [LoopPc.conn]
      · rw [fired_of_phase (hother l' hll).1] at he
        exact h.fired l' e he }

/-- `epoll_wait` reports only connections that are served. -/
lemma Coherent.wait (h : Coherent s) {fired : List FiredEvent} (hl : s.loop l = .idle)
    (hp : s.phase l = .tasks []) (hfire : ∀ e ∈ fired, s.mayFire l e = true)
    (hnodup : (fired.map FiredEvent.fd).Nodup) : Staged (s.setPhase l (.events fired)) := by
  refine h.staged.of_phase rfl rfl rfl rfl rfl
    (fun l' hll => ⟨phase_setPhase_of_ne s hll _, rfl⟩) hl ?_ ?_ ?_ ?_
  · have hq : s.queue l = s.pendingTasks l := by
      rw [queue, hp]
      rfl
    simp only [queue_setPhase_events hq, List.Sublist.refl]
  · intro d hd hleaving
    have hmem := h.staged.leaving d hleaving
    rw [hd, nextTasks, hp] at hmem
    cases hmem
  · rwa [TcpServer.fired, phase_setPhase]
  · intro e he
    rw [TcpServer.fired, phase_setPhase] at he
    have hregistered : s.callbacks (l, e.fd) = true := by
      rw [← h.tables.epoll]
      have hmay := hfire e he
      rw [mayFire] at hmay
      split at hmay
      · cases hmay
      · rw [‹s.epoll _ = _›]
        rfl
    rw [h.tables.callbacks, Option.any_eq_true] at hregistered
    obtain ⟨d, hd, hlife⟩ := hregistered
    rw [Bool.and_eq_true, decide_eq_true_eq] at hlife
    refine ⟨d, hd, hlife.1, ?_⟩
    have hconn : (s.loop l).conn ≠ some d := by
      rw [hl]
      simp [LoopPc.conn]
    have hbusy := h.staged.busy d
    rw [hlife.1] at hbusy
    cases hx : s.life d with
    | serving => rfl
    | closing => exact absurd (hbusy (.inl hx)) hconn
    | unbound => exact absurd (hbusy (.inr hx)) hconn
    | leaving =>
      have hmem := h.staged.leaving d hx
      rw [hlife.1, nextTasks, hp] at hmem
      cases hmem
    | accepted | mapped | bound | announced | queued | removed =>
      rw [hx] at hlife
      cases hlife.2

lemma Staged.swap (h : Staged s) (hl : s.loop l = .idle) (hp : s.phase l = .events []) :
    Staged { s.setPhase l (.tasks (s.pendingTasks l)) with
      pendingTasks := Function.update s.pendingTasks l [] } := by
  refine h.of_phase (l := l) rfl rfl rfl rfl rfl ?_ hl ?_ ?_ ?_ ?_
  · intro l' hll
    exact ⟨phase_setPhase_of_ne s hll _, Function.update_of_ne hll ..⟩
  · simp only [queue_swap hp, List.Sublist.refl]
  · intro d hd hleaving
    have hmem := h.leaving d hleaving
    rw [hd, nextTasks, hp] at hmem
    simpa [nextTasks, setPhase] using hmem
  · simp [TcpServer.fired, setPhase]
  · intro e he
    simp [TcpServer.fired, setPhase] at he

/-- The callback of an event is that of a connection that is served. -/
lemma Coherent.callback_cases (h : Coherent s) {e : FiredEvent} {rest : List FiredEvent}
    (hp : s.phase l = .events (e :: rest)) : s.callback l e = .idle ∨
      ∃ c, (s.callback l e).conn = some c ∧ s.fds e.fd = some c ∧ s.home c = l ∧
        s.life c = .serving ∧
        (s.callback l e = .reading c e.epollout ∨ s.callback l e = .writing c) := by
  obtain ⟨c, hc, hhome, hserving, -⟩ := h.staged.fired l e (by simp [TcpServer.fired, hp])
  have hmap : s.mapConn (l, e.fd) = some c :=
    h.tables.mapConn_eq_some.mpr ⟨hc, hhome, by rw [hserving]; rfl⟩
  rw [callback, hmap]
  dsimp only
  split_ifs
  · exact .inr ⟨c, rfl, hc, hhome, hserving, .inl rfl⟩
  · exact .inr ⟨c, rfl, hc, hhome, hserving, .inr rfl⟩
  · exact .inl rfl
  · exact .inl rfl

lemma Coherent.event (h : Coherent s) {e : FiredEvent} {rest : List FiredEvent}
    (hl : s.loop l = .idle) (hp : s.phase l = .events (e :: rest)) :
    Staged ((s.setPhase l (.events rest)).setLoop l (s.callback l e)) := by
  have hfired : s.fired l = e :: rest := by rw [TcpServer.fired, hp]
  have hnodup := h.staged.distinct l
  rw [hfired, List.map_cons, List.nodup_cons] at hnodup
  -- first the event is taken from the batch
  have htaken : Staged (s.setPhase l (.events rest)) := by
    refine h.staged.of_phase rfl rfl rfl rfl rfl
      (fun l' hll => ⟨phase_setPhase_of_ne s hll _, rfl⟩) hl ?_ ?_ ?_ ?_
    · have hq : s.queue l = s.pendingTasks l := by rw [queue, hp]
      simp only [queue_setPhase_events hq, List.Sublist.refl]
    · intro d hd hleaving
      have hmem := h.staged.leaving d hleaving
      rw [hd, nextTasks, hp] at hmem
      rwa [nextTasks, phase_setPhase]
    · rw [TcpServer.fired, phase_setPhase]
      exact hnodup.2
    · intro e' he
      rw [TcpServer.fired, phase_setPhase] at he
      obtain ⟨d, hd, hhd, hserving, -⟩ :=
        h.staged.fired l e' (by rw [hfired]; exact List.mem_cons_of_mem _ he)
      exact ⟨d, hd, hhd, hserving⟩
  rcases h.callback_cases hp with hidle | ⟨c, hconn, hc, hhome, hserving, hpc⟩
  · rw [hidle]
    exact htaken.setLoop (by rw [show (s.setPhase l _).loop l = s.loop l from rfl, hl]; rfl) rfl
      trivial fun hne => absurd rfl hne
  · exact {
      pc := by
        intro l'
        by_cases hll : l' = l
        · subst hll
          rw [loop_setLoop]
          rcases hpc with hpc | hpc <;> rw [hpc]
          · exact ⟨hhome, hserving⟩
          · exact ⟨hhome, .inl hserving⟩
        · rw [loop_setLoop_of_ne _ hll]
          exact (htaken.pc l').congr fun _ _ => ⟨rfl, rfl⟩
      events := by
        intro l' hne
        by_cases hll : l' = l
        · subst hll
          exact ⟨rest, phase_setPhase s l' _⟩
        · rw [loop_setLoop_of_ne _ hll] at hne
          exact htaken.events l' hne
      busy := by
        intro d hd
        have hbusy := h.staged.busy d hd
        have hne : s.home d ≠ l := by
          rintro he
          rw [he, hl] at hbusy
          cases hbusy
        exact (congrArg LoopPc.conn (loop_setLoop_of_ne _ hne _)).trans hbusy
      tasks := htaken.tasks
      once := htaken.once
      leaving := htaken.leaving
      distinct := htaken.distinct
      fired := by
        intro l' e' he
        obtain ⟨d, hd, hhd, hserving', hne⟩ := htaken.fired l' e' he
        refine ⟨d, hd, hhd, hserving', ?_⟩
        by_cases hll : l' = l
        · subst hll
          rw [loop_setLoop, hconn]
          rintro he'
          obtain rfl := Option.some.inj he'
          -- the numbers of a batch are different
          have hfd : e'.fd = e.fd :=
            (h.numbered.socket _ _ hd).2.1.symm.trans (h.numbered.socket _ _ hc).2.1
          have hmem : e' ∈ rest := by
            simpa [TcpServer.fired, TcpServer.setLoop] using he
          exact hnodup.1 (hfd ▸ List.mem_map_of_mem hmem)
        · rwa [loop_setLoop_of_ne _ hll] }

/-! ### Tasks -/

/-- A task that sends leaves its batch. -/
lemma Staged.takeSend (h : Staged s) {rest : List Task} (hl : s.loop l = .idle)
    (hp : s.phase l = .tasks (t :: rest)) (hsend : t.subject = none) :
    Staged (s.setPhase l (.tasks rest)) := by
  refine h.of_phase rfl rfl rfl rfl rfl (fun l' hll => ⟨phase_setPhase_of_ne s hll _, rfl⟩) hl
    ?_ ?_ ?_ ?_
  · rw [queue, phase_setPhase, queue, hp]
    exact List.sublist_cons_self ..
  · intro d hd hleaving
    have hmem := h.leaving d hleaving
    rw [hd, nextTasks, hp] at hmem
    rw [nextTasks, phase_setPhase]
    refine (List.mem_cons.mp hmem).resolve_left ?_
    rintro rfl
    cases hsend
  · simp [TcpServer.fired]
  · intro e he
    simp [TcpServer.fired] at he

/-- A task that adds or removes `c` is run. -/
lemma Staged.runTask (h : Staged s) {rest : List Task} (hl : s.loop l = .idle)
    (hp : s.phase l = .tasks (t :: rest)) (hc : t.subject = some c) {x : Life}
    (hx : x = .serving ∨ x = .removed) (hhome : s'.home = s.home) (hsocket : s'.socket = s.socket)
    (hfds : ∀ f d, s.fds f = some d → s.life d = .serving → s'.fds f = some d)
    (hphase : s'.phase = Function.update s.phase l (.tasks rest))
    (hpending : s'.pendingTasks = s.pendingTasks) (hloop : s'.loop = s.loop)
    (hlife : s'.life = Function.update s.life c x) : Staged s' := by
  have hqueue : s.queue l = t :: (rest ++ s.pendingTasks l) := by
    rw [queue, hp]
    rfl
  have hfits : s.TaskFits l t := h.tasks l t (by rw [hqueue]; exact List.mem_cons_self)
  obtain ⟨hhomec, hlifec⟩ := hfits.life hc
  have honce := h.once l
  rw [hqueue, List.filterMap_cons_some hc, List.nodup_cons] at honce
  have hself : s'.life c = x := by rw [hlife, Function.update_self]
  have hother : ∀ d, d ≠ c → s'.life d = s.life d := by
    intro d hd
    rw [hlife, Function.update_of_ne hd]
  have hqueue' : s'.queue l = rest ++ s.pendingTasks l := by
    rw [queue, hphase, Function.update_self, hpending]
  have hphase' : ∀ l', l' ≠ l → s'.phase l' = s.phase l' := by
    intro l' hll
    rw [hphase, Function.update_of_ne hll]
  have hqueue'' : ∀ l', l' ≠ l → s'.queue l' = s.queue l' := by
    intro l' hll
    rw [queue, queue, hphase' l' hll, hpending]
  -- no thread is at `c`
  have hnone : ∀ l', (s.loop l').conn ≠ some c := by
    intro l' hconn
    rcases hlifec with hq | hq
    · exact h.conn_ne (.inl hq) hconn
    · have hkeeper := (h.pc l').keeper hconn
      simp only [keeper, hq] at hkeeper
      rw [hkeeper, hhomec, hl] at hconn
      cases hconn
  exact {
    pc := by
      intro l'
      rw [hloop]
      refine (h.pc l').congr fun d hd => ⟨hother d ?_, by rw [hhome]⟩
      rintro rfl
      exact hnone l' hd
    events := by
      intro l' hne
      rw [hloop] at hne
      have hll : l' ≠ l := by
        rintro rfl
        exact hne hl
      rw [hphase' l' hll]
      exact h.events l' hne
    busy := by
      intro d hd
      have hdc : d ≠ c := by
        rintro rfl
        rw [hself] at hd
        rcases hx with rfl | rfl <;> rcases hd with hd | hd <;> cases hd
      rw [hother d hdc] at hd
      rw [hloop, hhome]
      exact h.busy d hd
    tasks := by
      intro l' t' ht
      have hold : t' ∈ s.queue l' ∧ t'.subject ≠ some c := by
        by_cases hll : l' = l
        · subst hll
          rw [hqueue'] at ht
          refine ⟨by rw [hqueue]; exact List.mem_cons_of_mem _ ht, fun hsub => ?_⟩
          exact honce.1 (mem_subjects.mpr ⟨t', ht, hsub⟩)
        · rw [hqueue'' l' hll] at ht
          refine ⟨ht, fun hsub => ?_⟩
          exact hll (((h.tasks l' t' ht).life hsub).1.symm.trans hhomec)
      refine (h.tasks l' t' hold.1).congr fun d hd => ⟨hother d ?_, by rw [hhome], by rw [hsocket]⟩
      rintro rfl
      exact hold.2 hd
    once := by
      intro l'
      by_cases hll : l' = l
      · subst hll
        rw [hqueue']
        exact honce.2
      · rw [hqueue'' l' hll]
        exact h.once l'
    leaving := by
      intro d hd
      have hdc : d ≠ c := by
        rintro rfl
        rw [hself] at hd
        rcases hx with rfl | rfl <;> cases hd
      rw [hother d hdc] at hd
      have hmem := h.leaving d hd
      rw [hsocket, hhome]
      by_cases hdl : s.home d = l
      · rw [hdl, nextTasks, hp] at hmem
        rw [hdl, nextTasks, hphase, Function.update_self]
        refine (List.mem_cons.mp hmem).resolve_left ?_
        rintro rfl
        exact hdc (Option.some.inj hc)
      · rwa [nextTasks, hphase' _ hdl, hpending]
    distinct := by
      intro l'
      by_cases hll : l' = l
      · subst hll
        simp [TcpServer.fired, hphase]
      · rw [fired_of_phase (hphase' l' hll)]
        exact h.distinct l'
    fired := by
      intro l' e he
      by_cases hll : l' = l
      · subst hll
        simp [TcpServer.fired, hphase] at he
      · rw [fired_of_phase (hphase' l' hll)] at he
        obtain ⟨d, hd, hhd, hserving, hne⟩ := h.fired l' e he
        have hdc : d ≠ c := by
          rintro rfl
          rcases hlifec with hq | hq <;> rw [hserving] at hq <;> cases hq
        exact ⟨d, hfds _ _ hd hserving, by rw [hhome, hhd], by rw [hother d hdc, hserving],
          by rwa [hloop]⟩ }

/-! ### A new connection -/

lemma Coherent.handleAccept (h : Coherent s) (hl : s.loop .main = .accepting) {fd : Fd}
    (hfree : s.fds fd = none) : Staged (s.handleAccept .main fd) := by
  have hnew : s.life s.accepted = .removed ∧ s.worker.conn ≠ some s.accepted := by
    have hlt : ¬ (s.life s.accepted ≠ .removed ∨ s.worker.conn = some s.accepted) := by
      intro hheld
      exact Nat.lt_irrefl _ (h.numbered.socket _ _ (h.numbered.isOpen _ hheld)).1
    rw [not_or, not_not] at hlt
    exact hlt
  have hother : ∀ d, d ≠ s.accepted →
      (s.handleAccept .main fd).life d = s.life d ∧ (s.handleAccept .main fd).home d = s.home d ∧
        (s.handleAccept .main fd).socket d = s.socket d := by
    intro d hd
    simp [TcpServer.handleAccept, hd]
  have hlife : ∀ d, s.life d ≠ .removed → d ≠ s.accepted := by
    rintro d hd rfl
    exact hd hnew.1
  exact {
    pc := by
      intro l'
      by_cases hll : l' = .main
      · subst hll
        simp [TcpServer.handleAccept, Fits]
      · have hpc : (s.handleAccept .main fd).loop l' = s.loop l' := Function.update_of_ne hll ..
        rw [hpc]
        refine (h.staged.pc l').congr fun d hd => ?_
        have hd := hother d (hlife d ((h.staged.pc l').life hd).1)
        exact ⟨hd.1, hd.2.1⟩
    events := by
      intro l' hne
      by_cases hll : l' = .main
      · subst hll
        exact h.staged.events .main (by simp [hl])
      · refine h.staged.events l' ?_
        have hpc : (s.handleAccept .main fd).loop l' = s.loop l' := Function.update_of_ne hll ..
        rwa [hpc] at hne
    busy := by
      intro d hd
      have hdc : d ≠ s.accepted := by
        rintro rfl
        simp [TcpServer.handleAccept] at hd
      rw [(hother d hdc).1] at hd
      have hbusy := h.staged.busy d hd
      have hne : s.home d ≠ .main := by
        rintro he
        rw [he, hl] at hbusy
        cases hbusy
      rw [(hother d hdc).2.1]
      exact (congrArg LoopPc.conn (Function.update_of_ne hne _ _)).trans hbusy
    tasks := by
      intro l' t ht
      have ht := h.staged.tasks l' t ht
      refine ht.congr fun d hd => hother d (hlife d ?_)
      rcases (ht.life hd).2 with hq | hq <;> simp [hq]
    once := h.staged.once
    leaving := by
      intro d hd
      have hdc : d ≠ s.accepted := by
        rintro rfl
        simp [TcpServer.handleAccept] at hd
      rw [(hother d hdc).1] at hd
      rw [(hother d hdc).2.1, (hother d hdc).2.2]
      exact h.staged.leaving d hd
    distinct := h.staged.distinct
    fired := by
      intro l' e he
      obtain ⟨d, hd, hhd, hserving, hne⟩ := h.staged.fired l' e he
      have hdc := hlife d (by simp [hserving])
      have hfd : e.fd ≠ fd := by
        rintro he'
        rw [he', hfree] at hd
        cases hd
      refine ⟨d, (Function.update_of_ne hfd _ _).trans hd, by rw [(hother d hdc).2.1, hhd],
        by rw [(hother d hdc).1, hserving], ?_⟩
      by_cases hll : l' = .main
      · subst hll
        simpa [TcpServer.handleAccept, LoopPc.conn] using Ne.symm hdc
      · have hpc : (s.handleAccept .main fd).loop l' = s.loop l' := Function.update_of_ne hll ..
        rwa [hpc] }

end Balabala.TcpServer
