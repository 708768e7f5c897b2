import Balabala.Net.Serving

/-!
# Buffered output waits for `EPOLLOUT`

With edge-triggered epoll, bytes that stay in an output buffer are only written again if the
interest of the number includes `EPOLLOUT`. `Armed` says so of every state between two callbacks
or tasks, for the connections that are in the tables of the loop or registered with epoll. Two
kinds of steps set the interest to read-only without having emptied the buffer: `HandleWrite` when
a `write` returns 0, and a read-only interest that is queued, as the constructor of a connector
does after the first `Send` may have come. Besides, bytes may be left before there is a
registration to change: the acceptor of another loop queues `AddEvent` after the connection can be
found. `keepsArmed` excludes just these.
-/

namespace Balabala

/-- The connection that was accepted and is not registered yet. -/
def LoopPc.accepted : LoopPc → Option ConnId
  | .addConnection c _ | .addEvent c _ => some c
  | _ => none

namespace EventLoop

open Foundation PendingTask

variable {Tid : Type*}

/-- `c` is connected, no `write` has failed for good, and bytes are left. -/
def Owing (s : EventLoop Tid) (c : ConnId) : Prop :=
  s.isConnecting c = false ∧ s.writeFailed c = false ∧ s.outputBuffer c ≠ []

instance (s : EventLoop Tid) (c : ConnId) : Decidable (s.Owing c) :=
  inferInstanceAs (Decidable (_ ∧ _ ∧ _))

/-- The loop still has to do with the connection `c` of the number `fd`; once `RemoveConnection`
has run, it has not. -/
def Managed (s : EventLoop Tid) (fd : Fd) (c : ConnId) : Prop :=
  s.getConnection fd = some c ∨ s.epoll fd ≠ none

/-- The number of an owing connection is registered, and its interest includes `EPOLLOUT`. -/
def ArmedAt (s : EventLoop Tid) (fd : Fd) (c : ConnId) : Prop :=
  s.Owing c → s.Managed fd c → s.epoll fd = some .rw

def Armed (s : EventLoop Tid) : Prop :=
  s.loop = .idle → ∀ fd c, s.fds fd = some c → s.ArmedAt fd c

/-- The connection that has the number owes bytes. -/
def owes (s : EventLoop Tid) (fd : Fd) : Bool :=
  match s.fds fd with
  | some c => s.Owing c
  | none => false

/-- Bytes that a `Send` to `fd` cannot write now can wait for `EPOLLOUT`, or never will. -/
def canWait (s : EventLoop Tid) (fd : Fd) : Bool :=
  match s.getConnection fd with
  | none => true
  | some c =>
    s.writeFailed c ||
      match s.socket c with
      | none => true
      | some f => (s.epoll f).isSome

/-- The step does not set the interest to read-only while bytes are left, and leaves no bytes where
no interest can be set. -/
def keepsArmed (s : EventLoop Tid) : Action Tid → Bool
  | .write rs =>
    match s.loop, s.phase with
    | .writing _ fd, _ => .zero ∉ rs || (s.epoll fd).isNone || !s.owes fd
    | .idle, .tasks (.send _ fd _ :: _) => (.zero ∉ rs ∧ .eagain ∉ rs) || s.canWait fd
    | _, _ => true
  | .loop =>
    match s.loop, s.phase with
    | .idle, .tasks (.modifyEventKeepCallback fd .r :: _) => (s.epoll fd).isNone || !s.owes fd
    | .idle, .tasks (.addEvent _ fd .r :: _) => (s.epoll fd).isSome || !s.owes fd
    | _, _ => true
  | .connected true =>
    match s.loop with
    | .writing c fd => s.writeFailed c || s.outputBuffer c = [] || (s.epoll fd).isSome
    | _ => true
  | _ => true

/-! ### The invariant -/

/-- A failed connect of `c` is being cleaned up, and its number has not been closed yet. -/
def Failing (s : EventLoop Tid) (fd : Fd) (c : ConnId) : Prop :=
  s.loop = .removeEvent c fd ∨ s.loop = .close c fd

/-- Nobody has found `c` in the tables yet. -/
def Unentered (s : EventLoop Tid) (c : ConnId) : Prop :=
  (s.stage c).unregistered = true ∨ s.loop.accepted = some c ∨
    ∃ t fd, s.callers t = .accepted c fd

/-- Owing connections are armed unless they are about to be closed after a failed connect, and
nothing was sent on a connection before it could be found. -/
structure Arms (s : EventLoop Tid) : Prop where
  armed : ∀ fd c, s.fds fd = some c → s.ArmedAt fd c ∨ s.Failing fd c
  polled : ∀ fd, s.epoll fd ≠ none → s.fds fd ≠ none ∧ s.callbacks fd ≠ none
  silent : ∀ c, s.Unentered c → s.outputBuffer c = []

variable {s s' : EventLoop Tid}

lemma Failing.loop_ne {fd : Fd} {c : ConnId} (h : s.Failing fd c) : s.loop ≠ .idle := by
  rintro hpc
  rcases h with h | h <;> simp [hpc] at h

lemma Arms.armed_of_idle (h : Arms s) : Armed s :=
  fun hpc fd c hfd => (h.armed fd c hfd).resolve_right fun hf => hf.loop_ne hpc

lemma owes_of_owing {fd : Fd} {c : ConnId} (hfd : s.fds fd = some c) (h : s.Owing c) :
    s.owes fd = true := by
  simp [owes, hfd, h]

lemma ArmedAt.congr {fd : Fd} {c : ConnId} (h : s.ArmedAt fd c) (howing : s'.Owing c → s.Owing c)
    (hget : s'.getConnection fd = some c → s.getConnection fd = some c)
    (hep : s'.epoll fd = s.epoll fd) : s'.ArmedAt fd c := by
  intro ho hm
  rw [hep]
  exact h (howing ho) (hm.imp hget fun hne => hep ▸ hne)

lemma armedAt_of_not_owing {fd : Fd} {c : ConnId} (h : ¬ s.Owing c) : s.ArmedAt fd c :=
  fun ho => absurd ho h

/-- What sending and polling look at is the same. -/
structure SameOutput (s s' : EventLoop Tid) : Prop where
  fds : s'.fds = s.fds
  epoll : s'.epoll = s.epoll
  callbacks : s'.callbacks = s.callbacks
  kind : s'.kind = s.kind
  connecting : s'.connecting = s.connecting
  writeFailed : s'.writeFailed = s.writeFailed
  outputBuffer : s'.outputBuffer = s.outputBuffer

lemma SameOutput.owing (e : SameOutput s s') {c : ConnId} (h : s'.Owing c) : s.Owing c := by
  simpa only [Owing, isConnecting, e.kind, e.connecting, e.writeFailed, e.outputBuffer] using h

lemma getConnection_congr (hm : s'.mapConn = s.mapConn) (hr : s'.mapConnRaw = s.mapConnRaw)
    (fd : Fd) : s'.getConnection fd = s.getConnection fd := by
  rw [getConnection, getConnection, hm, hr]

/-- A step that is not about output; who is newly found has been sent nothing. -/
lemma Arms.frame (h : Arms s) (e : SameOutput s s')
    (hget : ∀ fd c, s'.getConnection fd = some c →
      s.getConnection fd = some c ∨ s.outputBuffer c = [])
    (hfail : ∀ fd c, s.Failing fd c → s'.Failing fd c)
    (hnew : ∀ c, s'.Unentered c → s.Unentered c ∨ s.outputBuffer c = []) : Arms s' where
  armed := fun fd c hfd => by
    rw [e.fds] at hfd
    refine (h.armed fd c hfd).imp (fun ha ho hm => ?_) (hfail fd c)
    have howing := e.owing ho
    rw [e.epoll]
    refine ha howing (hm.imp (fun hg => ?_) fun hne => e.epoll ▸ hne)
    exact (hget fd c hg).resolve_right howing.2.2
  polled := by
    rw [e.epoll, e.fds, e.callbacks]
    exact h.polled
  silent := fun c hc => by
    rw [e.outputBuffer]
    exact (hnew c hc).elim (h.silent c) id

/-- A step that leaves the tables alone, too. -/
lemma Arms.same (h : Arms s) (e : SameOutput s s') (hm : s'.mapConn = s.mapConn)
    (hr : s'.mapConnRaw = s.mapConnRaw) (hloop : s'.loop = s.loop)
    (hnew : ∀ c, s'.Unentered c → s.Unentered c) : Arms s' := by
  refine h.frame e (fun fd c hc => .inl ?_) (fun fd c => ?_) fun c hc => .inl (hnew c hc)
  · rwa [getConnection_congr hm hr] at hc
  · rw [Failing, Failing, hloop]
    exact id

lemma Arms.relays (h : Arms s) (e : Relays s s') : Arms s' := by
  obtain ⟨_, _, _, rfl, -⟩ := e
  exact h.same ⟨rfl, rfl, rfl, rfl, rfl, rfl, rfl⟩ rfl rfl rfl fun _ => id

lemma Arms.queueInLoop (h : Arms s) (task : PendingTask) : Arms (s.queueInLoop task) :=
  h.same ⟨rfl, rfl, rfl, rfl, rfl, rfl, rfl⟩ rfl rfl rfl fun _ => id

/-- A task has been taken from the batch. -/
lemma Arms.pop (h : Arms s) (rest : List PendingTask) : Arms (s.setPhase (.tasks rest)) :=
  h.same ⟨rfl, rfl, rfl, rfl, rfl, rfl, rfl⟩ rfl rfl rfl fun _ => id

lemma Arms.clearSocket (h : Arms s) (c : ConnId) : Arms (s.clearSocket c) :=
  h.same ⟨rfl, rfl, rfl, rfl, rfl, rfl, rfl⟩ rfl rfl rfl fun _ => id

lemma Arms.setCaller [DecidableEq Tid] (h : Arms s) (t : Tid) {pc : CallerPc}
    (hpc : ∀ c fd, pc ≠ .accepted c fd) : Arms (s.setCaller t pc) := by
  refine h.same ⟨rfl, rfl, rfl, rfl, rfl, rfl, rfl⟩ rfl rfl rfl fun c hc => ?_
  refine hc.imp id (Or.imp id ?_)
  rintro ⟨u, fd, hu⟩
  refine ⟨u, fd, ?_⟩
  by_cases hut : u = t
  · subst hut
    exact absurd (by simpa [EventLoop.setCaller] using hu) (hpc c fd)
  · simpa [EventLoop.setCaller, hut] using hu

lemma Arms.setStage (h : Arms s) {c : ConnId} {stage : Stage}
    (hc : stage.unregistered = true → (s.stage c).unregistered = true) :
    Arms (s.setStage c stage) := by
  refine h.same ⟨rfl, rfl, rfl, rfl, rfl, rfl, rfl⟩ rfl rfl rfl fun x hx => ?_
  refine hx.imp (fun hreg => ?_) id
  by_cases hxc : x = c
  · subst hxc
    exact hc (by simpa [EventLoop.setStage] using hreg)
  · rwa [setStage_of_ne stage hxc] at hreg

/-- The loop thread goes on; whose connect has failed has no number any more. -/
lemma Arms.setLoop (h : Arms s) {pc : LoopPc}
    (hfail : ∀ fd c, s.fds fd = some c → ¬ s.Failing fd c)
    (hpc : ∀ c, pc.accepted = some c → s.outputBuffer c = []) : Arms (s.setLoop pc) where
  armed := fun fd c hfd => .inl ((h.armed fd c hfd).resolve_right (hfail fd c hfd))
  polled := h.polled
  silent := fun c hc => by
    rcases hc with hreg | hacc | hcaller
    · exact h.silent c (.inl hreg)
    · exact hpc c hacc
    · exact h.silent c (.inr (.inr hcaller))

/-- The loop thread goes on from another place than a failed connect. -/
lemma Arms.goOn (h : Arms s) {pc pc' : LoopPc} (hpc : s.loop = pc) (hf : pc.failing = false)
    (hacc : pc'.accepted = none) : Arms (s.setLoop pc') := by
  refine h.setLoop (fun fd c _ hfail => ?_) fun c hc => ?_
  · rcases hfail with hl | hl <;> (subst hpc; simp [hl, LoopPc.failing] at hf)
  · simp [hacc] at hc

/-! ### Numbers are opened and closed -/

lemma Arms.create (h : Arms s) (ht : Tables s) {fd : Fd} {kind : ConnKind} {stage : Stage}
    {connecting : Bool} (hfd : s.fds fd = none) : Arms (s.create fd kind stage connecting) where
  armed := fun f c hc => by
    by_cases hf : f = fd
    · subst hf
      obtain rfl : s.created = c := by simpa [EventLoop.create] using hc
      exact .inl (armedAt_of_not_owing fun ho => ho.2.2 (by simp [EventLoop.create]))
    · rw [create_fds_of_ne hf] at hc
      have hne := ht.ne_of_fds hc
      refine (h.armed f c hc).imp_left fun ha => ha.congr (fun ho => ?_) id rfl
      simpa [Owing, isConnecting, EventLoop.create, hne] using ho
  polled := fun f hf => by
    obtain ⟨ho, hc⟩ := h.polled f hf
    obtain ⟨c, hc'⟩ := Option.ne_none_iff_exists'.mp ho
    exact ⟨by simp [create_fds_of_some hfd hc'], hc⟩
  silent := fun c hc => by
    by_cases hne : c = s.created
    · simp [EventLoop.create, hne]
    · have hbuf : (s.create fd kind stage connecting).outputBuffer c = s.outputBuffer c := by
        simp [EventLoop.create, hne]
      rw [hbuf]
      refine h.silent c (hc.imp_left fun hreg => ?_)
      rwa [create_stage_of_ne hne] at hreg

/-- A number is closed, together with its registration. -/
lemma Arms.closeFd (h : Arms s) (fd : Fd) : Arms (s.closeFd fd) where
  armed := fun f c hc => by
    have hf : f ≠ fd := by
      rintro rfl
      simp [EventLoop.closeFd] at hc
    refine (h.armed f c (by simpa [EventLoop.closeFd, hf] using hc)).imp_left fun ha => ?_
    exact ha.congr id id (by simp [EventLoop.closeFd, hf])
  polled := fun f hf => by
    have hne : f ≠ fd := by
      rintro rfl
      simp [EventLoop.closeFd] at hf
    simpa [EventLoop.closeFd, hne] using h.polled f (by simpa [EventLoop.closeFd, hne] using hf)
  silent := h.silent

lemma Arms.closes (h : Arms s) (e : Closes s s') : Arms s' := by
  obtain ⟨fds, epoll, stage, refs, rfl, hclosed, hkeep⟩ := e
  refine ⟨fun fd c hc => ?_, fun fd hfd => ?_, fun c hc => ?_⟩
  · rcases hclosed fd with ⟨hf, he⟩ | ⟨hf, -⟩
    · exact (h.armed fd c (hf ▸ hc)).imp_left fun ha => ha.congr id id he
    · have hc : fds fd = some c := hc
      simp [hf] at hc
  · rcases hclosed fd with ⟨hf, he⟩ | ⟨-, he⟩
    · have hp := h.polled fd (he ▸ hfd)
      exact ⟨fun hn => hp.1 (hf.symm.trans hn), hp.2⟩
    · exact absurd he hfd
  · refine h.silent c (hc.imp_left fun hreg => ?_)
    have hreg : (stage c).unregistered = true := hreg
    have ha : (stage c).alive = true := by
      cases hst : stage c <;> simp_all [Stage.unregistered, Stage.alive]
    rwa [← hkeep c ha]

/-- A registration is removed, with its callback and the entries of the number. -/
lemma Arms.removeEntries (h : Arms s) (fd : Fd) :
    Arms { s.removeEvent fd with
      mapConn := Function.update s.mapConn fd none
      mapConnRaw := Function.update s.mapConnRaw fd none } where
  armed := fun f c hc => by
    by_cases hf : f = fd
    · subst hf
      refine .inl fun _ hm => ?_
      rcases hm with hm | hm <;> simp [EventLoop.getConnection, EventLoop.removeEvent] at hm
    · refine (h.armed f c hc).imp_left fun ha => ha.congr id (fun hg => ?_) ?_
      · simpa [EventLoop.getConnection, hf] using hg
      · simp [EventLoop.removeEvent, hf]
  polled := fun f hf => by
    have hne : f ≠ fd := by
      rintro rfl
      simp [EventLoop.removeEvent] at hf
    simpa [EventLoop.removeEvent, hne] using
      h.polled f (by simpa [EventLoop.removeEvent, hne] using hf)
  silent := h.silent

/-! ### Registrations -/

/-- An interest that is set includes `EPOLLOUT` if bytes are left. -/
lemma Arms.setEpoll (h : Arms s) {fd : Fd} {events : Interest}
    {callbacks : Fd → Option ConnId} (hopen : s.fds fd ≠ none)
    (hcb : ∀ f, callbacks f ≠ none ↔ f = fd ∨ s.callbacks f ≠ none)
    (hev : s.owes fd = true → events = .rw) :
    Arms { s with epoll := Function.update s.epoll fd (some events), callbacks } where
  armed := fun f c hc => by
    by_cases hfd : f = fd
    · subst hfd
      refine .inl fun ho _ => ?_
      simp [hev (owes_of_owing hc ho)]
    · refine (h.armed f c hc).imp_left fun ha => ha.congr id id ?_
      simp [hfd]
  polled := fun f hf => by
    by_cases hfd : f = fd
    · subst hfd
      exact ⟨hopen, (hcb f).mpr (.inl rfl)⟩
    · have hp := h.polled f (by simpa [hfd] using hf)
      exact ⟨hp.1, (hcb f).mpr (.inr hp.2)⟩
  silent := h.silent

lemma Arms.addEvent (h : Arms s) {x : ConnId} {fd : Fd} {events : Interest}
    (hev : s.epoll fd = none → s.owes fd = true → events = .rw) :
    Arms (s.addEvent x fd events) := by
  rw [EventLoop.addEvent]
  split_ifs with hadd
  · refine h.setEpoll (Option.isSome_iff_ne_none.mp hadd.1) (fun f => ?_) (hev hadd.2)
    by_cases hfd : f = fd <;> simp [hfd]
  · exact h

lemma Arms.modify (h : Arms s) {fd : Fd} {events : Interest}
    (hev : (s.epoll fd).isSome = true → s.owes fd = true → events = .rw) :
    Arms (s.modifyEventKeepCallback fd events) := by
  rw [modifyEventKeepCallback]
  split_ifs with hc
  · refine h.setEpoll (h.polled fd (Option.isSome_iff_ne_none.mp hc.2)).1 (fun f => ?_) (hev hc.2)
    refine ⟨.inr, ?_⟩
    rintro (rfl | hf)
    · exact Option.isSome_iff_ne_none.mp hc.1
    · exact hf
  · exact h

/-! ### Writing -/

/-- A loop of `write` calls that ends with everything written has written everything, and one
that ends with 0 or `EAGAIN` has been told so. -/
lemma writeLoop_end {len n : Nat} {rs : List WriteResult} {e : WriteEnd}
    (h : writeLoop len rs = some (n, e)) :
    (e = .all → n = len) ∧ (e = .zero → .zero ∈ rs) ∧ (e = .eagain → .eagain ∈ rs) := by
  induction rs generalizing len n with
  | nil =>
    by_cases hlen : len = 0
    · simp only [writeLoop, hlen, if_true, Option.some.injEq, Prod.mk.injEq] at h
      obtain ⟨rfl, rfl⟩ := h
      exact ⟨fun _ => hlen.symm, by simp, by simp⟩
    · simp [writeLoop, hlen] at h
  | cons r rs ih =>
    by_cases hlen : len = 0
    · simp [writeLoop, hlen] at h
    simp only [writeLoop, if_neg hlen] at h
    cases r with
    | wrote k =>
      simp only at h
      split_ifs at h with hk
      obtain ⟨⟨m, e'⟩, hm, heq⟩ := Option.map_eq_some_iff.mp h
      obtain ⟨rfl, rfl⟩ : k + m = n ∧ e' = e := by simpa using heq
      refine ⟨fun he => ?_, fun he => List.mem_cons_of_mem _ ((ih hm).2.1 he),
        fun he => List.mem_cons_of_mem _ ((ih hm).2.2 he)⟩
      have := (ih hm).1 he
      omega
    | eintr =>
      exact ⟨(ih h).1, fun he => List.mem_cons_of_mem _ ((ih h).2.1 he),
        fun he => List.mem_cons_of_mem _ ((ih h).2.2 he)⟩
    | zero | eagain | error =>
      simp only at h
      split_ifs at h
      simp only [Option.some.injEq, Prod.mk.injEq] at h
      obtain ⟨-, rfl⟩ := h
      exact ⟨by simp, by simp, by simp⟩

/-- The loop thread serves one connection and leaves its number armed. -/
lemma Arms.served (h : Arms s) (ht : Tables s) {c : ConnId} {fd : Fd} (e : Serves c fd s s')
    (hfd : s.fds fd = some c) (hsilent : s.Unentered c → s'.outputBuffer c = [])
    (harmed : s'.ArmedAt fd c) : Arms s' := by
  obtain ⟨⟨epoll, connecting, outputBuffer, writeFailed, written, rfl, hreg⟩, hout, hfail, hconn,
    hep⟩ := e
  refine ⟨fun f x hx => ?_, fun f hf => h.polled f (hreg f hf), fun x hx => ?_⟩
  · by_cases hxc : x = c
    · subst hxc
      obtain rfl := ht.fds_unique hfd hx
      exact .inl harmed
    · have hf : f ≠ fd := by
        rintro rfl
        exact hxc (by simpa [hfd, eq_comm] using hx)
      have hout' : outputBuffer x = s.outputBuffer x := hout x hxc
      have hfail' : writeFailed x = s.writeFailed x := hfail x hxc
      have hconn' : connecting x = s.connecting x := hconn x hxc
      refine (h.armed f x hx).imp_left fun ha => ha.congr (fun ho => ?_) id (hep f hf)
      simpa only [Owing, isConnecting, hout', hfail', hconn'] using ho
  · by_cases hxc : x = c
    · subst hxc
      exact hsilent hx
    · have := h.silent x hx
      rwa [← hout x hxc] at this

/-- `ModifyEventKeepCallback` with `EPOLLOUT` arms a number that is registered. -/
lemma epoll_modify_rw {fd : Fd} (hpolled : s.epoll fd ≠ none → s.callbacks fd ≠ none)
    (hep : s.epoll fd ≠ none) : (s.modifyEventKeepCallback fd .rw).epoll fd = some .rw := by
  have hc : (s.callbacks fd).isSome ∧ (s.epoll fd).isSome :=
    ⟨Option.isSome_iff_ne_none.mpr (hpolled hep), Option.isSome_iff_ne_none.mpr hep⟩
  simp [modifyEventKeepCallback, hc]

lemma armedAt_failWrite (c : ConnId) (fd : Fd) : (s.failWrite c).ArmedAt fd c :=
  armedAt_of_not_owing fun ho => by simp [Owing, failWrite] at ho

lemma writeTo_eq (s : EventLoop Tid) (fd : Fd) (bytes : List (ConnId × UInt8)) :
    ∃ written, s.writeTo fd bytes = { s with written } := by
  rw [writeTo]
  split <;> exact ⟨_, rfl⟩

lemma Managed.of_quiet {fd : Fd} {c : ConnId} (e : Quiet s s') (h : s'.Managed fd c) :
    s.Managed fd c := by
  obtain ⟨_, _, _, _, _, rfl, hep⟩ := e
  exact h.imp id (hep fd)

/-- Bytes that are appended to the buffer find the number registered. -/
lemma armedAt_appendOutput {c : ConnId} {fd : Fd} {rest : List (ConnId × UInt8)}
    (hpolled : s.epoll fd ≠ none → s.callbacks fd ≠ none) (harmed : s.ArmedAt fd c)
    (hfirst : s.outputBuffer c = [] → s.isConnecting c = false → s.writeFailed c = false →
      rest ≠ [] → s.epoll fd ≠ none) : (s.appendOutput c fd rest).ArmedAt fd c := by
  have hq := (serves_appendOutput s c fd rest).quiet
  rw [appendOutput] at hq ⊢
  split_ifs at hq ⊢ with hrest
  · exact harmed
  intro ho hm
  obtain ⟨_, he⟩ := modify_eq (s.setOutput c (s.outputBuffer c ++ rest)) fd .rw
  have hconn : s.isConnecting c = false := by
    have := ho.1
    rwa [he] at this
  have hfail : s.writeFailed c = false := by
    have := ho.2.1
    rwa [he] at this
  refine epoll_modify_rw hpolled ?_
  by_cases hbuf : s.outputBuffer c = []
  · exact hfirst hbuf hconn hfail hrest
  · have hrw := harmed ⟨hconn, hfail, hbuf⟩ (hm.of_quiet hq)
    exact fun hn => absurd (hrw.symm.trans hn) (by simp)

/-- What is found in the tables has been entered there. -/
lemma Tables.not_unentered (ht : Tables s) {c : ConnId} {fd : Fd} (hpc : s.loop = .idle)
    (hk : s.kind c ≠ .acceptor) (hget : s.getConnection fd = some c) : ¬ s.Unentered c := by
  rintro (hreg | hacc | ⟨t, f, hcaller⟩)
  · rcases found_of_getConnection hget with hm | hr
    · simp [(ht.conn fd c hm).2.1, Stage.unregistered] at hreg
    · obtain ⟨hkc, -, hdone⟩ := ht.raw fd c hr
      cases hkind : s.kind c with
      | connection => exact hkc hkind
      | acceptor => exact hk hkind
      | connector => simp [hdone hkind] at hreg
  · simp [hpc, LoopPc.accepted] at hacc
  · exact ht.not_found_of_accepted hcaller fd hget

/-- `sendInLoop` of a connection that was found in the tables. -/
lemma Arms.sendInLoop (h : Arms s) (ht : Tables s) {c : ConnId} {fd f : Fd} {origin : ConnId}
    {data : Bytes} {rs : List WriteResult} (hpc : s.loop = .idle) (hk : s.kind c ≠ .acceptor)
    (hget : s.getConnection fd = some c) (ha : s.alive c = true) (hsock : s.socket c = some f)
    (hok : (.zero ∉ rs ∧ .eagain ∉ rs) ∨ s.canWait fd = true)
    (hs : s.sendInLoop c f origin data rs = some s') : Arms s' := by
  have hfd := ht.fds_of_socket hpc ha hsock
  have hpolled : s.epoll f ≠ none → s.callbacks f ≠ none := fun hep => (h.polled f hep).2
  have harmed : s.ArmedAt f c := (h.armed f c hfd).resolve_right fun hf => hf.loop_ne hpc
  apply h.served ht (serves_sendInLoop hs) hfd
  · exact fun hun => absurd hun (ht.not_unentered hpc hk hget)
  rw [EventLoop.sendInLoop] at hs
  split_ifs at hs with hdirect
  · obtain ⟨⟨n, e⟩, hw, rfl⟩ := Option.map_eq_some_iff.mp hs
    obtain ⟨hall, hzero, heagain⟩ := writeLoop_end hw
    obtain ⟨_, he⟩ := writeTo_eq s f (sentOn origin (data.take n))
    dsimp only
    rw [he]
    split_ifs with herror
    · exact armedAt_failWrite c f
    refine armedAt_appendOutput hpolled harmed fun _ _ hfail hrest => ?_
    have hfail : s.writeFailed c = false := hfail
    have hnot : ¬ (.zero ∉ rs ∧ .eagain ∉ rs) := by
      rintro ⟨hz, hea⟩
      cases e with
      | all => simp [hall rfl, sentOn] at hrest
      | zero => exact hz (hzero rfl)
      | eagain => exact hea (heagain rfl)
      | error => exact herror rfl
    have hwait := hok.resolve_left hnot
    simp only [canWait, hget, hfail, hsock, Bool.false_or] at hwait
    exact Option.isSome_iff_ne_none.mp hwait
  · cases hs
    refine armedAt_appendOutput hpolled harmed fun hbuf hconn _ _ => ?_
    exact absurd ⟨hbuf, by simp [canWriteDirectly, hconn]⟩ hdirect

/-- What `HandleWrite` leaves in the buffer was there before. -/
lemma outputBuffer_handleWrite {c : ConnId} {fd : Fd} {rs : List WriteResult}
    (hs : s.handleWrite c fd rs = some s') :
    ∃ n, s'.outputBuffer c = (s.outputBuffer c).drop n := by
  obtain ⟨⟨n, e⟩, -, rfl⟩ := Option.map_eq_some_iff.mp hs
  obtain ⟨_, he⟩ := writeTo_eq s fd ((s.outputBuffer c).take n)
  refine ⟨n, ?_⟩
  have hmodify : ∀ (s' : EventLoop Tid) events,
      (s'.modifyEventKeepCallback fd events).outputBuffer = s'.outputBuffer := by
    intro s' events
    obtain ⟨_, hm⟩ := modify_eq s' fd events
    rw [hm]
  dsimp only
  rw [he]
  cases e <;> simp [hmodify, failWrite, EventLoop.setOutput]

lemma Arms.handleWrite (h : Arms s) (ht : Tables s) {c : ConnId} {fd : Fd}
    {rs : List WriteResult} (hpc : s.loop = .writing c fd) (hc : s.isConnecting c = false)
    (hok : .zero ∉ rs ∨ s.epoll fd = none ∨ s.owes fd = false)
    (hs : s.handleWrite c fd rs = some s') : Arms s' := by
  have hfd := (ht.serving_writing hpc).1
  have harmed : s.ArmedAt fd c :=
    (h.armed fd c hfd).resolve_right fun hf => by rcases hf with hl | hl <;> simp [hpc] at hl
  have hpolled : s.epoll fd ≠ none → s.callbacks fd ≠ none := fun hep => (h.polled fd hep).2
  have hq := (serves_handleWrite hs).quiet
  refine h.served ht (serves_handleWrite hs) hfd (fun hun => ?_) ?_
  · obtain ⟨n, hn⟩ := outputBuffer_handleWrite hs
    rw [hn, h.silent c hun, List.drop_nil]
  obtain ⟨⟨n, e⟩, hw, rfl⟩ := Option.map_eq_some_iff.mp hs
  obtain ⟨hall, hzero, -⟩ := writeLoop_end hw
  obtain ⟨written, he⟩ := writeTo_eq s fd ((s.outputBuffer c).take n)
  dsimp only at hq ⊢
  rw [he] at hq ⊢
  -- a connection that owes bytes now owed bytes before
  have hbefore : ∀ events,
      ((({ s with written } : EventLoop Tid).setOutput c
        ((s.outputBuffer c).drop n)).modifyEventKeepCallback fd events).Owing c → s.Owing c := by
    intro events ho
    obtain ⟨_, hm⟩ := modify_eq _ fd events
    rw [hm] at ho
    refine ⟨hc, ho.2.1, fun hnil => ho.2.2 ?_⟩
    simp [EventLoop.setOutput, hnil]
  cases e with
  | eagain =>
    intro ho hm
    have hrw := harmed (hbefore .rw ho) (hm.of_quiet hq)
    exact epoll_modify_rw hpolled fun hn => absurd (hrw.symm.trans hn) (by simp)
  | error => exact armedAt_failWrite c fd
  | all =>
    refine armedAt_of_not_owing fun ho => ho.2.2 ?_
    obtain ⟨_, hm⟩ := modify_eq _ fd .r
    rw [hm]
    simp [EventLoop.setOutput, hall rfl]
  | zero =>
    intro ho hm
    have howing := hbefore .r ho
    have hrw := harmed howing (hm.of_quiet hq)
    rcases hok with hno | hno | hno
    · exact absurd (hzero rfl) hno
    · simp [hrw] at hno
    · simp [owes_of_owing hfd howing] at hno

/-- A connector has found that it is connected. -/
lemma Arms.connected (h : Arms s) (ht : Tables s) {c : ConnId} {fd : Fd}
    (hpc : s.loop = .writing c fd)
    (hok : s.writeFailed c = true ∨ s.outputBuffer c = [] ∨ s.epoll fd ≠ none) :
    Arms (s.handleConnected c fd) := by
  have hfd := (ht.serving_writing hpc).1
  have hout : (s.handleConnected c fd).outputBuffer c = s.outputBuffer c := by
    obtain ⟨_, he⟩ := modify_eq (s.endConnecting c) fd
      (if s.outputBuffer c = [] then .r else .rw)
    rw [handleConnected, he]
    rfl
  refine h.served ht (serves_handleConnected s c fd) hfd (fun hun => ?_) fun ho _ => ?_
  · rw [hout]
    exact h.silent c hun
  have hbuf : s.outputBuffer c ≠ [] := hout ▸ ho.2.2
  have hfail : s.writeFailed c = false := by
    obtain ⟨_, he⟩ := modify_eq (s.endConnecting c) fd .rw
    have := ho.2.1
    rw [handleConnected, if_neg hbuf, he] at this
    exact this
  have hep := (hok.resolve_left (by simp [hfail])).resolve_left hbuf
  rw [handleConnected, if_neg hbuf]
  exact epoll_modify_rw (fun _ => (h.polled fd hep).2) hep

/-- `RemoveConnection` is called after a failed connect; the interest does not matter any more. -/
lemma Arms.connectFailed (h : Arms s) (ht : Tables s) {c : ConnId} {fd : Fd}
    (hpc : s.loop = .writing c fd) : Arms (s.handleConnectFailed c fd) := by
  have hfd := (ht.serving_writing hpc).1
  refine ⟨fun f x hx => ?_, h.polled, fun x hx => ?_⟩
  · by_cases hxc : x = c
    · subst hxc
      obtain rfl := ht.fds_unique hfd hx
      exact .inr (.inl rfl)
    · have harmed := (h.armed f x hx).resolve_right fun hf => by
        rcases hf with hl | hl <;> simp [hpc] at hl
      refine .inl (harmed.congr (fun ho => ?_) id rfl)
      have hc : (decide (s.kind x = .connector) &&
          Function.update s.connecting c false x) = false := ho.1
      exact ⟨by rwa [Function.update_of_ne hxc] at hc, ho.2⟩
  · refine h.silent x ?_
    rcases hx with hreg | hacc | hcaller
    · exact .inl hreg
    · cases hacc
    · exact .inr (.inr hcaller)

/-! ### A failed connect -/

lemma Tables.fds_of_close (ht : Tables s) {c : ConnId} {fd : Fd} (hpc : s.loop = .close c fd) :
    s.fds fd = some c := by
  have hloop := ht.loop
  rw [hpc] at hloop
  exact hloop.2.1

/-- The registration goes away before the number is closed. -/
lemma Arms.removeEvent (h : Arms s) (ht : Tables s) {c : ConnId} {fd : Fd}
    (hpc : s.loop = .removeEvent c fd) : Arms ((s.removeEvent fd).setLoop (.close c fd)) where
  armed := fun f x hx => by
    have hloop := ht.loop
    rw [hpc] at hloop
    by_cases hf : f = fd
    · subst hf
      obtain rfl : c = x := by
        have hx : s.fds f = some x := hx
        simpa [hloop.2.1] using hx
      exact .inr (.inr rfl)
    · have harmed := (h.armed f x hx).resolve_right fun hfail => by
        rcases hfail with hl | hl
        · exact hf (by simpa [hpc, eq_comm] using (LoopPc.removeEvent.inj (hpc.symm.trans hl)).2)
        · simp [hpc] at hl
      exact .inl (harmed.congr id id (by simp [EventLoop.removeEvent, EventLoop.setLoop, hf]))
  polled := fun f hf => by
    have hne : f ≠ fd := by
      rintro rfl
      simp [EventLoop.removeEvent, EventLoop.setLoop] at hf
    have hp := h.polled f (by simpa [EventLoop.removeEvent, EventLoop.setLoop, hne] using hf)
    simpa [EventLoop.removeEvent, EventLoop.setLoop, hne] using hp
  silent := fun c hc => by
    rcases hc with hreg | hacc | hcaller
    · exact h.silent c (.inl hreg)
    · cases hacc
    · exact h.silent c (.inr (.inr hcaller))

/-! ### Entering the tables -/

/-- Who enters the tables for the first time has been sent nothing. -/
lemma getConnection_addConnection {c : ConnId} (hc : s.outputBuffer c = []) (fd : Fd) :
    ∀ f x, (s.addConnection c fd).getConnection f = some x →
      s.getConnection f = some x ∨ s.outputBuffer x = [] := by
  intro f x hx
  rw [EventLoop.addConnection] at hx
  split at hx
  · exact .inl hx
  · by_cases hf : f = fd
    · subst hf
      obtain rfl : c = x := by simpa [EventLoop.getConnection] using hx
      exact .inr hc
    · exact .inl (by simpa [EventLoop.getConnection, hf] using hx)

lemma Arms.addConnection (h : Arms s) {c : ConnId} {fd : Fd} (hc : s.outputBuffer c = []) :
    Arms (s.addConnection c fd) := by
  have hget := getConnection_addConnection hc fd
  obtain ⟨_, _, he⟩ := addConnection_eq s c fd
  rw [he] at hget ⊢
  exact h.frame ⟨rfl, rfl, rfl, rfl, rfl, rfl, rfl⟩ hget (fun _ _ => id) fun _ => .inl

lemma Arms.addConnectionRaw (h : Arms s) {c : ConnId} {fd : Fd} (hc : s.outputBuffer c = []) :
    Arms (s.addConnectionRaw c fd) := by
  rw [EventLoop.addConnectionRaw]
  split
  · exact h
  refine h.frame ⟨rfl, rfl, rfl, rfl, rfl, rfl, rfl⟩ (fun f x hx => ?_) (fun _ _ => id)
    fun _ => .inl
  by_cases hf : f = fd
  · subst hf
    simp only [EventLoop.getConnection, Function.update_self] at hx ⊢
    split at hx
    · exact .inl hx
    · obtain rfl : c = x := by simpa using hx
      exact .inr hc
  · exact .inl (by simpa [EventLoop.getConnection, hf] using hx)

/-- The thread of another loop accepts a connection, which has been sent nothing. -/
lemma Arms.acceptFor [DecidableEq Tid] (h : Arms s) (ht : Tables s) {t : Tid} {fd : Fd}
    (hfd : s.fds fd = none) : Arms (s.acceptFor t fd) := by
  have hnew : Arms (s.create fd .connection .ready false) := h.create ht hfd
  refine hnew.frame ⟨rfl, rfl, rfl, rfl, rfl, rfl, rfl⟩ (fun _ _ => .inl) (fun _ _ => id)
    fun c hc => ?_
  rcases hc with hreg | hacc | ⟨u, f, hu⟩
  · exact .inl (.inl hreg)
  · exact .inl (.inr (.inl hacc))
  by_cases hut : u = t
  · subst hut
    obtain ⟨rfl, -⟩ : s.created = c ∧ fd = f := by simpa [EventLoop.acceptFor] using hu
    exact .inr (by simp [EventLoop.create])
  · have hu : s.callers u = .accepted c f := by simpa [EventLoop.acceptFor, hut] using hu
    exact .inl (.inr (.inr ⟨u, f, hu⟩))

/-! ### Runs -/

lemma accepted_callback (s : EventLoop Tid) (e : FiredEvent) : (s.callback e).accepted = none := by
  rcases callback_cases s e with h | h | ⟨o, c, -, -, -, -, h | h⟩ <;> rw [h] <;> rfl

lemma accepted_afterRead (c : ConnId) (fd : Fd) (out : Bool) :
    (afterRead c fd out).accepted = none := by
  cases out <;> rfl

lemma arms_start : Arms (start Tid) where
  armed := fun _ _ h => by cases h
  polled := fun _ h => absurd rfl h
  silent := fun _ _ => rfl

variable [DecidableEq Tid] {l : Action Tid}

lemma Step.arms (hs : Step s l s') (ht : Tables s) (h : Arms s) (hok : s.keepsArmed l = true) :
    Arms s' := by
  cases hs with
  | connect fd connecting hfd => exact h.create ht hfd
  | listen fd hfd => exact h.create ht hfd
  | constructAddEvent c fd events stage hst hsock hk =>
    exact (h.queueInLoop _).setStage fun _ => by
      change (s.stage c).unregistered = true
      rw [hst]
      rfl
  | constructAddConnectionRaw c fd stage hst hsock hk =>
    have hreg : (s.stage c).unregistered = true := by
      rw [hst]
      rfl
    have hraw : Arms (s.addConnectionRaw c fd) := h.addConnectionRaw (h.silent c (.inl hreg))
    refine hraw.setStage fun _ => ?_
    obtain ⟨_, he⟩ := addConnectionRaw_eq s c fd
    rw [he]
    exact hreg
  | constructNotify c stage hst hstage =>
    refine h.setStage fun hreg => ?_
    rcases hstage with rfl | rfl <;> cases hreg
  | constructModify c fd hst hsock => exact (h.queueInLoop _).setStage fun hreg => by cases hreg
  | constructLate c hst hsock => exact h.setStage fun hreg => by cases hreg
  | destroy c fd hk hst hthis hsock =>
    exact (h.queueInLoop _).setStage fun hreg => by cases hreg
  | destroyClosed c hk hst hthis hsock => exact h.setStage fun hreg => by cases hreg
  | destructClose c fd hst hsock => exact (h.closeFd fd).setStage fun hreg => by cases hreg
  | destructClear c hst => exact (h.clearSocket c).setStage fun hreg => by cases hreg
  | getConnection t fd c hpc hget ha =>
    have hset : Arms (s.setCaller t (.holding c)) := h.setCaller t (by simp)
    exact hset.same ⟨rfl, rfl, rfl, rfl, rfl, rfl, rfl⟩ rfl rfl rfl fun _ => id
  | getNothing t fd hpc => exact h
  | hold t c hpc hk hst => exact h.setCaller t (by simp)
  | send t c fd data hpc hsock ha hk hd => exact h.setCaller t (by simp)
  | sendNothing t c data hpc => exact h
  | queue t c fd data hpc => exact (h.queueInLoop _).setCaller t (by simp)
  | release t c hpc =>
    have hset : Arms (s.setCaller t .idle) := h.setCaller t (by simp)
    exact hset.closes (closes_dropRef _ c (.thread t))
  | acceptFor t fd hpc hfd => exact h.acceptFor ht hfd
  | enterConnection t c fd hpc =>
    exact (h.addConnection (h.silent c (.inr (.inr ⟨t, fd, hpc⟩)))).setCaller t (by simp)
  | enterEvent t c fd hpc => exact (h.queueInLoop _).setCaller t (by simp)
  | handle msg hmem => exact h.relays (relays_mailbox s (s.mailbox.erase msg))
  | protocolError msg hmem =>
    exact (h.relays (relays_mailbox s (s.mailbox.erase msg))).queueInLoop _
  | wait fired hpc hph hf => exact h.relays (relays_wait hph)
  | swap hpc hph => exact h.relays (relays_swap hph)
  | callback e rest hpc hph =>
    exact (h.relays (relays_events hph)).goOn hpc rfl (accepted_callback s e)
  | taskAddEvent c fd events rest hpc hph =>
    refine (h.pop rest).addEvent fun hep howes => ?_
    cases events with
    | rw => rfl
    | r =>
      have hep : s.epoll fd = none := hep
      have howes : s.owes fd = true := howes
      simp [keepsArmed, hpc, hph, hep, howes] at hok
  | taskModify fd events rest hpc hph =>
    refine (h.pop rest).modify fun hep howes => ?_
    cases events with
    | rw => rfl
    | r =>
      have hep : (s.epoll fd).isSome = true := hep
      have howes : s.owes fd = true := howes
      obtain ⟨i, hi⟩ := Option.isSome_iff_exists.mp hep
      simp [keepsArmed, hpc, hph, hi, howes] at hok
  | taskRemove c fd rest hpc hph =>
    exact ((h.pop rest).removeEntries fd).closes (removeConnection_eq (s.setPhase (.tasks rest)) fd)
  | taskSend c origin fd f data rs rest s' hpc hph hget ha hk hsock hsend =>
    have htables : Tables (s.setPhase (.tasks rest)) :=
      ht.unmoved (unmoved_setPhase hpc hph fun _ => rfl)
    have hok : (.zero ∉ rs ∧ .eagain ∉ rs) ∨ s.canWait fd = true := by
      simpa [keepsArmed, hpc, hph] using hok
    exact (h.pop rest).sendInLoop htables hpc hk hget ha hsock hok hsend
  | taskDrop origin fd data rest hpc hph => exact h.pop rest
  | accept fd hpc hfd =>
    have hnew : Arms (s.create fd .connection .ready false) := h.create ht hfd
    refine hnew.setLoop (fun f c _ hf => ?_) fun c hc => ?_
    · have hloop : (s.create fd .connection .ready false).loop = .accepting := hpc
      rcases hf with hl | hl <;> simp [hloop] at hl
    · obtain rfl : s.created = c := by simpa [LoopPc.accepted] using hc
      simp [EventLoop.create]
  | acceptDone hpc => exact h.goOn hpc rfl rfl
  | addConnection c fd hpc =>
    have hnil : s.outputBuffer c = [] := h.silent c (.inr (.inl (by rw [hpc]; rfl)))
    have hadd : Arms (s.addConnection c fd) := h.addConnection hnil
    obtain ⟨_, _, he⟩ := addConnection_eq s c fd
    rw [he] at hadd ⊢
    refine hadd.setLoop (fun f x _ hf => ?_) fun x hx => ?_
    · rcases hf with hl | hl <;> simp [hpc] at hl
    · obtain rfl : c = x := by simpa [LoopPc.accepted] using hx
      exact hnil
  | addEvent c fd pc hpc hnext =>
    have hfd : s.fds fd = some c := by
      have hloop := ht.loop
      rw [hpc] at hloop
      exact ht.fds_of_conn hloop
    have hnil : s.outputBuffer c = [] := h.silent c (.inr (.inl (by rw [hpc]; rfl)))
    have hadd : Arms (s.addEvent c fd .r) := by
      refine h.addEvent fun _ howes => ?_
      simp [owes, hfd, Owing, hnil] at howes
    obtain ⟨_, _, he⟩ := addEvent_eq s c fd .r
    rw [he] at hadd ⊢
    apply hadd.goOn hpc rfl
    rcases hnext with rfl | rfl <;> rfl
  | recvData c fd out bytes hpc => exact h.relays (relays_mailbox s _)
  | recvEof c fd out hpc =>
    exact (h.queueInLoop _).goOn hpc rfl (accepted_afterRead c fd out)
  | recvDone c fd out r hpc hr => exact h.goOn hpc rfl (accepted_afterRead c fd out)
  | connected c fd hpc hc =>
    have hok : s.writeFailed c = true ∨ s.outputBuffer c = [] ∨ s.epoll fd ≠ none := by
      simpa [keepsArmed, hpc, or_assoc, Option.isSome_iff_ne_none] using hok
    have hloop := (serves_handleConnected s c fd).quiet.unmoved.loop
    exact (h.connected ht hpc hok).goOn (hloop.trans hpc) rfl rfl
  | connectFailed c fd hpc hc => exact h.connectFailed ht hpc
  | handleWrite c fd rs t hpc hc hw =>
    have hok : .zero ∉ rs ∨ s.epoll fd = none ∨ s.owes fd = false := by
      simpa [keepsArmed, hpc, or_assoc] using hok
    have hloop := (serves_handleWrite hw).quiet.unmoved.loop
    exact (h.handleWrite ht hpc hc hok hw).goOn (hloop.trans hpc) rfl rfl
  | removeEvent c fd hpc => exact h.removeEvent ht hpc
  | close c fd f hpc hsock =>
    have hfd := ht.fds_of_close hpc
    obtain rfl : fd = f := by simpa [hsock, eq_comm] using (ht.fds fd c hfd).1
    refine (h.closeFd fd).setLoop (fun f x hx hf => ?_) fun x hx => by cases hx
    rcases hf with hl | hl
    · simp [EventLoop.closeFd, hpc] at hl
    · obtain ⟨-, rfl⟩ : c = x ∧ fd = f := by simpa [EventLoop.closeFd, hpc] using hl
      simp [EventLoop.closeFd] at hx
  | closeNothing c fd hpc hsock =>
    have hopen := (ht.fds fd c (ht.fds_of_close hpc)).1
    simp [hsock] at hopen
  | clearSocket c fd hpc =>
    refine (h.clearSocket c).setLoop (fun f x _ hf => ?_) fun x hx => by cases hx
    rcases hf with hl | hl <;> simp [EventLoop.clearSocket, hpc] at hl

/-- A client is sent two bytes, and the kernel takes one of them. -/
def sendHalf : List (Action Unit) :=
  listenOn3 ++ acceptOn4 ++
  [.getConnection () 4, .send () [7, 8], .queue (), .wait [], .loop, .write [.wrote 1, .eagain]]

/-- A connector whose connect succeeds at once is sent two bytes before its constructor is done;
the read-only interest comes last. -/
example :
    let s := (machine Unit).replay (start Unit)
      [.connect 4 false, .construct 0, .construct 0, .construct 0,
        .getConnection () 4, .send () [7, 8], .queue (), .construct 0,
        .wait [], .loop, .loop, .write [.wrote 1, .eagain], .loop]
    s.loop = .idle ∧ s.fds 4 = some 0 ∧ s.Owing 0 ∧ s.epoll 4 = some .r := by
  decide

/-- Another loop has entered a connection and not yet queued `AddEvent` when the connection is sent
two bytes; the interest is read-only in the end. -/
example :
    let s := (machine Bool).replay (start Bool)
      [.acceptFor true 4, .enter true, .getConnection false 4, .send false [7, 8], .queue false,
        .enter true, .wait [], .loop, .write [.wrote 1, .eagain], .loop]
    s.loop = .idle ∧ s.fds 4 = some 0 ∧ s.Owing 0 ∧ s.epoll 4 = some .r := by
  decide

end EventLoop

end Balabala
