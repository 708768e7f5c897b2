import Balabala.Server.Step

/-!
# The tables of all loops

Every table of the server has for a number what the connection says that is open under it: in which
loop it is, and what was done last for it. So the tables of the loops and of `ActorSystem` agree,
whatever the threads do at the same time and however soon a number is given out again.
-/

namespace Balabala.TcpServer

open Foundation

namespace Life

def isMapped : Life → Bool
  | .accepted | .removed => false
  | _ => true

def isBound : Life → Bool
  | .bound | .announced | .queued | .serving | .closing => true
  | _ => false

def isRegistered : Life → Bool
  | .serving | .closing | .unbound | .leaving => true
  | _ => false

end Life

variable {s s' : TcpServer} {a : Action} {c : ConnId}

/-- The open numbers are those of the connections that are not removed or that the worker holds. -/
structure Numbered (s : TcpServer) : Prop where
  socket : ∀ f c, s.fds f = some c → c < s.accepted ∧ s.socket c = f ∧ 0 ≤ f
  held : ∀ f c, s.fds f = some c → s.life c ≠ .removed ∨ s.worker.conn = some c
  isOpen : ∀ c, s.life c ≠ .removed ∨ s.worker.conn = some c → s.fds (s.socket c) = some c
  worker : ∀ c, s.worker.conn = some c → s.life c ≠ .accepted

/-- The tables have what the open connections say. -/
structure Tables (s : TcpServer) : Prop where
  mapConn : ∀ k, s.mapConn k = (s.fds k.2).filter fun c => s.home c = k.1 && (s.life c).isMapped
  callbacks : ∀ k, s.callbacks k =
    (s.fds k.2).any fun c => s.home c = k.1 && (s.life c).isRegistered
  epoll : ∀ k, (s.epoll k).isSome = s.callbacks k
  fdToLoop : ∀ f, s.fdToLoop f = ((s.fds f).filter fun c => (s.life c).isBound).map s.home
  fdToActor : ∀ f, s.fdToActor f =
    ((s.fds f).filter fun c => (s.life c).isBound).map fun _ => s.serverActorId

/-- What is done last for the connection that a thread is at. -/
def Fits (s : TcpServer) (l : LoopId) : LoopPc → Prop
  | .idle => True
  | .accepting => l = .main
  | .addConnection c => l = .main ∧ s.life c = .accepted
  | .bindFdToActor c => l = .main ∧ s.life c = .mapped
  | .sendConnected c => l = .main ∧ s.life c = .bound
  | .addEvent c => l = .main ∧ s.life c = .announced
  | .reading c _ => s.home c = l ∧ s.life c = .serving
  | .sendByFd c _ msg | .send c _ msg _ => s.home c = l ∧
      (s.life c = .serving ∧ msg.type = .networkRecv ∨
        s.life c = .closing ∧ msg.type = .disconnected)
  | .unbindFd c _ => s.home c = l ∧ s.life c = .closing
  | .removeConnection c _ => s.home c = l ∧ s.life c = .unbound
  | .writing c => s.home c = l ∧ (s.life c = .serving ∨ s.life c = .leaving)

/-- What was done last for the connection of a task. -/
def TaskFits (s : TcpServer) (l : LoopId) : Task → Prop
  | .addEvent c fd => s.life c = .queued ∧ s.home c = l ∧ s.socket c = fd
  | .removeConnection c fd => s.life c = .leaving ∧ s.home c = l ∧ s.socket c = fd
  | .send _ _ _ => True

/-- The connection that a task adds or removes. -/
def Task.subject : Task → Option ConnId
  | .addEvent c _ | .removeConnection c _ => some c
  | .send _ _ _ => none

/-- The tasks that are run before the next `epoll_wait`. -/
def nextTasks (s : TcpServer) (l : LoopId) : List Task :=
  match s.phase l with
  | .events _ => s.pendingTasks l
  | .tasks batch => batch

/-- The events that are to come in the batch. -/
def fired (s : TcpServer) (l : LoopId) : List FiredEvent :=
  match s.phase l with
  | .events fired => fired
  | .tasks _ => []

/-- The threads and the tasks are where what was done last for their connections says. -/
structure Staged (s : TcpServer) : Prop where
  pc : ∀ l, s.Fits l (s.loop l)
  events : ∀ l, s.loop l ≠ .idle → ∃ fired, s.phase l = .events fired
  busy : ∀ c, s.life c = .closing ∨ s.life c = .unbound → (s.loop (s.home c)).conn = some c
  tasks : ∀ l, ∀ t ∈ s.queue l, s.TaskFits l t
  once : ∀ l, ((s.queue l).filterMap Task.subject).Nodup
  leaving : ∀ c, s.life c = .leaving →
    Task.removeConnection c (s.socket c) ∈ s.nextTasks (s.home c)
  distinct : ∀ l, ((s.fired l).map FiredEvent.fd).Nodup
  fired : ∀ l, ∀ e ∈ s.fired l, ∃ c, s.fds e.fd = some c ∧ s.home c = l ∧ s.life c = .serving ∧
    (s.loop l).conn ≠ some c

/-- The server in order. -/
structure Coherent (s : TcpServer) : Prop where
  numbered : Numbered s
  tables : Tables s
  staged : Staged s

/-! ### Reading the tables -/

lemma Tables.mapConn_eq_some (h : Tables s) {l : LoopId} {f : Fd} :
    s.mapConn (l, f) = some c ↔
      s.fds f = some c ∧ s.home c = l ∧ (s.life c).isMapped = true := by
  rw [h.mapConn, Option.filter_eq_some_iff]
  simp

lemma Coherent.mapConn_of_mapped (h : Coherent s) (hc : (s.life c).isMapped = true) :
    s.mapConn (s.home c, s.socket c) = some c := by
  refine h.tables.mapConn_eq_some.mpr ⟨h.numbered.isOpen c (.inl ?_), rfl, hc⟩
  rintro he
  rw [he] at hc
  cases hc

/-- A thread is at a connection only in its loop or in `HandleAccept`. -/
def keeper (s : TcpServer) (c : ConnId) : LoopId :=
  match s.life c with
  | .accepted | .mapped | .bound | .announced => .main
  | _ => s.home c

lemma Fits.keeper {l : LoopId} {pc : LoopPc} (h : s.Fits l pc) (hc : pc.conn = some c) :
    l = s.keeper c := by
  cases pc with
  | idle | accepting => cases hc
  | addConnection | bindFdToActor | sendConnected | addEvent =>
    cases hc
    rw [TcpServer.keeper, h.2]
    exact h.1
  | reading | unbindFd | removeConnection =>
    cases hc
    rw [TcpServer.keeper, h.2]
    exact h.1.symm
  | sendByFd | send =>
    cases hc
    rcases h with ⟨hl, ⟨hlife, -⟩ | ⟨hlife, -⟩⟩ <;> rw [TcpServer.keeper, hlife] <;> exact hl.symm
  | writing =>
    cases hc
    rcases h with ⟨hl, hlife | hlife⟩ <;> rw [TcpServer.keeper, hlife] <;> exact hl.symm

lemma Staged.fits (h : Staged s) {l : LoopId} {pc : LoopPc} (hl : s.loop l = pc) : s.Fits l pc :=
  hl ▸ h.pc l

/-- No two threads are at the same connection. -/
lemma Staged.unique (h : Staged s) {l l' : LoopId} (hc : (s.loop l).conn = some c)
    (hc' : (s.loop l').conn = some c) : l = l' :=
  ((h.pc l).keeper hc).trans ((h.pc l').keeper hc').symm

/-- What was done last for a connection that a thread is at. -/
lemma Fits.life {l : LoopId} {pc : LoopPc} (h : s.Fits l pc) (hc : pc.conn = some c) :
    s.life c ≠ .removed ∧ s.life c ≠ .queued := by
  cases pc with
  | idle | accepting => cases hc
  | addConnection | bindFdToActor | sendConnected | addEvent | reading | unbindFd
  | removeConnection =>
    cases hc
    simp [h.2]
  | sendByFd | send =>
    cases hc
    rcases h.2 with ⟨hlife, -⟩ | ⟨hlife, -⟩ <;> simp [hlife]
  | writing =>
    cases hc
    rcases h.2 with hlife | hlife <;> simp [hlife]

/-! ### What the tables keep -/

/-- No number is opened or closed, and the worker holds what it held. -/
lemma Numbered.frame (h : Numbered s) (hfds : s'.fds = s.fds) (hsocket : s'.socket = s.socket)
    (haccepted : s'.accepted = s.accepted)
    (hremoved : ∀ c, s'.life c = .removed ↔ s.life c = .removed)
    (hworker : ∀ c, s'.worker.conn = some c → s'.life c ≠ .accepted)
    (hconn : ∀ c, s.life c = .removed → (s'.worker.conn = some c ↔ s.worker.conn = some c)) :
    Numbered s' where
  socket f c hc := by
    rw [hsocket, haccepted]
    exact h.socket f c (hfds ▸ hc)
  held f c hc := by
    by_cases hlife : s.life c = .removed
    · have hheld := h.held f c (hfds ▸ hc)
      exact .inr ((hconn c hlife).mpr (hheld.resolve_left (not_not.mpr hlife)))
    · exact .inl fun he => hlife ((hremoved c).mp he)
  isOpen c hc := by
    rw [hfds, hsocket]
    refine h.isOpen c ?_
    by_cases hlife : s.life c = .removed
    · have hheld := hc.resolve_left (not_not.mpr ((hremoved c).mpr hlife))
      exact .inr ((hconn c hlife).mp hheld)
    · exact .inl hlife
  worker := hworker

/-- No table changes, and what was done for a connection makes no difference to them. -/
lemma Tables.frame (h : Tables s) (hfds : s'.fds = s.fds) (hhome : s'.home = s.home)
    (hid : s'.serverActorId = s.serverActorId)
    (hlife : ∀ c, (s'.life c).isMapped = (s.life c).isMapped ∧
      (s'.life c).isBound = (s.life c).isBound ∧
      (s'.life c).isRegistered = (s.life c).isRegistered)
    (hmap : s'.mapConn = s.mapConn) (hcallbacks : s'.callbacks = s.callbacks)
    (hepoll : ∀ k, (s'.epoll k).isSome = (s.epoll k).isSome) (hloop : s'.fdToLoop = s.fdToLoop)
    (hactor : s'.fdToActor = s.fdToActor) : Tables s' where
  mapConn k := by
    rw [hmap, hfds, hhome, h.mapConn]
    simp only [(hlife _).1]
  callbacks k := by
    rw [hcallbacks, hfds, hhome, h.callbacks]
    simp only [(hlife _).2.2]
  epoll k := by rw [hepoll, hcallbacks, h.epoll]
  fdToLoop f := by
    rw [hloop, hfds, hhome, h.fdToLoop]
    simp only [(hlife _).2.1]
  fdToActor f := by
    rw [hactor, hfds, hid, h.fdToActor]
    simp only [(hlife _).2.1]

section SetLife

variable {f : Fd} {x : Life}

/-- What was done last for `c` matters for its number only. -/
lemma Numbered.filter_update (h : Numbered s) (hc : s.fds f = some c) (p : ConnId → Life → Bool)
    (x : Life) (g : Fd) : (s.fds g).filter (fun d => p d (Function.update s.life c x d)) =
      if g = f then (if p c x then some c else none)
      else (s.fds g).filter fun d => p d (s.life d) := by
  split_ifs with hg hp
  · rw [hg, hc, Option.filter_some, Function.update_self, if_pos hp]
  · rw [hg, hc, Option.filter_some, Function.update_self, if_neg hp]
  · cases hd : s.fds g with
    | none => rfl
    | some d =>
      have hne : d ≠ c := by
        rintro rfl
        exact hg ((h.socket g d hd).2.1.symm.trans (h.socket f d hc).2.1)
      rw [Option.filter_some, Option.filter_some, Function.update_of_ne hne]

lemma Numbered.any_update (h : Numbered s) (hc : s.fds f = some c) (p : ConnId → Life → Bool)
    (x : Life) (g : Fd) : (s.fds g).any (fun d => p d (Function.update s.life c x d)) =
      if g = f then p c x else (s.fds g).any fun d => p d (s.life d) := by
  split_ifs with hg
  · rw [hg, hc, Option.any_some, Function.update_self]
  · cases hd : s.fds g with
    | none => rfl
    | some d =>
      have hne : d ≠ c := by
        rintro rfl
        exact hg ((h.socket g d hd).2.1.symm.trans (h.socket f d hc).2.1)
      rw [Option.any_some, Option.any_some, Function.update_of_ne hne]

/-- Something is done for `c`, and the entries of its number follow. -/
lemma Tables.setLife (h : Tables s) (hn : Numbered s) (hc : s.fds f = some c)
    (hfds : s'.fds = s.fds) (hhome : s'.home = s.home) (hid : s'.serverActorId = s.serverActorId)
    (hlife : s'.life = Function.update s.life c x)
    (hmap : s'.mapConn = Function.update s.mapConn (s.home c, f)
      (if x.isMapped then some c else none))
    (hcallbacks : s'.callbacks = Function.update s.callbacks (s.home c, f) x.isRegistered)
    (hepoll : ∀ k, (s'.epoll k).isSome = s'.callbacks k)
    (hloop : s'.fdToLoop = Function.update s.fdToLoop f
      (if x.isBound then some (s.home c) else none))
    (hactor : s'.fdToActor = Function.update s.fdToActor f
      (if x.isBound then some s.serverActorId else none)) : Tables s' where
  mapConn k := by
    rw [hmap, hfds, hhome, hlife,
      hn.filter_update hc (fun d y => s.home d = k.1 && y.isMapped) x k.2]
    by_cases hk : k = (s.home c, f)
    · subst hk
      simp
    · rw [Function.update_of_ne hk, h.mapConn]
      split_ifs with hf hp
      · rw [Bool.and_eq_true, decide_eq_true_eq] at hp
        exact absurd (Prod.ext hp.1.symm hf) hk
      · have hne : s.home c ≠ k.1 := fun he => hk (Prod.ext he.symm hf)
        rw [hf, hc, Option.filter_some, if_neg (by simp [hne])]
      · rfl
  callbacks k := by
    rw [hcallbacks, hfds, hhome, hlife,
      hn.any_update hc (fun d y => s.home d = k.1 && y.isRegistered) x k.2]
    by_cases hk : k = (s.home c, f)
    · subst hk
      simp
    · rw [Function.update_of_ne hk, h.callbacks]
      split_ifs with hf
      · have hne : s.home c ≠ k.1 := fun he => hk (Prod.ext he.symm hf)
        rw [hf, hc, Option.any_some]
        simp [hne]
      · rfl
  epoll := hepoll
  fdToLoop g := by
    rw [hloop, hfds, hhome, hlife, hn.filter_update hc (fun _ y => y.isBound) x g]
    by_cases hg : g = f
    · subst hg
      rw [Function.update_self, if_pos rfl]
      cases x.isBound <;> rfl
    · rw [Function.update_of_ne hg, if_neg hg, h.fdToLoop]
  fdToActor g := by
    rw [hactor, hfds, hid, hlife, hn.filter_update hc (fun _ y => y.isBound) x g]
    by_cases hg : g = f
    · subst hg
      rw [Function.update_self, if_pos rfl]
      cases x.isBound <;> rfl
    · rw [Function.update_of_ne hg, if_neg hg, h.fdToActor]

lemma Tables.mapConn_self (h : Tables s) (hc : s.fds f = some c)
    (hx : x.isMapped = (s.life c).isMapped) :
    s.mapConn = Function.update s.mapConn (s.home c, f) (if x.isMapped then some c else none) := by
  refine (Function.update_eq_self_iff.mpr ?_).symm
  rw [h.mapConn, hc, Option.filter_some, hx]
  simp

lemma Tables.callbacks_self (h : Tables s) (hc : s.fds f = some c)
    (hx : x.isRegistered = (s.life c).isRegistered) :
    s.callbacks = Function.update s.callbacks (s.home c, f) x.isRegistered := by
  refine (Function.update_eq_self_iff.mpr ?_).symm
  rw [h.callbacks, hc, Option.any_some, hx]
  simp

lemma Tables.fdToLoop_self (h : Tables s) (hc : s.fds f = some c)
    (hx : x.isBound = (s.life c).isBound) :
    s.fdToLoop = Function.update s.fdToLoop f (if x.isBound then some (s.home c) else none) := by
  refine (Function.update_eq_self_iff.mpr ?_).symm
  rw [h.fdToLoop, hc, Option.filter_some, hx]
  cases (s.life c).isBound <;> rfl

lemma Tables.fdToActor_self (h : Tables s) (hc : s.fds f = some c)
    (hx : x.isBound = (s.life c).isBound) :
    s.fdToActor = Function.update s.fdToActor f
      (if x.isBound then some s.serverActorId else none) := by
  refine (Function.update_eq_self_iff.mpr ?_).symm
  rw [h.fdToActor, hc, Option.filter_some, hx]
  cases (s.life c).isBound <;> rfl

end SetLife

end Balabala.TcpServer
