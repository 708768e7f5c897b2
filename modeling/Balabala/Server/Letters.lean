import Balabala.Server.Routing

/-!
# The messages for the actor

`Effect` says what a step does to the messages: those being sent by the threads of the loops, those
in the mailbox, the one the worker is at, and the data in the tasks that send. From it, the actor is
told of every connection that it is there, what was received on it, in order and without a gap, and
that it has ended: `SendByFd` never finds a number unbound, whoever had it before and in whatever
loop.
-/

namespace Balabala.TcpServer

open Foundation

variable {s s' : TcpServer} {a : Action} {l : LoopId} {c : ConnId} {pc : LoopPc}

namespace Life

/-- `Connected` was sent. -/
def isAnnounced : Life → Bool
  | .accepted | .mapped | .bound => false
  | _ => true

/-- The end of the stream was read. -/
def isOver : Life → Bool
  | .closing | .unbound | .leaving | .removed => true
  | _ => false

/-- The number was unbound. -/
def isEnded : Life → Bool
  | .unbound | .leaving | .removed => true
  | _ => false

end Life

/-- The message about `c` that a thread is sending. -/
def LoopPc.hand : LoopPc → ConnId → List ActorMessage
  | .sendByFd d _ msg, c | .send d _ msg _, c => if d = c then [msg] else []
  | _, _ => []

/-- The message the worker is at. -/
def WorkerPc.hand : WorkerPc → List Letter
  | .getEventLoopByFd m | .getConnection m _ | .send m _ => [m]
  | .idle | .release _ => []

def hand (s : TcpServer) (c : ConnId) : List ActorMessage := (s.loop (s.home c)).hand c

def Task.sending : Task → Option (ConnId × Fd × Bytes)
  | .send origin fd data => some (origin, fd, data)
  | .addEvent _ _ | .removeConnection _ _ => none

/-- What the tasks of a loop are to send. -/
def sends (s : TcpServer) (l : LoopId) : List (ConnId × Fd × Bytes) :=
  (s.queue l).filterMap Task.sending

/-! ### What a step does to the messages -/

/-- Nothing happens to a message. -/
structure Quiet (s s' : TcpServer) : Prop where
  conns : SameConns s s'
  sent : s'.sent = s.sent
  mailbox : s'.mailbox = s.mailbox
  worker : s'.worker = s.worker ∨ (∃ c, s.worker = .release c) ∧ s'.worker = .idle
  received : s'.received = s.received
  ran : s'.ran = s.ran
  hand : ∀ c, s'.hand c = s.hand c
  sends : ∀ l, s'.sends l = s.sends l
  announced : ∀ c, (s'.life c).isAnnounced = (s.life c).isAnnounced
  overs : ∀ c, (s'.life c).isOver = (s.life c).isOver
  ended : ∀ c, (s.life c).isEnded = true → (s'.life c).isEnded = true
  removed : ∀ c, s.life c = .removed → s'.life c = .removed
  fds : ∀ f c, s'.fds f = some c → s.fds f = some c

inductive Effect (s : TcpServer) : Action → TcpServer → Prop
  | quiet (a : Action) (s' : TcpServer) (h : Quiet s s') : Effect s a s'
  | accept (fd : Fd) (hl : s.loop .main = .accepting) (hfd : 0 ≤ fd) (hfree : s.fds fd = none) :
      Effect s (.accept (some fd)) (s.handleAccept .main fd)
  | connected (l : LoopId) (c : ConnId) (hl : s.loop l = .sendConnected c) :
      Effect s (.loop l) (s.sendConnected l c)
  | recv (l : LoopId) (c : ConnId) (out : Bool) (bytes : Bytes) (hl : s.loop l = .reading c out)
      (hbytes : bytes ≠ []) :
      Effect s (.recv l (.data bytes)) (s.handleRead l c out (.data bytes))
  | eof (l : LoopId) (c : ConnId) (out : Bool) (hl : s.loop l = .reading c out) :
      Effect s (.recv l .eof) (s.handleRead l c out .eof)
  | post (l : LoopId) (c : ConnId) (out : Bool) (msg : ActorMessage)
      (hl : s.loop l = .send c out msg s.serverActorId) :
      Effect s (.loop l) ((s.send s.serverActorId ⟨msg, c⟩).setLoop l (afterSend c out msg))
  | pop (m : Letter) (rest : List Letter) (hw : s.worker = .idle) (hm : s.mailbox = m :: rest) :
      Effect s .pop { s with
        mailbox := rest
        worker := if m.msg.type = .networkRecv then .getEventLoopByFd m else .idle }
  | getEventLoopByFd (m : Letter) (hw : s.worker = .getEventLoopByFd m) :
      Effect s .worker (s.setWorker (.getConnection m (s.getEventLoopByFd m.msg.fd)))
  | notFound (m : Letter) (l : LoopId) (hw : s.worker = .getConnection m l)
      (hfd : s.mapConn (l, m.msg.fd) = none) : Effect s .worker (s.setWorker .idle)
  | getConnection (m : Letter) (l : LoopId) (c : ConnId) (hw : s.worker = .getConnection m l)
      (hfd : s.mapConn (l, m.msg.fd) = some c) : Effect s .worker (s.setWorker (.send m c))
  | queueSend (m : Letter) (c : ConnId) (hw : s.worker = .send m c)
      (hok : s.sendable c m.msg.dataBytes) :
      Effect s .worker ((s.queueInLoop (s.home c)
        (.send m.origin (s.socket c) m.msg.dataBytes)).setWorker (.release c))
  | skipSend (m : Letter) (c : ConnId) (hw : s.worker = .send m c)
      (hno : ¬ s.sendable c m.msg.dataBytes) : Effect s .worker (s.setWorker (.release c))
  | runSend (l : LoopId) (origin : ConnId) (fd : Fd) (data : Bytes) (rest : List Task)
      (rs : List WriteResult) (s' : TcpServer) (hl : s.loop l = .idle)
      (hp : s.phase l = .tasks (.send origin fd data :: rest))
      (hs : (s.setPhase l (.tasks rest)).runSend l origin fd data rs = some s') :
      Effect s (.write l rs) s'

lemma Quiet.release (h : Quiet s s') (c : ConnId) : Quiet s (s'.release c) := by
  rw [TcpServer.release]
  split_ifs
  · exact h
  · exact { h with
      fds := by
        intro f d hd
        by_cases hf : f = s'.socket c
        · subst hf
          simp [closeFd] at hd
        · exact h.fds f d ((Function.update_of_ne hf _ _).symm.trans hd)
      conns := ⟨h.conns.1, h.conns.2, h.conns.3, h.conns.4, h.conns.5, h.conns.6⟩ }

/-- Nobody sends a message at these places. -/
def LoopPc.emptyHanded : LoopPc → Bool
  | .sendByFd _ _ _ | .send _ _ _ _ => false
  | _ => true

lemma LoopPc.hand_eq_nil (h : pc.emptyHanded = true) (c : ConnId) : pc.hand c = [] := by
  cases pc with
  | sendByFd | send => cases h
  | _ => rfl

/-- The thread of a loop goes between places where it sends no message. -/
lemma hand_update (hloop : s'.loop = Function.update s.loop l pc) (hhome : s'.home = s.home)
    (hold : (s.loop l).emptyHanded = true) (hnew : pc.emptyHanded = true) (c : ConnId) :
    s'.hand c = s.hand c := by
  rw [hand, hand, hhome, hloop]
  by_cases hl : s.home c = l
  · rw [hl, Function.update_self, LoopPc.hand_eq_nil hnew, LoopPc.hand_eq_nil hold]
  · rw [Function.update_of_ne hl]

lemma sends_eq_of_queue (h : s'.queue l = s.queue l) : s'.sends l = s.sends l := by
  rw [sends, sends, h]

/-- The thread of a loop moves on, nothing happens to a message, and at most something is done for
`c`. -/
lemma quiet_move (hconns : SameConns s s') (hsent : s'.sent = s.sent)
    (hmailbox : s'.mailbox = s.mailbox) (hworker : s'.worker = s.worker)
    (hreceived : s'.received = s.received) (hran : s'.ran = s.ran)
    (hhand : ∀ c, s'.hand c = s.hand c) (hsends : ∀ l, s'.sends l = s.sends l)
    (hfds : s'.fds = s.fds) {x : Life} (hlife : s'.life = Function.update s.life c x)
    (hx : x.isAnnounced = (s.life c).isAnnounced ∧ x.isOver = (s.life c).isOver ∧
      ((s.life c).isEnded = true → x.isEnded = true) ∧ (s.life c = .removed → x = .removed)) :
    Quiet s s' where
  conns := hconns
  sent := hsent
  mailbox := hmailbox
  worker := .inl hworker
  received := hreceived
  ran := hran
  hand := hhand
  sends := hsends
  announced d := by
    rw [hlife]
    by_cases hd : d = c
    · subst hd
      rw [Function.update_self, hx.1]
    · rw [Function.update_of_ne hd]
  overs d := by
    rw [hlife]
    by_cases hd : d = c
    · subst hd
      rw [Function.update_self, hx.2.1]
    · rw [Function.update_of_ne hd]
  ended d := by
    rw [hlife]
    by_cases hd : d = c
    · subst hd
      rw [Function.update_self]
      exact hx.2.2.1
    · rw [Function.update_of_ne hd]
      exact id
  removed d := by
    rw [hlife]
    by_cases hd : d = c
    · subst hd
      rw [Function.update_self]
      exact hx.2.2.2
    · rw [Function.update_of_ne hd]
      exact id
  fds f d := by
    rw [hfds]
    exact id

/-- And nothing is done for a connection. -/
lemma quiet_stay (hconns : SameConns s s') (hsent : s'.sent = s.sent)
    (hmailbox : s'.mailbox = s.mailbox) (hworker : s'.worker = s.worker)
    (hreceived : s'.received = s.received) (hran : s'.ran = s.ran)
    (hhand : ∀ c, s'.hand c = s.hand c) (hsends : ∀ l, s'.sends l = s.sends l)
    (hfds : s'.fds = s.fds) (hlife : s'.life = s.life) : Quiet s s' :=
  quiet_move hconns hsent hmailbox hworker hreceived hran hhand hsends hfds (c := 0)
    (x := s.life 0) (by rw [hlife, Function.update_eq_self]) ⟨rfl, rfl, id, id⟩

lemma Quiet.refl (s : TcpServer) : Quiet s s :=
  quiet_stay (.refl s) rfl rfl rfl rfl rfl (fun _ => rfl) (fun _ => rfl) rfl rfl

lemma quiet_afterRead {out : Bool} (hl : s.loop l = .reading c out) :
    Quiet s (s.afterRead l c out) := by
  have hset : ∀ pc : LoopPc, pc.emptyHanded = true → Quiet s (s.setLoop l pc) := fun pc hpc =>
    quiet_stay ((SameConns.refl s).setLoop l pc) rfl rfl rfl rfl rfl
      (hand_update rfl rfl (by rw [hl]; rfl) hpc) (fun _ => rfl) rfl rfl
  rw [afterRead]
  split_ifs
  · exact hset _ rfl
  · exact (hset _ rfl).release c

/-- Tasks that send nothing are queued. -/
lemma sends_of_queued {new : LoopId → List Task} (hphase : s'.phase = s.phase)
    (hpending : ∀ l, s'.pendingTasks l = s.pendingTasks l ++ new l)
    (hnew : ∀ l, (new l).filterMap Task.sending = []) (l : LoopId) : s'.sends l = s.sends l := by
  rw [sends, sends, queue_eq_of_phase (congrFun hphase l) (hpending l), List.filterMap_append,
    hnew, List.append_nil]

/-- A task that sends nothing is taken from the batch. -/
lemma sends_of_taken {t : Task} {rest : List Task} (hp : s.phase l = .tasks (t :: rest))
    (hphase : s'.phase = Function.update s.phase l (.tasks rest))
    (hpending : s'.pendingTasks = s.pendingTasks) (ht : t.sending = none) (l' : LoopId) :
    s'.sends l' = s.sends l' := by
  rw [sends, sends, queue, queue, hphase, hpending]
  by_cases hl : l' = l
  · subst hl
    rw [Function.update_self, hp]
    exact (List.filterMap_cons_none ht).symm
  · rw [Function.update_of_ne hl]

lemma emptyHanded_callback (s : TcpServer) (l : LoopId) (e : FiredEvent) :
    (s.callback l e).emptyHanded = true := by
  rw [callback]
  split
  · split
    · rfl
    · split
      · rfl
      · split <;> rfl
  · rfl

lemma emptyHanded_afterSend (c : ConnId) (out : Bool) (msg : ActorMessage) :
    (afterSend c out msg).emptyHanded = true := by
  rw [afterSend]
  split_ifs <;> rfl

lemma quiet_finishAccept (h : Coherent s) (hl : s.loop l = .addEvent c) :
    Quiet s (s.finishAccept l c) := by
  obtain ⟨-, hlife⟩ : l = .main ∧ s.life c = .announced := h.staged.fits hl
  have hold : (s.loop l).emptyHanded = true := by rw [hl]; rfl
  rw [finishAccept]
  split_ifs with hhome hadd
  · apply Quiet.release
    rw [addEvent, if_pos hadd]
    exact quiet_move ⟨rfl, rfl, rfl, rfl, rfl, rfl⟩ rfl rfl rfl rfl rfl
      (hand_update rfl rfl hold rfl) (fun _ => rfl) rfl rfl
      (by simp [hlife, Life.isAnnounced, Life.isOver, Life.isEnded])
  · -- `epoll_ctl` does not fail for a new connection
    have hcan := h.canAdd (c := c) (h.numbered.isOpen c (.inl (by simp [hlife])))
      (by rw [hlife]; rfl)
    rw [hhome] at hcan
    exact absurd hcan hadd
  · apply Quiet.release
    refine quiet_move (c := c) ⟨rfl, rfl, rfl, rfl, rfl, rfl⟩ rfl rfl rfl rfl rfl
      (hand_update rfl rfl hold rfl)
      (sends_of_queued rfl (pendingTasks_queueInLoop s (s.home c) _) fun l' => ?_) rfl rfl
      (by simp [hlife, Life.isAnnounced, Life.isOver, Life.isEnded])
    split_ifs <;> rfl

lemma quiet_taskAddEvent (h : Coherent s) {fd : Fd} {rest : List Task}
    (hp : s.phase l = .tasks (.addEvent c fd :: rest)) :
    Quiet s ((s.setPhase l (.tasks rest)).addEvent l c fd) := by
  obtain ⟨hlife, rfl, rfl⟩ : s.TaskFits l (.addEvent c fd) :=
    h.staged.tasks l _ (by rw [queue, hp]; exact List.mem_cons_self)
  have hcan := h.canAdd (h.numbered.isOpen c (.inl (by simp [hlife]))) (by rw [hlife]; rfl)
  rw [addEvent, if_pos (show (s.setPhase _ _).canAdd _ _ from hcan)]
  exact quiet_move ⟨rfl, rfl, rfl, rfl, rfl, rfl⟩ rfl rfl rfl rfl rfl (fun _ => rfl)
    (sends_of_taken hp rfl rfl rfl) rfl rfl
    (by simp [hlife, Life.isAnnounced, Life.isOver, Life.isEnded])

lemma quiet_taskRemove (h : Coherent s) {fd : Fd} {rest : List Task}
    (hp : s.phase l = .tasks (.removeConnection c fd :: rest)) :
    Quiet s ((s.setPhase l (.tasks rest)).removeConnection l fd) := by
  obtain ⟨hlife, rfl, rfl⟩ : s.TaskFits l (.removeConnection c fd) :=
    h.staged.tasks l _ (by rw [queue, hp]; exact List.mem_cons_self)
  have hmap := h.mapConn_of_mapped (c := c) (by rw [hlife]; rfl)
  rw [removeConnection, show (s.setPhase _ _).mapConn = s.mapConn from rfl, hmap]
  apply Quiet.release
  exact quiet_move ⟨rfl, rfl, rfl, rfl, rfl, rfl⟩ rfl rfl rfl rfl rfl (fun _ => rfl)
    (sends_of_taken hp rfl rfl rfl) rfl rfl
    (by simp [hlife, Life.isAnnounced, Life.isOver, Life.isEnded])

/-- `SendByFd` finds the actor: the number of a connection that is read is bound. -/
lemma Coherent.getActorIdByFd (h : Coherent s) {out : Bool} {msg : ActorMessage}
    (hl : s.loop l = .sendByFd c out msg) :
    s.getActorIdByFd (s.socket c) = s.serverActorId := by
  have hfits := h.staged.fits hl
  rw [TcpServer.getActorIdByFd, h.tables.fdToActor, h.isOpen (l := l) (by rw [hl]; rfl),
    Option.filter_some]
  rcases hfits.2 with ⟨hlife, -⟩ | ⟨hlife, -⟩ <;> rw [hlife] <;> rfl

lemma quiet_sendByFd {out : Bool} {msg : ActorMessage} {id : ActorId}
    (hl : s.loop l = .sendByFd c out msg) : Quiet s (s.setLoop l (.send c out msg id)) := by
  refine quiet_stay ((SameConns.refl s).setLoop l _) rfl rfl rfl rfl rfl (fun d => ?_)
    (fun _ => rfl) rfl rfl
  by_cases hd : s.home d = l
  · rw [hand, show (s.setLoop l _).home = s.home from rfl, hd, loop_setLoop, hand, hd, hl]
    rfl
  · rw [hand, show (s.setLoop l _).home = s.home from rfl, loop_setLoop_of_ne s hd, hand]

lemma quiet_requestRemoval (h : Coherent s) {out : Bool} (hl : s.loop l = .removeConnection c out) :
    Quiet s (s.requestRemoval l c out) := by
  obtain ⟨-, hlife⟩ : s.home c = l ∧ s.life c = .unbound := h.staged.fits hl
  have hmove : ∀ pc : LoopPc, pc.emptyHanded = true → Quiet s
      (((s.queueInLoop l (.removeConnection c (s.socket c))).setLife c .leaving).setLoop l pc) := by
    intro pc hpc
    refine quiet_move (c := c) ⟨rfl, rfl, rfl, rfl, rfl, rfl⟩ rfl rfl rfl rfl rfl
      (hand_update rfl rfl (by rw [hl]; rfl) hpc)
      (sends_of_queued rfl (pendingTasks_queueInLoop s l _) fun l' => ?_) rfl rfl
      (by simp [hlife, Life.isAnnounced, Life.isOver, Life.isEnded])
    split_ifs <;> rfl
  rw [requestRemoval, TcpServer.afterRead]
  split_ifs
  · exact hmove _ rfl
  · exact (hmove _ rfl).release c

lemma OutputOnly.quiet (h : OutputOnly s s') : Quiet s s' := by
  have hsame := h.sameConns
  obtain ⟨e, o, f, w, rfl, -⟩ := h
  exact quiet_stay hsame rfl rfl rfl rfl rfl (fun _ => rfl) (fun _ => rfl) rfl rfl

/-- The thread of a loop moves on from where it holds no message to where it holds none. -/
lemma Quiet.setLoop (h : Quiet s s') (hold : (s'.loop l).emptyHanded = true)
    (hnew : pc.emptyHanded = true) : Quiet s (s'.setLoop l pc) :=
  { h with
    conns := h.conns.setLoop l pc
    hand := by
      intro c
      have hmove : (s'.setLoop l pc).hand c = s'.hand c :=
        hand_update (by rfl) (by rfl) hold hnew c
      exact hmove.trans (h.hand c) }

/-- `SendByFd` sends to the actor of the server. -/
def Addressed (s : TcpServer) : Prop :=
  0 < s.serverActorId ∧ ∀ l c out msg id, s.loop l = .send c out msg id → id = s.serverActorId

lemma Addressed.update (h : Addressed s) (hid : s'.serverActorId = s.serverActorId)
    (hloop : s'.loop = Function.update s.loop l pc)
    (hpc : ∀ c out msg id, pc = .send c out msg id → id = s.serverActorId) : Addressed s' := by
  refine ⟨hid ▸ h.1, fun l' c out msg id hl => ?_⟩
  rw [hloop] at hl
  rw [hid]
  by_cases hll : l' = l
  · subst hll
    exact hpc c out msg id ((Function.update_self ..).symm.trans hl)
  · exact h.2 l' c out msg id ((Function.update_of_ne hll ..).symm.trans hl)

lemma Addressed.go (h : Addressed s) (hid : s'.serverActorId = s.serverActorId)
    (hloop : s'.loop = Function.update s.loop l pc) (hpc : pc.emptyHanded = true) :
    Addressed s' := by
  refine h.update hid hloop fun c out msg id he => ?_
  rw [he] at hpc
  cases hpc

lemma Addressed.stay (h : Addressed s) (hid : s'.serverActorId = s.serverActorId)
    (hloop : s'.loop = s.loop) : Addressed s' := by
  rw [Addressed, hid, hloop]
  exact h

lemma Addressed.release (h : Addressed s) (c : ConnId) : Addressed (s.release c) := by
  rw [TcpServer.release]
  split_ifs
  · exact h
  · exact h.stay rfl rfl

lemma Addressed.addEvent (h : Addressed s) (l : LoopId) (c : ConnId) (fd : Fd) :
    Addressed (s.addEvent l c fd) := by
  rw [TcpServer.addEvent]
  split_ifs
  · exact h.stay rfl rfl
  · exact h

lemma Addressed.afterRead (h : Addressed s) (l : LoopId) (c : ConnId) (out : Bool) :
    Addressed (s.afterRead l c out) := by
  rw [TcpServer.afterRead]
  split_ifs
  · exact h.go (l := l) (by rfl) (by rfl) rfl
  · apply Addressed.release
    exact h.go (l := l) (by rfl) (by rfl) rfl

lemma Addressed.outputOnly (h : Addressed s) (ho : OutputOnly s s') : Addressed s' := by
  obtain ⟨e, o, f, w, rfl, -⟩ := ho
  exact h.stay rfl rfl

lemma Addressed.next (h : Addressed s) (hc : Coherent s) (hs : machine.next s a = some s') :
    Addressed s' := by
  cases Step.of_next hs with
  | listen | acceptDone => exact h.go (l := .main) (by rfl) (by rfl) rfl
  | accept => exact h.go (l := .main) (by rfl) (by rfl) rfl
  | addConnection l | bindFdToActor l | unbindFd l => exact h.go (l := l) (by rfl) (by rfl) rfl
  | sendConnected l c hl =>
    rw [sendConnected, send_eq]
    exact h.go (l := l) (by rfl) (by rfl) rfl
  | finishAccept l c hl =>
    rw [finishAccept]
    split_ifs
    · apply Addressed.release
      exact (h.addEvent l c _).go (l := l) (by rfl) (by rfl) rfl
    · apply Addressed.release
      exact (h.addEvent l c _).go (l := l) (by rfl) (by rfl) rfl
    · apply Addressed.release
      exact h.go (l := l) (by rfl) (by rfl) rfl
  | event l e => exact h.go (l := l) (by rfl) (by rfl) (emptyHanded_callback s l e)
  | taskAddEvent l c fd =>
    apply Addressed.addEvent
    exact h.stay rfl rfl
  | taskRemove l c fd =>
    rw [removeConnection]
    split
    · exact h.stay rfl rfl
    · apply Addressed.release
      exact h.stay rfl rfl
  | recv l c out result hl hv =>
    cases result with
    | data bytes | eof => exact h.update (l := l) (by rfl) (by rfl) (by simp)
    | eintr => exact h
    | eagain | error => exact h.afterRead l c out
  | sendByFd l c out msg hl =>
    refine h.update (l := l) (by rfl) (by rfl) fun c' out' msg' id he => ?_
    rw [hc.getActorIdByFd hl, if_pos h.1] at he
    cases he
    rfl
  | send l c out msg id hl =>
    rw [h.2 l c out msg id hl, send_eq]
    exact h.go (l := l) (by rfl) (by rfl) (emptyHanded_afterSend c out msg)
  | requestRemoval l c out hl =>
    apply Addressed.afterRead
    exact h.stay rfl rfl
  | handleWrite l c rs s₁ hl hw =>
    apply Addressed.release
    exact (h.outputOnly (outputOnly_handleWrite hw)).go (l := l) (by rfl) (by rfl) rfl
  | runSend l origin fd data rest rs s₁ hl hp hw =>
    obtain ⟨ran, ho⟩ := outputOnly_runSend hw
    have hran : Addressed { s.setPhase l (.tasks rest) with ran } := h.stay rfl rfl
    exact hran.outputOnly ho
  | release c =>
    apply Addressed.release
    exact h.stay rfl rfl
  | wait | swap | pop | getEventLoopByFd | notFound | getConnection | queueSend | skipSend =>
    exact h.stay rfl rfl

lemma addressed_of_reach {ok : TcpServer → Action → Prop} (h : machine.Reach ok s) :
    Addressed s := by
  induction h with
  | start hi =>
    obtain ⟨id, n, hid, rfl⟩ := hi
    exact ⟨hid, fun l c out msg id hl => by cases hl⟩
  | step hr _ hs ih => exact ih.next (coherent_of_reach hr) hs

/-- Every step of a server in order is one of these. -/
theorem Effect.of_next (h : Coherent s) (ha : Addressed s)
    (hs : machine.next s a = some s') : Effect s a s' := by
  cases Step.of_next hs with
  | listen fired hl hp =>
    exact .quiet _ _ ((Quiet.refl s).setLoop (by rw [hl]; rfl) rfl)
  | accept fd hl hfd hfree => exact .accept fd hl hfd hfree
  | acceptDone hl => exact .quiet _ _ ((Quiet.refl s).setLoop (by rw [hl]; rfl) rfl)
  | addConnection l c hl =>
    have hlife : s.life c = .accepted := (h.staged.fits hl).2
    exact .quiet _ _ (quiet_move ⟨rfl, rfl, rfl, rfl, rfl, rfl⟩ rfl rfl rfl rfl rfl
      (hand_update rfl rfl (by rw [hl]; rfl) rfl) (fun _ => rfl) rfl rfl
      (by simp [hlife, Life.isAnnounced, Life.isOver, Life.isEnded]))
  | bindFdToActor l c hl =>
    have hlife : s.life c = .mapped := (h.staged.fits hl).2
    exact .quiet _ _ (quiet_move ⟨rfl, rfl, rfl, rfl, rfl, rfl⟩ rfl rfl rfl rfl rfl
      (hand_update rfl rfl (by rw [hl]; rfl) rfl) (fun _ => rfl) rfl rfl
      (by simp [hlife, Life.isAnnounced, Life.isOver, Life.isEnded]))
  | sendConnected l c hl => exact .connected l c hl
  | finishAccept l c hl => exact .quiet _ _ (quiet_finishAccept h hl)
  | wait l fired hl hp hfire hnodup =>
    have hq : s.queue l = s.pendingTasks l := by
      rw [queue, hp]
      rfl
    exact .quiet _ _ (quiet_stay ⟨rfl, rfl, rfl, rfl, rfl, rfl⟩ rfl rfl rfl rfl rfl
      (fun _ => rfl) (fun l' => sends_eq_of_queue (queue_setPhase_events hq _ l')) rfl rfl)
  | event l e rest hl hp =>
    have hidle : ((s.setPhase l (.events rest)).loop l).emptyHanded = true := by
      rw [show (s.setPhase l _).loop = s.loop from rfl, hl]
      rfl
    have hq : s.queue l = s.pendingTasks l := by rw [queue, hp]
    refine .quiet _ _ (Quiet.setLoop ?_ hidle (emptyHanded_callback s l e))
    exact quiet_stay ⟨rfl, rfl, rfl, rfl, rfl, rfl⟩ rfl rfl rfl rfl rfl
      (fun _ => rfl) (fun l' => sends_eq_of_queue (queue_setPhase_events hq _ l')) rfl rfl
  | swap l hl hp =>
    exact .quiet _ _ (quiet_stay ⟨rfl, rfl, rfl, rfl, rfl, rfl⟩ rfl rfl rfl rfl rfl
      (fun _ => rfl) (fun l' => sends_eq_of_queue (queue_swap hp l')) rfl rfl)
  | taskAddEvent l c fd rest hl hp => exact .quiet _ _ (quiet_taskAddEvent h hp)
  | taskRemove l c fd rest hl hp => exact .quiet _ _ (quiet_taskRemove h hp)
  | recv l c out result hl hv =>
    cases result with
    | data bytes =>
      rw [AcceptedConnection.RecvResult.valid, Bool.and_eq_true, decide_eq_true_eq] at hv
      exact .recv l c out bytes hl (List.ne_nil_of_length_pos hv.1)
    | eintr => exact .quiet _ _ (Quiet.refl s)
    | eagain | error => exact .quiet _ _ (quiet_afterRead hl)
    | eof => exact .eof l c out hl
  | sendByFd l c out msg hl =>
    rw [h.getActorIdByFd hl, if_pos ha.1]
    exact .quiet _ _ (quiet_sendByFd hl)
  | send l c out msg actorId hl =>
    obtain rfl := ha.2 l c out msg actorId hl
    exact .post l c out msg hl
  | unbindFd l c out hl =>
    have hlife : s.life c = .closing := (h.staged.fits hl).2
    exact .quiet _ _ (quiet_move ⟨rfl, rfl, rfl, rfl, rfl, rfl⟩ rfl rfl rfl rfl rfl
      (hand_update rfl rfl (by rw [hl]; rfl) rfl) (fun _ => rfl) rfl rfl
      (by simp [hlife, Life.isAnnounced, Life.isOver, Life.isEnded]))
  | requestRemoval l c out hl => exact .quiet _ _ (quiet_requestRemoval h hl)
  | handleWrite l c rs s₁ hl hw =>
    have ho := outputOnly_handleWrite hw
    refine .quiet _ _ ((ho.quiet.setLoop ?_ rfl).release c)
    obtain ⟨e, o, f, w, rfl, -⟩ := ho
    rw [show _ = s.loop l from rfl, hl]
    rfl
  | runSend l origin fd data rest rs s₁ hl hp hw =>
    exact .runSend l origin fd data rest rs s' hl hp hw
  | pop m rest hw hm => exact .pop m rest hw hm
  | getEventLoopByFd m hw => exact .getEventLoopByFd m hw
  | notFound m l hw hfd => exact .notFound m l hw hfd
  | getConnection m l c hw hfd => exact .getConnection m l c hw hfd
  | queueSend m c hw hok => exact .queueSend m c hw hok
  | skipSend m c hw hok => exact .skipSend m c hw hok
  | release c hw =>
    refine .quiet _ _ (Quiet.release ?_ c)
    exact { Quiet.refl s with
      conns := ⟨rfl, rfl, rfl, rfl, rfl, rfl⟩
      worker := .inr ⟨⟨c, hw⟩, rfl⟩ }

end Balabala.TcpServer
