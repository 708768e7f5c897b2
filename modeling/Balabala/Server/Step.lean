import Balabala.Server.Basic

/-!
# What one step of the server can do

`Step` lists the steps with their labels, guards and effects, and every transition of the machine
is one of them (`Step.of_next`).
-/

namespace Balabala.TcpServer

open Foundation

inductive Step (s : TcpServer) : Action → TcpServer → Prop
  | listen (fired : List FiredEvent) (hl : s.loop .main = .idle)
      (hp : s.phase .main = .events fired) : Step s .listen (s.setLoop .main .accepting)
  | accept (fd : Fd) (hl : s.loop .main = .accepting) (hfd : 0 ≤ fd) (hfree : s.fds fd = none) :
      Step s (.accept (some fd)) (s.handleAccept .main fd)
  | acceptDone (hl : s.loop .main = .accepting) : Step s (.accept none) (s.setLoop .main .idle)
  | addConnection (l : LoopId) (c : ConnId) (hl : s.loop l = .addConnection c) :
      Step s (.loop l) (s.addConnection l c)
  | bindFdToActor (l : LoopId) (c : ConnId) (hl : s.loop l = .bindFdToActor c) :
      Step s (.loop l) (s.bindFdToActor l c)
  | sendConnected (l : LoopId) (c : ConnId) (hl : s.loop l = .sendConnected c) :
      Step s (.loop l) (s.sendConnected l c)
  | finishAccept (l : LoopId) (c : ConnId) (hl : s.loop l = .addEvent c) :
      Step s (.loop l) (s.finishAccept l c)
  | wait (l : LoopId) (fired : List FiredEvent) (hl : s.loop l = .idle)
      (hp : s.phase l = .tasks []) (hfire : ∀ e ∈ fired, s.mayFire l e = true)
      (hnodup : (fired.map FiredEvent.fd).Nodup) :
      Step s (.wait l fired) (s.setPhase l (.events fired))
  | event (l : LoopId) (e : FiredEvent) (rest : List FiredEvent) (hl : s.loop l = .idle)
      (hp : s.phase l = .events (e :: rest)) :
      Step s (.loop l) ((s.setPhase l (.events rest)).setLoop l (s.callback l e))
  | swap (l : LoopId) (hl : s.loop l = .idle) (hp : s.phase l = .events []) :
      Step s (.loop l) { s.setPhase l (.tasks (s.pendingTasks l)) with
        pendingTasks := Function.update s.pendingTasks l [] }
  | taskAddEvent (l : LoopId) (c : ConnId) (fd : Fd) (rest : List Task) (hl : s.loop l = .idle)
      (hp : s.phase l = .tasks (.addEvent c fd :: rest)) :
      Step s (.loop l) ((s.setPhase l (.tasks rest)).addEvent l c fd)
  | taskRemove (l : LoopId) (c : ConnId) (fd : Fd) (rest : List Task) (hl : s.loop l = .idle)
      (hp : s.phase l = .tasks (.removeConnection c fd :: rest)) :
      Step s (.loop l) ((s.setPhase l (.tasks rest)).removeConnection l fd)
  | recv (l : LoopId) (c : ConnId) (out : Bool) (result : RecvResult)
      (hl : s.loop l = .reading c out)
      (hv : AcceptedConnection.RecvResult.valid result = true) :
      Step s (.recv l result) (s.handleRead l c out result)
  | sendByFd (l : LoopId) (c : ConnId) (out : Bool) (msg : ActorMessage)
      (hl : s.loop l = .sendByFd c out msg) :
      Step s (.loop l) (s.setLoop l (if 0 < s.getActorIdByFd (s.socket c)
        then .send c out msg (s.getActorIdByFd (s.socket c)) else afterSend c out msg))
  | send (l : LoopId) (c : ConnId) (out : Bool) (msg : ActorMessage) (actorId : ActorId)
      (hl : s.loop l = .send c out msg actorId) :
      Step s (.loop l) ((s.send actorId ⟨msg, c⟩).setLoop l (afterSend c out msg))
  | unbindFd (l : LoopId) (c : ConnId) (out : Bool) (hl : s.loop l = .unbindFd c out) :
      Step s (.loop l) (s.unbindFd l c out)
  | requestRemoval (l : LoopId) (c : ConnId) (out : Bool)
      (hl : s.loop l = .removeConnection c out) : Step s (.loop l) (s.requestRemoval l c out)
  | handleWrite (l : LoopId) (c : ConnId) (rs : List WriteResult) (s' : TcpServer)
      (hl : s.loop l = .writing c) (hs : s.handleWrite c rs = some s') :
      Step s (.write l rs) ((s'.setLoop l .idle).release c)
  | runSend (l : LoopId) (origin : ConnId) (fd : Fd) (data : Bytes) (rest : List Task)
      (rs : List WriteResult) (s' : TcpServer) (hl : s.loop l = .idle)
      (hp : s.phase l = .tasks (.send origin fd data :: rest))
      (hs : (s.setPhase l (.tasks rest)).runSend l origin fd data rs = some s') :
      Step s (.write l rs) s'
  | pop (m : Letter) (rest : List Letter) (hw : s.worker = .idle) (hm : s.mailbox = m :: rest) :
      Step s .pop { s with
        mailbox := rest
        worker := if m.msg.type = .networkRecv then .getEventLoopByFd m else .idle }
  | getEventLoopByFd (m : Letter) (hw : s.worker = .getEventLoopByFd m) :
      Step s .worker (s.setWorker (.getConnection m (s.getEventLoopByFd m.msg.fd)))
  | notFound (m : Letter) (l : LoopId) (hw : s.worker = .getConnection m l)
      (hfd : s.mapConn (l, m.msg.fd) = none) : Step s .worker (s.setWorker .idle)
  | getConnection (m : Letter) (l : LoopId) (c : ConnId) (hw : s.worker = .getConnection m l)
      (hfd : s.mapConn (l, m.msg.fd) = some c) : Step s .worker (s.setWorker (.send m c))
  | queueSend (m : Letter) (c : ConnId) (hw : s.worker = .send m c)
      (hok : s.sendable c m.msg.dataBytes) :
      Step s .worker ((s.queueInLoop (s.home c)
        (.send m.origin (s.socket c) m.msg.dataBytes)).setWorker (.release c))
  | skipSend (m : Letter) (c : ConnId) (hw : s.worker = .send m c)
      (hok : ¬ s.sendable c m.msg.dataBytes) : Step s .worker (s.setWorker (.release c))
  | release (c : ConnId) (hw : s.worker = .release c) :
      Step s .worker ((s.setWorker .idle).release c)

variable {s s' : TcpServer}

private lemma Step.of_loopNext {l : LoopId} (h : s.loopNext l = some s') : Step s (.loop l) s' := by
  rw [loopNext] at h
  split at h
  · split at h
    · cases h; exact .event l _ _ ‹_› ‹_›
    · cases h; exact .swap l ‹_› ‹_›
    · cases h; exact .taskAddEvent l _ _ _ ‹_› ‹_›
    · cases h; exact .taskRemove l _ _ _ ‹_› ‹_›
    · cases h
    · cases h
  · cases h; exact .addConnection l _ ‹_›
  · cases h; exact .bindFdToActor l _ ‹_›
  · cases h; exact .sendConnected l _ ‹_›
  · cases h; exact .finishAccept l _ ‹_›
  · cases h; exact .sendByFd l _ _ _ ‹_›
  · cases h; exact .send l _ _ _ _ ‹_›
  · cases h; exact .unbindFd l _ _ ‹_›
  · cases h; exact .requestRemoval l _ _ ‹_›
  all_goals cases h

private lemma Step.of_writeNext {l : LoopId} {rs : List WriteResult}
    (h : s.writeNext l rs = some s') : Step s (.write l rs) s' := by
  rw [writeNext] at h
  split at h
  · obtain ⟨t, ht, rfl⟩ := Option.map_eq_some_iff.mp h
    exact .handleWrite l _ rs t ‹_› ht
  · exact .runSend l _ _ _ _ rs s' ‹_› ‹_› h
  · cases h

private lemma Step.of_workerNext (h : s.workerNext = some s') : Step s .worker s' := by
  rw [workerNext] at h
  split at h
  · cases h
  · cases h; exact .getEventLoopByFd _ ‹_›
  · split at h
    · cases h; exact .notFound _ _ ‹_› ‹_›
    · cases h; exact .getConnection _ _ _ ‹_› ‹_›
  · split_ifs at h with hok
    · cases h; exact .queueSend _ _ ‹_› hok
    · cases h; exact .skipSend _ _ ‹_› hok
  · cases h; exact .release _ ‹_›

/-- Every transition of the machine is one of the steps. -/
theorem Step.of_next {a : Action} (h : machine.next s a = some s') : Step s a s' := by
  change next s a = some s' at h
  cases a with
  | listen =>
    simp only [next] at h
    split at h
    · cases h; exact .listen _ ‹_› ‹_›
    · cases h
  | accept fd =>
    simp only [next] at h
    split at h
    · cases h; exact .acceptDone ‹_›
    · split_ifs at h with hfd
      cases h
      exact .accept _ ‹_› hfd.1 hfd.2
    · cases h
  | wait l fired =>
    simp only [next] at h
    split at h
    · split_ifs at h with hf
      cases h
      exact .wait l fired ‹_› ‹_› (List.all_eq_true.mp hf.1) hf.2
    · cases h
  | loop l => exact .of_loopNext h
  | recv l result =>
    simp only [next] at h
    split at h
    · split_ifs at h with hv
      cases h
      exact .recv l _ _ result ‹_› hv
    · cases h
  | write l rs => exact .of_writeNext h
  | pop =>
    rw [next, TcpServer.pop] at h
    split at h
    · cases h; exact .pop _ _ ‹_› ‹_›
    · cases h
  | worker => exact .of_workerNext h

end Balabala.TcpServer
