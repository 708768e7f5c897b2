import Balabala.Net.Basic

/-!
# What one step of the event loop can do

`Step` lists the steps with their labels, guards and effects, and every transition of the machine
is one of them (`Step.of_next`).
-/

namespace Balabala.EventLoop

open Foundation

variable {Tid : Type*} [DecidableEq Tid]

inductive Step (s : EventLoop Tid) : Action Tid → EventLoop Tid → Prop
  | connect (fd : Fd) (connecting : Bool) (hfd : s.fds fd = none) :
      Step s (.connect fd connecting) (s.create fd .connector .addEvent connecting)
  | listen (fd : Fd) (hfd : s.fds fd = none) :
      Step s (.listen fd) (s.create fd .acceptor .addConnectionRaw false)
  | constructAddEvent (c : ConnId) (fd : Fd) (events : Interest) (stage : Stage)
      (hst : s.stage c = .addEvent) (hsock : s.socket c = some fd)
      (hk : (s.kind c = .acceptor ∧ events = .r ∧ stage = .ready) ∨
        (s.kind c ≠ .acceptor ∧ events = .rw ∧ stage = .addConnectionRaw)) :
      Step s (.construct c) ((s.queueInLoop (.addEvent c fd events)).setStage c stage)
  | constructAddConnectionRaw (c : ConnId) (fd : Fd) (stage : Stage)
      (hst : s.stage c = .addConnectionRaw) (hsock : s.socket c = some fd)
      (hk : (s.kind c = .acceptor ∧ stage = .addEvent) ∨
        (s.kind c ≠ .acceptor ∧ stage = .notifyConnected)) :
      Step s (.construct c) ((s.addConnectionRaw c fd).setStage c stage)
  | constructNotify (c : ConnId) (stage : Stage) (hst : s.stage c = .notifyConnected)
      (hs : stage = .ready ∨ stage = .modifyEvent) : Step s (.construct c) (s.setStage c stage)
  | constructModify (c : ConnId) (fd : Fd) (hst : s.stage c = .modifyEvent)
      (hsock : s.socket c = some fd) :
      Step s (.construct c)
        ((s.queueInLoop (.modifyEventKeepCallback fd .r)).setStage c .ready)
  | constructLate (c : ConnId) (hst : s.stage c = .modifyEvent) (hsock : s.socket c = none) :
      Step s (.construct c) (s.setStage c .ready)
  | destroy (c : ConnId) (fd : Fd) (hk : s.kind c = .connector) (hst : s.stage c = .ready)
      (hthis : s.loop.this ≠ some c) (hsock : s.socket c = some fd) :
      Step s (.destroy c) ((s.queueInLoop (.removeConnection c fd)).setStage c .close)
  | destroyClosed (c : ConnId) (hk : s.kind c = .connector) (hst : s.stage c = .ready)
      (hthis : s.loop.this ≠ some c) (hsock : s.socket c = none) :
      Step s (.destroy c) (s.setStage c .destroyed)
  | destructClose (c : ConnId) (fd : Fd) (hst : s.stage c = .close) (hsock : s.socket c = some fd) :
      Step s (.destruct c) ((s.closeFd fd).setStage c .clearSocket)
  | destructClear (c : ConnId) (hst : s.stage c = .clearSocket) :
      Step s (.destruct c) ((s.clearSocket c).setStage c .destroyed)
  | getConnection (t : Tid) (fd : Fd) (c : ConnId) (hpc : s.callers t = .idle)
      (hget : s.getConnection fd = some c) (ha : s.alive c = true) :
      Step s (.getConnection t fd)
        { s with
          callers := Function.update s.callers t (.holding c)
          refs := Function.update s.refs c (.thread t :: s.refs c) }
  | getNothing (t : Tid) (fd : Fd) (hpc : s.callers t = .idle) : Step s (.getConnection t fd) s
  | hold (t : Tid) (c : ConnId) (hpc : s.callers t = .idle) (hk : s.kind c = .connector)
      (hst : s.stage c = .ready) : Step s (.hold t c) (s.setCaller t (.holding c))
  | send (t : Tid) (c : ConnId) (fd : Fd) (data : Bytes) (hpc : s.callers t = .holding c)
      (hsock : s.socket c = some fd) (ha : s.alive c = true) (hk : s.kind c ≠ .acceptor)
      (hd : data ≠ []) : Step s (.send t data) (s.setCaller t (.sending c fd data))
  | sendNothing (t : Tid) (c : ConnId) (data : Bytes) (hpc : s.callers t = .holding c) :
      Step s (.send t data) s
  | queue (t : Tid) (c : ConnId) (fd : Fd) (data : Bytes) (hpc : s.callers t = .sending c fd data) :
      Step s (.queue t) ((s.queueInLoop (.send c fd data)).setCaller t (.holding c))
  | release (t : Tid) (c : ConnId) (hpc : s.callers t = .holding c ∨ s.callers t = .leaving c) :
      Step s (.release t) ((s.setCaller t .idle).dropRef c (.thread t))
  | acceptFor (t : Tid) (fd : Fd) (hpc : s.callers t = .idle) (hfd : s.fds fd = none) :
      Step s (.acceptFor t fd) (s.acceptFor t fd)
  | enterConnection (t : Tid) (c : ConnId) (fd : Fd) (hpc : s.callers t = .accepted c fd) :
      Step s (.enter t) ((s.addConnection c fd).setCaller t (.entered c fd))
  | enterEvent (t : Tid) (c : ConnId) (fd : Fd) (hpc : s.callers t = .entered c fd) :
      Step s (.enter t) ((s.queueInLoop (.addEvent c fd .r)).setCaller t (.leaving c))
  | handle (msg : NetworkRecv) (hmem : msg ∈ s.mailbox) :
      Step s (.handle msg false) (s.handleMessage msg false)
  | protocolError (msg : NetworkRecv) (hmem : msg ∈ s.mailbox) :
      Step s (.handle msg true) (s.handleMessage msg true)
  | wait (fired : List FiredEvent) (hpc : s.loop = .idle) (hph : s.phase = .tasks [])
      (hf : fired.all s.mayFire = true) :
      Step s (.wait fired) (s.setPhase (.events fired))
  | swap (hpc : s.loop = .idle) (hph : s.phase = .events []) :
      Step s .loop { s with phase := .tasks s.pendingTasks, pendingTasks := [] }
  | callback (e : FiredEvent) (rest : List FiredEvent) (hpc : s.loop = .idle)
      (hph : s.phase = .events (e :: rest)) :
      Step s .loop ((s.setPhase (.events rest)).setLoop (s.callback e))
  | taskAddEvent (c : ConnId) (fd : Fd) (events : Interest) (rest : List PendingTask)
      (hpc : s.loop = .idle) (hph : s.phase = .tasks (.addEvent c fd events :: rest)) :
      Step s .loop ((s.setPhase (.tasks rest)).addEvent c fd events)
  | taskModify (fd : Fd) (events : Interest) (rest : List PendingTask) (hpc : s.loop = .idle)
      (hph : s.phase = .tasks (.modifyEventKeepCallback fd events :: rest)) :
      Step s .loop ((s.setPhase (.tasks rest)).modifyEventKeepCallback fd events)
  | taskRemove (c : ConnId) (fd : Fd) (rest : List PendingTask) (hpc : s.loop = .idle)
      (hph : s.phase = .tasks (.removeConnection c fd :: rest)) :
      Step s .loop ((s.setPhase (.tasks rest)).removeConnection fd)
  | taskSend (c origin : ConnId) (fd f : Fd) (data : Bytes) (rs : List WriteResult)
      (rest : List PendingTask) (s' : EventLoop Tid) (hpc : s.loop = .idle)
      (hph : s.phase = .tasks (.send origin fd data :: rest))
      (hget : s.getConnection fd = some c) (ha : s.alive c = true) (hk : s.kind c ≠ .acceptor)
      (hsock : s.socket c = some f)
      (hsend : (s.setPhase (.tasks rest)).sendInLoop c f origin data rs = some s') :
      Step s (.write rs) s'
  | taskDrop (origin : ConnId) (fd : Fd) (data : Bytes) (rest : List PendingTask)
      (hpc : s.loop = .idle) (hph : s.phase = .tasks (.send origin fd data :: rest)) :
      Step s (.write []) (s.setPhase (.tasks rest))
  | accept (fd : Fd) (hpc : s.loop = .accepting) (hfd : s.fds fd = none) :
      Step s (.accept (some fd))
        ((s.create fd .connection .ready false).setLoop (.addConnection s.created fd))
  | acceptDone (hpc : s.loop = .accepting) : Step s (.accept none) (s.setLoop .idle)
  | addConnection (c : ConnId) (fd : Fd) (hpc : s.loop = .addConnection c fd) :
      Step s .loop ((s.addConnection c fd).setLoop (.addEvent c fd))
  | addEvent (c : ConnId) (fd : Fd) (pc : LoopPc) (hpc : s.loop = .addEvent c fd)
      (hnext : pc = .accepting ∨ pc = .idle) : Step s .loop ((s.addEvent c fd .r).setLoop pc)
  | recvData (c : ConnId) (fd : Fd) (out : Bool) (bytes : Bytes)
      (hpc : s.loop = .reading c fd out) :
      Step s (.recv (.data bytes))
        { s with mailbox := s.mailbox ++ [{ conn := c, fd, data := bytes }] }
  | recvEof (c : ConnId) (fd : Fd) (out : Bool) (hpc : s.loop = .reading c fd out) :
      Step s (.recv .eof)
        ((s.queueInLoop (.removeConnection c fd)).setLoop (afterRead c fd out))
  | recvDone (c : ConnId) (fd : Fd) (out : Bool) (r : RecvResult)
      (hpc : s.loop = .reading c fd out) (hr : r = .eagain ∨ r = .error) :
      Step s (.recv r) (s.setLoop (afterRead c fd out))
  | connected (c : ConnId) (fd : Fd) (hpc : s.loop = .writing c fd)
      (hc : s.isConnecting c = true) :
      Step s (.connected true) ((s.handleConnected c fd).setLoop .idle)
  | connectFailed (c : ConnId) (fd : Fd) (hpc : s.loop = .writing c fd)
      (hc : s.isConnecting c = true) : Step s (.connected false) (s.handleConnectFailed c fd)
  | handleWrite (c : ConnId) (fd : Fd) (rs : List WriteResult) (s' : EventLoop Tid)
      (hpc : s.loop = .writing c fd) (hc : s.isConnecting c = false)
      (hw : s.handleWrite c fd rs = some s') : Step s (.write rs) (s'.setLoop .idle)
  | removeEvent (c : ConnId) (fd : Fd) (hpc : s.loop = .removeEvent c fd) :
      Step s .loop ((s.removeEvent fd).setLoop (.close c fd))
  | close (c : ConnId) (fd f : Fd) (hpc : s.loop = .close c fd) (hsock : s.socket c = some f) :
      Step s .loop ((s.closeFd f).setLoop (.clearSocket c fd))
  | closeNothing (c : ConnId) (fd : Fd) (hpc : s.loop = .close c fd) (hsock : s.socket c = none) :
      Step s .loop (s.setLoop (.clearSocket c fd))
  | clearSocket (c : ConnId) (fd : Fd) (hpc : s.loop = .clearSocket c fd) :
      Step s .loop ((s.clearSocket c).setLoop .idle)

/-! ### Every transition is a step -/

private lemma Step.of_construct {s s' : EventLoop Tid} {c : ConnId}
    (h : s.construct c = some s') : Step s (.construct c) s' := by
  rw [construct] at h
  split at h <;> cases h
  · exact .constructAddEvent c _ _ _ ‹_› ‹_› (.inl ⟨‹_›, rfl, rfl⟩)
  · rename_i hst hsock hne
    exact .constructAddEvent c _ _ _ hst hsock (.inr ⟨hne, rfl, rfl⟩)
  · exact .constructAddConnectionRaw c _ _ ‹_› ‹_› (.inl ⟨‹_›, rfl⟩)
  · rename_i hst hsock hne
    exact .constructAddConnectionRaw c _ _ hst hsock (.inr ⟨hne, rfl⟩)
  · refine .constructNotify c _ ‹_› ?_
    split_ifs
    · exact .inl rfl
    · exact .inr rfl
  · exact .constructModify c _ ‹_› ‹_›
  · exact .constructLate c ‹_› ‹_›

private lemma Step.of_destroy {s s' : EventLoop Tid} {c : ConnId}
    (h : s.destroy c = some s') : Step s (.destroy c) s' := by
  rw [EventLoop.destroy] at h
  split_ifs at h with hc
  obtain ⟨hk, hst, hthis⟩ := hc
  cases hsock : s.socket c with
  | none =>
    simp only [hsock, Option.some.injEq] at h
    subst h
    exact .destroyClosed c hk hst hthis hsock
  | some fd =>
    simp only [hsock, Option.some.injEq] at h
    subst h
    exact .destroy c fd hk hst hthis hsock

private lemma Step.of_loopNext {s s' : EventLoop Tid} (h : s.loopNext = some s') :
    Step s .loop s' := by
  rw [loopNext] at h
  split at h
  next hpc =>
    split at h
    next hph => cases h; exact .swap hpc hph
    next e rest hph => cases h; exact .callback e rest hpc hph
    next => cases h
    next task rest hph =>
      cases task with
      | addEvent c fd events => cases h; exact .taskAddEvent c fd events rest hpc hph
      | modifyEventKeepCallback fd events => cases h; exact .taskModify fd events rest hpc hph
      | removeConnection c fd => cases h; exact .taskRemove c fd rest hpc hph
      | send c fd data => cases h
  next c fd hpc => cases h; exact .addConnection c fd hpc
  next c fd hpc =>
    cases h
    refine .addEvent c fd _ hpc ?_
    split_ifs
    · exact .inl rfl
    · exact .inr rfl
  next c fd hpc => cases h; exact .removeEvent c fd hpc
  next c fd hpc =>
    split at h <;> cases h
    · exact .closeNothing c fd hpc ‹_›
    · exact .close c fd _ hpc ‹_›
  next c fd hpc => cases h; exact .clearSocket c fd hpc
  all_goals cases h

private lemma Step.of_writeNext {s s' : EventLoop Tid} {rs : List WriteResult}
    (h : s.writeNext rs = some s') : Step s (.write rs) s' := by
  rw [writeNext] at h
  split at h
  next c fd hpc =>
    split_ifs at h with hc
    obtain ⟨t, hw, rfl⟩ := Option.map_eq_some_iff.mp h
    exact .handleWrite c fd rs t hpc (by simpa using hc) hw
  next origin fd data rest hpc hph =>
    rw [runSend] at h
    have hdrop : rs = [] → s' = (s.setPhase (.tasks rest)) → Step s (.write rs) s' := by
      rintro rfl rfl
      exact .taskDrop origin fd data rest hpc hph
    split at h
    next =>
      split_ifs at h with hrs
      cases h
      exact hdrop hrs rfl
    next c hget =>
      split at h
      next ha =>
        split at h
        next =>
          split_ifs at h with hrs
          cases h
          exact hdrop hrs rfl
        next f hsock => exact .taskSend c origin fd f data rs rest s' hpc hph hget ha.1 ha.2 hsock h
      next =>
        split_ifs at h with hrs
        cases h
        exact hdrop hrs rfl
  next => cases h

/-- Every transition of the machine is one of the steps. -/
theorem Step.of_next {s s' : EventLoop Tid} {l : Action Tid}
    (h : (machine Tid).next s l = some s') : Step s l s' := by
  change next s l = some s' at h
  cases l with
  | connect fd connecting =>
    simp only [next] at h
    split_ifs at h with hfd
    cases h; exact .connect fd connecting hfd
  | listen fd =>
    simp only [next] at h
    split_ifs at h with hfd
    cases h; exact .listen fd hfd
  | construct c => exact .of_construct h
  | destroy c => exact .of_destroy h
  | destruct c =>
    simp only [next, EventLoop.destruct] at h
    split at h <;> cases h
    · exact .destructClose c _ ‹_› ‹_›
    · exact .destructClear c ‹_›
  | getConnection t fd =>
    simp only [next, acquire] at h
    split_ifs at h with hpc
    cases hget : s.getConnection fd with
    | none =>
      simp only [hget, Option.some.injEq] at h
      subst h
      exact .getNothing t fd hpc
    | some c =>
      simp only [hget, Option.some.injEq] at h
      subst h
      split_ifs with ha
      · exact .getConnection t fd c hpc hget ha
      · exact .getNothing t fd hpc
  | hold t c =>
    simp only [next] at h
    split_ifs at h with hc
    cases h; exact .hold t c hc.1 hc.2.1 hc.2.2
  | send t data =>
    simp only [next, beginSend] at h
    split at h
    next c hpc =>
      cases hsock : s.socket c with
      | none =>
        simp only [hsock, Option.some.injEq] at h
        subst h
        exact .sendNothing t c data hpc
      | some fd =>
        simp only [hsock, Option.some.injEq] at h
        subst h
        split_ifs with hc
        · exact .send t c fd data hpc hsock hc.1 hc.2.1 hc.2.2
        · exact .sendNothing t c data hpc
    next => cases h
  | queue t =>
    simp only [next] at h
    split at h
    next c fd data hpc => cases h; exact .queue t c fd data hpc
    next => cases h
  | release t =>
    simp only [next, EventLoop.release] at h
    split at h
    next c hpc => cases h; exact .release t c (.inl hpc)
    next c hpc => cases h; exact .release t c (.inr hpc)
    next => cases h
  | acceptFor t fd =>
    simp only [next] at h
    split_ifs at h with hc
    cases h; exact .acceptFor t fd hc.1 hc.2
  | enter t =>
    simp only [next, enter] at h
    split at h
    next c fd hpc => cases h; exact .enterConnection t c fd hpc
    next c fd hpc => cases h; exact .enterEvent t c fd hpc
    next => cases h
  | handle msg error =>
    simp only [next] at h
    split_ifs at h with hmem
    cases h
    cases error with
    | false => exact .handle msg hmem
    | true => exact .protocolError msg hmem
  | wait fired =>
    simp only [next] at h
    split at h
    next hpc hph =>
      split_ifs at h with hf
      cases h; exact .wait fired hpc hph hf
    next => cases h
  | loop => exact .of_loopNext h
  | accept fd =>
    simp only [next] at h
    split at h
    next hpc => cases h; exact .acceptDone hpc
    next fd hpc =>
      split_ifs at h with hfd
      cases h; exact .accept fd hpc hfd
    next => cases h
  | recv r =>
    simp only [next] at h
    split at h
    next c fd out hpc =>
      cases h
      cases r with
      | data bytes => exact .recvData c fd out bytes hpc
      | eof => exact .recvEof c fd out hpc
      | eagain => exact .recvDone c fd out _ hpc (.inl rfl)
      | error => exact .recvDone c fd out _ hpc (.inr rfl)
    next => cases h
  | connected ok =>
    simp only [next] at h
    split at h
    next c fd hpc =>
      by_cases hc : s.isConnecting c = true
      · rw [if_pos hc] at h
        cases h
        cases ok with
        | false => exact .connectFailed c fd hpc hc
        | true => exact .connected c fd hpc hc
      · rw [if_neg hc] at h
        cases h
    next => cases h
  | write rs => exact .of_writeNext h

end Balabala.EventLoop
