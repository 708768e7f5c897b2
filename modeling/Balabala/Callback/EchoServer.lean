import Balabala.Net.Lifecycle
import Balabala.Callback.SendQueue

/-!
# The echo server of the callback model

`TcpServer` of `net/`, with all its connections. The loop thread accepts, reads and writes. What it
reads goes into `msgQueue_`, with the number of the connection. The main thread runs `OnDispatch`:
it takes a message out, looks the connection up by the number and calls its callback, which sends
the bytes back. For its output every connection is a `ConnectionBase`, with the main thread as the
only sender.

`RemoveConnection` deletes the connection, which closes its number, and the kernel gives out any
number that is not open. Where a thread goes on with an object that has been deleted, the model goes
on with what is left of it; the first such step ends what it says of the program. `epoll_ctl` does
not fail.
-/

namespace Balabala

open Foundation

/-- An element of `msgQueue_`. All have the same callback. -/
structure RecvMsg where
  fd : Fd
  str : Bytes
  /-- the connection it was received on -/
  origin : ConnId
  deriving DecidableEq

namespace EchoServer

/-- Where the loop thread is. -/
inductive LoopPc
  | idle
  /-- in `HandleAccept`, about to call `AddConnection` -/
  | addConnection (c : ConnId)
  /-- in `HandleRead`, about to call `recv`; `out` tells whether `HandleWrite` is called next -/
  | reading (c : ConnId) (out : Bool)
  /-- in `HandleRead`, about to call `RemoveConnection` -/
  | removeConnection (c : ConnId) (out : Bool)
  /-- in `HandleWrite` -/
  | writing (c : ConnId)
  deriving DecidableEq

/-- Where the main thread is in `OnDispatch`. -/
inductive MainPc
  | idle
  | getConnection (msg : RecvMsg)
  /-- in the callback, about to push on `sendMQ_` -/
  | send (c : ConnId) (msg : RecvMsg)
  | modifyEvent (c : ConnId)
  deriving DecidableEq

/-- The object the loop thread goes on with. -/
def LoopPc.conn : LoopPc → Option ConnId
  | .idle => none
  | .addConnection c | .reading c _ | .removeConnection c _ | .writing c => some c

/-- The object the main thread goes on with. -/
def MainPc.conn : MainPc → Option ConnId
  | .idle | .getConnection _ => none
  | .send c _ | .modifyEvent c => some c

/-- The message the main thread has in hand. -/
def MainPc.inHand : MainPc → List RecvMsg
  | .idle | .modifyEvent _ => []
  | .getConnection msg | .send _ msg => [msg]

end EchoServer

structure EchoServer where
  /-- the number of connections accepted -/
  accepted : Nat
  /-- not deleted -/
  alive : ConnId → Bool
  mapConn : Fd → Option ConnId
  base : ConnId → ConnectionBase Unit
  msgQueue : SpinLockQueue RecvMsg
  loop : EchoServer.LoopPc
  main : EchoServer.MainPc
  /-- the history of what `recv` returned -/
  received : ConnId → List Bytes

namespace EchoServer

/-- A step of the connection `c`. -/
def stepBase (s : EchoServer) (c : ConnId) (a : ConnectionBase.Action Unit) : Option EchoServer :=
  ((s.base c).next a).map fun b => { s with base := Function.update s.base c b }

/-- The callback of an event, after `HandleRead`. -/
def afterRead (s : EchoServer) (c : ConnId) (out : Bool) : EchoServer :=
  if out then
    { s with base := Function.update s.base c ((s.base c).setLoop .test), loop := .writing c }
  else { s with loop := .idle }

/-- The number is closed. -/
def Free (s : EchoServer) (fd : Fd) : Prop :=
  0 ≤ fd ∧ ∀ c < s.accepted, s.alive c = true → (s.base c).socket ≠ fd

instance (s : EchoServer) (fd : Fd) : Decidable (s.Free fd) := inferInstanceAs (Decidable (_ ∧ _))

/-- `HandleAccept`, up to `AddConnection`. -/
def handleAccept (s : EchoServer) (fd : Fd) : EchoServer :=
  { s with
    accepted := s.accepted + 1
    alive := Function.update s.alive s.accepted true
    base := Function.update s.base s.accepted (.start Unit fd .rw)
    loop := .addConnection s.accepted }

/-- `AddConnection`; `insert` does not overwrite. -/
def addConnection (s : EchoServer) (c : ConnId) : EchoServer :=
  let fd := (s.base c).socket
  { s with
    mapConn := if s.mapConn fd = none then Function.update s.mapConn fd (some c) else s.mapConn
    loop := .idle }

/-- The callback of an event of the number `fd`. -/
def handleEvent (s : EchoServer) (fd : Fd) (epollin epollout : Bool) : EchoServer :=
  match s.mapConn fd with
  | none => s
  | some c => if epollin then { s with loop := .reading c epollout } else s.afterRead c epollout

/-- What `HandleRead` makes of a result of `recv`. -/
def handleRead (s : EchoServer) (c : ConnId) (out : Bool) :
    RecvResult → EchoServer
  | .data bytes =>
    { s with
      msgQueue := s.msgQueue.push ⟨(s.base c).socket, bytes, c⟩
      received := Function.update s.received c (s.received c ++ [bytes]) }
  | .eintr => s
  | .eagain | .error => s.afterRead c out
  | .eof => { s with loop := .removeConnection c out }

/-- `RemoveConnection` deletes what it finds under the number. -/
def removeConnection (s : EchoServer) (fd : Fd) : EchoServer :=
  match s.mapConn fd with
  | none => s
  | some c =>
    { s with
      alive := Function.update s.alive c false
      mapConn := Function.update s.mapConn fd none }

/-- A step of `HandleWrite`. -/
def handleWrite (s : EchoServer) (c : ConnId) (a : ConnectionBase.Action Unit) :
    Option EchoServer :=
  (s.stepBase c a).map fun s =>
    { s with loop := if (s.base c).loop = .idle then .idle else .writing c }

inductive Action
  | accept (fd : Fd)
  | addConnection
  | event (fd : Fd) (epollin epollout : Bool)
  | recv (result : RecvResult)
  | removeConnection
  /-- a step of `HandleWrite`, with the result of `write` if it is one -/
  | write (result : Option WriteResult)
  /-- `OnDispatch` takes a message -/
  | pop
  | getConnection
  | send
  | modifyEvent

def next (s : EchoServer) : Action → Option EchoServer
  | .accept fd => if s.loop = .idle ∧ s.Free fd then some (s.handleAccept fd) else none
  | .addConnection =>
    match s.loop with
    | .addConnection c => some (s.addConnection c)
    | _ => none
  | .event fd epollin epollout =>
    if s.loop = .idle then some (s.handleEvent fd epollin epollout) else none
  | .recv result =>
    match s.loop with
    | .reading c out =>
      if AcceptedConnection.RecvResult.valid result then some (s.handleRead c out result) else none
    | _ => none
  | .removeConnection =>
    match s.loop with
    | .removeConnection c out => some ((s.removeConnection (s.base c).socket).afterRead c out)
    | _ => none
  | .write result =>
    match s.loop with
    | .writing c =>
      s.handleWrite c (result.elim .loop ConnectionBase.Action.write)
    | _ => none
  | .pop =>
    if s.main = .idle then
      s.msgQueue.pop.map fun (msg, q) => { s with msgQueue := q, main := .getConnection msg }
    else none
  | .getConnection =>
    match s.main with
    | .getConnection msg =>
      match s.mapConn msg.fd with
      | none => some { s with main := .idle }
      | some c => some { s with main := .send c msg }
    | _ => none
  | .send =>
    match s.main with
    | .send c msg =>
      (s.stepBase c (.send () msg.str)).map fun s => { s with main := .modifyEvent c }
    | _ => none
  | .modifyEvent =>
    match s.main with
    | .modifyEvent c => (s.stepBase c (.modifyEvent ())).map fun s => { s with main := .idle }
    | _ => none

/-- No connection was accepted. -/
def start : EchoServer where
  accepted := 0
  alive := fun _ => false
  mapConn := fun _ => none
  base := fun _ => .start Unit (-1) .rw
  msgQueue := .mk'
  loop := .idle
  main := .idle
  received := fun _ => []

def machine : Machine EchoServer Action where
  init := (· = start)
  next := next

lemma reach_start {ok : EchoServer → Action → Prop} : machine.Reach ok start := .start rfl

/-! ### What one step can do -/

/-- A step of the connection `c`, with what becomes of the two threads. -/
def withBase (s : EchoServer) (c : ConnId) (b : ConnectionBase Unit) (loop : LoopPc)
    (main : MainPc) : EchoServer :=
  { s with base := Function.update s.base c b, loop, main }

inductive Step (s : EchoServer) : Action → EchoServer → Prop
  | accept (fd : Fd) (hl : s.loop = .idle) (hfd : s.Free fd) :
      Step s (.accept fd) (s.handleAccept fd)
  | addConnection (c : ConnId) (hl : s.loop = .addConnection c) :
      Step s .addConnection (s.addConnection c)
  | ignore (fd : Fd) (epollin epollout : Bool) (hl : s.loop = .idle) (hfd : s.mapConn fd = none) :
      Step s (.event fd epollin epollout) s
  | read (fd : Fd) (out : Bool) (c : ConnId) (hl : s.loop = .idle) (hfd : s.mapConn fd = some c) :
      Step s (.event fd true out) { s with loop := .reading c out }
  | noRead (fd : Fd) (out : Bool) (c : ConnId) (hl : s.loop = .idle)
      (hfd : s.mapConn fd = some c) : Step s (.event fd false out) (s.afterRead c out)
  | recv (bytes : Bytes) (c : ConnId) (out : Bool) (hl : s.loop = .reading c out) :
      Step s (.recv (.data bytes))
        { s with
          msgQueue := s.msgQueue.push ⟨(s.base c).socket, bytes, c⟩
          received := Function.update s.received c (s.received c ++ [bytes]) }
  | again (c : ConnId) (out : Bool) (hl : s.loop = .reading c out) : Step s (.recv .eintr) s
  | endRead (r : RecvResult) (c : ConnId) (out : Bool) (hl : s.loop = .reading c out) :
      Step s (.recv r) (s.afterRead c out)
  | eof (c : ConnId) (out : Bool) (hl : s.loop = .reading c out) :
      Step s (.recv .eof) { s with loop := .removeConnection c out }
  | remove (c : ConnId) (out : Bool) (hl : s.loop = .removeConnection c out) :
      Step s .removeConnection ((s.removeConnection (s.base c).socket).afterRead c out)
  | write (r : Option WriteResult) (c : ConnId) (b : ConnectionBase Unit)
      (hl : s.loop = .writing c)
      (hb : (s.base c).next (r.elim .loop ConnectionBase.Action.write) = some b) :
      Step s (.write r) (s.withBase c b (if b.loop = .idle then .idle else .writing c) s.main)
  | pop (msg : RecvMsg) (q : SpinLockQueue RecvMsg) (hm : s.main = .idle)
      (hq : s.msgQueue.pop = some (msg, q)) :
      Step s .pop { s with msgQueue := q, main := .getConnection msg }
  | drop (msg : RecvMsg) (hm : s.main = .getConnection msg) (hfd : s.mapConn msg.fd = none) :
      Step s .getConnection { s with main := .idle }
  | getConnection (msg : RecvMsg) (c : ConnId) (hm : s.main = .getConnection msg)
      (hfd : s.mapConn msg.fd = some c) : Step s .getConnection { s with main := .send c msg }
  | send (c : ConnId) (msg : RecvMsg) (b : ConnectionBase Unit) (hm : s.main = .send c msg)
      (hb : (s.base c).next (.send () msg.str) = some b) :
      Step s .send (s.withBase c b s.loop (.modifyEvent c))
  | modifyEvent (c : ConnId) (b : ConnectionBase Unit) (hm : s.main = .modifyEvent c)
      (hb : (s.base c).next (.modifyEvent ()) = some b) :
      Step s .modifyEvent (s.withBase c b s.loop .idle)

lemma stepBase_eq_some {s s' : EchoServer} {c : ConnId} {a : ConnectionBase.Action Unit}
    (h : s.stepBase c a = some s') :
    ∃ b, (s.base c).next a = some b ∧ s' = s.withBase c b s.loop s.main := by
  obtain ⟨b, hb, rfl⟩ := Option.map_eq_some_iff.mp h
  exact ⟨b, hb, rfl⟩

private lemma Step.of_handleEvent {s : EchoServer} (hl : s.loop = .idle) (fd : Fd)
    (epollin epollout : Bool) :
    Step s (.event fd epollin epollout) (s.handleEvent fd epollin epollout) := by
  rw [handleEvent]
  split
  · exact .ignore fd _ _ hl ‹_›
  · cases epollin with
    | false => exact .noRead fd _ _ hl ‹_›
    | true => exact .read fd _ _ hl ‹_›

private lemma Step.of_handleRead {s : EchoServer} {c : ConnId} {out : Bool}
    (hl : s.loop = .reading c out) (result : RecvResult) :
    Step s (.recv result) (s.handleRead c out result) := by
  cases result with
  | data bytes => exact .recv bytes c out hl
  | eintr => exact .again c out hl
  | eagain | error => exact .endRead _ c out hl
  | eof => exact .eof c out hl

/-- Every transition of the machine is one of the steps. -/
theorem Step.of_next {s s' : EchoServer} {a : Action} (h : machine.next s a = some s') :
    Step s a s' := by
  change next s a = some s' at h
  cases a with
  | accept fd =>
    simp only [next] at h
    split_ifs at h with hc
    cases h
    exact .accept fd hc.1 hc.2
  | addConnection =>
    simp only [next] at h
    split at h
    · cases h; exact .addConnection _ ‹_›
    · cases h
  | event fd epollin epollout =>
    simp only [next] at h
    split_ifs at h with hl
    cases h
    exact .of_handleEvent hl fd _ _
  | recv result =>
    simp only [next] at h
    split at h
    · split_ifs at h
      cases h
      exact .of_handleRead ‹_› result
    · cases h
  | removeConnection =>
    simp only [next] at h
    split at h
    · cases h; exact .remove _ _ ‹_›
    · cases h
  | write result =>
    simp only [next] at h
    split at h
    · rename_i c hl
      obtain ⟨s₁, h₁, rfl⟩ := Option.map_eq_some_iff.mp h
      obtain ⟨b, hb, rfl⟩ := stepBase_eq_some h₁
      have hstep := Step.write result c b hl (by cases result <;> exact hb)
      simpa [withBase] using hstep
    · cases h
  | pop =>
    simp only [next] at h
    split_ifs at h with hm
    obtain ⟨⟨msg, q⟩, hq, rfl⟩ := Option.map_eq_some_iff.mp h
    exact .pop msg q hm hq
  | getConnection =>
    simp only [next] at h
    split at h
    · split at h
      · cases h; exact .drop _ ‹_› ‹_›
      · cases h; exact .getConnection _ _ ‹_› ‹_›
    · cases h
  | send =>
    simp only [next] at h
    split at h
    · obtain ⟨s₁, h₁, rfl⟩ := Option.map_eq_some_iff.mp h
      obtain ⟨b, hb, rfl⟩ := stepBase_eq_some h₁
      exact .send _ _ b ‹_› hb
    · cases h
  | modifyEvent =>
    simp only [next] at h
    split at h
    · obtain ⟨s₁, h₁, rfl⟩ := Option.map_eq_some_iff.mp h
      obtain ⟨b, hb, rfl⟩ := stepBase_eq_some h₁
      exact .modifyEvent _ b ‹_› hb
    · cases h

end EchoServer

end Balabala
