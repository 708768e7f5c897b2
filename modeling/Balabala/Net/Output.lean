import Balabala.Foundation.BatchQueue
import Balabala.Net.Basic
import Balabala.Util.Buffer

/-!
# The bytes of one connection

`Send` may be called from any thread. In the loop thread it writes directly, as long as nothing
waits in `outputBuffer_` and the connection is established. In another thread it copies the data and
queues a task, which looks the connection up and calls `Send` again.

Every `write` is a step of its own, so that the state in the middle of `sendInLoop` or of
`HandleWrite` is in view. The kernel accepts at most 0x7ffff000 bytes at a time, so that the count
fits in the `int` of `HandleWrite`. The loop thread may call `Send` or `HandleWrite` whenever it is
not inside one of them, and the descriptor number is not reused.
-/

namespace Balabala

open Foundation

/-- What a queued `Send` holds its copy of the data in: a string or a `MessageBuffer`. -/
inductive SendData
  | string (data : Bytes)
  | messageBuffer (data : Bytes)
  deriving DecidableEq

def SendData.copy (data : Bytes) : SendData :=
  if ActorMessage.kBufferThreshold ≤ data.length then .messageBuffer data else .string data

def SendData.bytes : SendData → Bytes
  | .string data | .messageBuffer data => data

@[simp] lemma SendData.bytes_copy (data : Bytes) : (copy data).bytes = data := by
  rw [copy]
  split_ifs <;> rfl

/-- A message of which `sendInLoop` was called: the thread that called `Send`, `none` for the loop
thread, which of its calls it was, and the data. -/
structure Sent (Tid : Type*) where
  sender : Option Tid
  call : Nat
  data : Bytes
  deriving DecidableEq

/-- The task of a `Send` in another thread. -/
structure SendTask (Tid : Type*) where
  thread : Tid
  call : Nat
  data : SendData

def SendTask.sent {Tid : Type*} (task : SendTask Tid) : Sent Tid :=
  ⟨some task.thread, task.call, task.data.bytes⟩

/-- Where the loop thread is. -/
inductive OutputPc
  | idle
  /-- in `sendInLoop`, about to write what follows `offset` -/
  | sendInLoop (data : Bytes) (offset : Nat)
  /-- in `HandleWrite`, about to write what is in the buffer -/
  | handleWrite
  deriving DecidableEq

/-- One connection and the threads that use it. -/
structure Output (Tid : Type*) where
  /-- `socket_` is not -1 -/
  socket : Bool
  connecting : Bool
  /-- `GetConnection` finds the connection -/
  found : Bool
  outputBuffer : Buffer
  /-- the events last asked for with `ModifyEventKeepCallback` -/
  events : Interest
  queue : BatchQueue (SendTask Tid)
  loop : OutputPc
  /-- in `Send`, with the copy made, about to queue the task -/
  threads : Tid → Option (SendTask Tid)
  /-- the data of all calls of `Send`, by the thread that made them -/
  issued : Option Tid → List Bytes
  /-- the messages in the order in which `sendInLoop` was called for them -/
  ran : List (Sent Tid)
  /-- what the kernel has accepted -/
  accepted : Bytes
  /-- a `write` failed for good -/
  failed : Bool

namespace Output

variable {Tid : Type*}

def maxRwCount : Nat := 0x7ffff000

def canWriteDirectly (s : Output Tid) : Bool := !s.connecting

/-- The end of `sendInLoop`, with what is left of the message. -/
def appendRest (s : Output Tid) (rest : Bytes) : Output Tid :=
  if rest = [] then { s with loop := .idle }
  else { s with outputBuffer := s.outputBuffer.append rest, events := .rw, loop := .idle }

def sendInLoop (s : Output Tid) (m : Sent Tid) : Output Tid :=
  let s' := { s with ran := s.ran ++ [m] }
  if s.outputBuffer.empty ∧ s.canWriteDirectly then { s' with loop := .sendInLoop m.data 0 }
  else s'.appendRest m.data

/-- `ConnectionBase::Send` in the loop thread. -/
def send (s : Output Tid) (m : Sent Tid) : Output Tid :=
  if m.data = [] then s
  else if ¬ s.socket then s
  else s.sendInLoop m

/-- A `write` of `sendInLoop` returns. -/
def writeSent (s : Output Tid) (data : Bytes) (offset : Nat) : WriteResult → Option (Output Tid)
  | .wrote n =>
    if 0 < n ∧ n ≤ data.length - offset then
      some { s with
        accepted := s.accepted ++ (data.drop offset).take n
        loop := if offset + n < data.length then .sendInLoop data (offset + n) else .idle }
    else none
  | .eintr => some s
  | .eagain | .zero => some (s.appendRest (data.drop offset))
  | .error => some { s with failed := true, loop := .idle }

/-- The loop of `HandleWrite` goes on while the buffer is not empty. -/
def handleWrite (s : Output Tid) : Output Tid :=
  if s.outputBuffer.empty then { s with events := .r, loop := .idle }
  else { s with loop := .handleWrite }

/-- A `write` of `HandleWrite` returns. -/
def writeBuffered (s : Output Tid) : WriteResult → Option (Output Tid)
  | .wrote n =>
    if 0 < n ∧ n ≤ s.outputBuffer.readableBytes ∧ n ≤ maxRwCount then
      some { s with
        accepted := s.accepted ++ s.outputBuffer.readable.take n
        outputBuffer := s.outputBuffer.retrieve n }.handleWrite
    else none
  | .eintr => some s
  | .eagain => some { s with events := .rw, loop := .idle }
  | .zero => some { s with events := .r, loop := .idle }
  | .error => some { s with failed := true, loop := .idle }

/-- `Connector::HandleWrite` when the connect has succeeded. -/
def connected (s : Output Tid) : Output Tid :=
  { s with connecting := false, events := if s.outputBuffer.empty then .r else .rw }

/-- `Connector::HandleWrite` when it has failed. -/
def connectFailed (s : Output Tid) : Output Tid :=
  { s with connecting := false, socket := false }

inductive Action (Tid : Type*)
  /-- another thread enters `Send`, up to its call of `RunInLoop` -/
  | send (t : Tid) (data : Bytes)
  | queue (t : Tid)
  | swap
  /-- the next pending task -/
  | task
  | sendHere (data : Bytes)
  | handleWrite
  | write (r : WriteResult)
  /-- the connect has completed -/
  | connected (ok : Bool)
  /-- the connection is entered in the maps of the loop, or removed from them -/
  | lookup (found : Bool)

variable [DecidableEq Tid]

/-- A call of `Send`. -/
def issue (s : Output Tid) (sender : Option Tid) (data : Bytes) : Output Tid :=
  { s with issued := Function.update s.issued sender (s.issued sender ++ [data]) }

def setThread (s : Output Tid) (t : Tid) (task : Option (SendTask Tid)) : Output Tid :=
  { s with threads := Function.update s.threads t task }

/-- `ConnectionBase::Send` in another thread, up to its call of `RunInLoop`. -/
def beginSend (s : Output Tid) (t : Tid) (data : Bytes) : Output Tid :=
  if data = [] then s
  else if ¬ s.socket then s
  else s.setThread t (some ⟨t, (s.issued (some t)).length, .copy data⟩)

def next (s : Output Tid) : Action Tid → Option (Output Tid)
  | .send t data =>
    if s.threads t = none then some ((s.beginSend t data).issue (some t) data) else none
  | .queue t =>
    match s.threads t with
    | some task => some ({ s with queue := s.queue.push task }.setThread t none)
    | none => none
  | .swap =>
    if s.loop = .idle ∧ s.queue.batch = [] then some { s with queue := s.queue.swap } else none
  | .task =>
    if s.loop = .idle then
      s.queue.begin.map fun p =>
        if s.found then { s with queue := p.2 }.send p.1.sent else { s with queue := p.2 }
    else none
  | .sendHere data =>
    if s.loop = .idle then
      some ((s.send ⟨none, (s.issued none).length, data⟩).issue none data)
    else none
  | .handleWrite => if s.loop = .idle ∧ s.connecting = false then some s.handleWrite else none
  | .write r =>
    match s.loop with
    | .idle => none
    | .sendInLoop data offset => s.writeSent data offset r
    | .handleWrite => s.writeBuffered r
  | .connected ok =>
    if s.loop = .idle ∧ s.connecting = true then
      some (if ok then s.connected else s.connectFailed)
    else none
  | .lookup found => some { s with found }

/-- A connection whose object was just constructed. -/
def start (Tid : Type*) (connecting : Bool) (events : Interest) : Output Tid where
  socket := true
  connecting
  found := false
  outputBuffer := .mk' Buffer.kInitialSize
  events
  queue := .empty
  loop := .idle
  threads := fun _ => none
  issued := fun _ => []
  ran := []
  accepted := []
  failed := false

def machine (Tid : Type*) [DecidableEq Tid] : Machine (Output Tid) (Action Tid) where
  init := fun s => ∃ connecting events, s = start Tid connecting events
  next := next

lemma reachable_start (connecting : Bool) (events : Interest) :
    (machine Tid).Reachable (start Tid connecting events) := .start ⟨connecting, events, rfl⟩

/-! ### One constructor for each step -/

/-- What `next` does, read backwards: the guard each label needs, and where it leads. -/
inductive Step (s : Output Tid) : Action Tid → Output Tid → Prop
  | send (t : Tid) (data : Bytes) (ht : s.threads t = none) :
      Step s (.send t data) ((s.beginSend t data).issue (some t) data)
  | queue (t : Tid) (task : SendTask Tid) (ht : s.threads t = some task) :
      Step s (.queue t) ({ s with queue := s.queue.push task }.setThread t none)
  | swap (hl : s.loop = .idle) (hb : s.queue.batch = []) :
      Step s .swap { s with queue := s.queue.swap }
  | task (task : SendTask Tid) (q : BatchQueue (SendTask Tid)) (hl : s.loop = .idle)
      (hq : s.queue.begin = some (task, q)) (hf : s.found = true) :
      Step s .task ({ s with queue := q }.send task.sent)
  | lost (task : SendTask Tid) (q : BatchQueue (SendTask Tid)) (hl : s.loop = .idle)
      (hq : s.queue.begin = some (task, q)) (hf : s.found = false) :
      Step s .task { s with queue := q }
  | sendHere (data : Bytes) (hl : s.loop = .idle) : Step s (.sendHere data)
      ((s.send ⟨none, (s.issued none).length, data⟩).issue none data)
  | handleWrite (hl : s.loop = .idle) (hc : s.connecting = false) :
      Step s .handleWrite s.handleWrite
  | writeSent (data : Bytes) (offset : Nat) (r : WriteResult) (s' : Output Tid)
      (hl : s.loop = .sendInLoop data offset) (h : s.writeSent data offset r = some s') :
      Step s (.write r) s'
  | writeBuffered (r : WriteResult) (s' : Output Tid) (hl : s.loop = .handleWrite)
      (h : s.writeBuffered r = some s') : Step s (.write r) s'
  | connected (hl : s.loop = .idle) (hc : s.connecting = true) :
      Step s (.connected true) s.connected
  | connectFailed (hl : s.loop = .idle) (hc : s.connecting = true) :
      Step s (.connected false) s.connectFailed
  | lookup (found : Bool) : Step s (.lookup found) { s with found }

/-- Every transition of the machine is one of the steps. -/
theorem Step.of_next {s s' : Output Tid} {l : Action Tid} (h : (machine Tid).next s l = some s') :
    Step s l s' := by
  change next s l = some s' at h
  cases l with
  | send t data =>
    simp only [next] at h
    split_ifs at h with ht
    cases h; exact .send t data ht
  | queue t =>
    simp only [next] at h
    split at h
    · cases h; exact .queue t _ ‹_›
    · cases h
  | swap =>
    simp only [next] at h
    split_ifs at h with hl
    cases h; exact .swap hl.1 hl.2
  | task =>
    simp only [next] at h
    split_ifs at h with hl hf
    · obtain ⟨⟨task, q⟩, hq, rfl⟩ := Option.map_eq_some_iff.mp h
      exact .task task q hl hq hf
    · obtain ⟨⟨task, q⟩, hq, rfl⟩ := Option.map_eq_some_iff.mp h
      exact .lost task q hl hq (by simpa using hf)
  | sendHere data =>
    simp only [next] at h
    split_ifs at h with hl
    cases h; exact .sendHere data hl
  | handleWrite =>
    simp only [next] at h
    split_ifs at h with hl
    cases h; exact .handleWrite hl.1 hl.2
  | write r =>
    simp only [next] at h
    split at h
    · cases h
    · exact .writeSent _ _ r s' ‹_› h
    · exact .writeBuffered r s' ‹_› h
  | connected ok =>
    by_cases hl : s.loop = .idle ∧ s.connecting = true
    · rw [next, if_pos hl] at h
      cases ok with
      | true => cases h; exact .connected hl.1 hl.2
      | false => cases h; exact .connectFailed hl.1 hl.2
    · rw [next, if_neg hl] at h
      cases h
  | lookup found => cases h; exact .lookup found

end Output

end Balabala
