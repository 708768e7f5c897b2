import Mathlib.Algebra.Group.Nat.Defs
import Mathlib.Logic.Function.Basic
import Mathlib.Tactic.Common
import Balabala.Foundation.Machine
import Balabala.Util.SpinLockQueue
import Balabala.Net.Basic

/-!
# Connections of the callback model

The connections of `net/`, where `Send` pushes a message on `sendMQ_` and asks for `EPOLLOUT`, and
`HandleWrite` takes the messages off in the loop thread, until there are none, and then asks for
`EPOLLIN` only. The two have no lock in common, so every look at the queue, every `ModifyEvent` and
every `write` is a step of its own. `lastMsgCache_` belongs to the loop thread.

There is one connection, with any number of threads that call `Send`. It is not removed from the
loop, so `ModifyEvent` does not throw; log output is left out.
-/

namespace Balabala

open Foundation

/-- How far a call of `Send` is. The steps are named after what comes next. -/
inductive SendStage
  | idle | modifyEvent
  deriving DecidableEq

/-- How far `HandleWrite` is. -/
inductive HandleWritePc
  | idle
  /-- the condition of the outer loop -/
  | test
  | take
  /-- the next `write` of the inner loop, which runs as long as something is left of the message -/
  | write (strMsg : Bytes) (offset : Fin strMsg.length)
  | modifyRW | modifyR
  deriving DecidableEq

namespace HandleWritePc

/-- The inner loop with `offset` bytes of the message written. -/
def writeFrom (strMsg : Bytes) (offset : Nat) : HandleWritePc :=
  if h : offset < strMsg.length then .write strMsg ⟨offset, h⟩ else .test

/-- What is left of the message in the hands of `HandleWrite`. -/
def unsent : HandleWritePc → Bytes
  | .write strMsg offset => strMsg.drop offset
  | _ => []

/-- Where `lastMsgCache_` is empty: once the loop has looked or has taken a message. -/
def cacheTaken : HandleWritePc → Bool
  | .write _ _ | .modifyR => true
  | _ => false

end HandleWritePc

structure ConnectionBase (Tid : Type*) where
  socket : Int
  sendMQ : SpinLockQueue Bytes
  lastMsgCache : Bytes
  /-- What was last asked for with `ModifyEvent`. -/
  events : Interest
  senders : Tid → SendStage
  loop : HandleWritePc
  /-- All bytes that `write` has taken. -/
  written : Bytes
  /-- A `write` has failed for good. -/
  failed : Bool

namespace ConnectionBase

variable {Tid : Type*}

def setLoop (s : ConnectionBase Tid) (pc : HandleWritePc) : ConnectionBase Tid :=
  { s with loop := pc }

/-- `ModifyEvent` in `HandleWrite`, which then returns. -/
def modifyEvent (s : ConnectionBase Tid) (events : Interest) : ConnectionBase Tid :=
  { s with events, loop := .idle }

/-- A step of `HandleWrite` other than a `write`. -/
def loopNext (s : ConnectionBase Tid) : Option (ConnectionBase Tid) :=
  match s.loop with
  | .test =>
    some (s.setLoop (if !s.sendMQ.empty || !s.lastMsgCache.isEmpty then .take else .modifyR))
  | .take =>
    if !s.lastMsgCache.isEmpty then
      -- `std::move` leaves the cache empty
      some { s with lastMsgCache := [], loop := .writeFrom s.lastMsgCache 0 }
    else
      match s.sendMQ.pop with
      | none => some (s.setLoop .test)
      | some (msg, q) => some { s with sendMQ := q, loop := .writeFrom msg 0 }
  | .modifyRW => some (s.modifyEvent .rw)
  | .modifyR => some (s.modifyEvent .r)
  | .idle | .write _ _ => none

/-- A `write` of what is left of the message, with its result. -/
def writeNext (s : ConnectionBase Tid) (r : WriteResult) : Option (ConnectionBase Tid) :=
  match s.loop with
  | .write strMsg offset =>
    match r with
    | .wrote n =>
      if 0 < n ∧ offset + n ≤ strMsg.length then
        some { s with
          written := s.written ++ (strMsg.drop offset).take n
          loop := .writeFrom strMsg (offset + n) }
      else none
    | .eintr => some s
    | .eagain => some { s with lastMsgCache := strMsg.drop offset, loop := .modifyRW }
    | .error => some { s with loop := .idle, failed := true }
    | .zero => some (s.setLoop .test)
  | _ => none

inductive Action (Tid : Type*)
  | send (t : Tid) (data : Bytes)
  | modifyEvent (t : Tid)
  | handleWrite
  | loop
  | write (r : WriteResult)

variable [DecidableEq Tid]

/-- `Send` up to its `ModifyEvent`. -/
def send (s : ConnectionBase Tid) (t : Tid) (data : Bytes) : ConnectionBase Tid :=
  if s.socket < 0 then s
  else { s with
    sendMQ := s.sendMQ.push data
    senders := Function.update s.senders t .modifyEvent }

/-- The `ModifyEvent` of `Send`. -/
def finishSend (s : ConnectionBase Tid) (t : Tid) : ConnectionBase Tid :=
  { s with events := .rw, senders := Function.update s.senders t .idle }

/-- The length of a message is an `int`. -/
def next (s : ConnectionBase Tid) : Action Tid → Option (ConnectionBase Tid)
  | .send t data =>
    if s.senders t = .idle ∧ data.length < 2 ^ 31 then some (s.send t data) else none
  | .modifyEvent t => if s.senders t = .modifyEvent then some (s.finishSend t) else none
  | .handleWrite => if s.loop = .idle then some (s.setLoop .test) else none
  | .loop => s.loopNext
  | .write r => s.writeNext r

/-- A connection to which nothing has been sent. -/
def start (Tid : Type*) (socket : Int) (events : Interest) : ConnectionBase Tid where
  socket
  sendMQ := .mk'
  lastMsgCache := []
  events
  senders := fun _ => .idle
  loop := .idle
  written := []
  failed := false

def machine (Tid : Type*) [DecidableEq Tid] : Machine (ConnectionBase Tid) (Action Tid) where
  init := fun s => ∃ socket events, s = start Tid socket events
  next := next

/-! ### What a step can do -/

inductive Step (s : ConnectionBase Tid) : Action Tid → ConnectionBase Tid → Prop
  | refuse (t : Tid) (data : Bytes) (hsocket : s.socket < 0) : Step s (.send t data) s
  | push (t : Tid) (data : Bytes) (hpc : s.senders t = .idle) (hsocket : ¬ s.socket < 0) :
      Step s (.send t data)
        { s with
          sendMQ := s.sendMQ.push data
          senders := Function.update s.senders t .modifyEvent }
  | finishSend (t : Tid) (hpc : s.senders t = .modifyEvent) :
      Step s (.modifyEvent t) (s.finishSend t)
  | handleWrite (hpc : s.loop = .idle) : Step s .handleWrite (s.setLoop .test)
  | again (hpc : s.loop = .test) (hmore : s.sendMQ.queue ≠ [] ∨ s.lastMsgCache ≠ []) :
      Step s .loop (s.setLoop .take)
  | drained (hpc : s.loop = .test) (hqueue : s.sendMQ.queue = [])
      (hcache : s.lastMsgCache = []) : Step s .loop (s.setLoop .modifyR)
  | takeCache (hpc : s.loop = .take) (hcache : s.lastMsgCache ≠ []) :
      Step s .loop { s with lastMsgCache := [], loop := .writeFrom s.lastMsgCache 0 }
  | popNone (hpc : s.loop = .take) (hq : s.sendMQ.pop = none) : Step s .loop (s.setLoop .test)
  | pop (hpc : s.loop = .take) (hcache : s.lastMsgCache = []) (msg : Bytes)
      (q : SpinLockQueue Bytes) (hq : s.sendMQ.pop = some (msg, q)) :
      Step s .loop { s with sendMQ := q, loop := .writeFrom msg 0 }
  | modifyRW (hpc : s.loop = .modifyRW) : Step s .loop (s.modifyEvent .rw)
  | modifyR (hpc : s.loop = .modifyR) : Step s .loop (s.modifyEvent .r)
  | wrote (strMsg : Bytes) (offset : Fin strMsg.length) (hpc : s.loop = .write strMsg offset)
      (n : Nat) (hn : 0 < n ∧ offset + n ≤ strMsg.length) :
      Step s (.write (.wrote n))
        { s with
          written := s.written ++ (strMsg.drop offset).take n
          loop := .writeFrom strMsg (offset + n) }
  | eintr (strMsg : Bytes) (offset : Fin strMsg.length) (hpc : s.loop = .write strMsg offset) :
      Step s (.write .eintr) s
  | eagain (strMsg : Bytes) (offset : Fin strMsg.length) (hpc : s.loop = .write strMsg offset) :
      Step s (.write .eagain) { s with lastMsgCache := strMsg.drop offset, loop := .modifyRW }
  | error (strMsg : Bytes) (offset : Fin strMsg.length) (hpc : s.loop = .write strMsg offset) :
      Step s (.write .error) { s with loop := .idle, failed := true }
  | zero (strMsg : Bytes) (offset : Fin strMsg.length) (hpc : s.loop = .write strMsg offset) :
      Step s (.write .zero) (s.setLoop .test)

variable {s s' : ConnectionBase Tid} {a : Action Tid}

lemma Step.of_loopNext (h : s.loopNext = some s') : Step s .loop s' := by
  unfold loopNext at h
  split at h
  case h_1 hpc =>
    obtain rfl := Option.some.inj h
    split_ifs with hmore
    · exact .again hpc (by simpa using hmore)
    · rw [Bool.or_eq_true, not_or] at hmore
      exact .drained hpc (by simpa using hmore.1) (by simpa using hmore.2)
  case h_2 hpc =>
    split_ifs at h with hcache
    · obtain rfl := Option.some.inj h
      exact .takeCache hpc (by simpa using hcache)
    · split at h
      case h_1 hq =>
        obtain rfl := Option.some.inj h
        exact .popNone hpc hq
      case h_2 msg q hq =>
        obtain rfl := Option.some.inj h
        exact .pop hpc (by simpa using hcache) msg q hq
  case h_3 hpc =>
    obtain rfl := Option.some.inj h
    exact .modifyRW hpc
  case h_4 hpc =>
    obtain rfl := Option.some.inj h
    exact .modifyR hpc
  case h_5 => cases h
  case h_6 => cases h

lemma Step.of_writeNext {r : WriteResult} (h : s.writeNext r = some s') :
    Step s (.write r) s' := by
  unfold writeNext at h
  split at h
  case h_1 strMsg offset hpc =>
    cases r with
    | wrote n =>
      simp only at h
      split_ifs at h with hn
      obtain rfl := Option.some.inj h
      exact .wrote strMsg offset hpc n hn
    | eintr =>
      obtain rfl := Option.some.inj h
      exact .eintr strMsg offset hpc
    | eagain =>
      obtain rfl := Option.some.inj h
      exact .eagain strMsg offset hpc
    | error =>
      obtain rfl := Option.some.inj h
      exact .error strMsg offset hpc
    | zero =>
      obtain rfl := Option.some.inj h
      exact .zero strMsg offset hpc
  case h_2 => cases h

/-- Every transition is one of the steps. -/
lemma Step.of_next (h : (machine Tid).next s a = some s') : Step s a s' := by
  cases a with
  | send t data =>
    change (if s.senders t = .idle ∧ data.length < 2 ^ 31 then some (s.send t data) else none) =
      some s' at h
    split_ifs at h with hpc
    obtain rfl := Option.some.inj h
    unfold send
    split_ifs with hsocket
    · exact .refuse t data hsocket
    · exact .push t data hpc.1 hsocket
  | modifyEvent t =>
    change (if s.senders t = .modifyEvent then some (s.finishSend t) else none) = some s' at h
    split_ifs at h with hpc
    obtain rfl := Option.some.inj h
    exact .finishSend t hpc
  | handleWrite =>
    change (if s.loop = .idle then some (s.setLoop .test) else none) = some s' at h
    split_ifs at h with hpc
    obtain rfl := Option.some.inj h
    exact .handleWrite hpc
  | loop => exact .of_loopNext h
  | write r => exact .of_writeNext h

/-! ### Where the cache is empty -/

lemma unsent_writeFrom (strMsg : Bytes) (offset : Nat) :
    (HandleWritePc.writeFrom strMsg offset).unsent = strMsg.drop offset := by
  rw [HandleWritePc.writeFrom]
  split_ifs with h
  · rfl
  · rw [List.drop_of_length_le (Nat.le_of_not_lt h)]
    rfl

/-- The cache is empty from where the loop has looked or has taken a message. -/
def CacheTaken (s : ConnectionBase Tid) : Prop :=
  s.loop.cacheTaken = true → s.lastMsgCache = []

lemma CacheTaken.next (h : s.CacheTaken) (hs : (machine Tid).next s a = some s') :
    s'.CacheTaken := by
  unfold CacheTaken at h ⊢
  cases Step.of_next hs with
  | refuse | eintr | push | finishSend => exact h
  | handleWrite | again | popNone | modifyRW | modifyR | eagain | error | zero => rintro ⟨⟩
  | drained _ _ hcache => exact fun _ => hcache
  | takeCache => exact fun _ => rfl
  | pop _ hcache => exact fun _ => hcache
  | wrote strMsg offset hpc => exact fun _ => h (by rw [hpc]; rfl)

omit [DecidableEq Tid] in
lemma cacheTaken_start (socket : Int) (events : Interest) :
    (start Tid socket events).CacheTaken := fun _ => rfl

end ConnectionBase

end Balabala
