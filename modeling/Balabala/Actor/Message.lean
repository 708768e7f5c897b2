import Mathlib.Tactic.Common

/-!
# Actor messages

`ActorMessage` carries its payload in one of two representations: `data`, a string, below
`kBufferThreshold` bytes, and `sharedBuf`, a reference-counted immutable buffer, from there on.
`Data()`, `Size()` and `CopyToString()` look through both; reading the field `data` does not.

A `std::string` and a byte array are both a `Bytes`. The type-erased `payload` of the source is
left out, since none of the modelled functions reads or writes it.
-/

namespace Balabala

abbrev Bytes := List UInt8

/-- Ids of actors; `0` stands for the system. -/
abbrev ActorId := UInt32

/-- Descriptor numbers. -/
abbrev Fd := Int

inductive MsgType
  | none | networkRecv | connected | disconnected | userMessage | actorDown
  deriving DecidableEq, Repr

inductive CallError
  | ok | timeout | targetMissing | nodeUnreachable | cancelled | userError (code : UInt8)
  deriving DecidableEq, Repr

structure ActorMessage where
  type : MsgType := .none
  sourceId : ActorId := 0
  fd : Fd := -1
  data : Bytes := []
  sessionId : UInt32 := 0
  isResponse : Bool := false
  error : CallError := .ok
  priority : Bool := false
  sourceNodeId : Bytes := []
  sourceActorName : Bytes := []
  /-- A null `MessageBufferPtr` is `none`. -/
  sharedBuf : Option Bytes := none
  deriving DecidableEq, Repr

namespace ActorMessage

def kBufferThreshold : Nat := 1024

def isRemote (msg : ActorMessage) : Bool := !msg.sourceNodeId.isEmpty

/-- The bytes between `Data()` and `Data() + Size()`. -/
def dataBytes (msg : ActorMessage) : Bytes :=
  match msg.sharedBuf with
  | some buf => buf
  | none => msg.data

def size (msg : ActorMessage) : Nat :=
  match msg.sharedBuf with
  | some buf => buf.length
  | none => msg.data.length

def dataEmpty (msg : ActorMessage) : Bool :=
  match msg.sharedBuf with
  | some buf => buf.isEmpty
  | none => msg.data.isEmpty

def copyToString (msg : ActorMessage) : Bytes :=
  match msg.sharedBuf with
  | some buf => buf
  | none => msg.data

/-- `ActorMessage::Make`: the length decides which representation carries the payload. -/
def make (t : MsgType) (src : ActorId) (f : Fd) (pData : Bytes) : ActorMessage :=
  if pData.length < kBufferThreshold then
    { type := t, sourceId := src, fd := f, data := pData }
  else
    { type := t, sourceId := src, fd := f, sharedBuf := some pData }

/-! ### The three accessors see the same payload -/

lemma size_eq (msg : ActorMessage) : msg.size = msg.dataBytes.length := by
  unfold size dataBytes
  cases msg.sharedBuf <;> rfl

lemma copyToString_eq (msg : ActorMessage) : msg.copyToString = msg.dataBytes := rfl

lemma dataEmpty_iff (msg : ActorMessage) : msg.dataEmpty = true ↔ msg.dataBytes = [] := by
  unfold dataEmpty dataBytes
  cases msg.sharedBuf <;> exact List.isEmpty_iff

/-- Whatever representation `Make` chooses, the accessors give the payload back. -/
@[simp] lemma dataBytes_make (t : MsgType) (src : ActorId) (f : Fd) (p : Bytes) :
    (make t src f p).dataBytes = p := by
  rw [make]
  split_ifs <;> rfl

@[simp] lemma type_make (t : MsgType) (src : ActorId) (f : Fd) (p : Bytes) :
    (make t src f p).type = t := by
  rw [make]
  split_ifs <;> rfl

lemma data_make_of_lt (t : MsgType) (src : ActorId) (f : Fd) {p : Bytes}
    (h : p.length < kBufferThreshold) : (make t src f p).data = p := by
  simp [make, h]

/-- Past the threshold the field `data` is empty. -/
lemma data_make_of_le (t : MsgType) (src : ActorId) (f : Fd) {p : Bytes}
    (h : kBufferThreshold ≤ p.length) : (make t src f p).data = [] := by
  simp [make, Nat.not_lt.mpr h]

end ActorMessage

end Balabala
