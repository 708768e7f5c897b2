import Balabala.Foundation.Machine
import Balabala.Util.Buffer

/-!
# The output buffer without its invariant

The operations of `Buffer` on its bare fields. What the code relies on is checked here where it is
relied on: an assertion that fails, a subtraction that goes below zero, a `memcpy`, a `memmove` or a
read that leaves the vector is a fault (`none`). From the constructor on nothing of that happens,
and the bytes that wait are a queue.
-/

namespace Balabala

open Foundation

structure RawBuffer where
  buffer : Bytes
  readerIndex : Nat
  writerIndex : Nat

/-- `std::memcpy(buffer + dst, data, len)`. -/
def memcpy (buffer : Bytes) (dst : Nat) (data : Bytes) : Option Bytes :=
  if dst + data.length ≤ buffer.length then
    some (buffer.take dst ++ data ++ buffer.drop (dst + data.length))
  else none

/-- `std::memmove(buffer + dst, buffer + src, len)`: all of the bytes are read before any is
written. -/
def memmove (buffer : Bytes) (dst src len : Nat) : Option Bytes :=
  if src + len ≤ buffer.length then memcpy buffer dst ((buffer.drop src).take len) else none

def assert (c : Prop) [Decidable c] : Option Unit := if c then some () else none

/-- The difference of two sizes. -/
def sizeSub (m n : Nat) : Option Nat := if n ≤ m then some (m - n) else none

namespace RawBuffer

def mk' (initialSize : Nat) : RawBuffer where
  buffer := List.replicate (Buffer.kCheapPrepend + initialSize) 0
  readerIndex := Buffer.kCheapPrepend
  writerIndex := Buffer.kCheapPrepend

variable (b : RawBuffer)

def readableBytes : Option Nat := sizeSub b.writerIndex b.readerIndex

def writableBytes : Option Nat := sizeSub b.buffer.length b.writerIndex

def prependableBytes : Nat := b.readerIndex

/-- The bytes between `Peek()` and `Peek() + ReadableBytes()`. -/
def peek : Option Bytes := do
  let n ← b.readableBytes
  if b.readerIndex + n ≤ b.buffer.length then some ((b.buffer.drop b.readerIndex).take n) else none

def makeSpace (len : Nat) : Option RawBuffer := do
  if (← b.writableBytes) + b.prependableBytes < len + Buffer.kCheapPrepend then
    let needed := b.writerIndex + len
    let newCap := max (b.buffer.length * 2) needed
    return { b with buffer := b.buffer.take newCap ++ List.replicate (newCap - b.buffer.length) 0 }
  else
    assert (Buffer.kCheapPrepend < b.readerIndex)
    let readable ← b.readableBytes
    let buffer ← memmove b.buffer Buffer.kCheapPrepend b.readerIndex readable
    let b : RawBuffer := ⟨buffer, Buffer.kCheapPrepend, Buffer.kCheapPrepend + readable⟩
    assert (b.readableBytes = some readable)
    return b

def ensureWritableBytes (len : Nat) : Option RawBuffer := do
  let b ← if (← b.writableBytes) < len then b.makeSpace len else some b
  assert (len ≤ (← b.writableBytes))
  return b

def append (data : Bytes) : Option RawBuffer := do
  if data.length = 0 then return b
  let b ← b.ensureWritableBytes data.length
  let buffer ← memcpy b.buffer b.writerIndex data
  return { b with buffer, writerIndex := b.writerIndex + data.length }

def retrieveAll : RawBuffer :=
  { b with readerIndex := Buffer.kCheapPrepend, writerIndex := Buffer.kCheapPrepend }

def retrieve (len : Nat) : Option RawBuffer := do
  assert (len ≤ (← b.readableBytes))
  if len < (← b.readableBytes) then return { b with readerIndex := b.readerIndex + len }
  return b.retrieveAll

end RawBuffer

/-! ### What the invariant makes of the checks -/

namespace Buffer

/-- The fields of a buffer. -/
def raw (b : Buffer) : RawBuffer := ⟨b.buffer, b.readerIndex, b.writerIndex⟩

variable (b : Buffer)

@[simp] lemma readableBytes_raw : b.raw.readableBytes = some b.readableBytes :=
  if_pos b.reader_le

@[simp] lemma writableBytes_raw : b.raw.writableBytes = some b.writableBytes :=
  if_pos b.writer_le

lemma peek_raw : b.raw.peek = some b.readable := by
  have hreader := b.reader_le
  have hwriter := b.writer_le
  have hbound : b.raw.readerIndex + b.readableBytes ≤ b.raw.buffer.length := by
    simp only [raw, readableBytes]
    omega
  rw [RawBuffer.peek, readableBytes_raw, Option.bind_eq_bind, Option.bind_some, if_pos hbound]
  rfl

/-- The bytes that wait are moved within the vector. -/
lemma memmove_raw (h : kCheapPrepend ≤ b.readerIndex) :
    memmove b.buffer kCheapPrepend b.readerIndex b.readableBytes = some b.compact.buffer := by
  have hreader := b.reader_le
  have hwriter := b.writer_le
  have hsrc : b.readerIndex + b.readableBytes ≤ b.buffer.length := by
    simp only [readableBytes]
    omega
  have hdst : kCheapPrepend + b.readable.length ≤ b.buffer.length := by
    rw [b.length_readable]
    omega
  rw [memmove, if_pos hsrc]
  change memcpy b.buffer kCheapPrepend b.readable = _
  rw [memcpy, if_pos hdst, b.length_readable]
  rfl

/-- The assertions of `MakeSpace` hold when there is no room behind the writer. -/
lemma makeSpace_raw {len : Nat} (h : b.writableBytes < len) :
    b.raw.makeSpace len = some (b.makeSpace len).raw := by
  rw [RawBuffer.makeSpace, writableBytes_raw, makeSpace]
  simp only [Option.bind_eq_bind, Option.bind_some]
  change (if b.writableBytes + b.prependableBytes < len + kCheapPrepend then _ else _) = _
  split_ifs with htotal
  · have htake : b.buffer.take (max (b.buffer.length * 2) (b.writerIndex + len)) = b.buffer := by
      rw [List.take_of_length_le]
      exact Nat.le_trans (Nat.le_mul_of_pos_right _ (Nat.succ_pos 1)) (Nat.le_max_left _ _)
    simp only [raw, grow, htake]
    rfl
  · have hassert : kCheapPrepend < b.readerIndex := by
      simp only [prependableBytes] at htotal
      omega
    have hmove := b.memmove_raw (Nat.le_of_lt hassert)
    have hreadable : b.compact.raw.readableBytes = some b.readableBytes := by
      rw [readableBytes_raw, ← length_readable, readable_compact, length_readable]
    have hcompact : (⟨b.compact.buffer, kCheapPrepend, kCheapPrepend + b.readableBytes⟩ :
      RawBuffer) = b.compact.raw := rfl
    change (assert (kCheapPrepend < b.readerIndex) : Option Unit).bind _ = _
    simp only [assert, if_pos hassert, readableBytes_raw, Option.pure_def, Option.bind_some]
    change (memmove b.buffer kCheapPrepend b.readerIndex b.readableBytes).bind _ = _
    rw [hmove, Option.bind_some, hcompact, hreadable]
    simp

lemma ensureWritableBytes_raw (len : Nat) :
    b.raw.ensureWritableBytes len = some (b.ensureWritableBytes len).raw := by
  have hroom := b.le_writableBytes_ensureWritableBytes len
  rw [RawBuffer.ensureWritableBytes, writableBytes_raw]
  simp only [Option.bind_eq_bind, Option.bind_some]
  rw [ensureWritableBytes] at hroom ⊢
  split_ifs at hroom ⊢ with hlt
  · rw [b.makeSpace_raw hlt]
    simp [assert, hroom]
  · simp [assert, hroom]

lemma append_raw (data : Bytes) : b.raw.append data = some (b.append data).raw := by
  rw [RawBuffer.append, append]
  by_cases hdata : data = []
  · simp [hdata]
  · have hlen : ¬ data.length = 0 := by simpa using hdata
    let b' := b.ensureWritableBytes data.length
    have hroom : data.length ≤ b'.writableBytes :=
      b.le_writableBytes_ensureWritableBytes data.length
    have hcopy : memcpy b'.buffer b'.writerIndex data = some (b'.write data hroom).buffer := by
      have hwriter := b'.writer_le
      rw [memcpy, if_pos]
      · rfl
      · simp only [writableBytes] at hroom
        omega
    rw [if_neg hlen, if_neg hdata, ensureWritableBytes_raw]
    simp only [Option.bind_eq_bind, Option.bind_some]
    change (memcpy b'.buffer b'.writerIndex data).bind _ = _
    rw [hcopy]
    rfl

lemma retrieve_raw {len : Nat} (h : len ≤ b.readableBytes) :
    b.raw.retrieve len = some (b.retrieve len).raw := by
  rw [RawBuffer.retrieve, retrieve, readableBytes_raw]
  simp only [Option.bind_eq_bind, Option.bind_some, assert, if_pos h, Option.pure_def]
  split_ifs <;> rfl

end Buffer

/-! ### Every sequence of operations -/

inductive BufferOp
  | append (data : Bytes)
  | retrieve (len : Nat)
  deriving DecidableEq

namespace RawBuffer

/-- A buffer of any initial size, and one operation after the other; those that fault are not
enabled. -/
def machine : Machine RawBuffer BufferOp where
  init b := ∃ initialSize, b = mk' initialSize
  next b op :=
    match op with
    | .append data => b.append data
    | .retrieve len => b.retrieve len

/-- All the bytes that have been appended, and how many have been retrieved. -/
structure Traffic where
  appended : Bytes
  retrieved : Nat

def Traffic.record (t : Traffic) : BufferOp → Traffic
  | .append data => { t with appended := t.appended ++ data }
  | .retrieve len => { t with retrieved := t.retrieved + len }

/-- The runs of `machine`, with an observer of the traffic. -/
def observed : Machine (RawBuffer × Traffic) BufferOp :=
  machine.observed ⟨[], 0⟩ fun t _ op _ => t.record op

/-- The bare fields are those of a buffer with the invariant, whose readable bytes are the appended
ones without those retrieved. -/
def Refines (x : RawBuffer × Traffic) : Prop :=
  ∃ b : Buffer, x.1 = b.raw ∧ b.readable = x.2.appended.drop x.2.retrieved ∧
    x.2.retrieved ≤ x.2.appended.length

lemma Refines.step {x x' : RawBuffer × Traffic} {op : BufferOp} (hx : Refines x)
    (hs : observed.next x op = some x') : Refines x' := by
  obtain ⟨hnext, ht⟩ := Machine.next_of_observed hs
  obtain ⟨b, hraw, hreadable, hle⟩ := hx
  rw [hraw] at hnext
  cases op with
  | append data =>
    refine ⟨b.append data, ?_, ?_, ?_⟩
    · exact Option.some.inj (hnext.symm.trans (b.append_raw data))
    · rw [b.readable_append, hreadable, ht]
      exact (List.drop_append_of_le_length hle).symm
    · rw [ht]
      simp only [Traffic.record, List.length_append]
      omega
  | retrieve len =>
    have hlen : len ≤ b.readableBytes := by
      by_contra hgt
      change b.raw.retrieve len = some x'.1 at hnext
      rw [retrieve, Buffer.readableBytes_raw] at hnext
      simp only [assert, Option.bind_eq_bind, Option.bind_some, if_neg hgt] at hnext
      cases hnext
    refine ⟨b.retrieve len, ?_, ?_, ?_⟩
    · exact Option.some.inj (hnext.symm.trans (b.retrieve_raw hlen))
    · rw [b.readable_retrieve, hreadable, ht, List.drop_drop]
      rfl
    · have hcount := congrArg List.length hreadable
      rw [b.length_readable, List.length_drop] at hcount
      rw [ht]
      simp only [Traffic.record]
      omega

lemma refines_of_reachable {x : RawBuffer × Traffic} (h : observed.Reachable x) : Refines x := by
  refine h.invariant (P := Refines) ?_ fun x op x' _ hx _ hs => hx.step hs
  rintro ⟨b, t⟩ ⟨⟨initialSize, rfl⟩, rfl⟩
  exact ⟨Buffer.mk' initialSize, rfl, Buffer.readable_mk' initialSize, Nat.le_refl _⟩

/-- At every point of every run from a buffer of any initial size, the bytes that wait are the
appended ones without the retrieved prefix, the indices are in order, and nothing faults: neither
`Append`, nor `Retrieve` of no more than `ReadableBytes()`. -/
theorem byte_queue {b : RawBuffer} {t : Traffic} (h : observed.Reachable (b, t)) :
    b.peek = some (t.appended.drop t.retrieved) ∧ t.retrieved ≤ t.appended.length ∧
      Buffer.kCheapPrepend ≤ b.readerIndex ∧ b.readerIndex ≤ b.writerIndex ∧
      b.writerIndex ≤ b.buffer.length ∧ (∀ data, b.append data ≠ none) ∧
      ∀ len n, b.readableBytes = some n → len ≤ n → b.retrieve len ≠ none := by
  obtain ⟨c, hraw, hreadable, hle⟩ := refines_of_reachable h
  have hraw : b = c.raw := hraw
  subst hraw
  refine ⟨?_, hle, c.prepend_le, c.reader_le, c.writer_le, fun data => ?_, fun len n hn hlen => ?_⟩
  · rw [c.peek_raw, hreadable]
  · rw [c.append_raw]
    simp
  · rw [c.readableBytes_raw, Option.some.injEq] at hn
    rw [c.retrieve_raw (hn ▸ hlen)]
    simp

lemma observed_start (initialSize : Nat) :
    observed.Reachable (mk' initialSize, ⟨[], 0⟩) := .start ⟨⟨initialSize, rfl⟩, rfl⟩

/-- Appending, retrieving and appending again on a buffer of size 4: it grows and is compacted. -/
theorem byte_queue_compacted :
    let x := observed.replay (mk' 4, ⟨[], 0⟩)
      [.append (List.replicate 14 1), .retrieve 12, .append (List.replicate 4 2)]
    x.1.peek = some [1, 1, 2, 2, 2, 2] ∧ x.1.readerIndex = Buffer.kCheapPrepend := by
  intro x
  have hx : observed.Reachable x := Machine.reachable_replay (observed_start 4) _
  exact ⟨(byte_queue (b := x.1) (t := x.2) hx).1, by decide⟩

end RawBuffer

end Balabala
