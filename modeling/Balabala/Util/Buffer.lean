import Mathlib.Data.List.Basic
import Balabala.Actor.Message

/-!
# The output buffer

`Buffer` keeps the bytes that wait to be sent in a vector, between a reader and a writer index. The
writer moves on as bytes are appended, the reader as bytes are sent. When there is no room behind
the writer, the bytes are moved to the front or the vector grows.

The order of the indices is a field of the type. What the buffer is for is in the lemmas about
`readable`: it is a queue of bytes.
-/

namespace Balabala

def Buffer.kCheapPrepend : Nat := 8

structure Buffer where
  buffer : Bytes
  readerIndex : Nat
  writerIndex : Nat
  prepend_le : Buffer.kCheapPrepend ≤ readerIndex
  reader_le : readerIndex ≤ writerIndex
  writer_le : writerIndex ≤ buffer.length

namespace Buffer

def kInitialSize : Nat := 128 * 1024

def mk' (initialSize : Nat) : Buffer where
  buffer := List.replicate (kCheapPrepend + initialSize) 0
  readerIndex := kCheapPrepend
  writerIndex := kCheapPrepend
  prepend_le := Nat.le_refl _
  reader_le := Nat.le_refl _
  writer_le := by
    rw [List.length_replicate]
    exact Nat.le_add_right _ _

variable (b : Buffer)

def readableBytes : Nat := b.writerIndex - b.readerIndex

def writableBytes : Nat := b.buffer.length - b.writerIndex

def prependableBytes : Nat := b.readerIndex

def empty : Bool := b.readerIndex = b.writerIndex

/-- The bytes between `Peek()` and `Peek() + ReadableBytes()`. -/
def readable : Bytes := (b.buffer.drop b.readerIndex).take b.readableBytes

lemma length_readable : b.readable.length = b.readableBytes := by
  have := b.reader_le
  have := b.writer_le
  simp only [readable, readableBytes, List.length_take, List.length_drop]
  omega

/-! ### Making space -/

/-- The branch of `MakeSpace` in which the vector is resized. -/
def grow (len : Nat) : Buffer where
  buffer := b.buffer ++
    List.replicate (max (b.buffer.length * 2) (b.writerIndex + len) - b.buffer.length) 0
  readerIndex := b.readerIndex
  writerIndex := b.writerIndex
  prepend_le := b.prepend_le
  reader_le := b.reader_le
  writer_le := by
    rw [List.length_append]
    exact Nat.le_add_right_of_le b.writer_le

/-- The branch of `MakeSpace` in which the bytes are moved to the front. -/
def compact : Buffer where
  buffer := b.buffer.take kCheapPrepend ++ b.readable ++
    b.buffer.drop (kCheapPrepend + b.readableBytes)
  readerIndex := kCheapPrepend
  writerIndex := kCheapPrepend + b.readableBytes
  prepend_le := Nat.le_refl _
  reader_le := Nat.le_add_right _ _
  writer_le := by
    have hprepend := b.prepend_le
    have hreader := b.reader_le
    have hwriter := b.writer_le
    simp only [List.length_append, List.length_take, b.length_readable, kCheapPrepend] at hprepend ⊢
    omega

def makeSpace (len : Nat) : Buffer :=
  if b.writableBytes + b.prependableBytes < len + kCheapPrepend then b.grow len else b.compact

def ensureWritableBytes (len : Nat) : Buffer :=
  if b.writableBytes < len then b.makeSpace len else b

lemma le_writableBytes_ensureWritableBytes (len : Nat) :
    len ≤ (b.ensureWritableBytes len).writableBytes := by
  have hprepend := b.prepend_le
  have hreader := b.reader_le
  have hwriter := b.writer_le
  unfold ensureWritableBytes makeSpace
  split_ifs with hroom htotal
  · simp only [grow, writableBytes, List.length_append, List.length_replicate] at hroom ⊢
    omega
  · simp only [writableBytes, prependableBytes, kCheapPrepend] at hprepend hroom htotal
    simp only [compact, writableBytes, readableBytes, List.length_append, List.length_take,
      List.length_drop, b.length_readable, kCheapPrepend]
    omega
  · exact Nat.not_lt.mp hroom

/-! ### Appending and retrieving -/

/-- The `memcpy` of `Append`, for which there is room. -/
def write (data : Bytes) (_room : data.length ≤ b.writableBytes) : Buffer where
  buffer := b.buffer.take b.writerIndex ++ data ++ b.buffer.drop (b.writerIndex + data.length)
  readerIndex := b.readerIndex
  writerIndex := b.writerIndex + data.length
  prepend_le := b.prepend_le
  reader_le := Nat.le_add_right_of_le b.reader_le
  writer_le := by
    have hwriter := b.writer_le
    simp only [List.length_append, List.length_take]
    omega

def append (data : Bytes) : Buffer :=
  if data = [] then b
  else (b.ensureWritableBytes data.length).write data
    (b.le_writableBytes_ensureWritableBytes data.length)

def retrieveAll : Buffer where
  buffer := b.buffer
  readerIndex := kCheapPrepend
  writerIndex := kCheapPrepend
  prepend_le := Nat.le_refl _
  reader_le := Nat.le_refl _
  writer_le := Nat.le_trans b.prepend_le (Nat.le_trans b.reader_le b.writer_le)

/-- `Retrieve`, which asserts that at most `ReadableBytes()` are asked for. -/
def retrieve (len : Nat) : Buffer :=
  if h : len < b.readableBytes then
    { b with
      readerIndex := b.readerIndex + len
      prepend_le := Nat.le_add_right_of_le b.prepend_le
      reader_le := by
        unfold readableBytes at h
        omega }
  else b.retrieveAll

/-! ### The buffer as a queue of bytes -/

variable {b}

lemma readable_eq_nil : b.readable = [] ↔ b.empty = true := by
  have hreader := b.reader_le
  rw [← List.length_eq_zero_iff, b.length_readable]
  simp only [readableBytes, empty, decide_eq_true_eq]
  omega

@[simp] lemma readable_mk' (initialSize : Nat) : (mk' initialSize).readable = [] :=
  readable_eq_nil.mpr (by simp [mk', empty])

@[simp] lemma readable_retrieveAll : b.retrieveAll.readable = [] :=
  readable_eq_nil.mpr (by simp [retrieveAll, empty])

lemma readable_grow (len : Nat) : (b.grow len).readable = b.readable := by
  have hreader := b.reader_le
  have hwriter := b.writer_le
  simp only [readable, readableBytes, grow]
  rw [List.drop_append_of_le_length (by omega), List.take_append_of_le_length]
  rw [List.length_drop]
  omega

lemma readable_compact : b.compact.readable = b.readable := by
  have hprepend : kCheapPrepend ≤ b.buffer.length :=
    Nat.le_trans b.prepend_le (Nat.le_trans b.reader_le b.writer_le)
  have htake : (b.buffer.take kCheapPrepend).length = kCheapPrepend := by
    rw [List.length_take, Nat.min_eq_left hprepend]
  have hlen : kCheapPrepend + b.readableBytes - kCheapPrepend = b.readable.length := by
    rw [b.length_readable]
    omega
  show ((b.buffer.take kCheapPrepend ++ b.readable ++ _).drop kCheapPrepend).take
    (kCheapPrepend + b.readableBytes - kCheapPrepend) = b.readable
  rw [hlen, List.append_assoc, List.drop_left' htake, List.take_left]

lemma readable_ensureWritableBytes (len : Nat) :
    (b.ensureWritableBytes len).readable = b.readable := by
  unfold ensureWritableBytes makeSpace
  split_ifs
  · exact readable_grow len
  · exact readable_compact
  · rfl

lemma readable_write {data : Bytes} (h : data.length ≤ b.writableBytes) :
    (b.write data h).readable = b.readable ++ data := by
  have hreader := b.reader_le
  have hwriter := b.writer_le
  have htake : (b.buffer.take b.writerIndex).length = b.writerIndex := by
    rw [List.length_take, Nat.min_eq_left hwriter]
  have hold : (b.buffer.take b.writerIndex).drop b.readerIndex = b.readable := by
    rw [List.drop_take]
    rfl
  have hlen : b.writerIndex + data.length - b.readerIndex = (b.readable ++ data).length := by
    rw [List.length_append, b.length_readable, readableBytes]
    omega
  show ((b.buffer.take b.writerIndex ++ data ++ _).drop b.readerIndex).take
    (b.writerIndex + data.length - b.readerIndex) = b.readable ++ data
  rw [hlen, List.append_assoc, List.drop_append_of_le_length (by omega), hold, ← List.append_assoc,
    List.take_left]

/-- Appended bytes come after those that wait already. -/
theorem readable_append (b : Buffer) (data : Bytes) :
    (b.append data).readable = b.readable ++ data := by
  rw [append]
  split_ifs with hdata
  · rw [hdata, List.append_nil]
  · rw [readable_write, readable_ensureWritableBytes]

/-- Retrieved bytes are those at the front. -/
theorem readable_retrieve (b : Buffer) (len : Nat) :
    (b.retrieve len).readable = b.readable.drop len := by
  rw [retrieve]
  split_ifs with h
  · show (b.buffer.drop (b.readerIndex + len)).take (b.writerIndex - (b.readerIndex + len)) = _
    rw [readable, List.drop_take, List.drop_drop, readableBytes, Nat.sub_sub]
  · rw [readable_retrieveAll, List.drop_eq_nil_of_le]
    rw [b.length_readable]
    exact Nat.not_lt.mp h

end Buffer

end Balabala
