import Mathlib.Algebra.Group.Nat.Defs
import Mathlib.Data.Nat.Basic
import Balabala.Foundation.StreamDecoder
import Balabala.Actor.Message

/-!
# The cluster wire protocol

`ClusterPacketCodec` writes a packet as a four-byte length, big-endian, and a body of four strings
with two-byte lengths, the session id, a byte of flags and the data with a four-byte length. The
readers advance a pointer `p` towards `end`; here the bytes between the two are passed along.
-/

namespace Balabala

open Foundation

structure ClusterPacket where
  sourceNodeId : Bytes := []
  targetNodeId : Bytes := []
  sourceActorName : Bytes := []
  targetActorName : Bytes := []
  sessionId : UInt32 := 0
  isResponse : Bool := false
  data : Bytes := []
  deriving DecidableEq, Repr

namespace ClusterPacketCodec

/-! ### Writing -/

def writeU8 (buf : Bytes) (v : UInt8) : Bytes := buf ++ [v]

def writeU16 (buf : Bytes) (v : UInt16) : Bytes := buf ++ [(v >>> 8).toUInt8, v.toUInt8]

def writeU32 (buf : Bytes) (v : UInt32) : Bytes :=
  buf ++ [(v >>> 24).toUInt8, (v >>> 16).toUInt8, (v >>> 8).toUInt8, v.toUInt8]

/-- The length is cast to 16 bits. -/
def writeStr16 (buf s : Bytes) : Bytes := writeU16 buf (UInt16.ofNat s.length) ++ s

/-- The length is cast to 32 bits. -/
def writeStr32 (buf s : Bytes) : Bytes := writeU32 buf (UInt32.ofNat s.length) ++ s

def encodeBody (pkt : ClusterPacket) : Bytes :=
  let body := writeStr16 [] pkt.sourceNodeId
  let body := writeStr16 body pkt.targetNodeId
  let body := writeStr16 body pkt.sourceActorName
  let body := writeStr16 body pkt.targetActorName
  let body := writeU32 body pkt.sessionId
  let body := writeU8 body (if pkt.isResponse then 1 else 0)
  writeStr32 body pkt.data

def encode (pkt : ClusterPacket) : Bytes :=
  let body := encodeBody pkt
  writeU32 [] (UInt32.ofNat body.length) ++ body

/-! ### Reading -/

/-- The four bytes at `p`. The callers have checked that they are there. -/
def peekU32 : Bytes → UInt32
  | b₀ :: b₁ :: b₂ :: b₃ :: _ =>
    (b₀.toUInt32 <<< 24) ||| (b₁.toUInt32 <<< 16) ||| (b₂.toUInt32 <<< 8) ||| b₃.toUInt32
  | _ => 0

def readU8 : Bytes → Option (UInt8 × Bytes)
  | v :: p => some (v, p)
  | [] => none

def readU32 (p : Bytes) : Option (UInt32 × Bytes) :=
  if p.length < 4 then none else some (peekU32 p, p.drop 4)

def readStr16 : Bytes → Option (Bytes × Bytes)
  | b₀ :: b₁ :: p =>
    let len := ((b₀.toUInt16 <<< 8) ||| b₁.toUInt16).toNat
    if p.length < len then none else some (p.take len, p.drop len)
  | _ => none

def readStr32 (p : Bytes) : Option (Bytes × Bytes) :=
  if p.length < 4 then none
  else
    let len := (peekU32 p).toNat
    let p := p.drop 4
    if p.length < len then none else some (p.take len, p.drop len)

/-- The fields of a body. What follows the last field is not looked at. -/
def decodeBody (p : Bytes) : Option ClusterPacket := do
  let (sourceNodeId, p) ← readStr16 p
  let (targetNodeId, p) ← readStr16 p
  let (sourceActorName, p) ← readStr16 p
  let (targetActorName, p) ← readStr16 p
  let (sessionId, p) ← readU32 p
  let (flags, p) ← readU8 p
  let (data, _) ← readStr32 p
  return { sourceNodeId, targetNodeId, sourceActorName, targetActorName, sessionId,
           isResponse := flags &&& 1 != 0, data }

def kMinBodyLen : Nat := 2 + 2 + 2 + 2 + 4 + 1 + 4

def kMaxBodyLen : Nat := 16 * 1024 * 1024

/-- `Decode` returns 0 (`wait`), -1 (`reject`) or the number of bytes consumed (`item`). What it
has written to `out` before an error is not used by any caller. -/
def decode (s : Bytes) : Verdict ClusterPacket :=
  if s.length < 4 then .wait
  else
    let bodyLen := (peekU32 s).toNat
    if kMaxBodyLen < bodyLen then .reject
    else if bodyLen < kMinBodyLen then .reject
    else if s.length < 4 + bodyLen then .wait
    else
      match decodeBody ((s.drop 4).take bodyLen) with
      | none => .reject
      | some pkt => .item (4 + bodyLen) pkt

/-! ### Numbers -/

private lemma toNat_shiftLeft {b : UInt8} {k : UInt32} (hk : k.toNat ≤ 24) :
    (b.toUInt32 <<< k).toNat = b.toNat <<< k.toNat := by
  have hb := b.toNat_lt
  have hlt : b.toNat * 2 ^ k.toNat < 2 ^ 32 :=
    calc b.toNat * 2 ^ k.toNat < 2 ^ 8 * 2 ^ k.toNat :=
          Nat.mul_lt_mul_of_pos_right hb (Nat.two_pow_pos _)
      _ ≤ 2 ^ 8 * 2 ^ 24 := Nat.mul_le_mul_left _ (Nat.pow_le_pow_right (by decide) hk)
      _ = 2 ^ 32 := by decide
  have hmod : k.toNat % 32 = k.toNat := Nat.mod_eq_of_lt (by omega)
  rw [UInt32.toNat_shiftLeft, UInt8.toNat_toUInt32, hmod, Nat.shiftLeft_eq, Nat.mod_eq_of_lt hlt]

/-- Four bytes are a number in base 256. -/
lemma toNat_peekU32 (b₀ b₁ b₂ b₃ : UInt8) (p : Bytes) :
    (peekU32 (b₀ :: b₁ :: b₂ :: b₃ :: p)).toNat =
      b₀.toNat * 2 ^ 24 + (b₁.toNat * 2 ^ 16 + (b₂.toNat * 2 ^ 8 + b₃.toNat)) := by
  have h₁ := b₁.toNat_lt
  have h₂ := b₂.toNat_lt
  have h₃ := b₃.toNat_lt
  have hlow : b₂.toNat <<< 8 + b₃.toNat < 2 ^ 16 := by
    rw [Nat.shiftLeft_eq]
    omega
  have hmid : b₁.toNat <<< 16 + (b₂.toNat <<< 8 + b₃.toNat) < 2 ^ 24 := by
    rw [Nat.shiftLeft_eq]
    omega
  simp only [peekU32, UInt32.toNat_or, UInt8.toNat_toUInt32, Nat.or_assoc]
  rw [toNat_shiftLeft (by decide), toNat_shiftLeft (by decide), toNat_shiftLeft (by decide)]
  simp only [UInt32.reduceToNat]
  rw [← Nat.shiftLeft_add_eq_or_of_lt h₃, ← Nat.shiftLeft_add_eq_or_of_lt hlow,
    ← Nat.shiftLeft_add_eq_or_of_lt hmid]
  simp only [Nat.shiftLeft_eq]

@[simp] lemma length_writeU32 (buf : Bytes) (v : UInt32) :
    (writeU32 buf v).length = buf.length + 4 := by simp [writeU32]

lemma writeU32_eq (buf : Bytes) (v : UInt32) : writeU32 buf v = buf ++ writeU32 [] v := rfl

/-- Reading back a number of four bytes. -/
@[simp] lemma peekU32_writeU32 (v : UInt32) (p : Bytes) : peekU32 (writeU32 [] v ++ p) = v := by
  apply UInt32.toNat_inj.mp
  have hv := v.toNat_lt
  simp only [writeU32, List.nil_append, List.cons_append]
  rw [toNat_peekU32]
  simp [UInt32.toNat_shiftRight, Nat.shiftRight_eq_div_pow]
  omega

/-- Only the first four bytes are looked at. -/
lemma peekU32_append {s : Bytes} (h : 4 ≤ s.length) (t : Bytes) : peekU32 (s ++ t) = peekU32 s := by
  obtain ⟨b₀, b₁, b₂, b₃, rest, rfl⟩ : ∃ b₀ b₁ b₂ b₃ rest, s = b₀ :: b₁ :: b₂ :: b₃ :: rest := by
    rcases s with _ | ⟨b₀, _ | ⟨b₁, _ | ⟨b₂, _ | ⟨b₃, rest⟩⟩⟩⟩
    all_goals simp at h
    exact ⟨b₀, b₁, b₂, b₃, rest, rfl⟩
  rfl

/-- Two bytes are a number in base 256. -/
private lemma u16_bytes (v : UInt16) :
    ((v >>> 8).toUInt8.toUInt16 <<< 8 ||| v.toUInt8.toUInt16).toNat = v.toNat := by
  have hv := v.toNat_lt
  have hhigh : ((v >>> 8).toUInt8.toUInt16 <<< 8).toNat = (v.toNat / 256) <<< 8 := by
    simp [UInt16.toNat_shiftRight, Nat.shiftRight_eq_div_pow, Nat.shiftLeft_eq]
    omega
  have hlow : v.toUInt8.toUInt16.toNat = v.toNat % 256 := by simp
  rw [UInt16.toNat_or, hhigh, hlow,
    ← Nat.shiftLeft_add_eq_or_of_lt (Nat.mod_lt _ (by decide : 0 < 2 ^ 8)), Nat.shiftLeft_eq]
  omega

/-! ### Reading back what was written -/

@[simp] lemma readU32_writeU32 (v : UInt32) (p : Bytes) :
    readU32 (writeU32 [] v ++ p) = some (v, p) := by
  have hdrop : (writeU32 [] v ++ p).drop 4 = p := List.drop_left' (length_writeU32 [] v)
  have hlen : ¬ (writeU32 [] v ++ p).length < 4 := by simp
  rw [readU32, if_neg hlen, peekU32_writeU32, hdrop]

/-- A string whose length fits in 16 bits is read back. -/
lemma readStr16_writeStr16 {s : Bytes} (h : s.length < 2 ^ 16) (p : Bytes) :
    readStr16 (writeStr16 [] s ++ p) = some (s, p) := by
  have hlen : (UInt16.ofNat s.length).toNat = s.length := UInt16.toNat_ofNat_of_lt' h
  simp only [writeStr16, writeU16, List.nil_append, List.cons_append, readStr16, u16_bytes, hlen,
    List.length_append, List.take_left, List.drop_left]
  rw [if_neg (by omega)]

lemma readStr32_writeStr32 {s : Bytes} (h : s.length < 2 ^ 32) (p : Bytes) :
    readStr32 (writeStr32 [] s ++ p) = some (s, p) := by
  have hlen : (UInt32.ofNat s.length).toNat = s.length := UInt32.toNat_ofNat_of_lt' h
  have hdrop : (writeStr32 [] s ++ p).drop 4 = s ++ p := by
    rw [writeStr32, List.append_assoc]
    exact List.drop_left' (length_writeU32 [] _)
  have hpeek : peekU32 (writeStr32 [] s ++ p) = UInt32.ofNat s.length := by
    rw [writeStr32, List.append_assoc, peekU32_writeU32]
  have hge : ¬ (writeStr32 [] s ++ p).length < 4 := by
    simp only [writeStr32, List.length_append, length_writeU32]
    omega
  rw [readStr32, if_neg hge]
  simp only [hdrop, hpeek, hlen, List.length_append, List.take_left, List.drop_left]
  rw [if_neg (by omega)]

lemma writeStr16_eq (buf s : Bytes) : writeStr16 buf s = buf ++ writeStr16 [] s := by
  simp [writeStr16, writeU16]

lemma writeStr32_eq (buf s : Bytes) : writeStr32 buf s = buf ++ writeStr32 [] s := by
  simp [writeStr32, writeU32]

@[simp] lemma length_writeStr16 (s : Bytes) : (writeStr16 [] s).length = s.length + 2 := by
  simp [writeStr16, writeU16]

@[simp] lemma length_writeStr32 (s : Bytes) : (writeStr32 [] s).length = s.length + 4 := by
  simp [writeStr32, Nat.add_comm]

/-- The fields of a body one after another. -/
lemma encodeBody_eq (pkt : ClusterPacket) : encodeBody pkt =
    writeStr16 [] pkt.sourceNodeId ++ (writeStr16 [] pkt.targetNodeId ++
      (writeStr16 [] pkt.sourceActorName ++ (writeStr16 [] pkt.targetActorName ++
        (writeU32 [] pkt.sessionId ++ ((if pkt.isResponse then 1 else 0) ::
          writeStr32 [] pkt.data))))) := by
  rw [encodeBody]
  rw [writeStr32_eq, writeU8, writeU32_eq, writeStr16_eq _ pkt.targetActorName,
    writeStr16_eq _ pkt.sourceActorName, writeStr16_eq _ pkt.targetNodeId]
  simp

lemma length_encodeBody (pkt : ClusterPacket) : (encodeBody pkt).length =
    kMinBodyLen + pkt.sourceNodeId.length + pkt.targetNodeId.length +
      pkt.sourceActorName.length + pkt.targetActorName.length + pkt.data.length := by
  rw [encodeBody_eq]
  simp [kMinBodyLen]
  omega

lemma length_encode (pkt : ClusterPacket) :
    (encode pkt).length = 4 + (encodeBody pkt).length := by
  simp [encode]

/-- The packets the wire format has room for. -/
structure Fits (pkt : ClusterPacket) : Prop where
  sourceNodeId : pkt.sourceNodeId.length ≤ 65535
  targetNodeId : pkt.targetNodeId.length ≤ 65535
  sourceActorName : pkt.sourceActorName.length ≤ 65535
  targetActorName : pkt.targetActorName.length ≤ 65535
  body : (encodeBody pkt).length ≤ kMaxBodyLen

lemma decodeBody_encodeBody {pkt : ClusterPacket} (h : Fits pkt) :
    decodeBody (encodeBody pkt) = some pkt := by
  have hdata : pkt.data.length < 2 ^ 32 := by
    have := h.body
    rw [length_encodeBody] at this
    rw [kMaxBodyLen] at this
    omega
  have hstr32 := readStr32_writeStr32 hdata []
  rw [List.append_nil] at hstr32
  have hflag : ((if pkt.isResponse then 1 else 0 : UInt8) &&& 1 != 0) = pkt.isResponse := by
    cases pkt.isResponse <;> rfl
  rw [encodeBody_eq, decodeBody]
  simp only [readStr16_writeStr16 (Nat.lt_succ_of_le h.sourceNodeId),
    readStr16_writeStr16 (Nat.lt_succ_of_le h.targetNodeId),
    readStr16_writeStr16 (Nat.lt_succ_of_le h.sourceActorName),
    readStr16_writeStr16 (Nat.lt_succ_of_le h.targetActorName),
    readU32_writeU32, readU8, hstr32, hflag, Option.bind_eq_bind, Option.bind_some,
    Option.pure_def]

/-- What was encoded is decoded, whatever follows it. -/
theorem decode_encode_append {pkt : ClusterPacket} (h : Fits pkt) (rest : Bytes) :
    decode (encode pkt ++ rest) = .item (encode pkt).length pkt := by
  have hmin : kMinBodyLen ≤ (encodeBody pkt).length := by
    rw [length_encodeBody]
    omega
  have hlt : (encodeBody pkt).length < 2 ^ 32 := Nat.lt_of_le_of_lt h.body (by decide)
  have hlen : (UInt32.ofNat (encodeBody pkt).length).toNat = (encodeBody pkt).length :=
    UInt32.toNat_ofNat_of_lt' hlt
  have hpeek : (peekU32 (encode pkt ++ rest)).toNat = (encodeBody pkt).length := by
    rw [encode, List.append_assoc, peekU32_writeU32, hlen]
  have hbody : ((encode pkt ++ rest).drop 4).take (encodeBody pkt).length = encodeBody pkt := by
    have hdrop : (encode pkt ++ rest).drop 4 = encodeBody pkt ++ rest := by
      rw [encode, List.append_assoc]
      exact List.drop_left' (length_writeU32 [] _)
    rw [hdrop, List.take_left]
  have hlong : ¬ (encode pkt ++ rest).length < 4 + (encodeBody pkt).length := by
    rw [List.length_append, length_encode]
    omega
  have h4 : ¬ (encode pkt ++ rest).length < 4 := by omega
  simp only [decode, hpeek, hbody, decodeBody_encodeBody h, if_neg h4, if_neg hlong,
    if_neg (Nat.not_lt.mpr h.body), if_neg (Nat.not_lt.mpr hmin), length_encode]

/-! ### The codec as a stream decoder -/

/-- A verdict other than to wait is not changed by more input. -/
lemma decode_append {s : Bytes} (h : decode s ≠ .wait) (t : Bytes) :
    decode (s ++ t) = decode s := by
  unfold decode at h ⊢
  dsimp only at h ⊢
  split_ifs at h with h4 hmax hmin hlong
  · exact absurd rfl h
  · have h4' : ¬ (s ++ t).length < 4 := by rw [List.length_append]; omega
    simp only [peekU32_append (Nat.not_lt.mp h4), if_neg h4, if_neg h4', if_pos hmax]
  · have h4' : ¬ (s ++ t).length < 4 := by rw [List.length_append]; omega
    simp only [peekU32_append (Nat.not_lt.mp h4), if_neg h4, if_neg h4', if_neg hmax, if_pos hmin]
  · exact absurd rfl h
  · have h4' : ¬ (s ++ t).length < 4 := by rw [List.length_append]; omega
    have hlong' : ¬ (s ++ t).length < 4 + (peekU32 s).toNat := by rw [List.length_append]; omega
    have hbody : ((s ++ t).drop 4).take (peekU32 s).toNat =
        (s.drop 4).take (peekU32 s).toNat := by
      rw [List.drop_append_of_le_length (Nat.not_lt.mp h4), List.take_append_of_le_length]
      rw [List.length_drop]
      omega
    simp only [peekU32_append (Nat.not_lt.mp h4), if_neg h4, if_neg h4', if_neg hmax,
      if_neg hmin, if_neg hlong, if_neg hlong', hbody]

/-- An item is a whole frame. -/
lemma decode_item {s : Bytes} {n : Nat} {pkt : ClusterPacket} (h : decode s = .item n pkt) :
    n = 4 + (peekU32 s).toNat ∧ n ≤ s.length := by
  rw [decode] at h
  simp only at h
  split_ifs at h with h4 hmax hmin hlong
  split at h
  · cases h
  · cases h
    exact ⟨rfl, Nat.not_lt.mp hlong⟩

end ClusterPacketCodec

open ClusterPacketCodec in
/-- The codec as the stream decoder of `ClusterGatewayActor`. -/
def clusterDecoder : StreamDecoder UInt8 ClusterPacket where
  decode := decode
  item_pos h := by
    rw [(decode_item h).1]
    omega
  item_le h := (decode_item h).2
  item_append t h := by rw [decode_append (by simp [h]) t, h]
  reject_append t h := by rw [decode_append (by simp [h]) t, h]

lemma clusterDecoder_nil : clusterDecoder.decode [] = .wait := rfl

lemma clusterDecoder_encode (pkt : ClusterPacket) (h : ClusterPacketCodec.Fits pkt) (rest : Bytes) :
    clusterDecoder.decode (ClusterPacketCodec.encode pkt ++ rest) =
      .item (ClusterPacketCodec.encode pkt).length pkt :=
  ClusterPacketCodec.decode_encode_append h rest

end Balabala
