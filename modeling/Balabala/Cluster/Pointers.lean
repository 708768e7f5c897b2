import Balabala.Foundation.Format
import Balabala.Cluster.Gateway

/-!
# The pointers of `Decode`

`Decode` gets a pointer and a length and walks a pointer `p` towards the end of the body. Here it
runs on a memory, and a read outside of the memory is a fault (`none`). Given no more of its input
than the frame that begins there, it does not fault, and does what is said of it in terms of lists.

What it says is final unless it says to wait, and it waits for less than a frame. So the gateway
never keeps more than a frame in its buffer.
-/

namespace Balabala

open Foundation

namespace ClusterPacketCodec

/-! ### Reading through a pointer -/

def peekU32At (mem : Bytes) (p : Nat) : Option UInt32 := do
  let b₀ ← mem[p]?
  let b₁ ← mem[p + 1]?
  let b₂ ← mem[p + 2]?
  let b₃ ← mem[p + 3]?
  return (b₀.toUInt32 <<< 24) ||| (b₁.toUInt32 <<< 16) ||| (b₂.toUInt32 <<< 8) ||| b₃.toUInt32

/-- `s.assign(p, len)`. -/
def assign (mem : Bytes) (p len : Nat) : Option Bytes :=
  if p + len ≤ mem.length then some ((mem.drop p).take len) else none

def readU8At (mem : Bytes) (last p : Nat) : Option (Option (UInt8 × Nat)) :=
  if last < p + 1 then some none
  else do
    let v ← mem[p]?
    return some (v, p + 1)

def readU32At (mem : Bytes) (last p : Nat) : Option (Option (UInt32 × Nat)) :=
  if last < p + 4 then some none
  else do
    let v ← peekU32At mem p
    return some (v, p + 4)

def readStr16At (mem : Bytes) (last p : Nat) : Option (Option (Bytes × Nat)) :=
  if last < p + 2 then some none
  else do
    let b₀ ← mem[p]?
    let b₁ ← mem[p + 1]?
    let len := ((b₀.toUInt16 <<< 8) ||| b₁.toUInt16).toNat
    let p := p + 2
    if last < p + len then some none
    else do
      let s ← assign mem p len
      return some (s, p + len)

def readStr32At (mem : Bytes) (last p : Nat) : Option (Option (Bytes × Nat)) :=
  if last < p + 4 then some none
  else do
    let len := (← peekU32At mem p).toNat
    let p := p + 4
    if last < p + len then some none
    else do
      let s ← assign mem p len
      return some (s, p + len)

/-- The fields of a body; the inner `none` is a field that goes past the end. -/
def decodeBodyAt (mem : Bytes) (last p : Nat) : Option (Option ClusterPacket) := do
  let some (sourceNodeId, p) ← readStr16At mem last p | return none
  let some (targetNodeId, p) ← readStr16At mem last p | return none
  let some (sourceActorName, p) ← readStr16At mem last p | return none
  let some (targetActorName, p) ← readStr16At mem last p | return none
  let some (sessionId, p) ← readU32At mem last p | return none
  let some (flags, p) ← readU8At mem last p | return none
  let some (data, _) ← readStr32At mem last p | return none
  return some { sourceNodeId, targetNodeId, sourceActorName, targetActorName, sessionId,
                isResponse := flags &&& 1 != 0, data }

def decodeAt (mem : Bytes) (len : Nat) : Option (Verdict ClusterPacket) :=
  if len < 4 then some .wait
  else do
    let bodyLen := (← peekU32At mem 0).toNat
    if kMaxBodyLen < bodyLen then some .reject
    else if bodyLen < kMinBodyLen then some .reject
    else if len < 4 + bodyLen then some .wait
    else
      match ← decodeBodyAt mem (4 + bodyLen) 4 with
      | none => some .reject
      | some pkt => some (.item (4 + bodyLen) pkt)

section Walks

variable {mem : Bytes} {last p : Nat}

/-- Four bytes within the memory. -/
lemma peekU32At_eq (hlast : last ≤ mem.length) (h : p + 4 ≤ last) :
    peekU32At mem p = some (peekU32 (window mem last p)) := by
  obtain ⟨b₀, h₀, hw₀⟩ := exists_window_cons hlast (show p < last by omega)
  obtain ⟨b₁, h₁, hw₁⟩ := exists_window_cons hlast (show p + 1 < last by omega)
  obtain ⟨b₂, h₂, hw₂⟩ := exists_window_cons hlast (show p + 1 + 1 < last by omega)
  obtain ⟨b₃, h₃, hw₃⟩ := exists_window_cons hlast (show p + 1 + 1 + 1 < last by omega)
  rw [peekU32At, h₀, h₁, h₂, h₃, hw₀, hw₁, hw₂, hw₃]
  rfl

/-- A string of a length that was read. -/
lemma assign_walks (hlast : last ≤ mem.length) (hp : p ≤ last) (len : Nat) :
    Walks mem last
      (if last < p + len then some none
        else (assign mem p len).bind fun s => some (some (s, p + len)))
      (if (window mem last p).length < len then none
        else some ((window mem last p).take len, (window mem last p).drop len)) := by
  rw [length_window hlast]
  by_cases h : last < p + len
  · rw [if_pos h, if_pos (by omega)]
    exact .fail
  · rw [if_neg h, if_neg (by omega), assign, if_pos (by omega), Option.bind_some, drop_window,
      take_window (Nat.not_lt.mp h)]
    exact .read (Nat.not_lt.mp h)

lemma readU8At_walks (hlast : last ≤ mem.length) (hp : p ≤ last) :
    Walks mem last (readU8At mem last p) (readU8 (window mem last p)) := by
  rw [readU8At]
  split_ifs with h
  · obtain rfl : p = last := by omega
    have hnil : window mem p p = [] := by
      rw [← List.length_eq_zero_iff, length_window hlast, Nat.sub_self]
    rw [hnil]
    exact .fail
  · obtain ⟨b, hb, hw⟩ := exists_window_cons hlast (show p < last by omega)
    rw [hb, hw]
    exact .read (Nat.not_lt.mp h)

lemma readU32At_walks (hlast : last ≤ mem.length) (hp : p ≤ last) :
    Walks mem last (readU32At mem last p) (readU32 (window mem last p)) := by
  rw [readU32At, readU32, length_window hlast]
  by_cases h : last < p + 4
  · rw [if_pos h, if_pos (by omega)]
    exact .fail
  · rw [if_neg h, if_neg (by omega), peekU32At_eq hlast (Nat.not_lt.mp h), drop_window]
    exact .read (Nat.not_lt.mp h)

lemma readStr16At_walks (hlast : last ≤ mem.length) (hp : p ≤ last) :
    Walks mem last (readStr16At mem last p) (readStr16 (window mem last p)) := by
  rw [readStr16At]
  split_ifs with h
  · have hlen : (window mem last p).length < 2 := by
      rw [length_window hlast]
      omega
    have hnone : readStr16 (window mem last p) = none := by
      generalize window mem last p = w at hlen
      rcases w with _ | ⟨b₀, _ | ⟨b₁, w⟩⟩
      · rfl
      · rfl
      · simp only [List.length_cons] at hlen
        omega
    rw [hnone]
    exact .fail
  · obtain ⟨b₀, h₀, hw₀⟩ := exists_window_cons hlast (show p < last by omega)
    obtain ⟨b₁, h₁, hw₁⟩ := exists_window_cons hlast (show p + 1 < last by omega)
    rw [h₀, h₁, hw₀, hw₁]
    exact assign_walks hlast (Nat.not_lt.mp h) _

lemma readStr32At_walks (hlast : last ≤ mem.length) (hp : p ≤ last) :
    Walks mem last (readStr32At mem last p) (readStr32 (window mem last p)) := by
  rw [readStr32At, readStr32, length_window hlast]
  by_cases h : last < p + 4
  · rw [if_pos h, if_pos (by omega)]
    exact .fail
  · rw [if_neg h, if_neg (by omega), peekU32At_eq hlast (Nat.not_lt.mp h), drop_window]
    exact assign_walks hlast (Nat.not_lt.mp h) _

/-- The fields are those of the window, and no read leaves the memory. -/
lemma decodeBodyAt_eq (hlast : last ≤ mem.length) (hp : p ≤ last) :
    decodeBodyAt mem last p = some (decodeBody (window mem last p)) := by
  rw [decodeBodyAt, decodeBody]
  refine (readStr16At_walks hlast hp).bind rfl fun sourceNodeId p hp => ?_
  refine (readStr16At_walks hlast hp).bind rfl fun targetNodeId p hp => ?_
  refine (readStr16At_walks hlast hp).bind rfl fun sourceActorName p hp => ?_
  refine (readStr16At_walks hlast hp).bind rfl fun targetActorName p hp => ?_
  refine (readU32At_walks hlast hp).bind rfl fun sessionId p hp => ?_
  refine (readU8At_walks hlast hp).bind rfl fun flags p hp => ?_
  exact (readStr32At_walks hlast hp).bind rfl fun data p _ => rfl

end Walks

/-- Of its input `Decode` reads the frame that begins there, at most. -/
theorem decodeAt_eq (s : Bytes) :
    decodeAt (s.take (4 + (peekU32 s).toNat)) s.length = some (decode s) := by
  by_cases h4 : s.length < 4
  · rw [decodeAt, decode, if_pos h4, if_pos h4]
  · have h4 := Nat.not_lt.mp h4
    have hmem : 4 ≤ (s.take (4 + (peekU32 s).toNat)).length := by
      rw [List.length_take]
      omega
    have hpeek : peekU32At (s.take (4 + (peekU32 s).toNat)) 0 = some (peekU32 s) := by
      have hwindow : window (s.take (4 + (peekU32 s).toNat)) 4 0 = s.take 4 := by
        rw [window, List.drop_zero, List.take_take, Nat.min_eq_left (Nat.le_add_right _ _)]
      have hlen : 4 ≤ (s.take 4).length := by rw [List.length_take_of_le h4]
      rw [peekU32At_eq hmem (Nat.le_refl 4), hwindow, ← peekU32_append hlen (s.drop 4),
        List.take_append_drop]
    rw [decodeAt, decode, if_neg (Nat.not_lt.mpr h4), if_neg (Nat.not_lt.mpr h4), hpeek]
    dsimp only [Option.bind_eq_bind, Option.bind_some]
    split_ifs with hmax hmin hlong
    · rfl
    · rfl
    · rfl
    · have hlast : 4 + (peekU32 s).toNat ≤ (s.take (4 + (peekU32 s).toNat)).length := by
        rw [List.length_take_of_le (Nat.not_lt.mp hlong)]
      have hwindow : window (s.take (4 + (peekU32 s).toNat)) (4 + (peekU32 s).toNat) 4 =
          (s.drop 4).take (peekU32 s).toNat := by
        rw [window, List.take_take, Nat.min_self, List.drop_take, Nat.add_sub_cancel_left]
      rw [decodeBodyAt_eq hlast (Nat.le_add_right _ _), hwindow, Option.bind_some]
      cases decodeBody ((s.drop 4).take (peekU32 s).toNat) <;> rfl

/-! ### Waiting -/

/-- `Decode` waits for a length, or for a frame of an admissible length. -/
theorem decode_eq_wait_iff {s : Bytes} : decode s = .wait ↔ s.length < 4 ∨
    kMinBodyLen ≤ (peekU32 s).toNat ∧ (peekU32 s).toNat ≤ kMaxBodyLen ∧
      s.length < 4 + (peekU32 s).toNat := by
  rw [decode]
  dsimp only
  split_ifs with h4 hmax hmin hlong
  · exact ⟨fun _ => .inl h4, fun _ => rfl⟩
  · constructor
    · intro h
      cases h
    · rintro (h | ⟨-, hle, -⟩) <;> omega
  · constructor
    · intro h
      cases h
    · rintro (h | ⟨hle, -, -⟩) <;> omega
  · exact ⟨fun _ => .inr ⟨Nat.not_lt.mp hmin, Nat.not_lt.mp hmax, hlong⟩, fun _ => rfl⟩
  · constructor
    · intro h
      split at h <;> cases h
    · rintro (h | ⟨-, -, hlt⟩) <;> omega

lemma length_of_wait {s : Bytes} (h : decode s = .wait) : s.length < 4 + kMaxBodyLen := by
  obtain h | ⟨-, hle, hlt⟩ := decode_eq_wait_iff.mp h
  · exact Nat.lt_of_lt_of_le h (Nat.le_add_right _ _)
  · omega

/-- An item takes up a whole frame. -/
lemma le_of_decode {s : Bytes} {n : Nat} {pkt : ClusterPacket} (h : decode s = .item n pkt) :
    4 + kMinBodyLen ≤ n := by
  obtain ⟨rfl, -⟩ := decode_item h
  rw [decode] at h
  dsimp only at h
  split_ifs at h with h4 hmax hmin hlong
  omega

end ClusterPacketCodec

/-! ### The loop of the gateway -/

open ClusterPacketCodec

/-- What the gateway keeps of a chunk is less than a frame. -/
lemma ClusterGatewayActor.length_recvBuffers (g : ClusterGatewayActor) {msg : ActorMessage}
    {buf : Bytes} (ht : msg.type = .networkRecv)
    (hbuf : (g.onCoroutineMessage msg).1.recvBuffers msg.fd = some buf) :
    buf.length < 4 + kMaxBodyLen := by
  rw [(onCoroutineMessage_recv ht rfl).1] at hbuf
  exact length_of_wait (StreamDecoder.decode_rest hbuf)

/-- The verdicts of `Decode` are final unless it waits; it waits for less than a frame; it reads
nothing but the frame; the loop of the gateway ends and leaves less than a frame behind. -/
theorem decode_verdicts :
    (∀ s t, decode s ≠ .wait → decode (s ++ t) = decode s) ∧
    (∀ s, decode s = .wait ↔ s.length < 4 ∨ kMinBodyLen ≤ (peekU32 s).toNat ∧
      (peekU32 s).toNat ≤ kMaxBodyLen ∧ s.length < 4 + (peekU32 s).toNat) ∧
    (∀ s, decodeAt (s.take (4 + (peekU32 s).toNat)) s.length = some (decode s)) ∧
    (∀ s n pkt, decode s = .item n pkt → 4 + kMinBodyLen ≤ n) ∧
    (∀ buf, clusterDecoder.drainWithin (buf.length / (4 + kMinBodyLen) + 1) buf =
      some (clusterDecoder.drain buf)) ∧
    ∀ (g : ClusterGatewayActor) msg buf, msg.type = .networkRecv →
      (g.onCoroutineMessage msg).1.recvBuffers msg.fd = some buf →
        buf.length < 4 + 16 * 1024 * 1024 := by
  refine ⟨fun s t h => decode_append h t, fun s => decode_eq_wait_iff, decodeAt_eq,
    fun s n pkt h => le_of_decode h, fun buf => ?_, fun g msg buf ht hbuf => ?_⟩
  · apply StreamDecoder.drainWithin_eq (m := 4 + kMinBodyLen) fun s n pkt h => le_of_decode h
    exact Nat.lt_mul_of_div_lt (Nat.lt_succ_self _) (by decide)
  · exact g.length_recvBuffers ht hbuf

end Balabala
