import Balabala.Foundation.Format
import Balabala.Cluster.Codec

/-!
# The grammar of the wire protocol

Wire protocol v2 is a format: a length, and a body of seven fields. `Decode` reads it, except that
it does not ask whether the fields use up the body. The grammar also settles which packets survive
`Encode` and `Decode`: those whose names have lengths of two bytes and whose body is within the
limit of `Decode`.
-/

namespace Balabala

open Foundation

namespace ClusterPacketCodec

/-! ### The formats of the fields -/

def Str16 : Format UInt8 Bytes := (Format.number 2).counted

def Str32 : Format UInt8 Bytes := (Format.number 4).counted

def U32 : Format UInt8 UInt32 := fun v w => Format.number 4 v.toNat w

def U8 : Format UInt8 UInt8 := fun v w => w = [v]

lemma bigEndian_four (b₀ b₁ b₂ b₃ : UInt8) : bigEndian [b₀, b₁, b₂, b₃] =
    b₀.toNat * 2 ^ 24 + (b₁.toNat * 2 ^ 16 + (b₂.toNat * 2 ^ 8 + b₃.toNat)) := by
  simp [bigEndian, Nat.ofDigits]
  omega

/-- The length at the front of a frame. -/
lemma bigEndian_take {s : Bytes} (h : 4 ≤ s.length) :
    bigEndian (s.take 4) = (peekU32 s).toNat := by
  obtain ⟨b₀, b₁, b₂, b₃, p, rfl⟩ : ∃ b₀ b₁ b₂ b₃ p, s = b₀ :: b₁ :: b₂ :: b₃ :: p := by
    rcases s with _ | ⟨b₀, _ | ⟨b₁, _ | ⟨b₂, _ | ⟨b₃, p⟩⟩⟩⟩
    all_goals simp at h
    exact ⟨b₀, b₁, b₂, b₃, p, rfl⟩
  rw [toNat_peekU32, ← bigEndian_four]
  rfl

private lemma toNat_u16 (b₀ b₁ : UInt8) :
    (b₀.toUInt16 <<< 8 ||| b₁.toUInt16).toNat = bigEndian [b₀, b₁] := by
  have h₀ := b₀.toNat_lt
  have hshift : (b₀.toUInt16 <<< 8).toNat = b₀.toNat <<< 8 := by
    simp [UInt16.toNat_shiftLeft, Nat.shiftLeft_eq]
    omega
  rw [UInt16.toNat_or, hshift, UInt8.toNat_toUInt16,
    ← Nat.shiftLeft_add_eq_or_of_lt (b₁.toNat_lt), Nat.shiftLeft_eq]
  simp [bigEndian, Nat.ofDigits]
  omega

lemma reads_readStr16 : Reader.Reads readStr16 Str16 := by
  have heq : readStr16 = (Reader.number 2).counted := by
    funext s
    rcases s with _ | ⟨b₀, _ | ⟨b₁, p⟩⟩
    · rfl
    · rfl
    · have hlen : ¬ (b₀ :: b₁ :: p).length < 2 := by simp
      simp only [readStr16, toNat_u16, Reader.counted, Reader.number, if_neg hlen,
        Option.bind_some, List.take_succ_cons, List.take_zero, List.drop_succ_cons, List.drop_zero]
  rw [heq]
  exact (Reader.reads_number 2).counted

lemma reads_readStr32 : Reader.Reads readStr32 Str32 := by
  have heq : readStr32 = (Reader.number 4).counted := by
    funext s
    rw [readStr32, Reader.counted, Reader.number]
    split_ifs with h
    · rfl
    · rw [bigEndian_take (Nat.not_lt.mp h)]
      rfl
  rw [heq]
  exact (Reader.reads_number 4).counted

lemma reads_readU32 : Reader.Reads readU32 U32 := by
  intro s v rest
  show _ ↔ ∃ w, Format.number 4 v.toNat w ∧ w ++ rest = s
  rw [← Reader.reads_number, readU32, Reader.number]
  split_ifs with h
  · simp
  · rw [bigEndian_take (Nat.not_lt.mp h)]
    simp [UInt32.toNat_inj]

lemma reads_readU8 : Reader.Reads readU8 U8 := by
  intro s v rest
  cases s with
  | nil => simp [readU8, U8]
  | cons b s => simp [readU8, U8, eq_comm]

/-! ### Bodies and frames -/

/-- The seven fields of a body. -/
inductive Body (pkt : ClusterPacket) : Bytes → Prop
  | fields {w₁ w₂ w₃ w₄ w₅ w₆ w₇ : Bytes} {flags : UInt8}
      (sourceNodeId : Str16 pkt.sourceNodeId w₁) (targetNodeId : Str16 pkt.targetNodeId w₂)
      (sourceActorName : Str16 pkt.sourceActorName w₃)
      (targetActorName : Str16 pkt.targetActorName w₄) (sessionId : U32 pkt.sessionId w₅)
      (flag : U8 flags w₆) (isResponse : pkt.isResponse = (flags &&& 1 != 0))
      (data : Str32 pkt.data w₇) :
      Body pkt (w₁ ++ (w₂ ++ (w₃ ++ (w₄ ++ (w₅ ++ (w₆ ++ w₇))))))

/-- A frame: the length of the body and the body, which is `extra` after its fields. -/
inductive Frame (pkt : ClusterPacket) (extra : Bytes) : Bytes → Prop
  | mk {header body : Bytes} (length : Format.number 4 (body ++ extra).length header)
      (min_le : kMinBodyLen ≤ (body ++ extra).length)
      (le_max : (body ++ extra).length ≤ kMaxBodyLen) (fields : Body pkt body) :
      Frame pkt extra (header ++ (body ++ extra))

/-- `Decode` looks at the first fields of a body. -/
lemma decodeBody_eq_some {p : Bytes} {pkt : ClusterPacket} :
    decodeBody p = some pkt ↔ ∃ w extra, Body pkt w ∧ w ++ extra = p := by
  simp only [decodeBody, Option.bind_eq_bind, reads_readStr16.bind_eq_some,
    reads_readU32.bind_eq_some, reads_readU8.bind_eq_some, reads_readStr32.bind_eq_some]
  constructor
  · rintro ⟨a₁, w₁, _, h₁, rfl, a₂, w₂, _, h₂, rfl, a₃, w₃, _, h₃, rfl, a₄, w₄, _, h₄, rfl,
      v, w₅, _, h₅, rfl, flags, w₆, _, h₆, rfl, d, w₇, extra, h₇, rfl, hpkt⟩
    obtain rfl := Option.some.inj hpkt
    exact ⟨_, extra, .fields h₁ h₂ h₃ h₄ h₅ h₆ rfl h₇, by simp⟩
  · rintro ⟨w, extra, hw, rfl⟩
    cases hw with
    | fields h₁ h₂ h₃ h₄ h₅ h₆ hresp h₇ =>
      refine ⟨_, _, _, h₁, by simp, _, _, _, h₂, rfl, _, _, _, h₃, rfl, _, _, _, h₄, rfl, _, _, _,
        h₅, rfl, _, _, _, h₆, rfl, _, _, extra, h₇, rfl, ?_⟩
      rw [← hresp]
      rfl

/-- A frame that is there in full is taken or rejected. -/
lemma decode_of_complete {s : Bytes} {L : Nat} (h4 : 4 ≤ s.length) (hL : bigEndian (s.take 4) = L)
    (hmin : kMinBodyLen ≤ L) (hmax : L ≤ kMaxBodyLen) (hlong : 4 + L ≤ s.length) :
    decode s = (decodeBody ((s.drop 4).take L)).elim .reject (.item (4 + L)) := by
  rw [bigEndian_take h4] at hL
  subst hL
  simp only [decode, if_neg (Nat.not_lt.mpr h4), if_neg (Nat.not_lt.mpr hmax),
    if_neg (Nat.not_lt.mpr hmin), if_neg (Nat.not_lt.mpr hlong)]
  cases decodeBody ((s.drop 4).take (peekU32 s).toNat) <;> rfl

/-- `Decode` takes the frames whose body begins with seven fields. -/
theorem decode_eq_item_iff {s : Bytes} {n : Nat} {pkt : ClusterPacket} :
    decode s = .item n pkt ↔ n ≤ s.length ∧ ∃ extra, Frame pkt extra (s.take n) := by
  constructor
  · intro h
    obtain ⟨hn, hle⟩ := decode_item h
    rw [decode] at h
    dsimp only at h
    split_ifs at h with h4 hmax hmin hlong
    have h4 := Nat.not_lt.mp h4
    have hlen : ((s.drop 4).take (peekU32 s).toNat).length = (peekU32 s).toNat := by
      rw [List.length_take_of_le]
      rw [List.length_drop]
      omega
    split at h
    · cases h
    · rename_i pkt' hbody
      cases h
      obtain ⟨w, extra, hw, heq⟩ := decodeBody_eq_some.mp hbody
      have htake : s.take (4 + (peekU32 s).toNat) = s.take 4 ++ (w ++ extra) := by
        rw [List.take_add, heq]
      rw [htake]
      rw [← heq] at hlen
      refine ⟨hle, extra, .mk ⟨List.length_take_of_le h4, ?_⟩ ?_ ?_ hw⟩
      · rw [bigEndian_take h4, hlen]
      · rw [hlen]
        exact Nat.not_lt.mp hmin
      · rw [hlen]
        exact Nat.not_lt.mp hmax
  · rintro ⟨hle, extra, hframe⟩
    generalize hw : s.take n = w at hframe
    cases hframe with
    | @mk header body hlength hmin hmax hbody =>
      obtain ⟨hheader, hvalue⟩ := hlength
      have hs : s = header ++ (body ++ extra) ++ s.drop n := by rw [← hw, List.take_append_drop]
      have hn : n = 4 + (body ++ extra).length := by
        rw [← List.length_take_of_le hle, hw, List.length_append, hheader]
      have hdrop : s.drop 4 = body ++ extra ++ s.drop n := by
        nth_rewrite 1 [hs]
        rw [List.append_assoc, List.drop_left' hheader]
      have htake : s.take 4 = header := by
        rw [hs, List.append_assoc, List.take_left' hheader]
      rw [decode_of_complete (L := (body ++ extra).length) (by omega) (by rw [htake, hvalue]) hmin
        hmax (by omega), hdrop, List.take_left,
        decodeBody_eq_some.mpr ⟨body, extra, hbody, rfl⟩, hn]
      rfl

/-! ### What the formats have room for -/

lemma Str16.length_le {a w : Bytes} (h : Str16 a w) : a.length ≤ 65535 := by
  obtain ⟨v, hv, -⟩ := h
  exact Nat.le_of_lt_succ (Format.number_lt hv)

lemma Str16.length_eq {a w : Bytes} (h : Str16 a w) : w.length = a.length + 2 := by
  obtain ⟨v, ⟨hv, -⟩, rfl⟩ := h
  rw [List.length_append, hv, Nat.add_comm]

lemma Str32.length_eq {a w : Bytes} (h : Str32 a w) : w.length = a.length + 4 := by
  obtain ⟨v, ⟨hv, -⟩, rfl⟩ := h
  rw [List.length_append, hv, Nat.add_comm]

/-- The fields of a packet take up as much room as `Encode` writes for it. -/
lemma Body.length_eq {pkt : ClusterPacket} {w : Bytes} (h : Body pkt w) :
    w.length = (encodeBody pkt).length := by
  cases h with
  | fields h₁ h₂ h₃ h₄ h₅ h₆ hresp h₇ =>
    rw [length_encodeBody]
    simp only [List.length_append, h₁.length_eq, h₂.length_eq, h₃.length_eq, h₄.length_eq, h₅.1,
      h₇.length_eq, kMinBodyLen]
    rw [h₆, List.length_singleton]
    omega

lemma Frame.fits {pkt : ClusterPacket} {extra w : Bytes} (h : Frame pkt extra w) : Fits pkt := by
  cases h with
  | mk hlength hmin hmax hbody =>
    have hlen := hbody.length_eq
    rw [List.length_append] at hmax
    cases hbody with
    | fields h₁ h₂ h₃ h₄ =>
      exact ⟨h₁.length_le, h₂.length_le, h₃.length_le, h₄.length_le, by omega⟩

/-- Whatever `Decode` returns fits. -/
lemma fits_of_decode {s : Bytes} {n : Nat} {pkt : ClusterPacket} (h : decode s = .item n pkt) :
    Fits pkt := by
  obtain ⟨-, extra, hframe⟩ := decode_eq_item_iff.mp h
  exact hframe.fits

/-- A packet is recovered from its encoding exactly when it fits; otherwise it is not returned. -/
theorem decode_encode_iff (pkt : ClusterPacket) (rest : Bytes) :
    (decode (encode pkt ++ rest) = .item (encode pkt).length pkt ↔
      (pkt.sourceNodeId.length ≤ 65535 ∧ pkt.targetNodeId.length ≤ 65535 ∧
        pkt.sourceActorName.length ≤ 65535 ∧ pkt.targetActorName.length ≤ 65535 ∧
        (encodeBody pkt).length ≤ 16 * 1024 * 1024)) ∧
    (¬ Fits pkt → ∀ n, decode (encode pkt ++ rest) ≠ .item n pkt) := by
  refine ⟨⟨fun h => ?_, fun h => ?_⟩, fun hfits n h => hfits (fits_of_decode h)⟩
  · obtain ⟨h₁, h₂, h₃, h₄, hbody⟩ := fits_of_decode h
    exact ⟨h₁, h₂, h₃, h₄, hbody⟩
  · obtain ⟨h₁, h₂, h₃, h₄, hbody⟩ := h
    exact decode_encode_append ⟨h₁, h₂, h₃, h₄, hbody⟩ rest

/-! ### Exactly the fields -/

/-- `Decode` takes a frame as soon as its body begins with seven fields, and rejects a frame that
is there in full, of an admissible length, whose body does not. -/
theorem decode_grammar :
    (∀ s n pkt, decode s = .item n pkt ↔ n ≤ s.length ∧ ∃ extra, Frame pkt extra (s.take n)) ∧
      ∀ s L, 4 ≤ s.length → bigEndian (s.take 4) = L → kMinBodyLen ≤ L → L ≤ kMaxBodyLen →
        4 + L ≤ s.length → (∀ pkt extra, ¬ Frame pkt extra (s.take (4 + L))) →
          decode s = .reject := by
  refine ⟨fun s n pkt => decode_eq_item_iff, fun s L h4 hL hmin hmax hlong hframe => ?_⟩
  cases hbody : decodeBody ((s.drop 4).take L) with
  | none =>
    rw [decode_of_complete h4 hL hmin hmax hlong, hbody]
    rfl
  | some pkt =>
    have h : decode s = .item (4 + L) pkt := by
      rw [decode_of_complete h4 hL hmin hmax hlong, hbody]
      rfl
    obtain ⟨-, extra, hf⟩ := decode_eq_item_iff.mp h
    exact absurd hf (hframe pkt extra)

/-- A body with a byte to spare after the fields is taken. -/
theorem decode_extra_byte : ¬ ∀ s n pkt, decode s = .item n pkt ↔
    n ≤ s.length ∧ Frame pkt [] (s.take n) := by
  intro h
  have hitem : decode ([0, 0, 0, 18] ++ List.replicate 18 0) = .item 22 {} := by decide
  obtain ⟨-, hframe⟩ := (h _ _ _).mp hitem
  generalize hw : ([0, 0, 0, 18] ++ List.replicate 18 (0 : UInt8)).take 22 = w at hframe
  cases hframe with
  | mk hlength hmin hmax hbody =>
    have hlen := congrArg List.length hw
    have hfields := hbody.length_eq
    rw [length_encodeBody] at hfields
    simp [hlength.1, kMinBodyLen] at hlen hfields
    omega

end ClusterPacketCodec

end Balabala
