import Balabala.Foundation.StreamDecoder

/-!
# A stream of items from a sender to a receiver

The sender appends encoded items to a stream. The receiver takes chunks off the stream, drains its
buffer after each and keeps the rest. Between them the stream may be cut up and held back anywhere.

`Transfer` is what relates the two at any time: the items that came out are a prefix of those that
were put in, and the rest of them is what the receiver holds together with what is under way.
-/

namespace Foundation

namespace StreamDecoder

variable {β α : Type*}

/-- Of the items `sent`, those in `got` came out; the receiver holds `held`, and `ahead` is under
way to it. -/
structure Transfer (d : StreamDecoder β α) (enc : α → List β) (sent got : List α)
    (held ahead : List β) : Prop where
  rest : ∃ more, sent = got ++ more ∧ more.flatMap enc = held ++ ahead
  waits : d.decode held = .wait

/-- The items of which `ok` holds are decoded again, whatever follows them. -/
def Decodes (d : StreamDecoder β α) (enc : α → List β) (ok : α → Prop) : Prop :=
  ∀ a, ok a → ∀ t, d.decode (enc a ++ t) = .item (enc a).length a

namespace Transfer

variable {d : StreamDecoder β α} {enc : α → List β} {ok : α → Prop} {sent got : List α}
  {held ahead : List β}

lemma start (hnil : d.decode [] = .wait) : d.Transfer enc [] [] [] [] where
  rest := ⟨[], rfl, rfl⟩
  waits := hnil

/-- What came out is a prefix of what was put in. -/
lemma isPrefix (h : d.Transfer enc sent got held ahead) : got <+: sent := by
  obtain ⟨more, hsent, -⟩ := h.rest
  exact ⟨more, hsent.symm⟩

/-- The sender appends an item. -/
lemma put (h : d.Transfer enc sent got held ahead) (a : α) :
    d.Transfer enc (sent ++ [a]) got held (ahead ++ enc a) := by
  obtain ⟨more, hsent, hmore⟩ := h.rest
  refine ⟨⟨more ++ [a], by rw [hsent, List.append_assoc], ?_⟩, h.waits⟩
  rw [List.flatMap_append, hmore, List.flatMap_singleton, List.append_assoc]

/-- The receiver takes a chunk and drains its buffer: it is not rejected. -/
theorem take (hd : d.Decodes enc ok) (hnil : d.decode [] = .wait) (hok : ∀ a ∈ sent, ok a)
    {chunk : List β} (h : d.Transfer enc sent got held (chunk ++ ahead)) :
    ∃ items rest, d.drain (held ++ chunk) = (items, some rest) ∧
      d.Transfer enc sent (got ++ items) rest ahead := by
  obtain ⟨more, rfl, hmore⟩ := h.rest
  have hstream : held ++ chunk <+: more.flatMap enc :=
    ⟨ahead, by rw [hmore, List.append_assoc]⟩
  obtain ⟨n, rest, hcut, -, hdrain⟩ := drain_prefix hd hnil
    (fun a ha => hok a (List.mem_append_right got ha)) hstream
  refine ⟨more.take n, rest, hdrain, ⟨more.drop n, ?_, ?_⟩, decode_rest (by rw [hdrain])⟩
  · rw [List.append_assoc, List.take_append_drop]
  · have hsplit : (more.take n).flatMap enc ++ (more.drop n).flatMap enc =
        (more.take n).flatMap enc ++ (rest ++ ahead) := by
      rw [← List.flatMap_append, List.take_append_drop, hmore, ← List.append_assoc, hcut,
        List.append_assoc]
    exact List.append_cancel_left hsplit

/-- When nothing is under way, everything came out. -/
theorem complete (hd : d.Decodes enc ok) (hok : ∀ a ∈ sent, ok a)
    (h : d.Transfer enc sent got held []) : got = sent := by
  obtain ⟨more, rfl, hmore⟩ := h.rest
  cases more with
  | nil => rw [List.append_nil]
  | cons a more =>
    -- a whole item in the buffer would have been decoded
    have ha : ok a := hok a (List.mem_append_right got List.mem_cons_self)
    have hwait := h.waits
    rw [List.append_nil, List.flatMap_cons] at hmore
    rw [← hmore, hd a ha] at hwait
    cases hwait

end Transfer

end StreamDecoder

end Foundation
