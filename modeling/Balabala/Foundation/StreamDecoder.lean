import Mathlib.Data.List.Basic
import Mathlib.Tactic.Common

/-!
# Decoders of a byte stream

A decoder looks at a buffer and says that an item is complete, that the buffer cannot be the
beginning of an item, or that it needs more input. Draining a buffer takes items off its front as
long as there are any. When verdicts do not change as the buffer grows, the items do not depend on
how the input was cut into chunks, up to the first rejection.

A receiver that forgets its buffer at a rejection and goes on with the next chunk starts afresh in
the middle of the stream. `QuietAfterReject` says on the chunks exactly when this does not show.
-/

namespace Foundation

inductive Verdict (α : Type*)
  /-- the buffer is the beginning of an item, at most -/
  | wait
  /-- the buffer is not the beginning of an item -/
  | reject
  /-- the first `n` elements of the buffer are an item -/
  | item (n : Nat) (a : α)
  deriving DecidableEq

/-- A decoder whose verdicts are stable: more input does not change them. -/
structure StreamDecoder (β α : Type*) where
  decode : List β → Verdict α
  item_pos : ∀ {s n a}, decode s = .item n a → 0 < n
  item_le : ∀ {s n a}, decode s = .item n a → n ≤ s.length
  item_append : ∀ {s n a} (t), decode s = .item n a → decode (s ++ t) = .item n a
  reject_append : ∀ {s} (t), decode s = .reject → decode (s ++ t) = .reject

namespace StreamDecoder

variable {β α : Type*} (d : StreamDecoder β α)

/-- Take items off the buffer until none is complete. The rest is `none` after a rejection. -/
def drain (buf : List β) : List α × Option (List β) :=
  match _h : d.decode buf with
  | .wait => ([], some buf)
  | .reject => ([], none)
  | .item n a =>
    let r := drain (buf.drop n)
    (a :: r.1, r.2)
termination_by buf.length
decreasing_by
  have := d.item_pos _h
  have := d.item_le _h
  simp only [List.length_drop]
  omega

variable {d} {s t buf : List β}

lemma drain_wait (h : d.decode s = .wait) : d.drain s = ([], some s) := by
  rw [drain]
  split <;> simp_all

lemma drain_reject (h : d.decode s = .reject) : d.drain s = ([], none) := by
  rw [drain]
  split <;> simp_all

lemma drain_item {n : Nat} {a : α} (h : d.decode s = .item n a) :
    d.drain s = (a :: (d.drain (s.drop n)).1, (d.drain (s.drop n)).2) := by
  conv_lhs => unfold drain
  split <;> simp_all

/-- Induction along `drain`. -/
lemma drain_induction {P : List β → Prop} (wait : ∀ s, d.decode s = .wait → P s)
    (reject : ∀ s, d.decode s = .reject → P s)
    (item : ∀ s n a, d.decode s = .item n a → P (s.drop n) → P s) (s : List β) : P s := by
  induction hlen : s.length using Nat.strongRecOn generalizing s with
  | ind k ih =>
    cases h : d.decode s with
    | wait => exact wait s h
    | reject => exact reject s h
    | item n a =>
      have hpos := d.item_pos h
      have hle := d.item_le h
      refine item s n a h (ih _ ?_ (s.drop n) rfl)
      simp only [List.length_drop]
      omega

/-- `drain` as a loop that is cut off after some rounds. -/
def drainWithin (d : StreamDecoder β α) : Nat → List β → Option (List α × Option (List β))
  | 0, _ => none
  | fuel + 1, buf =>
    match d.decode buf with
    | .wait => some ([], some buf)
    | .reject => some ([], none)
    | .item n a => (drainWithin d fuel (buf.drop n)).map fun r => (a :: r.1, r.2)

/-- When every item has `m` elements or more, the loop ends after so many rounds. -/
theorem drainWithin_eq {m : Nat} (hm : ∀ s n a, d.decode s = .item n a → m ≤ n)
    {fuel : Nat} (h : s.length < fuel * m) : d.drainWithin fuel s = some (d.drain s) := by
  induction fuel generalizing s with
  | zero => simp at h
  | succ fuel ih =>
    rw [drainWithin]
    cases hs : d.decode s with
    | wait => rw [drain_wait hs]
    | reject => rw [drain_reject hs]
    | item n a =>
      have hn := hm s n a hs
      have hle := d.item_le hs
      have hlt : (s.drop n).length < fuel * m := by
        rw [List.length_drop]
        rw [Nat.succ_mul] at h
        omega
      rw [drain_item hs]
      simp only [ih hlt, Option.map_some]

/-- What `drain` leaves is waiting for more. -/
lemma decode_rest {rest : List β} (h : (d.drain s).2 = some rest) : d.decode rest = .wait := by
  induction s using drain_induction (d := d) with
  | wait s hs =>
    rw [drain_wait hs] at h
    obtain rfl : s = rest := by simpa using h
    exact hs
  | reject s hs => simp [drain_reject hs] at h
  | item s n a hs ih =>
    rw [drain_item hs] at h
    exact ih h

/-- Every item that comes out was decoded. -/
lemma decode_of_mem_drain {a : α} (h : a ∈ (d.drain s).1) : ∃ t n, d.decode t = .item n a := by
  induction s using drain_induction (d := d) with
  | wait s hs => simp [drain_wait hs] at h
  | reject s hs => simp [drain_reject hs] at h
  | item s n b hs ih =>
    rw [drain_item hs] at h
    rcases List.mem_cons.mp h with rfl | h
    · exact ⟨s, n, hs⟩
    · exact ih h

/-- Draining in two portions: the second goes to what the first has left. -/
theorem drain_append (s t : List β) : d.drain (s ++ t) =
    match d.drain s with
    | (as, some rest) => (as ++ (d.drain (rest ++ t)).1, (d.drain (rest ++ t)).2)
    | (as, none) => (as, none) := by
  induction s using drain_induction (d := d) with
  | wait s hs => simp [drain_wait hs]
  | reject s hs => simp [drain_reject hs, drain_reject (d.reject_append t hs)]
  | item s n a hs ih =>
    have hdrop : (s ++ t).drop n = s.drop n ++ t := List.drop_append_of_le_length (d.item_le hs)
    rw [drain_item hs, drain_item (d.item_append t hs), hdrop, ih]
    rcases d.drain (s.drop n) with ⟨as, _ | rest⟩ <;> rfl

/-! ### Encoded items -/

section Encoder

variable {enc : α → List β} {ok : α → Prop}

/-- The decoder waits for the end of an encoded item. -/
lemma decode_truncated
    (henc : ∀ a, ok a → ∀ t, d.decode (enc a ++ t) = .item (enc a).length a) {a : α} (ha : ok a)
    (hs : s <+: enc a) (hlt : s.length < (enc a).length) : d.decode s = .wait := by
  obtain ⟨t, ht⟩ := hs
  have hwhole : d.decode (s ++ t) = .item (enc a).length a := by
    rw [ht, ← henc a ha [], List.append_nil]
  cases h : d.decode s with
  | wait => rfl
  | reject =>
    rw [d.reject_append t h] at hwhole
    cases hwhole
  | item n b =>
    rw [d.item_append t h] at hwhole
    have hle := d.item_le h
    simp only [Verdict.item.injEq] at hwhole
    omega

/-- Of a prefix of a stream of encoded items, the items that are complete come out. -/
theorem drain_prefix (henc : ∀ a, ok a → ∀ t, d.decode (enc a ++ t) = .item (enc a).length a)
    (hnil : d.decode [] = .wait) {as : List α} (has : ∀ a ∈ as, ok a)
    (hs : s <+: as.flatMap enc) : ∃ n rest, s = (as.take n).flatMap enc ++ rest ∧
      (∀ a, as[n]? = some a → rest.length < (enc a).length) ∧
      d.drain s = (as.take n, some rest) := by
  induction as generalizing s with
  | nil =>
    obtain rfl : s = [] := by simpa using hs
    exact ⟨0, [], rfl, by simp, drain_wait hnil⟩
  | cons a as ih =>
    have ha : ok a := has a List.mem_cons_self
    rw [List.flatMap_cons] at hs
    by_cases hlt : s.length < (enc a).length
    · have hsa : s <+: enc a :=
        List.prefix_of_prefix_length_le hs (List.prefix_append _ _) (Nat.le_of_lt hlt)
      exact ⟨0, s, rfl, by simpa using hlt, drain_wait (decode_truncated henc ha hsa hlt)⟩
    · obtain ⟨u, rfl⟩ : enc a <+: s :=
        List.prefix_of_prefix_length_le (List.prefix_append _ _) hs (Nat.not_lt.mp hlt)
      have hu : u <+: as.flatMap enc := (List.prefix_append_right_inj (enc a)).mp hs
      obtain ⟨n, rest, rfl, hrest, hdrain⟩ :=
        ih (fun b hb => has b (List.mem_cons_of_mem a hb)) hu
      refine ⟨n + 1, rest, by simp, by simpa using hrest, ?_⟩
      rw [drain_item (henc a ha _), List.drop_left, hdrain]
      rfl

/-- Of a whole stream every item comes out. -/
lemma drain_flatMap (henc : ∀ a, ok a → ∀ t, d.decode (enc a ++ t) = .item (enc a).length a)
    (hnil : d.decode [] = .wait) {as : List α} (has : ∀ a ∈ as, ok a) :
    d.drain (as.flatMap enc) = (as, some []) := by
  induction as with
  | nil => exact drain_wait hnil
  | cons a as ih =>
    have ha : ok a := has a List.mem_cons_self
    rw [List.flatMap_cons, drain_item (henc a ha _), List.drop_left,
      ih fun b hb => has b (List.mem_cons_of_mem a hb)]

end Encoder

/-! ### Chunks -/

variable (d)

/-- Feed the chunks one after another. A rejection forgets the buffer, the next chunk finds none
and starts a new one. -/
def feed : Option (List β) → List (List β) → List α × Option (List β)
  | buf, [] => ([], buf)
  | buf, c :: cs =>
    let r := d.drain (buf.getD [] ++ c)
    let r' := feed r.2 cs
    (r.1 ++ r'.1, r'.2)

variable {d}

/-- Without a rejection, chunks are their concatenation. -/
theorem feed_eq_drain {cs : List (List β)} {as : List α} {rest : List β}
    (hbuf : d.decode buf = .wait) (h : d.drain (buf ++ cs.flatten) = (as, some rest)) :
    d.feed (some buf) cs = (as, some rest) := by
  induction cs generalizing buf as with
  | nil =>
    rw [List.flatten_nil, List.append_nil, drain_wait hbuf] at h
    exact h
  | cons c cs ih =>
    rw [List.flatten_cons, ← List.append_assoc, drain_append] at h
    rcases hr : d.drain (buf ++ c) with ⟨bs, _ | mid⟩
    · simp [hr] at h
    · simp only [hr, Prod.mk.injEq] at h
      obtain ⟨rfl, hrest⟩ := h
      have hmid : d.decode mid = .wait := decode_rest (by rw [hr])
      simp [feed, hr, ih hmid (Prod.ext rfl hrest)]

variable (d)

/-- A block of chunks that is not the beginning of an item, but still was before its last chunk. -/
def Garbage (block : List (List β)) : Prop :=
  ∃ init last, block = init ++ [last] ∧
    d.decode init.flatten = .wait ∧ d.decode block.flatten = .reject

/-- No block of the chunks, at the front or right after garbage, begins with an item. -/
def Quiet (cs : List (List β)) : Prop :=
  ∀ (garbage : List (List (List β))) (block tail : List (List β)),
    cs = garbage.flatten ++ block ++ tail → (∀ g ∈ garbage, d.Garbage g) →
      ∀ n a, d.decode block.flatten ≠ .item n a

/-- The stream does not go on as items. -/
def Rejects (s : List β) : Prop := (d.drain s).2 = none

/-- The chunks after the one with which the stream is first rejected are quiet. -/
def QuietAfterReject (cs : List (List β)) : Prop :=
  ∀ init last later, cs = init ++ last :: later → ¬ d.Rejects init.flatten →
    d.Rejects (init ++ [last]).flatten → d.Quiet later

variable {d}

/-- The beginning of a buffer that waits waits as well. -/
lemma wait_of_wait_append (h : d.decode (s ++ t) = .wait) : d.decode s = .wait := by
  cases hs : d.decode s with
  | wait => rfl
  | reject => rw [d.reject_append t hs] at h; cases h
  | item n a => rw [d.item_append t hs] at h; cases h

section Blocks

variable {init block cs x y : List (List β)} {c : List β}

lemma wait_of_begins (h : d.decode init.flatten = .wait) (hb : block <+: init) :
    d.decode block.flatten = .wait := by
  obtain ⟨more, rfl⟩ := hb
  rw [List.flatten_append] at h
  exact wait_of_wait_append h

lemma reject_of_begins (h : d.decode block.flatten = .reject) (hb : block <+: x) :
    d.decode x.flatten = .reject := by
  obtain ⟨more, rfl⟩ := hb
  rw [List.flatten_append]
  exact d.reject_append _ h

/-- Of two blocks at the front of the same chunks, one is the beginning of the other. -/
lemma prefix_or_prefix (h : block ++ x = init ++ c :: y) :
    block <+: init ∨ init ++ [c] <+: block := by
  have hb : block <+: init ++ [c] ++ y := ⟨x, by rw [h, List.append_assoc]; rfl⟩
  have hi : init ++ [c] <+: init ++ [c] ++ y := List.prefix_append _ _
  rcases List.prefix_or_prefix_of_prefix hb hi with hb | hi
  · rcases List.prefix_concat_iff.mp hb with rfl | hb
    · exact Or.inr List.prefix_rfl
    · exact Or.inl hb
  · exact Or.inr hi

/-- Where the garbage at the front of the chunks ends is settled by the chunks. -/
lemma Garbage.eq_of_append {g : List (List β)} (hg : d.Garbage g)
    (hinit : d.decode init.flatten = .wait) (hc : d.decode (init ++ [c]).flatten = .reject)
    (h : g ++ x = init ++ c :: y) : g = init ++ [c] := by
  obtain ⟨before, last, rfl, hbefore, hlast⟩ := hg
  rcases prefix_or_prefix h with hp | hp
  · rw [wait_of_begins hinit hp] at hlast
    cases hlast
  · rcases List.prefix_concat_iff.mp hp with heq | hp
    · exact heq.symm
    · rw [reject_of_begins hc hp] at hbefore
      cases hbefore

/-- Chunks that are waiting are quiet. -/
lemma quiet_of_wait (h : d.decode cs.flatten = .wait) : d.Quiet cs := by
  rintro garbage block tail rfl hgarbage n a hitem
  cases garbage with
  | nil =>
    have hwait : d.decode block.flatten = .wait := wait_of_begins h (List.prefix_append _ _)
    rw [hwait] at hitem
    cases hitem
  | cons g garbage =>
    obtain ⟨-, -, -, -, hg⟩ := hgarbage g List.mem_cons_self
    have hwait : d.decode g.flatten = .wait := by
      refine wait_of_begins h ?_
      rw [List.flatten_cons, List.append_assoc, List.append_assoc]
      exact List.prefix_append _ _
    rw [hwait] at hg
    cases hg

/-- Garbage at the front makes no difference. -/
lemma quiet_garbage (hinit : d.decode init.flatten = .wait)
    (hc : d.decode (init ++ [c]).flatten = .reject) :
    d.Quiet (init ++ c :: cs) ↔ d.Quiet cs := by
  constructor
  · rintro h garbage block tail rfl hgarbage
    refine h ((init ++ [c]) :: garbage) block tail (by simp) ?_
    intro g hg
    rcases List.mem_cons.mp hg with rfl | hg
    · exact ⟨init, c, rfl, hinit, hc⟩
    · exact hgarbage g hg
  · rintro h garbage block tail heq hgarbage n a hitem
    cases garbage with
    | nil =>
      -- the block ends before the garbage does, or it begins with it
      rw [List.flatten_nil, List.nil_append] at heq
      rcases prefix_or_prefix heq.symm with hb | hb
      · rw [wait_of_begins hinit hb] at hitem
        cases hitem
      · rw [reject_of_begins hc hb] at hitem
        cases hitem
    | cons g garbage =>
      rw [List.flatten_cons, List.append_assoc, List.append_assoc] at heq
      obtain rfl : g = init ++ [c] :=
        (hgarbage g List.mem_cons_self).eq_of_append hinit hc heq.symm
      rw [List.append_assoc, List.append_cancel_left_eq, List.singleton_append,
        List.cons.injEq] at heq
      refine h garbage block tail ?_ (fun g hg => hgarbage g (List.mem_cons_of_mem _ hg)) n a hitem
      rw [heq.2, List.append_assoc]

end Blocks

lemma feed_none (cs : List (List β)) : (d.feed none cs).1 = (d.feed (some []) cs).1 := by
  cases cs <;> rfl

/-- A split of the chunks is at the first of them or later. -/
lemma forall_split_cons {c : List β} {cs : List (List β)}
    {P : List (List β) → List β → List (List β) → Prop} :
    (∀ init last later, c :: cs = init ++ last :: later → P init last later) ↔
      P [] c cs ∧ ∀ init last later, cs = init ++ last :: later → P (c :: init) last later := by
  constructor
  · intro h
    refine ⟨h [] c cs rfl, ?_⟩
    rintro init last later rfl
    exact h (c :: init) last later rfl
  · rintro ⟨hfirst, hlater⟩ init last later heq
    cases init with
    | nil =>
      obtain ⟨rfl, rfl⟩ := List.cons.inj heq
      exact hfirst
    | cons b init =>
      rw [List.cons_append] at heq
      obtain ⟨rfl, rfl⟩ := List.cons.inj heq
      exact hlater init last later rfl

/-- Fed after a block that is waiting, the chunks give no item exactly when block and chunks
together are quiet. -/
lemma feed_block_eq_nil (hnil : d.decode [] = .wait) {block cs : List (List β)}
    (hblock : d.decode block.flatten = .wait) :
    (d.feed (some block.flatten) cs).1 = [] ↔ d.Quiet (block ++ cs) := by
  induction cs generalizing block with
  | nil => simpa [feed] using quiet_of_wait hblock
  | cons c cs ih =>
    have hflat : (block ++ [c]).flatten = block.flatten ++ c := by simp
    cases h : d.decode (block ++ [c]).flatten with
    | wait =>
      have hcs := ih h
      rw [hflat] at h hcs
      simp only [feed, Option.getD_some, drain_wait h, List.nil_append, hcs, List.append_assoc,
        List.cons_append]
    | reject =>
      have hempty : d.decode ([] : List (List β)).flatten = .wait := hnil
      have hcs : (d.feed (some []) cs).1 = [] ↔ d.Quiet cs := ih hempty
      rw [quiet_garbage hblock h]
      rw [hflat] at h
      simpa only [feed, Option.getD_some, drain_reject h, List.nil_append, feed_none] using hcs
    | item n a =>
      have hquiet : ¬ d.Quiet (block ++ c :: cs) := by
        intro hq
        exact hq [] (block ++ [c]) cs (by simp) (by simp) n a h
      rw [hflat] at h
      simp [feed, drain_item h, hquiet]

lemma feed_eq_nil (hnil : d.decode [] = .wait) {cs : List (List β)} :
    (d.feed (some []) cs).1 = [] ↔ d.Quiet cs := by
  have hempty : d.decode ([] : List (List β)).flatten = .wait := hnil
  exact feed_block_eq_nil hnil hempty

/-- The items are those of the whole stream exactly when the chunks after the first rejection are
quiet. -/
theorem feed_eq_drain_iff (hnil : d.decode [] = .wait) {cs : List (List β)} :
    (d.feed (some []) cs).1 = (d.drain cs.flatten).1 ↔ d.QuietAfterReject cs := by
  -- on the chunks, with what they find in the buffer
  suffices h : ∀ {buf cs}, d.decode buf = .wait →
      ((d.feed (some buf) cs).1 = (d.drain (buf ++ cs.flatten)).1 ↔
        ∀ init last later, cs = init ++ last :: later → ¬ d.Rejects (buf ++ init.flatten) →
          d.Rejects (buf ++ (init ++ [last]).flatten) → d.Quiet later) from h hnil
  intro buf cs hbuf
  induction cs generalizing buf with
  | nil => simp [feed, drain_wait hbuf]
  | cons c cs ih =>
    have hfirst : ¬ d.Rejects buf := by simp [Rejects, drain_wait hbuf]
    rw [forall_split_cons, List.flatten_cons, ← List.append_assoc, drain_append]
    rcases hr : d.drain (buf ++ c) with ⟨as, _ | rest⟩
    · have hc : d.Rejects (buf ++ c) := by rw [Rejects, hr]
      have hmore : ∀ t, d.Rejects (buf ++ (c ++ t)) := by
        intro t
        rw [Rejects, ← List.append_assoc, drain_append, hr]
      have hcs : (d.feed none cs).1 = [] ↔ d.Quiet cs := by
        rw [feed_none]
        exact feed_eq_nil hnil
      simp [feed, hr, hfirst, hc, hmore, hcs]
    · have hc : ¬ d.Rejects (buf ++ c) := by simp [Rejects, hr]
      have hmore : ∀ t, d.Rejects (buf ++ (c ++ t)) ↔ d.Rejects (rest ++ t) := by
        intro t
        rw [Rejects, ← List.append_assoc, drain_append, hr, Rejects]
      have hrest := ih (decode_rest (s := buf ++ c) (by rw [hr]))
      simpa [feed, hr, hfirst, hc, hmore] using hrest

end StreamDecoder

end Foundation
