import Mathlib.Data.Set.Subsingleton
import Mathlib.Tactic.Common

/-!
# Tickets guarded by a flag

Work on a key is announced by a *ticket*: an entry of a shared queue, or something in the hands of
one of the parties. A flag per key says that a ticket is out, and a new ticket is only created by
setting the flag. Whoever holds the ticket of a key may work on it, so that at most one ticket per
key means that no two parties ever do.

The keys and the parties are arbitrary types; any number of parties take part.
-/

namespace Foundation.Ticket

variable {A H : Type*}

/-- The tickets of a state: those queued, those in hand, and the flags. -/
structure State (A H : Type*) where
  queue : List A
  held : H → Option A
  flag : A → Bool

/-- Where a ticket can be. -/
inductive Place (H : Type*)
  | queued (i : Nat)
  | inHand (h : H)

/-- The places of the tickets of `a`. -/
def places (s : State A H) (a : A) : Set (Place H)
  | .queued i => s.queue[i]? = some a
  | .inHand h => s.held h = some a

lemma places_nonempty_iff {s : State A H} {a : A} :
    (places s a).Nonempty ↔ a ∈ s.queue ∨ ∃ h, s.held h = some a := by
  constructor
  · rintro ⟨i | h, hp⟩
    · exact .inl (List.mem_of_getElem? hp)
    · exact .inr ⟨h, hp⟩
  · rintro (ha | ⟨h, hh⟩)
    · obtain ⟨i, hi⟩ := List.mem_iff_getElem?.mp ha
      exact ⟨.queued i, hi⟩
    · exact ⟨.inHand h, hh⟩

/-- What may happen to the tickets in one step. A ticket may get lost only where `lossy` allows. -/
inductive Step [DecidableEq A] [DecidableEq H] (lossy : A → Prop) (s : State A H) :
    State A H → Prop
  /-- Set the flag of a key and take its ticket. -/
  | acquire (h : H) (a : A) (hh : s.held h = none) (hf : s.flag a = false) :
      Step lossy s { s with held := Function.update s.held h (some a)
                            flag := Function.update s.flag a true }
  /-- Put the ticket in hand at the end of the queue. -/
  | enqueue (h : H) (a : A) (hh : s.held h = some a) :
      Step lossy s { s with queue := s.queue ++ [a], held := Function.update s.held h none }
  /-- Take the ticket at the front of the queue. -/
  | dequeue (h : H) (a : A) (rest : List A) (hh : s.held h = none) (hq : s.queue = a :: rest) :
      Step lossy s { s with queue := rest, held := Function.update s.held h (some a) }
  /-- Give the ticket up and clear the flag. -/
  | release (h : H) (a : A) (hh : s.held h = some a) :
      Step lossy s { s with held := Function.update s.held h none
                            flag := Function.update s.flag a false }
  /-- Lose the ticket with the flag still set. -/
  | drop (h : H) (a : A) (hh : s.held h = some a) (hl : lossy a) :
      Step lossy s { s with held := Function.update s.held h none }

/-- No key has two tickets, and a ticket comes with its flag. -/
structure Exclusive (s : State A H) : Prop where
  queue_nodup : s.queue.Nodup
  held_notMem : ∀ h a, s.held h = some a → a ∉ s.queue
  held_unique : ∀ h h' a, s.held h = some a → s.held h' = some a → h = h'
  queue_flag : ∀ a ∈ s.queue, s.flag a = true
  held_flag : ∀ h a, s.held h = some a → s.flag a = true

/-- Without tickets and with all flags down there is nothing to exclude. -/
lemma exclusive_of_empty {s : State A H} (hq : s.queue = []) (hh : ∀ h, s.held h = none) :
    Exclusive s where
  queue_nodup := by simp [hq]
  held_notMem := by simp [hh]
  held_unique := by simp [hh]
  queue_flag := by simp [hq]
  held_flag := by simp [hh]

namespace Exclusive

variable {s : State A H}

/-- At most one place has a ticket of `a`. -/
theorem places_subsingleton (hs : Exclusive s) (a : A) : (places s a).Subsingleton := by
  rintro (i | h) hp (j | h') hp'
  · have hp : s.queue[i]? = some a := hp
    have hp' : s.queue[j]? = some a := hp'
    obtain ⟨hi, -⟩ := List.getElem?_eq_some_iff.mp hp
    rw [(List.getElem?_inj hi hs.queue_nodup).mp (hp.trans hp'.symm)]
  · exact absurd (List.mem_of_getElem? hp) (hs.held_notMem h' a hp')
  · exact absurd (List.mem_of_getElem? hp') (hs.held_notMem h a hp)
  · rw [hs.held_unique h h' a hp hp']

/-- A key with a ticket has its flag set. -/
theorem flag_of_nonempty (hs : Exclusive s) {a : A} (ha : (places s a).Nonempty) :
    s.flag a = true := by
  obtain ⟨i | h, hp⟩ := ha
  · exact hs.queue_flag a (List.mem_of_getElem? hp)
  · exact hs.held_flag h a hp

/-- A key whose flag is down has no ticket. -/
lemma notMem_queue_of_flag (hs : Exclusive s) {a : A} (hf : s.flag a = false) : a ∉ s.queue := by
  intro ha
  simp [hs.queue_flag a ha] at hf

lemma held_ne_of_flag (hs : Exclusive s) {a : A} (hf : s.flag a = false) (h : H) :
    s.held h ≠ some a := by
  intro ha
  simp [hs.held_flag h a ha] at hf

end Exclusive

/-! ### Taking and giving up a ticket -/

section Update

variable [DecidableEq H] {held : H → Option A} {h h' : H} {a b : A}

lemma update_some_iff : Function.update held h (some a) h' = some b ↔
    (h' = h ∧ b = a) ∨ (h' ≠ h ∧ held h' = some b) := by
  by_cases e : h' = h
  · subst e
    simp [eq_comm]
  · simp [e]

lemma update_none_iff :
    Function.update held h none h' = some b ↔ h' ≠ h ∧ held h' = some b := by
  by_cases e : h' = h
  · subst e
    simp
  · simp [e]

/-- Taking a ticket nobody holds keeps the holders unique. -/
lemma unique_update_some (hu : ∀ h h' a, held h = some a → held h' = some a → h = h')
    (ha : ∀ h, held h ≠ some a) (h₁ h₂ : H) (b : A)
    (hb₁ : Function.update held h (some a) h₁ = some b)
    (hb₂ : Function.update held h (some a) h₂ = some b) : h₁ = h₂ := by
  rcases update_some_iff.mp hb₁ with ⟨e₁, rfl⟩ | ⟨-, hb₁⟩ <;>
    rcases update_some_iff.mp hb₂ with ⟨e₂, e⟩ | ⟨-, hb₂⟩
  · rw [e₁, e₂]
  · exact absurd hb₂ (ha h₂)
  · exact absurd (e ▸ hb₁) (ha h₁)
  · exact hu h₁ h₂ b hb₁ hb₂

lemma unique_update_none (hu : ∀ h h' a, held h = some a → held h' = some a → h = h')
    (h₁ h₂ : H) (b : A) (hb₁ : Function.update held h none h₁ = some b)
    (hb₂ : Function.update held h none h₂ = some b) : h₁ = h₂ :=
  hu h₁ h₂ b (update_none_iff.mp hb₁).2 (update_none_iff.mp hb₂).2

end Update

variable [DecidableEq A] [DecidableEq H] {lossy : A → Prop}

/-- Every step keeps the tickets exclusive. -/
theorem Step.exclusive {s t : State A H} (hst : Step lossy s t) (hs : Exclusive s) :
    Exclusive t := by
  cases hst with
  | acquire h a hh hf =>
    refine ⟨hs.queue_nodup, ?_, unique_update_some hs.held_unique (hs.held_ne_of_flag hf), ?_, ?_⟩
    · intro h' b hb
      rcases update_some_iff.mp hb with ⟨-, rfl⟩ | ⟨-, hb⟩
      · exact hs.notMem_queue_of_flag hf
      · exact hs.held_notMem h' b hb
    · intro b hb
      by_cases e : b = a
      · simp [e]
      · simpa [e] using hs.queue_flag b hb
    · intro h' b hb
      rcases update_some_iff.mp hb with ⟨-, rfl⟩ | ⟨-, hb⟩
      · simp
      · by_cases e : b = a
        · simp [e]
        · simpa [e] using hs.held_flag h' b hb
  | enqueue h a hh =>
    have hq := hs.held_notMem h a hh
    refine ⟨?_, ?_, unique_update_none hs.held_unique, ?_, ?_⟩
    · simpa [List.nodup_append, hs.queue_nodup] using fun b hb (e : b = a) => hq (e ▸ hb)
    · intro h' b hb
      obtain ⟨hne, hb⟩ := update_none_iff.mp hb
      have hba : b ≠ a := fun e => hne (hs.held_unique h' h b hb (e ▸ hh))
      simpa [hba] using hs.held_notMem h' b hb
    · intro b hb
      rcases List.mem_append.mp hb with hb | hb
      · exact hs.queue_flag b hb
      · exact List.mem_singleton.mp hb ▸ hs.held_flag h a hh
    · exact fun h' b hb => hs.held_flag h' b (update_none_iff.mp hb).2
  | dequeue h a rest hh hq =>
    have hnd := hs.queue_nodup
    rw [hq, List.nodup_cons] at hnd
    have hheld : ∀ h', s.held h' ≠ some a := fun h' ha => hs.held_notMem h' a ha (by simp [hq])
    refine ⟨hnd.2, ?_, unique_update_some hs.held_unique hheld, ?_, ?_⟩
    · intro h' b hb
      rcases update_some_iff.mp hb with ⟨-, rfl⟩ | ⟨-, hb⟩
      · exact hnd.1
      · exact fun hm => hs.held_notMem h' b hb (by simp [hq, hm])
    · exact fun b hb => hs.queue_flag b (by simp [hq, hb])
    · intro h' b hb
      rcases update_some_iff.mp hb with ⟨-, rfl⟩ | ⟨-, hb⟩
      · exact hs.queue_flag b (by simp [hq])
      · exact hs.held_flag h' b hb
  | release h a hh =>
    refine ⟨hs.queue_nodup, ?_, unique_update_none hs.held_unique, ?_, ?_⟩
    · exact fun h' b hb => hs.held_notMem h' b (update_none_iff.mp hb).2
    · intro b hb
      have hba : b ≠ a := fun e => hs.held_notMem h a hh (e ▸ hb)
      simpa [hba] using hs.queue_flag b hb
    · intro h' b hb
      obtain ⟨hne, hb⟩ := update_none_iff.mp hb
      have hba : b ≠ a := fun e => hne (hs.held_unique h' h b hb (e ▸ hh))
      simpa [hba] using hs.held_flag h' b hb
  | drop h a hh hl =>
    exact ⟨hs.queue_nodup, fun h' b hb => hs.held_notMem h' b (update_none_iff.mp hb).2,
      unique_update_none hs.held_unique, hs.queue_flag,
      fun h' b hb => hs.held_flag h' b (update_none_iff.mp hb).2⟩

/-! ### Flags that announce a ticket -/

/-- Where tickets do not get lost, a set flag keeps announcing one. -/
theorem Step.flag_announces {s t : State A H} (hst : Step lossy s t) {a : A} (ha : ¬ lossy a)
    (hs : s.flag a = true → (places s a).Nonempty) (hf : t.flag a = true) :
    (places t a).Nonempty := by
  simp only [places_nonempty_iff] at hs ⊢
  cases hst with
  | acquire h b hh hb =>
    by_cases e : a = b
    · exact .inr ⟨h, by simp [e]⟩
    · refine (hs (by simpa [e] using hf)).imp_right (Exists.imp fun h' hh' => ?_)
      exact update_some_iff.mpr (.inr ⟨fun e' => by simp [e', hh] at hh', hh'⟩)
  | enqueue h b hh =>
    rcases hs hf with hq | ⟨h', hh'⟩
    · exact .inl (List.mem_append_left _ hq)
    · by_cases e : h' = h
      · obtain rfl : b = a := by simpa [e, hh] using hh'
        exact .inl (by simp)
      · exact .inr ⟨h', update_none_iff.mpr ⟨e, hh'⟩⟩
  | dequeue h b rest hh hq =>
    rw [hq, List.mem_cons] at hs
    rcases hs hf with (rfl | hq) | ⟨h', hh'⟩
    · exact .inr ⟨h, by simp⟩
    · exact .inl hq
    · exact .inr ⟨h', update_some_iff.mpr (.inr ⟨fun e' => by simp [e', hh] at hh', hh'⟩)⟩
  | release h b hh =>
    have hab : a ≠ b := by
      rintro rfl
      simp at hf
    refine (hs (by simpa [hab] using hf)).imp_right (Exists.imp fun h' hh' => ?_)
    exact update_none_iff.mpr ⟨fun e' => hab (by simpa [e', hh, eq_comm] using hh'), hh'⟩
  | drop h b hh hl =>
    have hab : a ≠ b := fun e => ha (e ▸ hl)
    refine (hs hf).imp_right (Exists.imp fun h' hh' => ?_)
    exact update_none_iff.mpr ⟨fun e' => hab (by simpa [e', hh, eq_comm] using hh'), hh'⟩

end Foundation.Ticket
