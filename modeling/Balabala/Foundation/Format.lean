import Mathlib.Data.List.Basic
import Mathlib.Data.Nat.Digits.Defs

/-!
# Formats and readers

A format relates values to the words that stand for them, a reader takes a value off the front of
its input. A reader reads a format when it succeeds on exactly the inputs that begin with a word of
the format, and returns the value of that word and what comes after it.

Here are the formats of numbers with a fixed number of bytes and of strings that follow their
length, and the pointers that walk through a memory in place of an input that gets shorter.
-/

namespace Foundation

/-- The words that stand for a value. -/
abbrev Format (β α : Type*) := α → List β → Prop

/-- What is taken off the front of the input, and the rest of it. -/
abbrev Reader (β α : Type*) := List β → Option (α × List β)

variable {β α γ : Type*}

def Reader.Reads (r : Reader β α) (F : Format β α) : Prop :=
  ∀ s a rest, r s = some (a, rest) ↔ ∃ w, F a w ∧ w ++ rest = s

section Reads

variable {r : Reader β α} {F : Format β α}

/-- Reading on after a value. -/
lemma Reader.Reads.bind_eq_some (h : r.Reads F) {s : List β} {k : α × List β → Option γ} {c : γ} :
    (r s).bind k = some c ↔ ∃ a w rest, F a w ∧ w ++ rest = s ∧ k (a, rest) = some c := by
  rw [Option.bind_eq_some_iff]
  constructor
  · rintro ⟨⟨a, rest⟩, hr, hk⟩
    obtain ⟨w, hw, hs⟩ := (h s a rest).mp hr
    exact ⟨a, w, rest, hw, hs, hk⟩
  · rintro ⟨a, w, rest, hw, hs, hk⟩
    exact ⟨(a, rest), (h s a rest).mpr ⟨w, hw, hs⟩, hk⟩

end Reads

/-! ### Numbers -/

/-- The number that bytes stand for, the most significant one first. -/
def bigEndian (w : List UInt8) : Nat := Nat.ofDigits 256 (w.reverse.map UInt8.toNat)

/-- The numbers of `k` bytes. -/
def Format.number (k : Nat) : Format UInt8 Nat := fun n w => w.length = k ∧ bigEndian w = n

def Reader.number (k : Nat) : Reader UInt8 Nat := fun s =>
  if s.length < k then none else some (bigEndian (s.take k), s.drop k)

lemma Reader.reads_number (k : Nat) : (Reader.number k).Reads (Format.number k) := by
  intro s n rest
  rw [Reader.number]
  constructor
  · intro h
    split_ifs at h with hk
    obtain ⟨rfl, rfl⟩ : bigEndian (s.take k) = n ∧ s.drop k = rest := by simpa using h
    exact ⟨s.take k, ⟨List.length_take_of_le (Nat.not_lt.mp hk), rfl⟩, List.take_append_drop k s⟩
  · rintro ⟨w, ⟨rfl, rfl⟩, rfl⟩
    rw [if_neg (by simp), List.take_left, List.drop_left]

lemma Format.number_lt {k n : Nat} {w : List UInt8} (h : Format.number k n w) : n < 256 ^ k := by
  obtain ⟨rfl, rfl⟩ := h
  have hdigit : ∀ d ∈ w.reverse.map UInt8.toNat, d < 256 := by
    intro d hd
    obtain ⟨b, -, rfl⟩ := List.mem_map.mp hd
    exact b.toNat_lt
  have := Nat.ofDigits_lt_base_pow_length (by decide) hdigit
  rwa [List.length_map, List.length_reverse] at this

/-! ### Strings after their lengths -/

/-- The word for the length, and the string itself. -/
def Format.counted (N : Format β Nat) : Format β (List β) :=
  fun a w => ∃ v, N a.length v ∧ w = v ++ a

def Reader.counted (r : Reader β Nat) : Reader β (List β) := fun s =>
  (r s).bind fun x => if x.2.length < x.1 then none else some (x.2.take x.1, x.2.drop x.1)

lemma Reader.Reads.counted {r : Reader β Nat} {N : Format β Nat} (h : r.Reads N) :
    r.counted.Reads N.counted := by
  intro s a rest
  rw [Reader.counted]
  rw [h.bind_eq_some]
  constructor
  · rintro ⟨n, v, p, hv, rfl, hk⟩
    dsimp only at hk
    split_ifs at hk with hlen
    obtain ⟨rfl, rfl⟩ : p.take n = a ∧ p.drop n = rest := by simpa using hk
    refine ⟨v ++ p.take n, ⟨v, ?_, rfl⟩, ?_⟩
    · rwa [List.length_take_of_le (Nat.not_lt.mp hlen)]
    · rw [List.append_assoc, List.take_append_drop]
  · rintro ⟨w, ⟨v, hv, rfl⟩, rfl⟩
    refine ⟨a.length, v, a ++ rest, hv, (List.append_assoc v a rest).symm, ?_⟩
    dsimp only
    rw [if_neg (by simp), List.take_left, List.drop_left]

/-! ### Pointers into a memory -/

/-- What is between the pointer `p` and `last`. -/
def window (mem : List β) (last p : Nat) : List β := (mem.take last).drop p

/-- A reader with a pointer, up to `last`, does what a reader of the window does. Its result has an
outer `none` for a read outside of the memory, and an inner one for a failure. -/
def Walks (mem : List β) (last : Nat) (c : Option (Option (α × Nat))) (r : Option (α × List β)) :
    Prop :=
  (c = some none ∧ r = none) ∨
    ∃ a p, p ≤ last ∧ c = some (some (a, p)) ∧ r = some (a, window mem last p)

section Window

variable {mem : List β} {last p : Nat}

lemma length_window (hlast : last ≤ mem.length) : (window mem last p).length = last - p := by
  rw [window, List.length_drop, List.length_take_of_le hlast]

lemma drop_window (n : Nat) : (window mem last p).drop n = window mem last (p + n) := by
  rw [window, List.drop_drop, window]

/-- The first element of a window that is not empty. -/
lemma exists_window_cons (hlast : last ≤ mem.length) (h : p < last) :
    ∃ b, mem[p]? = some b ∧ window mem last p = b :: window mem last (p + 1) := by
  have hp : p < (mem.take last).length := by
    rw [List.length_take_of_le hlast]
    exact h
  refine ⟨mem[p], List.getElem?_eq_getElem _, ?_⟩
  rw [window, List.drop_eq_getElem_cons hp, List.getElem_take]
  rfl

/-- Copying from the memory what is within the window. -/
lemma take_window {n : Nat} (h : p + n ≤ last) :
    (window mem last p).take n = (mem.drop p).take n := by
  rw [window, List.drop_take, List.take_take, Nat.min_eq_left]
  omega

/-- Reading on through the pointer, or failing, does what reading on in the window does. -/
lemma Walks.bind {c : Option (Option (α × Nat))} {r : Option (α × List β)} (h : Walks mem last c r)
    {k : Option (α × Nat) → Option (Option γ)} {k' : α × List β → Option γ}
    (hfail : k none = some none)
    (hread : ∀ a p, p ≤ last → k (some (a, p)) = some (k' (a, window mem last p))) :
    c.bind k = some (r.bind k') := by
  obtain ⟨rfl, rfl⟩ | ⟨a, p, hp, rfl, rfl⟩ := h
  · exact hfail
  · exact hread a p hp

lemma Walks.fail : Walks mem last (some none) (none : Option (α × List β)) := .inl ⟨rfl, rfl⟩

lemma Walks.read {a : α} (h : p ≤ last) :
    Walks mem last (some (some (a, p))) (some (a, window mem last p)) :=
  .inr ⟨a, p, h, rfl, rfl⟩

end Window

end Foundation
