import Mathlib.Logic.Function.Basic
import Balabala.Foundation.Machine

/-!
# Parties that take one message at a time

A party has a mailbox for urgent messages and one for the others. It takes a message, works on it,
and is idle again. The other mailbox is for a party that has looked into the urgent one and found
nothing.

Who does the work, and how a party that has messages is found, is not said here.
-/

namespace Foundation

/-- What a party is doing. -/
inductive Party.Turn
  | idle
  /-- has found no urgent message -/
  | looked
  /-- has a message in hand -/
  | busy
  deriving DecidableEq

/-- When a message is taken: an urgent one out of rest, another one after the look. -/
def Party.Turn.before : Bool → Party.Turn
  | true => .idle
  | false => .looked

/-- A party, with what it has received and taken so far; `true` is for urgent messages. -/
structure Party (M : Type*) where
  mailbox : Bool → List M
  received : Bool → List M
  taken : Bool → List M
  turn : Party.Turn

namespace Party

variable {A M : Type*}

inductive Action (M : Type*)
  | receive (urgent : Bool) (m : M)
  | look
  | take (urgent : Bool)
  /-- nothing in the other mailbox either -/
  | giveUp
  | finish

def receive (c : Party M) (urgent : Bool) (m : M) : Party M :=
  { c with
    mailbox := Function.update c.mailbox urgent (c.mailbox urgent ++ [m])
    received := Function.update c.received urgent (c.received urgent ++ [m]) }

/-- The message `m` is at the front. -/
def takeFront (c : Party M) (urgent : Bool) (m : M) (rest : List M) : Party M :=
  { c with
    mailbox := Function.update c.mailbox urgent rest
    taken := Function.update c.taken urgent (c.taken urgent ++ [m])
    turn := .busy }

def next (c : Party M) : Action M → Option (Party M)
  | .receive urgent m => some (c.receive urgent m)
  | .look => if c.turn = .idle ∧ c.mailbox true = [] then some { c with turn := .looked } else none
  | .take urgent =>
    if c.turn = .before urgent then
      match c.mailbox urgent with
      | [] => none
      | m :: rest => some (c.takeFront urgent m rest)
    else none
  | .giveUp =>
    if c.turn = .looked ∧ c.mailbox false = [] then some { c with turn := .idle } else none
  | .finish => if c.turn = .busy then some { c with turn := .idle } else none

def fresh : Party M where
  mailbox := fun _ => []
  received := fun _ => []
  taken := fun _ => []
  turn := .idle

/-- Any number of parties. -/
def machine (A M : Type*) [DecidableEq A] : Machine (A → Party M) (A × Action M) where
  init := (· = fun _ => fresh)
  next x l := ((x l.1).next l.2).map (Function.update x l.1)

/-! ### One step -/

inductive Step (c : Party M) : Party M → Prop
  | receive (urgent : Bool) (m : M) : Step c (c.receive urgent m)
  | look (ht : c.turn = .idle) (he : c.mailbox true = []) : Step c { c with turn := .looked }
  | take (urgent : Bool) (m : M) (rest : List M) (ht : c.turn = .before urgent)
      (hm : c.mailbox urgent = m :: rest) : Step c (c.takeFront urgent m rest)
  | rest (ht : c.turn ≠ .idle) : Step c { c with turn := .idle }

lemma Step.of_next {c c' : Party M} {l : Action M} (h : c.next l = some c') : Step c c' := by
  cases l with
  | receive urgent m =>
    cases h
    exact .receive urgent m
  | look =>
    rw [next] at h
    split_ifs at h with hl
    cases h
    exact .look hl.1 hl.2
  | take urgent =>
    rw [next] at h
    split_ifs at h with ht
    split at h
    · cases h
    · rename_i m rest hm
      cases h
      exact .take urgent m rest ht hm
  | giveUp =>
    rw [next] at h
    split_ifs at h with hl
    cases h
    exact .rest (by simp [hl.1])
  | finish =>
    rw [next] at h
    split_ifs at h with hl
    cases h
    exact .rest (by simp [hl])

variable [DecidableEq A] {x x' : A → Party M} {l : A × Action M}

/-- A step is a step of one of the parties. -/
lemma step_of_next (h : (machine A M).next x l = some x') (a : A) :
    x' a = x a ∨ Step (x a) (x' a) := by
  obtain ⟨c, hc, rfl⟩ := Option.map_eq_some_iff.mp h
  by_cases ha : a = l.1
  · subst ha
    rw [Function.update_self]
    exact .inr (.of_next hc)
  · exact .inl (Function.update_of_ne ha _ _)

lemma run_one {a : A} {act : Action M} {c : Party M} (h : (x a).next act = some c) :
    (machine A M).run x [(a, act)] = some (Function.update x a c) := by
  simp [Machine.run, machine, h]

/-! ### Whole runs -/

lemma Step.taken_prefix {c c' : Party M} (h : Step c c') (u : Bool) : c.taken u <+: c'.taken u := by
  cases h with
  | receive | look | rest => exact List.prefix_refl _
  | take urgent m rest =>
    by_cases hu : u = urgent
    · subst hu
      simp [takeFront]
    · simp [takeFront, hu]

lemma taken_prefix_of_run {ls : List (A × Action M)} (hr : (machine A M).run x ls = some x') (a : A)
    (u : Bool) : (x a).taken u <+: (x' a).taken u := by
  refine Machine.run_invariant (P := fun y => (x a).taken u <+: (y a).taken u) ?_
    (List.prefix_refl _) hr
  intro y l y' hy hs
  rcases step_of_next hs a with heq | hstep
  · rw [heq]
    exact hy
  · exact hy.trans (hstep.taken_prefix u)

/-- With an urgent message there, the next one taken is urgent. -/
lemma Step.urgent {c c' : Party M} (h : Step c c') (hurgent : c.mailbox true ≠ [])
    (hturn : c.turn ≠ .looked) : c'.taken true ≠ c.taken true ∨
      (c'.mailbox true ≠ [] ∧ c'.turn ≠ .looked ∧ c'.taken = c.taken) := by
  cases h with
  | receive urgent m =>
    refine .inr ⟨?_, hturn, rfl⟩
    cases urgent
    · simpa [Party.receive] using hurgent
    · simp [Party.receive]
  | look ht he => exact absurd he hurgent
  | take urgent m rest ht =>
    cases urgent with
    | true =>
      left
      simp [takeFront]
    | false => exact absurd ht hturn
  | rest => exact .inr ⟨hurgent, by rintro ⟨⟩, rfl⟩

/-- A party that has an urgent message takes none of the others before it has taken an urgent one,
unless it has found no urgent message before. -/
theorem takes_urgent_first {ls : List (A × Action M)} {a : A}
    (hr : (machine A M).run x ls = some x') (hurgent : (x a).mailbox true ≠ [])
    (hturn : (x a).turn ≠ .looked)
    (htaken : (x' a).taken true = (x a).taken true) : (x' a).taken false = (x a).taken false := by
  induction ls generalizing x with
  | nil =>
    obtain rfl : x = x' := by simpa using hr
    rfl
  | cons l ls ih =>
    obtain ⟨y, hy, hr⟩ := Option.bind_eq_some_iff.mp hr
    rcases step_of_next hy a with heq | hstep
    · rw [← heq] at hurgent hturn htaken ⊢
      exact ih hr hurgent hturn htaken
    · rcases hstep.urgent hurgent hturn with hne | ⟨hurgent, hturn, heq⟩
      · have hback : (y a).taken true <+: (x a).taken true := htaken ▸ taken_prefix_of_run hr a true
        exact absurd (hback.eq_of_length_le (hstep.taken_prefix true).length_le) hne
      · rw [← heq] at htaken ⊢
        exact ih hr hurgent hturn htaken

end Party

end Foundation
