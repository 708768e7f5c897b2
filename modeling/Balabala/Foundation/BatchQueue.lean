import Mathlib.Data.List.Basic

/-!
# Queues emptied in batches

Elements are pushed at the end of a queue. Its one consumer takes the whole queue as a batch and
then works through the batch, while more elements are pushed behind its back.

The histories of the pushes and of the elements that were begun are part of the queue. Between them
nothing gets lost, doubled or out of order, which is a field of the type.
-/

namespace Foundation

/-- What waits in the queue and in the batch, and what was ever pushed and begun. -/
structure BatchQueue (α : Type*) where
  pending : List α
  batch : List α
  pushed : List α
  begun : List α
  conserved : pushed = begun ++ batch ++ pending

namespace BatchQueue

variable {α : Type*}

def empty : BatchQueue α := ⟨[], [], [], [], by simp⟩

def push (q : BatchQueue α) (a : α) : BatchQueue α where
  pending := q.pending ++ [a]
  batch := q.batch
  pushed := q.pushed ++ [a]
  begun := q.begun
  conserved := by rw [q.conserved, List.append_assoc]

/-- Take what waits in the queue behind what is left of the batch. -/
def swap (q : BatchQueue α) : BatchQueue α where
  pending := []
  batch := q.batch ++ q.pending
  pushed := q.pushed
  begun := q.begun
  conserved := by rw [q.conserved, List.append_nil, List.append_assoc]

/-- Begin the next element of the batch. -/
def begin (q : BatchQueue α) : Option (α × BatchQueue α) :=
  match h : q.batch with
  | [] => none
  | a :: rest => some (a,
    { pending := q.pending
      batch := rest
      pushed := q.pushed
      begun := q.begun ++ [a]
      conserved := by rw [q.conserved, h, List.append_assoc q.begun [a], List.singleton_append] })

/-! ### What the operations do -/

@[simp] lemma pending_empty : (empty : BatchQueue α).pending = [] := rfl
@[simp] lemma batch_empty : (empty : BatchQueue α).batch = [] := rfl

variable (q : BatchQueue α) (a : α)

@[simp] lemma pending_push : (q.push a).pending = q.pending ++ [a] := rfl
@[simp] lemma batch_push : (q.push a).batch = q.batch := rfl
@[simp] lemma pending_swap : q.swap.pending = [] := rfl
@[simp] lemma batch_swap : q.swap.batch = q.batch ++ q.pending := rfl

variable {q a}

/-- A successful `begin` moves the front of the batch to the history. -/
lemma begin_eq_some {q' : BatchQueue α} (h : q.begin = some (a, q')) :
    q.batch = a :: q'.batch ∧ q'.pending = q.pending ∧ q'.pushed = q.pushed ∧
      q'.begun = q.begun ++ [a] := by
  obtain ⟨pending, batch, pushed, begun, hc⟩ := q
  cases batch with
  | nil => simp [begin] at h
  | cons b rest =>
    simp only [begin, Option.some.injEq, Prod.mk.injEq] at h
    obtain ⟨rfl, rfl⟩ := h
    exact ⟨rfl, rfl, rfl, rfl⟩

/-! ### Positions

The `i`th element that was pushed is the `i`th that is begun. -/

/-- How many elements were taken out of the queue, the current batch included. -/
def taken (q : BatchQueue α) : Nat := q.begun.length + q.batch.length

@[simp] lemma taken_swap : q.swap.taken = q.pushed.length := by
  rw [taken, batch_swap, q.conserved, List.length_append, List.length_append, List.length_append,
    Nat.add_assoc]
  rfl

lemma taken_begin {q' : BatchQueue α} (h : q.begin = some (a, q')) : q'.taken = q.taken := by
  obtain ⟨hbatch, -, -, hbegun⟩ := begin_eq_some h
  simp only [taken, hbatch, hbegun, List.length_append, List.length_cons, List.length_nil]
  omega

lemma getElem?_begun {i : Nat} (h : i < q.begun.length) : q.begun[i]? = q.pushed[i]? := by
  rw [q.conserved, List.append_assoc, List.getElem?_append_left h]

end BatchQueue

end Foundation
