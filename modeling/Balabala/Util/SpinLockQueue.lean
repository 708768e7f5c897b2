import Mathlib.Data.List.Basic

/-!
# The spin-lock queue

`SpinLockQueue` guards a `std::queue` by a spin lock, so that `push`, `pop` and `empty` are atomic.
The model carries the history of the queue with its contents: what was pushed is what was popped
followed by what is still inside. Every operation keeps this, and it is a field of the type, so no
later proof has to track single elements through a queue.
-/

namespace Balabala

/-- A queue together with all elements ever pushed and popped, oldest first. -/
structure SpinLockQueue (α : Type*) where
  queue : List α
  pushed : List α
  popped : List α
  conserved : pushed = popped ++ queue

namespace SpinLockQueue

variable {α : Type*}

/-- The freshly constructed queue. -/
def mk' : SpinLockQueue α := ⟨[], [], [], rfl⟩

def push (q : SpinLockQueue α) (value : α) : SpinLockQueue α where
  queue := q.queue ++ [value]
  pushed := q.pushed ++ [value]
  popped := q.popped
  conserved := by rw [q.conserved, List.append_assoc]

/-- `std::nullopt` on an empty queue, else its front. -/
def pop (q : SpinLockQueue α) : Option (α × SpinLockQueue α) :=
  match h : q.queue with
  | [] => none
  | value :: rest => some (value,
    { queue := rest, pushed := q.pushed, popped := q.popped ++ [value],
      conserved := by rw [q.conserved, h, List.append_assoc]; rfl })

def empty (q : SpinLockQueue α) : Bool := q.queue.isEmpty

def size (q : SpinLockQueue α) : Nat := q.queue.length

/-! ### What the operations do to contents and history -/

@[simp] lemma queue_mk' : (mk' : SpinLockQueue α).queue = [] := rfl
@[simp] lemma pushed_mk' : (mk' : SpinLockQueue α).pushed = [] := rfl
@[simp] lemma popped_mk' : (mk' : SpinLockQueue α).popped = [] := rfl

@[simp] lemma queue_push (q : SpinLockQueue α) (a : α) : (q.push a).queue = q.queue ++ [a] := rfl
@[simp] lemma pushed_push (q : SpinLockQueue α) (a : α) :
    (q.push a).pushed = q.pushed ++ [a] := rfl
@[simp] lemma popped_push (q : SpinLockQueue α) (a : α) : (q.push a).popped = q.popped := rfl

@[simp] lemma empty_eq_true {q : SpinLockQueue α} : q.empty = true ↔ q.queue = [] :=
  List.isEmpty_iff

@[simp] lemma empty_eq_false {q : SpinLockQueue α} : q.empty = false ↔ q.queue ≠ [] := by
  simp [empty]

/-- A successful `pop` moves the front from the contents to the history. -/
lemma pop_eq_some {q q' : SpinLockQueue α} {a : α} (h : q.pop = some (a, q')) :
    q.queue = a :: q'.queue ∧ q'.pushed = q.pushed ∧ q'.popped = q.popped ++ [a] := by
  obtain ⟨queue, pushed, popped, hc⟩ := q
  cases queue with
  | nil => simp [pop] at h
  | cons b rest =>
    simp only [pop, Option.some.injEq, Prod.mk.injEq] at h
    obtain ⟨rfl, rfl⟩ := h
    exact ⟨rfl, rfl, rfl⟩

/-- Only an empty queue has no front. -/
lemma pop_eq_none {q : SpinLockQueue α} (h : q.pop = none) : q.queue = [] := by
  obtain ⟨queue, pushed, popped, hc⟩ := q
  cases queue with
  | nil => rfl
  | cons b rest => simp [pop] at h

/-- Of a drained queue every element was popped, once, in the order of the pushes. -/
lemma popped_eq_pushed {q : SpinLockQueue α} (h : q.queue = []) : q.popped = q.pushed := by
  rw [q.conserved, h, List.append_nil]

end SpinLockQueue

end Balabala
