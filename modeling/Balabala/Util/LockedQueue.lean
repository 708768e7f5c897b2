import Balabala.Foundation.Guarded
import Balabala.Util.SpinLockQueue

/-!
# The code of the spin-lock queue

The other modules take `push`, `pop`, `empty` and `size` for single steps. Here they are what the
source has: a `SpinLock`, whose `lock` tests and sets a flag until it was clear, and in between a
`std::queue` that `pop` asks whether it is empty, moves the front out of, and removes the front
from. A cell whose element was moved out is `none`.

Whatever threads do at the same time, the calls and returns are those of the atomic queue.
-/

namespace Balabala

open Foundation

namespace SpinLockQueue

variable {α Tid : Type*}

inductive Op (α : Type*)
  | push (value : α)
  | pop
  | empty
  | size

/-- What the operations return; `value none` is an element that was moved out before. -/
inductive Ret (α : Type*)
  | pushed
  | nullopt
  | value (cell : Option α)
  | isEmpty (b : Bool)
  | length (n : Nat)
  deriving DecidableEq

/-- The accesses to the `std::queue`. -/
inductive Loc (α : Type*)
  | push (value : α)
  /-- `queue.empty()` in `pop` -/
  | testEmpty
  /-- `std::move(queue.front())` -/
  | moveFront
  /-- `queue.pop()` -/
  | popFront (value : Option α)
  | empty
  | size

/-- The code between `lock()` and `unlock()`. -/
def code : CriticalSection (List (Option α)) (Op α) (Loc α) (Ret α) where
  enter
    | .push value => .push value
    | .pop => .testEmpty
    | .empty => .empty
    | .size => .size
  access
    | .push value, queue => (.inr .pushed, queue ++ [some value])
    | .testEmpty, queue =>
      if queue.isEmpty then (.inr .nullopt, queue) else (.inl .moveFront, queue)
    | .moveFront, queue => (.inl (.popFront queue.head?.join), none :: queue.tail)
    | .popFront value, queue => (.inr (.value value), queue.tail)
    | .empty, queue => (.inr (.isEmpty queue.isEmpty), queue)
    | .size, queue => (.inr (.length queue.length), queue)

/-- The operations of the atomic queue. -/
def perform : Op α → SpinLockQueue α → Ret α × SpinLockQueue α
  | .push value, q => (.pushed, q.push value)
  | .pop, q =>
    match q.pop with
    | none => (.nullopt, q)
    | some (value, q') => (.value (some value), q')
  | .empty, q => (.isEmpty q.empty, q)
  | .size, q => (.length q.size, q)

/-- No element of the `std::queue` was moved out. -/
def Holds (cells : List (Option α)) (q : SpinLockQueue α) : Prop := cells = q.queue.map some

variable {start cells : List (Option α)} {op : Op α} {loc : Loc α} {q : SpinLockQueue α}

/-- Where an operation may be, and what it has done to the `std::queue`. -/
lemma gets_cases (h : code.Gets op start loc cells) :
    (loc = code.enter op ∧ cells = start) ∨
      (op = .pop ∧ loc = .moveFront ∧ cells = start ∧ start ≠ []) ∨
      (op = .pop ∧ loc = .popFront start.head?.join ∧ cells = none :: start.tail ∧
        start ≠ []) := by
  induction h with
  | enter => exact .inl ⟨rfl, rfl⟩
  | access h ha ih =>
    rcases ih with ⟨rfl, rfl⟩ | ⟨rfl, rfl, rfl, hne⟩ | ⟨rfl, rfl, rfl, hne⟩
    · cases op <;> simp only [code] at ha
      case pop =>
        split_ifs at ha with hempty
        · cases ha
        · cases ha
          exact .inr (.inl ⟨rfl, rfl, rfl, by simpa using hempty⟩)
      all_goals cases ha
    · cases ha
      exact .inr (.inr ⟨rfl, rfl, rfl, hne⟩)
    · cases ha

/-- What the atomic `pop` does, by what the `std::queue` holds. -/
lemma perform_pop (habs : Holds cells q) :
    (cells = [] ∧ perform .pop q = (.nullopt, q)) ∨
      ∃ value q', cells = some value :: q'.queue.map some ∧
        perform .pop q = (.value (some value), q') := by
  rw [Holds] at habs
  cases hpop : q.pop with
  | none => exact .inl ⟨by rw [habs, pop_eq_none hpop]; rfl, by simp [perform, hpop]⟩
  | some r =>
    obtain ⟨value, q'⟩ := r
    obtain ⟨hqueue, -, -⟩ := pop_eq_some hpop
    exact .inr ⟨value, q', by rw [habs, hqueue]; rfl, by simp [perform, hpop]⟩

/-- Run alone, the code of an operation does what the atomic operation does. -/
theorem code_implements : (code (α := α)).Implements Holds perform := by
  intro op start q loc cells r cells' habs hgets ha
  rcases gets_cases hgets with ⟨rfl, rfl⟩ | ⟨rfl, rfl, rfl, hne⟩ | ⟨rfl, rfl, rfl, hne⟩
  · rw [Holds] at habs
    cases op with
    | push value =>
      cases ha
      exact ⟨rfl, by simp [Holds, perform, habs]⟩
    | pop =>
      simp only [code] at ha
      split_ifs at ha with hempty
      · cases ha
        rcases perform_pop habs with ⟨-, hperform⟩ | ⟨value, q', hcells, -⟩
        · rw [hperform]
          exact ⟨rfl, habs⟩
        · rw [hcells] at hempty
          cases hempty
      · cases ha
    | empty =>
      cases ha
      exact ⟨by simp [perform, habs, SpinLockQueue.empty], habs⟩
    | size =>
      cases ha
      exact ⟨by simp [perform, habs, SpinLockQueue.size], habs⟩
  · cases ha
  · cases ha
    rcases perform_pop habs with ⟨hnil, -⟩ | ⟨value, q', hcells, hperform⟩
    · exact absurd hnil hne
    · rw [hperform, hcells]
      exact ⟨rfl, rfl⟩

/-- No operation makes more than three accesses. -/
lemma code_finishes : (code (α := α)).Finishes := by
  intro loc cells
  refine ⟨3, ?_⟩
  cases loc with
  | testEmpty => cases cells <;> rfl
  | _ => rfl

variable [DecidableEq Tid]

/-- Whatever threads call `push`, `pop`, `empty` and `size` at the same time, the calls and returns
are a history of the atomic queue. Never are two threads inside the lock, and when none is in the
middle of an operation the `std::queue` has the elements of the atomic queue. -/
theorem linearizable {s : Guarded (List (Option α)) (Op α) (Loc α) (Ret α) Tid}
    (h : (Guarded.machine code []).Reachable s) :
    (∀ t t', (s.place t).Holding → (s.place t').Holding → t = t') ∧
      ∃ x, (Atomic.machine perform (mk' : SpinLockQueue α)).Reachable x ∧
        x.history = s.history ∧
        ((∀ t op loc, s.place t ≠ .inside op loc) → s.shared = x.shared.queue.map some) := by
  obtain ⟨x, hx, hr⟩ := Guarded.refinement (mk' : SpinLockQueue α) code_implements rfl h
  exact ⟨hr.exclusive.one, x, hx, hr.history, hr.between⟩

/-- A thread that waits for the lock is not shut out for good: the thread that holds it can finish
its operation alone, and then the lock can be taken. -/
theorem lock_available {s : Guarded (List (Option α)) (Op α) (Loc α) (Ret α) Tid}
    (h : (Guarded.machine code []).Reachable s) :
    ∀ t op, s.place t = .locking op → ∃ ls s', (Guarded.machine code []).run s ls = some s' ∧
      s'.place t = .inside op (code.enter op) ∧ s'.history = s.history := by
  intro t op ht
  obtain ⟨x, -, hr⟩ := Guarded.refinement (mk' : SpinLockQueue α) code_implements rfl h
  exact Guarded.can_enter code_finishes hr.exclusive ht

/-- One thread is in the middle of `pop`, and the other waits for the lock. -/
def popAndPush : List (Guarded.Action (Op Nat) Bool) :=
  [.call true (.push 7), .testAndSet true, .access true, .clear true, .ret true, .call true .pop,
    .testAndSet true, .access true, .access true, .call false (.push 8), .testAndSet false]

example : ((Guarded.machine code []).run (Guarded.start []) popAndPush).map (·.shared) =
    some [none] := by decide

theorem linearizable_popAndPush :
    let s := (Guarded.machine code []).replay (Guarded.start []) popAndPush
    (∀ t t', (s.place t).Holding → (s.place t').Holding → t = t') ∧
      ∃ x, (Atomic.machine perform (mk' : SpinLockQueue Nat)).Reachable x ∧
        x.history = s.history ∧
        ((∀ t op loc, s.place t ≠ .inside op loc) → s.shared = x.shared.queue.map some) :=
  linearizable (Machine.reachable_replay (.start rfl) popAndPush)

theorem lock_available_popAndPush :
    let s := (Guarded.machine code []).replay (Guarded.start []) popAndPush
    ∀ t op, s.place t = .locking op → ∃ ls s', (Guarded.machine code []).run s ls = some s' ∧
      s'.place t = .inside op (code.enter op) ∧ s'.history = s.history :=
  lock_available (Machine.reachable_replay (.start rfl) popAndPush)

end SpinLockQueue

end Balabala
