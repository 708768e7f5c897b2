import Mathlib.Logic.Function.Basic
import Balabala.Foundation.Machine

/-!
# Objects behind a lock

The operations of a shared object run one access at a time, all of them between taking a lock and
giving it back. The lock is a flag that is tested and set in one step; a thread that finds it set
tries again.

An operation called by one thread may overlap with any number of operations of other threads. When
the code of each operation, run alone, does what an atomic operation does, then every history of
calls and returns is a history of the atomic object, where each operation takes place in one step
between its call and its return.
-/

namespace Foundation

/-- The code of the operations: where each starts, and what the access at a place does, after which
the operation goes on or has its result. -/
structure CriticalSection (σ Op Loc Ret : Type*) where
  enter : Op → Loc
  access : Loc → σ → (Loc ⊕ Ret) × σ

namespace CriticalSection

variable {σ Op Loc Ret α : Type*} (c : CriticalSection σ Op Loc Ret)

/-- The operation, started in `start`, may be at this place with the object in this state. -/
inductive Gets (op : Op) (start : σ) : Loc → σ → Prop
  | enter : Gets op start (c.enter op) start
  | access {loc loc' : Loc} {s s' : σ} (h : Gets op start loc s)
      (ha : c.access loc s = (.inl loc', s')) : Gets op start loc' s'

/-- Run alone, every operation does what the atomic operation `f` does. -/
def Implements (abs : σ → α → Prop) (f : Op → α → Ret × α) : Prop :=
  ∀ op start a loc s r s', abs start a → c.Gets op start loc s →
    c.access loc s = (.inr r, s') → (f op a).1 = r ∧ abs s' (f op a).2

/-- The result of an operation that is run alone for so many accesses at most. -/
def finish : Nat → Loc → σ → Option (Ret × σ)
  | 0, _, _ => none
  | n + 1, loc, s =>
    match c.access loc s with
    | (.inl loc', s') => finish n loc' s'
    | (.inr r, s') => some (r, s')

/-- No operation goes on forever. -/
def Finishes : Prop := ∀ loc s, ∃ n, (c.finish n loc s).isSome

end CriticalSection

/-- Calls and returns. -/
inductive Event (Tid Op Ret : Type*)
  | call (t : Tid) (op : Op)
  | ret (t : Tid) (r : Ret)
  deriving DecidableEq

/-! ### The object behind the lock -/

/-- Where a thread is: about to test and set the flag, at an access, about to clear the flag, or
about to return. -/
inductive Place (Op Loc Ret : Type*)
  | idle
  | locking (op : Op)
  | inside (op : Op) (loc : Loc)
  | unlocking (r : Ret)
  | returning (r : Ret)

/-- The thread holds the lock. -/
def Place.Holding {Op Loc Ret : Type*} : Place Op Loc Ret → Prop
  | .inside _ _ | .unlocking _ => True
  | .idle | .locking _ | .returning _ => False

structure Guarded (σ Op Loc Ret Tid : Type*) where
  shared : σ
  flag : Bool
  place : Tid → Place Op Loc Ret
  history : List (Event Tid Op Ret)

namespace Guarded

variable {σ Op Loc Ret Tid : Type*} [DecidableEq Tid]

inductive Action (Op Tid : Type*)
  | call (t : Tid) (op : Op)
  | testAndSet (t : Tid)
  | access (t : Tid)
  | clear (t : Tid)
  | ret (t : Tid)

/-- A thread moves on. -/
def moved (s : Guarded σ Op Loc Ret Tid) (t : Tid) (p : Place Op Loc Ret) :
    Guarded σ Op Loc Ret Tid :=
  { s with place := Function.update s.place t p }

def next (c : CriticalSection σ Op Loc Ret) (s : Guarded σ Op Loc Ret Tid) :
    Action Op Tid → Option (Guarded σ Op Loc Ret Tid)
  | .call t op =>
    match s.place t with
    | .idle => some { s.moved t (.locking op) with history := s.history ++ [.call t op] }
    | _ => none
  | .testAndSet t =>
    match s.place t with
    | .locking op =>
      if s.flag then some s
      else some { s.moved t (.inside op (c.enter op)) with flag := true }
    | _ => none
  | .access t =>
    match s.place t with
    | .inside op loc =>
      match c.access loc s.shared with
      | (.inl loc', shared) => some { s.moved t (.inside op loc') with shared }
      | (.inr r, shared) => some { s.moved t (.unlocking r) with shared }
    | _ => none
  | .clear t =>
    match s.place t with
    | .unlocking r => some { s.moved t (.returning r) with flag := false }
    | _ => none
  | .ret t =>
    match s.place t with
    | .returning r => some { s.moved t .idle with history := s.history ++ [.ret t r] }
    | _ => none

/-- The object in its first state, with the lock free. -/
def start (shared : σ) : Guarded σ Op Loc Ret Tid := ⟨shared, false, fun _ => .idle, []⟩

def machine (c : CriticalSection σ Op Loc Ret) (shared : σ) :
    Machine (Guarded σ Op Loc Ret Tid) (Action Op Tid) where
  init s := s = start shared
  next := next c

end Guarded

/-! ### The atomic object -/

inductive AtomicPlace (Op Ret : Type*)
  | idle
  | called (op : Op)
  | done (r : Ret)

structure Atomic (α Op Ret Tid : Type*) where
  shared : α
  place : Tid → AtomicPlace Op Ret
  history : List (Event Tid Op Ret)

namespace Atomic

variable {α Op Ret Tid : Type*} [DecidableEq Tid]

inductive Action (Op Tid : Type*)
  | call (t : Tid) (op : Op)
  | perform (t : Tid)
  | ret (t : Tid)

def next (f : Op → α → Ret × α) (s : Atomic α Op Ret Tid) :
    Action Op Tid → Option (Atomic α Op Ret Tid)
  | .call t op =>
    match s.place t with
    | .idle =>
      some { s with
        place := Function.update s.place t (.called op), history := s.history ++ [.call t op] }
    | _ => none
  | .perform t =>
    match s.place t with
    | .called op =>
      some { s with
        place := Function.update s.place t (.done (f op s.shared).1), shared := (f op s.shared).2 }
    | _ => none
  | .ret t =>
    match s.place t with
    | .done r =>
      some { s with
        place := Function.update s.place t .idle, history := s.history ++ [.ret t r] }
    | _ => none

def machine (f : Op → α → Ret × α) (shared : α) :
    Machine (Atomic α Op Ret Tid) (Action Op Tid) where
  init s := s = ⟨shared, fun _ => .idle, []⟩
  next := next f

end Atomic

/-! ### Every history is one of the atomic object -/

namespace Guarded

variable {σ Op Loc Ret Tid α : Type*} {c : CriticalSection σ Op Loc Ret} {abs : σ → α → Prop}
  {f : Op → α → Ret × α} {s s' : Guarded σ Op Loc Ret Tid} {x : Atomic α Op Ret Tid} {t t' : Tid}

/-- Inside the lock an operation has not taken place yet, at least not for others. -/
def atomicPlace : Place Op Loc Ret → AtomicPlace Op Ret
  | .idle => .idle
  | .locking op | .inside op _ => .called op
  | .unlocking r | .returning r => .done r

/-- While the flag is set one thread holds the lock, and no thread does while it is clear. -/
structure Exclusive (s : Guarded σ Op Loc Ret Tid) : Prop where
  flag : ∀ t, (s.place t).Holding → s.flag = true
  one : ∀ t t', (s.place t).Holding → (s.place t').Holding → t = t'
  held : s.flag = true → ∃ t, (s.place t).Holding

/-- The atomic object has had the same calls and returns. Between two operations its state is that
of the object behind the lock, and in the middle of one it is what the operation has started from.
-/
structure Refines (c : CriticalSection σ Op Loc Ret) (abs : σ → α → Prop)
    (s : Guarded σ Op Loc Ret Tid) (x : Atomic α Op Ret Tid) : Prop where
  exclusive : Exclusive s
  history : x.history = s.history
  place : ∀ t, x.place t = atomicPlace (s.place t)
  between : (∀ t op loc, s.place t ≠ .inside op loc) → abs s.shared x.shared
  during : ∀ t op loc, s.place t = .inside op loc →
    ∃ start, abs start x.shared ∧ c.Gets op start loc s.shared

lemma Exclusive.not_holding (h : Exclusive s) (hflag : s.flag = false) (t : Tid) :
    ¬ (s.place t).Holding := by
  intro ht
  rw [h.flag t ht] at hflag
  cases hflag

variable [DecidableEq Tid]

/-- A thread that moves outside the lock. -/
lemma Exclusive.outside {p : Place Op Loc Ret} (h : Exclusive s)
    (hfree : ¬ (s.place t).Holding) (hp : ¬ p.Holding) : Exclusive (s.moved t p) where
  flag t' ht' := by
    by_cases ht : t' = t
    · simp [moved, ht, hp] at ht'
    · exact h.flag t' (by simpa [moved, ht] using ht')
  one t₁ t₂ h₁ h₂ := by
    have hold : ∀ t', ((s.moved t p).place t').Holding → (s.place t').Holding := by
      intro t' ht'
      by_cases ht : t' = t
      · simp [moved, ht, hp] at ht'
      · simpa [moved, ht] using ht'
    exact h.one t₁ t₂ (hold t₁ h₁) (hold t₂ h₂)
  held hflag := by
    obtain ⟨t', ht'⟩ := h.held hflag
    have hne : t' ≠ t := by
      rintro rfl
      exact hfree ht'
    exact ⟨t', by simpa [moved, hne] using ht'⟩

/-- A thread that keeps the lock. -/
lemma Exclusive.within {p : Place Op Loc Ret} (h : Exclusive s) (ht : (s.place t).Holding)
    (hp : p.Holding) : Exclusive (s.moved t p) where
  flag _ _ := h.flag t ht
  one t₁ t₂ h₁ h₂ := by
    have hown : ∀ t', ((s.moved t p).place t').Holding → t' = t := by
      intro t' ht'
      by_contra hne
      exact hne (h.one t' t (by simpa [moved, hne] using ht') ht)
    rw [hown t₁ h₁, hown t₂ h₂]
  held _ := ⟨t, by simpa [moved] using hp⟩

lemma place_moved {p : Place Op Loc Ret} {y : AtomicPlace Op Ret}
    (h : ∀ t, x.place t = atomicPlace (s.place t)) (hy : y = atomicPlace p) (t t' : Tid) :
    Function.update x.place t y t' = atomicPlace ((s.moved t p).place t') := by
  by_cases ht : t' = t
  · subst ht
    simp [moved, hy]
  · simp [moved, ht, h t']

/-- A thread that moves outside the lock leaves what the others do. -/
lemma Refines.outside {p : Place Op Loc Ret} {y : AtomicPlace Op Ret} (h : Refines c abs s x)
    (hfree : ¬ (s.place t).Holding) (hp : ¬ p.Holding) (hy : y = atomicPlace p) :
    Refines c abs (s.moved t p) { x with place := Function.update x.place t y } where
  exclusive := h.exclusive.outside hfree hp
  history := h.history
  place := place_moved h.place hy t
  between hout := by
    refine h.between fun t' op loc hin => ?_
    by_cases ht : t' = t
    · subst ht
      exact hfree (by simp [hin, Place.Holding])
    · exact hout t' op loc (by simpa [moved, ht] using hin)
  during t' op loc hin := by
    by_cases ht : t' = t
    · have hpin : p = .inside op loc := by simpa [moved, ht] using hin
      exact absurd (by simp [hpin, Place.Holding]) hp
    · exact h.during t' op loc (by simpa [moved, ht] using hin)

/-- A thread takes the lock. -/
lemma Refines.acquire {op : Op} (h : Refines c abs s x) (ht : s.place t = .locking op)
    (hflag : s.flag = false) :
    Refines c abs { s.moved t (.inside op (c.enter op)) with flag := true } x where
  exclusive := by
    have hown : ∀ t', ((s.moved t (.inside op (c.enter op))).place t').Holding → t' = t := by
      intro t' ht'
      by_contra hne
      exact h.exclusive.not_holding hflag t' (by simpa [moved, hne] using ht')
    refine ⟨fun _ _ => rfl, fun t₁ t₂ h₁ h₂ => ?_, fun _ => ⟨t, by simp [moved, Place.Holding]⟩⟩
    rw [hown t₁ h₁, hown t₂ h₂]
  history := h.history
  place t' := by
    by_cases hne : t' = t
    · subst hne
      simp [moved, h.place t', ht, atomicPlace]
    · simp [moved, hne, h.place t']
  between hout := absurd (by simp [moved]) (hout t op (c.enter op))
  during t' op' loc hin := by
    by_cases hne : t' = t
    · subst hne
      obtain ⟨rfl, rfl⟩ : op = op' ∧ c.enter op = loc := by simpa [moved] using hin
      refine ⟨s.shared, h.between fun t' op' loc hin => ?_, .enter⟩
      exact h.exclusive.not_holding hflag t' (by simp [hin, Place.Holding])
    · have hin : s.place t' = .inside op' loc := by simpa [moved, hne] using hin
      exact absurd (by simp [hin, Place.Holding]) (h.exclusive.not_holding hflag t')

/-- An access in the middle of an operation is not seen. -/
lemma Refines.access {op : Op} {loc loc' : Loc} {shared : σ} (h : Refines c abs s x)
    (ht : s.place t = .inside op loc) (ha : c.access loc s.shared = (.inl loc', shared)) :
    Refines c abs { s.moved t (.inside op loc') with shared } x where
  exclusive := by
    have hin := h.exclusive.within (p := .inside op loc') (t := t) (by simp [ht, Place.Holding])
      trivial
    exact ⟨hin.flag, hin.one, hin.held⟩
  history := h.history
  place t' := by
    by_cases hne : t' = t
    · subst hne
      simp [moved, h.place t', ht, atomicPlace]
    · simp [moved, hne, h.place t']
  between hout := absurd (by simp [moved]) (hout t op loc')
  during t' op' loc'' hin := by
    by_cases hne : t' = t
    · subst hne
      obtain ⟨rfl, rfl⟩ : op = op' ∧ loc' = loc'' := by simpa [moved] using hin
      obtain ⟨start, habs, hgets⟩ := h.during t' op loc ht
      exact ⟨start, habs, hgets.access ha⟩
    · have hin : s.place t' = .inside op' loc'' := by simpa [moved, hne] using hin
      refine absurd (h.exclusive.one t' t ?_ ?_) hne
      · simp [hin, Place.Holding]
      · simp [ht, Place.Holding]

/-- The last access of an operation is where the atomic one takes place. -/
lemma Refines.perform {op : Op} {loc : Loc} {r : Ret} {shared : σ} (himpl : c.Implements abs f)
    (h : Refines c abs s x) (ht : s.place t = .inside op loc)
    (ha : c.access loc s.shared = (.inr r, shared)) :
    Refines c abs { s.moved t (.unlocking r) with shared }
      { x with
        place := Function.update x.place t (.done (f op x.shared).1)
        shared := (f op x.shared).2 } := by
  obtain ⟨start, habs, hgets⟩ := h.during t op loc ht
  obtain ⟨hret, habs'⟩ := himpl op start x.shared loc s.shared r shared habs hgets ha
  have hin := h.exclusive.within (p := .unlocking r) (t := t) (by simp [ht, Place.Holding]) trivial
  refine ⟨⟨hin.flag, hin.one, hin.held⟩, h.history, ?_, fun _ => habs', fun t' op' loc' hin' => ?_⟩
  · exact place_moved h.place (by rw [hret, atomicPlace]) t
  · by_cases hne : t' = t
    · simp [moved, hne] at hin'
    · have hin' : s.place t' = .inside op' loc' := by simpa [moved, hne] using hin'
      refine absurd (h.exclusive.one t' t ?_ ?_) hne
      · simp [hin', Place.Holding]
      · simp [ht, Place.Holding]

/-- A thread gives the lock back. -/
lemma Refines.clear {r : Ret} (h : Refines c abs s x) (ht : s.place t = .unlocking r) :
    Refines c abs { s.moved t (.returning r) with flag := false } x where
  exclusive := by
    have hnone : ∀ t', ¬ ((s.moved t (.returning r)).place t').Holding := by
      intro t' ht'
      by_cases hne : t' = t
      · simp [moved, hne, Place.Holding] at ht'
      · refine hne (h.exclusive.one t' t (by simpa [moved, hne] using ht') ?_)
        simp [ht, Place.Holding]
    exact ⟨fun t' ht' => absurd ht' (hnone t'), fun t' _ ht' _ => absurd ht' (hnone t'),
      fun hflag => by cases hflag⟩
  history := h.history
  place t' := by
    by_cases hne : t' = t
    · subst hne
      simp [moved, h.place t', ht, atomicPlace]
    · simp [moved, hne, h.place t']
  between hout := by
    refine h.between fun t' op loc hin => ?_
    have hne : t' ≠ t := by
      rintro rfl
      simp [ht] at hin
    exact hout t' op loc (by simpa [moved, hne] using hin)
  during t' op loc hin := by
    have hne : t' ≠ t := by
      rintro rfl
      simp [moved] at hin
    exact h.during t' op loc (by simpa [moved, hne] using hin)

/-- Every step of the object behind the lock is matched by at most one of the atomic object. -/
lemma refines_step {a : Action Op Tid} (x₀ : α) (himpl : c.Implements abs f) (h : Refines c abs s x)
    (hs : next c s a = some s') :
    ∃ ls x', (Atomic.machine f x₀).run x ls = some x' ∧ Refines c abs s' x' := by
  cases a with
  | call t op =>
    cases ht : s.place t <;> simp only [next, ht] at hs
    case idle =>
      obtain rfl := Option.some.inj hs
      have hx : x.place t = .idle := by rw [h.place t, ht, atomicPlace]
      have hout := h.outside (t := t) (p := .locking op) (y := .called op)
        (by simp [ht, Place.Holding]) (by simp [Place.Holding]) rfl
      refine ⟨[.call t op], { x with
        place := Function.update x.place t (.called op)
        history := x.history ++ [.call t op] }, ?_, ?_⟩
      · simp [Machine.run, Atomic.machine, Atomic.next, hx]
      · exact ⟨⟨hout.exclusive.flag, hout.exclusive.one, hout.exclusive.held⟩, by rw [h.history],
          hout.place, hout.between, hout.during⟩
    all_goals cases hs
  | testAndSet t =>
    cases ht : s.place t <;> simp only [next, ht] at hs
    case locking op =>
      split_ifs at hs with hflag
      · obtain rfl := Option.some.inj hs
        exact ⟨[], x, rfl, h⟩
      · obtain rfl := Option.some.inj hs
        exact ⟨[], x, rfl, h.acquire ht (by simpa using hflag)⟩
    all_goals cases hs
  | access t =>
    cases ht : s.place t <;> simp only [next, ht] at hs
    case inside op loc =>
      rcases ha : c.access loc s.shared with ⟨loc' | r, shared⟩
      · simp only [ha] at hs
        obtain rfl := Option.some.inj hs
        exact ⟨[], x, rfl, h.access ht ha⟩
      · simp only [ha] at hs
        obtain rfl := Option.some.inj hs
        have hx : x.place t = .called op := by rw [h.place t, ht, atomicPlace]
        refine ⟨[.perform t], _, ?_, h.perform himpl ht ha⟩
        simp [Machine.run, Atomic.machine, Atomic.next, hx]
    all_goals cases hs
  | clear t =>
    cases ht : s.place t <;> simp only [next, ht] at hs
    case unlocking r =>
      obtain rfl := Option.some.inj hs
      exact ⟨[], x, rfl, h.clear ht⟩
    all_goals cases hs
  | ret t =>
    cases ht : s.place t <;> simp only [next, ht] at hs
    case returning r =>
      obtain rfl := Option.some.inj hs
      have hx : x.place t = .done r := by rw [h.place t, ht, atomicPlace]
      have hout := h.outside (t := t) (p := .idle) (y := .idle)
        (by simp [ht, Place.Holding]) (by simp [Place.Holding]) rfl
      refine ⟨[.ret t], { x with
        place := Function.update x.place t .idle
        history := x.history ++ [.ret t r] }, ?_, ?_⟩
      · simp [Machine.run, Atomic.machine, Atomic.next, hx]
      · exact ⟨⟨hout.exclusive.flag, hout.exclusive.one, hout.exclusive.held⟩, by rw [h.history],
          hout.place, hout.between, hout.during⟩
    all_goals cases hs

/-- Every history of the object behind the lock is one of the atomic object, which between two
operations is in the same state. -/
theorem refinement {shared : σ} (x₀ : α) (himpl : c.Implements abs f) (hstart : abs shared x₀)
    (h : (machine c shared).Reachable s) :
    ∃ x, (Atomic.machine f x₀).Reachable x ∧ Refines c abs s x := by
  refine h.refinement (Refines c abs) ?_ fun s a s' x hr hs => refines_step x₀ himpl hr hs
  rintro s rfl
  refine ⟨⟨x₀, fun _ => .idle, []⟩, rfl, ⟨?_, ?_, ?_⟩, rfl, fun _ => rfl, fun _ => hstart, ?_⟩
  · rintro t ⟨⟩
  · rintro t t' ⟨⟩
  · rintro ⟨⟩
  · rintro t op loc ⟨⟩

/-! ### The lock is given back -/

/-- An operation comes to its end when its thread goes on. -/
lemma run_finish (shared : σ) {op : Op} {n : Nat} {loc : Loc} {out : Ret × σ}
    (ht : s.place t = .inside op loc) (hn : c.finish n loc s.shared = some out) :
    ∃ ls s', (machine c shared).run s ls = some s' ∧ s'.place t = .unlocking out.1 ∧
      (∀ t', t' ≠ t → s'.place t' = s.place t') ∧ s'.history = s.history := by
  induction n generalizing s loc with
  | zero => cases hn
  | succ n ih =>
    rw [CriticalSection.finish] at hn
    rcases ha : c.access loc s.shared with ⟨loc' | r, shared'⟩
    · simp only [ha] at hn
      obtain ⟨ls, s', hrun, hplace, hothers, hhist⟩ :=
        ih (s := { s.moved t (.inside op loc') with shared := shared' }) (by simp [moved]) hn
      refine ⟨.access t :: ls, s', ?_, hplace, fun t' hne => ?_, hhist⟩
      · have hnext : (machine c shared).next s (.access t) =
            some { s.moved t (.inside op loc') with shared := shared' } := by
          simp [machine, next, ht, ha]
        rw [Machine.run, hnext]
        exact hrun
      · rw [hothers t' hne]
        simp [moved, hne]
    · simp only [ha] at hn
      obtain rfl := Option.some.inj hn
      refine ⟨[.access t], { s.moved t (.unlocking r) with shared := shared' }, ?_, ?_, ?_, rfl⟩
      · simp [Machine.run, machine, next, ht, ha]
      · simp [moved]
      · intro t' hne
        simp [moved, hne]

/-- The thread that holds the lock can give it back without the help of others. -/
lemma run_release (shared : σ) (hfin : c.Finishes) (ht : (s.place t).Holding) :
    ∃ ls s', (machine c shared).run s ls = some s' ∧ s'.flag = false ∧
      (∀ t', t' ≠ t → s'.place t' = s.place t') ∧ s'.history = s.history := by
  have hclear : ∀ {s : Guarded σ Op Loc Ret Tid} {r}, s.place t = .unlocking r →
      (machine c shared).next s (.clear t) =
        some { s.moved t (.returning r) with flag := false } := by
    intro s r hr
    simp [machine, next, hr]
  cases hp : s.place t with
  | unlocking r =>
    refine ⟨[.clear t], { s.moved t (.returning r) with flag := false }, ?_, rfl, ?_, rfl⟩
    · rw [Machine.run, hclear hp]
      rfl
    · intro t' hne
      simp [moved, hne]
  | inside op loc =>
    obtain ⟨n, hn⟩ := hfin loc s.shared
    obtain ⟨out, hn⟩ := Option.isSome_iff_exists.mp hn
    obtain ⟨ls, s', hrun, hplace, hothers, hhist⟩ := run_finish shared hp hn
    refine ⟨ls ++ [.clear t], { s'.moved t (.returning out.1) with flag := false }, ?_, rfl, ?_,
      hhist⟩
    · rw [Machine.run_append, hrun, Option.bind_some, Machine.run, hclear hplace]
      rfl
    · intro t' hne
      rw [← hothers t' hne]
      simp [moved, hne]
  | idle => simp [hp, Place.Holding] at ht
  | locking op => simp [hp, Place.Holding] at ht
  | returning r => simp [hp, Place.Holding] at ht

/-- No deadlock: a thread that waits for the lock can get it, though nothing is called meanwhile and
no other thread returns. -/
theorem can_enter {shared : σ} {op : Op} (hfin : c.Finishes) (h : Exclusive s)
    (ht : s.place t = .locking op) : ∃ ls s', (machine c shared).run s ls = some s' ∧
      s'.place t = .inside op (c.enter op) ∧ s'.history = s.history := by
  have henter : ∀ {s : Guarded σ Op Loc Ret Tid}, s.flag = false → s.place t = .locking op →
      (machine c shared).next s (.testAndSet t) =
        some { s.moved t (.inside op (c.enter op)) with flag := true } := by
    intro s hflag ht
    simp [machine, next, ht, hflag]
  cases hflag : s.flag with
  | false =>
    refine ⟨[.testAndSet t], { s.moved t (.inside op (c.enter op)) with flag := true }, ?_, ?_, rfl⟩
    · rw [Machine.run, henter hflag ht]
      rfl
    · simp [moved]
  | true =>
    obtain ⟨t', ht'⟩ := h.held hflag
    have hne : t ≠ t' := by
      rintro rfl
      simp [ht, Place.Holding] at ht'
    obtain ⟨ls, s', hrun, hfree, hothers, hhist⟩ := run_release shared hfin ht'
    refine ⟨ls ++ [.testAndSet t],
      { s'.moved t (.inside op (c.enter op)) with flag := true }, ?_, ?_, hhist⟩
    · rw [Machine.run_append, hrun, Option.bind_some, Machine.run,
        henter hfree ((hothers t hne).trans ht)]
      rfl
    · simp [moved]

end Guarded

end Foundation
