import Mathlib.Tactic.Common

/-!
# Labelled machines

A machine has initial states and a partial step function: `next s l = some s'` when the step
labelled `l` is enabled in `s` and leads to `s'`. Whatever is not determined by the state (the
scheduler, the kernel, the environment) is in the label, so that runs can be computed.

`Reach ok` holds of the states of those runs whose steps all meet `ok`. An assumption on the
environment is such an `ok`; `Reachable` makes none.
-/

namespace Foundation

/-- A labelled machine: its initial states, and what each labelled step does. -/
structure Machine (S L : Type*) where
  init : S → Prop
  next : S → L → Option S

namespace Machine

variable {S L : Type*} (m : Machine S L)

/-- The states of the runs of `m` whose steps all meet `ok`. -/
inductive Reach (ok : S → L → Prop) : S → Prop
  | start {s : S} (h : m.init s) : Reach ok s
  | step {s s' : S} {l : L} (h : Reach ok s) (hok : ok s l) (hs : m.next s l = some s') :
      Reach ok s'

/-- The states of all runs of `m`. -/
abbrev Reachable (s : S) : Prop := m.Reach (fun _ _ => True) s

/-- Replay a list of labels; `none` as soon as a step is not enabled. -/
def run : S → List L → Option S
  | s, [] => some s
  | s, l :: ls => (m.next s l).bind fun s' => run s' ls

variable {m} {ok : S → L → Prop}

/-- The invariant rule: what holds initially and is preserved by every admitted step holds
throughout. The step may use that its source state is reachable. -/
theorem Reach.invariant {P : S → Prop} (hinit : ∀ s, m.init s → P s)
    (hstep : ∀ s l s', m.Reach ok s → P s → ok s l → m.next s l = some s' → P s')
    {s : S} (h : m.Reach ok s) : P s := by
  induction h with
  | start hi => exact hinit _ hi
  | step hr hok hs ih => exact hstep _ _ _ hr ih hok hs

/-- Weakening the assumption on the steps keeps every state. -/
lemma Reach.mono {ok' : S → L → Prop} (hle : ∀ s l, ok s l → ok' s l) {s : S}
    (h : m.Reach ok s) : m.Reach ok' s := by
  induction h with
  | start hi => exact .start hi
  | step _ hok hs ih => exact .step ih (hle _ _ hok) hs

lemma Reach.reachable {s : S} (h : m.Reach ok s) : m.Reachable s :=
  h.mono fun _ _ _ => trivial

@[simp] lemma run_nil (s : S) : m.run s [] = some s := rfl

lemma run_append (s : S) (ls ls' : List L) :
    m.run s (ls ++ ls') = (m.run s ls).bind fun s' => m.run s' ls' := by
  induction ls generalizing s with
  | nil => rfl
  | cons l ls ih =>
    rw [List.cons_append, run, run, Option.bind_assoc]
    exact Option.bind_congr fun t _ => ih t

/-- What every step preserves, a replayed run preserves. -/
theorem run_invariant {P : S → Prop} (hstep : ∀ s l s', P s → m.next s l = some s' → P s')
    {s s' : S} {ls : List L} (h : P s) (hr : m.run s ls = some s') : P s' := by
  induction ls generalizing s with
  | nil =>
    obtain rfl : s = s' := by simpa using hr
    exact h
  | cons l ls ih =>
    obtain ⟨t, ht, hr⟩ := Option.bind_eq_some_iff.mp hr
    exact ih (hstep s l t h ht) hr

/-- A replayed run stays among the reachable states. -/
theorem reachable_run {s s' : S} {ls : List L} (h : m.Reachable s) (hr : m.run s ls = some s') :
    m.Reachable s' := run_invariant (fun _ _ _ h hs => h.step trivial hs) h hr

variable (m) in
/-- The state a list of labels leads to. A list that cannot be replayed leads nowhere. -/
def replay (s : S) (ls : List L) : S := (m.run s ls).getD s

lemma reachable_replay {s : S} (h : m.Reachable s) (ls : List L) :
    m.Reachable (m.replay s ls) := by
  rw [replay]
  cases hr : m.run s ls with
  | none => exact h
  | some s' => exact reachable_run h hr

lemma run_replay {s : S} {ls : List L} (h : (m.run s ls).isSome = true) :
    m.run s ls = some (m.replay s ls) := by
  obtain ⟨s', hs⟩ := Option.isSome_iff_exists.mp h
  rw [replay, hs, Option.getD_some]

variable (m) in
/-- Replay a list of labels, checking `ok` before each step. -/
def runWith (ok : S → L → Prop) [∀ s l, Decidable (ok s l)] : S → List L → Option S
  | s, [] => some s
  | s, l :: ls => if ok s l then (m.next s l).bind fun s' => runWith ok s' ls else none

/-- A replayed run whose steps were all checked stays among the states of the admitted runs. -/
theorem reach_runWith [∀ s l, Decidable (ok s l)] {s s' : S} {ls : List L} (h : m.Reach ok s)
    (hr : m.runWith ok s ls = some s') : m.Reach ok s' := by
  induction ls generalizing s with
  | nil =>
    obtain rfl : s = s' := by simpa [runWith] using hr
    exact h
  | cons l ls ih =>
    rw [runWith] at hr
    split_ifs at hr with hok
    obtain ⟨t, ht, hr⟩ := Option.bind_eq_some_iff.mp hr
    exact ih (h.step hok ht) hr

variable (m) in
def replayWith (ok : S → L → Prop) [∀ s l, Decidable (ok s l)] (s : S) (ls : List L) : S :=
  (m.runWith ok s ls).getD s

lemma reach_replayWith [∀ s l, Decidable (ok s l)] {s : S} (h : m.Reach ok s) (ls : List L) :
    m.Reach ok (m.replayWith ok s ls) := by
  rw [replayWith]
  cases hr : m.runWith ok s ls with
  | none => exact h
  | some s' => exact reach_runWith h hr

/-- A machine that matches every step of `m` by a run, from every state that is related to where the
step starts, reaches a state related to each of those of `m`. -/
theorem Reach.refinement {S' L' : Type*} {m' : Machine S' L'} (R : S → S' → Prop)
    (hinit : ∀ s, m.init s → ∃ t, m'.init t ∧ R s t)
    (hstep : ∀ s l s' t, R s t → m.next s l = some s' →
      ∃ ls t', m'.run t ls = some t' ∧ R s' t') {s : S}
    (h : m.Reachable s) : ∃ t, m'.Reachable t ∧ R s t := by
  induction h with
  | start hi =>
    obtain ⟨t, ht, hR⟩ := hinit _ hi
    exact ⟨t, .start ht, hR⟩
  | @step s s' l _ _ hs ih =>
    obtain ⟨t, ht, hR⟩ := ih
    obtain ⟨ls, t', hrun, hR'⟩ := hstep s l s' t hR hs
    exact ⟨t', reachable_run ht hrun, hR'⟩

/-- And for a run from any two states that are related. -/
theorem run_refinement {S' L' : Type*} {m' : Machine S' L'} {R : S → S' → Prop}
    (hstep : ∀ s l s' t, R s t → m.next s l = some s' →
      ∃ ls t', m'.run t ls = some t' ∧ R s' t') {s s' : S} {t : S'} {ls : List L} (hR : R s t)
    (hr : m.run s ls = some s') : ∃ ls' t', m'.run t ls' = some t' ∧ R s' t' := by
  induction ls generalizing s t with
  | nil =>
    obtain rfl : s = s' := by simpa using hr
    exact ⟨[], t, rfl, hR⟩
  | cons l ls ih =>
    obtain ⟨s₁, hs, hr⟩ := Option.bind_eq_some_iff.mp hr
    obtain ⟨ls₁, t₁, hrun₁, hR₁⟩ := hstep s l s₁ t hR hs
    obtain ⟨ls', t', hrun', hR'⟩ := ih hR₁ hr
    exact ⟨ls₁ ++ ls', t', by rw [run_append, hrun₁, Option.bind_some, hrun'], hR'⟩

/-! ### All along a run -/

variable (m) in
/-- `P` holds of every state that the run of `ls` from `s` passes through. -/
def Always (P : S → Prop) (s : S) (ls : List L) : Prop :=
  ∀ pre s', pre <+: ls → m.run s pre = some s' → P s'

variable (m) in
/-- Every step of the run of `ls` from `s` meets `ok`. -/
def Admits (ok : S → L → Prop) (s : S) (ls : List L) : Prop :=
  ∀ pre l s', pre ++ [l] <+: ls → m.run s pre = some s' → ok s' l

lemma always_nil {P : S → Prop} {s : S} : m.Always P s [] ↔ P s := by
  constructor
  · intro h
    exact h [] s (List.prefix_refl _) rfl
  · rintro h pre s' hpre hs
    obtain rfl := List.prefix_nil.mp hpre
    obtain rfl : s = s' := by simpa using hs
    exact h

lemma always_cons {P : S → Prop} {s : S} {l : L} {ls : List L} :
    m.Always P s (l :: ls) ↔ P s ∧ ∀ s', m.next s l = some s' → m.Always P s' ls := by
  constructor
  · intro h
    refine ⟨h [] s List.nil_prefix rfl, fun s' hs pre t hpre ht => ?_⟩
    refine h (l :: pre) t (List.cons_prefix_cons.mpr ⟨rfl, hpre⟩) ?_
    rw [run, hs]
    exact ht
  · rintro ⟨hP, h⟩ pre t hpre ht
    cases pre with
    | nil =>
      obtain rfl : s = t := by simpa using ht
      exact hP
    | cons l' pre =>
      obtain ⟨rfl, htail⟩ := List.cons_prefix_cons.mp hpre
      obtain ⟨s', hs, ht⟩ := Option.bind_eq_some_iff.mp ht
      exact h s' hs pre t htail ht

lemma admits_nil {s : S} : m.Admits ok s [] := by
  intro pre l s' hpre
  simp at hpre

lemma admits_cons {s : S} {l : L} {ls : List L} :
    m.Admits ok s (l :: ls) ↔ ok s l ∧ ∀ s', m.next s l = some s' → m.Admits ok s' ls := by
  constructor
  · intro h
    refine ⟨h [] l s (List.cons_prefix_cons.mpr ⟨rfl, List.nil_prefix⟩) rfl, ?_⟩
    intro s' hs pre l' t hpre ht
    refine h (l :: pre) l' t (List.cons_prefix_cons.mpr ⟨rfl, hpre⟩) ?_
    rw [run, hs]
    exact ht
  · rintro ⟨hok, h⟩ pre l' t hpre ht
    cases pre with
    | nil =>
      obtain ⟨rfl, -⟩ := List.cons_prefix_cons.mp hpre
      obtain rfl : s = t := by simpa using ht
      exact hok
    | cons l₀ pre =>
      obtain ⟨rfl, htail⟩ := List.cons_prefix_cons.mp hpre
      obtain ⟨s', hs, ht⟩ := Option.bind_eq_some_iff.mp ht
      exact h s' hs pre l' t htail ht

/-- A replayed run whose steps were all checked. -/
lemma admits_of_runWith [∀ s l, Decidable (ok s l)] {s : S} {ls : List L}
    (h : (m.runWith ok s ls).isSome = true) : m.Admits ok s ls := by
  induction ls generalizing s with
  | nil => exact admits_nil
  | cons l ls ih =>
    rw [runWith] at h
    split_ifs at h with hok
    · refine admits_cons.mpr ⟨hok, fun s' hs => ih ?_⟩
      rw [hs] at h
      exact h
    · cases h

/-- A replayed run before each of whose steps, and after the last, `P` was checked. -/
lemma always_of_runWith {P : S → Prop} [DecidablePred P] {s : S} {ls : List L}
    (h : (m.runWith (fun s _ => P s) s ls).any (P ·) = true) : m.Always P s ls := by
  induction ls generalizing s with
  | nil => exact always_nil.mpr (of_decide_eq_true h)
  | cons l ls ih =>
    rw [runWith] at h
    split_ifs at h with hP
    · refine always_cons.mpr ⟨hP, fun s' hs => ih ?_⟩
      rw [hs] at h
      exact h
    · cases h

/-- Where an enabled step keeps `P` exactly when it meets `ok`, and what is not enabled meets it
anyway, a run keeps `P` exactly when all its steps meet `ok`. The invariant `I` is what those steps
keep. -/
theorem always_iff_admits {I P : S → Prop} (hdisabled : ∀ s l, m.next s l = none → ok s l)
    (hI : ∀ s l s', I s → ok s l → m.next s l = some s' → I s')
    (hstep : ∀ s l s', I s → P s → m.next s l = some s' → (P s' ↔ ok s l)) {s : S} (hs : I s)
    (hP : P s) (ls : List L) : m.Always P s ls ↔ m.Admits ok s ls := by
  induction ls generalizing s with
  | nil => exact ⟨fun _ => admits_nil, fun _ => always_nil.mpr hP⟩
  | cons l ls ih =>
    rw [always_cons, admits_cons]
    cases ht : m.next s l with
    | none =>
      constructor
      · rintro -
        exact ⟨hdisabled s l ht, fun s' hs' => by cases hs'⟩
      · rintro -
        exact ⟨hP, fun s' hs' => by cases hs'⟩
    | some t =>
      constructor
      · rintro ⟨-, h⟩
        have hPt : P t := h t rfl [] t List.nil_prefix rfl
        have hok : ok s l := (hstep s l t hs hP ht).mp hPt
        refine ⟨hok, fun s' hs' => ?_⟩
        cases hs'
        exact (ih (hI s l t hs hok ht) hPt).mp (h t rfl)
      · rintro ⟨hok, h⟩
        refine ⟨hP, fun s' hs' => ?_⟩
        cases hs'
        exact (ih (hI s l t hs hok ht) ((hstep s l t hs hP ht).mpr hok)).mpr (h t rfl)

lemma admits_and {ok' : S → L → Prop} {s : S} {ls : List L} :
    m.Admits (fun s l => ok s l ∧ ok' s l) s ls ↔ m.Admits ok s ls ∧ m.Admits ok' s ls := by
  constructor
  · intro h
    exact ⟨fun pre l s' hpre hs => (h pre l s' hpre hs).1,
      fun pre l s' hpre hs => (h pre l s' hpre hs).2⟩
  · intro h pre l s' hpre hs
    exact ⟨h.1 pre l s' hpre hs, h.2 pre l s' hpre hs⟩

/-- Where the steps that meet `ok` keep `P` and the others lead to `D`, out of which there is no way
back to `P`, a run ends in `P` exactly when all its steps meet `ok`. -/
theorem run_iff_admits {I P D : S → Prop} (hI : ∀ s l s', I s → m.next s l = some s' → I s')
    (hok : ∀ s l s', I s → P s → ok s l → m.next s l = some s' → P s')
    (hbreak : ∀ s l s', I s → P s → ¬ ok s l → m.next s l = some s' → D s')
    (hD : ∀ s l s', I s → D s → m.next s l = some s' → D s') (hPD : ∀ s, D s → ¬ P s) {s s' : S}
    {ls : List L} (hs : I s) (hP : P s) (hr : m.run s ls = some s') :
    P s' ↔ m.Admits ok s ls := by
  induction ls generalizing s with
  | nil =>
    obtain rfl : s = s' := by simpa using hr
    exact ⟨fun _ => admits_nil, fun _ => hP⟩
  | cons l ls ih =>
    obtain ⟨t, ht, hr⟩ := Option.bind_eq_some_iff.mp hr
    rw [admits_cons]
    by_cases hl : ok s l
    · rw [ih (hI s l t hs ht) (hok s l t hs hP hl ht) hr]
      constructor
      · intro h
        refine ⟨hl, fun t' ht' => ?_⟩
        cases ht.symm.trans ht'
        exact h
      · rintro ⟨-, h⟩
        exact h t ht
    · have hbroken : I s' ∧ D s' :=
        run_invariant (P := fun s => I s ∧ D s)
          (fun s l s' h hs => ⟨hI s l s' h.1 hs, hD s l s' h.1 h.2 hs⟩)
          ⟨hI s l t hs ht, hbreak s l t hs hP hl ht⟩ hr
      constructor
      · intro h
        exact absurd h (hPD s' hbroken.2)
      · rintro ⟨h, -⟩
        exact absurd h hl

/-! ### Machines that stop -/

section Termination

variable (m) in
/-- Every run of `m` is finite. -/
def Terminates : Prop := ∀ s, m.init s → Acc (fun s' s => ∃ l, m.next s l = some s') s

lemma Terminates.acc (h : m.Terminates) {s : S} (hs : m.Reachable s) :
    Acc (fun s' s => ∃ l, m.next s l = some s') s := by
  induction hs with
  | start hi => exact h _ hi
  | @step s s' l _ _ hnext ih => exact ih.inv ⟨l, hnext⟩

/-- A machine stops when every step lowers a measure. -/
theorem terminates_of_measure (μ : S → Nat)
    (h : ∀ s l s', m.Reachable s → m.next s l = some s' → μ s' < μ s) : m.Terminates := by
  have hacc : ∀ n s, m.Reachable s → μ s < n →
      Acc (fun s' s => ∃ l, m.next s l = some s') s := by
    intro n
    induction n with
    | zero =>
      intro s _ hlt
      exact absurd hlt (Nat.not_lt_zero _)
    | succ n ih =>
      intro s hs hlt
      constructor
      rintro s' ⟨l, hnext⟩
      apply ih s' (hs.step trivial hnext)
      exact Nat.lt_of_lt_of_le (h s l s' hs hnext) (Nat.le_of_lt_succ hlt)
  intro s hi
  exact hacc (μ s + 1) s (.start hi) (Nat.lt_succ_self _)

/-- A machine that stops does not get to where it can go on forever. -/
theorem Terminates.not_forever (h : m.Terminates) {P : S → Prop}
    (hP : ∀ s, m.Reachable s → P s → ∃ l s', m.next s l = some s' ∧ P s') {s : S}
    (hs : m.Reachable s) : ¬ P s := by
  induction h.acc hs with
  | intro s _ ih =>
    intro hPs
    obtain ⟨l, s', hnext, hPs'⟩ := hP s hs hPs
    exact ih s' ⟨l, hnext⟩ (hs.step trivial hnext) hPs'

end Termination

/-! ### Observers -/

section Observed

variable {G : Type*}

variable (m) in
/-- The machine with an observer, who keeps a record of the steps and has no influence on them. -/
def observed (empty : G) (record : G → S → L → S → G) : Machine (S × G) L where
  init x := m.init x.1 ∧ x.2 = empty
  next x l := (m.next x.1 l).map fun s => (s, record x.2 x.1 l s)

variable {empty : G} {record : G → S → L → S → G} {x x' : S × G} {l : L}

lemma next_of_observed (h : (m.observed empty record).next x l = some x') :
    m.next x.1 l = some x'.1 ∧ x'.2 = record x.2 x.1 l x'.1 := by
  obtain ⟨s, hs, rfl⟩ := Option.map_eq_some_iff.mp h
  exact ⟨hs, rfl⟩

lemma observed_next {s s' : S} {g : G} (h : m.next s l = some s') :
    (m.observed empty record).next (s, g) l = some (s', record g s l s') := by
  simp only [observed, h, Option.map_some]

lemma observed_run {s s' : S} {g : G} (h : m.next s l = some s') (ls : List L) :
    (m.observed empty record).run (s, g) (l :: ls) =
      (m.observed empty record).run (s', record g s l s') ls := by
  rw [run, observed_next h, Option.bind_some]

/-- What is observed are runs of the machine. -/
theorem Reach.of_observed (h : (m.observed empty record).Reachable x) : m.Reachable x.1 := by
  induction h with
  | start hi => exact .start hi.1
  | step _ _ hs ih => exact ih.step trivial (next_of_observed hs).1

/-- Every run of the machine can be observed. -/
theorem Reach.exists_observed {s : S} (h : m.Reach ok s) :
    ∃ g, (m.observed empty record).Reach (fun x l => ok x.1 l) (s, g) := by
  induction h with
  | start hi => exact ⟨empty, .start ⟨hi, rfl⟩⟩
  | @step s s' l _ hok hs ih =>
    obtain ⟨g, hg⟩ := ih
    exact ⟨_, hg.step hok (observed_next hs)⟩

end Observed

end Machine

end Foundation
