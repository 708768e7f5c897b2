import Balabala.Actor.Session.Matching

/-!
# Exceptions out of await_suspend

`await_suspend` stores the handle of its coroutine and then sends and sets a timer, which may throw.
A coroutine whose `await_suspend` throws is not suspended: it goes on with the exception, and most
often ends by it. Nothing takes its handle out of `waitMap_`, so a handle of a coroutine that is
running or gone stays behind.
-/

namespace Balabala

open Foundation

/-- Where in `await_suspend` something is called that may throw. `SleepAwaiter` sends nothing. -/
def FramePc.mayThrow : FramePc → Bool
  | .store _ | .setTimeout _ => true
  | .send w => w.kind ≠ .sleep
  | .body | .leave _ => false

/-- A step of an actor, or an exception that leaves `await_suspend`. -/
inductive AwaitAction
  | run (l : Actor.Action)
  | throws

namespace Actor

/-- The coroutine goes on after its `co_await`, with the exception. -/
def throwNext (a : Actor) : Option Actor :=
  match a.stack with
  | ⟨h, pc⟩ :: rest => if pc.mayThrow then some { a with stack := ⟨h, .body⟩ :: rest } else none
  | [] => none

/-- An actor whose `await_suspend`s may throw. -/
def throwing : Machine Actor AwaitAction where
  init := (· = start)
  next a l :=
    match l with
    | .run l => next a l
    | .throws => a.throwNext

/-- What an observer has seen: `waitMap_` at the last `co_await`, and whether the last step was an
exception. -/
structure AwaitNote where
  before : UInt32 → Option Nat
  thrown : Bool

def AwaitNote.record (g : AwaitNote) (a : Actor) (l : AwaitAction) (_ : Actor) : AwaitNote :=
  match l with
  | .run (.coAwait _) => ⟨a.waitMap, false⟩
  | .run _ => ⟨g.before, false⟩
  | .throws => ⟨g.before, true⟩

def AwaitNote.empty : AwaitNote := ⟨fun _ => none, false⟩

/-- The runs of `throwing`, with the observer. -/
def noting : Machine (Actor × AwaitNote) AwaitAction :=
  throwing.observed .empty AwaitNote.record

/-- `waitMap_` is what it was before the `co_await` when an exception has left it, and has exactly
the handles of the coroutines that are suspended, or about to be. -/
structure WaitMapExact (x : Actor × AwaitNote) : Prop where
  restored : x.2.thrown = true → x.1.waitMap = x.2.before
  handle_iff : ∀ k h, x.1.waitMap k = some h ↔ (∃ w, x.1.awaiting h = some w ∧ w.sessionId = k) ∨
    ∃ w, storing x.1.stack = some (h, w) ∧ w.sessionId = k

/-- What `ResumeWaiting` and `DestroyAllCoroutines` find is a suspended coroutine. -/
lemma WaitMapExact.suspended {x : Actor × AwaitNote} (hx : WaitMapExact x) (hs : x.1.stack = [])
    {k : UInt32} {h : Nat} (hk : x.1.waitMap k = some h) :
    ∃ w, x.1.awaiting h = some w ∧ w.sessionId = k := by
  rcases (hx.handle_iff k h).mp hk with hw | ⟨w, hw, -⟩
  · exact hw
  · rw [hs] at hw
    cases hw

/-- No exception comes after the handle has been stored, and no handle is stored under the session
of another one. -/
def Undisturbed (a : Actor) : AwaitAction → Prop
  | .throws => ∀ h pc rest, a.stack = ⟨h, pc⟩ :: rest → pc.mayThrow = true → ∃ w, pc = .store w
  | .run .suspend => ∀ h w rest, a.stack = ⟨h, .store w⟩ :: rest → a.waitMap w.sessionId = none
  | .run _ => True

/-- What holds all along the runs that are not disturbed. -/
structure Suspending (x : Actor × AwaitNote) : Prop where
  frames : Frames x.1.stack x.1.awaiting x.1.frames
  /-- the map has not been touched since the `co_await` -/
  pristine : ∀ h w rest, x.1.stack = ⟨h, .store w⟩ :: rest → x.1.waitMap = x.2.before
  tidy : WaitMapExact x

namespace Suspending

variable {a : Actor} {g : AwaitNote}

lemma held (hx : Suspending (a, g)) : HandlesAwait a.stack a.awaiting a.waitMap :=
  fun k h hk => (hx.tidy.handle_iff k h).mp hk

lemma waiting (hx : Suspending (a, g)) : AwaitersHeld a.awaiting a.waitMap :=
  fun h w hw => (hx.tidy.handle_iff w.sessionId h).mpr (.inl ⟨w, hw, rfl⟩)

lemma stored (hx : Suspending (a, g)) {h : Nat} {w : Awaiter}
    (hw : storing a.stack = some (h, w)) : a.waitMap w.sessionId = some h :=
  (hx.tidy.handle_iff w.sessionId h).mpr (.inr ⟨w, hw, rfl⟩)

/-- From its parts, after a step that is no exception. -/
lemma of_parts {before : UInt32 → Option Nat} (hf : Frames a.stack a.awaiting a.frames)
    (hp : ∀ h w rest, a.stack = ⟨h, .store w⟩ :: rest → a.waitMap = before)
    (hh : HandlesAwait a.stack a.awaiting a.waitMap) (hw : AwaitersHeld a.awaiting a.waitMap)
    (hs : ∀ h w, storing a.stack = some (h, w) → a.waitMap w.sessionId = some h) :
    Suspending (a, ⟨before, false⟩) where
  frames := hf
  pristine := hp
  tidy := by
    refine ⟨Bool.noConfusion, fun k h => ⟨hh k h, ?_⟩⟩
    rintro (⟨w, hv, rfl⟩ | ⟨w, hv, rfl⟩)
    · exact hw h w hv
    · exact hs h w hv

/-- Running coroutines come, go and move. -/
lemma setStack (hx : Suspending (a, g)) {stack : List Activation} {frames : Nat}
    {log : List SessionEvent} {before : UInt32 → Option Nat}
    (hf : Frames stack a.awaiting frames) (hs : storing stack = storing a.stack)
    (hp : ∀ h w rest, stack = ⟨h, .store w⟩ :: rest → a.waitMap = before) :
    Suspending ({ a with stack, frames, log }, ⟨before, false⟩) := by
  refine of_parts hf hp (fun k h hk => ?_) hx.waiting fun h w hw => ?_
  · rw [hs]
    exact hx.held k h hk
  · exact hx.stored (by rwa [hs] at hw)

end Suspending

/-- Only `suspend` goes on from `StoreWaiting`. -/
lemma suspend_of_store {a a' : Actor} {l : Action} (hs : machine.next a l = some a') {h : Nat}
    {w : Awaiter} {rest : List Activation} (hst : a.stack = ⟨h, .store w⟩ :: rest) :
    l = .suspend := by
  change next a l = some a' at hs
  cases l with
  | suspend => rfl
  | process msg | callCoroutine | coAwait kind | coReturn => simp [next, hst] at hs

namespace Suspending

variable {a a' : Actor} {g : AwaitNote}

/-- What the observer writes down at a step that is no exception. -/
lemma record_run (g : AwaitNote) (a a' : Actor) (l : Action) :
    ∃ before, g.record a (.run l) a' = ⟨before, false⟩ := by
  cases l <;> exact ⟨_, rfl⟩

/-- A step that is no exception. -/
lemma step (hx : Suspending (a, g)) {l : Action} (hok : a.Undisturbed (.run l))
    (hs : machine.next a l = some a') : Suspending (a', g.record a (.run l) a') := by
  have hf : Frames a.stack a.awaiting a.frames := hx.frames
  have hh := hx.held
  obtain ⟨before, hrec⟩ := record_run g a a' l
  cases Step.of_next hs with
  | start msg hst hm =>
    rw [hst] at hf
    rw [hrec]
    refine hx.setStack (hf.push (by simp)) (by rw [hst]; rfl) fun h w rest e => ?_
    cases e
  | drop msg hst hw =>
    rw [hrec]
    exact hx.setStack hf rfl fun h w rest e => by rw [hst] at e; cases e
  | resume msg h hst hm hw =>
    obtain ⟨w, responses, ha, -, heq⟩ := resumeWaiting_of_held hh hst hw
    rw [hst] at hf hh
    rw [hrec, heq]
    refine of_parts (hf.resume ha) (fun g v r e => ?_) (hh.resumed ha) (hx.waiting.resumed ha)
      fun g v hv => ?_
    · cases e
    · cases hv
  | callCoroutine h rest hst =>
    rw [hst] at hf
    rw [hrec]
    refine hx.setStack (hf.push fun b hb => ?_) (by rw [hst]; rfl) fun g w r e => ?_
    · rcases List.mem_cons.mp hb with rfl | hb
      · rfl
      · exact hf.callers b hb
    · cases e
  | coAwait h rest kind hst =>
    by_cases hl : ∃ kind, l = .coAwait kind
    · obtain ⟨kind, rfl⟩ := hl
      rw [hst] at hf hh
      refine of_parts (hf.move _) (fun _ _ _ _ => rfl) (fun k g hk => ?_) hx.waiting
        fun g w hw => ?_
      · refine (hh k g hk).imp_right ?_
        rintro ⟨v, hv, -⟩
        cases hv
      · cases hw
    · exact absurd (allocated_of_next hs fun kind e => hl ⟨kind, e⟩) (Nat.succ_ne_self _)
  | store h rest w hst =>
    obtain rfl := suspend_of_store hs hst
    have hfree := hok h w rest hst
    rw [hst] at hf hh
    rw [hrec]
    refine of_parts (hf.move _) (fun g v r e => ?_) hh.store (hx.waiting.store fun g v hv e => ?_)
      fun g v hv => ?_
    · cases e
    · have hheld := hx.waiting g v hv
      rw [e, hfree] at hheld
      cases hheld
    · cases hv
      exact Function.update_self _ _ _
  | send h rest w hst | setTimeout h rest w hst =>
    rw [hst] at hf
    rw [hrec]
    exact hx.setStack (hf.move _) (by rw [hst]; rfl) fun g v r e => by cases e
  | leave h rest w hst =>
    have hstored := hx.stored (by rw [hst]; rfl : storing a.stack = some (h, w))
    rw [hst] at hf hh
    have hrun : a.awaiting h = none := (hf.running _ List.mem_cons_self).2
    rw [hrec]
    refine of_parts (hf.suspend w) (fun g v r e => absurd e (ne_store_of_bodies hf.callers))
      (hh.suspended hrun) (hx.waiting.suspended hstored) fun g v hv => ?_
    have hv : storing rest = some (g, v) := hv
    have htop : storing rest = none := (top_of_bodies hf.callers).1
    rw [htop] at hv
    cases hv
  | coReturn h rest hst =>
    rw [hst] at hf
    rw [hrec]
    refine hx.setStack hf.pop ?_ fun g v r e => absurd e (ne_store_of_bodies hf.callers)
    rw [hst]
    exact (top_of_bodies hf.callers).1

/-- An exception before the handle is stored. -/
lemma throws (hx : Suspending (a, g)) (hok : a.Undisturbed .throws)
    (hs : a.throwNext = some a') : Suspending (a', g.record a .throws a') := by
  rw [throwNext] at hs
  split at hs
  · rename_i h pc rest hst
    split_ifs at hs with hmay
    cases hs
    obtain ⟨w, rfl⟩ := hok h pc rest hst hmay
    have hf : Frames a.stack a.awaiting a.frames := hx.frames
    have hpristine := hx.pristine h w rest hst
    have hx' : Suspending ({ a with stack := ⟨h, .body⟩ :: rest }, ⟨g.before, false⟩) := by
      rw [hst] at hf
      exact hx.setStack (hf.move _) (by rw [hst]; rfl) fun g v r e => by cases e
    exact ⟨hx'.frames, hx'.pristine, fun _ => hpristine, hx'.tidy.handle_iff⟩
  · cases hs

/-- A step that leaves the map exact does not disturb the run. -/
lemma undisturbed (hx : Suspending (a, g)) {l : AwaitAction} (hs : throwing.next a l = some a')
    (hx' : WaitMapExact (a', g.record a l a')) : a.Undisturbed l := by
  have hf : Frames a.stack a.awaiting a.frames := hx.frames
  cases l with
  | run l =>
    cases l with
    | suspend =>
      intro h w rest hst
      by_contra hheld
      obtain ⟨k, hk⟩ := Option.ne_none_iff_exists'.mp hheld
      -- the other coroutine stays suspended, and its handle is gone
      obtain ⟨v, hv, hvk⟩ := awaiting_of_held hx.held (by rw [hst]; rfl) hk
      have hs : next a .suspend = some a' := hs
      simp only [next, hst, suspendNext, Option.some.injEq] at hs
      subst hs
      have hother := (hx'.handle_iff v.sessionId k).mpr (.inl ⟨v, hv, rfl⟩)
      rw [hvk] at hother
      have hkh : h = k := by simpa using hother
      rw [hst] at hf
      have hrun : a.awaiting h = none := (hf.running _ List.mem_cons_self).2
      rw [hkh, hv] at hrun
      cases hrun
    | _ => trivial
  | throws =>
    intro h pc rest hst hmay
    have hs : a.throwNext = some a' := hs
    simp only [throwNext, hst, if_pos hmay, Option.some.injEq] at hs
    subst hs
    by_contra hstore
    -- the handle of the coroutine, which runs on, stays in the map
    have hsw : ∃ w, storing a.stack = some (h, w) := by
      rw [hst]
      cases pc with
      | store w => exact absurd ⟨w, rfl⟩ hstore
      | send w | setTimeout w => exact ⟨w, rfl⟩
      | body | leave w => cases hmay
    obtain ⟨w, hw⟩ := hsw
    rw [hst] at hf
    have hrun : a.awaiting h = none := (hf.running _ List.mem_cons_self).2
    rcases (hx'.handle_iff w.sessionId h).mp (hx.stored hw) with ⟨v, hv, -⟩ | ⟨v, hv, -⟩
    · have hv : a.awaiting h = some v := hv
      rw [hrun] at hv
      cases hv
    · cases hv

end Suspending

lemma suspending_start : Suspending (start, .empty) where
  frames := ⟨by simp [start], by simp [start], by simp [start], by simp [start]⟩
  pristine h w rest hs := by cases hs
  tidy := by
    refine ⟨Bool.noConfusion, fun k h => ⟨fun hk => (by cases hk), ?_⟩⟩
    rintro (⟨w, hw, -⟩ | ⟨w, hw, -⟩) <;> cases hw

/-- All along a run `waitMap_` has exactly the handles of the suspended coroutines, and an exception
leaves it as it was before the `co_await`, exactly when no exception comes after a handle has been
stored and no handle replaces another. -/
theorem waitMapExact_iff (ls : List AwaitAction) :
    noting.Always WaitMapExact (start, .empty) ls ↔
      noting.Admits (fun x l => x.1.Undisturbed l) (start, .empty) ls := by
  refine Machine.always_iff_admits (I := Suspending) ?_ ?_ ?_ suspending_start
    suspending_start.tidy ls
  · rintro ⟨a, g⟩ l hnone
    have hnone : throwing.next a l = none := Option.map_eq_none_iff.mp hnone
    cases l with
    | run l =>
      cases l with
      | suspend =>
        intro h w rest hst
        have hnone : next a .suspend = none := hnone
        have hst : a.stack = ⟨h, .store w⟩ :: rest := hst
        simp [next, hst, suspendNext] at hnone
      | _ => trivial
    | throws =>
      intro h pc rest hst hmay
      have hnone : a.throwNext = none := hnone
      have hst : a.stack = ⟨h, pc⟩ :: rest := hst
      simp [throwNext, hst, hmay] at hnone
  · rintro ⟨a, g⟩ l x' hx hok hs
    obtain ⟨a', hnext, rfl⟩ := Option.map_eq_some_iff.mp hs
    cases l with
    | run l => exact hx.step hok hnext
    | throws => exact hx.throws hok hnext
  · rintro ⟨a, g⟩ l x' hx - hs
    obtain ⟨a', hnext, rfl⟩ := Option.map_eq_some_iff.mp hs
    refine ⟨hx.undisturbed hnext, fun hok => ?_⟩
    cases l with
    | run l => exact (hx.step hok hnext).tidy
    | throws => exact (hx.throws hok hnext).tidy

/-- A call whose request cannot be sent; the handler ends with the exception. -/
def failedCall : List AwaitAction :=
  [.run (.process { type := .userMessage }), .run (.coAwait .call), .run .suspend, .throws,
    .run .coReturn]

/-- The handle of the coroutine that has ended is still in the map. -/
theorem waitMap_not_exact_of_failedCall : ¬ ∀ ls : List AwaitAction,
    noting.Always WaitMapExact (start, .empty) ls := by
  intro h
  let x := noting.replay (start, .empty) failedCall
  have hx : WaitMapExact x := h failedCall failedCall x (List.prefix_refl _) rfl
  have hleft : x.1.waitMap 1 = some 0 := by decide
  obtain ⟨w, hw, -⟩ := hx.suspended rfl hleft
  cases hw

end Actor

end Balabala
