import Balabala.Actor.Session.Responses

/-!
# Session ids that are given out again

`AllocSession` counts up without a look at `waitMap_`. The session of an awaiter is fit for use when
it is not `0`, which `OnMessage` does not take for a session, and when no suspended coroutine is in
`waitMap_` under it. It is, as long as the number of allocations has not come to a multiple of 2^32,
and no coroutine is still suspended in the session that was allocated 2^32 allocations ago.
-/

namespace Balabala

open Foundation

namespace Actor

/-- The runs of an actor, with the observer who numbers the allocations. -/
def numbering : Machine (Actor × (Nat → Nat)) Action :=
  machine.observed (fun _ => 0) fun number a _ a' => noteAwait number a a'

lemma numbered_of_next {x x' : Actor × (Nat → Nat)} {l : Action} (hn : Numbered x.1 x.2)
    (hs : numbering.next x l = some x') : Step x.1 x'.1 ∧ Numbered x'.1 x'.2 := by
  obtain ⟨hnext, hrec⟩ := Machine.next_of_observed hs
  have hstep := Step.of_next hnext
  rw [hrec]
  exact ⟨hstep, (hstep.numbered hn).1⟩

/-- The sessions can be used: a session that has just been allocated is not `0` and free, and every
suspended coroutine is found by a response to its session. -/
structure Usable (a : Actor) : Prop where
  allocated : ∀ h w rest, a.stack = ⟨h, .store w⟩ :: rest →
    w.sessionId ≠ 0 ∧ a.waitMap w.sessionId = none
  nonzero : ∀ k h, a.waitMap k = some h → k ≠ 0
  waiting : ∀ h w, a.awaiting h = some w → a.waitMap w.sessionId = some h

/-- When a coroutine awaits, the number of allocations does not become a multiple of 2^32, and
nobody is waiting since 2^32 allocations ago. -/
def Spaced (x : Actor × (Nat → Nat)) : Action → Prop
  | .coAwait _ => ∀ h rest, x.1.stack = ⟨h, .body⟩ :: rest → ¬ 2 ^ 32 ∣ x.1.allocated + 1 ∧
      ∀ k g, x.1.waitMap k = some g → x.1.allocated + 1 ≠ x.2 g + 2 ^ 32
  | _ => True

variable {a : Actor} {number : Nat → Nat}

/-- The next session is `0` at the multiples of 2^32. -/
lemma Numbered.nextSessionId_eq_zero_iff (hn : Numbered a number) :
    a.nextSessionId = 0 ↔ 2 ^ 32 ∣ a.allocated + 1 := by
  rw [hn.next, ← UInt32.toNat_inj, UInt32.toNat_ofNat', Nat.dvd_iff_mod_eq_zero]
  rfl

/-- Who waits in the next session has been waiting for 2^32 allocations. -/
lemma Numbered.waitMap_nextSessionId (hn : Numbered a number) (hset : a.settled = a.allocated) :
    a.waitMap a.nextSessionId = none ↔
      ∀ k g, a.waitMap k = some g → a.allocated + 1 ≠ number g + 2 ^ 32 := by
  constructor
  · intro hfree k g hk e
    have hnext : k = a.nextSessionId := by
      rw [(hn.session k g hk).1, hn.next, e]
      exact UInt32.toNat_inj.mp (by simp [UInt32.toNat_ofNat'])
    rw [hnext, hfree] at hk
    cases hk
  · intro hspaced
    by_contra hheld
    obtain ⟨g, hg⟩ := Option.ne_none_iff_exists'.mp hheld
    obtain ⟨hk, hle⟩ := hn.session _ g hg
    have hlast := hn.last _ g hg
    rw [hset] at hlast
    have hmod : (a.allocated + 1) % 2 ^ 32 = number g % 2 ^ 32 := by
      rw [hn.next] at hk
      have := congrArg UInt32.toNat hk
      simpa [UInt32.toNat_ofNat'] using this
    have hne := hspaced _ g hg
    omega

namespace Usable

/-- Running coroutines come, go and move, and none allocates a session. -/
lemma setStack (hu : Usable a) {stack : List Activation} {frames : Nat} {log : List SessionEvent}
    (hs : ∀ h w rest, stack ≠ ⟨h, .store w⟩ :: rest) :
    Usable { a with stack, frames, log } where
  allocated h w rest hst := absurd hst (hs h w rest)
  nonzero := hu.nonzero
  waiting := hu.waiting

lemma store (hu : Usable a) {h : Nat} {w : Awaiter} {rest : List Activation}
    (hs : a.stack = ⟨h, .store w⟩ :: rest) :
    Usable { a with waitMap := Function.update a.waitMap w.sessionId (some h)
                    stack := ⟨h, .send w⟩ :: rest } := by
  obtain ⟨hzero, hfree⟩ := hu.allocated h w rest hs
  refine ⟨fun g v r hst => ?_, fun k g hg => ?_, ?_⟩
  · cases hst
  · have hg : Function.update a.waitMap w.sessionId (some h) k = some g := hg
    by_cases e : k = w.sessionId
    · rw [e]
      exact hzero
    · rw [Function.update_of_ne e] at hg
      exact hu.nonzero k g hg
  · refine AwaitersHeld.store hu.waiting fun g v hv e => ?_
    have hheld := hu.waiting g v hv
    rw [e, hfree] at hheld
    cases hheld

lemma suspended (hu : Usable a) {h : Nat} {w : Awaiter} {rest : List Activation}
    (hw : a.waitMap w.sessionId = some h) (hbody : ∀ b ∈ rest, b.pc = .body)
    (log : List SessionEvent) :
    Usable { a with stack := rest, awaiting := Function.update a.awaiting h (some w), log } where
  allocated _ _ _ hst := absurd hst (ne_store_of_bodies hbody)
  nonzero := hu.nonzero
  waiting := AwaitersHeld.suspended hu.waiting hw

lemma resumed (hu : Usable a) {h : Nat} {w : Awaiter} (hw : a.awaiting h = some w)
    (responses : UInt32 → Option ActorMessage) (log : List SessionEvent) :
    Usable { a with waitMap := Function.update a.waitMap w.sessionId none
                    responseMap := responses
                    stack := [⟨h, .body⟩]
                    awaiting := Function.update a.awaiting h none
                    log } := by
  refine ⟨fun g v r hst => ?_, fun k g hg => ?_, AwaitersHeld.resumed hu.waiting hw⟩
  · cases hst
  · have hg : Function.update a.waitMap w.sessionId none k = some g := hg
    by_cases e : k = w.sessionId
    · rw [e, Function.update_self] at hg
      cases hg
    · rw [Function.update_of_ne e] at hg
      exact hu.nonzero k g hg

/-- `AllocSession` gives out a session that can be used, as long as the allocations are spaced. -/
lemma allocate_iff (hn : Numbered a number) (hu : Usable a) {h : Nat} {rest : List Activation}
    (hs : a.stack = ⟨h, .body⟩ :: rest) (kind : AwaitKind) :
    Usable { a with stack := ⟨h, .store ⟨kind, a.nextSessionId⟩⟩ :: rest
                    nextSessionId := a.nextSessionId + 1, allocated := a.allocated + 1 } ↔
      Spaced (a, number) (.coAwait kind) := by
  have hset : a.settled = a.allocated := by simp only [settled, hs]
  have hfresh : a.nextSessionId ≠ 0 ∧ a.waitMap a.nextSessionId = none ↔
      Spaced (a, number) (.coAwait kind) := by
    rw [Ne, hn.nextSessionId_eq_zero_iff, hn.waitMap_nextSessionId hset]
    exact ⟨fun hf _ _ _ => hf, fun hf => hf h rest hs⟩
  rw [← hfresh]
  constructor
  · intro hu'
    exact hu'.allocated h ⟨kind, a.nextSessionId⟩ rest rfl
  · intro hf
    refine ⟨fun g w r hst => ?_, hu.nonzero, hu.waiting⟩
    cases hst
    exact hf

/-- Only an allocation can give out a session that cannot be used. -/
lemma step_iff {a' : Actor} (hn : Numbered a number) (hu : Usable a) {l : Action}
    (hs : machine.next a l = some a') : Usable a' ↔ Spaced (a, number) l := by
  by_cases hl : ∃ kind, l = .coAwait kind
  · obtain ⟨kind, rfl⟩ := hl
    change next a (.coAwait kind) = some a' at hs
    simp only [next] at hs
    split at hs
    · rename_i h rest hst
      cases hs
      exact allocate_iff hn hu hst kind
    · cases hs
  · have hl : ∀ kind, l ≠ .coAwait kind := fun kind e => hl ⟨kind, e⟩
    have hspaced : Spaced (a, number) l := by
      cases l with
      | coAwait kind => exact absurd rfl (hl kind)
      | _ => trivial
    have hsame := allocated_of_next hs hl
    have hf := hn.frames
    refine ⟨fun _ => hspaced, fun _ => ?_⟩
    cases Step.of_next hs with
    | start msg hst hm => exact hu.setStack fun g w r e => by cases e
    | drop msg hst hw => exact hu.setStack fun g w r e => by rw [hst] at e; cases e
    | resume msg h hst hm hw =>
      obtain ⟨w, responses, ha, -, heq⟩ := resumeWaiting_of_held hn.held hst hw
      rw [heq]
      exact hu.resumed ha responses _
    | callCoroutine h rest hst => exact hu.setStack fun g w r e => by cases e
    | coAwait h rest kind hst => exact absurd hsame (Nat.succ_ne_self _)
    | store h rest w hst => exact hu.store hst
    | send h rest w hst | setTimeout h rest w hst =>
      exact hu.setStack fun g v r e => by cases e
    | leave h rest w hst =>
      rw [hst] at hf
      exact hu.suspended (hn.stored h w (by rw [hst]; rfl)) hf.callers _
    | coReturn h rest hst =>
      rw [hst] at hf
      exact hu.setStack fun g v r => ne_store_of_bodies hf.callers

lemma start : Usable start where
  allocated h w rest hs := by cases hs
  nonzero k h hk := by cases hk
  waiting h w hw := by cases hw

end Usable

/-- All along a run the sessions can be used exactly when the allocations of the run are spaced. -/
theorem usable_iff (ls : List Action) :
    numbering.Always (fun x => Usable x.1) (start, fun _ => 0) ls ↔
      numbering.Admits Spaced (start, fun _ => 0) ls := by
  refine Machine.always_iff_admits (I := fun x : Actor × (Nat → Nat) => Numbered x.1 x.2) ?_ ?_ ?_
    (numbered_start _) Usable.start ls
  · rintro ⟨a, number⟩ l hnone
    cases l with
    | coAwait kind =>
      intro h rest hst
      have hst : a.stack = ⟨h, .body⟩ :: rest := hst
      have hnone := Option.map_eq_none_iff.mp hnone
      change next a (.coAwait kind) = none at hnone
      simp [next, hst] at hnone
    | _ => trivial
  · rintro x l x' hn - hs
    exact (numbered_of_next hn hs).2
  · rintro ⟨a, number⟩ l ⟨a', number'⟩ hn hu hs
    exact hu.step_iff hn (Machine.next_of_observed hs).1

/-- One message whose handler makes a call. -/
def oneCall : List Action :=
  [.process { type := .userMessage }, .coAwait .call] ++ List.replicate 4 .suspend

/-- A handler that makes a call allocates a session, whatever else is waiting. -/
lemma run_oneCall {x : Actor × (Nat → Nat)} (hs : x.1.stack = []) :
    ∃ x', numbering.run x oneCall = some x' ∧ x'.1.stack = [] ∧
      x'.1.allocated = x.1.allocated + 1 := by
  obtain ⟨a, number⟩ := x
  obtain ⟨nextSessionId, waitMap, responseMap, stack, awaiting, frames, allocated, log⟩ := a
  obtain rfl : stack = [] := hs
  exact ⟨_, rfl, rfl, rfl⟩

lemma run_calls (n : Nat) :
    ∃ x, numbering.run (start, fun _ => 0) (List.replicate n oneCall).flatten = some x ∧
      x.1.stack = [] ∧ x.1.allocated = n := by
  induction n with
  | zero => exact ⟨_, rfl, rfl, rfl⟩
  | succ n ih =>
    obtain ⟨x, hrun, hstack, halloc⟩ := ih
    obtain ⟨x', hrun', hstack', halloc'⟩ := run_oneCall hstack
    refine ⟨x', ?_, hstack', by rw [halloc', halloc]⟩
    rw [List.replicate_succ', List.flatten_append, Machine.run_append, hrun, Option.bind_some,
      List.flatten_singleton, hrun']

/-- The call that follows after a number of calls just below a multiple of 2^32. -/
lemma not_spaced_of_calls {n : Nat} (hn : 2 ^ 32 ∣ n + 1) :
    ¬ numbering.Admits Spaced (start, fun _ => 0) ((List.replicate n oneCall).flatten ++
      [.process { type := .userMessage }, .coAwait .call]) := by
  intro h
  obtain ⟨x, hrun, hstack, halloc⟩ := run_calls n
  obtain ⟨a, number⟩ := x
  have hstep : numbering.run (a, number) [.process { type := .userMessage }] =
      some ({ a with log := a.log ++ [.processed { type := .userMessage }]
                     stack := [⟨a.frames, .body⟩], frames := a.frames + 1 }, number) := by
    obtain ⟨nextSessionId, waitMap, responseMap, stack, awaiting, frames, allocated, log⟩ := a
    obtain rfl : stack = [] := hstack
    rfl
  have hpre : numbering.run (start, fun _ => 0)
      ((List.replicate n oneCall).flatten ++ [.process { type := .userMessage }]) =
      numbering.run (a, number) [.process { type := .userMessage }] := by
    rw [Machine.run_append, hrun, Option.bind_some]
  have hspaced := h _ (.coAwait .call) _ (by simp) (hpre.trans hstep)
  have halloc : a.allocated = n := halloc
  apply (hspaced a.frames [] rfl).1
  rw [halloc]
  exact hn

/-- After 2^32 - 1 calls that nobody has answered, the next one is in session 0. -/
theorem sessions_run_out : ¬ ∀ ls : List Action,
    numbering.Always (fun x => Usable x.1) (start, fun _ => 0) ls := by
  intro h
  have hdvd : 2 ^ 32 ∣ 2 ^ 32 - 1 + 1 := by decide
  exact not_spaced_of_calls hdvd ((usable_iff _).mp (h _))

end Actor

end Balabala
