import Balabala.Actor.Session.Numbering

/-!
# What is left in responseMap_

`ResumeWaiting` stores the response before it resumes the coroutine, and the `await_resume` of
`CallAwaiter` and of `ClusterCallAwaiter` take it out again. That of `SleepAwaiter` does nothing, so
every wake-up leaves an entry behind.
-/

namespace Balabala

open Foundation

namespace Actor

/-- However many sessions there have been, the sessions are in order. -/
lemma exists_numbered {a : Actor} (h : machine.Reachable a) : ∃ number, Numbered a number := by
  refine h.invariant (P := fun a => ∃ number, Numbered a number) ?_ ?_
  · rintro a rfl
    exact ⟨fun _ => 0, numbered_start _⟩
  · rintro a l a' _ ⟨number, hn⟩ _ hs
    exact ⟨_, ((Step.of_next hs).numbered hn).1⟩

/-- The message is a response that resumes a coroutine suspended in `Sleep`. -/
def wakesSleeper (a : Actor) (msg : ActorMessage) : Bool :=
  msg.isResponse && 0 < msg.sessionId &&
    ((a.waitMap msg.sessionId).bind a.awaiting).any fun w => w.kind = .sleep

/-- No step hands the wake-up of a `Sleep` to `OnMessage`. -/
def NoWakeUp (a : Actor) : Action → Prop
  | .process msg => a.wakesSleeper msg = false
  | _ => True

instance (a : Actor) : ∀ l, Decidable (a.NoWakeUp l)
  | .process msg => inferInstanceAs (Decidable (a.wakesSleeper msg = false))
  | .callCoroutine | .coAwait _ | .suspend | .coReturn => inferInstanceAs (Decidable True)

/-- What the resumed coroutine leaves in `responseMap_`: the response, if it slept. -/
lemma responseMap_resumeWaiting {a : Actor} {h : Nat} {w : Awaiter} (msg : ActorMessage)
    (hw : a.waitMap w.sessionId = some h) (ha : a.awaiting h = some w) :
    (a.resumeWaiting w.sessionId msg).responseMap = Function.update a.responseMap w.sessionId
      (if w.kind = .sleep then some msg else none) := by
  unfold resumeWaiting awaitResume
  simp only [hw, ha]
  cases w.kind with
  | sleep => rfl
  | call | clusterCall => simp

/-- Only `ProcessOne` changes `responseMap_`. -/
lemma responseMap_next {a a' : Actor} {l : Action} (h : machine.next a l = some a')
    (hl : ∀ msg, l ≠ .process msg) : a'.responseMap = a.responseMap := by
  change next a l = some a' at h
  cases l with
  | process msg => exact absurd rfl (hl msg)
  | callCoroutine | coAwait kind | coReturn =>
    simp only [next] at h
    split at h
    · cases h
      rfl
    · cases h
  | suspend =>
    simp only [next] at h
    split at h
    · rename_i fr pc rest hs
      cases pc <;> cases h <;> rfl
    · cases h

/-- Until the next message, the entries stay. -/
lemma responseMap_run {a a' : Actor} {ls : List Action} (hls : ∀ msg, Action.process msg ∉ ls)
    (h : machine.run a ls = some a') : a'.responseMap = a.responseMap := by
  induction ls generalizing a with
  | nil =>
    obtain rfl : a = a' := by simpa using h
    rfl
  | cons l ls ih =>
    obtain ⟨b, hb, h⟩ := Option.bind_eq_some_iff.mp h
    rw [ih (fun msg hm => hls msg (List.mem_cons_of_mem _ hm)) h,
      responseMap_next hb fun msg e => hls msg (e ▸ List.mem_cons_self)]

/-- A message that does not wake a sleeper leaves nothing behind, and one that does its session's
entry. -/
lemma responseMap_onMessage {a : Actor} {number : Nat → Nat} (hn : Numbered a number)
    (hs : a.stack = []) (msg : ActorMessage) :
    (a.wakesSleeper msg = false → ∀ k, a.responseMap k = none →
      (a.onMessage msg).responseMap k = none) ∧
    (a.wakesSleeper msg = true → (a.onMessage msg).responseMap msg.sessionId = some msg) := by
  rw [onMessage]
  dsimp only
  split_ifs with hm
  · simp only [wakesSleeper, hm, Bool.true_and]
    cases hw : a.waitMap msg.sessionId with
    | none =>
      have hres : resumeWaiting { a with log := a.log ++ [.processed msg] } msg.sessionId msg =
          { a with log := a.log ++ [.processed msg] } := by
        rw [resumeWaiting]
        simp only [hw]
      rw [hres]
      exact ⟨fun _ k hk => hk, fun h => by simp at h⟩
    | some h =>
      obtain ⟨w, ha, hk⟩ := awaiting_of_held hn.held (by rw [hs]; rfl) hw
      have hwk : a.waitMap w.sessionId = some h := by rw [hk]; exact hw
      have hmap := responseMap_resumeWaiting
        (a := { a with log := a.log ++ [.processed msg] }) msg hwk ha
      rw [hk] at hmap
      rw [hmap]
      simp only [Option.bind_some, ha, Option.any_some, decide_eq_false_iff_not, decide_eq_true_eq]
      constructor
      · intro hkind k hkn
        rw [if_neg hkind]
        by_cases e : k = msg.sessionId
        · rw [e, Function.update_self]
        · rw [Function.update_of_ne e]
          exact hkn
      · intro hkind
        rw [if_pos hkind, Function.update_self]
  · refine ⟨fun _ k hk => hk, fun h => ?_⟩
    rw [wakesSleeper, Bool.eq_false_iff.mpr hm] at h
    cases h

/-- In every run in which no coroutine is resumed from a `Sleep`, no response is left when
`ProcessOne` ends; and whenever one is, its entry is still there at the end of that `ProcessOne`. -/
theorem responses_taken (a : Actor) :
    (machine.Reach NoWakeUp a → a.stack = [] → ∀ k, a.responseMap k = none) ∧
    ∀ msg a₁ ls a₂, machine.Reachable a → a.wakesSleeper msg = true →
      machine.next a (.process msg) = some a₁ → (∀ m, Action.process m ∉ ls) →
      machine.run a₁ ls = some a₂ → a₂.stack = [] → a₂.responseMap msg.sessionId ≠ none := by
  constructor
  · intro h _
    refine h.invariant (P := fun a => ∀ k, a.responseMap k = none) ?_ ?_
    · rintro a rfl k
      rfl
    · intro a l a' hr ha hok hs k
      by_cases hl : ∃ msg, l = .process msg
      · obtain ⟨msg, rfl⟩ := hl
        obtain ⟨number, hn⟩ := exists_numbered hr.reachable
        change next a (.process msg) = some a' at hs
        simp only [next] at hs
        split_ifs at hs with hstack
        cases hs
        exact (responseMap_onMessage hn hstack msg).1 hok k (ha k)
      · rw [responseMap_next hs fun msg e => hl ⟨msg, e⟩]
        exact ha k
  · intro msg a₁ ls a₂ hr hwake hs hls hrun _
    obtain ⟨number, hn⟩ := exists_numbered hr
    change next a (.process msg) = some a₁ at hs
    simp only [next] at hs
    split_ifs at hs with hstack
    cases hs
    have hentry := (responseMap_onMessage hn hstack msg).2 hwake
    rw [responseMap_run hls hrun, hentry]
    simp

lemma reach_start : machine.Reach NoWakeUp start := .start rfl

/-- A call that is answered, then another one that times out. -/
def twoCalls : List Action :=
  [.process { type := .userMessage }, .coAwait .call] ++ List.replicate 4 .suspend ++
    [.process { sessionId := 1, isResponse := true, data := [1] }, .coAwait .clusterCall] ++
    List.replicate 4 .suspend ++
    [.process { sessionId := 2, isResponse := true, error := .timeout }, .coReturn]

/-- Two calls of one coroutine leave no response behind, and the wake-up of a `Sleep` does. -/
theorem responses_taken_twoCalls :
    (∀ k, (machine.replayWith NoWakeUp start twoCalls).responseMap k = none) ∧
      (machine.replayWith NoWakeUp start twoCalls).log.length = 7 ∧
      (machine.replay start ([.process { type := .userMessage }, .coAwait .sleep] ++
        List.replicate 4 .suspend ++
        [.process { sessionId := 1, isResponse := true }, .coReturn])).responseMap 1 ≠ none := by
  refine ⟨(responses_taken _).1 (Machine.reach_replayWith reach_start _) (by decide), by decide, ?_⟩
  let a := machine.replay start ([.process { type := .userMessage }, .coAwait .sleep] ++
    List.replicate 4 .suspend)
  have ha : machine.Reachable a := Machine.reachable_replay reachable_start _
  exact (responses_taken a).2 { sessionId := 1, isResponse := true } _ [.coReturn] _ ha (by decide)
    rfl (by simp) rfl rfl

/-- A handler sleeps once, and the wake-up stays in the map. -/
theorem response_left_by_sleep : ¬ ∀ a, machine.Reachable a → a.stack = [] →
    ∀ k, a.responseMap k = none := by
  intro h
  let a := machine.replay start ([.process { type := .userMessage }, .coAwait .sleep] ++
    List.replicate 4 .suspend ++ [.process { sessionId := 1, isResponse := true }, .coReturn])
  have ha : machine.Reachable a := Machine.reachable_replay reachable_start _
  have hleft : (a.responseMap 1).isSome = true := by decide
  rw [h a ha (by decide) 1] at hleft
  cases hleft

end Actor

end Balabala
