import Balabala.Actor.Lua.Release

/-!
# Frames that are leaked, or destroyed too late

The order of the destructors is only right when no frame is left. A drop of the last `shared_ptr`
that finds one destroys it after `lua_close`, or not at all. A session that is stored again while a
frame is suspended under it loses the handle of that frame, which nothing can destroy any more. And
an exception that leaves `await_suspend` after the handle has been stored leaves a handle behind
under which the frame is destroyed a second time.
-/

namespace Balabala

open Foundation

/-! ### Handles that are lost -/

/-- The handle of the suspended frame `g` is lost. -/
structure Lost (g : Nat) (a : Actor) : Prop where
  created : g < a.frames
  idle : ∀ b ∈ a.stack, b.frame ≠ g
  unstored : ∀ k, a.waitMap k ≠ some g

/-- Nothing runs a frame again whose handle is lost. -/
theorem Lost.step {g : Nat} {a a' : Actor} (hl : Lost g a) (h : Actor.Step a a') : Lost g a' := by
  obtain ⟨hlt, hidle, hunstored⟩ := hl
  have hmove : ∀ {h : Nat} {pc : FramePc} {rest : List Activation}, a.stack = ⟨h, pc⟩ :: rest →
      ∀ pc', ∀ b ∈ (⟨h, pc'⟩ : Activation) :: rest, b.frame ≠ g := by
    intro h pc rest hs pc'
    rw [hs, List.forall_mem_cons] at hidle
    exact List.forall_mem_cons.mpr hidle
  have hpop : ∀ {b : Activation} {rest : List Activation}, a.stack = b :: rest →
      ∀ b ∈ rest, b.frame ≠ g := by
    intro b rest hs
    rw [hs, List.forall_mem_cons] at hidle
    exact hidle.2
  have hnew : a.frames ≠ g := Nat.ne_of_gt hlt
  cases h with
  | start => exact ⟨Nat.lt_succ_of_lt hlt, by simpa using hnew, hunstored⟩
  | drop => exact ⟨hlt, hidle, hunstored⟩
  | resume msg h _ _ hw =>
    obtain ⟨hwaitMap, hstack, hframes⟩ :=
      Actor.resumeWaiting_fields hw (a.log ++ [.processed msg]) msg
    refine ⟨lt_of_lt_of_eq hlt hframes.symm, ?_, fun k => ?_⟩
    · rw [hstack, List.forall_mem_cons]
      refine ⟨?_, hidle⟩
      rintro rfl
      exact hunstored _ hw
    · rw [hwaitMap]
      by_cases hk : k = msg.sessionId
      · simp [hk]
      · rw [Function.update_of_ne hk]
        exact hunstored k
  | callCoroutine h rest hs =>
    exact ⟨Nat.lt_succ_of_lt hlt, List.forall_mem_cons.mpr ⟨hnew, hmove hs _⟩, hunstored⟩
  | store h rest w hs =>
    refine ⟨hlt, hmove hs _, fun k => ?_⟩
    show Function.update a.waitMap w.sessionId (some h) k ≠ some g
    by_cases hk : k = w.sessionId
    · subst hk
      simpa using hmove hs .body _ List.mem_cons_self
    · rw [Function.update_of_ne hk]
      exact hunstored k
  | coAwait h rest kind hs => exact ⟨hlt, hmove hs _, hunstored⟩
  | send h rest w hs => exact ⟨hlt, hmove hs _, hunstored⟩
  | setTimeout h rest w hs => exact ⟨hlt, hmove hs _, hunstored⟩
  | leave h rest w hs => exact ⟨hlt, hpop hs, hunstored⟩
  | coReturn h rest hs => exact ⟨hlt, hpop hs, hunstored⟩

/-- Nor does the exception that leaves `await_suspend` of another one. -/
lemma Lost.throws {g h : Nat} {pc : FramePc} {rest : List Activation} {a : Actor} (hl : Lost g a)
    (hs : a.stack = ⟨h, pc⟩ :: rest) : Lost g { a with stack := ⟨h, .body⟩ :: rest } := by
  have hidle := hl.idle
  rw [hs, List.forall_mem_cons] at hidle
  exact ⟨hl.created, List.forall_mem_cons.mpr hidle, hl.unstored⟩

/-- `StoreWaiting` under the session of the suspended frame `g` loses its handle. -/
lemma Tracked.lost {a : Actor} {events : List LuaEvent} {h g : Nat} {w : Awaiter}
    (ht : Tracked a events) (hs : a.stack = [⟨h, .store w⟩])
    (hw : a.waitMap w.sessionId = some g) :
    Lost g { a with waitMap := Function.update a.waitMap w.sessionId (some h)
                    stack := [⟨h, .send w⟩] } ∧ .frameDestroyed g ∉ events := by
  have hstored : ∀ {k : UInt32}, a.waitMap k = some g →
      ∃ v, a.awaiting g = some v ∧ v.sessionId = k :=
    ht.suspended_of_stored (by simp [hs, FramePc.stored])
  obtain ⟨v, hv, hvw⟩ := hstored hw
  have hne : h ≠ g := by
    rintro rfl
    have hnone := (ht.frames.running ⟨h, .store w⟩ (hs ▸ List.mem_cons_self)).2
    rw [hnone] at hv
    cases hv
  refine ⟨⟨ht.frames.known g v hv, by simpa using hne, fun k hk => ?_⟩, ?_⟩
  · have hk : Function.update a.waitMap w.sessionId (some h) k = some g := hk
    by_cases heq : k = w.sessionId
    · subst heq
      exact hne (by simpa using hk)
    · rw [Function.update_of_ne heq] at hk
      obtain ⟨v', hv', hk'⟩ := hstored hk
      rw [hv] at hv'
      cases hv'
      exact heq (hk'.symm.trans hvw)
  · rw [ht.gone, hv]
    simp

namespace LuaActor

variable {Tid : Type*} {s : LuaActor Tid}

/-! ### A drop that finds a frame -/

/-- A frame that is running is leaked, and one that is suspended is destroyed too late. -/
lemma Kept.not_released_destroy (hk : Kept s) (hi : s.idle = false) : ¬ Released s.destroy := by
  intro hr
  by_cases hsessions : s.sessions = []
  · have hne : s.actor.stack ≠ [] := by
      intro hs
      simp [idle, hs, hsessions] at hi
    obtain ⟨b, rest, hs⟩ := List.exists_cons_of_ne_nil hne
    have hb : b ∈ s.actor.stack := hs ▸ List.mem_cons_self
    have hcount := hr.all rfl b.frame (hk.tracked.frames.running b hb).1
    have hmem := List.one_le_count_iff.mp (Nat.le_of_eq hcount.symm)
    rw [events_destroy, waiting, hsessions] at hmem
    have hgone : .frameDestroyed b.frame ∈ s.events := by simpa using hmem
    exact ((hk.tracked.gone _).mp hgone).2.2 b hb rfl
  · obtain ⟨k, rest, hcons⟩ := List.exists_cons_of_ne_nil hsessions
    have hk' : k ∈ s.sessions := hcons ▸ List.mem_cons_self
    obtain ⟨g, hg⟩ := Option.isSome_iff_exists.mp ((hk.keyed.mem_iff k).mp hk')
    have hwaiting : g ∈ s.waiting := List.mem_filterMap.mpr ⟨k, hk', hg⟩
    have horder := hr.order
    rw [events_destroy, Ordered, List.pairwise_append] at horder
    exact horder.2.2 .envClosed (by simp) (.frameDestroyed g) (by simpa using hwaiting) rfl g rfl

/-- The first time that the last `shared_ptr` is dropped out of order is one time too many. -/
theorem not_released_of_drop [DecidableEq Tid] {s' : LuaActor Tid} {l : Action Tid}
    (h : (machine Tid).Reach (fun s l => s.inOrder l = true) s) (hl : l ≠ .handler .suspend)
    (hl' : l ≠ .throws) (ho : s.inOrder l = false)
    (hnext : (machine Tid).next s l = some s') : ¬ Released s' := by
  have hk := kept_of_reach h
  change next s l = some s' at hnext
  cases l with
  | release t =>
    simp only [next] at hnext
    split_ifs at hnext with ht
    cases hnext
    obtain ⟨hu, hi⟩ := Bool.or_eq_false_iff.mp ho
    rw [dropped, if_pos (by simpa using hu)]
    exact (hk.setOwners (hk.alive_of_mem ht.1) _ _).not_released_destroy hi
  | unregister =>
    simp only [next] at hnext
    split_ifs at hnext with hr
    cases hnext
    obtain ⟨hu, hi⟩ := Bool.or_eq_false_iff.mp ho
    rw [dropped, if_pos (by simpa using hu)]
    exact (hk.setOwners (hk.alive_of_registered hr) _ _).not_released_destroy hi
  | handler la =>
    cases la with
    | suspend => exact absurd rfl hl
    | process | callCoroutine | coAwait | coReturn => cases ho
  | throws => exact absurd rfl hl'
  | copy | process | stopExchange | joined | round | drain | clear => cases ho

/-! ### An exception after the handle has been stored -/

/-- The handle of a frame that has been destroyed is still in `waitMap_`. -/
def Dangling (g : Nat) (s : LuaActor Tid) : Prop := .frameDestroyed g ∈ s.events ∧ g ∈ s.waiting

/-- `DestroyAllCoroutines` destroys the frame again. -/
lemma Dangling.one_lt_count {g : Nat} (h : Dangling g s) {events : List LuaEvent}
    (hevents : .frameDestroyed g ∈ events) :
    1 < (events ++ s.waiting.map LuaEvent.frameDestroyed).count (.frameDestroyed g) := by
  have hfirst := List.one_le_count_iff.mpr hevents
  have hagain := List.one_le_count_iff.mpr h.2
  rw [List.count_append, count_frameDestroyed]
  omega

lemma Dangling.not_released {g : Nat} (h : Dangling g s) :
    ¬ Released s.destroyAllCoroutines ∧ ¬ Released s.destroy := by
  constructor
  · intro hr
    exact Nat.not_le.mpr (h.one_lt_count h.1) (hr.once g)
  · intro hr
    have hmem : .frameDestroyed g ∈ s.events ++ [.refsReleased, .envClosed] :=
      List.mem_append_left _ h.1
    exact Nat.not_le.mpr (h.one_lt_count hmem) (hr.once g)

/-- The handle of the handler that an exception has left too late is still in `waitMap_`. -/
lemma Kept.waiting_of_throw (hk : Kept s) {g : Nat} {pc : FramePc} {rest : List Activation}
    (hs : s.actor.stack = ⟨g, pc⟩ :: rest) (hmay : pc.mayThrow = true)
    (ho : s.beforeStore = false) : g ∈ s.waiting := by
  obtain rfl := hk.tracked.rest_eq_nil hs
  have hstored : ∃ w, pc.stored = some w := by
    cases pc with
    | send w | setTimeout w => exact ⟨w, rfl⟩
    | store w =>
      rw [beforeStore, hs] at ho
      cases ho
    | body | leave w => cases hmay
  obtain ⟨w, hw⟩ := hstored
  have hheld := hk.tracked.suspending g pc w hs hw
  have hkey : w.sessionId ∈ s.sessions := (hk.keyed.mem_iff _).mpr (by rw [hheld]; rfl)
  exact List.mem_filterMap.mpr ⟨w.sessionId, hkey, hheld⟩

/-- After an exception that comes too late, a handler that ends by it is destroyed a second time, by
`Stop` or by whoever drops the last `shared_ptr`. -/
theorem not_released_of_throw [DecidableEq Tid] {s₁ s₂ : LuaActor Tid}
    (h : (machine Tid).Reach (fun s l => s.inOrder l = true) s) (ho : s.inOrder .throws = false)
    (hthrow : (machine Tid).next s .throws = some s₁)
    (hreturn : (machine Tid).next s₁ (.handler .coReturn) = some s₂) :
    ¬ Released s₂.destroyAllCoroutines ∧ ¬ Released s₂.destroy := by
  have hk := kept_of_reach h
  change next s .throws = some s₁ at hthrow
  change next s₁ (.handler .coReturn) = some s₂ at hreturn
  simp only [next] at hthrow
  split_ifs at hthrow
  obtain ⟨a, ha, rfl⟩ := Option.map_eq_some_iff.mp hthrow
  unfold Actor.throwNext at ha
  split at ha
  · rename_i g pc rest hs
    split_ifs at ha with hmay
    cases ha
    have hwaiting := hk.waiting_of_throw hs hmay ho
    simp only [next] at hreturn
    split_ifs at hreturn
    simp only [actorNext, Actor.next, Option.map_some] at hreturn
    cases hreturn
    refine Dangling.not_released (g := g) ⟨by simp [eventsOf], ?_⟩
    -- the keys of `waitMap_` have not changed
    obtain ⟨k, hkey, hheld⟩ := List.mem_filterMap.mp hwaiting
    refine List.mem_filterMap.mpr ⟨k, ?_, hheld⟩
    simpa [sessionsOf, candidates] using ⟨hkey, by rw [hheld]; rfl⟩
  · cases ha

/-! ### A session that is stored a second time -/

/-- A frame whose handle is lost, and that has not been destroyed. -/
def Leaked (g : Nat) (s : LuaActor Tid) : Prop :=
  Lost g s.actor ∧ .frameDestroyed g ∉ s.events

section Leaked

variable {g : Nat}

lemma Leaked.destroyAllCoroutines (hl : Leaked g s) : Leaked g s.destroyAllCoroutines := by
  obtain ⟨⟨hlt, hidle, hunstored⟩, halive⟩ := hl
  refine ⟨⟨hlt, hidle, fun k hk => by cases hk⟩, ?_⟩
  show .frameDestroyed g ∉ s.events ++ s.waiting.map LuaEvent.frameDestroyed
  rw [List.mem_append, mem_frameDestroyed, waiting, List.mem_filterMap]
  rintro (hmem | ⟨k, -, hk⟩)
  · exact halive hmem
  · exact hunstored k hk

lemma Leaked.dropped (hl : Leaked g s) : Leaked g s.dropped := by
  unfold LuaActor.dropped
  split_ifs
  · have hmembers : Leaked g s.destroyMembers := ⟨hl.1, by simpa [destroyMembers] using hl.2⟩
    exact hmembers.destroyAllCoroutines
  · exact hl

/-- Only the running frame is destroyed by a step of the base class. -/
lemma Leaked.eventsOf (hl : Leaked g s) (l : Actor.Action) :
    .frameDestroyed g ∉ s.eventsOf l := by
  unfold LuaActor.eventsOf
  split
  · rename_i h pc rest hs
    rw [List.mem_append, List.mem_singleton]
    rintro (hmem | heq)
    · exact hl.2 hmem
    · cases heq
      exact hl.1.idle _ (hs ▸ List.mem_cons_self) rfl
  · exact hl.2

lemma Leaked.not_released (hl : Leaked g s) (hd : s.destroyed = true) : ¬ Released s := by
  intro hr
  have hcount := hr.all hd g hl.1.created
  rw [List.count_eq_zero_of_not_mem hl.2] at hcount
  cases hcount

end Leaked

variable [DecidableEq Tid]

theorem Step.leaked {g : Nat} {s' : LuaActor Tid} {l : Action Tid} (h : Step s l s')
    (hl : Leaked g s) : Leaked g s' := by
  cases h with
  | actor l la a worker hd hstep => exact ⟨hl.1.step (Actor.Step.of_next hstep), hl.eventsOf la⟩
  | throws g pc rest hd hs hmay => exact ⟨hl.1.throws hs, hl.2⟩
  | release | unregister => exact Leaked.dropped hl
  | clear => exact hl.destroyAllCoroutines
  | copy | stopExchange | joined | round | clearNothing => exact hl

lemma exists_leaked {s' : LuaActor Tid} (hk : Kept s) (ho : s.inOrder (.handler .suspend) = false)
    (hnext : (machine Tid).next s (.handler .suspend) = some s') : ∃ g, Leaked g s' := by
  change s.sessionFree = false at ho
  unfold sessionFree at ho
  split at ho
  · rename_i h w rest hs
    obtain rfl := hk.tracked.rest_eq_nil hs
    obtain ⟨g, hg⟩ := Option.isSome_iff_exists.mp (Option.isNone_eq_false_iff.mp ho)
    change next s (.handler .suspend) = some s' at hnext
    simp only [next] at hnext
    split_ifs at hnext
    simp only [actorNext, Actor.next, hs, Actor.suspendNext, Option.map_some] at hnext
    cases hnext
    exact ⟨g, hk.tracked.lost hs hg⟩
  · cases ho

/-- From the first time on that a session is stored again while a frame is suspended under it, the
actor is never destroyed properly. -/
theorem not_released_of_reuse {s' s'' : LuaActor Tid} {ls : List (Action Tid)}
    (h : (machine Tid).Reach (fun s l => s.inOrder l = true) s)
    (ho : s.inOrder (.handler .suspend) = false)
    (hnext : (machine Tid).next s (.handler .suspend) = some s')
    (hrun : (machine Tid).run s' ls = some s'') (hd : s''.destroyed = true) : ¬ Released s'' := by
  obtain ⟨g, hg⟩ := exists_leaked (kept_of_reach h) ho hnext
  have hl : Leaked g s'' :=
    Machine.run_invariant (fun _ _ _ hl hs => (Step.of_next hs).leaked hl) hg hrun
  exact hl.not_released hd

end LuaActor

end Balabala
