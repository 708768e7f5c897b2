import Mathlib.Data.List.Count
import Mathlib.Data.List.Nodup
import Balabala.Actor.Lua.Basic

/-!
# Where the frames of a Lua actor are

Every frame of a handler runs, is suspended under a session of `waitMap_`, or is destroyed, as long
as no session is stored that a suspended frame has.
-/

namespace Balabala

open Foundation Actor

/-- The awaiter whose handle is in `waitMap_` already. -/
def FramePc.stored : FramePc → Option Awaiter
  | .body | .store _ => none
  | .send w | .setTimeout w | .leave w => some w

/-- Where the frames of an actor are. -/
structure Tracked (a : Actor) (events : List LuaEvent) : Prop where
  frames : Frames a.stack a.awaiting a.frames
  single : a.stack.tail = []
  /-- a handle in `waitMap_` is that of a frame that is suspended, or about to be -/
  stored : ∀ k h, a.waitMap k = some h →
    (∃ w, a.awaiting h = some w ∧ w.sessionId = k) ∨
      ∃ pc w, a.stack = [⟨h, pc⟩] ∧ pc.stored = some w ∧ w.sessionId = k
  suspended : ∀ h w, a.awaiting h = some w → a.waitMap w.sessionId = some h
  suspending : ∀ h pc w, a.stack = [⟨h, pc⟩] → pc.stored = some w →
    a.waitMap w.sessionId = some h
  /-- a frame that is neither running nor suspended is destroyed -/
  gone : ∀ h, .frameDestroyed h ∈ events ↔
    h < a.frames ∧ a.awaiting h = none ∧ ∀ b ∈ a.stack, b.frame ≠ h
  once : ∀ h, events.count (.frameDestroyed h) ≤ 1

namespace Tracked

variable {a a' : Actor} {events : List LuaEvent} {h : Nat} {w : Awaiter} {pc pc' : FramePc}

lemma rest_eq_nil (ht : Tracked a events) {b : Activation} {rest : List Activation}
    (hs : a.stack = b :: rest) : rest = [] := by
  have hsingle := ht.single
  rwa [hs] at hsingle

/-- Unless a handle has just been stored, those in `waitMap_` are those of suspended frames. -/
lemma suspended_of_stored (ht : Tracked a events) (hs : ∀ b ∈ a.stack, b.pc.stored = none)
    {k : UInt32} (hw : a.waitMap k = some h) : ∃ w, a.awaiting h = some w ∧ w.sessionId = k := by
  rcases ht.stored k h hw with hsuspended | ⟨pc, w, hs', hpc, -⟩
  · exact hsuspended
  · have hnone := hs ⟨h, pc⟩ (hs' ▸ List.mem_cons_self)
    rw [hpc] at hnone
    cases hnone

/-- A frame that is running or suspended is not destroyed. -/
lemma not_gone (ht : Tracked a events) (hs : a.stack = [⟨h, pc⟩]) :
    .frameDestroyed h ∉ events := by
  rw [ht.gone, hs]
  simp

lemma start_actor : Tracked .start [] where
  frames := ⟨by simp [Actor.start], by simp [Actor.start], List.nodup_nil, by simp [Actor.start]⟩
  single := rfl
  stored := by simp [Actor.start]
  suspended := by simp [Actor.start]
  suspending := by simp [Actor.start]
  gone := by simp [Actor.start]
  once := by simp

/-- The handler that runs moves on, and the maps stay as they are. -/
lemma move (ht : Tracked a events) (hs : a.stack = [⟨h, pc⟩])
    (hs' : a'.stack = [⟨h, pc'⟩]) (hpc : pc'.stored = pc.stored)
    (hawaiting : a'.awaiting = a.awaiting) (hwaitMap : a'.waitMap = a.waitMap)
    (hframes : a'.frames = a.frames) : Tracked a' events where
  frames := by
    have hf := ht.frames
    rw [hs] at hf
    rw [hs', hawaiting, hframes]
    exact hf.move pc'
  single := by
    rw [hs']
    rfl
  stored k g hg := by
    rw [hwaitMap] at hg
    rw [hawaiting]
    rcases ht.stored k g hg with hw | ⟨pc₀, w, hs₀, hpc₀, hk⟩
    · exact .inl hw
    · rw [hs] at hs₀
      cases hs₀
      exact .inr ⟨pc', w, hs', hpc.trans hpc₀, hk⟩
  suspended := by
    rw [hawaiting, hwaitMap]
    exact ht.suspended
  suspending g pc₀ w hs₀ hpc₀ := by
    rw [hs'] at hs₀
    cases hs₀
    rw [hwaitMap]
    exact ht.suspending h pc w hs (hpc.symm.trans hpc₀)
  gone g := by
    rw [hframes, hawaiting, hs', ht.gone g, hs]
    simp
  once := ht.once

/-- A new handler starts. -/
lemma start (ht : Tracked a events) (hs : a.stack = [])
    (hs' : a'.stack = [⟨a.frames, .body⟩]) (hawaiting : a'.awaiting = a.awaiting)
    (hwaitMap : a'.waitMap = a.waitMap) (hframes : a'.frames = a.frames + 1) :
    Tracked a' events where
  frames := by
    have hf := ht.frames
    rw [hs] at hf
    rw [hs', hawaiting, hframes]
    exact hf.push (by simp)
  single := by
    rw [hs']
    rfl
  stored k g hg := by
    rw [hwaitMap] at hg
    rw [hawaiting]
    exact .inl (ht.suspended_of_stored (by simp [hs]) hg)
  suspended := by
    rw [hawaiting, hwaitMap]
    exact ht.suspended
  suspending g pc₀ w hs₀ hpc₀ := by
    rw [hs'] at hs₀
    cases hs₀
    cases hpc₀
  gone g := by
    rw [hframes, hawaiting, hs', ht.gone g, hs]
    simp only [List.mem_singleton, forall_eq, List.not_mem_nil, false_implies, implies_true,
      and_true]
    constructor
    · rintro ⟨hlt, hw⟩
      exact ⟨Nat.lt_succ_of_lt hlt, hw, Nat.ne_of_gt hlt⟩
    · rintro ⟨hlt, hw, hne⟩
      exact ⟨Nat.lt_of_le_of_ne (Nat.le_of_lt_succ hlt) hne.symm, hw⟩
  once := ht.once

/-- `StoreWaiting`, under a session that no suspended frame has. -/
lemma store (ht : Tracked a events) (hs : a.stack = [⟨h, .store w⟩])
    (hfree : a.waitMap w.sessionId = none) :
    Tracked { a with waitMap := Function.update a.waitMap w.sessionId (some h)
                     stack := [⟨h, .send w⟩] } events where
  frames := by
    have hf := ht.frames
    rw [hs] at hf
    exact hf.move (.send w)
  single := rfl
  stored k g hg := by
    by_cases hk : k = w.sessionId
    · subst hk
      obtain rfl : h = g := by simpa using hg
      exact .inr ⟨.send w, w, rfl, rfl, rfl⟩
    · have hg : Function.update a.waitMap w.sessionId (some h) k = some g := hg
      rw [Function.update_of_ne hk] at hg
      exact .inl (ht.suspended_of_stored (by simp [hs, FramePc.stored]) hg)
  suspended g v hv := by
    have hne : v.sessionId ≠ w.sessionId := by
      intro heq
      have hsome := ht.suspended g v hv
      rw [heq, hfree] at hsome
      cases hsome
    show Function.update a.waitMap w.sessionId (some h) v.sessionId = some g
    rw [Function.update_of_ne hne]
    exact ht.suspended g v hv
  suspending g pc₀ v hs₀ hpc₀ := by
    cases hs₀
    cases hpc₀
    exact Function.update_self ..
  gone g := by
    rw [ht.gone g, hs]
    simp
  once := ht.once

/-- `await_suspend` returns. -/
lemma leave (ht : Tracked a events) (hs : a.stack = [⟨h, .leave w⟩]) (log : List SessionEvent) :
    Tracked { a with stack := [], awaiting := Function.update a.awaiting h (some w), log := log }
      events where
  frames := by
    have hf := ht.frames
    rw [hs] at hf
    exact hf.suspend w
  single := rfl
  stored k g hg := by
    left
    rcases ht.stored k g hg with ⟨v, hv, hk⟩ | ⟨pc₀, v, hs₀, hpc₀, hk⟩
    · have hne : g ≠ h := by
        rintro rfl
        have hnone := (ht.frames.running ⟨g, .leave w⟩ (by rw [hs]; exact List.mem_cons_self)).2
        rw [hnone] at hv
        cases hv
      exact ⟨v, (Function.update_of_ne hne ..).trans hv, hk⟩
    · rw [hs] at hs₀
      cases hs₀
      cases hpc₀
      exact ⟨w, Function.update_self .., hk⟩
  suspended g v hv := by
    have hv : Function.update a.awaiting h (some w) g = some v := hv
    by_cases hgh : g = h
    · subst hgh
      obtain rfl : w = v := by simpa using hv
      exact ht.suspending g (.leave w) w hs rfl
    · rw [Function.update_of_ne hgh] at hv
      exact ht.suspended g v hv
  suspending g pc₀ v hs₀ := by cases hs₀
  gone g := by
    rw [ht.gone g, hs]
    show _ ↔ g < a.frames ∧ Function.update a.awaiting h (some w) g = none ∧ _
    by_cases hgh : g = h
    · subst hgh
      simp
    · simp [hgh, Ne.symm hgh]
  once := ht.once

/-- The handler ends, and its frame is destroyed. -/
lemma coReturn (ht : Tracked a events) (hs : a.stack = [⟨h, .body⟩]) :
    Tracked { a with stack := [] } (events ++ [.frameDestroyed h]) where
  frames := by
    have hf := ht.frames
    rw [hs] at hf
    exact hf.pop
  single := rfl
  stored _ _ hg := .inl (ht.suspended_of_stored (by simp [hs, FramePc.stored]) hg)
  suspended := ht.suspended
  suspending g pc₀ v hs₀ := by cases hs₀
  gone g := by
    obtain ⟨hlt, hnone⟩ := ht.frames.running ⟨h, .body⟩ (by rw [hs]; exact List.mem_cons_self)
    rw [List.mem_append, ht.gone g, hs]
    by_cases hgh : g = h
    · subst hgh
      simpa using ⟨hlt, hnone⟩
    · simp [hgh, Ne.symm hgh]
  once g := by
    rw [List.count_append]
    by_cases hgh : g = h
    · subst hgh
      rw [List.count_eq_zero_of_not_mem (ht.not_gone hs)]
      simp
    · rw [List.count_singleton, if_neg (by simpa using Ne.symm hgh)]
      exact ht.once g

/-- `ResumeWaiting`: the frame runs again, and its session is free. -/
lemma resume (ht : Tracked a events) (hs : a.stack = []) (hw : a.waitMap w.sessionId = some h)
    (hawaiting : a.awaiting h = some w) (hs' : a'.stack = [⟨h, .body⟩])
    (hawaiting' : a'.awaiting = Function.update a.awaiting h none)
    (hwaitMap' : a'.waitMap = Function.update a.waitMap w.sessionId none)
    (hframes' : a'.frames = a.frames) : Tracked a' events where
  frames := by
    have hf := ht.frames
    rw [hs] at hf
    rw [hs', hawaiting', hframes']
    exact hf.resume hawaiting
  single := by
    rw [hs']
    rfl
  stored k g hg := by
    rw [hwaitMap'] at hg
    have hk : k ≠ w.sessionId := by
      rintro rfl
      simp at hg
    rw [Function.update_of_ne hk] at hg
    obtain ⟨v, hv, hvk⟩ := ht.suspended_of_stored (by simp [hs]) hg
    have hgh : g ≠ h := by
      rintro rfl
      rw [hawaiting] at hv
      cases hv
      exact hk hvk.symm
    exact .inl ⟨v, by rwa [hawaiting', Function.update_of_ne hgh], hvk⟩
  suspended g v hv := by
    rw [hawaiting'] at hv
    have hgh : g ≠ h := by
      rintro rfl
      simp at hv
    rw [Function.update_of_ne hgh] at hv
    have hsome := ht.suspended g v hv
    have hne : v.sessionId ≠ w.sessionId := by
      intro heq
      rw [heq, hw] at hsome
      exact hgh (Option.some.inj hsome).symm
    rwa [hwaitMap', Function.update_of_ne hne]
  suspending g pc₀ v hs₀ hpc₀ := by
    rw [hs'] at hs₀
    cases hs₀
    cases hpc₀
  gone g := by
    rw [hframes', hawaiting', hs', ht.gone g, hs]
    by_cases hgh : g = h
    · subst hgh
      simp [hawaiting]
    · simp [hgh, Ne.symm hgh]
  once := ht.once

/-- A response that nobody waits for. -/
lemma drop (ht : Tracked a events) (log : List SessionEvent) :
    Tracked { a with log := log } events :=
  ⟨ht.frames, ht.single, ht.stored, ht.suspended, ht.suspending, ht.gone, ht.once⟩

/-- The members of `LuaActor` are destroyed, which are no frames. -/
lemma destroyMembers (ht : Tracked a events) :
    Tracked a (events ++ [.refsReleased, .envClosed]) where
  frames := ht.frames
  single := ht.single
  stored := ht.stored
  suspended := ht.suspended
  suspending := ht.suspending
  gone h := by
    rw [← ht.gone h]
    simp
  once h := by
    rw [List.count_append]
    exact ht.once h

/-! ### The steps of the base class -/

/-- `ProcessOne`. -/
lemma process (ht : Tracked a events) {msg : ActorMessage}
    (h : machine.next a (.process msg) = some a') : Tracked a' events := by
  have hs : a.stack = [] := by
    by_contra hne
    simp [machine, next, hne] at h
  have hnil : ∀ b rest, a.stack ≠ b :: rest := by simp [hs]
  cases Step.of_next h with
  | start => exact ht.start hs rfl rfl rfl rfl
  | drop => exact ht.drop _
  | resume msg g _ _ hw =>
    obtain ⟨w, hawait, hk⟩ := ht.suspended_of_stored (by simp [hs]) hw
    rw [← hk] at hw ⊢
    obtain ⟨responses, heq⟩ := resumeWaiting_eq (a := { a with log := a.log ++ [.processed msg] })
      msg hw hawait
    rw [heq]
    refine ht.resume hs hw hawait ?_ rfl rfl rfl
    show ⟨g, .body⟩ :: a.stack = _
    rw [hs]
  | callCoroutine _ _ hs' | coAwait _ _ _ hs' | store _ _ _ hs' | send _ _ _ hs'
  | setTimeout _ _ _ hs' | leave _ _ _ hs' | coReturn _ _ hs' => exact absurd hs' (hnil _ _)

/-- `AllocSession`, which touches no map. -/
lemma coAwait (ht : Tracked a events) {kind : AwaitKind}
    (h : machine.next a (.coAwait kind) = some a') : Tracked a' events := by
  simp only [machine, next] at h
  split at h
  · rename_i g rest hs
    obtain rfl := ht.rest_eq_nil hs
    cases h
    exact ht.move hs rfl rfl rfl rfl rfl
  · cases h

/-- A step of `await_suspend`. -/
lemma suspend (ht : Tracked a events) (h : machine.next a .suspend = some a')
    (hfree : ∀ g w, a.stack = [⟨g, .store w⟩] → a.waitMap w.sessionId = none) :
    Tracked a' events := by
  simp only [machine, next] at h
  split at h
  · rename_i g pc rest hs
    obtain rfl := ht.rest_eq_nil hs
    cases pc with
    | body => cases h
    | store w => cases h; exact ht.store hs (hfree g w hs)
    | send w => cases h; exact ht.move hs rfl rfl rfl rfl rfl
    | setTimeout w => cases h; exact ht.move hs rfl rfl rfl rfl rfl
    | leave w => cases h; exact ht.leave hs _
  · cases h

end Tracked

/-! ### `waitMap_` -/

/-- `sessions` are the keys of `waitMap_`. -/
structure Keyed (a : Actor) (sessions : List UInt32) : Prop where
  nodup : sessions.Nodup
  mem_iff : ∀ k, k ∈ sessions ↔ (a.waitMap k).isSome

/-- `await_resume` leaves all but the responses as it is. -/
lemma Actor.awaitResume_fields (a : Actor) (w : Awaiter) : (a.awaitResume w).2.waitMap = a.waitMap ∧
    (a.awaitResume w).2.stack = a.stack ∧ (a.awaitResume w).2.frames = a.frames := by
  unfold awaitResume
  cases w.kind <;> exact ⟨rfl, rfl, rfl⟩

/-- Resuming takes a session out of `waitMap_`, and its frame runs. -/
lemma Actor.resumeWaiting_fields {a : Actor} {session : UInt32} {g : Nat}
    (hw : a.waitMap session = some g) (log : List SessionEvent) (msg : ActorMessage) :
    (resumeWaiting { a with log := log } session msg).waitMap =
        Function.update a.waitMap session none ∧
      (resumeWaiting { a with log := log } session msg).stack = ⟨g, .body⟩ :: a.stack ∧
      (resumeWaiting { a with log := log } session msg).frames = a.frames := by
  unfold resumeWaiting
  simp only [hw]
  split
  · exact ⟨rfl, rfl, rfl⟩
  · exact awaitResume_fields _ _

/-- `StoreWaiting` alone adds a session. -/
lemma Actor.Step.mem_waitMap {a a' : Actor} (h : Step a a') {k : UInt32}
    (hk : (a'.waitMap k).isSome) :
    (a.waitMap k).isSome ∨ ∃ g w rest, a.stack = ⟨g, .store w⟩ :: rest ∧ k = w.sessionId := by
  cases h with
  | start | drop | callCoroutine | coAwait | send | setTimeout | leave | coReturn => exact .inl hk
  | resume msg g _ _ hw =>
    left
    rw [(resumeWaiting_fields hw _ msg).1] at hk
    by_cases heq : k = msg.sessionId
    · subst heq
      simp at hk
    · rwa [Function.update_of_ne heq] at hk
  | store g rest w hs =>
    by_cases heq : k = w.sessionId
    · exact .inr ⟨g, w, rest, hs, heq⟩
    · left
      have hk : (Function.update a.waitMap w.sessionId (some g) k).isSome := hk
      rwa [Function.update_of_ne heq] at hk

namespace LuaActor

variable {Tid : Type*} {s : LuaActor Tid} {a : Actor} {l : Actor.Action}

lemma nodup_candidates (hk : Keyed s.actor s.sessions) : s.candidates.Nodup := by
  unfold candidates
  split
  · exact hk.nodup.insert
  · exact hk.nodup

lemma keyed_step (hk : Keyed s.actor s.sessions) (h : Actor.machine.next s.actor l = some a) :
    Keyed a (s.sessionsOf a) where
  nodup := (nodup_candidates hk).filter _
  mem_iff k := by
    rw [sessionsOf, List.mem_filter, and_iff_right_iff_imp]
    intro hsome
    rcases (Actor.Step.of_next h).mem_waitMap hsome with hold | ⟨g, w, rest, hs, rfl⟩
    · have hmem := (hk.mem_iff k).mpr hold
      unfold candidates
      split
      · exact List.mem_insert_of_mem hmem
      · exact hmem
    · rw [candidates, hs]
      exact List.mem_insert_self

/-- One step of the base class. -/
lemma tracked_step (ht : Tracked s.actor s.events) (h : Actor.machine.next s.actor l = some a)
    (hl : l ≠ .callCoroutine)
    (hfree : l = .suspend → ∀ g w, s.actor.stack = [⟨g, .store w⟩] →
      s.actor.waitMap w.sessionId = none) : Tracked a (s.eventsOf l) := by
  cases l with
  | process msg => exact ht.process h
  | callCoroutine => exact absurd rfl hl
  | coAwait kind => exact ht.coAwait h
  | suspend => exact ht.suspend h (hfree rfl)
  | coReturn =>
    simp only [Actor.machine, Actor.next] at h
    split at h
    · rename_i g rest hs
      obtain rfl := ht.rest_eq_nil hs
      cases h
      have hevents : s.eventsOf .coReturn = s.events ++ [.frameDestroyed g] := by
        simp only [eventsOf, hs]
      rw [hevents]
      exact ht.coReturn hs
    · cases h

/-! ### Destroying what is suspended -/

/-- What `waitMap_` holds are the frames that are suspended, when none runs. -/
lemma mem_waiting (ht : Tracked s.actor s.events) (hk : Keyed s.actor s.sessions)
    (hs : s.actor.stack = []) {h : Nat} : h ∈ s.waiting ↔ s.actor.awaiting h ≠ none := by
  rw [waiting, List.mem_filterMap, Option.ne_none_iff_exists']
  constructor
  · rintro ⟨k, -, hw⟩
    obtain ⟨w, hawait, -⟩ := ht.suspended_of_stored (by simp [hs]) hw
    exact ⟨w, hawait⟩
  · rintro ⟨w, hawait⟩
    have hw := ht.suspended h w hawait
    exact ⟨w.sessionId, (hk.mem_iff _).mpr (by rw [hw]; rfl), hw⟩

/-- No frame is in `waitMap_` twice. -/
lemma nodup_waiting (ht : Tracked s.actor s.events) (hk : Keyed s.actor s.sessions)
    (hs : s.actor.stack = []) : s.waiting.Nodup := by
  refine List.Nodup.filterMap (fun k k' h hw hw' => ?_) hk.nodup
  obtain ⟨w, hawait, rfl⟩ := ht.suspended_of_stored (by simp [hs]) hw
  obtain ⟨w', hawait', rfl⟩ := ht.suspended_of_stored (by simp [hs]) hw'
  rw [hawait] at hawait'
  cases hawait'
  rfl

lemma awaiting_destroyAllCoroutines (ht : Tracked s.actor s.events)
    (hk : Keyed s.actor s.sessions) (hs : s.actor.stack = []) (h : Nat) :
    s.destroyAllCoroutines.actor.awaiting h = none := by
  show (if h ∈ s.waiting then none else s.actor.awaiting h) = none
  split_ifs with hmem
  · rfl
  · exact not_not.mp ((mem_waiting ht hk hs).not.mp hmem)

lemma mem_frameDestroyed {handles : List Nat} {h : Nat} :
    .frameDestroyed h ∈ handles.map LuaEvent.frameDestroyed ↔ h ∈ handles := by simp

lemma count_frameDestroyed (handles : List Nat) (h : Nat) :
    (handles.map LuaEvent.frameDestroyed).count (.frameDestroyed h) = handles.count h :=
  List.count_map_of_injective _ _ (fun _ _ heq => LuaEvent.frameDestroyed.inj heq) h

/-- `DestroyAllCoroutines` destroys each frame that is suspended, once. -/
lemma tracked_destroyAllCoroutines (ht : Tracked s.actor s.events)
    (hk : Keyed s.actor s.sessions) (hs : s.actor.stack = []) :
    Tracked s.destroyAllCoroutines.actor s.destroyAllCoroutines.events where
  frames := by
    show Frames s.actor.stack s.destroyAllCoroutines.actor.awaiting s.actor.frames
    rw [hs]
    refine ⟨by simp, by simp, by simp, fun h w hw => ?_⟩
    rw [awaiting_destroyAllCoroutines ht hk hs] at hw
    cases hw
  single := ht.single
  stored k h hw := by cases hw
  suspended h w hw := by
    rw [awaiting_destroyAllCoroutines ht hk hs] at hw
    cases hw
  suspending h pc w hs' := by
    rw [show s.destroyAllCoroutines.actor.stack = [] from hs] at hs'
    cases hs'
  gone h := by
    rw [awaiting_destroyAllCoroutines ht hk hs]
    show .frameDestroyed h ∈ s.events ++ s.waiting.map .frameDestroyed ↔
      h < s.actor.frames ∧ none = none ∧ ∀ b ∈ s.actor.stack, b.frame ≠ h
    have hlt : s.actor.awaiting h ≠ none → h < s.actor.frames := by
      rw [Option.ne_none_iff_exists']
      exact fun hw => hw.elim (ht.frames.known h)
    rw [List.mem_append, mem_frameDestroyed, ht.gone, mem_waiting ht hk hs, hs]
    simp only [List.not_mem_nil, false_implies, implies_true, and_true]
    tauto
  once h := by
    show (s.events ++ s.waiting.map LuaEvent.frameDestroyed).count (.frameDestroyed h) ≤ 1
    rw [List.count_append, count_frameDestroyed]
    by_cases hmem : h ∈ s.waiting
    · have hgone : .frameDestroyed h ∉ s.events := by
        rw [ht.gone]
        exact fun hg => (mem_waiting ht hk hs).mp hmem hg.2.1
      rw [List.count_eq_zero_of_not_mem hgone, Nat.zero_add]
      exact List.nodup_iff_count_le_one.mp (nodup_waiting ht hk hs) h
    · rw [List.count_eq_zero_of_not_mem hmem]
      exact ht.once h

lemma keyed_destroyAllCoroutines (s : LuaActor Tid) :
    Keyed s.destroyAllCoroutines.actor s.destroyAllCoroutines.sessions :=
  ⟨List.nodup_nil, fun k => by simp [destroyAllCoroutines]⟩

end LuaActor

end Balabala
