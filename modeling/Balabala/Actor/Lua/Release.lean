import Balabala.Actor.Lua.Frames

/-!
# When the frames of a Lua actor are destroyed

`Stop` destroys the suspended frames of the actors in `actors_` before anything else is destroyed.
Nobody does so for an actor that has been unregistered: whoever drops the last `shared_ptr` closes
`env_` first, and then `~Actor` destroys the frames, whose `LuaRegRef`s release references into a
closed state.
-/

namespace Balabala

open Foundation

/-- After `lua_close` no frame is destroyed. -/
def Ordered (events : List LuaEvent) : Prop :=
  events.Pairwise fun e e' => e = .envClosed → ∀ h, e' ≠ .frameDestroyed h

lemma ordered_of_not_mem {events : List LuaEvent} (h : .envClosed ∉ events) : Ordered events :=
  List.pairwise_of_forall_mem_list fun _ he _ _ heq => absurd (heq ▸ he) h

lemma ordered_close {events : List LuaEvent} (h : .envClosed ∉ events) :
    Ordered (events ++ [.refsReleased, .envClosed]) := by
  refine List.pairwise_append.mpr ⟨ordered_of_not_mem h, ?_, fun _ he _ _ heq =>
    absurd (heq ▸ he) h⟩
  simp

namespace LuaActor

variable {Tid : Type*}

/-! ### What is promised, and when -/

/-- Every frame is destroyed once, and before the Lua state it refers to. -/
structure Released (s : LuaActor Tid) : Prop where
  order : Ordered s.events
  once : ∀ h, s.events.count (.frameDestroyed h) ≤ 1
  all : s.destroyed = true → ∀ h < s.actor.frames, s.events.count (.frameDestroyed h) = 1

/-- No handler runs, and none is suspended. -/
def idle (s : LuaActor Tid) : Bool := s.actor.stack.isEmpty && s.sessions.isEmpty

/-- No frame is suspended under the session that is about to be stored. -/
def sessionFree (s : LuaActor Tid) : Bool :=
  match s.actor.stack with
  | ⟨_, .store w⟩ :: _ => (s.actor.waitMap w.sessionId).isNone
  | _ => true

/-- The handle of the frame that runs has not been stored yet. -/
def beforeStore (s : LuaActor Tid) : Bool :=
  match s.actor.stack with
  | ⟨_, .store _⟩ :: _ => true
  | _ => false

/-- The last `shared_ptr` is dropped when no handler runs and none is suspended, no session is
stored a second time while a frame is suspended under it, and no exception leaves `await_suspend`
after the handle has been stored. -/
def inOrder [DecidableEq Tid] (s : LuaActor Tid) : Action Tid → Bool
  | .release t => !({ s with holders := s.holders.erase t } : LuaActor Tid).unowned || s.idle
  | .unregister => !({ s with registered := false } : LuaActor Tid).unowned || s.idle
  | .handler .suspend => s.sessionFree
  | .throws => s.beforeStore
  | _ => true

/-! ### The invariant -/

structure Kept (s : LuaActor Tid) : Prop where
  tracked : Tracked s.actor s.events
  keyed : Keyed s.actor s.sessions
  order : Ordered s.events
  alive : s.destroyed = false → .envClosed ∉ s.events
  ended : s.destroyed = true →
    s.registered = false ∧ s.holders = [] ∧ s.actor.stack = [] ∧ s.sessions = []

variable {s : LuaActor Tid}

lemma idle_iff : s.idle = true ↔ s.actor.stack = [] ∧ s.sessions = [] := by
  simp [idle]

lemma unowned_iff : s.unowned = true ↔ s.registered = false ∧ s.holders = [] := by
  simp [unowned]

lemma waitMap_of_sessionFree (h : s.sessionFree = true) {g : Nat} {w : Awaiter}
    (hs : s.actor.stack = [⟨g, .store w⟩]) : s.actor.waitMap w.sessionId = none := by
  rw [sessionFree, hs] at h
  exact Option.isNone_iff_eq_none.mp h

lemma store_of_beforeStore (h : s.beforeStore = true) {g : Nat} {pc : FramePc}
    {rest : List Activation} (hs : s.actor.stack = ⟨g, pc⟩ :: rest) : ∃ w, pc = .store w := by
  rw [beforeStore, hs] at h
  cases pc with
  | store w => exact ⟨w, rfl⟩
  | body | send | setTimeout | leave => cases h

lemma events_destroy (s : LuaActor Tid) : s.destroy.events =
    s.events ++ [.refsReleased, .envClosed] ++ s.waiting.map .frameDestroyed := rfl

/-- A step of the base class destroys frames at most. -/
lemma envClosed_of_mem_eventsOf {l : Actor.Action} (h : .envClosed ∈ s.eventsOf l) :
    .envClosed ∈ s.events := by
  unfold eventsOf at h
  split at h
  · simpa using h
  · exact h

namespace Kept

lemma of_alive (ht : Tracked s.actor s.events) (hk : Keyed s.actor s.sessions)
    (hd : s.destroyed = false) (ho : .envClosed ∉ s.events) : Kept s where
  tracked := ht
  keyed := hk
  order := ordered_of_not_mem ho
  alive _ := ho
  ended hd' := by
    rw [hd] at hd'
    cases hd'

lemma alive_of_registered (hk : Kept s) (hr : s.registered = true) : s.destroyed = false := by
  by_contra hd
  have hr' := (hk.ended (by simpa using hd)).1
  rw [hr] at hr'
  cases hr'

lemma alive_of_mem (hk : Kept s) {t : Tid} (ht : t ∈ s.holders) : s.destroyed = false := by
  by_contra hd
  rw [(hk.ended (by simpa using hd)).2.1] at ht
  cases ht

lemma setPhase (hk : Kept s) (phase : SystemPhase) : Kept { s with phase := phase } :=
  ⟨hk.tracked, hk.keyed, hk.order, hk.alive, hk.ended⟩

lemma setOwners (hk : Kept s) (hd : s.destroyed = false) (registered : Bool)
    (holders : List Tid) : Kept { s with registered := registered, holders := holders } :=
  .of_alive hk.tracked hk.keyed hd (hk.alive hd)

lemma destroyAllCoroutines (hk : Kept s) (hd : s.destroyed = false) (hs : s.actor.stack = []) :
    Kept s.destroyAllCoroutines := by
  refine .of_alive (tracked_destroyAllCoroutines hk.tracked hk.keyed hs)
    (keyed_destroyAllCoroutines s) hd ?_
  show .envClosed ∉ s.events ++ s.waiting.map LuaEvent.frameDestroyed
  simpa using hk.alive hd

/-- Without a frame the order of the destructors does not matter. -/
lemma destroy (hk : Kept s) (hd : s.destroyed = false) (hu : s.unowned = true)
    (hi : s.idle = true) : Kept s.destroy := by
  obtain ⟨hr, hh⟩ := unowned_iff.mp hu
  obtain ⟨hs, hsessions⟩ := idle_iff.mp hi
  have hevents : s.destroy.events = s.events ++ [.refsReleased, .envClosed] := by
    rw [events_destroy, waiting, hsessions]
    exact List.append_nil _
  refine ⟨tracked_destroyAllCoroutines (s := s.destroyMembers) hk.tracked.destroyMembers
    hk.keyed hs, keyed_destroyAllCoroutines _, ?_, ?_, fun _ => ⟨hr, hh, hs, rfl⟩⟩
  · rw [hevents]
    exact ordered_close (hk.alive hd)
  · intro hd'
    cases hd'

lemma dropped (hk : Kept s) (hd : s.destroyed = false) (hi : s.unowned = true → s.idle = true) :
    Kept s.dropped := by
  unfold LuaActor.dropped
  split_ifs with hu
  · exact hk.destroy hd hu (hi hu)
  · exact hk

end Kept

lemma kept_start : Kept (start Tid) :=
  .of_alive .start_actor ⟨List.nodup_nil, by simp [start, Actor.start]⟩ rfl List.not_mem_nil

lemma Kept.released (hk : Kept s) : Released s where
  order := hk.order
  once := hk.tracked.once
  all hd h hlt := by
    obtain ⟨-, -, hs, hsessions⟩ := hk.ended hd
    have hnone : s.actor.awaiting h = none := by
      have hmem := mem_waiting hk.tracked hk.keyed hs (h := h)
      rw [waiting, hsessions] at hmem
      exact not_not.mp (hmem.not.mp List.not_mem_nil)
    refine Nat.le_antisymm (hk.tracked.once h) (List.one_le_count_iff.mpr ?_)
    rw [hk.tracked.gone, hs]
    exact ⟨hlt, hnone, by simp⟩

variable [DecidableEq Tid]

theorem Step.kept {s' : LuaActor Tid} {l : Action Tid} (h : Step s l s') (hk : Kept s)
    (ho : s.inOrder l = true) : Kept s' := by
  cases h with
  | copy t hr => exact hk.setOwners (hk.alive_of_registered hr) _ _
  | release t ht =>
    have hd := hk.alive_of_mem ht
    refine (hk.setOwners hd _ _).dropped hd fun hu => ?_
    show s.idle = true
    simpa [inOrder, hu] using ho
  | unregister hr =>
    have hd := hk.alive_of_registered hr
    refine (hk.setOwners hd _ _).dropped hd fun hu => ?_
    show s.idle = true
    simpa [inOrder, hu] using ho
  | actor l la a worker hd hstep hphase hla hl =>
    refine .of_alive (tracked_step hk.tracked hstep hla fun heq g w hs => ?_)
      (keyed_step hk.keyed hstep) hd fun hmem => hk.alive hd (envClosed_of_mem_eventsOf hmem)
    rw [hl heq] at ho
    exact waitMap_of_sessionFree ho hs
  | throws g pc rest hd hs hmay =>
    obtain ⟨w, rfl⟩ := store_of_beforeStore ho hs
    obtain rfl := hk.tracked.rest_eq_nil hs
    have ht : Tracked { s.actor with stack := [⟨g, .body⟩] } s.events :=
      hk.tracked.move hs rfl rfl rfl rfl rfl
    exact .of_alive ht ⟨hk.keyed.nodup, hk.keyed.mem_iff⟩ hd (hk.alive hd)
  | stopExchange => exact hk.setPhase _
  | joined => exact hk.setPhase _
  | round => exact hk.setPhase _
  | clear _ _ hs hr => exact (hk.destroyAllCoroutines (hk.alive_of_registered hr) hs).setPhase _
  | clearNothing => exact hk.setPhase _

theorem kept_of_reach (h : (machine Tid).Reach (fun s l => s.inOrder l = true) s) : Kept s :=
  h.invariant (by rintro _ rfl; exact kept_start)
    fun _ _ _ _ hk ho hnext => (Step.of_next hnext).kept hk ho

/-- Every frame of a handler is destroyed once, and before `lua_close`, as long as the last
`shared_ptr` is dropped in order. -/
theorem released_of_reach (h : (machine Tid).Reach (fun s l => s.inOrder l = true) s) :
    Released s := (kept_of_reach h).released

/-- A handler calls, its worker goes on, the response comes, and the handler ends. Then the actor is
unregistered. -/
theorem released_unregistered :
    let s := (machine Bool).replayWith (fun s l => s.inOrder l = true) (start Bool)
      [.copy true, .process true { type := .userMessage }, .handler (.coAwait .call),
        .handler .suspend, .handler .suspend, .handler .suspend, .handler .suspend,
        .process true { isResponse := true, sessionId := 1 }, .handler .coReturn, .unregister,
        .release true]
    s.events = [.frameDestroyed 0, .refsReleased, .envClosed] ∧ s.destroyed = true ∧
      Released s := by
  intro s
  have hstart : (machine Bool).Reach (fun s l => s.inOrder l = true) (start Bool) := .start rfl
  exact ⟨by decide, by decide, released_of_reach (Machine.reach_replayWith hstart _)⟩

/-- The actor is unregistered while a handler waits for a response. -/
theorem unregister_closes_first :
    ¬ ∀ s : LuaActor Bool, (machine Bool).Reachable s → Released s := by
  intro h
  have hstart : (machine Bool).Reachable (start Bool) := .start rfl
  let s := (machine Bool).replay (start Bool)
    [.copy true, .process true { type := .userMessage }, .handler (.coAwait .call),
      .handler .suspend, .handler .suspend, .handler .suspend, .handler .suspend,
      .release true, .unregister]
  have hs : (machine Bool).Reachable s := Machine.reachable_replay hstart _
  have hevents : s.events = [.refsReleased, .envClosed, .frameDestroyed 0] := by decide
  have horder := (h s hs).order
  rw [hevents] at horder
  simp [Ordered] at horder

/-! ### `Stop` -/

/-- What `Stop` leaves of an actor that is registered. -/
def Halted (s : LuaActor Tid) : Prop :=
  s.phase = .stopped → s.registered = true → s.idle = true

omit [DecidableEq Tid] in
lemma Halted.dropped (hh : Halted s) : Halted s.dropped := by
  unfold LuaActor.dropped
  split_ifs with hu
  · intro _ hr
    have hr' : s.registered = true := hr
    rw [(unowned_iff.mp hu).1] at hr'
    cases hr'
  · exact hh

theorem Step.halted {s' : LuaActor Tid} {l : Action Tid} (h : Step s l s') (hh : Halted s) :
    Halted s' := by
  cases h with
  | copy => exact hh
  | release => exact Halted.dropped hh
  | actor l la a worker hd hstep hphase hla hl =>
    intro hp hr
    exact absurd (idle_iff.mp (hh hp hr)).1 (hphase hp)
  | throws g pc rest hd hs hmay =>
    intro hp hr
    have hnil := (idle_iff.mp (hh hp hr)).1
    rw [hs] at hnil
    cases hnil
  | unregister =>
    refine Halted.dropped fun _ hr => ?_
    cases hr
  | clear _ _ hs hr => exact fun _ _ => idle_iff.mpr ⟨hs, rfl⟩
  | clearNothing _ _ _ hr =>
    intro _ hr'
    have hr' : s.registered = true := hr'
    rw [hr] at hr'
    cases hr'
  | stopExchange | joined | round =>
    intro hp
    cases hp

/-- Once `Stop` is through, an actor that is registered has no frames left: whoever drops it then,
drops it in order. -/
theorem idle_of_stopped (h : (machine Tid).Reachable s) (hp : s.phase = .stopped)
    (hr : s.registered = true) : s.idle = true := by
  have hh : Halted s := h.invariant (by rintro _ rfl hp; cases hp)
    fun _ _ _ _ hh _ hnext => (Step.of_next hnext).halted hh
  exact hh hp hr

end LuaActor

end Balabala
