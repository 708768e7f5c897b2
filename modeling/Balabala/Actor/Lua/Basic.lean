import Balabala.Actor.Session.Throwing

/-!
# The life of a Lua actor

A `LuaActor` is an `Actor` whose handlers run in a Lua state of its own. The frame of a handler,
`OnCoroutineMessage`, owns a reference into that state, a `LuaRegRef`, and may be suspended in a
`Call` or a `ClusterCall`. The actor is shared: `actors_` owns it, and so does every thread that has
looked it up. Whoever drops the last `shared_ptr` runs the destructors, those of the members of
`LuaActor` first, and with them `lua_close`, and then `~Actor`, which destroys the frames that are
suspended. An exception may leave `await_suspend`; the handler then runs on with it.

`Stop` joins the workers, runs `ProcessOne` in its own thread through plain pointers, and then
destroys the suspended frames of the actors in `actors_`. How many messages it takes has no
influence on the order of what is destroyed, and is left open.
-/

namespace Balabala

open Foundation

inductive LuaEvent
  /-- the frame `h` is destroyed, and its `LuaRegRef` with it -/
  | frameDestroyed (h : Nat)
  /-- `unpackFn_` and `onMessage_` are destroyed -/
  | refsReleased
  /-- `env_` is destroyed: `lua_close` -/
  | envClosed
  deriving DecidableEq

/-- Where `ActorSystem::Stop` is. -/
inductive SystemPhase
  | running
  /-- `running_` is false, and the workers are being joined -/
  | stopping
  /-- draining the mailboxes; `listed`: the actor was in `actors_` when the round began -/
  | draining (listed : Bool)
  | stopped
  deriving DecidableEq

structure LuaActor (Tid : Type*) where
  /-- the base class -/
  actor : Actor
  /-- the keys of `waitMap_` -/
  sessions : List UInt32
  /-- whether the actor is in `actors_` -/
  registered : Bool
  /-- the copies of the `shared_ptr` that threads own -/
  holders : List Tid
  /-- the worker that is in `ProcessOne` -/
  worker : Option Tid
  phase : SystemPhase
  destroyed : Bool
  events : List LuaEvent

namespace LuaActor

variable {Tid : Type*}

/-! ### The destructors -/

/-- The members of `LuaActor`, in the reverse order of their declarations. -/
def destroyMembers (s : LuaActor Tid) : LuaActor Tid :=
  { s with events := s.events ++ [.refsReleased, .envClosed] }

/-- The handles in `waitMap_`. -/
def waiting (s : LuaActor Tid) : List Nat := s.sessions.filterMap s.actor.waitMap

def destroyAllCoroutines (s : LuaActor Tid) : LuaActor Tid :=
  { s with
    actor := { s.actor with
      waitMap := fun _ => none
      responseMap := fun _ => none
      awaiting := fun h => if h ∈ s.waiting then none else s.actor.awaiting h }
    sessions := []
    events := s.events ++ s.waiting.map .frameDestroyed }

/-- `~LuaActor`, and then `~Actor`. -/
def destroy (s : LuaActor Tid) : LuaActor Tid :=
  { s.destroyMembers.destroyAllCoroutines with destroyed := true }

/-- Nothing owns the actor any more. -/
def unowned (s : LuaActor Tid) : Bool := !s.registered && s.holders.isEmpty

/-- A `shared_ptr` was dropped. -/
def dropped (s : LuaActor Tid) : LuaActor Tid := if s.unowned then s.destroy else s

/-! ### The handlers -/

/-- What the handler of a Lua actor does: it awaits a `Call` or a `ClusterCall`, or ends. -/
def isHandlerStep : Actor.Action → Bool
  | .coAwait .call | .coAwait .clusterCall | .suspend | .coReturn => true
  | _ => false

/-- The keys that `waitMap_` may have after a step: `StoreWaiting` adds one. -/
def candidates (s : LuaActor Tid) : List UInt32 :=
  match s.actor.stack with
  | ⟨_, .store w⟩ :: _ => s.sessions.insert w.sessionId
  | _ => s.sessions

/-- The keys of `waitMap_` after a step that leads the base class to `a`. -/
def sessionsOf (s : LuaActor Tid) (a : Actor) : List UInt32 :=
  s.candidates.filter fun k => (a.waitMap k).isSome

/-- A frame that ends is destroyed. -/
def eventsOf (s : LuaActor Tid) (l : Actor.Action) : List LuaEvent :=
  match l, s.actor.stack with
  | .coReturn, ⟨h, _⟩ :: _ => s.events ++ [.frameDestroyed h]
  | _, _ => s.events

/-- A step of the base class; `worker` is in `ProcessOne` as long as a handler runs. -/
def actorNext (s : LuaActor Tid) (worker : Option Tid) (l : Actor.Action) :
    Option (LuaActor Tid) :=
  (s.actor.next l).map fun a =>
    { s with
      actor := a
      sessions := s.sessionsOf a
      events := s.eventsOf l
      worker := if a.stack.isEmpty then none else worker }

/-! ### All threads together -/

inductive Action (Tid : Type*)
  /-- `Send` or `workerLoop` copies the `shared_ptr` out of `actors_` -/
  | copy (t : Tid)
  /-- a copy goes out of scope -/
  | release (t : Tid)
  /-- `ProcessOne` in a worker -/
  | process (t : Tid) (msg : ActorMessage)
  /-- a step of the handler that runs -/
  | handler (l : Actor.Action)
  /-- an exception leaves `await_suspend` -/
  | throws
  /-- `UnregisterActor`, or the end of `actors_` -/
  | unregister
  | stopExchange
  | joined
  /-- `Stop` copies the pointers of `actors_` -/
  | round
  /-- `ProcessOne` in `Stop` -/
  | drain (msg : ActorMessage)
  /-- `Stop` destroys the suspended frames -/
  | clear

variable [DecidableEq Tid]

def next (s : LuaActor Tid) : Action Tid → Option (LuaActor Tid)
  | .copy t => if s.registered then some { s with holders := t :: s.holders } else none
  | .release t =>
    -- a worker keeps its own copy while it is in `ProcessOne`
    if t ∈ s.holders ∧ (s.worker = some t → 1 < s.holders.count t) then
      some ({ s with holders := s.holders.erase t }).dropped
    else none
  | .process t msg =>
    if t ∈ s.holders ∧ s.destroyed = false ∧ (s.phase = .running ∨ s.phase = .stopping) then
      s.actorNext (some t) (.process msg)
    else none
  | .handler l =>
    if isHandlerStep l ∧ s.destroyed = false then s.actorNext s.worker l else none
  | .throws =>
    if s.destroyed = false then s.actor.throwNext.map fun a => { s with actor := a } else none
  | .unregister => if s.registered then some ({ s with registered := false }).dropped else none
  | .stopExchange => if s.phase = .running then some { s with phase := .stopping } else none
  | .joined =>
    if s.phase = .stopping ∧ s.worker = none then some { s with phase := .draining false }
    else none
  | .round =>
    match s.phase with
    | .draining _ =>
      if s.actor.stack.isEmpty then some { s with phase := .draining s.registered } else none
    | _ => none
  | .drain msg =>
    if s.phase = .draining true ∧ s.destroyed = false then s.actorNext none (.process msg)
    else none
  | .clear =>
    match s.phase with
    | .draining _ =>
      if s.actor.stack.isEmpty then
        let s := if s.registered then s.destroyAllCoroutines else s
        some { s with phase := .stopped }
      else none
    | _ => none

/-- Just registered. -/
def start (Tid : Type*) : LuaActor Tid where
  actor := .start
  sessions := []
  registered := true
  holders := []
  worker := none
  phase := .running
  destroyed := false
  events := []

def machine (Tid : Type*) [DecidableEq Tid] : Machine (LuaActor Tid) (Action Tid) where
  init s := s = start Tid
  next := next

/-! ### One constructor for each step -/

inductive Step (s : LuaActor Tid) : Action Tid → LuaActor Tid → Prop
  | copy (t : Tid) (hr : s.registered = true) :
      Step s (.copy t) { s with holders := t :: s.holders }
  | release (t : Tid) (ht : t ∈ s.holders) :
      Step s (.release t) ({ s with holders := s.holders.erase t }).dropped
  /-- a step of the base class -/
  | actor (l : Action Tid) (la : Actor.Action) (a : Actor) (worker : Option Tid)
      (hd : s.destroyed = false) (hstep : Actor.machine.next s.actor la = some a)
      (hphase : s.phase = .stopped → s.actor.stack ≠ [])
      (hla : la ≠ .callCoroutine) (hl : la = .suspend → l = .handler .suspend) :
      Step s l { s with
        actor := a, sessions := s.sessionsOf a, events := s.eventsOf la, worker := worker }
  | throws (h : Nat) (pc : FramePc) (rest : List Activation) (hd : s.destroyed = false)
      (hs : s.actor.stack = ⟨h, pc⟩ :: rest) (hmay : pc.mayThrow = true) :
      Step s .throws { s with actor := { s.actor with stack := ⟨h, .body⟩ :: rest } }
  | unregister (hr : s.registered = true) :
      Step s .unregister ({ s with registered := false }).dropped
  | stopExchange (hp : s.phase = .running) : Step s .stopExchange { s with phase := .stopping }
  | joined (hp : s.phase = .stopping) (hw : s.worker = none) :
      Step s .joined { s with phase := .draining false }
  | round (listed : Bool) (hp : s.phase = .draining listed) (hs : s.actor.stack = []) :
      Step s .round { s with phase := .draining s.registered }
  | clear (listed : Bool) (hp : s.phase = .draining listed) (hs : s.actor.stack = [])
      (hr : s.registered = true) : Step s .clear { s.destroyAllCoroutines with phase := .stopped }
  | clearNothing (listed : Bool) (hp : s.phase = .draining listed) (hs : s.actor.stack = [])
      (hr : s.registered = false) : Step s .clear { s with phase := .stopped }

lemma Step.of_actorNext {s s' : LuaActor Tid} {l : Action Tid} {la : Actor.Action}
    {worker : Option Tid} (h : s.actorNext worker la = some s') (hd : s.destroyed = false)
    (hphase : s.phase = .stopped → s.actor.stack ≠ []) (hla : la ≠ .callCoroutine)
    (hl : la = .suspend → l = .handler .suspend) : Step s l s' := by
  obtain ⟨a, ha, rfl⟩ := Option.map_eq_some_iff.mp h
  exact .actor l la a _ hd ha hphase hla hl

/-- A handler only moves while it runs. -/
lemma stack_of_handler {a a' : Actor} {l : Actor.Action} (hl : isHandlerStep l = true)
    (h : a.next l = some a') : a.stack ≠ [] := by
  intro hs
  cases l with
  | process | callCoroutine => cases hl
  | coAwait | suspend | coReturn => simp [Actor.next, hs] at h

/-- Every transition of the machine is one of the steps. -/
theorem Step.of_next {s s' : LuaActor Tid} {l : Action Tid}
    (h : (machine Tid).next s l = some s') : Step s l s' := by
  change next s l = some s' at h
  cases l with
  | copy t =>
    simp only [next] at h
    split_ifs at h with hr
    cases h; exact .copy t hr
  | release t =>
    simp only [next] at h
    split_ifs at h with ht
    cases h; exact .release t ht.1
  | process t msg =>
    simp only [next] at h
    split_ifs at h with ht
    obtain ⟨-, hd, hp⟩ := ht
    refine .of_actorNext h hd (fun hstopped => ?_) (by simp) (by simp)
    rw [hstopped] at hp
    simp at hp
  | handler la =>
    simp only [next] at h
    split_ifs at h with hl
    have hnext := Option.map_eq_some_iff.mp h
    obtain ⟨a, ha, -⟩ := hnext
    refine .of_actorNext h hl.2 (fun _ => stack_of_handler hl.1 ha) ?_ (by rintro rfl; rfl)
    rintro rfl
    exact absurd hl.1 (by decide)
  | throws =>
    simp only [next] at h
    split_ifs at h with hd
    obtain ⟨a, ha, rfl⟩ := Option.map_eq_some_iff.mp h
    unfold Actor.throwNext at ha
    split at ha
    · rename_i g pc rest hs
      split_ifs at ha with hmay
      cases ha; exact .throws g pc rest hd hs hmay
    · cases ha
  | unregister =>
    simp only [next] at h
    split_ifs at h with hr
    cases h; exact .unregister hr
  | stopExchange =>
    simp only [next] at h
    split_ifs at h with hp
    cases h; exact .stopExchange hp
  | joined =>
    simp only [next] at h
    split_ifs at h with hp
    cases h; exact .joined hp.1 hp.2
  | round =>
    simp only [next] at h
    split at h
    · rename_i listed hp
      split_ifs at h with hs
      cases h; exact .round listed hp (by simpa using hs)
    · cases h
  | drain msg =>
    simp only [next] at h
    split_ifs at h with hp
    refine .of_actorNext h hp.2 (fun hstopped => ?_) (by simp) (by simp)
    rw [hstopped] at hp
    simp at hp
  | clear =>
    simp only [next] at h
    split at h
    · rename_i listed hp
      split_ifs at h with hs hr
      · cases h; exact .clear listed hp (by simpa using hs) hr
      · cases h; exact .clearNothing listed hp (by simpa using hs) (by simpa using hr)
    · cases h

end LuaActor

end Balabala
