import Mathlib.Data.List.AList
import Balabala.Foundation.Machine
import Balabala.Actor.Message

/-!
# Draining the mailboxes in Stop

When the workers have been joined, `Stop` processes what is left in the mailboxes itself: in each of
at most three rounds it copies the list of actors and takes up to 64 messages from each. The list
has plain pointers. `actors_` is the only owner of the actors, and a handler may unregister any of
them, so a pointer in the list may outlive its actor.

`UnregisterActor` also sends messages to watchers and cleans up names and links. The former are
sends of the handler here, and the latter has nothing to do with who owns an actor.
-/

namespace Balabala

open Foundation

/-- The address of an actor object. No two objects of a run have the same. -/
abbrev Ptr := Nat

/-- The two mailboxes of an actor. -/
structure Mailboxes where
  priorityMailbox : List ActorMessage
  normalMailbox : List ActorMessage

namespace Mailboxes

def empty : Mailboxes := ⟨[], []⟩

def pushMessage (m : Mailboxes) (msg : ActorMessage) : Mailboxes :=
  if msg.priority then { m with priorityMailbox := m.priorityMailbox ++ [msg] }
  else { m with normalMailbox := m.normalMailbox ++ [msg] }

def isMailboxEmpty (m : Mailboxes) : Bool := m.priorityMailbox.isEmpty && m.normalMailbox.isEmpty

/-- `ProcessOne` takes its message out, from the priority mailbox first. -/
def pop (m : Mailboxes) : Mailboxes :=
  match m.priorityMailbox with
  | _ :: rest => { m with priorityMailbox := rest }
  | [] => { m with normalMailbox := m.normalMailbox.tail }

end Mailboxes

def maxDrainRounds : Nat := 3

/-- A round of the drain: its number, whether a message was processed in it, and which pointers are
still to come. -/
structure DrainRound where
  round : Nat
  anyProcessed : Bool
  actorList : List Ptr

inductive DrainPc
  /-- about to copy the list of actors -/
  | copy (round : Nat)
  /-- about to go on to the next actor -/
  | next (r : DrainRound)
  /-- in `IsMailboxEmpty` -/
  | test (r : DrainRound) (actor : Ptr) (drained : Nat)
  /-- in `ProcessOne`, in the handler -/
  | process (r : DrainRound) (actor : Ptr) (drained : Nat)
  /-- an exception caught, in `GetActorId` -/
  | report (r : DrainRound) (actor : Ptr) (drained : Nat)
  | done

namespace DrainPc

/-- The actor that a call is being made on. -/
def touches : DrainPc → Option Ptr
  | .test _ actor _ | .process _ actor _ | .report _ actor _ => some actor
  | .copy _ | .next _ | .done => none

/-- The pointers that the drain still holds. -/
def held : DrainPc → List Ptr
  | .test r actor _ | .process r actor _ | .report r actor _ => actor :: r.actorList
  | .next r => r.actorList
  | .copy _ | .done => []

lemma mem_held_of_touches {pc : DrainPc} {p : Ptr} (h : pc.touches = some p) : p ∈ pc.held := by
  cases pc with
  | test r actor n | process r actor n | report r actor n =>
    cases h
    exact List.mem_cons_self
  | copy n | next r | done => cases h

end DrainPc

structure DrainSystem where
  nextActorId : UInt32
  actors : AList fun _ : ActorId => Ptr
  mailboxes : Ptr → Mailboxes
  /-- the number of actor objects there have been -/
  objects : Nat
  pc : DrainPc

inductive DrainAction
  /-- copy the list, in the order that `actors_` happens to have -/
  | copy (order : List Ptr)
  /-- the next step of the loops -/
  | advance
  /-- what the handler does -/
  | send (actorId : ActorId) (msg : ActorMessage)
  | registerActor
  | unregisterActor (actorId : ActorId)
  | handled
  | throws

namespace DrainSystem

/-- Somebody owns the actor. -/
def Alive (s : DrainSystem) (p : Ptr) : Prop := ∃ id, s.actors.lookup id = some p

/-- A call on an actor is over, and so is one turn of the inner loop. -/
def turned (r : DrainRound) (actor : Ptr) (drained : Nat) : DrainPc :=
  .test { r with anyProcessed := true } actor (drained + 1)

/-- The loops around the calls. -/
def advance (s : DrainSystem) : Option DrainSystem :=
  match s.pc with
  | .next ⟨round, anyProcessed, []⟩ =>
    if anyProcessed && round + 1 < maxDrainRounds then some { s with pc := .copy (round + 1) }
    else some { s with pc := .done }
  | .next ⟨round, anyProcessed, actor :: rest⟩ =>
    some { s with pc := .test ⟨round, anyProcessed, rest⟩ actor 0 }
  | .test r actor drained =>
    if !(s.mailboxes actor).isMailboxEmpty && drained < 64 then
      some { s with mailboxes := Function.update s.mailboxes actor (s.mailboxes actor).pop
                    pc := .process r actor drained }
    else some { s with pc := .next r }
  | .report r actor drained => some { s with pc := turned r actor drained }
  | .copy _ | .process _ _ _ | .done => none

/-- `Send`: to an actor that is registered. -/
def send (s : DrainSystem) (actorId : ActorId) (msg : ActorMessage) : DrainSystem :=
  match s.actors.lookup actorId with
  | some p =>
    { s with mailboxes := Function.update s.mailboxes p ((s.mailboxes p).pushMessage msg) }
  | none => s

/-- `RegisterActor` of a new object: whatever has the id in `actors_` is replaced. -/
def registerActor (s : DrainSystem) : DrainSystem :=
  { s with nextActorId := s.nextActorId + 1
           actors := s.actors.insert s.nextActorId s.objects
           mailboxes := Function.update s.mailboxes s.objects .empty
           objects := s.objects + 1 }

def unregisterActor (s : DrainSystem) (actorId : ActorId) : DrainSystem :=
  { s with actors := s.actors.erase actorId }

def next (s : DrainSystem) (l : DrainAction) : Option DrainSystem :=
  match l, s.pc with
  | .copy order, .copy round =>
    if order.Perm (s.actors.entries.map Sigma.snd) then
      some { s with pc := .next ⟨round, false, order⟩ }
    else none
  | .advance, _ => s.advance
  | .send actorId msg, .process _ _ _ => some (s.send actorId msg)
  | .registerActor, .process _ _ _ => some s.registerActor
  | .unregisterActor actorId, .process _ _ _ => some (s.unregisterActor actorId)
  | .handled, .process r actor drained => some { s with pc := turned r actor drained }
  | .throws, .process r actor drained => some { s with pc := .report r actor drained }
  | _, _ => none

/-- The drain begins with any actors and any mailboxes. -/
structure Init (s : DrainSystem) : Prop where
  pc : s.pc = .copy 0
  allocated : ∀ p, s.Alive p → p < s.objects

def machine : Machine DrainSystem DrainAction where
  init := Init
  next := next

/-! ### Who is touched is alive -/

/-- Somebody owns the actor, under another id than the given one. -/
def AliveElsewhere (s : DrainSystem) (actorId : ActorId) (p : Ptr) : Prop :=
  ∃ id, id ≠ actorId ∧ s.actors.lookup id = some p

instance (s : DrainSystem) (actorId : ActorId) (p : Ptr) :
    Decidable (s.AliveElsewhere actorId p) :=
  decidable_of_iff (∃ e ∈ s.actors.entries, e.1 ≠ actorId ∧ e.2 = p) (by
    constructor
    · rintro ⟨⟨id, q⟩, he, hne, rfl⟩
      exact ⟨id, hne, AList.mem_lookup_iff.mpr he⟩
    · rintro ⟨id, hne, hid⟩
      exact ⟨⟨id, p⟩, AList.mem_lookup_iff.mp hid, hne, rfl⟩)

/-- A handler takes no actor out of `actors_` that the drain still holds: neither the one it runs in
nor one that is to come in this round. -/
def KeepsHeld (s : DrainSystem) : DrainAction → Prop
  | .registerActor => ∀ p ∈ s.pc.held, s.AliveElsewhere s.nextActorId p
  | .unregisterActor actorId => ∀ p ∈ s.pc.held, s.AliveElsewhere actorId p
  | _ => True

instance (s : DrainSystem) : ∀ l, Decidable (s.KeepsHeld l)
  | .registerActor =>
    inferInstanceAs (Decidable (∀ p ∈ s.pc.held, s.AliveElsewhere s.nextActorId p))
  | .unregisterActor actorId =>
    inferInstanceAs (Decidable (∀ p ∈ s.pc.held, s.AliveElsewhere actorId p))
  | .copy _ | .advance | .send _ _ | .handled | .throws => inferInstanceAs (Decidable True)

/-- What the drain holds is alive. -/
def HeldAlive (s : DrainSystem) : Prop := ∀ p ∈ s.pc.held, s.Alive p

variable {s s' : DrainSystem} {p : Ptr} {l : DrainAction}

lemma alive_iff : s.Alive p ↔ p ∈ s.actors.entries.map Sigma.snd := by
  simp only [Alive, List.mem_map, Sigma.exists, exists_eq_right]
  exact exists_congr fun id => AList.mem_lookup_iff

lemma alive_registerActor : s.registerActor.Alive p ↔
    p = s.objects ∨ s.AliveElsewhere s.nextActorId p := by
  constructor
  · rintro ⟨id, hid⟩
    by_cases e : id = s.nextActorId
    · subst e
      have hnew : s.registerActor.actors.lookup s.nextActorId = some s.objects :=
        AList.lookup_insert _
      rw [hnew] at hid
      exact .inl (Option.some.inj hid).symm
    · have hold : s.registerActor.actors.lookup id = s.actors.lookup id := AList.lookup_insert_ne e
      exact .inr ⟨id, e, by rw [← hold]; exact hid⟩
  · rintro (rfl | ⟨id, hne, hid⟩)
    · exact ⟨s.nextActorId, AList.lookup_insert _⟩
    · exact ⟨id, (AList.lookup_insert_ne hne).trans hid⟩

lemma alive_unregisterActor {actorId : ActorId} :
    (s.unregisterActor actorId).Alive p ↔ s.AliveElsewhere actorId p := by
  constructor
  · rintro ⟨id, hid⟩
    by_cases e : id = actorId
    · subst e
      have hnone : (s.unregisterActor id).actors.lookup id = none := AList.lookup_erase _ _
      rw [hnone] at hid
      cases hid
    · exact ⟨id, e, (AList.lookup_erase_ne e).symm.trans hid⟩
  · rintro ⟨id, hne, hid⟩
    exact ⟨id, (AList.lookup_erase_ne hne).trans hid⟩

/-! What one step can do to the owners and to what the drain holds. -/

inductive Step (s : DrainSystem) : DrainAction → DrainSystem → Prop
  | copy (s' : DrainSystem) (order : List Ptr) (hactors : s'.actors = s.actors)
      (hobjects : s'.objects = s.objects) (hheld : ∀ p ∈ s'.pc.held, s.Alive p) :
      Step s (.copy order) s'
  /-- Nobody comes to or loses an owner, and the drain holds no more than before. -/
  | keep (l : DrainAction) (s' : DrainSystem) (hl : l ≠ .registerActor)
      (hl' : ∀ id, l ≠ .unregisterActor id) (hactors : s'.actors = s.actors)
      (hobjects : s'.objects = s.objects) (hheld : ∀ p ∈ s'.pc.held, p ∈ s.pc.held) : Step s l s'
  | registerActor : Step s .registerActor s.registerActor
  | unregisterActor (actorId : ActorId) :
      Step s (.unregisterActor actorId) (s.unregisterActor actorId)

lemma Step.of_advance (h : s.advance = some s') : Step s .advance s' := by
  rw [advance] at h
  split at h
  · rename_i hpc
    split_ifs at h <;> cases h <;>
      exact .keep _ _ (by simp) (by simp) rfl rfl fun p hp => by cases hp
  · rename_i hpc
    cases h
    refine .keep _ _ (by simp) (by simp) rfl rfl fun p hp => ?_
    rw [hpc]
    exact hp
  · rename_i hpc
    split_ifs at h <;> cases h
    · refine .keep _ _ (by simp) (by simp) rfl rfl fun p hp => ?_
      rw [hpc]
      exact hp
    · refine .keep _ _ (by simp) (by simp) rfl rfl fun p hp => ?_
      rw [hpc]
      exact List.mem_cons_of_mem _ hp
  · rename_i hpc
    cases h
    refine .keep _ _ (by simp) (by simp) rfl rfl fun p hp => ?_
    rw [hpc]
    exact hp
  all_goals cases h

theorem Step.of_next (h : machine.next s l = some s') : Step s l s' := by
  change next s l = some s' at h
  unfold next at h
  split at h
  · split_ifs at h with hperm
    cases h
    refine .copy _ _ rfl rfl fun p hp => ?_
    exact alive_iff.mpr (hperm.mem_iff.mp hp)
  · exact .of_advance h
  · cases h
    refine .keep _ _ (by simp) (by simp) ?_ ?_ fun p hp => ?_
    · rw [send]
      split <;> rfl
    · rw [send]
      split <;> rfl
    · rw [send] at hp
      split at hp <;> exact hp
  · cases h
    exact .registerActor
  · cases h
    exact .unregisterActor _
  · rename_i hpc
    cases h
    refine .keep _ _ (by simp) (by simp) rfl rfl fun p hp => ?_
    rw [hpc]
    exact hp
  · rename_i hpc
    cases h
    refine .keep _ _ (by simp) (by simp) rfl rfl fun p hp => ?_
    rw [hpc]
    exact hp
  · cases h

lemma alive_of_actors (h : s'.actors = s.actors) : s'.Alive p ↔ s.Alive p := by
  simp only [Alive, h]

/-- What the drain holds stays alive when no handler takes it away. -/
lemma Step.heldAlive (h : Step s l s') (hs : s.HeldAlive) (hok : s.KeepsHeld l) :
    s'.HeldAlive := by
  intro p hp
  cases h with
  | copy _ order hactors hobjects hheld => exact (alive_of_actors hactors).mpr (hheld p hp)
  | keep _ _ hl hl' hactors hobjects hheld =>
    exact (alive_of_actors hactors).mpr (hs p (hheld p hp))
  | registerActor => exact alive_registerActor.mpr (.inr (hok p hp))
  | unregisterActor actorId => exact alive_unregisterActor.mpr (hok p hp)

/-- An actor that has no owner never has one again. -/
lemma Step.dead (h : Step s l s') (hp : p < s.objects) (hdead : ¬ s.Alive p) :
    p < s'.objects ∧ ¬ s'.Alive p := by
  cases h with
  | copy _ order hactors hobjects hheld | keep _ _ hl hl' hactors hobjects hheld =>
    rw [hobjects, alive_of_actors hactors]
    exact ⟨hp, hdead⟩
  | registerActor =>
    refine ⟨Nat.lt_succ_of_lt hp, fun halive => ?_⟩
    rcases alive_registerActor.mp halive with rfl | ⟨id, -, hid⟩
    · exact Nat.lt_irrefl _ hp
    · exact hdead ⟨id, hid⟩
  | unregisterActor actorId =>
    refine ⟨hp, fun halive => ?_⟩
    obtain ⟨id, -, hid⟩ := alive_unregisterActor.mp halive
    exact hdead ⟨id, hid⟩

/-- In every drain whose handlers take away no actor that the drain still holds, every call is made
on an actor that is alive, from its beginning to its end. -/
theorem drain_touches_alive (h : machine.Reach KeepsHeld s) :
    ∀ p, s.pc.touches = some p → s.Alive p := by
  have hheld : s.HeldAlive := by
    refine h.invariant (P := HeldAlive) ?_ ?_
    · intro s hs p hp
      rw [hs.pc] at hp
      cases hp
    · intro s l s' _ hs hok hstep
      exact (Step.of_next hstep).heldAlive hs hok
  intro p hp
  exact hheld p (DrainPc.mem_held_of_touches hp)

/-- Two actors, with one message each. -/
def twoActors : DrainSystem where
  nextActorId := 3
  actors := ⟨[⟨1, 0⟩, ⟨2, 1⟩], by unfold List.NodupKeys; decide⟩
  mailboxes := fun _ => ⟨[], [{ type := .userMessage }]⟩
  objects := 2
  pc := .copy 0

lemma init_twoActors : Init twoActors := by
  refine ⟨rfl, fun p hp => ?_⟩
  have hmem : p ∈ [0, 1] := alive_iff.mp hp
  simp only [List.mem_cons, List.not_mem_nil, or_false] at hmem
  rcases hmem with rfl | rfl <;> decide

/-- The handler of actor 1 sends to actor 2 and registers a third actor, that of actor 2 throws, and
its next one unregisters actor 1, which has had its turn. -/
theorem drain_touches_alive_twoActors :
    let s := machine.replayWith KeepsHeld twoActors
      [.copy [0, 1], .advance, .advance, .send 2 { type := .userMessage }, .registerActor, .handled,
        .advance, .advance, .advance, .throws, .advance, .advance, .unregisterActor 1]
    s.pc.touches = some 1 ∧ s.actors.lookup 1 = none ∧ s.Alive 1 := by
  intro s
  have hs : machine.Reach KeepsHeld s := Machine.reach_replayWith (.start init_twoActors) _
  have htouch : s.pc.touches = some 1 := by decide
  exact ⟨htouch, by decide, drain_touches_alive hs 1 htouch⟩

/-- A handler unregisters the actor it runs in. -/
theorem drain_touches_dead : ¬ ∀ s, machine.Reachable s →
    ∀ p, s.pc.touches = some p → s.Alive p := by
  intro h
  let s := machine.replay twoActors [.copy [0, 1], .advance, .advance, .unregisterActor 1]
  have hs : machine.Reachable s := Machine.reachable_replay (.start init_twoActors) _
  have hdead : 0 ∉ s.actors.entries.map Sigma.snd := by decide
  exact hdead (alive_iff.mp (h s hs 0 (by decide)))

/-! ### Who is taken away is touched nevertheless -/

/-- The objects are counted. -/
lemma lt_objects (h : machine.Reachable s) :
    (∀ p, s.Alive p → p < s.objects) ∧ ∀ p ∈ s.pc.held, p < s.objects := by
  refine h.invariant (P := fun s => (∀ p, s.Alive p → p < s.objects) ∧
    ∀ p ∈ s.pc.held, p < s.objects) ?_ ?_
  · intro s hs
    refine ⟨hs.allocated, fun p hp => ?_⟩
    rw [hs.pc] at hp
    cases hp
  · rintro s l s' _ ⟨halive, hheld⟩ _ hstep
    cases Step.of_next hstep with
    | copy _ order hactors hobjects hheld' =>
      simp only [alive_of_actors hactors, hobjects]
      exact ⟨halive, fun p hp => halive p (hheld' p hp)⟩
    | keep _ _ hl hl' hactors hobjects hheld' =>
      simp only [alive_of_actors hactors, hobjects]
      exact ⟨halive, fun p hp => hheld p (hheld' p hp)⟩
    | registerActor =>
      refine ⟨fun p hp => ?_, fun p hp => Nat.lt_succ_of_lt (hheld p hp)⟩
      rcases alive_registerActor.mp hp with rfl | ⟨id, -, hid⟩
      · exact Nat.lt_succ_self _
      · exact Nat.lt_succ_of_lt (halive p ⟨id, hid⟩)
    | unregisterActor actorId =>
      refine ⟨fun p hp => ?_, hheld⟩
      obtain ⟨id, -, hid⟩ := alive_unregisterActor.mp hp
      exact halive p ⟨id, hid⟩

/-- A handler that takes away what the drain still holds leaves it with a pointer to an actor that
is gone, and whenever the drain makes a call on that, now or later, it is still gone. -/
theorem drain_meets_dead (h : machine.Reachable s) (hs : machine.next s l = some s')
    (hbad : ¬ s.KeepsHeld l) : ∃ p ∈ s'.pc.held,
      ∀ ls s'', machine.run s' ls = some s'' → s''.pc.touches = some p → ¬ s''.Alive p := by
  obtain ⟨-, hlt⟩ := lt_objects h
  have hstep := Step.of_next hs
  have hdead : ∃ p ∈ s'.pc.held, p < s'.objects ∧ ¬ s'.Alive p := by
    cases hstep with
    | copy _ order => exact absurd trivial hbad
    | keep _ _ hl hl' =>
      cases l with
      | registerActor => exact absurd rfl hl
      | unregisterActor actorId => exact absurd rfl (hl' actorId)
      | _ => exact absurd trivial hbad
    | registerActor =>
      simp only [KeepsHeld, not_forall] at hbad
      obtain ⟨p, hp, hne⟩ := hbad
      refine ⟨p, hp, Nat.lt_succ_of_lt (hlt p hp), fun halive => ?_⟩
      rcases alive_registerActor.mp halive with rfl | hother
      · exact Nat.lt_irrefl _ (hlt _ hp)
      · exact hne hother
    | unregisterActor actorId =>
      simp only [KeepsHeld, not_forall] at hbad
      obtain ⟨p, hp, hne⟩ := hbad
      exact ⟨p, hp, hlt p hp, fun halive => hne (alive_unregisterActor.mp halive)⟩
  obtain ⟨p, hp, hdead⟩ := hdead
  refine ⟨p, hp, fun ls s'' hrun _ => ?_⟩
  refine (Machine.run_invariant (P := fun s => p < s.objects ∧ ¬ s.Alive p) ?_ hdead hrun).2
  rintro s₁ l s₂ ⟨hlt, hgone⟩ hnext
  exact (Step.of_next hnext).dead hlt hgone

end DrainSystem

end Balabala
