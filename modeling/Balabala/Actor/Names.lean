import Mathlib.Logic.Function.Basic
import Balabala.Actor.Message

/-!
# Names of actors

`nameToActor_` and `actorToName_`, and the critical sections on `nameLock_` that keep them.
-/

namespace Balabala

/-- `nameToActor_` and `actorToName_`. -/
structure Names where
  nameToActor : Bytes → Option ActorId
  actorToName : ActorId → Option Bytes

namespace Names

def empty : Names where
  nameToActor := fun _ => none
  actorToName := fun _ => none

/-- `RegisterName`: an actor that had the name before loses it. -/
def registerName (n : Names) (name : Bytes) (actorId : ActorId) : Names :=
  let actorToName :=
    match n.nameToActor name with
    | some old => Function.update n.actorToName old none
    | none => n.actorToName
  { nameToActor := Function.update n.nameToActor name (some actorId)
    actorToName := Function.update actorToName actorId (some name) }

def unregisterName (n : Names) (name : Bytes) : Names :=
  match n.nameToActor name with
  | some actorId =>
    { nameToActor := Function.update n.nameToActor name none
      actorToName := Function.update n.actorToName actorId none }
  | none => n

/-- What `UnregisterActor` does to the names. -/
def removeActor (n : Names) (actorId : ActorId) : Names :=
  match n.actorToName actorId with
  | some name =>
    { nameToActor := Function.update n.nameToActor name none
      actorToName := Function.update n.actorToName actorId none }
  | none => n

/-- `0` when nobody has the name. -/
def findActor (n : Names) (name : Bytes) : ActorId := (n.nameToActor name).getD 0

/-- Empty when the actor has no name. -/
def getActorName (n : Names) (actorId : ActorId) : Bytes := (n.actorToName actorId).getD []

/-! What is in the tables after the operations. -/

variable {n : Names} {name m : Bytes} {a b : ActorId}

lemma nameToActor_registerName : (n.registerName name a).nameToActor m = some b ↔
    (m = name ∧ b = a) ∨ (m ≠ name ∧ n.nameToActor m = some b) := by
  by_cases e : m = name
  · simp [registerName, e, eq_comm]
  · simp [registerName, e]

lemma actorToName_registerName : (n.registerName name a).actorToName b = some m ↔
    (b = a ∧ m = name) ∨ (b ≠ a ∧ n.nameToActor name ≠ some b ∧ n.actorToName b = some m) := by
  by_cases e : b = a
  · simp [registerName, e, eq_comm]
  · cases h : n.nameToActor name with
    | none => simp [registerName, h, e]
    | some old =>
      by_cases e' : b = old
      · subst e'
        simp [registerName, h, e]
      · simp [registerName, h, e, e', Ne.symm e']

lemma nameToActor_unregisterName : (n.unregisterName name).nameToActor m = some b ↔
    m ≠ name ∧ n.nameToActor m = some b := by
  cases h : n.nameToActor name with
  | none =>
    simp only [unregisterName, h, iff_and_self]
    rintro hm rfl
    rw [h] at hm
    cases hm
  | some owner => by_cases e : m = name <;> simp [unregisterName, h, e]

lemma actorToName_unregisterName : (n.unregisterName name).actorToName b = some m ↔
    n.nameToActor name ≠ some b ∧ n.actorToName b = some m := by
  cases h : n.nameToActor name with
  | none => simp [unregisterName, h]
  | some owner =>
    by_cases e : b = owner
    · simp [unregisterName, h, e]
    · simp [unregisterName, h, e, Ne.symm e]

lemma nameToActor_removeActor : (n.removeActor a).nameToActor m = some b ↔
    n.actorToName a ≠ some m ∧ n.nameToActor m = some b := by
  cases h : n.actorToName a with
  | none => simp [removeActor, h]
  | some shown =>
    by_cases e : m = shown
    · simp [removeActor, h, e]
    · simp [removeActor, h, e, Ne.symm e]

lemma actorToName_removeActor : (n.removeActor a).actorToName b = some m ↔
    b ≠ a ∧ n.actorToName b = some m := by
  cases h : n.actorToName a with
  | none =>
    simp only [removeActor, h, iff_and_self]
    rintro hm rfl
    rw [h] at hm
    cases hm
  | some shown => by_cases e : b = a <;> simp [removeActor, h, e]

end Names

end Balabala
