import Balabala.Actor.Links

/-!
# One operation after the other

The operations of `ActorSystem` on `actors_`, the names and the links, each as a whole: all of its
critical sections in order. `LinkSystem` has the sections one by one, and a thread that nobody
disturbs goes through those of an operation to the same end.
-/

namespace Balabala

open Foundation

namespace Directory

/-- `RegisterActor`. -/
def registerActor (d : Directory) : Directory :=
  addActor { d with nextActorId := d.nextActorId + 1 } d.nextActorId

def registerName (d : Directory) (name : Bytes) (actorId : ActorId) : Directory :=
  { d with names := d.names.registerName name actorId }

def unregisterName (d : Directory) (name : Bytes) : Directory :=
  { d with names := d.names.unregisterName name }

def linkActor (d : Directory) (watcherId targetId : ActorId) : Directory :=
  if watcherId = targetId then d
  else if d.actors watcherId && d.actors targetId then d.insertLink watcherId targetId
  else d

/-- The loop of `notifyActorDown`. -/
def sendAll (d : Directory) (msg : ActorMessage) (watchers : List ActorId) : Directory :=
  watchers.foldl (fun d watcherId => d.send watcherId msg) d

def notifyActorDown (d : Directory) (targetId : ActorId) (reason : Bytes) : Directory :=
  (d.takeWatchers targetId).2.sendAll (actorDownMessage targetId reason)
    (d.takeWatchers targetId).1.ids

def unregisterActor (d : Directory) (actorId : ActorId) : Directory :=
  (((d.notifyActorDown actorId unregistered).removeName actorId).cleanLinks actorId).eraseActor
    actorId

/-! What the operations do to the single tables. -/

variable {d : Directory} {w t a b : ActorId} {msg : ActorMessage}

@[simp] lemma names_send : (d.send a msg).names = d.names := by
  rw [send]
  split_ifs <;> rfl

@[simp] lemma nextActorId_send : (d.send a msg).nextActorId = d.nextActorId := by
  rw [send]
  split_ifs <;> rfl

lemma mailbox_send_of_ne (h : b ≠ a) : (d.send a msg).mailbox b = d.mailbox b := by
  rw [send]
  split_ifs
  · exact Function.update_of_ne h _ _
  · rfl

/-- The loop sends, and touches nothing but mailboxes. -/
lemma sendAll_tables (d : Directory) (msg : ActorMessage) (ws : List ActorId) :
    (d.sendAll msg ws).actors = d.actors ∧ (d.sendAll msg ws).names = d.names ∧
      (d.sendAll msg ws).linkMap = d.linkMap ∧
      (d.sendAll msg ws).nextActorId = d.nextActorId := by
  induction ws generalizing d with
  | nil => exact ⟨rfl, rfl, rfl, rfl⟩
  | cons w ws ih =>
    obtain ⟨hactors, hnames, hlinks, hnext⟩ := ih (d.send w msg)
    refine ⟨hactors.trans ?_, hnames.trans ?_, hlinks.trans ?_, hnext.trans ?_⟩ <;> simp

/-- Who is not in the list is sent nothing. -/
lemma mailbox_sendAll_of_not_mem {ws : List ActorId} (h : a ∉ ws) :
    (d.sendAll msg ws).mailbox a = d.mailbox a := by
  induction ws generalizing d with
  | nil => rfl
  | cons w ws ih =>
    obtain ⟨hw, hws⟩ := not_or.mp (List.mem_cons.not.mp h)
    calc ((d.send w msg).sendAll msg ws).mailbox a
        = (d.send w msg).mailbox a := ih hws
      _ = d.mailbox a := mailbox_send_of_ne hw

/-- A registered actor is sent the message once, if it is once in the list. -/
lemma mailbox_sendAll_of_mem {ws : List ActorId} (hnd : ws.Nodup) (h : a ∈ ws)
    (ha : d.actors a = true) : (d.sendAll msg ws).mailbox a = d.mailbox a ++ [msg] := by
  induction ws generalizing d with
  | nil => cases h
  | cons w ws ih =>
    obtain ⟨hw, hnd⟩ := List.nodup_cons.mp hnd
    change ((d.send w msg).sendAll msg ws).mailbox a = _
    rcases List.mem_cons.mp h with rfl | hmem
    · rw [mailbox_sendAll_of_not_mem hw, mailbox_send ha]
    · have hne : a ≠ w := by
        rintro rfl
        exact hw hmem
      rw [ih hnd hmem (by simpa using ha), mailbox_send_of_ne hne]

lemma takeWatchers_tables (d : Directory) (t : ActorId) :
    (d.takeWatchers t).2.actors = d.actors ∧ (d.takeWatchers t).2.names = d.names ∧
      (d.takeWatchers t).2.mailbox = d.mailbox ∧
      (d.takeWatchers t).2.nextActorId = d.nextActorId := by
  rw [takeWatchers]
  split <;> exact ⟨rfl, rfl, rfl, rfl⟩

@[simp] lemma actors_unregisterActor :
    (d.unregisterActor t).actors = Function.update d.actors t false := by
  simp only [unregisterActor, eraseActor, cleanLinks, removeName, notifyActorDown]
  rw [(sendAll_tables _ _ _).1, (takeWatchers_tables d t).1]

@[simp] lemma names_unregisterActor : (d.unregisterActor t).names = d.names.removeActor t := by
  simp only [unregisterActor, eraseActor, cleanLinks, removeName, notifyActorDown]
  rw [(sendAll_tables _ _ _).2.1, (takeWatchers_tables d t).2.1]

/-- The links after the notifications are those `takeWatchers` has left. -/
lemma linkMap_notifyActorDown (reason : Bytes) :
    (d.notifyActorDown t reason).linkMap = (d.takeWatchers t).2.linkMap :=
  (sendAll_tables _ _ _).2.2.1

lemma isKey_unregisterActor : (d.unregisterActor t).isKey b ↔ d.isKey b ∧ b ≠ t := by
  change ((d.notifyActorDown t unregistered).cleanLinks t).isKey b ↔ _
  rw [isKey_cleanLinks, isKey, linkMap_notifyActorDown, ← isKey, isKey_takeWatchers,
    and_assoc, and_self]

lemma watches_unregisterActor :
    (d.unregisterActor t).watches a b ↔ d.watches a b ∧ a ≠ t ∧ b ≠ t := by
  change ((d.notifyActorDown t unregistered).cleanLinks t).watches a b ↔ _
  rw [watches_cleanLinks, watches, linkMap_notifyActorDown, ← watches, watches_takeWatchers]
  tauto

/-- The message goes to the registered watchers, once to each, and to nobody else. -/
lemma mailbox_unregisterActor (hwatch : d.watches a t) (ha : d.actors a = true) :
    (d.unregisterActor t).mailbox a = d.mailbox a ++ [actorDownMessage t unregistered] := by
  change (d.notifyActorDown t unregistered).mailbox a = _
  obtain ⟨hactors, -, hmailbox, -⟩ := takeWatchers_tables d t
  have hnodup : (d.takeWatchers t).1.ids.Nodup :=
    (d.takeWatchers t).1.ascending.imp UInt32.ne_of_lt
  rw [notifyActorDown, mailbox_sendAll_of_mem hnodup (mem_takeWatchers.mpr hwatch)
    (by rw [hactors]; exact ha), hmailbox]

lemma mailbox_unregisterActor_of_not (hwatch : ¬ d.watches a t) :
    (d.unregisterActor t).mailbox a = d.mailbox a := by
  change (d.notifyActorDown t unregistered).mailbox a = _
  rw [notifyActorDown, mailbox_sendAll_of_not_mem (fun h => hwatch (mem_takeWatchers.mp h)),
    (takeWatchers_tables d t).2.2.1]

end Directory

/-! ### Sequential runs -/

inductive RegistryAction
  | registerActor
  | registerName (name : Bytes) (actorId : ActorId)
  | unregisterName (name : Bytes)
  | linkActor (watcherId targetId : ActorId)
  | unlinkActor (watcherId targetId : ActorId)
  | unregisterActor (actorId : ActorId)
  deriving DecidableEq

namespace Directory

def call (d : Directory) : RegistryAction → Directory
  | .registerActor => d.registerActor
  | .registerName name actorId => d.registerName name actorId
  | .unregisterName name => d.unregisterName name
  | .linkActor watcherId targetId => d.linkActor watcherId targetId
  | .unlinkActor watcherId targetId => d.unlinkActor watcherId targetId
  | .unregisterActor actorId => d.unregisterActor actorId

/-- One call after the other, on the tables of a new `ActorSystem`. -/
def registry : Machine Directory RegistryAction where
  init d := d = empty
  next d l := some (d.call l)

lemma registry_start : registry.Reachable empty := .start rfl

end Directory

/-! ### A thread that nobody disturbs -/

namespace LinkSystem

variable {Tid : Type*} [DecidableEq Tid] {s : LinkSystem Tid} {t : Tid}

@[simp] lemma put_put (s : LinkSystem Tid) (t : Tid) (d d' : Directory) (pc pc' : LinkPc) :
    (s.put t d pc).put t d' pc' = s.put t d' pc' := by
  simp [put]

lemma next_step_put (s : LinkSystem Tid) (t : Tid) (d : Directory) (pc : LinkPc) :
    (machine Tid).next (s.put t d pc) (.step t) = (s.put t d pc).resume t pc := by
  have hpc : (s.put t d pc).threads t = pc := Function.update_self _ _ _
  change (s.put t d pc).resume t ((s.put t d pc).threads t) = _
  rw [hpc]

/-- The notifications, one section each. -/
lemma run_notify (s : LinkSystem Tid) (t : Tid) (d : Directory) (a : ActorId)
    (ws : List ActorId) :
    (machine Tid).run (s.put t d (.notify a ws)) (List.replicate ws.length (.step t)) =
      some (s.put t (d.sendAll (actorDownMessage a unregistered) ws) (.notify a [])) := by
  induction ws generalizing d with
  | nil => rfl
  | cons w ws ih =>
    rw [List.length_cons, List.replicate_succ, Machine.run, next_step_put]
    simp only [resume, put_put, Option.bind_some]
    exact ih _

/-- The sections of `UnregisterActor`, one after the other, are the whole operation. -/
lemma run_unregisterActor (hidle : s.threads t = .idle) (a : ActorId) :
    ∃ ls, (machine Tid).run s ls = some (s.put t (s.dir.unregisterActor a) .idle) := by
  let ws := (s.dir.takeWatchers a).1.ids
  refine ⟨.unregisterActor t a :: (List.replicate ws.length (.step t) ++
    [.step t, .step t, .step t]), ?_⟩
  have hcall : (machine Tid).next s (.unregisterActor t a) =
      some (s.put t (s.dir.takeWatchers a).2 (.notify a ws)) := by
    simp only [machine, next, thread, hidle]
    rfl
  rw [Machine.run, hcall, Option.bind_some, Machine.run_append, run_notify, Option.bind_some]
  simp only [Machine.run, next_step_put, resume, put_put, Option.bind_some]
  rfl

/-- The operations that `LinkSystem` has. -/
def ofLinks : RegistryAction → Prop
  | .registerName _ _ | .unregisterName _ => False
  | _ => True

/-- A thread that nobody disturbs makes the call as a whole. -/
theorem run_call (hidle : s.threads t = .idle) {l : RegistryAction} (hl : ofLinks l) :
    ∃ ls, (machine Tid).run s ls = some (s.put t (s.dir.call l) .idle) := by
  have hself : s.put t s.dir .idle = s := by
    rw [put, ← hidle, Function.update_eq_self]
  cases l with
  | registerActor =>
    refine ⟨[.registerActor t, .step t], ?_⟩
    have hcall : (machine Tid).next s (.registerActor t) = some (s.put t
        { s.dir with nextActorId := s.dir.nextActorId + 1 } (.register s.dir.nextActorId)) := by
      simp only [machine, next, thread, hidle]
      rfl
    rw [Machine.run, hcall, Option.bind_some, Machine.run, next_step_put]
    simp only [resume, put_put, Option.bind_some, Machine.run_nil]
    rfl
  | registerName name a => cases hl
  | unregisterName name => cases hl
  | linkActor w a =>
    have hcall : (machine Tid).next s (.linkActor t w a) = some (s.call t (.linkActor t w a)) := by
      simp only [machine, next, thread, hidle]
    simp only [Directory.call, Directory.linkActor]
    split_ifs with he hreg
    · refine ⟨[], ?_⟩
      rw [hself]
      rfl
    · refine ⟨[.linkActor t w a, .step t], ?_⟩
      rw [Machine.run, hcall, Option.bind_some]
      simp only [call, if_neg he, if_pos hreg]
      rw [Machine.run, next_step_put]
      simp only [resume, put_put, Option.bind_some, Machine.run_nil]
      rfl
    · refine ⟨[], ?_⟩
      rw [hself]
      rfl
  | unlinkActor w a =>
    refine ⟨[.unlinkActor t w a], ?_⟩
    simp only [Machine.run, machine, next, thread, hidle]
    rfl
  | unregisterActor a => exact run_unregisterActor hidle a

/-- What one call after the other can do, a thread of `LinkSystem` can do. -/
theorem reachable_of_registry (t : Tid) {d : Directory}
    (h : Directory.registry.Reach (fun _ l => ofLinks l) d) :
    (machine Tid).Reachable ⟨d, fun _ => .idle⟩ := by
  induction h with
  | start hi =>
    subst hi
    exact .start rfl
  | @step d d' l _ hl hs ih =>
    cases hs
    obtain ⟨ls, hrun⟩ := run_call (s := ⟨d, fun _ => .idle⟩) (t := t) rfl hl
    have hput : put ⟨d, fun _ => .idle⟩ t (d.call l) .idle = ⟨d.call l, fun _ : Tid => .idle⟩ := by
      rw [put, Function.update_eq_self]
    rw [← hput]
    exact Machine.reachable_run ih hrun

end LinkSystem

end Balabala
