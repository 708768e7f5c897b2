import Mathlib.Data.Fintype.Basic
import Balabala.Foundation.Machine
import Balabala.Actor.Names

/-!
# Links between actors

`LinkActor`, `UnlinkActor`, `RegisterActor` and `UnregisterActor` at the granularity of their
critical sections: any number of threads run them, and every section on `actorsLock_`, `nameLock_`
or `linkLock_` is one step. `LinkActor` checks under `actorsLock_` that both actors are registered
and inserts under `linkLock_`; `UnregisterActor` takes the watchers out, notifies them one by one,
removes the name, cleans the link table up, and erases the actor.

The link table stays free of dead actors, and nobody waits in vain for an `ActorDown`, as long as
what `LinkActor` has checked is still true when it inserts.
-/

namespace Balabala

open Foundation

/-! ### Sets of watchers -/

/-- A `std::set<uint32_t>`: its elements in ascending order. -/
structure IdSet where
  ids : List ActorId
  ascending : ids.Pairwise (· < ·)

namespace IdSet

instance : Membership ActorId IdSet := ⟨fun s a => a ∈ s.ids⟩

instance (a : ActorId) (s : IdSet) : Decidable (a ∈ s) := inferInstanceAs (Decidable (a ∈ s.ids))

lemma mem_def {a : ActorId} {s : IdSet} : a ∈ s ↔ a ∈ s.ids := .rfl

def empty : IdSet := ⟨[], .nil⟩

/-- Insert into an ascending list. -/
def insertAscending (a : ActorId) : List ActorId → List ActorId
  | [] => [a]
  | b :: l => if a < b then a :: b :: l else if a = b then b :: l else b :: insertAscending a l

lemma mem_insertAscending {a b : ActorId} {l : List ActorId} :
    b ∈ insertAscending a l ↔ b = a ∨ b ∈ l := by
  induction l with
  | nil => simp [insertAscending]
  | cons c l ih =>
    rw [insertAscending]
    split_ifs with hlt heq
    · exact List.mem_cons
    · subst heq; simp
    · rw [List.mem_cons, ih, List.mem_cons, or_left_comm]

lemma pairwise_insertAscending {a : ActorId} {l : List ActorId} (h : l.Pairwise (· < ·)) :
    (insertAscending a l).Pairwise (· < ·) := by
  induction l with
  | nil => exact List.pairwise_singleton _ _
  | cons c l ih =>
    obtain ⟨hc, hl⟩ := List.pairwise_cons.mp h
    rw [insertAscending]
    split_ifs with hlt heq
    · refine List.pairwise_cons.mpr ⟨fun b hb => ?_, h⟩
      rcases List.mem_cons.mp hb with rfl | hb
      · exact hlt
      · exact UInt32.lt_trans hlt (hc b hb)
    · exact h
    · refine List.pairwise_cons.mpr ⟨fun b hb => ?_, ih hl⟩
      rcases mem_insertAscending.mp hb with rfl | hb
      · exact (UInt32.lt_or_lt_of_ne heq).resolve_left hlt
      · exact hc b hb

def insert (s : IdSet) (a : ActorId) : IdSet :=
  ⟨insertAscending a s.ids, pairwise_insertAscending s.ascending⟩

def erase (s : IdSet) (a : ActorId) : IdSet :=
  ⟨s.ids.filter (· ≠ a), s.ascending.filter _⟩

@[simp] lemma not_mem_empty (a : ActorId) : a ∉ empty := by simp [mem_def, empty]

@[simp] lemma mem_insert {a b : ActorId} {s : IdSet} : b ∈ s.insert a ↔ b = a ∨ b ∈ s :=
  mem_insertAscending

@[simp] lemma mem_erase {a b : ActorId} {s : IdSet} : b ∈ s.erase a ↔ b ∈ s ∧ b ≠ a := by
  simp [mem_def, erase]

end IdSet

/-! ### The tables -/

/-- The tables of `ActorSystem` that say which actors exist, and the mailboxes of the actors. -/
structure Directory where
  nextActorId : UInt32
  actors : ActorId → Bool
  names : Names
  linkMap : ActorId → Option IdSet
  mailbox : ActorId → List ActorMessage

namespace Directory

def empty : Directory where
  nextActorId := 1
  actors := fun _ => false
  names := .empty
  linkMap := fun _ => none
  mailbox := fun _ => []

/-- `actors_[id] = actor`, a new object with an empty mailbox. -/
def addActor (d : Directory) (id : ActorId) : Directory :=
  { d with actors := Function.update d.actors id true
           mailbox := Function.update d.mailbox id [] }

def eraseActor (d : Directory) (id : ActorId) : Directory :=
  { d with actors := Function.update d.actors id false }

/-- `Send`; the message to an actor that is not registered is dropped. -/
def send (d : Directory) (id : ActorId) (msg : ActorMessage) : Directory :=
  if d.actors id then { d with mailbox := Function.update d.mailbox id (d.mailbox id ++ [msg]) }
  else d

/-- The section of `LinkActor` on `linkLock_`: `linkMap_[targetId].insert(watcherId)`. -/
def insertLink (d : Directory) (watcherId targetId : ActorId) : Directory :=
  let watchers := ((d.linkMap targetId).getD .empty).insert watcherId
  { d with linkMap := Function.update d.linkMap targetId (some watchers) }

/-- `UnlinkActor`. -/
def unlinkActor (d : Directory) (watcherId targetId : ActorId) : Directory :=
  match d.linkMap targetId with
  | some watchers =>
    let watchers := watchers.erase watcherId
    let entry := if watchers.ids.isEmpty then none else some watchers
    { d with linkMap := Function.update d.linkMap targetId entry }
  | none => d

/-- The section of `notifyActorDown` on `linkLock_`: the watchers, taken out. -/
def takeWatchers (d : Directory) (targetId : ActorId) : IdSet × Directory :=
  match d.linkMap targetId with
  | some watchers => (watchers, { d with linkMap := Function.update d.linkMap targetId none })
  | none => (.empty, d)

/-- The section of `UnregisterActor` on `nameLock_`. -/
def removeName (d : Directory) (actorId : ActorId) : Directory :=
  { d with names := d.names.removeActor actorId }

/-- The section of `UnregisterActor` on `linkLock_`. -/
def cleanLinks (d : Directory) (actorId : ActorId) : Directory :=
  { d with linkMap := fun targetId =>
      (Function.update d.linkMap actorId none targetId).map fun watchers => watchers.erase actorId }

/-! What the sections do to the links. -/

/-- Whether the link table has an entry for an actor, perhaps an empty one. -/
def isKey (d : Directory) (targetId : ActorId) : Prop := d.linkMap targetId ≠ none

def watches (d : Directory) (watcherId targetId : ActorId) : Prop :=
  ∃ watchers, d.linkMap targetId = some watchers ∧ watcherId ∈ watchers

variable {d : Directory} {w t a b : ActorId}

lemma watches.isKey (h : d.watches w t) : d.isKey t := by
  obtain ⟨watchers, hs, -⟩ := h
  simp [Directory.isKey, hs]

lemma isKey_insertLink : (d.insertLink w t).isKey b ↔ b = t ∨ d.isKey b := by
  by_cases e : b = t
  · subst e; simp [isKey, insertLink]
  · simp [isKey, insertLink, e]

lemma watches_insertLink :
    (d.insertLink w t).watches a b ↔ (a = w ∧ b = t) ∨ d.watches a b := by
  by_cases e : b = t
  · subst e
    cases h : d.linkMap b <;> simp [watches, insertLink, h]
  · simp [watches, insertLink, e]

lemma isKey_of_unlinkActor (h : (d.unlinkActor w t).isKey b) : d.isKey b := by
  cases hm : d.linkMap t with
  | none => simpa [unlinkActor, hm] using h
  | some watchers =>
    by_cases e : b = t
    · subst e; simp [isKey, hm]
    · simpa [isKey, unlinkActor, hm, e] using h

lemma watches_unlinkActor :
    (d.unlinkActor w t).watches a b ↔ d.watches a b ∧ ¬(a = w ∧ b = t) := by
  cases hm : d.linkMap t with
  | none =>
    have hself : d.unlinkActor w t = d := by simp [unlinkActor, hm]
    rw [hself]
    refine ⟨fun h => ⟨h, ?_⟩, And.left⟩
    rintro ⟨-, rfl⟩
    exact h.isKey hm
  | some watchers =>
    by_cases e : b = t
    · subst e
      by_cases hempty : (watchers.erase w).ids = []
      · have hall : ∀ c ∈ watchers, c = w := by
          intro c hc
          by_contra hne
          have hin : c ∈ watchers.erase w := IdSet.mem_erase.mpr ⟨hc, hne⟩
          rw [IdSet.mem_def, hempty] at hin
          simp at hin
        simpa [watches, unlinkActor, hm, hempty] using hall a
      · simp [watches, unlinkActor, hm, hempty]
    · simp [watches, unlinkActor, hm, e]

lemma isKey_takeWatchers : (d.takeWatchers t).2.isKey b ↔ d.isKey b ∧ b ≠ t := by
  cases hm : d.linkMap t with
  | none =>
    have hself : (d.takeWatchers t).2 = d := by simp [takeWatchers, hm]
    rw [hself]
    refine ⟨fun h => ⟨h, ?_⟩, And.left⟩
    rintro rfl
    exact h hm
  | some watchers => by_cases e : b = t <;> simp [isKey, takeWatchers, hm, e]

lemma watches_takeWatchers : (d.takeWatchers t).2.watches a b ↔ d.watches a b ∧ b ≠ t := by
  cases hm : d.linkMap t with
  | none =>
    have hself : (d.takeWatchers t).2 = d := by simp [takeWatchers, hm]
    rw [hself]
    refine ⟨fun h => ⟨h, ?_⟩, And.left⟩
    rintro rfl
    exact h.isKey hm
  | some watchers => by_cases e : b = t <;> simp [watches, takeWatchers, hm, e]

lemma mem_takeWatchers : a ∈ (d.takeWatchers t).1.ids ↔ d.watches a t := by
  cases hm : d.linkMap t with
  | none => simp [takeWatchers, watches, hm, IdSet.empty]
  | some watchers => simp [takeWatchers, watches, hm, IdSet.mem_def]

lemma isKey_cleanLinks : (d.cleanLinks w).isKey b ↔ d.isKey b ∧ b ≠ w := by
  by_cases e : b = w
  · subst e; simp [isKey, cleanLinks]
  · simp [isKey, cleanLinks, e]

lemma watches_cleanLinks :
    (d.cleanLinks w).watches a b ↔ d.watches a b ∧ a ≠ w ∧ b ≠ w := by
  by_cases e : b = w
  · subst e; simp [watches, cleanLinks]
  · cases hm : d.linkMap b <;> simp [watches, cleanLinks, e, hm]

@[simp] lemma linkMap_send (msg : ActorMessage) : (d.send a msg).linkMap = d.linkMap := by
  rw [send]
  split_ifs <;> rfl

@[simp] lemma actors_send (msg : ActorMessage) : (d.send a msg).actors = d.actors := by
  rw [send]
  split_ifs <;> rfl

/-- A registered actor gets what it is sent. -/
lemma mailbox_send {msg : ActorMessage} (h : d.actors a = true) :
    (d.send a msg).mailbox a = d.mailbox a ++ [msg] := by
  simp [send, h]

end Directory

/-- `"unregistered"` -/
def unregistered : Bytes :=
  [0x75, 0x6e, 0x72, 0x65, 0x67, 0x69, 0x73, 0x74, 0x65, 0x72, 0x65, 0x64]

/-- The decimal digits of an id, as `std::to_string` writes them. -/
def toDigits (id : ActorId) : Bytes := (Nat.toDigits 10 id.toNat).map fun c => c.toNat.toUInt8

/-- The message `notifyActorDown` sends: `"<targetId>:<reason>"`. -/
def actorDownMessage (targetId : ActorId) (reason : Bytes) : ActorMessage where
  type := .actorDown
  sourceId := targetId
  data := toDigits targetId ++ 0x3a :: reason

/-! ### Threads in the middle of an operation -/

inductive LinkPc
  | idle
  /-- `RegisterActor` has drawn the id -/
  | register (id : ActorId)
  /-- `LinkActor` has found both actors -/
  | insert (watcherId targetId : ActorId)
  /-- `UnregisterActor` has taken the watchers out; these are still to be notified -/
  | notify (id : ActorId) (watchers : List ActorId)
  /-- about to clean the link table up -/
  | clean (id : ActorId)
  /-- about to erase the actor -/
  | erase (id : ActorId)
  deriving DecidableEq

/-- Inside an `UnregisterActor` that has taken the watchers out. -/
def LinkPc.removes (id : ActorId) : LinkPc → Prop
  | .notify a _ | .clean a | .erase a => a = id
  | .idle | .register _ | .insert _ _ => False

instance (id : ActorId) : ∀ pc : LinkPc, Decidable (pc.removes id)
  | .notify a _ | .clean a | .erase a => inferInstanceAs (Decidable (a = id))
  | .idle | .register _ | .insert _ _ => inferInstanceAs (Decidable False)

structure LinkSystem (Tid : Type*) where
  dir : Directory
  threads : Tid → LinkPc

inductive LinkAction (Tid : Type*)
  | registerActor (t : Tid)
  | linkActor (t : Tid) (watcherId targetId : ActorId)
  | unlinkActor (t : Tid) (watcherId targetId : ActorId)
  | unregisterActor (t : Tid) (actorId : ActorId)
  /-- the next critical section of the operation in progress -/
  | step (t : Tid)

namespace LinkSystem

variable {Tid : Type*}

/-- No operation is in progress. -/
def Quiescent (s : LinkSystem Tid) : Prop := ∀ t, s.threads t = .idle

variable [DecidableEq Tid]

def put (s : LinkSystem Tid) (t : Tid) (d : Directory) (pc : LinkPc) : LinkSystem Tid where
  dir := d
  threads := Function.update s.threads t pc

/-- A call of one of the operations, up to the end of its first section. -/
def call (s : LinkSystem Tid) (t : Tid) : LinkAction Tid → LinkSystem Tid
  | .registerActor _ =>
    s.put t { s.dir with nextActorId := s.dir.nextActorId + 1 } (.register s.dir.nextActorId)
  | .linkActor _ watcherId targetId =>
    if watcherId = targetId then s
    else if s.dir.actors watcherId && s.dir.actors targetId then
      s.put t s.dir (.insert watcherId targetId)
    else s
  | .unlinkActor _ watcherId targetId => s.put t (s.dir.unlinkActor watcherId targetId) .idle
  | .unregisterActor _ actorId =>
    s.put t (s.dir.takeWatchers actorId).2 (.notify actorId (s.dir.takeWatchers actorId).1.ids)
  | .step _ => s

/-- The next critical section of the operation in progress. -/
def resume (s : LinkSystem Tid) (t : Tid) : LinkPc → Option (LinkSystem Tid)
  | .idle => none
  | .register id => some (s.put t (s.dir.addActor id) .idle)
  | .insert watcherId targetId => some (s.put t (s.dir.insertLink watcherId targetId) .idle)
  | .notify id (watcherId :: rest) =>
    some (s.put t (s.dir.send watcherId (actorDownMessage id unregistered)) (.notify id rest))
  | .notify id [] => some (s.put t (s.dir.removeName id) (.clean id))
  | .clean id => some (s.put t (s.dir.cleanLinks id) (.erase id))
  | .erase id => some (s.put t (s.dir.eraseActor id) .idle)

/-- The thread that takes a step. -/
def thread : LinkAction Tid → Tid
  | .registerActor t | .linkActor t _ _ | .unlinkActor t _ _ | .unregisterActor t _ | .step t => t

def next (s : LinkSystem Tid) (l : LinkAction Tid) : Option (LinkSystem Tid) :=
  match l with
  | .step t => s.resume t (s.threads t)
  | l =>
    match s.threads (thread l) with
    | .idle => some (s.call (thread l) l)
    | _ => none

def start (Tid : Type*) : LinkSystem Tid where
  dir := .empty
  threads := fun _ => .idle

def machine (Tid : Type*) [DecidableEq Tid] : Machine (LinkSystem Tid) (LinkAction Tid) where
  init s := s = start Tid
  next := next

/-! ### Who waits for an `ActorDown` -/

/-- Whether a watcher (first) waits for the `ActorDown` of a target (second). -/
abbrev Awaiting := ActorId → ActorId → Prop

/-- A registered watcher waits from the insertion of its link until it is unlinked, is removed from
the link table or from `actors_` itself, or was sent the message. -/
def record (g : Awaiting) (s : LinkSystem Tid) (l : LinkAction Tid)
    (s' : LinkSystem Tid) : Awaiting :=
  match l with
  | .unlinkActor _ watcherId targetId => fun w t => g w t ∧ ¬(w = watcherId ∧ t = targetId)
  | .step t =>
    match s.threads t with
    | .insert watcherId targetId =>
      fun w t => g w t ∨ (w = watcherId ∧ t = targetId ∧ s.dir.actors watcherId)
    | .notify id _ => fun w t => g w t ∧ ¬(t = id ∧
      s'.dir.mailbox w = s.dir.mailbox w ++ [actorDownMessage t unregistered])
    | .clean id | .erase id => fun w t => g w t ∧ w ≠ id
    | _ => g
  | _ => g

/-- The system with its observer. -/
def watched (Tid : Type*) [DecidableEq Tid] :
    Machine (LinkSystem Tid × Awaiting) (LinkAction Tid) :=
  (machine Tid).observed (fun _ _ => False) record

/-- No link to a dead actor. -/
structure LinksLive (x : LinkSystem Tid × Awaiting) : Prop where
  /-- Unless an operation is in progress every key of the link table is registered, -/
  key : x.1.Quiescent → ∀ t, x.1.dir.isKey t → x.1.dir.actors t = true
  /-- and so is every watcher. -/
  watcher : x.1.Quiescent → ∀ w t, x.1.dir.watches w t → x.1.dir.actors w = true
  /-- Once a target is unregistered, somebody is about to send the `ActorDown` of a registered
  watcher that has not been sent it yet. -/
  told : ∀ w t, x.2 w t → x.1.dir.actors w = true → x.1.dir.actors t = false →
    ∃ u rest, x.1.threads u = .notify t rest ∧ w ∈ rest

/-- `LinkActor` inserts while what it has checked is true: both actors are registered, the watchers
of the target have not been taken out by an `UnregisterActor` in progress, and no link clean-up of
the watcher is over. -/
def Fresh (s : LinkSystem Tid) : LinkAction Tid → Prop
  | .step t =>
    match s.threads t with
    | .insert watcherId targetId =>
      s.dir.actors watcherId = true ∧ s.dir.actors targetId = true ∧
        (∀ u, ¬(s.threads u).removes targetId) ∧ ∀ u, s.threads u ≠ .erase watcherId
    | _ => True
  | _ => True

instance [Fintype Tid] (s : LinkSystem Tid) (l : LinkAction Tid) : Decidable (Fresh s l) := by
  unfold Fresh
  split
  · split <;> infer_instance
  · infer_instance

/-! ### What fresh insertions keep -/

/-- As long as insertions are fresh, this holds in the middle of the operations too. -/
structure LinkInv (x : LinkSystem Tid × Awaiting) : Prop where
  key : ∀ t, x.1.dir.isKey t → x.1.dir.actors t = true ∧ ∀ u, ¬(x.1.threads u).removes t
  watcher : ∀ w t, x.1.dir.watches w t → x.1.dir.actors w = true ∧ ∀ u, x.1.threads u ≠ .erase w
  registered : ∀ w t, x.2 w t → x.1.dir.actors w = true
  told : ∀ w t, x.2 w t →
    x.1.dir.watches w t ∨ ∃ u rest, x.1.threads u = .notify t rest ∧ w ∈ rest

namespace LinkInv

variable {s s' : LinkSystem Tid} {g g' : Awaiting} {t : Tid} {d : Directory} {pc : LinkPc}

omit [DecidableEq Tid] in
lemma live (h : LinkInv (s, g)) : LinksLive (s, g) := by
  constructor
  · intro _ t ht
    exact (h.key t ht).1
  · intro _ w t hw
    exact (h.watcher w t hw).1
  · intro w t hw _ ht
    rcases h.told w t hw with hlink | hnotify
    · rw [(h.key t hlink.isKey).1] at ht
      simp at ht
    · exact hnotify

/-- One thread moves on. What it leaves in the tables has to suit its own place; the other threads
are where they were. -/
lemma of_put
    (hkey : ∀ b, d.isKey b → d.actors b = true ∧ ¬pc.removes b ∧
      ∀ u, u ≠ t → ¬(s.threads u).removes b)
    (hwatcher : ∀ a b, d.watches a b → d.actors a = true ∧ pc ≠ .erase a ∧
      ∀ u, u ≠ t → s.threads u ≠ .erase a)
    (hreg : ∀ a b, g' a b → d.actors a = true)
    (htold : ∀ a b, g' a b → d.watches a b ∨ (∃ rest, pc = .notify b rest ∧ a ∈ rest) ∨
      ∃ u, u ≠ t ∧ ∃ rest, s.threads u = .notify b rest ∧ a ∈ rest) :
    LinkInv (s.put t d pc, g') := by
  have hself : (s.put t d pc).threads t = pc := Function.update_self _ _ _
  have hother : ∀ u, u ≠ t → (s.put t d pc).threads u = s.threads u :=
    fun u hne => Function.update_of_ne hne _ _
  constructor
  · intro b hb
    obtain ⟨hactor, hpc, hthreads⟩ := hkey b hb
    refine ⟨hactor, fun u => ?_⟩
    by_cases e : u = t
    · rw [e, hself]; exact hpc
    · rw [hother u e]; exact hthreads u e
  · intro a b hab
    obtain ⟨hactor, hpc, hthreads⟩ := hwatcher a b hab
    refine ⟨hactor, fun u => ?_⟩
    by_cases e : u = t
    · rw [e, hself]; exact hpc
    · rw [hother u e]; exact hthreads u e
  · exact hreg
  · intro a b hab
    rcases htold a b hab with hlink | ⟨rest, hpc, hrest⟩ | ⟨u, e, rest, hpc, hrest⟩
    · exact .inl hlink
    · exact .inr ⟨t, rest, hself.trans hpc, hrest⟩
    · exact .inr ⟨u, rest, (hother u e).trans hpc, hrest⟩

/-- A step that registers no link and erases no actor. -/
lemma put (h : LinkInv (s, g)) (hactors : ∀ a, s.dir.actors a = true → d.actors a = true)
    (hkey : ∀ b, d.isKey b → s.dir.isKey b ∧ ¬pc.removes b)
    (hwatcher : ∀ a b, d.watches a b → s.dir.watches a b ∧ pc ≠ .erase a)
    (hwaits : ∀ a b, g' a b → g a b)
    (hlink : ∀ a b, g' a b → s.dir.watches a b →
      d.watches a b ∨ ∃ rest, pc = .notify b rest ∧ a ∈ rest)
    (hnotify : ∀ a b rest, g' a b → s.threads t = .notify b rest → a ∈ rest →
      ∃ rest', pc = .notify b rest' ∧ a ∈ rest') : LinkInv (s.put t d pc, g') := by
  refine of_put (fun b hb => ?_) (fun a b hab => ?_) (fun a b hab => ?_) fun a b hab => ?_
  · obtain ⟨hb, hpc⟩ := hkey b hb
    obtain ⟨hactor, hthreads⟩ := h.key b hb
    exact ⟨hactors b hactor, hpc, fun u _ => hthreads u⟩
  · obtain ⟨hab, hpc⟩ := hwatcher a b hab
    obtain ⟨hactor, hthreads⟩ := h.watcher a b hab
    exact ⟨hactors a hactor, hpc, fun u _ => hthreads u⟩
  · exact hactors a (h.registered a b (hwaits a b hab))
  · rcases h.told a b (hwaits a b hab) with hl | ⟨u, rest, hu, hrest⟩
    · exact (hlink a b hab hl).imp id .inl
    · by_cases e : u = t
      · subst e
        exact .inr (.inl (hnotify a b rest hab hu hrest))
      · exact .inr (.inr ⟨u, e, rest, hu, hrest⟩)

/-- A step of a thread that notifies nobody, on neither links nor actors. -/
lemma put_same (h : LinkInv (s, g)) (hactors : ∀ a, s.dir.actors a = true → d.actors a = true)
    (hlinks : d.linkMap = s.dir.linkMap) (hwaits : ∀ a b, g' a b → g a b)
    (hpc : ∀ b, s.dir.isKey b → ¬pc.removes b) (herase : ∀ a, pc ≠ .erase a)
    (hnotify : ∀ b rest, s.threads t = .notify b rest → rest = []) :
    LinkInv (s.put t d pc, g') := by
  have hkey : ∀ b, d.isKey b ↔ s.dir.isKey b := by
    intro b; simp only [Directory.isKey, hlinks]
  have hwatches : ∀ a b, d.watches a b ↔ s.dir.watches a b := by
    intro a b; simp only [Directory.watches, hlinks]
  refine h.put hactors (fun b hb => ?_) (fun a b hab => ?_) hwaits (fun a b _ hab => ?_) ?_
  · rw [hkey] at hb
    exact ⟨hb, hpc b hb⟩
  · exact ⟨(hwatches a b).mp hab, herase a⟩
  · exact .inl ((hwatches a b).mpr hab)
  · intro a b rest _ hu hrest
    rw [hnotify b rest hu] at hrest
    simp at hrest

lemma insertLink (h : LinkInv (s, g)) {w a : ActorId} (hpc : s.threads t = .insert w a)
    (hok : Fresh s (.step t)) :
    LinkInv (s.put t (s.dir.insertLink w a) .idle,
      fun b c => g b c ∨ (b = w ∧ c = a ∧ s.dir.actors w)) := by
  simp only [Fresh, hpc] at hok
  obtain ⟨hw, ha, hremoves, herase⟩ := hok
  refine of_put (fun b hb => ?_) (fun b c hbc => ?_) (fun b c hbc => ?_) fun b c hbc => ?_
  · rcases Directory.isKey_insertLink.mp hb with rfl | hb
    · exact ⟨ha, id, fun u _ => hremoves u⟩
    · obtain ⟨hactor, hthreads⟩ := h.key b hb
      exact ⟨hactor, id, fun u _ => hthreads u⟩
  · rcases Directory.watches_insertLink.mp hbc with ⟨rfl, rfl⟩ | hbc
    · exact ⟨hw, by simp, fun u _ => herase u⟩
    · obtain ⟨hactor, hthreads⟩ := h.watcher b c hbc
      exact ⟨hactor, by simp, fun u _ => hthreads u⟩
  · rcases hbc with hbc | ⟨rfl, -, hb⟩
    · exact h.registered b c hbc
    · exact hb
  · rcases hbc with hbc | ⟨rfl, rfl, -⟩
    · rcases h.told b c hbc with hl | ⟨u, rest, hu, hrest⟩
      · exact .inl (Directory.watches_insertLink.mpr (.inr hl))
      · refine .inr (.inr ⟨u, ?_, rest, hu, hrest⟩)
        rintro rfl
        rw [hpc] at hu
        cases hu
    · exact .inl (Directory.watches_insertLink.mpr (.inl ⟨rfl, rfl⟩))

lemma eraseActor (h : LinkInv (s, g)) {a : ActorId} (hpc : s.threads t = .erase a) :
    LinkInv (s.put t (s.dir.eraseActor a) .idle, fun b c => g b c ∧ b ≠ a) := by
  have hactors : ∀ b, b ≠ a → (s.dir.eraseActor a).actors b = s.dir.actors b :=
    fun b hne => Function.update_of_ne hne _ _
  refine of_put (fun b hb => ?_) (fun b c hbc => ?_) (fun b c hbc => ?_) fun b c hbc => ?_
  · obtain ⟨hactor, hthreads⟩ := h.key b hb
    have hne : b ≠ a := by
      rintro rfl
      exact hthreads t (by rw [hpc]; rfl)
    rw [hactors b hne]
    exact ⟨hactor, id, fun u _ => hthreads u⟩
  · obtain ⟨hactor, hthreads⟩ := h.watcher b c hbc
    have hne : b ≠ a := by
      rintro rfl
      exact hthreads t hpc
    rw [hactors b hne]
    exact ⟨hactor, by simp, fun u _ => hthreads u⟩
  · rw [hactors b hbc.2]
    exact h.registered b c hbc.1
  · rcases h.told b c hbc.1 with hl | ⟨u, rest, hu, hrest⟩
    · exact .inl hl
    · refine .inr (.inr ⟨u, ?_, rest, hu, hrest⟩)
      rintro rfl
      rw [hpc] at hu
      cases hu

lemma resume (h : LinkInv (s, g)) (hok : Fresh s (.step t))
    (hs : s.resume t (s.threads t) = some s') : LinkInv (s', record g s (.step t) s') := by
  cases hpc : s.threads t with
  | idle => simp [hpc, LinkSystem.resume] at hs
  | register a =>
    simp only [record, hpc]
    simp only [hpc, LinkSystem.resume, Option.some.injEq] at hs
    subst hs
    refine h.put_same (fun b hb => ?_) rfl (fun _ _ => id) (fun _ _ => id) (by simp) (by simp [hpc])
    by_cases e : b = a
    · subst e; simp [Directory.addActor]
    · simpa [Directory.addActor, e] using hb
  | insert w a =>
    simp only [record, hpc]
    simp only [hpc, LinkSystem.resume, Option.some.injEq] at hs
    subst hs
    exact h.insertLink hpc hok
  | notify a watchers =>
    have hremoves : ∀ b, s.dir.isKey b → a ≠ b := by
      intro b hb e
      exact (h.key b hb).2 t (by rw [hpc]; exact e)
    cases watchers with
    | nil =>
      simp only [record, hpc]
      simp only [hpc, LinkSystem.resume, Option.some.injEq] at hs
      subst hs
      exact h.put_same (fun _ => id) rfl (fun _ _ => And.left) hremoves (by simp) (by simp [hpc])
    | cons w rest =>
      simp only [record, hpc]
      simp only [hpc, LinkSystem.resume, Option.some.injEq] at hs
      subst hs
      refine h.put (fun b hb => by simpa using hb) (fun b hb => ?_) (fun b c hbc => ?_)
        (fun _ _ => And.left) (fun b c _ hbc => ?_) fun b c rest' hbc hc hb => ?_
      · have hkey : s.dir.isKey b := by simpa [Directory.isKey] using hb
        exact ⟨hkey, hremoves b hkey⟩
      · exact ⟨by simpa [Directory.watches] using hbc, by simp⟩
      · exact .inl (by simpa [Directory.watches] using hbc)
      · obtain ⟨hwaits, hnot⟩ := hbc
        rw [hpc] at hc
        cases hc
        refine ⟨rest, rfl, (List.mem_cons.mp hb).resolve_left ?_⟩
        rintro rfl
        exact hnot ⟨rfl, Directory.mailbox_send (h.registered b _ hwaits)⟩
  | clean a =>
    have hremoves : ∀ b, s.dir.isKey b → b ≠ a := by
      intro b hb e
      exact (h.key b hb).2 t (by rw [hpc]; exact e.symm)
    simp only [record, hpc]
    simp only [hpc, LinkSystem.resume, Option.some.injEq] at hs
    subst hs
    refine h.put (fun _ => id) (fun b hb => ?_) (fun b c hbc => ?_) (fun _ _ => And.left)
      (fun b c hbc hlink => ?_) fun b c rest _ hc => ?_
    · obtain ⟨hb, hne⟩ := Directory.isKey_cleanLinks.mp hb
      exact ⟨hb, hne.symm⟩
    · obtain ⟨hbc, hne, -⟩ := Directory.watches_cleanLinks.mp hbc
      exact ⟨hbc, fun e => hne (LinkPc.erase.inj e).symm⟩
    · exact .inl (Directory.watches_cleanLinks.mpr ⟨hlink, hbc.2, hremoves c hlink.isKey⟩)
    · rw [hpc] at hc
      cases hc
  | erase a =>
    simp only [record, hpc]
    simp only [hpc, LinkSystem.resume, Option.some.injEq] at hs
    subst hs
    exact h.eraseActor hpc

/-- The first section of an operation. -/
lemma call (h : LinkInv (s, g)) (l : LinkAction Tid) (hidle : s.threads (thread l) = .idle)
    (hl : ∀ t, l ≠ .step t) : LinkInv (s.call (thread l) l, record g s l s') := by
  have hquiet : ∀ b rest, s.threads (thread l) ≠ .notify b rest := by
    intro b rest e
    rw [hidle] at e
    cases e
  cases l with
  | registerActor t =>
    exact h.put_same (fun _ => id) rfl (fun _ _ => id) (fun _ _ => id) (by simp)
      fun b rest e => absurd e (hquiet b rest)
  | linkActor t w a =>
    simp only [LinkSystem.call]
    split_ifs
    · exact h
    · exact h.put_same (fun _ => id) rfl (fun _ _ => id) (fun _ _ => id) (by simp)
        fun b rest e => absurd e (hquiet b rest)
    · exact h
  | unlinkActor t w a =>
    refine h.put (fun b hb => ?_) (fun b hb => ?_) (fun b c hbc => ?_) (fun _ _ => And.left)
      (fun b c hbc hlink => ?_) fun b c rest _ hc => absurd hc (hquiet c rest)
    · rw [Directory.unlinkActor]
      split <;> exact hb
    · exact ⟨Directory.isKey_of_unlinkActor hb, id⟩
    · exact ⟨(Directory.watches_unlinkActor.mp hbc).1, by simp⟩
    · exact .inl (Directory.watches_unlinkActor.mpr ⟨hlink, hbc.2⟩)
  | unregisterActor t a =>
    refine h.put (fun b hb => ?_) (fun b hb => ?_) (fun b c hbc => ?_) (fun _ _ => id)
      (fun b c _ hlink => ?_) fun b c rest _ hc => absurd hc (hquiet c rest)
    · rw [Directory.takeWatchers]
      split <;> exact hb
    · obtain ⟨hb, hne⟩ := Directory.isKey_takeWatchers.mp hb
      exact ⟨hb, hne.symm⟩
    · exact ⟨(Directory.watches_takeWatchers.mp hbc).1, by simp⟩
    · by_cases e : c = a
      · subst e
        exact .inr ⟨_, rfl, Directory.mem_takeWatchers.mpr hlink⟩
      · exact .inl (Directory.watches_takeWatchers.mpr ⟨hlink, e⟩)
  | step t => exact absurd rfl (hl t)

lemma step {l : LinkAction Tid} (h : LinkInv (s, g)) (hok : Fresh s l)
    (hs : (machine Tid).next s l = some s') : LinkInv (s', record g s l s') := by
  change next s l = some s' at hs
  cases l with
  | step t => exact h.resume hok hs
  | registerActor t | linkActor t w a | unlinkActor t w a | unregisterActor t a =>
    simp only [next] at hs
    split at hs
    · cases hs
      exact h.call _ ‹_› (by simp)
    · cases hs

end LinkInv

/-- In every run in which `LinkActor` inserts only while what it has checked is true, no link leads
to or from a dead actor, and every watcher is sent its `ActorDown`. -/
theorem linksLive_of_reach {x : LinkSystem Tid × Awaiting}
    (h : (watched Tid).Reach (fun x l => Fresh x.1 l) x) : LinksLive x := by
  refine LinkInv.live (h.invariant (P := LinkInv) ?_ ?_)
  · rintro ⟨s, g⟩ ⟨hi, rfl⟩
    subst hi
    constructor <;> simp [start, Directory.isKey, Directory.watches, Directory.empty]
  · rintro ⟨s, g⟩ l ⟨s', g'⟩ _ hx hok hstep
    obtain ⟨hs, hg⟩ := Machine.next_of_observed hstep
    change g' = record g s l s' at hg
    rw [hg]
    exact hx.step hok hs

lemma watched_start : (watched Tid).Reach (fun x l => Fresh x.1 l) (start Tid, fun _ _ => False) :=
  .start ⟨rfl, rfl⟩

/-- A thread (`false`) registers the actors 1 and 2. -/
def registerTwo : List (LinkAction Bool) :=
  [.registerActor false, .step false, .registerActor false, .step false]

/-- Actor 1 is linked to actor 2, and told when that is unregistered. -/
theorem linksLive_told :
    let x := (watched Bool).replayWith (fun x l => Fresh x.1 l) (start Bool, fun _ _ => False)
      (registerTwo ++ [.linkActor false 1 2, .step false, .unregisterActor true 2, .step true,
        .step true, .step true, .step true])
    (x.1.dir.mailbox 1).map ActorMessage.sourceId = [2] ∧ x.1.dir.actors 2 = false ∧
      LinksLive x := by
  intro x
  refine ⟨by decide, by decide, linksLive_of_reach ?_⟩
  exact Machine.reach_replayWith watched_start _

/-- `LinkActor(1, 2)` has found both actors; the other thread unregisters actor 2 from beginning to
end; then the link is inserted. -/
def staleInsertion : List (LinkAction Bool) :=
  registerTwo ++ [.linkActor false 1 2, .unregisterActor true 2, .step true, .step true, .step true,
    .step false]

/-- The link table keeps a dead key. -/
theorem deadLink_of_staleInsertion :
    ¬ ∀ x : LinkSystem Bool × Awaiting, (watched Bool).Reachable x → LinksLive x := by
  intro h
  let x := (watched Bool).replay (start Bool, fun _ _ => False) staleInsertion
  have hx : (watched Bool).Reachable x := Machine.reachable_replay watched_start.reachable _
  have hquiet : x.1.Quiescent := by
    intro t
    cases t <;> decide
  have hkey : x.1.dir.isKey 2 := by
    intro e
    have : (x.1.dir.linkMap 2).isSome = true := by decide
    simp [e] at this
  have hdead : x.1.dir.actors 2 = false := by decide
  simp [(h x hx).key hquiet 2 hkey] at hdead

end LinkSystem

end Balabala
