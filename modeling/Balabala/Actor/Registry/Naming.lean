import Balabala.Actor.Registry.Basic
import Balabala.Cluster.SendPaths

/-!
# Names that lead back

`nameToActor_` has many names for an actor, `actorToName_` has the one it is shown under. What an
actor is shown under leads to it and to nobody else, whatever names are given, taken over and taken
away. The other way does not hold: an operation that takes one name away also takes the shown name
away, and `UnregisterActor` takes away the shown name only, so that another name of the actor leads
to an actor that is shown under none, or to one that is gone.
-/

namespace Balabala

open Foundation

namespace Names

/-- What an actor is shown under leads to it. -/
def Consistent (n : Names) : Prop :=
  ∀ a name, n.actorToName a = some name → n.nameToActor name = some a

namespace Consistent

variable {n : Names} {name : Bytes} {a b : ActorId}

lemma empty : Consistent empty := by
  intro a name h
  cases h

/-- No two actors are shown under one name. -/
lemma injective (h : n.Consistent) (ha : n.actorToName a = some name)
    (hb : n.actorToName b = some name) : a = b := by
  have hname := h a name ha
  rw [h b name hb] at hname
  exact (Option.some.inj hname).symm

/-- The actor that had the name is no longer shown under it. -/
lemma registerName (h : n.Consistent) (name : Bytes) (a : ActorId) :
    (n.registerName name a).Consistent := by
  intro b m hb
  rw [nameToActor_registerName]
  rcases actorToName_registerName.mp hb with ⟨rfl, rfl⟩ | ⟨-, hold, hb⟩
  · exact .inl ⟨rfl, rfl⟩
  · have hm := h b m hb
    refine .inr ⟨?_, hm⟩
    rintro rfl
    exact hold hm

lemma unregisterName (h : n.Consistent) (name : Bytes) : (n.unregisterName name).Consistent := by
  intro b m hb
  obtain ⟨hold, hb⟩ := actorToName_unregisterName.mp hb
  have hm := h b m hb
  refine nameToActor_unregisterName.mpr ⟨?_, hm⟩
  rintro rfl
  exact hold hm

/-- Only the actor itself was shown under the name that is erased. -/
lemma removeActor (h : n.Consistent) (a : ActorId) : (n.removeActor a).Consistent := by
  intro b m hb
  obtain ⟨hne, hb⟩ := actorToName_removeActor.mp hb
  exact nameToActor_removeActor.mpr ⟨fun ha => hne (h.injective hb ha), h b m hb⟩

end Consistent

end Names

namespace Directory

/-- What every operation keeps. -/
lemma consistent_call {d : Directory} (h : d.names.Consistent) (l : RegistryAction) :
    (d.call l).names.Consistent := by
  cases l with
  | registerActor => exact h
  | registerName name a => exact h.registerName name a
  | unregisterName name => exact h.unregisterName name
  | linkActor w t =>
    simp only [call, linkActor]
    split_ifs <;> exact h
  | unlinkActor w t =>
    simp only [call, unlinkActor]
    split <;> exact h
  | unregisterActor a =>
    simp only [call, names_unregisterActor]
    exact h.removeActor a

lemma consistent_of_reachable {d : Directory} (h : registry.Reachable d) :
    d.names.Consistent := by
  refine h.invariant (P := fun d => d.names.Consistent) ?_ ?_
  · rintro d rfl
    exact .empty
  · intro d l d' _ hd _ hs
    cases hs
    exact consistent_call hd l

end Directory

/-! ### The return address -/

/-- The packets that a message leaves the node in, by `SendToRemote` or through a proxy. -/
inductive PacketOf (sys : ClusterView) (msg : ActorMessage) : ClusterPacket → Prop
  | sendToRemote {pkt : ClusterPacket} (targetNodeId targetActorName : Bytes)
      (h : pkt ∈ (sys.sendToRemote targetNodeId targetActorName msg []).2) : PacketOf sys msg pkt
  | proxy {pkt : ClusterPacket} (proxy : ClusterProxy)
      (h : pkt ∈ proxy.onCoroutineMessage sys msg) : PacketOf sys msg pkt

/-- The return address is what the sender is shown under. -/
lemma PacketOf.sourceActorName_eq {sys : ClusterView} {msg : ActorMessage} {pkt : ClusterPacket}
    (h : PacketOf sys msg pkt) : pkt.sourceActorName =
      if 0 < msg.sourceId then (sys.actorToName msg.sourceId).getD [] else [] := by
  cases h with
  | sendToRemote targetNodeId targetActorName h =>
    obtain ⟨transport, -, data, rfl⟩ := ClusterView.exists_of_mem_offer h
    simp [ClusterView.getActorName]
  | proxy proxy h =>
    rw [ClusterProxy.onCoroutineMessage] at h
    split at h
    · cases h
    · obtain rfl := List.mem_singleton.mp h
      rfl

/-- In every reachable state, a name that an actor is shown under leads to it, and no other actor
is shown under it. The return address of a packet is the name its sender is shown under, if there is
one, and leads to the sender. -/
theorem return_address_resolves {d : Directory} (h : Directory.registry.Reachable d) :
    (∀ a name, d.names.actorToName a = some name →
      d.names.getActorName a = name ∧ d.names.nameToActor name = some a) ∧
    (∀ a b name, d.names.actorToName a = some name → d.names.actorToName b = some name → a = b) ∧
    ∀ (sys : ClusterView) (msg : ActorMessage) (pkt : ClusterPacket),
      sys.actorToName = d.names.actorToName → PacketOf sys msg pkt →
      (∀ name, 0 < msg.sourceId → d.names.actorToName msg.sourceId = some name →
        pkt.sourceActorName = name ∧ d.names.findActor pkt.sourceActorName = msg.sourceId) ∧
      (pkt.sourceActorName ≠ [] →
        ∀ b, d.names.nameToActor pkt.sourceActorName = some b ↔ b = msg.sourceId) := by
  have hc := Directory.consistent_of_reachable h
  refine ⟨fun a name ha => ⟨by simp [Names.getActorName, ha], hc a name ha⟩,
    fun a b name ha hb => hc.injective ha hb, fun sys msg pkt hsys hpkt => ?_⟩
  have hname := hpkt.sourceActorName_eq
  rw [hsys] at hname
  constructor
  · intro name hpos hs
    have hshown : pkt.sourceActorName = name := by
      rw [hname, if_pos hpos, hs, Option.getD_some]
    refine ⟨hshown, ?_⟩
    rw [hshown, Names.findActor, hc _ _ hs, Option.getD_some]
  · intro hne b
    rw [hname] at hne ⊢
    split_ifs at hne ⊢ with hpos
    · cases hs : d.names.actorToName msg.sourceId with
      | none => simp [hs] at hne
      | some name =>
        rw [Option.getD_some, hc _ _ hs, Option.some.injEq]
        exact eq_comm
    · exact absurd rfl hne

/-- Actor 1 gets two names, and actor 2 takes one of them over. -/
def aliasesAndTakeover : List RegistryAction :=
  [.registerActor, .registerActor, .registerName [97] 1, .registerName [98] 1,
    .registerName [97] 2]

/-- A packet of actor 2 has the name that was taken over as its return address. -/
theorem return_address_takeover :
    let d := Directory.registry.replay .empty aliasesAndTakeover
    let sys : ClusterView := ⟨d.names.actorToName, [⟨[65], fun _ => true⟩]⟩
    ∀ pkt ∈ (sys.actorSendToRemote 2 [66] [99] {}).2,
      pkt.sourceActorName = [97] ∧ d.names.findActor pkt.sourceActorName = 2 := by
  intro d sys pkt hpkt
  have hd : Directory.registry.Reachable d :=
    Machine.reachable_replay Directory.registry_start _
  exact ((return_address_resolves hd).2.2 sys _ pkt rfl (.sendToRemote [66] [99] hpkt)).1 [97]
    (by decide) (by decide)

/-! ### Names of actors that are gone -/

/-- Which actors have been unregistered and not been given a name since. -/
abbrev Gone := ActorId → Prop

namespace Directory

def recordGone (gone : Gone) (_ : Directory) (l : RegistryAction) (_ : Directory) : Gone :=
  match l with
  | .unregisterActor actorId => fun a => a = actorId ∨ gone a
  | .registerName _ actorId => fun a => gone a ∧ a ≠ actorId
  | _ => gone

/-- The runs of `registry`, with an observer of the actors that are gone. -/
def named : Machine (Directory × Gone) RegistryAction :=
  registry.observed (fun _ => False) recordGone

/-- No name outlives its actor, and who has a name is shown under one. (`FindActor` answers `0` when
it finds nobody.) -/
structure NamesLive (x : Directory × Gone) : Prop where
  gone : ∀ a, x.2 a → ∀ name, x.1.names.nameToActor name ≠ some a
  shown : ∀ name a, x.1.names.nameToActor name = some a → x.1.actors a = true →
    x.1.names.getActorName a ≠ []

/-- `actorId` has no other name than `name`. -/
def OnlyName (d : Directory) (actorId : ActorId) (name : Bytes) : Prop :=
  ∀ m, d.names.nameToActor m = some actorId → m = name

/-- A registered actor is not given the empty name, and a name is taken from it only when it is its
only one; an actor is unregistered only when the name it is shown under, if any, is its only one;
and an id that has a name before an actor is registered under it is shown under one. -/
def OneName (d : Directory) : RegistryAction → Prop
  | .registerActor => ∀ name, d.names.nameToActor name = some d.nextActorId →
      d.names.getActorName d.nextActorId ≠ []
  | .registerName name actorId => (d.actors actorId = true → name ≠ []) ∧
      ∀ old, d.names.nameToActor name = some old → old ≠ actorId → d.actors old = true →
        d.OnlyName old name
  | .unregisterName name => ∀ actorId, d.names.nameToActor name = some actorId →
      d.actors actorId = true → d.OnlyName actorId name
  | .unregisterActor actorId => ∀ name, d.names.nameToActor name = some actorId →
      d.names.actorToName actorId = some name
  | .linkActor _ _ | .unlinkActor _ _ => True

variable {d : Directory} {g : Gone} {name : Bytes} {a : ActorId}

lemma getActorName_ne_nil {n : Names} {a : ActorId} :
    n.getActorName a ≠ [] ↔ ∃ name, n.actorToName a = some name ∧ name ≠ [] := by
  cases h : n.actorToName a with
  | none => simp [Names.getActorName, h]
  | some name => simp [Names.getActorName, h]

namespace NamesLive

/-- Nothing the property looks at has changed. -/
lemma of_eq (h : NamesLive (d, g)) {d' : Directory} (hnames : d'.names = d.names)
    (hactors : d'.actors = d.actors) : NamesLive (d', g) where
  gone b hb m := by
    simp only [hnames]
    exact h.gone b hb m
  shown m b hm hb := by
    simp only [hnames, hactors] at hm hb ⊢
    exact h.shown m b hm hb

lemma registerActor (h : NamesLive (d, g)) :
    NamesLive (d.registerActor, g) ↔ d.OneName .registerActor := by
  constructor
  · intro h' name hname
    exact h'.shown name d.nextActorId hname (Function.update_self _ _ _)
  · intro hok
    refine ⟨h.gone, fun m b hm hb => ?_⟩
    by_cases e : b = d.nextActorId
    · subst e
      exact hok m hm
    · have hb : Function.update d.actors d.nextActorId true b = true := hb
      rw [Function.update_of_ne e] at hb
      exact h.shown m b hm hb

lemma registerName (h : NamesLive (d, g)) :
    NamesLive (d.registerName name a, fun b => g b ∧ b ≠ a) ↔
      d.OneName (.registerName name a) := by
  have hown : (d.names.registerName name a).nameToActor name = some a :=
    Names.nameToActor_registerName.mpr (.inl ⟨rfl, rfl⟩)
  constructor
  · intro h'
    constructor
    · intro ha
      obtain ⟨m, hm, hne⟩ := getActorName_ne_nil.mp (h'.shown name a hown ha)
      rcases Names.actorToName_registerName.mp hm with ⟨-, rfl⟩ | ⟨hne', -⟩
      · exact hne
      · exact absurd rfl hne'
    · intro old hold hne hreg m hm
      by_contra hother
      -- the other name of the old owner is still there, and the shown one is not
      obtain ⟨k, hk, -⟩ := getActorName_ne_nil.mp
        (h'.shown m old (Names.nameToActor_registerName.mpr (.inr ⟨hother, hm⟩)) hreg)
      rcases Names.actorToName_registerName.mp hk with ⟨rfl, -⟩ | ⟨-, hnot, -⟩
      · exact hne rfl
      · exact hnot hold
  · rintro ⟨hempty, honly⟩
    constructor
    · rintro b ⟨hb, hne⟩ m hm
      rcases Names.nameToActor_registerName.mp hm with ⟨-, rfl⟩ | ⟨-, hm⟩
      · exact hne rfl
      · exact h.gone b hb m hm
    · intro m b hm hb
      rw [getActorName_ne_nil]
      by_cases e : b = a
      · subst e
        exact ⟨name, Names.actorToName_registerName.mpr (.inl ⟨rfl, rfl⟩), hempty hb⟩
      · obtain ⟨hmn, hm⟩ := (Names.nameToActor_registerName.mp hm).resolve_left fun he => e he.2
        obtain ⟨k, hk, hne⟩ := getActorName_ne_nil.mp (h.shown m b hm hb)
        refine ⟨k, Names.actorToName_registerName.mpr (.inr ⟨e, ?_, hk⟩), hne⟩
        intro hold
        exact hmn (honly b hold e hb m hm)

lemma unregisterName (h : NamesLive (d, g)) :
    NamesLive (d.unregisterName name, g) ↔ d.OneName (.unregisterName name) := by
  constructor
  · intro h' owner howner hreg m hm
    by_contra hother
    obtain ⟨k, hk, -⟩ := getActorName_ne_nil.mp
      (h'.shown m owner (Names.nameToActor_unregisterName.mpr ⟨hother, hm⟩) hreg)
    exact (Names.actorToName_unregisterName.mp hk).1 howner
  · intro honly
    constructor
    · intro b hb m hm
      exact h.gone b hb m (Names.nameToActor_unregisterName.mp hm).2
    · intro m b hm hb
      obtain ⟨hmn, hm⟩ := Names.nameToActor_unregisterName.mp hm
      obtain ⟨k, hk, hne⟩ := getActorName_ne_nil.mp (h.shown m b hm hb)
      refine getActorName_ne_nil.mpr ⟨k, Names.actorToName_unregisterName.mpr ⟨?_, hk⟩, hne⟩
      intro howner
      exact hmn (honly b howner hb m hm)

lemma unregisterActor (h : NamesLive (d, g)) :
    NamesLive (d.unregisterActor a, fun b => b = a ∨ g b) ↔ d.OneName (.unregisterActor a) := by
  constructor
  · intro h' name hname
    by_contra hne
    apply h'.gone a (.inl rfl) name
    rw [names_unregisterActor, Names.nameToActor_removeActor]
    exact ⟨hne, hname⟩
  · intro hshown
    constructor
    · intro b hb m hm
      rw [names_unregisterActor, Names.nameToActor_removeActor] at hm
      rcases hb with rfl | hb
      · exact hm.1 (hshown m hm.2)
      · exact h.gone b hb m hm.2
    · intro m b hm hb
      rw [names_unregisterActor, Names.nameToActor_removeActor] at hm
      rw [actors_unregisterActor] at hb
      have hne : b ≠ a := by
        rintro rfl
        simp at hb
      rw [Function.update_of_ne hne] at hb
      obtain ⟨k, hk, hk'⟩ := getActorName_ne_nil.mp (h.shown m b hm.2 hb)
      rw [names_unregisterActor, getActorName_ne_nil]
      exact ⟨k, Names.actorToName_removeActor.mpr ⟨hne, hk⟩, hk'⟩

/-- An operation leaves the names in order exactly when it finds them so. -/
lemma call_iff (h : NamesLive (d, g)) (l : RegistryAction) :
    NamesLive (d.call l, recordGone g d l (d.call l)) ↔ d.OneName l := by
  cases l with
  | registerActor => exact h.registerActor
  | registerName name a => exact h.registerName
  | unregisterName name => exact h.unregisterName
  | linkActor w t =>
    refine ⟨fun _ => trivial, fun _ => h.of_eq ?_ ?_⟩
    · simp only [call, linkActor]
      split_ifs <;> rfl
    · simp only [call, linkActor]
      split_ifs <;> rfl
  | unlinkActor w t =>
    refine ⟨fun _ => trivial, fun _ => h.of_eq ?_ ?_⟩
    · simp only [call, unlinkActor]
      split <;> rfl
    · simp only [call, unlinkActor]
      split <;> rfl
  | unregisterActor a => exact h.unregisterActor

lemma start : NamesLive (empty, fun _ => False) where
  gone b hb := hb.elim
  shown m b hm := by cases hm

end NamesLive

/-- All along a run no name outlives its actor and every named actor is shown under a name, exactly
when the actors of the run have one name each. -/
theorem namesLive_iff (ls : List RegistryAction) :
    named.Always NamesLive (empty, fun _ => False) ls ↔
      named.Admits (fun x l => x.1.OneName l) (empty, fun _ => False) ls := by
  refine Machine.always_iff_admits (I := fun _ => True) ?_ (fun _ _ _ _ _ _ => trivial) ?_ trivial
    NamesLive.start ls
  · rintro x l hnone
    cases hnone
  · rintro ⟨d, g⟩ l x' - h hs
    cases hs
    exact h.call_iff l

/-- An actor with two names is unregistered, and the first name still leads to it. -/
theorem names_not_live_of_alias :
    ¬ ∀ ls : List RegistryAction, named.Always NamesLive (empty, fun _ => False) ls := by
  intro h
  let ls : List RegistryAction :=
    [.registerActor, .registerName [97] 1, .registerName [98] 1, .unregisterActor 1]
  let x := named.replay (empty, fun _ => False) ls
  have hx : NamesLive x := h ls ls x (List.prefix_refl _) rfl
  exact hx.gone 1 (.inl rfl) [97] (by decide)

end Directory

end Balabala
