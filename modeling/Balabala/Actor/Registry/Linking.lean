import Balabala.Actor.Registry.Naming

/-!
# ActorDown, one operation after the other

What `linkMap_` is for: the set of the pairs of actors that have been linked, and neither unlinked
nor unregistered since. Nothing is left in the table beside it, and `UnregisterActor` notifies by
it.
-/

namespace Balabala

open Foundation

/-- Which actors (second) an actor (first) is linked to. -/
abbrev Linked := ActorId → ActorId → Prop

namespace Directory

/-- `LinkActor` links two different registered actors; `UnlinkActor` unlinks them, and
`UnregisterActor` whoever is linked to or by the actor. -/
def recordLinks (linked : Linked) (d : Directory) (l : RegistryAction) (_ : Directory) : Linked :=
  match l with
  | .linkActor watcherId targetId => fun w t => linked w t ∨
      (w = watcherId ∧ t = targetId ∧ w ≠ t ∧ d.actors w = true ∧ d.actors t = true)
  | .unlinkActor watcherId targetId => fun w t => linked w t ∧ ¬(w = watcherId ∧ t = targetId)
  | .unregisterActor actorId => fun w t => linked w t ∧ w ≠ actorId ∧ t ≠ actorId
  | _ => linked

/-- The runs of `registry`, with an observer of the links. -/
def linking : Machine (Directory × Linked) RegistryAction :=
  registry.observed (fun _ _ => False) recordLinks

/-- The link table is the set of links, between actors that are registered. -/
structure LinksMatch (d : Directory) (linked : Linked) : Prop where
  watches_iff : ∀ w t, d.watches w t ↔ linked w t
  key : ∀ t, d.isKey t → d.actors t = true
  watcher : ∀ w t, d.watches w t → d.actors w = true
  irrefl : ∀ w t, d.watches w t → w ≠ t

namespace LinksMatch

variable {d : Directory} {linked : Linked}

/-- Neither the links nor, as far as registered actors go, `actors_` have changed. -/
lemma of_eq (h : LinksMatch d linked) {d' : Directory} (hlinks : d'.linkMap = d.linkMap)
    (hactors : ∀ a, d.actors a = true → d'.actors a = true) : LinksMatch d' linked := by
  have hwatches : ∀ w t, d'.watches w t ↔ d.watches w t := by
    intro w t
    simp only [watches, hlinks]
  have hkey : ∀ t, d'.isKey t ↔ d.isKey t := by
    intro t
    simp only [isKey, hlinks]
  refine ⟨fun w t => (hwatches w t).trans (h.watches_iff w t), fun t ht => ?_, fun w t hw => ?_,
    fun w t hw => ?_⟩
  · exact hactors t (h.key t ((hkey t).mp ht))
  · exact hactors w (h.watcher w t ((hwatches w t).mp hw))
  · exact h.irrefl w t ((hwatches w t).mp hw)

lemma linkActor (h : LinksMatch d linked) (w t : ActorId) :
    LinksMatch (d.linkActor w t) (recordLinks linked d (.linkActor w t) (d.linkActor w t)) := by
  by_cases hlink : w ≠ t ∧ d.actors w = true ∧ d.actors t = true
  · obtain ⟨hne, hw, ht⟩ := hlink
    have heq : d.linkActor w t = d.insertLink w t := by
      simp [Directory.linkActor, hne, hw, ht]
    rw [heq]
    refine ⟨fun a b => ?_, fun b hb => ?_, fun a b hab => ?_, fun a b hab => ?_⟩
    · simp only [watches_insertLink, h.watches_iff, recordLinks]
      constructor
      · rintro (⟨rfl, rfl⟩ | hab)
        · exact .inr ⟨rfl, rfl, hne, hw, ht⟩
        · exact .inl hab
      · rintro (hab | ⟨rfl, rfl, -⟩)
        · exact .inr hab
        · exact .inl ⟨rfl, rfl⟩
    · rcases isKey_insertLink.mp hb with rfl | hb
      · exact ht
      · exact h.key b hb
    · rcases watches_insertLink.mp hab with ⟨rfl, rfl⟩ | hab
      · exact hw
      · exact h.watcher a b hab
    · rcases watches_insertLink.mp hab with ⟨rfl, rfl⟩ | hab
      · exact hne
      · exact h.irrefl a b hab
  · have heq : d.linkActor w t = d := by
      rw [Directory.linkActor]
      split_ifs with he hreg
      · rfl
      · exact absurd ⟨he, by simpa using hreg⟩ hlink
      · rfl
    have hsame : recordLinks linked d (.linkActor w t) (d.linkActor w t) = linked := by
      funext a b
      simp only [recordLinks, eq_iff_iff, or_iff_left_iff_imp]
      rintro ⟨rfl, rfl, hreg⟩
      exact absurd hreg hlink
    rw [hsame, heq]
    exact h

lemma unlinkActor (h : LinksMatch d linked) (w t : ActorId) :
    LinksMatch (d.unlinkActor w t) fun a b => linked a b ∧ ¬(a = w ∧ b = t) := by
  have hactors : (d.unlinkActor w t).actors = d.actors := by
    rw [Directory.unlinkActor]
    split <;> rfl
  refine ⟨fun a b => ?_, fun b hb => ?_, fun a b hab => ?_, fun a b hab => ?_⟩
  · rw [watches_unlinkActor, h.watches_iff]
  · rw [hactors]
    exact h.key b (isKey_of_unlinkActor hb)
  · rw [hactors]
    exact h.watcher a b (watches_unlinkActor.mp hab).1
  · exact h.irrefl a b (watches_unlinkActor.mp hab).1

lemma unregisterActor (h : LinksMatch d linked) (c : ActorId) :
    LinksMatch (d.unregisterActor c) fun a b => linked a b ∧ a ≠ c ∧ b ≠ c := by
  refine ⟨fun a b => ?_, fun b hb => ?_, fun a b hab => ?_, fun a b hab => ?_⟩
  · rw [watches_unregisterActor, h.watches_iff]
  · obtain ⟨hb, hne⟩ := isKey_unregisterActor.mp hb
    rw [actors_unregisterActor, Function.update_of_ne hne]
    exact h.key b hb
  · obtain ⟨hab, hne, -⟩ := watches_unregisterActor.mp hab
    rw [actors_unregisterActor, Function.update_of_ne hne]
    exact h.watcher a b hab
  · exact h.irrefl a b (watches_unregisterActor.mp hab).1

/-- What every operation keeps. -/
lemma call (h : LinksMatch d linked) (l : RegistryAction) :
    LinksMatch (d.call l) (recordLinks linked d l (d.call l)) := by
  cases l with
  | registerActor =>
    refine h.of_eq rfl fun a ha => ?_
    simp only [Directory.call, registerActor, addActor]
    by_cases e : a = d.nextActorId
    · rw [e, Function.update_self]
    · rw [Function.update_of_ne e]
      exact ha
  | registerName name a => exact h.of_eq rfl fun _ => id
  | unregisterName name => exact h.of_eq rfl fun _ => id
  | linkActor w t => exact h.linkActor w t
  | unlinkActor w t => exact h.unlinkActor w t
  | unregisterActor a => exact h.unregisterActor a

lemma start : LinksMatch empty fun _ _ => False where
  watches_iff w t := by simp [watches, empty]
  key t ht := absurd rfl ht
  watcher w t hw := absurd rfl hw.isKey
  irrefl w t hw := absurd rfl hw.isKey

end LinksMatch

lemma linksMatch_of_reachable {x : Directory × Linked} (h : linking.Reachable x) :
    LinksMatch x.1 x.2 := by
  refine h.invariant (P := fun x => LinksMatch x.1 x.2) ?_ ?_
  · rintro ⟨d, g⟩ ⟨rfl, rfl⟩
    exact .start
  · rintro ⟨d, g⟩ l x' _ hx _ hs
    cases hs
    exact hx.call l

/-- What `UnregisterActor(t)` does: `ActorDown` to whom it is linked by, once, and to nobody else.
The links of the others, their names and registrations stay. -/
structure DownExact (d : Directory) (linked : Linked) (t : ActorId) : Prop where
  told : ∀ a, linked a t → d.actors a = true ∧
    (d.unregisterActor t).mailbox a = d.mailbox a ++ [actorDownMessage t unregistered]
  untold : ∀ a, ¬ linked a t → (d.unregisterActor t).mailbox a = d.mailbox a
  links : ∀ a b, a ≠ t → b ≠ t → ((d.unregisterActor t).watches a b ↔ d.watches a b)
  actors : ∀ a, a ≠ t → (d.unregisterActor t).actors a = d.actors a
  actorToName : ∀ a, a ≠ t →
    (d.unregisterActor t).names.actorToName a = d.names.actorToName a
  nameToActor : ∀ name a, a ≠ t →
    ((d.unregisterActor t).names.nameToActor name = some a ↔ d.names.nameToActor name = some a)

lemma LinksMatch.downExact {d : Directory} {linked : Linked} (h : LinksMatch d linked)
    (hc : d.names.Consistent) (t : ActorId) : DownExact d linked t where
  told a ha := by
    have hwatch := (h.watches_iff a t).mpr ha
    have hreg := h.watcher a t hwatch
    exact ⟨hreg, mailbox_unregisterActor hwatch hreg⟩
  untold a ha := mailbox_unregisterActor_of_not fun hwatch => ha ((h.watches_iff a t).mp hwatch)
  links a b ha hb := by
    rw [watches_unregisterActor]
    exact ⟨And.left, fun hab => ⟨hab, ha, hb⟩⟩
  actors a ha := by rw [actors_unregisterActor, Function.update_of_ne ha]
  actorToName a ha := by
    rw [names_unregisterActor]
    refine Option.ext fun name => ?_
    rw [Names.actorToName_removeActor]
    exact ⟨And.right, fun hname => ⟨ha, hname⟩⟩
  nameToActor name a ha := by
    rw [names_unregisterActor, Names.nameToActor_removeActor]
    refine ⟨And.right, fun hname => ⟨fun hshown => ?_, hname⟩⟩
    rw [hc t name hshown] at hname
    exact ha (Option.some.inj hname).symm

/-- At every point of a run the link table is the set of links, its keys and members are registered
and nobody watches itself; and `UnregisterActor` is exact. -/
theorem actorDown_exact {d : Directory} {linked : Linked} (h : linking.Reachable (d, linked)) :
    (∀ w t, d.watches w t ↔ linked w t) ∧ (∀ t, d.isKey t → d.actors t = true) ∧
      (∀ w t, d.watches w t → d.actors w = true ∧ w ≠ t) ∧ ∀ t, DownExact d linked t := by
  have hm := linksMatch_of_reachable h
  exact ⟨hm.watches_iff, hm.key, fun w t hw => ⟨hm.watcher w t hw, hm.irrefl w t hw⟩,
    hm.downExact (consistent_of_reachable h.of_observed)⟩

lemma linking_start : linking.Reachable (empty, fun _ _ => False) := .start ⟨rfl, rfl⟩

/-- Three actors in a cycle of links, one of them doubly linked and linked to itself; then the last
one is unlinked again. -/
def linkCycle : List RegistryAction :=
  [.registerActor, .registerActor, .registerActor, .linkActor 1 2, .linkActor 2 3, .linkActor 3 1,
    .linkActor 1 2, .linkActor 2 2, .unlinkActor 3 1]

/-- Actor 1 is told that actor 2 is gone, and actor 3 is not. -/
theorem actorDown_exact_linkCycle :
    let x := linking.replay (empty, fun _ _ => False) linkCycle
    (x.1.unregisterActor 2).mailbox 1 = [actorDownMessage 2 unregistered] ∧
      (x.1.unregisterActor 2).mailbox 3 = [] := by
  intro x
  have hx : linking.Reachable (x.1, x.2) :=
    Machine.reachable_replay linking_start linkCycle
  obtain ⟨hlinks, -, -, hdown⟩ := actorDown_exact hx
  have hset : x.1.linkMap 2 = some ⟨[1], by simp⟩ := rfl
  have h12 : x.1.watches 1 2 := ⟨_, hset, by decide⟩
  have h32 : ¬ x.1.watches 3 2 := by
    rintro ⟨watchers, hw, hmem⟩
    rw [hset] at hw
    cases hw
    exact absurd hmem (by decide)
  have hempty : x.1.mailbox 1 = [] ∧ x.1.mailbox 3 = [] := by decide
  refine ⟨?_, ?_⟩
  · rw [((hdown 2).told 1 ((hlinks 1 2).mp h12)).2, hempty.1]
    rfl
  · rw [(hdown 2).untold 3 fun h => h32 ((hlinks 3 2).mpr h), hempty.2]

end Directory

end Balabala
