import Balabala.Actor.Session.Matching

/-!
# Sessions by their number

`AllocSession` counts in 32 bits, so a session id is given out again after 2^32 others. Here the
allocations are counted in full. Of all the awaiters that have stored their handle under an id,
`waitMap_` knows the last one only.
-/

namespace Balabala

open Foundation

/-- The awaiter a coroutine is about to be suspended in. -/
def FramePc.awaiter : FramePc → Option Awaiter
  | .body => none
  | .store w | .send w | .setTimeout w | .leave w => some w

namespace Actor

/-- An observer notes, for every coroutine that awaits, which allocation gave it its session. -/
def noteAwait (number : Nat → Nat) (a a' : Actor) : Nat → Nat :=
  match a.stack with
  | b :: _ =>
    if a'.allocated = a.allocated then number else Function.update number b.frame a'.allocated
  | [] => number

lemma noteAwait_of_eq {a a' : Actor} (number : Nat → Nat) (h : a'.allocated = a.allocated) :
    noteAwait number a a' = number := by
  rw [noteAwait]
  split
  · rw [if_pos h]
  · rfl

/-- The allocations after which the handle has been stored. -/
def settled (a : Actor) : Nat :=
  match a.stack with
  | ⟨_, .store _⟩ :: _ => a.allocated - 1
  | _ => a.allocated

lemma settled_le (a : Actor) : a.settled ≤ a.allocated := by
  rw [settled]
  split
  · exact Nat.sub_le _ _
  · exact Nat.le_refl _

/-- A coroutine in its body is about to be suspended in no awaiter. -/
lemma awaiter_of_bodies {stack rest : List Activation} {h : Nat} {pc : FramePc} {w : Awaiter}
    (hbody : ∀ b ∈ stack, b.pc = .body) (hs : stack = ⟨h, pc⟩ :: rest) :
    pc.awaiter ≠ some w := by
  subst hs
  obtain rfl : pc = .body := hbody ⟨h, pc⟩ List.mem_cons_self
  rintro ⟨⟩

/-- What holds of the sessions, however many there have been. -/
structure Numbered (a : Actor) (number : Nat → Nat) : Prop where
  frames : Frames a.stack a.awaiting a.frames
  next : a.nextSessionId = UInt32.ofNat (a.allocated + 1)
  opened : ∀ h pc rest w, a.stack = ⟨h, pc⟩ :: rest → pc.awaiter = some w →
    w.sessionId = UInt32.ofNat a.allocated ∧ number h = a.allocated
  stored : ∀ h w, storing a.stack = some (h, w) → a.waitMap w.sessionId = some h
  held : ∀ k h, a.waitMap k = some h → (∃ w, a.awaiting h = some w ∧ w.sessionId = k) ∨
    ∃ w, storing a.stack = some (h, w) ∧ w.sessionId = k
  session : ∀ k h, a.waitMap k = some h → k = UInt32.ofNat (number h) ∧ number h ≤ a.allocated
  /-- no later awaiter has stored its handle under the same id -/
  last : ∀ k h, a.waitMap k = some h → a.settled < number h + 2 ^ 32

/-- What happens to the awaiters from one state to a later one: those that are added have newer
sessions than all before. -/
structure Later (a : Actor) (number : Nat → Nat) (a' : Actor) (number' : Nat → Nat) : Prop where
  allocated_le : a.allocated ≤ a'.allocated
  waiting : ∀ k h, a'.waitMap k = some h →
    (a.waitMap k = some h ∧ number' h = number h) ∨ a.allocated ≤ number' h

/-- The call number `n` has been made, and no older coroutine is taken for its caller. -/
structure Issued (a : Actor) (number : Nat → Nat) (n : Nat) : Prop where
  le : n ≤ a.allocated
  waiting : ∀ h, a.waitMap (UInt32.ofNat n) = some h → n ≤ number h

lemma Later.refl (a : Actor) (number : Nat → Nat) : Later a number a number where
  allocated_le := Nat.le_refl _
  waiting _ _ hk := .inl ⟨hk, rfl⟩

lemma Issued.later {a a' : Actor} {number number' : Nat → Nat} {n : Nat}
    (hi : Issued a number n) (hl : Later a number a' number') : Issued a' number' n where
  le := Nat.le_trans hi.le hl.allocated_le
  waiting h hk := by
    rcases hl.waiting _ h hk with ⟨hk, he⟩ | hle
    · rw [he]
      exact hi.waiting h hk
    · exact Nat.le_trans hi.le hle

namespace Numbered

variable {a : Actor} {number : Nat → Nat}

/-- The coroutine on top of the stack, its handle stored, has made its call. -/
lemma issued (hn : Numbered a number) {h : Nat} {pc : FramePc} {rest : List Activation}
    {w : Awaiter} (hs : a.stack = ⟨h, pc⟩ :: rest) (hw : storing a.stack = some (h, w))
    (hpc : pc.awaiter = some w) :
    w.sessionId = UInt32.ofNat (number h) ∧ Issued a number (number h) := by
  obtain ⟨hk, hnum⟩ := hn.opened h pc rest w hs hpc
  have hwait := hn.stored h w hw
  rw [hnum]
  refine ⟨hk, Nat.le_refl _, fun g hg => ?_⟩
  rw [← hk, hwait] at hg
  obtain rfl : h = g := Option.some.inj hg
  exact Nat.le_of_eq hnum.symm

/-- A response to a call meets the caller, as long as the id has not been given out again. -/
lemma number_eq_iff (hn : Numbered a number) (hs : a.stack = []) {n h : Nat}
    (hi : Issued a number n) (hw : a.waitMap (UInt32.ofNat n) = some h) :
    number h = n ↔ a.allocated < n + 2 ^ 32 := by
  obtain ⟨hk, hle⟩ := hn.session _ h hw
  have hge := hi.waiting h hw
  have hlast := hn.last _ h hw
  simp only [settled, hs] at hlast
  constructor
  · rintro rfl
    exact hlast
  · intro hlt
    have hmod : n % 2 ^ 32 = number h % 2 ^ 32 := by
      have := congrArg UInt32.toNat hk
      simpa [UInt32.toNat_ofNat'] using this
    omega

/-! ### What one step keeps -/

/-- Running coroutines may come, go and move, as far as the awaiters are not concerned. -/
lemma setStack (hn : Numbered a number) {stack : List Activation} {frames : Nat}
    (hf : Frames stack a.awaiting frames) (hs : storing stack = storing a.stack)
    (ho : ∀ h pc rest w, stack = ⟨h, pc⟩ :: rest → pc.awaiter = some w →
      w.sessionId = UInt32.ofNat a.allocated ∧ number h = a.allocated)
    (hset : a.settled = a.allocated) : Numbered { a with stack, frames } number where
  frames := hf
  next := hn.next
  opened := ho
  stored h w hw := hn.stored h w (by rwa [hs] at hw)
  held k h hk := by
    rw [hs]
    exact hn.held k h hk
  session := hn.session
  last k h hk := Nat.lt_of_le_of_lt (settled_le _) (hset ▸ hn.last k h hk)

lemma setLog (hn : Numbered a number) (log : List SessionEvent) :
    Numbered { a with log } number where
  frames := hn.frames
  next := hn.next
  opened := hn.opened
  stored := hn.stored
  held := hn.held
  session := hn.session
  last := hn.last

/-- `AllocSession`. -/
lemma allocate (hn : Numbered a number) {h : Nat} {rest : List Activation}
    (hs : a.stack = ⟨h, .body⟩ :: rest) (kind : AwaitKind) :
    let a' : Actor :=
      { a with stack := ⟨h, .store ⟨kind, a.nextSessionId⟩⟩ :: rest
               nextSessionId := a.nextSessionId + 1, allocated := a.allocated + 1 }
    Numbered a' (Function.update number h (a.allocated + 1)) ∧
      Later a number a' (Function.update number h (a.allocated + 1)) := by
  have hrun := (hn.frames.running ⟨h, .body⟩ (by rw [hs]; exact List.mem_cons_self)).2
  -- a running coroutine is not waiting
  have hne : ∀ k g, a.waitMap k = some g → g ≠ h := by
    rintro k g hk rfl
    obtain ⟨w, hw, -⟩ := awaiting_of_held hn.held (by rw [hs]; rfl) hk
    rw [hrun] at hw
    cases hw
  have hset : a.settled = a.allocated := by simp only [settled, hs]
  refine ⟨⟨?_, ?_, ?_, ?_, ?_, ?_, ?_⟩, Nat.le_succ _, ?_⟩
  · have hf := hn.frames
    rw [hs] at hf
    exact hf.move _
  · simp only [hn.next]
    exact (UInt32.ofNat_add (a.allocated + 1) 1).symm
  · intro g pc rest' w hst hw
    cases hst
    cases hw
    exact ⟨hn.next, by simp⟩
  · intro g w hw
    cases hw
  · exact fun k g hk => .inl (awaiting_of_held hn.held (by rw [hs]; rfl) hk)
  · intro k g hk
    rw [Function.update_of_ne (hne k g hk)]
    exact (hn.session k g hk).imp_right Nat.le_succ_of_le
  · intro k g hk
    rw [Function.update_of_ne (hne k g hk)]
    have hlast := hn.last k g hk
    rw [hset] at hlast
    exact hlast
  · intro k g hk
    rw [Function.update_of_ne (hne k g hk)]
    exact .inl ⟨hk, rfl⟩

/-- `StoreWaiting`. -/
lemma store (hn : Numbered a number) {h : Nat} {rest : List Activation} {w : Awaiter}
    (hs : a.stack = ⟨h, .store w⟩ :: rest) :
    let a' : Actor :=
      { a with waitMap := Function.update a.waitMap w.sessionId (some h)
               stack := ⟨h, .send w⟩ :: rest }
    Numbered a' number ∧ Later a number a' number := by
  obtain ⟨hk, hnum⟩ := hn.opened h _ rest w hs rfl
  have hold : ∀ k g, Function.update a.waitMap w.sessionId (some h) k = some g →
      (k = w.sessionId ∧ g = h) ∨ (k ≠ w.sessionId ∧ a.waitMap k = some g) := by
    intro k g hg
    by_cases e : k = w.sessionId
    · subst e
      exact .inl ⟨rfl, by simpa using hg.symm⟩
    · exact .inr ⟨e, by simpa [e] using hg⟩
  have hheld : HandlesAwait a.stack a.awaiting a.waitMap := hn.held
  rw [hs] at hheld
  refine ⟨⟨?_, hn.next, ?_, ?_, hheld.store, ?_, ?_⟩, Nat.le_refl _, ?_⟩
  · have hf := hn.frames
    rw [hs] at hf
    exact hf.move _
  · intro g pc rest' v hst hv
    cases hst
    cases hv
    exact ⟨hk, hnum⟩
  · intro g v hv
    cases hv
    simp
  · intro k g hg
    rcases hold k g hg with ⟨rfl, rfl⟩ | ⟨-, hg⟩
    · exact ⟨by rw [hk, hnum], Nat.le_of_eq hnum⟩
    · exact hn.session k g hg
  · intro k g hg
    show a.allocated < number g + 2 ^ 32
    rcases hold k g hg with ⟨rfl, rfl⟩ | ⟨hne, hg⟩
    · omega
    · have hlast := hn.last k g hg
      simp only [settled, hs] at hlast
      have hother : a.allocated ≠ number g + 2 ^ 32 := by
        intro e
        apply hne
        rw [(hn.session k g hg).1, hk, e]
        exact UInt32.toNat_inj.mp (by simp [UInt32.toNat_ofNat'])
      omega
  · intro k g hg
    rcases hold k g hg with ⟨rfl, rfl⟩ | ⟨-, hg⟩
    · exact .inr (Nat.le_of_eq hnum.symm)
    · exact .inl ⟨hg, rfl⟩

/-- `await_suspend` returns. -/
lemma suspended (hn : Numbered a number) {h : Nat} {rest : List Activation} {w : Awaiter}
    (hs : a.stack = ⟨h, .leave w⟩ :: rest) (log : List SessionEvent) :
    Numbered { a with stack := rest, awaiting := Function.update a.awaiting h (some w), log }
      number := by
  have hf := hn.frames
  rw [hs] at hf
  have hh : a.awaiting h = none := (hf.running _ List.mem_cons_self).2
  have hset : a.settled = a.allocated := by simp only [settled, hs]
  have htop : storing rest = none := (top_of_bodies hf.callers).1
  have hheld : HandlesAwait a.stack a.awaiting a.waitMap := hn.held
  rw [hs] at hheld
  refine ⟨hf.suspend w, hn.next, ?_, ?_, hheld.suspended hh, hn.session, ?_⟩
  · intro g pc rest' v hst hv
    exact absurd hv (awaiter_of_bodies hf.callers hst)
  · intro g v hv
    simp only [htop] at hv
    cases hv
  · intro k g hk
    exact Nat.lt_of_le_of_lt (settled_le _) (hset ▸ hn.last k g hk)

/-- A response resumes the coroutine that is suspended in its session. -/
lemma resumed (hn : Numbered a number) (hs : a.stack = []) {h : Nat} {w : Awaiter}
    (hw : a.awaiting h = some w) (responses : UInt32 → Option ActorMessage)
    (log : List SessionEvent) :
    let a' : Actor :=
      { a with waitMap := Function.update a.waitMap w.sessionId none
               responseMap := responses
               stack := [⟨h, .body⟩]
               awaiting := Function.update a.awaiting h none
               log }
    Numbered a' number ∧ Later a number a' number := by
  have hold : ∀ k g, Function.update a.waitMap w.sessionId none k = some g →
      a.waitMap k = some g := by
    intro k g hg
    by_cases e : k = w.sessionId
    · subst e
      simp at hg
    · simpa [e] using hg
  have hset : a.settled = a.allocated := by simp only [settled, hs]
  have hheld : HandlesAwait a.stack a.awaiting a.waitMap := hn.held
  rw [hs] at hheld
  refine ⟨⟨?_, hn.next, ?_, ?_, hheld.resumed hw, ?_, ?_⟩, Nat.le_refl _, ?_⟩
  · have hf := hn.frames
    rw [hs] at hf
    exact hf.resume hw
  · intro g pc rest v hst hv
    cases hst
    cases hv
  · intro g v hv
    cases hv
  · intro k g hg
    exact hn.session k g (hold k g hg)
  · intro k g hg
    have hlast := hn.last k g (hold k g hg)
    rw [hset] at hlast
    exact hlast
  · intro k g hg
    exact .inl ⟨hold k g hg, rfl⟩

end Numbered

/-- What is kept by every step. -/
theorem Step.numbered {a a' : Actor} {number : Nat → Nat} (h : Step a a')
    (hn : Numbered a number) :
    Numbered a' (noteAwait number a a') ∧ Later a number a' (noteAwait number a a') := by
  have hf := hn.frames
  cases h with
  | start msg hs hmsg =>
    simp only [noteAwait_of_eq]
    rw [hs] at hf
    refine ⟨(hn.setStack (hf.push (by simp)) ?_ ?_ ?_).setLog _, Nat.le_refl _,
      fun _ _ hk => .inl ⟨hk, rfl⟩⟩
    · rw [hs]; rfl
    · intro g pc rest w hst hw
      cases hst
      cases hw
    · simp only [settled, hs]
  | drop msg hs hw =>
    simp only [noteAwait_of_eq]
    exact ⟨hn.setLog _, Nat.le_refl _, fun _ _ hk => .inl ⟨hk, rfl⟩⟩
  | resume msg h hs hm hw =>
    obtain ⟨w, responses, ha, -, heq⟩ := resumeWaiting_of_held hn.held hs hw
    rw [heq]
    simp only [noteAwait_of_eq]
    exact hn.resumed hs ha responses _
  | callCoroutine h rest hs =>
    simp only [noteAwait_of_eq]
    rw [hs] at hf
    refine ⟨hn.setStack (hf.push fun b hb => ?_) ?_ ?_ ?_, Nat.le_refl _,
      fun _ _ hk => .inl ⟨hk, rfl⟩⟩
    · rcases List.mem_cons.mp hb with rfl | hb
      · rfl
      · exact hf.callers b hb
    · rw [hs]; rfl
    · intro g pc rest' w hst hw
      cases hst
      cases hw
    · simp only [settled, hs]
  | coAwait h rest kind hs =>
    have hnote : noteAwait number a { a with
        stack := ⟨h, .store ⟨kind, a.nextSessionId⟩⟩ :: rest
        nextSessionId := a.nextSessionId + 1, allocated := a.allocated + 1 } =
        Function.update number h (a.allocated + 1) := by
      simp [noteAwait, hs]
    rw [hnote]
    exact hn.allocate hs kind
  | store h rest w hs =>
    simp only [noteAwait_of_eq]
    exact hn.store hs
  | send h rest w hs | setTimeout h rest w hs =>
    obtain ⟨hk, hnum⟩ := hn.opened h _ rest w hs rfl
    simp only [noteAwait_of_eq]
    rw [hs] at hf
    refine ⟨hn.setStack (hf.move _) ?_ ?_ ?_, Nat.le_refl _, fun _ _ hk => .inl ⟨hk, rfl⟩⟩
    · rw [hs]; rfl
    · intro g pc rest' v hst hv
      cases hst
      cases hv
      exact ⟨hk, hnum⟩
    · simp only [settled, hs]
  | leave h rest w hs =>
    simp only [noteAwait_of_eq]
    exact ⟨hn.suspended hs _, Nat.le_refl _, fun _ _ hk => .inl ⟨hk, rfl⟩⟩
  | coReturn h rest hs =>
    simp only [noteAwait_of_eq]
    rw [hs] at hf
    refine ⟨hn.setStack hf.pop ?_ ?_ ?_, Nat.le_refl _, fun _ _ hk => .inl ⟨hk, rfl⟩⟩
    · rw [hs]
      exact (top_of_bodies hf.callers).1
    · intro g pc rest' w hst hw
      exact absurd hw (awaiter_of_bodies hf.callers hst)
    · simp only [settled, hs]

lemma numbered_start (number : Nat → Nat) : Numbered start number where
  frames := ⟨by simp [start], by simp [start], by simp [start], by simp [start]⟩
  next := rfl
  opened h pc rest w hs := by cases hs
  stored h w hw := by cases hw
  held k h hk := by cases hk
  session k h hk := by cases hk
  last k h hk := by cases hk

end Actor

end Balabala
