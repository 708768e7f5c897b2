import Balabala.Actor.Session.Basic

/-!
# Every suspension is resumed by its response

The history of a session has one of three forms. No coroutine was suspended in it, and whatever
responses came for it resumed nothing. A coroutine is suspended in it and is in `waitMap_`. Or
the first response that came after the suspension resumed the coroutine and is what it got, and
later ones resumed nothing.
-/

namespace Balabala

open Foundation

namespace Actor

/-! ### What one step can do -/

inductive Step (a : Actor) : Actor → Prop
  | start (msg : ActorMessage) (hs : a.stack = [])
      (hm : ¬ (msg.isResponse = true ∧ 0 < msg.sessionId)) :
      Step a { a with log := a.log ++ [.processed msg], stack := [⟨a.frames, .body⟩]
                      frames := a.frames + 1 }
  | drop (msg : ActorMessage) (hs : a.stack = []) (hw : a.waitMap msg.sessionId = none) :
      Step a { a with log := a.log ++ [.processed msg] }
  | resume (msg : ActorMessage) (h : Nat) (hs : a.stack = []) (hm : msg.isResponse = true)
      (hw : a.waitMap msg.sessionId = some h) :
      Step a (resumeWaiting { a with log := a.log ++ [.processed msg] } msg.sessionId msg)
  | callCoroutine (h : Nat) (rest : List Activation) (hs : a.stack = ⟨h, .body⟩ :: rest) :
      Step a { a with stack := ⟨a.frames, .body⟩ :: ⟨h, .body⟩ :: rest, frames := a.frames + 1 }
  | coAwait (h : Nat) (rest : List Activation) (kind : AwaitKind)
      (hs : a.stack = ⟨h, .body⟩ :: rest) :
      Step a { a with stack := ⟨h, .store ⟨kind, a.nextSessionId⟩⟩ :: rest
                      nextSessionId := a.nextSessionId + 1, allocated := a.allocated + 1 }
  | store (h : Nat) (rest : List Activation) (w : Awaiter) (hs : a.stack = ⟨h, .store w⟩ :: rest) :
      Step a { a with waitMap := Function.update a.waitMap w.sessionId (some h)
                      stack := ⟨h, .send w⟩ :: rest }
  | send (h : Nat) (rest : List Activation) (w : Awaiter) (hs : a.stack = ⟨h, .send w⟩ :: rest) :
      Step a { a with stack := ⟨h, .setTimeout w⟩ :: rest }
  | setTimeout (h : Nat) (rest : List Activation) (w : Awaiter)
      (hs : a.stack = ⟨h, .setTimeout w⟩ :: rest) :
      Step a { a with stack := ⟨h, .leave w⟩ :: rest }
  | leave (h : Nat) (rest : List Activation) (w : Awaiter) (hs : a.stack = ⟨h, .leave w⟩ :: rest) :
      Step a { a with stack := rest, awaiting := Function.update a.awaiting h (some w)
                      log := a.log ++ [.suspended h w] }
  | coReturn (h : Nat) (rest : List Activation) (hs : a.stack = ⟨h, .body⟩ :: rest) :
      Step a { a with stack := rest }

theorem Step.of_next {a a' : Actor} {l : Action} (h : machine.next a l = some a') : Step a a' := by
  change next a l = some a' at h
  cases l with
  | process msg =>
    simp only [next] at h
    split_ifs at h with hs
    cases h
    rw [onMessage]
    dsimp only
    split_ifs with hm
    · simp only [Bool.and_eq_true, decide_eq_true_eq] at hm
      cases hw : a.waitMap msg.sessionId with
      | none =>
        have hres : resumeWaiting { a with log := a.log ++ [.processed msg] } msg.sessionId msg =
            { a with log := a.log ++ [.processed msg] } := by
          rw [resumeWaiting]
          simp only [hw]
        rw [hres]
        exact .drop msg hs hw
      | some h => exact .resume msg h hs hm.1 hw
    · rw [hs]
      exact .start msg hs (by simpa using hm)
  | callCoroutine =>
    simp only [next] at h
    split at h
    · cases h; exact .callCoroutine _ _ ‹_›
    · cases h
  | coAwait kind =>
    simp only [next] at h
    split at h
    · cases h; exact .coAwait _ _ kind ‹_›
    · cases h
  | suspend =>
    simp only [next] at h
    split at h
    · rename_i fr pc rest hs
      cases pc with
      | body => cases h
      | store w => cases h; exact .store fr rest w hs
      | send w => cases h; exact .send fr rest w hs
      | setTimeout w => cases h; exact .setTimeout fr rest w hs
      | leave w => cases h; exact .leave fr rest w hs
    · cases h
  | coReturn =>
    simp only [next] at h
    split at h
    · cases h; exact .coReturn _ _ ‹_›
    · cases h

/-! ### Frames -/

/-- A caller is in its body, and a frame is running once or suspended, but not both. -/
structure Frames (stack : List Activation) (awaiting : Nat → Option Awaiter) (frames : Nat) :
    Prop where
  callers : ∀ b ∈ stack.tail, b.pc = .body
  running : ∀ b ∈ stack, b.frame < frames ∧ awaiting b.frame = none
  nodup : (stack.map Activation.frame).Nodup
  known : ∀ h w, awaiting h = some w → h < frames

namespace Frames

variable {stack rest : List Activation} {awaiting : Nat → Option Awaiter} {frames h : Nat}
  {pc : FramePc}

/-- The running coroutine moves on. -/
lemma move (hf : Frames (⟨h, pc⟩ :: rest) awaiting frames) (pc' : FramePc) :
    Frames (⟨h, pc'⟩ :: rest) awaiting frames where
  callers := hf.callers
  running b hb := by
    rcases List.mem_cons.mp hb with rfl | hb
    · exact hf.running ⟨h, pc⟩ List.mem_cons_self
    · exact hf.running b (List.mem_cons_of_mem _ hb)
  nodup := hf.nodup
  known := hf.known

/-- A new coroutine starts. -/
lemma push (hf : Frames stack awaiting frames) (hbody : ∀ b ∈ stack, b.pc = .body) :
    Frames (⟨frames, .body⟩ :: stack) awaiting (frames + 1) where
  callers := hbody
  running b hb := by
    rcases List.mem_cons.mp hb with rfl | hb
    · refine ⟨Nat.lt_succ_self _, ?_⟩
      by_contra hne
      obtain ⟨w, hw⟩ := Option.ne_none_iff_exists'.mp hne
      exact Nat.lt_irrefl _ (hf.known _ w hw)
    · exact (hf.running b hb).imp_left Nat.lt_succ_of_lt
  nodup := by
    refine List.nodup_cons.mpr ⟨fun hmem => ?_, hf.nodup⟩
    obtain ⟨b, hb, he⟩ := List.mem_map.mp hmem
    exact Nat.ne_of_lt (hf.running b hb).1 he
  known h w hw := Nat.lt_succ_of_lt (hf.known h w hw)

/-- The running coroutine ends. -/
lemma pop (hf : Frames (⟨h, pc⟩ :: rest) awaiting frames) : Frames rest awaiting frames where
  callers b hb := hf.callers b (List.mem_of_mem_tail hb)
  running b hb := hf.running b (List.mem_cons_of_mem _ hb)
  nodup := (List.nodup_cons.mp hf.nodup).2
  known := hf.known

/-- The running coroutine is suspended. -/
lemma suspend (hf : Frames (⟨h, pc⟩ :: rest) awaiting frames) (w : Awaiter) :
    Frames rest (Function.update awaiting h (some w)) frames where
  callers := hf.pop.callers
  running b hb := by
    have hne : b.frame ≠ h := by
      rintro rfl
      exact (List.nodup_cons.mp hf.nodup).1 (List.mem_map.mpr ⟨b, hb, rfl⟩)
    simpa [hne] using hf.pop.running b hb
  nodup := hf.pop.nodup
  known g v hv := by
    by_cases e : g = h
    · subst e; exact (hf.running ⟨g, pc⟩ List.mem_cons_self).1
    · exact hf.known g v (by simpa [e] using hv)

/-- A suspended coroutine runs again. -/
lemma resume (hf : Frames [] awaiting frames) {w : Awaiter} (hw : awaiting h = some w) :
    Frames [⟨h, .body⟩] (Function.update awaiting h none) frames where
  callers := by simp
  running b hb := by
    obtain rfl := List.mem_singleton.mp hb
    exact ⟨hf.known h w hw, by simp⟩
  nodup := by simp
  known g v hv := by
    by_cases e : g = h
    · subst e; simp at hv
    · exact hf.known g v (by simpa [e] using hv)

end Frames

/-! ### The value of a resumed await -/

end Actor

/-- What `co_await` evaluates to when `msg` resumes it. -/
def Awaiter.result (w : Awaiter) (msg : ActorMessage) : Option ActorMessage :=
  match w.kind with
  | .sleep => none
  | .call | .clusterCall => some msg

namespace Actor

/-- Resuming stores the response and takes it out again, or leaves it, after a sleep. -/
lemma resumeWaiting_eq {a : Actor} {h : Nat} {w : Awaiter} (msg : ActorMessage)
    (hw : a.waitMap w.sessionId = some h) (ha : a.awaiting h = some w) :
    ∃ responses, a.resumeWaiting w.sessionId msg =
      { a with waitMap := Function.update a.waitMap w.sessionId none
               responseMap := responses
               stack := ⟨h, .body⟩ :: a.stack
               awaiting := Function.update a.awaiting h none
               log := a.log ++ [.resumed h w (w.result msg)] } := by
  unfold resumeWaiting awaitResume Awaiter.result
  simp only [hw, ha]
  cases w.kind with
  | sleep => exact ⟨_, rfl⟩
  | call | clusterCall => exact ⟨_, by simp only [Function.update_self, Option.getD_some]; rfl⟩

/-! ### The history of a session -/

/-- The events of a session: its suspension, the responses that name it, and its resumption. -/
def concerns (k : UInt32) : SessionEvent → Bool
  | .suspended _ w | .resumed _ w _ => w.sessionId = k
  | .processed msg => msg.isResponse && msg.sessionId = k

def history (log : List SessionEvent) (k : UInt32) : List SessionEvent := log.filter (concerns k)

/-- Only responses, none of which found a waiting coroutine. -/
def Untouched (events : List SessionEvent) : Prop :=
  ∃ early : List ActorMessage, events = early.map .processed

/-- A suspension that no response has come for. -/
def Pending (h : Nat) (w : Awaiter) (events : List SessionEvent) : Prop :=
  ∃ early : List ActorMessage, events = early.map .processed ++ [.suspended h w]

/-- A suspension that was resumed, once, by the first response that came for it. -/
def Answered (events : List SessionEvent) : Prop :=
  ∃ (early late : List ActorMessage) (h : Nat) (w : Awaiter) (msg : ActorMessage), events =
    early.map .processed ++ [.suspended h w, .processed msg, .resumed h w (w.result msg)] ++
      late.map .processed

section History

variable {log events : List SessionEvent} {k : UInt32} {e : SessionEvent} {h : Nat} {w : Awaiter}

lemma history_append_of_concerns (hc : concerns k e = true) :
    history (log ++ [e]) k = history log k ++ [e] := by
  simp [history, List.filter_append, hc]

lemma history_append_of_not (hc : concerns k e = false) :
    history (log ++ [e]) k = history log k := by
  simp [history, List.filter_append, hc]

lemma Untouched.processed (hu : Untouched events) (msg : ActorMessage) :
    Untouched (events ++ [.processed msg]) := by
  obtain ⟨early, rfl⟩ := hu
  exact ⟨early ++ [msg], by simp⟩

lemma Answered.processed (ha : Answered events) (msg : ActorMessage) :
    Answered (events ++ [.processed msg]) := by
  obtain ⟨early, late, h, w, m, rfl⟩ := ha
  exact ⟨early, late ++ [msg], h, w, m, by simp⟩

lemma Untouched.suspended (hu : Untouched events) (h : Nat) (w : Awaiter) :
    Pending h w (events ++ [.suspended h w]) := by
  obtain ⟨early, rfl⟩ := hu
  exact ⟨early, rfl⟩

lemma Pending.resumed (hp : Pending h w events) (msg : ActorMessage) :
    Answered (events ++ [.processed msg] ++ [.resumed h w (w.result msg)]) := by
  obtain ⟨early, rfl⟩ := hp
  exact ⟨early, [], h, w, msg, by simp⟩

lemma Pending.not_untouched (hp : Pending h w events) : ¬ Untouched events := by
  obtain ⟨early, rfl⟩ := hp
  rintro ⟨msgs, hmsgs⟩
  have hmem : SessionEvent.suspended h w ∈ msgs.map SessionEvent.processed := by
    rw [← hmsgs]
    simp
  simp at hmem

end History

/-! ### The invariant -/

/-- The coroutine on top of the stack, with the awaiter whose handle it has stored. -/
def storing : List Activation → Option (Nat × Awaiter)
  | ⟨h, .send w⟩ :: _ | ⟨h, .setTimeout w⟩ :: _ | ⟨h, .leave w⟩ :: _ => some (h, w)
  | _ => none

/-- The awaiter that the coroutine on top of the stack is about to be suspended in. -/
def opening : List Activation → Option Awaiter
  | ⟨_, .store w⟩ :: _ | ⟨_, .send w⟩ :: _ | ⟨_, .setTimeout w⟩ :: _ | ⟨_, .leave w⟩ :: _ => some w
  | _ => none

lemma top_of_bodies {stack : List Activation} (h : ∀ b ∈ stack, b.pc = .body) :
    storing stack = none ∧ opening stack = none := by
  cases stack with
  | nil => exact ⟨rfl, rfl⟩
  | cons b rest =>
    obtain ⟨g, pc⟩ := b
    obtain rfl : pc = .body := h ⟨g, pc⟩ List.mem_cons_self
    exact ⟨rfl, rfl⟩

/-- Nobody has just allocated a session when the coroutine on top of the stack is in its body. -/
lemma ne_store_of_bodies {stack rest : List Activation} {h : Nat} {w : Awaiter}
    (hbody : ∀ b ∈ stack, b.pc = .body) : stack ≠ ⟨h, .store w⟩ :: rest := by
  rintro rfl
  cases hbody _ List.mem_cons_self

/-- When the coroutine on top of the stack has not stored its handle, only suspended ones are in
`waitMap_`. -/
lemma awaiting_of_held {a : Actor}
    (held : ∀ k h, a.waitMap k = some h → (∃ w, a.awaiting h = some w ∧ w.sessionId = k) ∨
      ∃ w, storing a.stack = some (h, w) ∧ w.sessionId = k)
    (hs : storing a.stack = none) {k : UInt32} {h : Nat} (hk : a.waitMap k = some h) :
    ∃ w, a.awaiting h = some w ∧ w.sessionId = k := by
  rcases held k h hk with hw | ⟨w, hw, -⟩
  · exact hw
  · rw [hs] at hw
    cases hw

section WaitMap

variable {stack rest : List Activation} {awaiting : Nat → Option Awaiter}
  {waitMap : UInt32 → Option Nat} {h : Nat} {w : Awaiter}

/-- Every handle in `waitMap_` is that of a suspended coroutine, or of the one about to be. -/
def HandlesAwait (stack : List Activation) (awaiting : Nat → Option Awaiter)
    (waitMap : UInt32 → Option Nat) : Prop :=
  ∀ k h, waitMap k = some h → (∃ w, awaiting h = some w ∧ w.sessionId = k) ∨
    ∃ w, storing stack = some (h, w) ∧ w.sessionId = k

/-- Every suspended coroutine is in `waitMap_`. -/
def AwaitersHeld (awaiting : Nat → Option Awaiter) (waitMap : UInt32 → Option Nat) : Prop :=
  ∀ h w, awaiting h = some w → waitMap w.sessionId = some h

namespace HandlesAwait

lemma store (hh : HandlesAwait (⟨h, .store w⟩ :: rest) awaiting waitMap) :
    HandlesAwait (⟨h, .send w⟩ :: rest) awaiting
      (Function.update waitMap w.sessionId (some h)) := by
  intro k g hg
  by_cases e : k = w.sessionId
  · subst e
    obtain rfl : h = g := by simpa using hg
    exact .inr ⟨w, rfl, rfl⟩
  · rcases hh k g (by simpa [e] using hg) with hg | ⟨v, hv, -⟩
    · exact .inl hg
    · cases hv

lemma suspended (hh : HandlesAwait (⟨h, .leave w⟩ :: rest) awaiting waitMap)
    (hrun : awaiting h = none) :
    HandlesAwait rest (Function.update awaiting h (some w)) waitMap := by
  intro k g hg
  rcases hh k g hg with ⟨v, hv, he⟩ | ⟨v, hv, he⟩
  · have hne : g ≠ h := by
      rintro rfl
      rw [hrun] at hv
      cases hv
    exact .inl ⟨v, by simpa [hne] using hv, he⟩
  · cases hv
    exact .inl ⟨w, by simp, he⟩

lemma resumed (hh : HandlesAwait [] awaiting waitMap) (hw : awaiting h = some w) :
    HandlesAwait [⟨h, .body⟩] (Function.update awaiting h none)
      (Function.update waitMap w.sessionId none) := by
  intro k g hg
  have hne : k ≠ w.sessionId := by
    rintro rfl
    simp at hg
  rcases hh k g (by simpa [hne] using hg) with ⟨v, hv, he⟩ | ⟨v, hv, -⟩
  · have hgh : g ≠ h := by
      rintro rfl
      rw [hw] at hv
      exact hne ((Option.some.inj hv) ▸ he.symm)
    exact .inl ⟨v, by simpa [hgh] using hv, he⟩
  · cases hv

end HandlesAwait

namespace AwaitersHeld

lemma store (ha : AwaitersHeld awaiting waitMap)
    (hne : ∀ g v, awaiting g = some v → v.sessionId ≠ w.sessionId) :
    AwaitersHeld awaiting (Function.update waitMap w.sessionId (some h)) := by
  intro g v hv
  rw [Function.update_of_ne (hne g v hv)]
  exact ha g v hv

lemma suspended (ha : AwaitersHeld awaiting waitMap) (hw : waitMap w.sessionId = some h) :
    AwaitersHeld (Function.update awaiting h (some w)) waitMap := by
  intro g v hv
  by_cases e : g = h
  · subst e
    obtain rfl : w = v := by simpa using hv
    exact hw
  · exact ha g v (by simpa [e] using hv)

/-- Two suspended coroutines are in different sessions. -/
lemma sessionId_ne (ha : AwaitersHeld awaiting waitMap) {g : Nat} {v : Awaiter}
    (hw : awaiting h = some w) (hv : awaiting g = some v) (hne : g ≠ h) :
    v.sessionId ≠ w.sessionId := by
  intro e
  have hg := ha g v hv
  rw [e, ha h w hw] at hg
  exact hne (Option.some.inj hg).symm

lemma resumed (ha : AwaitersHeld awaiting waitMap) (hw : awaiting h = some w) :
    AwaitersHeld (Function.update awaiting h none)
      (Function.update waitMap w.sessionId none) := by
  intro g v hv
  have hne : g ≠ h := by
    rintro rfl
    simp at hv
  have hv : awaiting g = some v := by simpa [hne] using hv
  rw [Function.update_of_ne (ha.sessionId_ne hw hv hne)]
  exact ha g v hv

end AwaitersHeld

end WaitMap

/-- A response to a session somebody is suspended in. -/
lemma resumeWaiting_of_held {a : Actor} (held : HandlesAwait a.stack a.awaiting a.waitMap)
    (hs : a.stack = []) {msg : ActorMessage} {h : Nat} (hw : a.waitMap msg.sessionId = some h) :
    ∃ w responses, a.awaiting h = some w ∧ w.sessionId = msg.sessionId ∧
      resumeWaiting { a with log := a.log ++ [.processed msg] } msg.sessionId msg =
        { a with waitMap := Function.update a.waitMap w.sessionId none
                 responseMap := responses
                 stack := [⟨h, .body⟩]
                 awaiting := Function.update a.awaiting h none
                 log := a.log ++ [.processed msg] ++ [.resumed h w (w.result msg)] } := by
  obtain ⟨w, ha, hk⟩ := awaiting_of_held held (by rw [hs]; rfl) hw
  have hwk : a.waitMap w.sessionId = some h := by rw [hk]; exact hw
  obtain ⟨responses, heq⟩ :=
    resumeWaiting_eq (a := { a with log := a.log ++ [.processed msg] }) msg hwk ha
  refine ⟨w, responses, ha, hk, ?_⟩
  rw [hk] at heq ⊢
  rw [heq, hs]

/-- What holds of the sessions. -/
structure Matched (a : Actor) : Prop where
  next : a.nextSessionId = UInt32.ofNat (a.allocated + 1)
  /-- a suspended coroutine is in `waitMap_` -/
  waiting : ∀ h w, a.awaiting h = some w → a.waitMap w.sessionId = some h
  stored : ∀ h w, storing a.stack = some (h, w) → a.waitMap w.sessionId = some h
  /-- and nothing else is, but the coroutine about to be suspended -/
  held : ∀ k h, a.waitMap k = some h → (∃ w, a.awaiting h = some w ∧ w.sessionId = k) ∨
    ∃ w, storing a.stack = some (h, w) ∧ w.sessionId = k
  pending : ∀ h w, a.awaiting h = some w → Pending h w (history a.log w.sessionId)
  opened : ∀ w, opening a.stack = some w → Untouched (history a.log w.sessionId)
  used : ∀ w, opening a.stack = some w →
    0 < w.sessionId.toNat ∧ w.sessionId.toNat ≤ a.allocated
  unused : ∀ k : UInt32, k.toNat = 0 ∨ a.allocated < k.toNat → Untouched (history a.log k)
  forms : ∀ k, Untouched (history a.log k) ∨ (∃ h w, a.awaiting h = some w ∧ w.sessionId = k) ∨
    Answered (history a.log k)

namespace Matched

variable {a : Actor}

/-- Running coroutines may come, go and move, as far as the awaiters are not concerned. -/
lemma setStack (hm : Matched a) {stack : List Activation} (frames : Nat)
    (hs : storing stack = storing a.stack) (ho : opening stack = opening a.stack) :
    Matched { a with stack, frames } where
  next := hm.next
  waiting := hm.waiting
  stored h w hw := hm.stored h w (by rwa [hs] at hw)
  held k h hk := by
    rw [hs]
    exact hm.held k h hk
  pending := hm.pending
  opened w hw := hm.opened w (by rwa [ho] at hw)
  used w hw := hm.used w (by rwa [ho] at hw)
  unused := hm.unused
  forms := hm.forms

/-- A message that names no session somebody is suspended in. -/
lemma processed (hm : Matched a) {msg : ActorMessage} (ho : opening a.stack = none)
    (hmsg : ∀ h w, a.awaiting h = some w → concerns w.sessionId (.processed msg) = false) :
    Matched { a with log := a.log ++ [.processed msg] } where
  next := hm.next
  waiting := hm.waiting
  stored := hm.stored
  held := hm.held
  pending h w hw := by
    rw [history_append_of_not (hmsg h w hw)]
    exact hm.pending h w hw
  opened w hw := by
    rw [ho] at hw
    cases hw
  used := hm.used
  unused k hk := by
    by_cases hc : concerns k (.processed msg) = true
    · rw [history_append_of_concerns hc]
      exact (hm.unused k hk).processed msg
    · rw [history_append_of_not (by simpa using hc)]
      exact hm.unused k hk
  forms k := by
    by_cases hc : concerns k (.processed msg) = true
    · rw [history_append_of_concerns hc]
      exact (hm.forms k).imp (·.processed msg) (Or.imp_right (·.processed msg))
    · rw [history_append_of_not (by simpa using hc)]
      exact hm.forms k

/-- Nobody is suspended in session 0. -/
lemma sessionId_ne_zero (hm : Matched a) {h : Nat} {w : Awaiter} (hw : a.awaiting h = some w) :
    w.sessionId ≠ 0 := by
  intro h0
  refine (hm.pending h w hw).not_untouched (hm.unused _ (.inl ?_))
  rw [h0]
  rfl

/-- Two suspensions are in different sessions: one that begins is in a session nobody is in. -/
lemma opened_ne (hm : Matched a) {h : Nat} {w v : Awaiter} (hw : opening a.stack = some w)
    (hv : a.awaiting h = some v) : v.sessionId ≠ w.sessionId := by
  intro e
  apply (hm.pending h v hv).not_untouched
  rw [e]
  exact hm.opened w hw

/-- `AllocSession`: a session that was never used, as long as the ids do not wrap around. -/
lemma allocate (hm : Matched a) (hlt : a.allocated + 1 < 2 ^ 32) {h : Nat} {rest : List Activation}
    (hs : a.stack = ⟨h, .body⟩ :: rest) (kind : AwaitKind) :
    Matched { a with stack := ⟨h, .store ⟨kind, a.nextSessionId⟩⟩ :: rest
                     nextSessionId := a.nextSessionId + 1, allocated := a.allocated + 1 } := by
  have hid : a.nextSessionId.toNat = a.allocated + 1 := by
    rw [hm.next]
    exact UInt32.toNat_ofNat_of_lt' hlt
  have hopen : ∀ w, opening (⟨h, .store ⟨kind, a.nextSessionId⟩⟩ :: rest) = some w →
      w.sessionId = a.nextSessionId := by
    intro w hw
    cases hw
    rfl
  refine ⟨?_, hm.waiting, fun g w hw => ?_, fun k g hk => ?_, hm.pending, fun w hw => ?_,
    fun w hw => ?_, fun k hk => ?_, hm.forms⟩
  · simp only [hm.next]
    exact (UInt32.ofNat_add (a.allocated + 1) 1).symm
  · cases hw
  · exact .inl (awaiting_of_held hm.held (by rw [hs]; rfl) hk)
  · rw [hopen w hw]
    exact hm.unused _ (.inr (by omega))
  · rw [hopen w hw, hid]
    exact ⟨Nat.succ_pos _, Nat.le_refl _⟩
  · exact hm.unused k (hk.imp_right Nat.lt_of_succ_lt)

/-- `StoreWaiting`. -/
lemma store (hm : Matched a) {h : Nat} {rest : List Activation} {w : Awaiter}
    (hs : a.stack = ⟨h, .store w⟩ :: rest) :
    Matched { a with waitMap := Function.update a.waitMap w.sessionId (some h)
                     stack := ⟨h, .send w⟩ :: rest } := by
  have hopen : opening a.stack = some w := by rw [hs]; rfl
  have hheld : HandlesAwait a.stack a.awaiting a.waitMap := hm.held
  rw [hs] at hheld
  refine ⟨hm.next, ?_, fun g v hv => ?_, hheld.store, hm.pending, fun v hv => ?_, fun v hv => ?_,
    hm.unused, hm.forms⟩
  · exact AwaitersHeld.store hm.waiting fun g v hv => hm.opened_ne hopen hv
  · cases hv
    simp
  · cases hv
    exact hm.opened w hopen
  · cases hv
    exact hm.used w hopen

/-- `await_suspend` returns. -/
lemma suspended (hm : Matched a) {h : Nat} {rest : List Activation} {w : Awaiter}
    (hs : a.stack = ⟨h, .leave w⟩ :: rest) (hrest : ∀ b ∈ rest, b.pc = .body)
    (hh : a.awaiting h = none) :
    Matched { a with stack := rest, awaiting := Function.update a.awaiting h (some w)
                     log := a.log ++ [.suspended h w] } := by
  have hopen : opening a.stack = some w := by rw [hs]; rfl
  have hstore : storing a.stack = some (h, w) := by rw [hs]; rfl
  have htop := top_of_bodies hrest
  -- the other suspended coroutines are other frames, in other sessions
  have hother : ∀ g v, a.awaiting g = some v → g ≠ h := by
    rintro g v hv rfl
    simp [hh] at hv
  have hkeep : ∀ k, k ≠ w.sessionId →
      history (a.log ++ [.suspended h w]) k = history a.log k := by
    intro k hk
    exact history_append_of_not (by simpa [concerns] using Ne.symm hk)
  have hnew : history (a.log ++ [.suspended h w]) w.sessionId =
      history a.log w.sessionId ++ [.suspended h w] :=
    history_append_of_concerns (by simp [concerns])
  have hheld : HandlesAwait a.stack a.awaiting a.waitMap := hm.held
  rw [hs] at hheld
  refine ⟨hm.next, AwaitersHeld.suspended hm.waiting (hm.stored h w hstore), fun g v hv => ?_,
    hheld.suspended hh, fun g v hv => ?_, fun v hv => ?_, fun v hv => ?_, fun k hk => ?_,
    fun k => ?_⟩
  · rw [htop.1] at hv
    cases hv
  · by_cases e : g = h
    · subst e
      obtain rfl : w = v := by simpa using hv
      rw [hnew]
      exact (hm.opened w hopen).suspended g w
    · have hv : a.awaiting g = some v := by simpa [e] using hv
      rw [hkeep _ (hm.opened_ne hopen hv)]
      exact hm.pending g v hv
  · rw [htop.2] at hv
    cases hv
  · rw [htop.2] at hv
    cases hv
  · have hne : k ≠ w.sessionId := by
      rintro rfl
      have hused := hm.used w hopen
      dsimp only at hk
      omega
    rw [hkeep k hne]
    exact hm.unused k hk
  · by_cases e : k = w.sessionId
    · exact .inr (.inl ⟨h, w, by simp, e.symm⟩)
    · rw [hkeep k e]
      refine (hm.forms k).imp_right (Or.imp_left ?_)
      rintro ⟨g, v, hv, he⟩
      exact ⟨g, v, by simpa [hother g v hv] using hv, he⟩

/-- The first response of a session resumes the coroutine that is suspended in it. -/
lemma resumed (hm : Matched a) (hs : a.stack = []) {h : Nat} {w : Awaiter} {msg : ActorMessage}
    (hw : a.awaiting h = some w) (hr : msg.isResponse = true) (hk : msg.sessionId = w.sessionId)
    (responses : UInt32 → Option ActorMessage) :
    Matched { a with waitMap := Function.update a.waitMap w.sessionId none
                     responseMap := responses
                     stack := [⟨h, .body⟩]
                     awaiting := Function.update a.awaiting h none
                     log := a.log ++ [.processed msg] ++ [.resumed h w (w.result msg)] } := by
  have hother : ∀ g v, a.awaiting g = some v → g ≠ h → v.sessionId ≠ w.sessionId :=
    fun g v hv hne => AwaitersHeld.sessionId_ne hm.waiting hw hv hne
  have hheld : HandlesAwait a.stack a.awaiting a.waitMap := hm.held
  rw [hs] at hheld
  have hold : ∀ {g v}, Function.update a.awaiting h none g = some v →
      g ≠ h ∧ a.awaiting g = some v := by
    intro g v hv
    by_cases e : g = h
    · subst e
      simp at hv
    · exact ⟨e, by simpa [e] using hv⟩
  have hkeep : ∀ k, k ≠ w.sessionId →
      history (a.log ++ [.processed msg] ++ [.resumed h w (w.result msg)]) k = history a.log k := by
    intro k hne
    rw [history_append_of_not (by simpa [concerns] using Ne.symm hne),
      history_append_of_not (by simp [concerns, hk, Ne.symm hne])]
  have hanswer : Answered (history
      (a.log ++ [.processed msg] ++ [.resumed h w (w.result msg)]) w.sessionId) := by
    rw [history_append_of_concerns (by simp [concerns]),
      history_append_of_concerns (by simp [concerns, hr, hk])]
    exact (hm.pending h w hw).resumed msg
  refine ⟨hm.next, AwaitersHeld.resumed hm.waiting hw, fun g v hv => ?_, hheld.resumed hw,
    fun g v hv => ?_, fun v hv => ?_, fun v hv => ?_, fun k hk' => ?_, fun k => ?_⟩
  · cases hv
  · obtain ⟨hne, hv⟩ := hold hv
    rw [hkeep _ (hother g v hv hne)]
    exact hm.pending g v hv
  · cases hv
  · cases hv
  · have hne : k ≠ w.sessionId := by
      rintro rfl
      exact (hm.pending h w hw).not_untouched (hm.unused _ hk')
    rw [hkeep k hne]
    exact hm.unused k hk'
  · by_cases e : k = w.sessionId
    · exact .inr (.inr (e ▸ hanswer))
    · rw [hkeep k e]
      refine (hm.forms k).imp_right (Or.imp_left ?_)
      rintro ⟨g, v, hv, he⟩
      have hgh : g ≠ h := by
        rintro rfl
        rw [hw] at hv
        exact e ((Option.some.inj hv) ▸ he.symm)
      exact ⟨g, v, by simpa [hgh] using hv, he⟩

end Matched

/-! ### All runs -/

lemma Step.allocated_le {a a' : Actor} (h : Step a a') : a.allocated ≤ a'.allocated := by
  cases h with
  | coAwait h rest kind hs => exact Nat.le_succ _
  | resume msg h hs hm hw =>
    unfold resumeWaiting awaitResume
    simp only [hw]
    split
    · exact Nat.le_refl _
    · split <;> exact Nat.le_refl _
  | _ => exact Nat.le_refl _

/-- Only a coroutine that awaits allocates a session. -/
lemma allocated_of_next {a a' : Actor} {l : Action} (hs : machine.next a l = some a')
    (hl : ∀ kind, l ≠ .coAwait kind) : a'.allocated = a.allocated := by
  change next a l = some a' at hs
  cases l with
  | coAwait kind => exact absurd rfl (hl kind)
  | process msg =>
    simp only [next] at hs
    split_ifs at hs
    cases hs
    rw [onMessage]
    dsimp only
    split_ifs
    · unfold resumeWaiting awaitResume
      dsimp only
      split
      · rfl
      · split
        · rfl
        · split <;> rfl
    · rfl
  | callCoroutine | coReturn =>
    simp only [next] at hs
    split at hs
    · cases hs
      rfl
    · cases hs
  | suspend =>
    simp only [next] at hs
    split at hs
    · rename_i h pc rest hst
      cases pc <;> cases hs <;> rfl
    · cases hs

/-- A response is named by the session it is for. -/
lemma Matched.processed_of_free {a : Actor} (hm : Matched a) (hs : a.stack = [])
    {msg : ActorMessage}
    (hfree : msg.isResponse = true → ∀ h w, a.awaiting h = some w → w.sessionId ≠ msg.sessionId) :
    Matched { a with log := a.log ++ [.processed msg] } := by
  refine hm.processed (by rw [hs]; rfl) fun h w hw => ?_
  cases hr : msg.isResponse with
  | false => simp [concerns, hr]
  | true => simpa [concerns, hr] using Ne.symm (hfree hr h w hw)

lemma Step.matched {a a' : Actor} (h : Step a a') (hlt : a'.allocated < 2 ^ 32)
    (hf : Frames a.stack a.awaiting a.frames) (hm : Matched a) :
    Frames a'.stack a'.awaiting a'.frames ∧ Matched a' := by
  cases h with
  | start msg hs hmsg =>
    constructor
    · rw [hs] at hf
      exact hf.push (by simp)
    · refine (hm.processed_of_free hs fun hr h w hw e => ?_).setStack (a.frames + 1) ?_ ?_
      · have h0 : ¬ 0 < msg.sessionId := fun h0 => hmsg ⟨hr, h0⟩
        refine hm.sessionId_ne_zero hw (UInt32.toNat_inj.mp ?_)
        rw [UInt32.lt_iff_toNat_lt] at h0
        rw [e]
        simpa using h0
      · simp only [hs]; rfl
      · simp only [hs]; rfl
  | drop msg hs hw =>
    refine ⟨hf, hm.processed_of_free hs fun _ h w hh e => ?_⟩
    have hwait := hm.waiting h w hh
    rw [e, hw] at hwait
    cases hwait
  | resume msg h hs hr hw =>
    obtain ⟨w, responses, ha, hk, heq⟩ := resumeWaiting_of_held hm.held hs hw
    rw [hs] at hf
    rw [heq]
    exact ⟨hf.resume ha, hm.resumed hs ha hr hk.symm responses⟩
  | callCoroutine h rest hs =>
    refine ⟨?_, hm.setStack _ ?_ ?_⟩
    · rw [hs] at hf
      refine hf.push fun b hb => ?_
      rcases List.mem_cons.mp hb with rfl | hb
      · rfl
      · exact hf.callers b hb
    · rw [hs]; rfl
    · rw [hs]; rfl
  | coAwait h rest kind hs =>
    refine ⟨?_, hm.allocate hlt hs kind⟩
    rw [hs] at hf
    exact hf.move _
  | store h rest w hs =>
    refine ⟨?_, hm.store hs⟩
    rw [hs] at hf
    exact hf.move _
  | send h rest w hs | setTimeout h rest w hs =>
    refine ⟨?_, hm.setStack a.frames ?_ ?_⟩
    · rw [hs] at hf
      exact hf.move _
    · rw [hs]; rfl
    · rw [hs]; rfl
  | leave h rest w hs =>
    rw [hs] at hf
    exact ⟨hf.suspend w, hm.suspended hs hf.callers (hf.running _ List.mem_cons_self).2⟩
  | coReturn h rest hs =>
    rw [hs] at hf
    have htop := top_of_bodies hf.callers
    refine ⟨hf.pop, hm.setStack a.frames ?_ ?_⟩
    · rw [hs]; exact htop.1
    · rw [hs]; exact htop.2

lemma matched_start : Matched start where
  next := rfl
  waiting h w hw := by cases hw
  stored h w hw := by cases hw
  held k h hk := by cases hk
  pending h w hw := by cases hw
  opened w hw := by cases hw
  used w hw := by cases hw
  unused k _ := ⟨[], rfl⟩
  forms k := .inl ⟨[], rfl⟩

/-- A message that names no waiting session only goes to the log, or starts a coroutine. -/
lemma onMessage_of_free {a : Actor} (msg : ActorMessage) (hw : a.waitMap msg.sessionId = none) :
    (a.onMessage msg).waitMap = a.waitMap ∧ (a.onMessage msg).responseMap = a.responseMap ∧
      (a.onMessage msg).log = a.log ++ [.processed msg] := by
  rw [onMessage]
  dsimp only
  split_ifs
  · rw [resumeWaiting]
    simp [hw]
  · exact ⟨rfl, rfl, rfl⟩

/-- As long as the session ids have not wrapped around, frames and sessions are in order. -/
theorem matched_of_reachable {a : Actor} (h : machine.Reachable a) (hlt : a.allocated < 2 ^ 32) :
    Frames a.stack a.awaiting a.frames ∧ Matched a := by
  refine h.invariant (P := fun a => a.allocated < 2 ^ 32 →
    Frames a.stack a.awaiting a.frames ∧ Matched a) ?_ ?_ hlt
  · rintro a rfl _
    exact ⟨⟨by simp [start], by simp [start], by simp [start], by simp [start]⟩, matched_start⟩
  · intro a l a' _ hs _ hstep hlt
    have hstep := Step.of_next hstep
    obtain ⟨hf, hm⟩ := hs (Nat.lt_of_le_of_lt hstep.allocated_le hlt)
    exact hstep.matched hlt hf hm

/-- The history of every session is one of three. Nobody was suspended in it. Or a coroutine is,
and `waitMap_` has it. Or the coroutine was resumed once, by the first response that came after
`await_suspend` had returned, with that response as its result. A coroutine stays suspended
until its own response comes, and a response that nobody waits for changes no map. -/
theorem session_matching {a : Actor} (h : machine.Reachable a) (hlt : a.allocated < 2 ^ 32) :
    (∀ k, Untouched (history a.log k) ∨ (∃ h w, w.sessionId = k ∧ a.waitMap k = some h ∧
        Pending h w (history a.log k)) ∨ Answered (history a.log k)) ∧
      (∀ h w, a.awaiting h = some w → a.waitMap w.sessionId = some h ∧
        Pending h w (history a.log w.sessionId)) ∧
      (a.stack = [] → ∀ k h, a.waitMap k = some h →
        ∃ w, a.awaiting h = some w ∧ w.sessionId = k) ∧
      ∀ msg a', a.next (.process msg) = some a' → msg.isResponse = true →
        a.waitMap msg.sessionId = none → a'.waitMap = a.waitMap ∧
          a'.responseMap = a.responseMap ∧ a'.log = a.log ++ [.processed msg] := by
  obtain ⟨-, hm⟩ := matched_of_reachable h hlt
  refine ⟨fun k => ?_, fun h w hw => ⟨hm.waiting h w hw, hm.pending h w hw⟩,
    fun hs k h hw => awaiting_of_held hm.held (by rw [hs]; rfl) hw, fun msg a' hnext hr hw => ?_⟩
  · refine (hm.forms k).imp_right (Or.imp_left ?_)
    rintro ⟨h, w, hw, rfl⟩
    exact ⟨h, w, rfl, hm.waiting h w hw, hm.pending h w hw⟩
  · simp only [next] at hnext
    split_ifs at hnext with hs
    cases hnext
    exact onMessage_of_free msg hw

/-- A call is answered, the answered coroutine sleeps, and a late timeout of the call comes. -/
def callThenSleep : List Action :=
  [.process { type := .userMessage }, .coAwait .call] ++ List.replicate 4 .suspend ++
    [.process { sessionId := 1, isResponse := true, data := [1] }, .coAwait .sleep] ++
    List.replicate 4 .suspend ++
    [.process { sessionId := 1, isResponse := true, error := .timeout }]

/-- The sessions after a call that was answered, a sleep and a late timeout. -/
theorem session_matching_callThenSleep :
    let a := machine.replay start callThenSleep
    (∀ k, Untouched (history a.log k) ∨ (∃ h w, w.sessionId = k ∧ a.waitMap k = some h ∧
        Pending h w (history a.log k)) ∨ Answered (history a.log k)) ∧
      a.waitMap 1 = none ∧ a.waitMap 2 = some 0 := by
  intro a
  have hreach : machine.Reachable a := Machine.reachable_replay reachable_start _
  exact ⟨(session_matching hreach (by decide)).1, by decide, by decide⟩

end Actor

end Balabala
