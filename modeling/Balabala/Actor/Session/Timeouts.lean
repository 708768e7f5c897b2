import Balabala.Actor.Session.Timed

/-!
# The timers of the awaiters

Whoever waits with a timer is woken by it at the latest: the message of the timer is on its way
until it is in the mailbox, and there until it is processed. And no timer of a call outlives its
call, unless the call was answered with an error.
-/

namespace Balabala

open Foundation

namespace Actor

/-! ### From `AllocSession` to the resumption -/

/-- The coroutine `h` is suspended in the awaiter `w`, or about to be. -/
def Awaits (a : Actor) (h : Nat) (w : Awaiter) : Prop :=
  a.awaiting h = some w ∨ ∃ pc rest, a.stack = ⟨h, pc⟩ :: rest ∧ pc.awaiter = some w

/-- The steps of the running coroutine. -/
inductive Going (a : Actor) : Action → Actor → Prop
  | callCoroutine (h : Nat) (rest : List Activation) (hs : a.stack = ⟨h, .body⟩ :: rest) :
      Going a .callCoroutine
        { a with stack := ⟨a.frames, .body⟩ :: ⟨h, .body⟩ :: rest, frames := a.frames + 1 }
  | coAwait (h : Nat) (rest : List Activation) (kind : AwaitKind)
      (hs : a.stack = ⟨h, .body⟩ :: rest) :
      Going a (.coAwait kind)
        { a with stack := ⟨h, .store ⟨kind, a.nextSessionId⟩⟩ :: rest
                 nextSessionId := a.nextSessionId + 1, allocated := a.allocated + 1 }
  | store (h : Nat) (rest : List Activation) (w : Awaiter) (hs : a.stack = ⟨h, .store w⟩ :: rest) :
      Going a .suspend { a with waitMap := Function.update a.waitMap w.sessionId (some h)
                                stack := ⟨h, .send w⟩ :: rest }
  | send (h : Nat) (rest : List Activation) (w : Awaiter) (hs : a.stack = ⟨h, .send w⟩ :: rest) :
      Going a .suspend { a with stack := ⟨h, .setTimeout w⟩ :: rest }
  | setTimeout (h : Nat) (rest : List Activation) (w : Awaiter)
      (hs : a.stack = ⟨h, .setTimeout w⟩ :: rest) :
      Going a .suspend { a with stack := ⟨h, .leave w⟩ :: rest }
  | leave (h : Nat) (rest : List Activation) (w : Awaiter) (hs : a.stack = ⟨h, .leave w⟩ :: rest) :
      Going a .suspend { a with stack := rest, awaiting := Function.update a.awaiting h (some w)
                                log := a.log ++ [.suspended h w] }
  | coReturn (h : Nat) (rest : List Activation) (hs : a.stack = ⟨h, .body⟩ :: rest) :
      Going a .coReturn { a with stack := rest }

lemma Going.of_next {a a' : Actor} {l : Action} (h : a.next l = some a')
    (hl : ∀ msg, l ≠ .process msg) : Going a l a' := by
  cases l with
  | process msg => exact absurd rfl (hl msg)
  | callCoroutine =>
    simp only [next] at h
    split at h
    · cases h; exact .callCoroutine _ _ ‹_›
    · cases h
  | coAwait kind =>
    simp only [next] at h
    split at h
    · cases h; exact .coAwait _ _ kind ‹_›
    · cases h
  | suspend =>
    simp only [next] at h
    split at h
    · rename_i fr pc rest hs
      cases pc with
      | body => cases h
      | store w => cases h; exact .store fr rest w hs
      | send w => cases h; exact .send fr rest w hs
      | setTimeout w => cases h; exact .setTimeout fr rest w hs
      | leave w => cases h; exact .leave fr rest w hs
    · cases h
  | coReturn =>
    simp only [next] at h
    split at h
    · cases h; exact .coReturn _ _ ‹_›
    · cases h

section Stack

variable {a : Actor} {h g : Nat} {pc : FramePc} {rest : List Activation} {w : Awaiter}

lemma awaits_of_top (hs : a.stack = ⟨h, pc⟩ :: rest) :
    a.Awaits g w ↔ a.awaiting g = some w ∨ (g = h ∧ pc.awaiter = some w) := by
  rw [Awaits, hs]
  constructor
  · rintro (hw | ⟨pc', rest', he, hw⟩)
    · exact .inl hw
    · cases he
      exact .inr ⟨rfl, hw⟩
  · rintro (hw | ⟨rfl, hw⟩)
    · exact .inl hw
    · exact .inr ⟨pc, rest, rfl, hw⟩

/-- Where all coroutines of the stack are in their bodies, awaiting is being suspended. -/
lemma awaits_of_bodies (hb : ∀ b ∈ a.stack, b.pc = .body) : a.Awaits g w ↔ a.awaiting g = some w :=
  or_iff_left fun ⟨_, _, he, hw⟩ => awaiter_of_bodies hb he hw

end Stack

/-- The steps of a coroutine end no await, and only a `co_await` begins one. -/
lemma Going.awaits {a a' : Actor} {l : Action} (h : Going a l a')
    (hf : Frames a.stack a.awaiting a.frames) (g : Nat) (w : Awaiter) :
    a'.Awaits g w ↔ a.Awaits g w ∨
      ∃ kind rest, l = .coAwait kind ∧ a.stack = ⟨g, .body⟩ :: rest ∧
        w = ⟨kind, a.nextSessionId⟩ := by
  cases h with
  | callCoroutine h rest hs =>
    rw [awaits_of_top rfl, awaits_of_top hs]
    simp [FramePc.awaiter]
  | coAwait h rest kind hs =>
    rw [awaits_of_top rfl, awaits_of_top hs, hs]
    simp only [FramePc.awaiter, Option.some.injEq, reduceCtorEq, and_false, or_false,
      Action.coAwait.injEq, List.cons.injEq, Activation.mk.injEq, and_true]
    refine or_congr_right ⟨?_, ?_⟩
    · rintro ⟨rfl, rfl⟩
      exact ⟨kind, rest, rfl, ⟨rfl, rfl⟩, rfl⟩
    · rintro ⟨_, _, rfl, ⟨rfl, -⟩, rfl⟩
      exact ⟨rfl, rfl⟩
  | store h rest v hs | send h rest v hs | setTimeout h rest v hs =>
    rw [awaits_of_top rfl, awaits_of_top hs]
    simp [FramePc.awaiter]
  | leave h rest v hs =>
    rw [hs] at hf
    rw [awaits_of_bodies hf.callers, awaits_of_top hs]
    simp only [FramePc.awaiter, reduceCtorEq, false_and, exists_false, or_false]
    by_cases hgh : g = h
    · subst hgh
      have hnone : a.awaiting g = none := (hf.running _ List.mem_cons_self).2
      simp [hnone]
    · simp [hgh]
  | coReturn h rest hs =>
    rw [hs] at hf
    rw [awaits_of_bodies hf.callers, awaits_of_top hs]
    simp [FramePc.awaiter]

/-- Where a coroutine on top of the stack is in its await, and where it was a step before. -/
lemma Going.before {a a' : Actor} {l : Action} (h : Going a l a')
    (hf : Frames a.stack a.awaiting a.frames) {g : Nat} {pc : FramePc} {rest : List Activation}
    {w : Awaiter} (hs : a'.stack = ⟨g, pc⟩ :: rest) (hw : pc.awaiter = some w) :
    (∃ kind, l = .coAwait kind ∧ pc = .store w ∧ w = ⟨kind, a.nextSessionId⟩) ∨
      ∃ pc₀, a.stack = ⟨g, pc₀⟩ :: rest ∧ pc₀.awaiter = some w ∧ pc₀ ≠ .leave w ∧ l = .suspend ∧
        (pc = .leave w ↔ pc₀ = .setTimeout w) := by
  cases h with
  | callCoroutine h rest' hs' =>
    cases hs
    cases hw
  | coAwait h rest' kind hs' =>
    cases hs
    cases hw
    exact .inl ⟨kind, rfl, rfl, rfl⟩
  | store h rest' v hs' | send h rest' v hs' | setTimeout h rest' v hs' =>
    cases hs
    cases hw
    exact .inr ⟨_, hs', rfl, by simp, rfl, by simp⟩
  | leave h rest' v hs' | coReturn h rest' hs' =>
    rw [hs'] at hf
    exact absurd hw (awaiter_of_bodies hf.callers hs)

/-- A coroutine that is suspended was before, or was about to be. -/
lemma Going.awaiting_cases {a a' : Actor} {l : Action} (h : Going a l a') {g : Nat} {w : Awaiter}
    (hw : a'.awaiting g = some w) :
    a.awaiting g = some w ∨ ∃ rest, a.stack = ⟨g, .leave w⟩ :: rest := by
  cases h with
  | leave h rest v hs =>
    by_cases hgh : g = h
    · subst hgh
      obtain rfl : v = w := by simpa using hw
      exact .inr ⟨rest, hs⟩
    · exact .inl (by simpa [hgh] using hw)
  | _ => exact .inl hw

lemma Going.allocated_le {a a' : Actor} {l : Action} (h : Going a l a') :
    a.allocated ≤ a'.allocated := by
  cases h with
  | coAwait => exact Nat.le_succ _
  | _ => exact Nat.le_refl _

lemma Going.log {a a' : Actor} {l : Action} (h : Going a l a') : ∀ e ∈ a.log, e ∈ a'.log := by
  cases h with
  | leave => exact fun e he => List.mem_append_left _ he
  | _ => exact fun e he => he

/-- What a message does: it resumes the coroutine that waits for it, or none is resumed. -/
inductive Processed (a : Actor) (msg : ActorMessage) (a' : Actor) : Prop
  | resumed (h : Nat) (w : Awaiter) (hw : a.awaiting h = some w)
      (hk : w.sessionId = msg.sessionId) (hstack : a'.stack = [⟨h, .body⟩])
      (hawaiting : a'.awaiting = Function.update a.awaiting h none)
      (hlog : a'.log = a.log ++ [.processed msg] ++ [.resumed h w (w.result msg)])
      (hallocated : a'.allocated = a.allocated)
  | other (hfree : msg.isResponse = true → ∀ h w, a.awaiting h = some w →
        w.sessionId ≠ msg.sessionId)
      (hstack : ∀ b ∈ a'.stack, b.pc = .body) (hawaiting : a'.awaiting = a.awaiting)
      (hlog : a'.log = a.log ++ [.processed msg]) (hallocated : a'.allocated = a.allocated)

lemma processed_onMessage {a : Actor} (hm : Matched a) (hs : a.stack = []) (msg : ActorMessage) :
    Processed a msg (a.onMessage msg) := by
  rw [onMessage]
  dsimp only
  split_ifs with hr
  · simp only [Bool.and_eq_true, decide_eq_true_eq] at hr
    cases hw : a.waitMap msg.sessionId with
    | none =>
      rw [resumeWaiting]
      simp only [hw]
      refine .other (fun _ h w hh hk => ?_) (by simp [hs]) rfl rfl rfl
      have hwait := hm.waiting h w hh
      rw [hk, hw] at hwait
      cases hwait
    | some h =>
      obtain ⟨w, responses, hawait, hk, heq⟩ := resumeWaiting_of_held hm.held hs hw
      rw [heq]
      exact .resumed h w hawait hk rfl rfl rfl rfl
  · simp only [Bool.and_eq_true, decide_eq_true_eq, not_and] at hr
    refine .other (fun hresp h w hh hk => ?_) (by simp [hs]) rfl rfl rfl
    refine hm.sessionId_ne_zero hh (UInt32.toNat_inj.mp ?_)
    have h0 := hr hresp
    rw [UInt32.lt_iff_toNat_lt] at h0
    rw [hk]
    simpa using h0

/-- A message ends one await at most, and begins none. -/
lemma Processed.awaits {a a' : Actor} {msg : ActorMessage} (h : Processed a msg a') {g : Nat}
    {w : Awaiter} (hw : a'.Awaits g w) : a.awaiting g = some w := by
  cases h with
  | resumed h v hv hk hstack hawaiting =>
    rw [awaits_of_top hstack, hawaiting] at hw
    rcases hw with hw | ⟨-, hw⟩
    · by_cases hgh : g = h
      · subst hgh
        simp at hw
      · simpa [hgh] using hw
    · cases hw
  | other hfree hstack hawaiting =>
    rwa [awaits_of_bodies hstack, hawaiting] at hw

/-- A response ends the await of its session. -/
lemma Processed.not_awaits {a a' : Actor} {msg : ActorMessage} (h : Processed a msg a')
    (hm : Matched a) (hr : msg.isResponse = true) {g : Nat} {w : Awaiter}
    (hk : w.sessionId = msg.sessionId) : ¬ a'.Awaits g w := by
  intro hw
  have hg := h.awaits hw
  cases h with
  | resumed h v hv hkv hstack hawaiting =>
    have hh := hm.waiting h v hv
    rw [hkv, ← hk, hm.waiting g w hg] at hh
    obtain rfl : g = h := Option.some.inj hh
    rw [awaits_of_top hstack, hawaiting] at hw
    simp [FramePc.awaiter] at hw
  | other hfree => exact hfree hr g w hg hk

end Actor

namespace TimedActor

variable {Tid : Type*} {s s' : TimedActor Tid}

/-- The coroutine `h` has set a timer in its awaiter `w`. -/
def HasTimer (s : TimedActor Tid) (h : Nat) (w : Awaiter) : Prop :=
  ∃ x ∈ s.timeouts, x.frame = h ∧ x.awaiter = w

/-- The message of the timer is still to be sent, or it is in the mailbox. -/
def Arrives (s : TimedActor Tid) (x : AwaiterTimer) : Prop :=
  s.timers.OnTheWay x.timer ∨ x.awaiter.timeoutMsg ∈ s.normalMailbox.queue

/-- The coroutine `h` was resumed in `w` with an error. -/
def Failed (s : TimedActor Tid) (h : Nat) (w : Awaiter) : Prop :=
  ∃ result, .resumed h w (some result) ∈ s.actor.log ∧ result.error ≠ .ok

/-- What is known of the timers that awaiters have set. -/
structure Tracked (s : TimedActor Tid) : Prop where
  kept : TimerManager.Kept s.timers
  running : s.timers.running = true
  known : ∀ x ∈ s.timeouts, x.timer < s.timers.allocated
  inj : ∀ x ∈ s.timeouts, ∀ y ∈ s.timeouts, x.timer = y.timer → x = y
  message : ∀ x ∈ s.timeouts, s.timers.message x.timer = (s.actorId, x.awaiter.timeoutMsg)
  once : ∀ x ∈ s.timeouts, (s.timers.entries x.timer).intervalMs = 0
  session : ∀ x ∈ s.timeouts, x.awaiter.sessionId.toNat ≤ s.actor.allocated
  setting : s.pc = .setTimeout →
    ∃ h w rest, s.actor.stack = ⟨h, .setTimeout w⟩ :: rest ∧ s.HasTimer h w
  /-- an awaiter sets one timer -/
  unset : s.pc ≠ .setTimeout → ∀ h pc rest w, s.actor.stack = ⟨h, pc⟩ :: rest →
    pc.awaiter = some w → pc ≠ .leave w → ∀ x ∈ s.timeouts, x.awaiter ≠ w
  /-- while the worker is in `SetTimeout` it adds the timer of its awaiter -/
  adding : ∀ x ∈ s.timeouts, ∀ t, s.timers.adders t = .insert x.timer →
    t = none ∧ s.pc = .setTimeout
  timerId : ∀ x ∈ s.timeouts, s.actor.Awaits x.frame x.awaiter →
    s.timerId x.frame = (s.timers.entries x.timer).timerId
  noted : ∀ h w, s.actor.Awaits h w → s.timerId h ≠ 0 → s.HasTimer h w
  cancelling : ∀ id, s.pc = .cancelTimer id → ∀ x ∈ s.timeouts,
    (s.timers.entries x.timer).timerId = id → ¬ s.actor.Awaits x.frame x.awaiter
  arrives : ∀ x ∈ s.timeouts, s.actor.Awaits x.frame x.awaiter → s.Arrives x
  asleep : ∀ h w, w.kind = .sleep →
    (s.actor.awaiting h = some w ∨ ∃ rest, s.actor.stack = ⟨h, .leave w⟩ :: rest) → s.HasTimer h w
  owned : ∀ x ∈ s.timeouts, x.awaiter.kind ≠ .sleep → s.timers.Live x.timer →
    s.actor.Awaits x.frame x.awaiter ∨ s.pc = .cancelTimer (s.timers.entries x.timer).timerId ∨
      s.Failed x.frame x.awaiter

lemma Failed.of_log {h : Nat} {w : Awaiter} (hf : s.Failed h w)
    (hlog : ∀ e ∈ s.actor.log, e ∈ s'.actor.log) : s'.Failed h w := by
  obtain ⟨result, hmem, herr⟩ := hf
  exact ⟨result, hlog _ hmem, herr⟩

lemma isResponse_timeoutMsg (w : Awaiter) : w.timeoutMsg.isResponse = true := by
  rw [Awaiter.timeoutMsg]
  split <;> rfl

lemma sessionId_timeoutMsg (w : Awaiter) : w.timeoutMsg.sessionId = w.sessionId := by
  rw [Awaiter.timeoutMsg]
  split <;> rfl

lemma priority_timeoutMsg (w : Awaiter) : w.timeoutMsg.priority = false := by
  rw [Awaiter.timeoutMsg]
  split <;> rfl

lemma tracked_start (actorId : ActorId) (time : UInt64) : Tracked (start Tid actorId time) where
  kept := TimerManager.kept_start time
  running := rfl
  known := by simp [start]
  inj := by simp [start]
  message := by simp [start]
  once := by simp [start]
  session := by simp [start]
  setting := by simp [start]
  unset := by simp [start, Actor.start]
  adding := by simp [start]
  timerId := by simp [start]
  noted h w _ h0 := absurd rfl h0
  cancelling := by simp [start]
  arrives := by simp [start]
  asleep := by simp [start, Actor.start]
  owned := by simp [start]

section Going

variable {a a' : Actor} {l : Actor.Action}

/-- A coroutine that awaits has no awaiter yet. -/
lemma noteAwait_of_awaits (hg : Actor.Going a l a') (hf : Actor.Frames a.stack a.awaiting a.frames)
    (timerId : Nat → TimerId) {g : Nat} {w : Awaiter} (hw : a.Awaits g w) :
    noteAwait timerId a l g = timerId g := by
  cases hg with
  | coAwait h rest kind hs =>
    have hne : g ≠ h := by
      rintro rfl
      have hnone : a.awaiting g = none := (hf.running ⟨g, .body⟩ (by simp [hs])).2
      rw [Actor.awaits_of_top hs, hnone] at hw
      simp [FramePc.awaiter] at hw
    simp [noteAwait, hs, hne]
  | _ => rfl

lemma goesOn_cases [DecidableEq Tid] (hl : s.goesOn l = true) :
    s.pc = .run ∨ (s.pc = .setTimeout ∧ s.timers.adders none = .idle) := by
  cases l with
  | process msg => cases hl
  | suspend =>
    simp only [goesOn] at hl
    split at hl
    · exact .inr ⟨‹_›, of_decide_eq_true hl⟩
    · exact .inl ‹_›
    · exact .inl ‹_›
    · cases hl
  | callCoroutine | coAwait kind | coReturn => exact .inl (of_decide_eq_true hl)

/-- A coroutine does not fall asleep without a timer. -/
lemma setTimeout_of_goesOn [DecidableEq Tid] (hl : s.goesOn .suspend = true) {g : Nat} {w : Awaiter}
    {rest : List Activation} (hs : s.actor.stack = ⟨g, .setTimeout w⟩ :: rest)
    (hw : w.kind = .sleep) : s.pc = .setTimeout := by
  simp only [goesOn, hs] at hl
  split at hl
  · assumption
  · rename_i heq
    cases heq
    simp [hw] at hl
  · rename_i hne
    exact absurd rfl (hne g w rest)
  · cases hl

end Going

section AfterResume

variable {a a' : Actor} {msg : ActorMessage} {timerId : Nat → TimerId}

lemma afterResume_ne_setTimeout (timerId : Nat → TimerId) (log : List SessionEvent) :
    afterResume timerId log ≠ .setTimeout := by
  rw [afterResume]
  split
  · split_ifs <;> simp
  · simp

/-- A timer is cancelled after its call was resumed. -/
lemma resumed_of_cancelTimer (ha : Actor.Processed a msg a') {id : TimerId}
    (h : afterResume timerId a'.log = .cancelTimer id) :
    ∃ g w, a.awaiting g = some w ∧ ¬ a'.Awaits g w ∧ timerId g = id ∧ timerId g ≠ 0 := by
  cases ha with
  | resumed g w hw hk hstack hawaiting hlog =>
    rw [afterResume, hlog, List.getLast?_concat] at h
    split at h
    · rename_i heq
      simp only [Option.some.injEq, SessionEvent.resumed.injEq] at heq
      obtain ⟨rfl, -, -⟩ := heq
      split_ifs at h with hid
      cases h
      refine ⟨_, w, hw, ?_, rfl, hid.2⟩
      rw [Actor.awaits_of_top hstack, hawaiting]
      simp [FramePc.awaiter]
    · cases h
  | other hfree hstack hawaiting hlog =>
    rw [afterResume, hlog, List.getLast?_concat] at h
    cases h

end AfterResume

namespace Tracked

/-- The id of a timer of an awaiter is not the one that stands for none. -/
lemma timerId_ne_zero (h : Tracked s) (hids : s.timers.allocated < 2 ^ 64) {x : AwaiterTimer}
    (hx : x ∈ s.timeouts) : (s.timers.entries x.timer).timerId ≠ 0 := by
  have hlt := h.known x hx
  rw [h.kept.timerId _ hlt, Ne, ← UInt64.toNat_inj, UInt64.toNat_ofNat']
  simp only [UInt64.toNat_zero]
  omega

/-- The worker goes on with the coroutines. -/
lemma run [DecidableEq Tid] (h : Tracked s) {l : Actor.Action} {a : Actor}
    (hl : s.goesOn l = true) (hg : Actor.Going s.actor l a)
    (hf : Actor.Frames s.actor.stack s.actor.awaiting s.actor.frames)
    (hm : Actor.Matched s.actor) (hlt : a.allocated < 2 ^ 32) :
    Tracked { s with actor := a, timerId := noteAwait s.timerId s.actor l, pc := .run } := by
  have hpc := goesOn_cases hl
  -- a new session has no timer
  have hfresh : ∀ kind, l = .coAwait kind → ∀ x ∈ s.timeouts,
      x.awaiter ≠ ⟨kind, s.actor.nextSessionId⟩ := by
    rintro kind rfl x hx e
    have hle := h.session x hx
    cases hg with
    | coAwait g rest _ hs =>
      have hlt : s.actor.allocated + 1 < 2 ^ 32 := hlt
      rw [e, hm.next, UInt32.toNat_ofNat'] at hle
      omega
  have hold : ∀ x ∈ s.timeouts, a.Awaits x.frame x.awaiter →
      s.actor.Awaits x.frame x.awaiter := by
    intro x hx hw
    rcases (hg.awaits hf _ _).mp hw with hw | ⟨kind, rest, hl, -, e⟩
    · exact hw
    · exact absurd e (hfresh kind hl x hx)
  exact { h with
    session := fun x hx => Nat.le_trans (h.session x hx) hg.allocated_le
    setting := by simp
    unset := by
      intro _ g pc rest w hs hw hleave x hx
      rcases hg.before hf hs hw with ⟨kind, hl, -, rfl⟩ | ⟨pc₀, hs₀, hw₀, hne, -, hiff⟩
      · exact hfresh kind hl x hx
      · refine h.unset (fun hset => ?_) g pc₀ rest w hs₀ hw₀ hne x hx
        obtain ⟨g', w', rest', hs', -⟩ := h.setting hset
        rw [hs₀] at hs'
        cases hs'
        cases hw₀
        exact hleave (hiff.mpr rfl)
    adding := by
      intro x hx t ht
      obtain ⟨rfl, hset⟩ := h.adding x hx t ht
      rcases hpc with hpc | ⟨-, hidle⟩
      · rw [hset] at hpc
        cases hpc
      · rw [show s.timers.adders none = .insert x.timer from ht] at hidle
        cases hidle
    timerId := by
      intro x hx hw
      have hw := hold x hx hw
      show noteAwait s.timerId s.actor l x.frame = _
      rw [noteAwait_of_awaits hg hf _ hw]
      exact h.timerId x hx hw
    noted := by
      intro g w hw hid
      rcases (hg.awaits hf _ _).mp hw with hw | ⟨kind, rest, rfl, hs, rfl⟩
      · refine h.noted g w hw ?_
        rwa [← noteAwait_of_awaits hg hf s.timerId hw]
      · simp [noteAwait, hs] at hid
    cancelling := by simp
    arrives := fun x hx hw => h.arrives x hx (hold x hx hw)
    asleep := by
      rintro g w hkind (hw | ⟨rest, hs⟩)
      · exact h.asleep g w hkind (hg.awaiting_cases hw)
      · rcases hg.before hf hs rfl with ⟨kind, -, hpc, -⟩ | ⟨pc₀, hs₀, -, -, rfl, hiff⟩
        · cases hpc
        · rw [hiff.mp rfl] at hs₀
          obtain ⟨g', w', rest', hs', htimer⟩ := h.setting (setTimeout_of_goesOn hl hs₀ hkind)
          rw [hs₀] at hs'
          cases hs'
          exact htimer
    owned := by
      intro x hx hkind hlive
      rcases h.owned x hx hkind hlive with hw | hcancel | hfail
      · exact .inl ((hg.awaits hf _ _).mpr (.inl hw))
      · rcases hpc with hpc | ⟨hpc, -⟩ <;>
        · rw [hcancel] at hpc
          cases hpc
      · exact .inr (.inr (hfail.of_log hg.log)) }

/-- The worker processes a message. -/
lemma processOne (h : Tracked s) {msg : ActorMessage} {a : Actor} {p n : SpinLockQueue ActorMessage}
    (hm : Actor.Matched s.actor) (hpc : s.pc = .run) (hs : s.actor.stack = [])
    (ha : Actor.Processed s.actor msg a) (hids : s.timers.allocated < 2 ^ 64)
    (hn : ∀ m ∈ s.normalMailbox.queue, m = msg ∨ m ∈ n.queue) :
    Tracked { s with actor := a, priorityMailbox := p, normalMailbox := n
                     pc := afterResume s.timerId a.log } := by
  have hallocated : a.allocated = s.actor.allocated := by cases ha <;> assumption
  have hbodies : ∀ b ∈ a.stack, b.pc = .body := by
    cases ha with
    | resumed g w hw hk hstack => simp [hstack]
    | other hfree hstack => exact hstack
  have hlog : ∀ e ∈ s.actor.log, e ∈ a.log := by
    cases ha with
    | resumed g w hw hk hstack hawaiting hlog => simp +contextual [hlog]
    | other hfree hstack hawaiting hlog => simp +contextual [hlog]
  have hold : ∀ {g w}, a.Awaits g w → s.actor.Awaits g w := fun hw => .inl (ha.awaits hw)
  exact { h with
    session := by
      intro x hx
      show _ ≤ a.allocated
      rw [hallocated]
      exact h.session x hx
    setting := fun hset => absurd hset (afterResume_ne_setTimeout _ _)
    unset := fun _ g pc rest w hstack hw => absurd hw (Actor.awaiter_of_bodies hbodies hstack)
    adding := by
      intro x hx t ht
      have hset := (h.adding x hx t ht).2
      rw [hpc] at hset
      cases hset
    timerId := fun x hx hw => h.timerId x hx (hold hw)
    noted := fun g w hw hid => h.noted g w (hold hw) hid
    cancelling := by
      intro id hid x hx hxid
      -- the timer is the one of the call that was resumed
      obtain ⟨g, w, hw, hnot, rfl, h0⟩ := resumed_of_cancelTimer ha hid
      obtain ⟨y, hy, rfl, rfl⟩ := h.noted g w (.inl hw) h0
      rw [h.timerId y hy (.inl hw)] at hxid
      obtain rfl := h.inj x hx y hy (h.kept.id_inj (h.known x hx) (h.known y hy) hxid)
      exact hnot
    arrives := by
      intro x hx hw
      rcases h.arrives x hx (hold hw) with hway | hmail
      · exact .inl hway
      · rcases hn _ hmail with rfl | hmail
        · exact absurd hw (ha.not_awaits hm (isResponse_timeoutMsg _)
            (sessionId_timeoutMsg _).symm)
        · exact .inr hmail
    asleep := by
      rintro g w hkind (hw | ⟨rest, hstack⟩)
      · exact h.asleep g w hkind (.inl (ha.awaits (.inl hw)))
      · exact absurd rfl (Actor.awaiter_of_bodies hbodies hstack)
    owned := by
      intro x hx hkind hlive
      rcases h.owned x hx hkind hlive with hw | hcancel | hfail
      · rcases hw with hw | ⟨pc, rest, hstack, -⟩
        · cases ha with
          | resumed g v hv hk hstack hawaiting hlog =>
            by_cases hg : x.frame = g
            · -- the call is answered
              subst hg
              obtain rfl : v = x.awaiter := by
                rw [hv] at hw
                exact Option.some.inj hw
              have hresult : x.awaiter.result msg = some msg := by
                rw [Awaiter.result]
                split
                · exact absurd ‹_› hkind
                · rfl
                · rfl
              rw [hresult] at hlog
              by_cases hok : msg.error = .ok
              · refine .inr (.inl ?_)
                have hid := h.timerId x hx (.inl hw)
                show afterResume s.timerId a.log = _
                rw [afterResume, hlog, List.getLast?_concat]
                simp only [hok, hid, true_and]
                rw [if_pos (h.timerId_ne_zero hids hx)]
              · refine .inr (.inr ⟨msg, ?_, hok⟩)
                rw [hlog]
                exact List.mem_append_right _ (List.mem_singleton.mpr rfl)
            · refine .inl (.inl ?_)
              rw [hawaiting, Function.update_of_ne hg]
              exact hw
          | other hfree hstack hawaiting => exact .inl (.inl (by rw [hawaiting]; exact hw))
        · rw [hs] at hstack
          cases hstack
      · rw [hpc] at hcancel
        cases hcancel
      · exact .inr (.inr (hfail.of_log hlog)) }

/-- An awaiter sets its timer. -/
lemma setTimeout [DecidableEq Tid] (h : Tracked s) {d : Int} {g : Nat} {w : Awaiter}
    {rest : List Activation} {timers : TimerManager (Option Tid)} (hpc : s.pc = .run)
    (hs : s.actor.stack = ⟨g, .setTimeout w⟩ :: rest)
    (hf : Actor.Frames s.actor.stack s.actor.awaiting s.actor.frames)
    (hm : Actor.Matched s.actor) (hids : timers.allocated < 2 ^ 64)
    (ht : s.timers.next (.setTimeout none s.actorId d w.timeoutMsg) = some timers) :
    Tracked { s with timers, pc := .setTimeout
                     timerId := Function.update s.timerId g s.timers.nextTimerId
                     timeouts := ⟨s.timers.allocated, g, w⟩ :: s.timeouts } := by
  have hstep : TimerManager.Step s.timers (.setTimeout none s.actorId d w.timeoutMsg) timers :=
    .of_next ht
  obtain ⟨hidle, rfl⟩ : s.timers.adders none = .idle ∧
      timers = s.timers.addTimer none s.actorId d w.timeoutMsg 0 := by
    cases hstep with
    | setTimeout _ _ _ _ hidle => exact ⟨hidle, rfl⟩
  have hkept := hstep.kept h.kept trivial (Nat.lt_of_succ_lt hids)
  have hkeeps := hstep.keeps
  have hnone : s.actor.awaiting g = none := (hf.running ⟨g, .setTimeout w⟩ (by simp [hs])).2
  have hunset := h.unset (by simp [hpc]) g _ rest w hs rfl (by simp)
  have hinsert : (s.timers.addTimer none s.actorId d w.timeoutMsg 0).adders none =
      .insert s.timers.allocated := by simp [TimerManager.addTimer]
  -- the timers before are other timers, of other awaits
  have hlt : ∀ x ∈ s.timeouts, x.timer ≠ s.timers.allocated :=
    fun x hx => Nat.ne_of_lt (h.known x hx)
  have hother : ∀ x ∈ s.timeouts, s.actor.Awaits x.frame x.awaiter → x.frame ≠ g := by
    rintro x hx hw rfl
    rw [Actor.awaits_of_top hs, hnone] at hw
    simp only [reduceCtorEq, false_or, true_and, FramePc.awaiter, Option.some.injEq] at hw
    exact hunset x hx hw.symm
  have hentry : ∀ x ∈ s.timeouts,
      ((s.timers.addTimer none s.actorId d w.timeoutMsg 0).entries x.timer) =
        s.timers.entries x.timer := fun x hx => TimerManager.entries_addTimer (h.known x hx)
  exact {
    kept := hkept
    running := h.running
    known := by
      intro x hx
      rcases List.mem_cons.mp hx with rfl | hx
      · exact Nat.lt_succ_self _
      · exact Nat.lt_succ_of_lt (h.known x hx)
    inj := by
      intro x hx y hy he
      rcases List.mem_cons.mp hx with rfl | hx <;> rcases List.mem_cons.mp hy with rfl | hy
      · rfl
      · exact absurd he.symm (hlt y hy)
      · exact absurd he (hlt x hx)
      · exact h.inj x hx y hy he
    message := by
      intro x hx
      rcases List.mem_cons.mp hx with rfl | hx
      · simp [TimerManager.message, TimerManager.addTimer]
      · rw [← h.message x hx]
        exact hkeeps.message _ (h.known x hx)
    once := by
      intro x hx
      rcases List.mem_cons.mp hx with rfl | hx
      · simp [TimerManager.addTimer]
      · rw [hentry x hx]
        exact h.once x hx
    session := by
      intro x hx
      rcases List.mem_cons.mp hx with rfl | hx
      · exact (hm.used w (by rw [hs]; rfl)).2
      · exact h.session x hx
    setting := fun _ => ⟨g, w, rest, hs, _, List.mem_cons_self, rfl, rfl⟩
    unset := fun hne => absurd rfl hne
    adding := by
      intro x hx t hadd
      refine ⟨?_, rfl⟩
      by_contra hne
      have hold : s.timers.adders t = .insert x.timer := by
        simpa [TimerManager.addTimer, hne] using hadd
      rcases List.mem_cons.mp hx with rfl | hx
      · exact Nat.lt_irrefl _ (h.kept.pending t _ hold).1
      · exact hne (h.adding x hx t hold).1
    timerId := by
      intro x hx hw
      rcases List.mem_cons.mp hx with rfl | hx
      · simp [TimerManager.addTimer]
      · rw [hentry x hx, ← h.timerId x hx hw]
        exact Function.update_of_ne (hother x hx hw) _ _
    noted := by
      intro g' w' hw hid
      by_cases hg : g' = g
      · subst hg
        rw [Actor.awaits_of_top hs, hnone] at hw
        simp only [reduceCtorEq, false_or, true_and, FramePc.awaiter, Option.some.injEq] at hw
        exact ⟨_, List.mem_cons_self, rfl, hw⟩
      · simp only [Function.update_of_ne hg] at hid
        obtain ⟨x, hx, hxw⟩ := h.noted g' w' hw hid
        exact ⟨x, List.mem_cons_of_mem _ hx, hxw⟩
    cancelling := by simp
    arrives := by
      intro x hx hw
      rcases List.mem_cons.mp hx with rfl | hx
      · exact .inl (.inl ⟨none, hinsert⟩)
      · exact (h.arrives x hx hw).imp_left fun hway => hway.addTimer (h.known x hx) hidle _ _ _ _
    asleep := by
      intro g' w' hkind hw
      obtain ⟨x, hx, hxw⟩ := h.asleep g' w' hkind hw
      exact ⟨x, List.mem_cons_of_mem _ hx, hxw⟩
    owned := by
      intro x hx hkind hlive
      rcases List.mem_cons.mp hx with rfl | hx
      · exact .inl ((Actor.awaits_of_top hs).mpr (.inr ⟨rfl, rfl⟩))
      · rcases h.owned x hx hkind (hkeeps.live (h.known x hx) hlive) with hw | hcancel | hfail
        · exact .inl hw
        · rw [hpc] at hcancel
          cases hcancel
        · exact .inr (.inr hfail) }

/-- A step of the timer manager, which may send to the actor. -/
lemma of_timers [DecidableEq Tid] (h : Tracked s) {l : TimerManager.Action (Option Tid)}
    {timers : TimerManager (Option Tid)} {p n : SpinLockQueue ActorMessage}
    (ht : TimerManager.Step s.timers l timers) (hint : TimerManager.IntInterval l)
    (hids : s.timers.IdsLeft l) (hstop : l ≠ .stopExchange) (hjoin : l ≠ .join)
    (hcancel : ∀ x ∈ s.timeouts, s.actor.Awaits x.frame x.awaiter →
      l ≠ .cancel (s.timers.entries x.timer).timerId)
    (hn : ∀ m ∈ s.normalMailbox.queue, m ∈ n.queue)
    (hsent : ∀ msg toFire, l = .loop → s.timers.loop = .fire ((s.actorId, msg) :: toFire) →
      msg.priority = false → msg ∈ n.queue) :
    Tracked { s with timers, priorityMailbox := p, normalMailbox := n } := by
  have hkept := ht.kept h.kept hint hids
  have hkeeps := ht.keeps
  have hknown : ∀ x ∈ s.timeouts, x.timer < timers.allocated :=
    fun x hx => Nat.lt_of_lt_of_le (h.known x hx) hkeeps.allocated
  have hid : ∀ x ∈ s.timeouts,
      (timers.entries x.timer).timerId = (s.timers.entries x.timer).timerId := fun x hx => by
    rw [hkept.timerId _ (hknown x hx), h.kept.timerId _ (h.known x hx)]
  exact {
    kept := hkept
    running := (ht.running_eq hstop).trans h.running
    known := hknown
    inj := h.inj
    message := fun x hx => (hkeeps.message _ (h.known x hx)).trans (h.message x hx)
    once := fun x hx => (ht.intervalMs (h.known x hx)).trans (h.once x hx)
    session := h.session
    setting := h.setting
    unset := h.unset
    adding := by
      intro x hx t hadd
      rcases hkeeps.adders t _ hadd with hadd | ⟨he, -⟩
      · exact h.adding x hx t hadd
      · exact absurd he (Nat.ne_of_lt (h.known x hx))
    timerId := fun x hx hw => (h.timerId x hx hw).trans (hid x hx).symm
    noted := h.noted
    cancelling := by
      intro id hpc x hx hxid
      exact h.cancelling id hpc x hx ((hid x hx).symm.trans hxid)
    arrives := by
      intro x hx hw
      rcases h.arrives x hx hw with hway | hmail
      · rcases ht.onTheWay h.kept (h.known x hx) (h.once x hx) (hcancel x hx hw) hjoin hway with
          hway | ⟨hl, toFire, hfire⟩
        · exact .inl hway
        · rw [h.message x hx] at hfire
          exact .inr (hsent _ _ hl hfire (priority_timeoutMsg _))
      · exact .inr (hn _ hmail)
    asleep := h.asleep
    owned := by
      intro x hx hkind hlive
      have howned := h.owned x hx hkind (hkeeps.live (h.known x hx) hlive)
      rwa [← hid x hx] at howned }

/-- Somebody sends to the actor. -/
lemma mailboxes (h : Tracked s) {p n : SpinLockQueue ActorMessage}
    (hn : ∀ m ∈ s.normalMailbox.queue, m ∈ n.queue) :
    Tracked { s with priorityMailbox := p, normalMailbox := n } :=
  { h with arrives := fun x hx hw => (h.arrives x hx hw).imp_right (hn _) }

/-- `CancelTimer` has returned. -/
lemma cancelled (h : Tracked s) {id : TimerId} (hpc : s.pc = .cancelTimer id)
    (hlive : ∀ x ∈ s.timeouts, (s.timers.entries x.timer).timerId = id → ¬ s.timers.Live x.timer) :
    Tracked { s with pc := .run } :=
  { h with
    setting := by simp
    unset := fun _ => h.unset (by simp [hpc])
    adding := by
      intro x hx t hadd
      have hset := (h.adding x hx t hadd).2
      rw [hpc] at hset
      cases hset
    cancelling := by simp
    owned := by
      intro x hx hkind hl
      rcases h.owned x hx hkind hl with hw | hcancel | hfail
      · exact .inl hw
      · rw [hpc] at hcancel
        cases hcancel
        exact absurd hl (hlive x hx rfl)
      · exact .inr (.inr hfail) }

end Tracked

/-! ### All runs -/

section Runs

variable [DecidableEq Tid]

omit [DecidableEq Tid] in
lemma idsLeft_of_lt {timers : TimerManager (Option Tid)} (h : timers.allocated < 2 ^ 64)
    (l : TimerManager.Action (Option Tid)) : timers.IdsLeft l := by
  cases l with
  | setTimeout | setInterval => exact h
  | _ => trivial

lemma Step.allocated_le {l : Action Tid} (h : Step s l s') :
    s.actor.allocated ≤ s'.actor.allocated ∧ s.timers.allocated ≤ s'.timers.allocated := by
  constructor
  · rcases h.next_actor with heq | ⟨l', hl⟩
    · rw [heq]
    · exact (Actor.Step.of_next hl).allocated_le
  · have hkeeps : ∀ {l' timers}, s.timers.next l' = some timers →
        s.timers.allocated ≤ timers.allocated :=
      fun hl => (TimerManager.Step.of_next hl).keeps.allocated
    cases h with
    | setTimeout d g w rest timers hpc hs hd ht => exact hkeeps ht
    | cancelTimer id timers hpc ht => exact hkeeps ht
    | timers l timers hl ht => exact hkeeps ht
    | arrive timers msg ht =>
      obtain ⟨p, n, heq, -⟩ := pushMessage_cases { s with timers } msg
      rw [heq]
      exact hkeeps ht
    | send msg =>
      obtain ⟨p, n, heq, -⟩ := pushMessage_cases s msg
      rw [heq]
    | run | processOne => exact Nat.le_refl _

omit [DecidableEq Tid] in
/-- What the timer thread sends to the actor comes into the mailbox. -/
lemma eq_of_arriving {msg : ActorMessage} (h : s.arriving .loop = some msg) {msg' : ActorMessage}
    {toFire : List (ActorId × ActorMessage)}
    (hfire : s.timers.loop = .fire ((s.actorId, msg') :: toFire)) : msg' = msg := by
  rw [arriving, hfire] at h
  dsimp only at h
  split_ifs at h
  exact Option.some.inj h

omit [DecidableEq Tid] in
lemma arriving_ne_none (hr : s.timers.running = true) {msg : ActorMessage}
    {toFire : List (ActorId × ActorMessage)}
    (hfire : s.timers.loop = .fire ((s.actorId, msg) :: toFire)) : s.arriving .loop ≠ none := by
  rw [arriving, hfire]
  simp [hr]

lemma Step.tracked {l : Action Tid} (hstep : Step s l s') (hok : s.Undisturbed l)
    (hf : Actor.Frames s.actor.stack s.actor.awaiting s.actor.frames)
    (hm : Actor.Matched s.actor) (hlt : s'.actor.allocated < 2 ^ 32)
    (hids : s'.timers.allocated < 2 ^ 64) (h : Tracked s) : Tracked s' := by
  have hids₀ := Nat.lt_of_le_of_lt hstep.allocated_le.2 hids
  cases hstep with
  | run l a hl ha =>
    exact h.run hl (.of_next ha fun msg he => by subst he; cases hl) hf hm hlt
  | processOne msg p n hpc hs hn =>
    exact h.processOne hm hpc hs (Actor.processed_onMessage hm hs msg) hids₀ hn
  | setTimeout d g w rest timers hpc hs hd ht => exact h.setTimeout hpc hs hf hm hids ht
  | cancelTimer id timers hpc ht =>
    have hcancel : TimerManager.Step s.timers (.cancel id) timers := .of_next ht
    refine Tracked.cancelled (s := { s with timers }) (h.of_timers hcancel trivial trivial (by simp)
      (by simp) ?_ (fun m hm => hm) (by simp)) hpc ?_
    · intro x hx hw he
      cases he
      exact h.cancelling _ hpc x hx rfl hw
    · intro x hx hid
      have hkept := hcancel.kept h.kept trivial trivial
      have hknown := h.known x hx
      have hadders : ∀ t, s.timers.adders t ≠ .insert x.timer := by
        intro t ht
        rw [(h.adding x hx t ht).2] at hpc
        cases hpc
      obtain rfl : (s.timers.entries x.timer).timerId = id := by
        rw [← hid, h.kept.timerId _ hknown,
          hkept.timerId _ (Nat.lt_of_lt_of_le hknown hcancel.keeps.allocated)]
      obtain rfl := hcancel.eq_cancelTimer
      exact (h.kept.finished hknown hadders).not_live
  | arrive timers msg ht hmsg =>
    obtain ⟨p, n, heq, hn, hpush⟩ := pushMessage_cases { s with timers } msg
    rw [heq]
    have hloop : TimerManager.Step s.timers .loop timers := .of_next ht
    refine h.of_timers hloop trivial trivial (by simp) (by simp) (by simp) hn ?_
    intro msg' toFire _ hfire hp
    obtain rfl := eq_of_arriving hmsg hfire
    exact hpush hp
  | timers l timers hl ht hmsg =>
    refine h.of_timers (.of_next ht) hok.intInterval (idsLeft_of_lt hids₀ l) hok.running.1
      hok.running.2 ?_ (fun m hm => hm) ?_
    · rintro x hx - rfl
      exact hok x hx rfl
    · rintro msg toFire rfl hfire
      exact absurd hmsg (arriving_ne_none h.running hfire)
  | send msg =>
    obtain ⟨p, n, heq, hn, -⟩ := pushMessage_cases s msg
    rw [heq]
    exact h.mailboxes hn

theorem tracked_of_reach (h : (machine Tid).Reach Undisturbed s)
    (hsessions : s.actor.allocated < 2 ^ 32) (htimers : s.timers.allocated < 2 ^ 64) :
    Tracked s := by
  induction h with
  | start hi =>
    obtain ⟨actorId, time, rfl⟩ := hi
    exact tracked_start actorId time
  | step hr hok hs ih =>
    have hstep := Step.of_next hs
    have hlt := Nat.lt_of_le_of_lt hstep.allocated_le.1 hsessions
    obtain ⟨hf, hm⟩ := Actor.matched_of_reachable (reachable_actor hr) hlt
    exact hstep.tracked hok hf hm hsessions htimers
      (ih hlt (Nat.lt_of_le_of_lt hstep.allocated_le.2 htimers))

/-- Whoever is suspended with a timer is woken by it at the latest. A sleeper has one. The message
of the timer is on its way or in the mailbox, and it is the one that resumes the coroutine, should
nothing else do so before. -/
theorem timeout_arrives (h : (machine Tid).Reach Undisturbed s)
    (hsessions : s.actor.allocated < 2 ^ 32) (htimers : s.timers.allocated < 2 ^ 64) {g : Nat}
    {w : Awaiter} (hw : s.actor.awaiting g = some w) :
    (w.kind = .sleep → s.HasTimer g w) ∧
      (∀ x ∈ s.timeouts, x.frame = g → x.awaiter = w → s.Arrives x) ∧
      (s.actor.stack = [] →
        .resumed g w (w.result w.timeoutMsg) ∈ (s.actor.onMessage w.timeoutMsg).log) := by
  have ht := tracked_of_reach h hsessions htimers
  obtain ⟨-, hm⟩ := Actor.matched_of_reachable (reachable_actor h) hsessions
  refine ⟨fun hkind => ht.asleep g w hkind (.inl hw), ?_, fun hs => ?_⟩
  · rintro x hx rfl rfl
    exact ht.arrives x hx (.inl hw)
  · cases Actor.processed_onMessage hm hs w.timeoutMsg with
    | resumed g' w' hw' hk hstack hawaiting hlog =>
      have hheld := hm.waiting g' w' hw'
      rw [hk, sessionId_timeoutMsg, hm.waiting g w hw] at hheld
      obtain rfl : g = g' := Option.some.inj hheld
      obtain rfl : w = w' := Option.some.inj (hw.symm.trans hw')
      rw [hlog]
      exact List.mem_append_right _ (List.mem_singleton.mpr rfl)
    | other hfree =>
      exact absurd (sessionId_timeoutMsg w).symm (hfree (isResponse_timeoutMsg w) g w hw)

/-- A timer of a call that can still be collected is the timer of a call not yet answered, or it is
about to be cancelled, or the call was answered with an error, which leaves the timer running. -/
theorem live_timer_owned (h : (machine Tid).Reach Undisturbed s)
    (hsessions : s.actor.allocated < 2 ^ 32) (htimers : s.timers.allocated < 2 ^ 64) :
    ∀ x ∈ s.timeouts, x.awaiter.kind ≠ .sleep → s.timers.Live x.timer →
      s.actor.Awaits x.frame x.awaiter ∨
        s.pc = .cancelTimer (s.timers.entries x.timer).timerId ∨ s.Failed x.frame x.awaiter :=
  (tracked_of_reach h hsessions htimers).owned

end Runs

/-- A coroutine is started and goes to sleep for a tenth of a second. -/
def sleepOnce : List (Action Unit) :=
  [.send {}, .processOne, .run (.coAwait .sleep), .run .suspend, .run .suspend, .setTimeout 100,
    .timers (.insert none), .timers (.notify none), .run .suspend, .run .suspend]

theorem timeout_arrives_sleepOnce :
    let s := (machine Unit).replayWith Undisturbed (start Unit 7 1000) sleepOnce
    s.actor.awaiting 0 = some ⟨.sleep, 1⟩ ∧ s.actor.stack = [] ∧
      (s.HasTimer 0 ⟨.sleep, 1⟩ ∧ (∀ x ∈ s.timeouts, x.frame = 0 → x.awaiter = ⟨.sleep, 1⟩ →
        s.Arrives x) ∧ .resumed 0 ⟨.sleep, 1⟩ none ∈ (s.actor.onMessage
          (Awaiter.timeoutMsg ⟨.sleep, 1⟩)).log) := by
  intro s
  have hs : s.actor.stack = [] := by decide +kernel
  have hw : s.actor.awaiting 0 = some ⟨.sleep, 1⟩ := by decide +kernel
  obtain ⟨hsleep, harrives, hresumes⟩ := timeout_arrives
    (Machine.reach_replayWith (reach_start 7 1000) sleepOnce) (by decide +kernel)
    (by decide +kernel) hw
  exact ⟨hw, hs, hsleep rfl, harrives, hresumes hs⟩

/-- A call is answered with an error. -/
def callFails : List (Action Unit) :=
  [.send {}, .processOne, .run (.coAwait .call), .run .suspend, .run .suspend, .setTimeout 100,
    .timers (.insert none), .timers (.notify none), .run .suspend, .run .suspend,
    .send { sessionId := 1, isResponse := true, error := .targetMissing }, .processOne,
    .run .coReturn]

theorem live_timer_owned_callFails :
    let s := (machine Unit).replayWith Undisturbed (start Unit 7 1000) callFails
    ∃ x ∈ s.timeouts, x.awaiter.kind ≠ .sleep ∧ s.timers.Live x.timer ∧
      s.actor.awaiting x.frame = none ∧ (s.actor.Awaits x.frame x.awaiter ∨
        s.pc = .cancelTimer (s.timers.entries x.timer).timerId ∨ s.Failed x.frame x.awaiter) := by
  intro s
  have hx : s.timeouts[0]? = some ⟨0, 0, ⟨.call, 1⟩⟩ := by decide +kernel
  have hmem : ⟨0, 0, ⟨.call, 1⟩⟩ ∈ s.timeouts := List.mem_of_getElem? hx
  have hlive : s.timers.Live 0 := .inr (by decide +kernel)
  exact ⟨_, hmem, by decide, hlive, by decide +kernel,
    live_timer_owned (Machine.reach_replayWith (reach_start 7 1000) callFails) (by decide +kernel)
      (by decide +kernel) _ hmem (by decide) hlive⟩

end TimedActor

end Balabala
