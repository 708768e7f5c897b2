import Balabala.Callback.Connection

/-!
# What becomes of the messages in the queue

`HandleWrite` asks for `EPOLLIN` only after it has seen the queue empty, and a `Send` in between has
asked for `EPOLLOUT` too early: its message stays in the queue until the next `Send`.

What `HandleWrite` has taken it writes or puts in the cache, except after a `write` of 0 bytes,
which drops the rest of the message.
-/

namespace Balabala.ConnectionBase

open Foundation

variable {Tid : Type*} {s s' : ConnectionBase Tid}

/-! ### Messages that nobody waits to write -/

/-- When no call is under way, what waits to be written has `epoll` wait for `EPOLLOUT`. -/
def Armed (s : ConnectionBase Tid) : Prop :=
  (∀ t, s.senders t = .idle) → s.loop = .idle → s.failed = false →
    s.sendMQ.queue ≠ [] ∨ s.lastMsgCache ≠ [] → s.events = .rw

/-- `HandleWrite` does not ask for `EPOLLIN` only while there is a message in the queue, unless a
`Send` is yet to ask for `EPOLLOUT`. -/
def KeepsInterest (s : ConnectionBase Tid) (a : Action Tid) : Prop :=
  a = .loop → s.loop = .modifyR → s.failed = false → s.sendMQ.queue ≠ [] →
    ∃ t, s.senders t = .modifyEvent

/-- Outside `HandleWrite` what waits to be written is known to `epoll` or to a `Send`. -/
structure Watched (s : ConnectionBase Tid) : Prop where
  cache : s.CacheTaken
  armed : s.loop = .idle → s.failed = false → s.sendMQ.queue ≠ [] ∨ s.lastMsgCache ≠ [] →
    s.events = .rw ∨ ∃ t, s.senders t = .modifyEvent

lemma Watched.isArmed (h : s.Watched) : s.Armed := by
  intro hsenders hidle hfailed hmore
  rcases h.armed hidle hfailed hmore with hrw | ⟨t, ht⟩
  · exact hrw
  · rw [hsenders t] at ht
    cases ht

lemma writeFrom_ne_idle (strMsg : Bytes) (offset : Nat) :
    HandleWritePc.writeFrom strMsg offset ≠ .idle := by
  rw [HandleWritePc.writeFrom]
  split_ifs
  · rintro ⟨⟩
  · rintro ⟨⟩

lemma watched_start (socket : Int) (events : Interest) : (start Tid socket events).Watched where
  cache := cacheTaken_start socket events
  armed := by
    rintro - - (hqueue | hcache)
    · exact absurd rfl hqueue
    · exact absurd rfl hcache

variable [DecidableEq Tid] {a : Action Tid}

lemma Watched.next (h : s.Watched) (hok : s.KeepsInterest a)
    (hs : (machine Tid).next s a = some s') : s'.Watched := by
  refine ⟨h.cache.next hs, ?_⟩
  cases Step.of_next hs with
  | refuse | eintr => exact h.armed
  | push t => exact fun _ _ _ => .inr ⟨t, Function.update_self ..⟩
  | finishSend | modifyRW => exact fun _ _ _ => .inl rfl
  | handleWrite | again | drained | popNone | eagain | zero => rintro ⟨⟩
  | takeCache | pop | wrote => exact fun hidle => absurd hidle (writeFrom_ne_idle _ _)
  | modifyR hpc =>
    rintro - hfailed (hqueue | hcache)
    · exact .inr (hok rfl hpc hfailed hqueue)
    · exact absurd (h.cache (by rw [hpc]; rfl)) hcache
  | error => rintro - ⟨⟩

/-- Asking for `EPOLLIN` only leaves a message behind at once. -/
lemma Armed.keepsInterest (hs : (machine Tid).next s a = some s') (h : s'.Armed) :
    s.KeepsInterest a := by
  rintro rfl hpc hfailed hqueue
  by_contra hnone
  have hsenders : ∀ t, s.senders t = .idle := by
    intro t
    cases ht : s.senders t with
    | idle => rfl
    | modifyEvent => exact absurd ⟨t, ht⟩ hnone
  have hs : s.loopNext = some s' := hs
  rw [loopNext, hpc] at hs
  obtain rfl := Option.some.inj hs
  cases h hsenders rfl hfailed (.inl hqueue)

/-- In a run no message is stuck exactly when `HandleWrite` never asks for `EPOLLIN` only while
there is a message in the queue whose `Send` is done. -/
theorem armed_iff_keepsInterest (socket : Int) (events : Interest) (as : List (Action Tid)) :
    (machine Tid).Always Armed (start Tid socket events) as ↔
      (machine Tid).Admits KeepsInterest (start Tid socket events) as := by
  refine Machine.always_iff_admits (I := Watched) ?_ ?_ ?_ (watched_start socket events)
    (watched_start socket events).isArmed as
  · rintro s a hs rfl hpc
    have hs : s.loopNext = none := hs
    rw [loopNext, hpc] at hs
    cases hs
  · intro s a s' h hok hs
    exact h.next hok hs
  · intro s a s' h _ hs
    exact ⟨fun harmed => harmed.keepsInterest hs, fun hok => (h.next hok hs).isArmed⟩

/-- The second message is pushed when `HandleWrite` has seen the queue empty and is about to ask for
`EPOLLIN` only. -/
def sendBehindTest : List (Action Unit) :=
  [.send () [1], .modifyEvent (), .handleWrite, .loop, .loop, .write (.wrote 1), .loop,
    .send () [2], .modifyEvent (), .loop]

theorem not_armed_of_sendBehindTest :
    ¬ (machine Unit).Always Armed (start Unit 3 .rw) sendBehindTest := by
  intro h
  have harmed := h sendBehindTest _ (List.prefix_refl _) rfl
  have hrw := harmed (by rintro ⟨⟩; rfl) rfl rfl (.inl (by decide))
  cases hrw

/-! ### Bytes that are written or kept -/

/-- The bytes taken from the queue that are written or kept. -/
def handled (s : ConnectionBase Tid) : Bytes := s.written ++ s.loop.unsent ++ s.lastMsgCache

/-- Of what was taken from the queue everything is written or kept. -/
def Balanced (s : ConnectionBase Tid) : Prop := s.handled = s.sendMQ.popped.flatten

/-- Of what was taken from the queue something is neither written nor kept. -/
def Deficit (s : ConnectionBase Tid) : Prop :=
  s.handled.length < s.sendMQ.popped.flatten.length

/-- The `write` does not return 0. -/
def WritesSome (_ : ConnectionBase Tid) (a : Action Tid) : Prop := a ≠ .write .zero

/-- The `write` does not fail for good. -/
def NoError (_ : ConnectionBase Tid) (a : Action Tid) : Prop := a ≠ .write .error

omit [DecidableEq Tid] in
lemma Deficit.not_balanced (h : s.Deficit) : ¬ s.Balanced := by
  intro hb
  rw [Deficit, hb] at h
  exact Nat.lt_irrefl _ h

omit [DecidableEq Tid] in
lemma handled_idle (hpc : s.loop = .idle) : s.handled = s.written ++ s.lastMsgCache := by
  simp [handled, hpc, HandleWritePc.unsent]

omit [DecidableEq Tid] in
lemma handled_write {strMsg : Bytes} {offset : Fin strMsg.length} (hc : s.CacheTaken)
    (hpc : s.loop = .write strMsg offset) : s.handled = s.written ++ strMsg.drop offset := by
  rw [handled, hc (by rw [hpc]; rfl), hpc, HandleWritePc.unsent, List.append_nil]

/-- What a step takes from the queue is written or kept as well, behind what was before. -/
lemma handled_next (hc : s.CacheTaken) (hs : (machine Tid).next s a = some s')
    (hzero : WritesSome s a) (herror : NoError s a) :
    ∃ msgs, s'.sendMQ.popped = s.sendMQ.popped ++ msgs ∧
      s'.handled = s.handled ++ msgs.flatten := by
  have hsame : s'.sendMQ.popped = s.sendMQ.popped → s'.handled = s.handled →
      ∃ msgs, s'.sendMQ.popped = s.sendMQ.popped ++ msgs ∧
        s'.handled = s.handled ++ msgs.flatten :=
    fun hp hh => ⟨[], by simp [hp], by simp [hh]⟩
  cases Step.of_next hs with
  | refuse | push | finishSend | eintr => exact hsame rfl rfl
  | handleWrite hpc | again hpc | drained hpc | popNone hpc | modifyRW hpc | modifyR hpc =>
    exact hsame rfl (by simp [handled, setLoop, modifyEvent, hpc, HandleWritePc.unsent])
  | takeCache hpc =>
    refine hsame rfl ?_
    simp only [handled, unsent_writeFrom]
    simp [hpc, HandleWritePc.unsent]
  | pop hpc hcache msg q hq =>
    obtain ⟨-, -, hpopped⟩ := SpinLockQueue.pop_eq_some hq
    refine ⟨[msg], hpopped, ?_⟩
    simp only [handled, unsent_writeFrom]
    simp [hpc, hcache, HandleWritePc.unsent]
  | wrote strMsg offset hpc n =>
    refine hsame rfl ?_
    have hcache : s.lastMsgCache = [] := hc (by rw [hpc]; rfl)
    rw [handled_write hc hpc]
    simp [handled, unsent_writeFrom, hcache, ← List.drop_drop]
  | eagain strMsg offset hpc =>
    refine hsame rfl ?_
    rw [handled_write hc hpc]
    simp [handled, HandleWritePc.unsent]
  | error => exact absurd rfl herror
  | zero => exact absurd rfl hzero

/-- A `write` of 0 bytes and one that fails lose the rest of the message. -/
lemma handled_next_lt (hc : s.CacheTaken) (hs : (machine Tid).next s a = some s')
    (hlost : a = .write .zero ∨ a = .write .error) :
    s'.sendMQ.popped = s.sendMQ.popped ∧ s'.handled.length < s.handled.length := by
  have hshorter : ∀ (strMsg : Bytes) (offset : Fin strMsg.length), s.loop = .write strMsg offset →
      (s.written ++ [] ++ s.lastMsgCache).length < s.handled.length := by
    intro strMsg offset hpc
    have hcache : s.lastMsgCache = [] := hc (by rw [hpc]; rfl)
    have hoffset := offset.isLt
    rw [handled_write hc hpc, hcache]
    simp only [List.append_nil, List.length_append, List.length_drop]
    omega
  rcases hlost with rfl | rfl
  · cases Step.of_next hs with
    | zero strMsg offset hpc => exact ⟨rfl, hshorter strMsg offset hpc⟩
  · cases Step.of_next hs with
    | error strMsg offset hpc => exact ⟨rfl, hshorter strMsg offset hpc⟩

lemma Balanced.next (hb : s.Balanced) (hc : s.CacheTaken)
    (hs : (machine Tid).next s a = some s') (hok : WritesSome s a ∧ NoError s a) :
    s'.Balanced := by
  obtain ⟨msgs, hpopped, hhandled⟩ := handled_next hc hs hok.1 hok.2
  rw [Balanced, hpopped, hhandled, hb, List.flatten_append]

lemma Balanced.deficit_next (hb : s.Balanced) (hc : s.CacheTaken)
    (hs : (machine Tid).next s a = some s') (hlost : a = .write .zero ∨ a = .write .error) :
    s'.Deficit := by
  obtain ⟨hpopped, hlt⟩ := handled_next_lt hc hs hlost
  rw [Deficit, hpopped, ← hb]
  exact hlt

lemma Deficit.next (hd : s.Deficit) (hc : s.CacheTaken)
    (hs : (machine Tid).next s a = some s') : s'.Deficit := by
  unfold Deficit at hd ⊢
  by_cases hlost : a = .write .zero ∨ a = .write .error
  · obtain ⟨hpopped, hlt⟩ := handled_next_lt hc hs hlost
    rw [hpopped]
    exact Nat.lt_trans hlt hd
  · rw [not_or] at hlost
    obtain ⟨msgs, hpopped, hhandled⟩ := handled_next hc hs hlost.1 hlost.2
    rw [hpopped, hhandled, List.flatten_append, List.length_append, List.length_append]
    omega

lemma failed_next (h : s.failed = true) (hs : (machine Tid).next s a = some s') :
    s'.failed = true := by
  cases Step.of_next hs with
  | error => rfl
  | _ => exact h

/-- The run has not failed exactly when no `write` has. -/
lemma failed_eq_false_iff {as : List (Action Tid)} (h : s.failed = false)
    (hr : (machine Tid).run s as = some s') :
    s'.failed = false ↔ (machine Tid).Admits NoError s as := by
  refine Machine.run_iff_admits (I := fun _ => True) (P := fun s => s.failed = false)
    (D := fun s => s.failed = true) ?_ ?_ ?_ ?_ ?_ trivial h hr
  · exact fun _ _ _ _ _ => trivial
  · intro s a s' _ h hok hs
    cases Step.of_next hs with
    | error => exact absurd rfl hok
    | _ => exact h
  · intro s a s' _ _ herror hs
    rw [NoError, not_not] at herror
    subst herror
    cases Step.of_next hs with
    | error => rfl
  · intro s a s' _ h hs
    exact failed_next h hs
  · intro s h
    simp [h]

lemma balanced_iff {as : List (Action Tid)} {socket : Int} {events : Interest}
    (hr : (machine Tid).run (start Tid socket events) as = some s) :
    s.Balanced ↔ (machine Tid).Admits (fun s a => WritesSome s a ∧ NoError s a)
      (start Tid socket events) as := by
  refine Machine.run_iff_admits (I := CacheTaken) (D := Deficit) ?_ ?_ ?_ ?_ ?_
    (cacheTaken_start socket events) rfl hr
  · exact fun s a s' hc hs => hc.next hs
  · exact fun s a s' hc hb hok hs => hb.next hc hs hok
  · intro s a s' hc hb hlost hs
    rw [WritesSome, NoError, not_and_or, not_not, not_not] at hlost
    exact hb.deficit_next hc hs hlost
  · exact fun s a s' hc hd hs => hd.next hc hs
  · exact fun s hd => hd.not_balanced

/-- After a `HandleWrite`, in a run without a failed `write`, what was written, the cache and the
queue are the messages that were sent exactly when no `write` has returned 0. -/
theorem conserved_iff_writesSome {as : List (Action Tid)} {socket : Int} {events : Interest}
    (hr : (machine Tid).run (start Tid socket events) as = some s) (hidle : s.loop = .idle)
    (hfailed : s.failed = false) :
    s.written ++ s.lastMsgCache ++ s.sendMQ.queue.flatten = s.sendMQ.pushed.flatten ↔
      (machine Tid).Admits WritesSome (start Tid socket events) as := by
  have hbalanced : s.written ++ s.lastMsgCache ++ s.sendMQ.queue.flatten =
      s.sendMQ.pushed.flatten ↔ s.Balanced := by
    rw [s.sendMQ.conserved, List.flatten_append, List.append_left_inj, Balanced,
      handled_idle hidle]
  rw [hbalanced, balanced_iff hr, Machine.admits_and]
  exact and_iff_left ((failed_eq_false_iff rfl hr).mp hfailed)

/-- The first `write` takes one byte of three, and the second none for now. -/
def partialWrite : List (Action Unit) :=
  [.send () [1, 2, 3], .modifyEvent (), .handleWrite, .loop, .loop, .write (.wrote 1),
    .write .eagain, .loop]

theorem conserved_iff_partialWrite :
    ([1] ++ [2, 3] ++ [] : Bytes) = [[1, 2, 3]].flatten ↔
      (machine Unit).Admits WritesSome (start Unit 3 .rw) partialWrite := by
  have hr : (machine Unit).run (start Unit 3 .rw) partialWrite = some _ := rfl
  exact conserved_iff_writesSome hr rfl rfl

/-- The first `write` takes one byte of two, and the second returns 0. -/
def zeroWrite : List (Action Unit) :=
  [.send () [1, 2], .modifyEvent (), .handleWrite, .loop, .loop, .write (.wrote 1),
    .write .zero, .loop, .loop]

/-- The second byte is lost. -/
theorem byte_lost_at_zeroWrite : ∃ s, (machine Unit).run (start Unit 3 .rw) zeroWrite = some s ∧
    s.loop = .idle ∧ s.failed = false ∧
    s.written ++ s.lastMsgCache ++ s.sendMQ.queue.flatten ≠ s.sendMQ.pushed.flatten :=
  ⟨(machine Unit).replay (start Unit 3 .rw) zeroWrite, rfl, rfl, rfl, by decide⟩

end Balabala.ConnectionBase
