import Balabala.Net.Output

/-!
# What the kernel gets of a connection

The bytes that the kernel has accepted, those in the output buffer and those still in hand are the
messages in the order in which `sendInLoop` was called for them, as long as no `write` fails for
good. The messages of one thread are in the order of its calls, because they go through one queue.
-/

namespace Balabala.Output

open Foundation

variable {Tid : Type*} {s s' : Output Tid}

/-! ### The bytes -/

/-- What is left of a message that is being written directly. -/
def inHand (s : Output Tid) : Bytes :=
  match s.loop with
  | .sendInLoop data offset => data.drop offset
  | _ => []

/-- What the kernel has accepted and what waits are the messages, one after another; a message is
only written directly while nothing waits. -/
structure Streamed (s : Output Tid) : Prop where
  direct : ∀ data offset, s.loop = .sendInLoop data offset → s.outputBuffer.readable = []
  stream : s.failed = false →
    s.accepted ++ s.outputBuffer.readable ++ s.inHand = s.ran.flatMap (·.data)

lemma Streamed.of_idle (hl : s.loop = .idle)
    (h : s.failed = false → s.accepted ++ s.outputBuffer.readable = s.ran.flatMap (·.data)) :
    Streamed s where
  direct data offset hd := by
    rw [hl] at hd
    cases hd
  stream hf := by
    rw [inHand, hl, List.append_nil]
    exact h hf

/-- Nothing is in hand outside `sendInLoop`. -/
lemma Streamed.eq_flatMap (h : Streamed s) (hl : ∀ data offset, s.loop ≠ .sendInLoop data offset)
    (hf : s.failed = false) : s.accepted ++ s.outputBuffer.readable = s.ran.flatMap (·.data) := by
  have hhand : s.inHand = [] := by
    rw [inHand]
    split
    · exact absurd ‹_› (hl _ _)
    · rfl
  have hstream := h.stream hf
  rwa [hhand, List.append_nil] at hstream

/-- The rest of a message goes behind what waits. -/
lemma streamed_appendRest {rest : Bytes} (h : s.failed = false →
    s.accepted ++ s.outputBuffer.readable ++ rest = s.ran.flatMap (·.data)) :
    Streamed (s.appendRest rest) := by
  rw [appendRest]
  split_ifs with hrest
  · refine .of_idle rfl fun hf => ?_
    rw [← h hf, hrest, List.append_nil]
  · refine .of_idle rfl fun hf => ?_
    rw [← h hf]
    show s.accepted ++ (s.outputBuffer.append rest).readable = _
    rw [Buffer.readable_append, ← List.append_assoc]

lemma Streamed.sendInLoop (h : Streamed s) (hl : s.loop = .idle) (m : Sent Tid) :
    Streamed (s.sendInLoop m) := by
  have hstream : s.failed = false →
      s.accepted ++ s.outputBuffer.readable ++ m.data = (s.ran ++ [m]).flatMap (·.data) := by
    intro hf
    rw [h.eq_flatMap (by simp [hl]) hf, List.flatMap_append, List.flatMap_singleton]
  rw [Output.sendInLoop]
  dsimp only
  split_ifs with hd
  · refine ⟨fun data offset _ => Buffer.readable_eq_nil.mpr hd.1, hstream⟩
  · exact streamed_appendRest hstream

lemma Streamed.send (h : Streamed s) (hl : s.loop = .idle) (m : Sent Tid) :
    Streamed (s.send m) := by
  rw [Output.send]
  split_ifs
  · exact h
  · exact h.sendInLoop hl m
  · exact h

lemma streamed_handleWrite
    (h : s.failed = false → s.accepted ++ s.outputBuffer.readable = s.ran.flatMap (·.data)) :
    Streamed s.handleWrite := by
  rw [Output.handleWrite]
  split_ifs
  · exact .of_idle rfl h
  · refine ⟨fun data offset hd => ?_, fun hf => ?_⟩
    · cases hd
    · rw [← h hf]
      exact List.append_nil _

lemma Streamed.writeSent (h : Streamed s) {data : Bytes} {offset : Nat} {r : WriteResult}
    (hl : s.loop = .sendInLoop data offset) (hs : s.writeSent data offset r = some s') :
    Streamed s' := by
  have hempty := h.direct data offset hl
  have hstream : s.failed = false →
      s.accepted ++ s.outputBuffer.readable ++ data.drop offset = s.ran.flatMap (·.data) := by
    intro hf
    rw [← h.stream hf, inHand, hl]
  cases r with
  | wrote n =>
    have hsplit : s.failed = false → s.accepted ++ (data.drop offset).take n ++
        s.outputBuffer.readable ++ data.drop (offset + n) = s.ran.flatMap (·.data) := by
      intro hf
      rw [← hstream hf, hempty, List.append_nil, List.append_nil, List.append_assoc,
        ← List.drop_drop, List.take_append_drop]
    simp only [Output.writeSent] at hs
    split_ifs at hs with hn hmore
    · cases hs
      exact ⟨fun _ _ _ => hempty, hsplit⟩
    · cases hs
      refine .of_idle rfl fun hf => ?_
      rw [← hsplit hf, List.drop_eq_nil_of_le (Nat.not_lt.mp hmore), List.append_nil]
  | eintr => cases hs; exact h
  | eagain | zero => cases hs; exact streamed_appendRest hstream
  | error => cases hs; exact .of_idle rfl (by simp)

lemma Streamed.writeBuffered (h : Streamed s) {r : WriteResult} (hl : s.loop = .handleWrite)
    (hs : s.writeBuffered r = some s') : Streamed s' := by
  have hstream := h.eq_flatMap (by simp [hl])
  cases r with
  | wrote n =>
    simp only [Output.writeBuffered] at hs
    split_ifs at hs with hn
    cases hs
    refine streamed_handleWrite fun hf => ?_
    dsimp only
    rw [Buffer.readable_retrieve, List.append_assoc, List.take_append_drop]
    exact hstream hf
  | eintr => cases hs; exact h
  | eagain | zero => cases hs; exact .of_idle rfl hstream
  | error => cases hs; exact .of_idle rfl (by simp)

section Runs

variable [DecidableEq Tid]

lemma Step.streamed {l : Action Tid} (h : Step s l s') (hs : Streamed s) : Streamed s' := by
  cases h with
  | send t data ht =>
    rw [beginSend]
    split_ifs <;> exact ⟨hs.direct, hs.stream⟩
  | queue t task ht => exact ⟨hs.direct, hs.stream⟩
  | swap hl hb => exact ⟨hs.direct, hs.stream⟩
  | task task q hl hq hf =>
    exact Streamed.send (s := { s with queue := q }) ⟨hs.direct, hs.stream⟩ hl _
  | lost task q hl hq hf => exact ⟨hs.direct, hs.stream⟩
  | sendHere data hl =>
    have hsend := hs.send hl ⟨none, (s.issued none).length, data⟩
    exact ⟨hsend.direct, hsend.stream⟩
  | handleWrite hl hc => exact streamed_handleWrite (hs.eq_flatMap (by simp [hl]))
  | writeSent data offset r _ hl h => exact hs.writeSent hl h
  | writeBuffered r _ hl h => exact hs.writeBuffered hl h
  | connected hl hc | connectFailed hl hc => exact ⟨hs.direct, hs.stream⟩
  | lookup found => exact ⟨hs.direct, hs.stream⟩

theorem streamed_of_reachable (h : (machine Tid).Reachable s) : Streamed s := by
  apply h.invariant
  · rintro s ⟨connecting, events, rfl⟩
    refine .of_idle rfl fun _ => ?_
    exact Buffer.readable_mk' Buffer.kInitialSize
  · intro s l s' _ hs _ hstep
    exact (Step.of_next hstep).streamed hs

end Runs

/-! ### The order of the messages -/

/-- If both are of one thread, then the first was sent first. -/
def InOrder (m m' : Sent Tid) : Prop := m.sender = m'.sender → m.call < m'.call

/-- The messages that were run, and those of the tasks to come. -/
def line (s : Output Tid) : List (Sent Tid) :=
  s.ran ++ (s.queue.batch ++ s.queue.pending).map SendTask.sent

/-- The messages are calls of `Send`, in order, and those of the tasks not yet queued are behind. -/
structure Ordered (s : Output Tid) : Prop where
  order : s.line.Pairwise InOrder
  issued : ∀ m ∈ s.line, (s.issued m.sender)[m.call]? = some m.data
  thread : ∀ t task, s.threads t = some task → task.thread = t
  hand : ∀ t task, s.threads t = some task →
    (s.issued task.sent.sender)[task.sent.call]? = some task.sent.data
  behind : ∀ t task, s.threads t = some task → ∀ m ∈ s.line, InOrder m task.sent

/-- Steps that only write, and so leave the messages alone. -/
structure SameMessages (s s' : Output Tid) : Prop where
  ran : s'.ran = s.ran
  queue : s'.queue = s.queue
  threads : s'.threads = s.threads
  issued : s'.issued = s.issued

lemma SameMessages.refl (s : Output Tid) : SameMessages s s := ⟨rfl, rfl, rfl, rfl⟩

lemma sameMessages_appendRest (rest : Bytes) : SameMessages s (s.appendRest rest) := by
  rw [appendRest]
  split_ifs <;> exact ⟨rfl, rfl, rfl, rfl⟩

lemma sameMessages_handleWrite : SameMessages s s.handleWrite := by
  rw [handleWrite]
  split_ifs <;> exact ⟨rfl, rfl, rfl, rfl⟩

lemma sameMessages_writeSent {data : Bytes} {offset : Nat} {r : WriteResult}
    (h : s.writeSent data offset r = some s') : SameMessages s s' := by
  cases r with
  | wrote n =>
    simp only [writeSent] at h
    split_ifs at h
    all_goals
      cases h
      exact ⟨rfl, rfl, rfl, rfl⟩
  | eintr => cases h; exact .refl s
  | eagain | zero => cases h; exact sameMessages_appendRest _
  | error => cases h; exact ⟨rfl, rfl, rfl, rfl⟩

lemma sameMessages_writeBuffered {r : WriteResult} (h : s.writeBuffered r = some s') :
    SameMessages s s' := by
  cases r with
  | wrote n =>
    simp only [writeBuffered] at h
    split_ifs at h
    cases h
    obtain ⟨hran, hqueue, hthreads, hissued⟩ := sameMessages_handleWrite (s := { s with
      accepted := s.accepted ++ s.outputBuffer.readable.take n
      outputBuffer := s.outputBuffer.retrieve n })
    exact ⟨hran, hqueue, hthreads, hissued⟩
  | eintr => cases h; exact .refl s
  | eagain | zero | error => cases h; exact ⟨rfl, rfl, rfl, rfl⟩

/-- `Send` in the loop thread refuses a message or runs it at once. -/
lemma send_cases (s : Output Tid) (m : Sent Tid) : SameMessages s (s.send m) ∨
    SameMessages { s with ran := s.ran ++ [m] } (s.send m) := by
  rw [send]
  split_ifs
  · exact .inl (.refl s)
  · right
    rw [sendInLoop]
    dsimp only
    split_ifs
    · exact ⟨rfl, rfl, rfl, rfl⟩
    · exact sameMessages_appendRest _
  · exact .inl (.refl s)

lemma Ordered.of_sublist (h : Ordered s) (hl : s'.line.Sublist s.line) (ht : s'.threads = s.threads)
    (hi : s'.issued = s.issued) : Ordered s' where
  order := h.order.sublist hl
  issued m hm := by
    rw [hi]
    exact h.issued m (hl.subset hm)
  thread t task htask := h.thread t task (ht ▸ htask)
  hand t task htask := by
    rw [hi]
    exact h.hand t task (ht ▸ htask)
  behind t task htask m hm := h.behind t task (ht ▸ htask) m (hl.subset hm)

lemma SameMessages.ordered (h : SameMessages s s') (hs : Ordered s) : Ordered s' := by
  refine hs.of_sublist ?_ h.threads h.issued
  rw [line, h.ran, h.queue]
  exact List.Sublist.refl _

/-- A message of a thread is one of its calls so far. -/
lemma Ordered.call_lt (h : Ordered s) {m : Sent Tid} (hm : m ∈ s.line) :
    m.call < (s.issued m.sender).length := by
  obtain ⟨hlt, -⟩ := List.getElem?_eq_some_iff.mp (h.issued m hm)
  exact hlt

variable [DecidableEq Tid]

lemma issued_issue {x sender : Option Tid} {data d : Bytes} {i : Nat}
    (h : (s.issued x)[i]? = some d) : ((s.issue sender data).issued x)[i]? = some d := by
  by_cases hx : x = sender
  · subst hx
    obtain ⟨hlt, -⟩ := List.getElem?_eq_some_iff.mp h
    simpa [issue, List.getElem?_append_left hlt] using h
  · simpa [issue, Function.update_of_ne hx] using h

/-- The call just made. -/
lemma issued_issue_self (sender : Option Tid) (data : Bytes) :
    ((s.issue sender data).issued sender)[(s.issued sender).length]? = some data := by
  simp [issue]

lemma Ordered.issue (h : Ordered s) (sender : Option Tid) (data : Bytes) :
    Ordered (s.issue sender data) where
  order := h.order
  issued m hm := issued_issue (h.issued m hm)
  thread := h.thread
  hand t task ht := issued_issue (h.hand t task ht)
  behind := h.behind

/-- The message of a call of `Send` that the loop thread makes now. -/
def callHere (s : Output Tid) (data : Bytes) : Sent Tid := ⟨none, (s.issued none).length, data⟩

/-- A message that the loop thread runs at once goes between those run before and the tasks. -/
lemma Ordered.runHere (h : Ordered s) (data : Bytes) :
    Ordered ({ s with ran := s.ran ++ [s.callHere data] }.issue none data) := by
  have hmid : ∀ task : SendTask Tid, InOrder (s.callHere data) task.sent := by
    rintro task ⟨⟩
  have hran : ∀ m ∈ s.ran, InOrder m (s.callHere data) := by
    intro m hm hsender
    have hlt := h.call_lt (List.mem_append_left _ hm)
    rw [hsender] at hlt
    exact hlt
  have hline : ∀ m, m ∈ Output.line ({ s with ran := s.ran ++ [s.callHere data] }.issue none data) →
      m ∈ s.line ∨ m = s.callHere data := by
    intro m hm
    simp only [line, Output.issue, List.mem_append, List.mem_singleton] at hm ⊢
    tauto
  refine ⟨?_, ?_, h.thread, fun t task ht => issued_issue (h.hand t task ht), ?_⟩
  · obtain ⟨hold, htasks, hcross⟩ := List.pairwise_append.mp h.order
    refine List.pairwise_append.mpr ⟨List.pairwise_append.mpr
      ⟨hold, List.pairwise_singleton _ _, ?_⟩, htasks, ?_⟩
    · intro m hm m' hm'
      rw [List.mem_singleton.mp hm']
      exact hran m hm
    · intro m hm m' hm'
      rcases List.mem_append.mp hm with hm | hm
      · exact hcross m hm m' hm'
      · obtain ⟨task, -, rfl⟩ := List.mem_map.mp hm'
        rw [List.mem_singleton.mp hm]
        exact hmid task
  · intro m hm
    rcases hline m hm with hm | rfl
    · exact issued_issue (h.issued m hm)
    · exact issued_issue_self none data
  · intro t task ht m hm
    rcases hline m hm with hm | rfl
    · exact h.behind t task ht m hm
    · exact hmid task

/-- Entering `Send` in another thread. -/
lemma Ordered.beginSend (h : Ordered s) (t : Tid) (data : Bytes) :
    Ordered ((s.beginSend t data).issue (some t) data) := by
  rw [Output.beginSend]
  split_ifs
  · exact h.issue _ _
  · have hcall := h.issue (some t) data
    refine ⟨hcall.order, hcall.issued, ?_, ?_, ?_⟩
    · intro u task hu
      by_cases hut : u = t
      · subst hut
        obtain rfl : _ = task := by simpa [Output.issue, setThread] using hu
        rfl
      · exact h.thread u task (by simpa [Output.issue, setThread, hut] using hu)
    · intro u task hu
      by_cases hut : u = t
      · subst hut
        obtain rfl : _ = task := by simpa [Output.issue, setThread] using hu
        rw [SendTask.sent, SendData.bytes_copy]
        exact issued_issue_self (some u) data
      · exact hcall.hand u task (by simpa [Output.issue, setThread, hut] using hu)
    · intro u task hu m hm
      by_cases hut : u = t
      · subst hut
        obtain rfl : _ = task := by simpa [Output.issue, setThread] using hu
        intro hsender
        have hlt := h.call_lt hm
        rw [hsender] at hlt
        exact hlt
      · exact h.behind u task (by simpa [Output.issue, setThread, hut] using hu) m hm
  · exact h.issue _ _

/-- The task of a thread goes to the end. -/
lemma Ordered.queue (h : Ordered s) {t : Tid} {task : SendTask Tid} (ht : s.threads t = some task) :
    Ordered ({ s with queue := s.queue.push task }.setThread t none) := by
  have hline : Output.line ({ s with queue := s.queue.push task }.setThread t none) =
      s.line ++ [task.sent] := by
    simp [line, setThread]
  have hother : ∀ u task',
      (Output.setThread { s with queue := s.queue.push task } t none).threads u = some task' →
        u ≠ t ∧ s.threads u = some task' := by
    intro u task' hu
    by_cases hut : u = t
    · simp [hut, setThread] at hu
    · exact ⟨hut, by simpa [setThread, hut] using hu⟩
  refine ⟨?_, ?_, ?_, ?_, ?_⟩
  · rw [hline, List.pairwise_append]
    refine ⟨h.order, List.pairwise_singleton _ _, fun m hm m' hm' => ?_⟩
    rw [List.mem_singleton.mp hm']
    exact h.behind t task ht m hm
  · intro m hm
    rw [hline, List.mem_append, List.mem_singleton] at hm
    rcases hm with hm | rfl
    · exact h.issued m hm
    · exact h.hand t task ht
  · intro u task' hu
    exact h.thread u task' (hother u task' hu).2
  · intro u task' hu
    exact h.hand u task' (hother u task' hu).2
  · intro u task' hu m hm
    obtain ⟨hut, hu⟩ := hother u task' hu
    rw [hline, List.mem_append, List.mem_singleton] at hm
    rcases hm with hm | rfl
    · exact h.behind u task' hu m hm
    · intro hsender
      have hsame : task.thread = task'.thread := Option.some.inj hsender
      rw [h.thread t task ht, h.thread u task' hu] at hsame
      exact absurd hsame.symm hut

lemma Step.ordered {l : Action Tid} (h : Step s l s') (hs : Ordered s) : Ordered s' := by
  cases h with
  | send t data ht => exact hs.beginSend t data
  | queue t task ht => exact hs.queue ht
  | swap hl hb =>
    refine hs.of_sublist ?_ rfl rfl
    simp [line]
  | task task q hl hq hf =>
    obtain ⟨hbatch, hpending, -, -⟩ := BatchQueue.begin_eq_some hq
    rcases send_cases { s with queue := q } task.sent with hsame | hsame
    · refine hsame.ordered (hs.of_sublist ?_ rfl rfl)
      simp [line, hbatch, hpending]
    · refine hsame.ordered (hs.of_sublist ?_ rfl rfl)
      simp [line, hbatch, hpending]
  | lost task q hl hq hf =>
    obtain ⟨hbatch, hpending, -, -⟩ := BatchQueue.begin_eq_some hq
    refine hs.of_sublist ?_ rfl rfl
    simp [line, hbatch, hpending]
  | sendHere data hl =>
    rcases send_cases s (s.callHere data) with hsame | hsame
    · exact (hsame.ordered hs).issue none data
    · have hissue : SameMessages ({ s with ran := s.ran ++ [s.callHere data] }.issue none data)
          ((s.send (s.callHere data)).issue none data) :=
        ⟨hsame.ran, hsame.queue, hsame.threads, by simp [issue, hsame.issued]⟩
      exact hissue.ordered (hs.runHere data)
  | handleWrite hl hc => exact sameMessages_handleWrite.ordered hs
  | writeSent data offset r _ hl h => exact (sameMessages_writeSent h).ordered hs
  | writeBuffered r _ hl h => exact (sameMessages_writeBuffered h).ordered hs
  | connected hl hc | connectFailed hl hc | lookup found =>
    exact hs.of_sublist (List.Sublist.refl _) rfl rfl

theorem ordered_of_reachable (h : (machine Tid).Reachable s) : Ordered s := by
  apply h.invariant
  · rintro s ⟨connecting, events, rfl⟩
    exact ⟨List.Pairwise.nil, by simp [line, start], by simp [start], by simp [start],
      by simp [start]⟩
  · intro s l s' _ hs _ hstep
    exact (Step.of_next hstep).ordered hs

/-! ### What arrives -/

/-- The kernel has accepted, and the buffer holds, the messages for which `sendInLoop` was called,
one after another up to what is still in hand of the last; and these are calls of `Send`, each at
most once, those of one thread in the order in which it made them. -/
structure Intact (s : Output Tid) : Prop where
  stream : s.failed = false →
    s.accepted ++ s.outputBuffer.readable ++ s.inHand = s.ran.flatMap (·.data)
  issued : ∀ m ∈ s.ran, (s.issued m.sender)[m.call]? = some m.data
  order : s.ran.Pairwise InOrder

/-- Until a `write` fails for good, the connection carries the messages intact. -/
theorem intact_of_reachable (h : (machine Tid).Reachable s) : Intact s := by
  have hs := ordered_of_reachable h
  exact ⟨(streamed_of_reachable h).stream, fun m hm => hs.issued m (List.mem_append_left _ hm),
    (List.pairwise_append.mp hs.order).1⟩

/-- A message of the loop thread and one of thread `true`, of which a byte is left for the
buffer. -/
def partialWrite : List (Action Bool) :=
  [.lookup true, .send true [2, 3, 4], .queue true, .sendHere [1], .write (.wrote 1), .swap, .task,
    .write (.wrote 2), .write .eintr, .write .eagain]

/-- The bytes are in order in the middle of the transfer. -/
theorem intact_partialWrite :
    let s := (machine Bool).replay (start Bool false .r) partialWrite
    s.accepted = [1, 2, 3] ∧ s.ran.flatMap (·.data) = [1, 2, 3, 4] ∧ Intact s := by
  intro s
  exact ⟨by decide, by decide,
    intact_of_reachable (Machine.reachable_replay (reachable_start false .r) partialWrite)⟩

end Balabala.Output
