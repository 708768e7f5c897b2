import Balabala.Server.Returns

/-!
# The bytes the clients get back

A message that is sent on a connection is written at once, as far as the kernel takes it, unless
something waits in the output buffer already; what is not written waits there for `HandleWrite`.
-/

namespace Balabala.TcpServer

open Foundation

variable {s s' : TcpServer} {a : Action} {c : ConnId}

/-- What was sent on a connection was written or waits in its buffer, until a `write` fails. -/
def Kept (s : TcpServer) : Prop :=
  ∀ c, s.writeFailed c = false →
    ((s.ran c).map Prod.snd).flatten = s.written c ++ s.outputBuffer c

structure SameBytes (s s' : TcpServer) : Prop where
  ran : s'.ran = s.ran
  written : s'.written = s.written
  outputBuffer : s'.outputBuffer = s.outputBuffer
  writeFailed : s'.writeFailed = s.writeFailed

lemma SameBytes.refl (s : TcpServer) : SameBytes s s := ⟨rfl, rfl, rfl, rfl⟩

lemma SameBytes.setLoop (h : SameBytes s s') (l : LoopId) (pc : LoopPc) :
    SameBytes s (s'.setLoop l pc) := ⟨h.1, h.2, h.3, h.4⟩

lemma SameBytes.release (h : SameBytes s s') (c : ConnId) : SameBytes s (s'.release c) := by
  rw [TcpServer.release]
  split_ifs <;> exact ⟨h.1, h.2, h.3, h.4⟩

lemma SameBytes.addEvent (h : SameBytes s s') (l : LoopId) (c : ConnId) (fd : Fd) :
    SameBytes s (s'.addEvent l c fd) := by
  rw [TcpServer.addEvent]
  split_ifs <;> exact ⟨h.1, h.2, h.3, h.4⟩

lemma SameBytes.afterRead (h : SameBytes s s') (l : LoopId) (c : ConnId) (out : Bool) :
    SameBytes s (s'.afterRead l c out) := by
  rw [TcpServer.afterRead]
  split_ifs
  · exact h.setLoop l _
  · exact (h.setLoop l _).release c

/-- Only steps that call `write` move bytes. -/
lemma sameBytes_next (hs : machine.next s a = some s') (ha : ∀ l rs, a ≠ .write l rs) :
    SameBytes s s' := by
  cases Step.of_next hs with
  | handleWrite l c rs | runSend l _ _ _ _ rs => exact absurd rfl (ha l rs)
  | finishAccept l c hl =>
    rw [finishAccept]
    split_ifs
    · exact (((SameBytes.refl s).addEvent l c _).setLoop l _).release c
    · exact (((SameBytes.refl s).addEvent l c _).setLoop l _).release c
    · apply SameBytes.release
      exact ⟨rfl, rfl, rfl, rfl⟩
  | taskAddEvent l c fd =>
    apply SameBytes.addEvent
    exact ⟨rfl, rfl, rfl, rfl⟩
  | taskRemove l c fd =>
    rw [removeConnection]
    split
    · exact ⟨rfl, rfl, rfl, rfl⟩
    · apply SameBytes.release
      exact ⟨rfl, rfl, rfl, rfl⟩
  | recv l c out result hl hv =>
    cases result with
    | data bytes | eof => exact ⟨rfl, rfl, rfl, rfl⟩
    | eintr => exact .refl s
    | eagain | error => exact (SameBytes.refl s).afterRead l c out
  | send l c out msg actorId hl =>
    rw [TcpServer.send]
    split_ifs <;> exact ⟨rfl, rfl, rfl, rfl⟩
  | sendConnected l c hl =>
    rw [sendConnected, send_eq]
    exact ⟨rfl, rfl, rfl, rfl⟩
  | requestRemoval l c out hl =>
    apply SameBytes.afterRead
    exact ⟨rfl, rfl, rfl, rfl⟩
  | release c hw =>
    apply SameBytes.release
    exact ⟨rfl, rfl, rfl, rfl⟩
  | _ => exact ⟨rfl, rfl, rfl, rfl⟩

lemma Kept.congr (h : Kept s) (hsame : SameBytes s s') : Kept s' := by
  rw [Kept, hsame.ran, hsame.written, hsame.outputBuffer, hsame.writeFailed]
  exact h

lemma sameBytes_modifyEvent (s : TcpServer) (l : LoopId) (fd : Fd) (events : Interest) :
    SameBytes s (s.modifyEventKeepCallback l fd events) := by
  rw [modifyEventKeepCallback]
  split_ifs <;> exact ⟨rfl, rfl, rfl, rfl⟩

lemma Kept.failWrite (h : Kept s) (c : ConnId) : Kept (s.failWrite c) := by
  intro d hd
  have hdc : d ≠ c := by
    rintro rfl
    simp [TcpServer.failWrite] at hd
  exact h d ((Function.update_of_ne hdc _ _).symm.trans hd)

/-- Some of the bytes in the buffer are written. -/
lemma Kept.handleWrite (h : Kept s) (hopen : s.fds (s.socket c) = some c) {rs : List WriteResult}
    (hs : s.handleWrite c rs = some s') : Kept s' := by
  obtain ⟨p, -, rfl⟩ := Option.map_eq_some_iff.mp hs
  have hwrite : Kept ((s.writeTo (s.socket c) ((s.outputBuffer c).take p.1)).setOutput c
      ((s.outputBuffer c).drop p.1)) := by
    rw [writeTo, hopen]
    intro d hd
    by_cases hdc : d = c
    · subst hdc
      have hkept := h d hd
      simpa [setOutput] using hkept
    · have hkept := h d hd
      simpa [setOutput, hdc] using hkept
  dsimp only
  split
  · exact hwrite.congr (sameBytes_modifyEvent _ _ _ _)
  · exact hwrite.failWrite c
  · exact hwrite.congr (sameBytes_modifyEvent _ _ _ _)
  · exact hwrite.congr (sameBytes_modifyEvent _ _ _ _)

lemma appendOutput_bytes (s : TcpServer) (c : ConnId) (rest : Bytes) :
    (s.appendOutput c rest).ran = s.ran ∧ (s.appendOutput c rest).written = s.written ∧
      (s.appendOutput c rest).outputBuffer =
        Function.update s.outputBuffer c (s.outputBuffer c ++ rest) ∧
      (s.appendOutput c rest).writeFailed = s.writeFailed := by
  rw [appendOutput]
  split_ifs with hrest
  · rw [hrest, List.append_nil, Function.update_eq_self]
    exact ⟨rfl, rfl, rfl, rfl⟩
  · have hmodify := sameBytes_modifyEvent (s.setOutput c (s.outputBuffer c ++ rest)) (s.home c)
      (s.socket c) .rw
    exact ⟨hmodify.ran, hmodify.written, hmodify.outputBuffer, hmodify.writeFailed⟩

/-- A message is sent: of its bytes, behind those in the buffer, the first ones are written and the
others stay in the buffer. -/
lemma Kept.appendOutput (h : Kept s) {x : ConnId × Bytes} {first rest : Bytes}
    (hran : s'.ran = Function.update s.ran c (s.ran c ++ [x]))
    (hwritten : s'.written = Function.update s.written c (s.written c ++ first))
    (houtput : s'.outputBuffer = s.outputBuffer) (hfailed : s'.writeFailed = s.writeFailed)
    (hsplit : s.outputBuffer c ++ x.2 = first ++ (s.outputBuffer c ++ rest)) :
    Kept (s'.appendOutput c rest) := by
  obtain ⟨hran', hwritten', houtput', hfailed'⟩ := appendOutput_bytes s' c rest
  intro d hd
  rw [hfailed', hfailed] at hd
  have hkept := h d hd
  rw [hran', hwritten', houtput', hran, hwritten, houtput]
  by_cases hdc : d = c
  · subst hdc
    rw [Function.update_self, Function.update_self, Function.update_self, List.map_append,
      List.flatten_append, hkept, List.append_assoc, List.append_assoc, ← hsplit]
    simp
  · rw [Function.update_of_ne hdc, Function.update_of_ne hdc, Function.update_of_ne hdc, hkept]

lemma Kept.sendInLoop (h : Kept s) (hopen : s.fds (s.socket c) = some c) {x : ConnId × Bytes}
    {rs : List WriteResult}
    (hs : { s with ran := Function.update s.ran c (s.ran c ++ [x]) }.sendInLoop c x.2 rs =
      some s') : Kept s' := by
  rw [TcpServer.sendInLoop] at hs
  split_ifs at hs with hempty hrs
  · obtain ⟨p, -, rfl⟩ := Option.map_eq_some_iff.mp hs
    have hempty : s.outputBuffer c = [] := hempty
    dsimp only
    rw [writeTo, show TcpServer.fds _ _ = some c from hopen]
    split_ifs
    · intro d hd
      have hdc : d ≠ c := by
        rintro rfl
        simp [TcpServer.failWrite] at hd
      have hkept := h d ((Function.update_of_ne hdc _ _).symm.trans hd)
      simpa [TcpServer.failWrite, hdc] using hkept
    · exact h.appendOutput rfl rfl rfl rfl (by simp [hempty])
  · cases hs
    refine h.appendOutput (x := x) (c := c) rfl ?_ rfl rfl (List.nil_append _).symm
    rw [List.append_nil, Function.update_eq_self]

lemma kept_of_reach {ok : TcpServer → Action → Prop} (h : machine.Reach ok s) : Kept s := by
  induction h with
  | start hi =>
    obtain ⟨id, n, -, rfl⟩ := hi
    exact fun _ _ => rfl
  | @step s s' a hr _ hs ih =>
    have hc := coherent_of_reach hr
    by_cases ha : ∃ l rs, a = .write l rs
    · obtain ⟨l, rs, rfl⟩ := ha
      cases Step.of_next hs with
      | handleWrite _ c _ s₁ hl hw =>
        have hopen := hc.isOpen (c := c) (l := l) (by rw [hl]; rfl)
        exact (ih.handleWrite hopen hw).congr (((SameBytes.refl s₁).setLoop l .idle).release c)
      | runSend _ origin fd data rest _ s₁ hl hp hw =>
        have htaken : Kept (s.setPhase l (.tasks rest)) := ih.congr ⟨rfl, rfl, rfl, rfl⟩
        rcases runSend_cases hw with ⟨rfl, -⟩ | ⟨d, hmap, -, hsend⟩
        · exact htaken
        · obtain ⟨hopen, -, -⟩ := hc.tables.mapConn_eq_some.mp hmap
          have hsocket := (hc.numbered.socket _ _ hopen).2.1
          exact htaken.sendInLoop (x := (origin, data)) (by rw [← hsocket] at hopen; exact hopen)
            hsend
    · exact ih.congr (sameBytes_next hs fun l rs he => ha ⟨l, rs, he⟩)

/-- As long as a connection has not ended, no `write` on it has failed, and nothing of an earlier
connection under its number was sent on it, the client has got or will get exactly the bytes it has
sent: those that were written, then those in the output buffer, then those on the way. -/
theorem flatten_received_eq (h : machine.Reachable s) (hc : c < s.accepted)
    (hlive : (s.life c).isEnded = false) (hwrite : s.writeFailed c = false)
    (hown : ∀ x ∈ s.ran c, x.1 = c) :
    (s.received c).flatten =
      s.written c ++ s.outputBuffer c ++ (s.queued c ++ s.waiting c ++ s.beingRead c).flatten := by
  have hall : s.own c = (s.ran c).map Prod.snd := by
    rw [own, List.filter_eq_self.mpr (by simpa using hown)]
  rw [← kept_of_reach h c hwrite, ← hall, (told_of_reach h).posted_append_beingRead hc,
    (returned_of_reach h).stream c hc hlive]
  simp [List.append_assoc]

theorem flatten_received_eq_oneEcho :
    let s := machine.replay (start 1 1) oneEcho
    s.written 0 = [7] ∧ s.outputBuffer 0 = [8] ∧ (s.received 0).flatten = [7, 8] := by
  intro s
  have hs : machine.Reachable s := reachable_replay_start (by decide) 1 oneEcho
  have hwritten : s.written 0 = [7] := by decide +kernel
  have houtput : s.outputBuffer 0 = [8] := by decide +kernel
  refine ⟨hwritten, houtput, ?_⟩
  rw [flatten_received_eq hs (by decide +kernel) (by decide +kernel) (by decide +kernel)
    (by decide +kernel), hwritten, houtput]
  decide +kernel

end Balabala.TcpServer
