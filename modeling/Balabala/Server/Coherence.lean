import Balabala.Server.Stages

/-!
# The server stays in order

Every step keeps the numbers, the tables of all loops and the places of the threads in agreement.
-/

namespace Balabala.TcpServer

open Foundation

variable {s s' : TcpServer} {a : Action} {l : LoopId} {c : ConnId} {pc : LoopPc}

/-! ### Output -/

/-- Bytes are written or kept, and the interest in registered numbers may change. -/
def OutputOnly (s s' : TcpServer) : Prop :=
  ∃ epoll outputBuffer writeFailed written,
    s' = { s with epoll, outputBuffer, writeFailed, written } ∧
      ∀ k, (epoll k).isSome = (s.epoll k).isSome

lemma OutputOnly.refl (s : TcpServer) : OutputOnly s s := ⟨_, _, _, _, rfl, fun _ => rfl⟩

lemma OutputOnly.trans {s₁ s₂ s₃ : TcpServer} (h : OutputOnly s₁ s₂) (h' : OutputOnly s₂ s₃) :
    OutputOnly s₁ s₃ := by
  obtain ⟨e, o, f, w, rfl, he⟩ := h
  obtain ⟨e', o', f', w', rfl, he'⟩ := h'
  exact ⟨e', o', f', w', rfl, fun k => (he' k).trans (he k)⟩

lemma outputOnly_setOutput (s : TcpServer) (c : ConnId) (bytes : Bytes) :
    OutputOnly s (s.setOutput c bytes) := ⟨_, _, _, _, rfl, fun _ => rfl⟩

lemma outputOnly_failWrite (s : TcpServer) (c : ConnId) : OutputOnly s (s.failWrite c) :=
  ⟨_, _, _, _, rfl, fun _ => rfl⟩

lemma outputOnly_writeTo (s : TcpServer) (fd : Fd) (bytes : Bytes) :
    OutputOnly s (s.writeTo fd bytes) := by
  rw [writeTo]
  split
  · exact .refl s
  · exact ⟨_, _, _, _, rfl, fun _ => rfl⟩

lemma outputOnly_modifyEvent (s : TcpServer) (l : LoopId) (fd : Fd) (events : Interest) :
    OutputOnly s (s.modifyEventKeepCallback l fd events) := by
  rw [modifyEventKeepCallback]
  split_ifs with hreg
  · refine ⟨_, _, _, _, rfl, fun k => ?_⟩
    by_cases hk : k = (l, fd)
    · subst hk
      rw [Function.update_self, hreg.2]
      rfl
    · rw [Function.update_of_ne hk]
  · exact .refl s

lemma outputOnly_appendOutput (s : TcpServer) (c : ConnId) (rest : Bytes) :
    OutputOnly s (s.appendOutput c rest) := by
  rw [appendOutput]
  split_ifs
  · exact .refl s
  · exact (outputOnly_setOutput s c _).trans (outputOnly_modifyEvent _ _ _ _)

lemma outputOnly_sendInLoop {data : Bytes} {rs : List WriteResult}
    (h : s.sendInLoop c data rs = some s') : OutputOnly s s' := by
  rw [sendInLoop] at h
  split_ifs at h
  · obtain ⟨p, -, rfl⟩ := Option.map_eq_some_iff.mp h
    have hwrite := outputOnly_writeTo s (s.socket c) (data.take p.1)
    dsimp only
    split_ifs
    · exact hwrite.trans (outputOnly_failWrite _ c)
    · exact hwrite.trans (outputOnly_appendOutput _ c _)
  · cases h
    exact outputOnly_appendOutput s c data

lemma outputOnly_handleWrite {rs : List WriteResult} (h : s.handleWrite c rs = some s') :
    OutputOnly s s' := by
  obtain ⟨p, -, rfl⟩ := Option.map_eq_some_iff.mp h
  have hwrite := (outputOnly_writeTo s (s.socket c) ((s.outputBuffer c).take p.1)).trans
    (outputOnly_setOutput _ c ((s.outputBuffer c).drop p.1))
  dsimp only
  split
  · exact hwrite.trans (outputOnly_modifyEvent _ _ _ _)
  · exact hwrite.trans (outputOnly_failWrite _ c)
  · exact hwrite.trans (outputOnly_modifyEvent _ _ _ _)
  · exact hwrite.trans (outputOnly_modifyEvent _ _ _ _)

lemma outputOnly_runSend {origin : ConnId} {fd : Fd} {data : Bytes} {rs : List WriteResult}
    (h : s.runSend l origin fd data rs = some s') :
    ∃ ran, OutputOnly { s with ran } s' := by
  rw [runSend] at h
  split at h
  · split_ifs at h
    cases h
    exact ⟨s.ran, .refl s⟩
  · split_ifs at h
    · exact ⟨_, outputOnly_sendInLoop h⟩
    · cases h
      exact ⟨s.ran, .refl s⟩

/-! ### Small steps -/

/-- Nothing that the order depends on changes but the registrations' interest. -/
lemma Coherent.frame (h : Coherent s) (ho : OutputOnly s s')
    (ran : ConnId → List (ConnId × Bytes)) : Coherent { s' with ran } := by
  obtain ⟨e, o, f, w, rfl, he⟩ := ho
  exact {
    numbered := h.numbered.frame rfl rfl rfl (fun _ => Iff.rfl) h.numbered.worker
      fun _ _ => Iff.rfl
    tables := h.tables.frame rfl rfl rfl (fun _ => ⟨rfl, rfl, rfl⟩) rfl rfl he rfl rfl
    staged := h.staged.frame (fun _ => []) (fun _ _ hd _ => hd) rfl rfl rfl rfl rfl
      (fun _ => (List.append_nil _).symm) fun _ t ht => by cases ht }

/-- A connection in its loop's map is not closed. -/
lemma release_of_mapConn (h : s.mapConn (s.home c, s.socket c) = some c) : s.release c = s :=
  if_pos (by simp [owned, h])

lemma Coherent.isOpen (h : Coherent s) (hl : (s.loop l).conn = some c) :
    s.fds (s.socket c) = some c :=
  h.numbered.isOpen c (.inl ((h.staged.pc l).life hl).1)

/-- Nothing that the numbers or the tables depend on changes. -/
lemma Coherent.of_staged (h : Coherent s) {phase : LoopId → Phase}
    {pendingTasks : LoopId → List Task} {loop : LoopId → LoopPc}
    {received : ConnId → List Bytes} {mailbox sent : List Letter}
    (hs : Staged { s with phase, pendingTasks, loop, received, mailbox, sent }) :
    Coherent { s with phase, pendingTasks, loop, received, mailbox, sent } where
  numbered := h.numbered.frame rfl rfl rfl (fun _ => Iff.rfl) h.numbered.worker fun _ _ => Iff.rfl
  tables := h.tables.frame rfl rfl rfl (fun _ => ⟨rfl, rfl, rfl⟩) rfl rfl (fun _ => rfl) rfl rfl
  staged := hs

/-- The thread of a loop moves on. -/
lemma Coherent.go (h : Coherent s) (hl : (s.loop l).conn = some c)
    (received : ConnId → List Bytes) (mailbox sent : List Letter) (hfits : s.Fits l pc)
    (hpc : pc.conn = some c ∨ pc.conn = none ∧ s.life c ≠ .closing ∧ s.life c ≠ .unbound) :
    Coherent { s with loop := Function.update s.loop l pc, received, mailbox, sent } := by
  refine h.of_staged (h.staged.move hl (x := s.life c) (fun _ => []) rfl rfl rfl rfl
    (fun _ => (List.append_nil _).symm) rfl (Function.update_eq_self ..).symm (.inl rfl)
    (hfits.congr fun _ _ => ⟨rfl, rfl⟩) ?_ ?_ (fun _ => .inl rfl) .inl)
  · intro d hd
    rcases hpc with hpc | ⟨hpc, -⟩ <;> rw [hpc] at hd
    · exact (Option.some.inj hd).symm
    · cases hd
  · intro hbusy
    exact hpc.resolve_right fun hnot => hbusy.elim hnot.2.1 hnot.2.2

lemma Numbered.setLife (h : Numbered s) {x : Life} (hfds : s'.fds = s.fds)
    (hsocket : s'.socket = s.socket) (haccepted : s'.accepted = s.accepted)
    (hworker : s'.worker = s.worker) (hlife : s'.life = Function.update s.life c x)
    (hc : s.life c ≠ .removed) (hx : x ≠ .removed ∧ x ≠ .accepted) : Numbered s' := by
  refine h.frame hfds hsocket haccepted (fun d => ?_) (fun d hd => ?_) fun d _ => by rw [hworker]
  · rw [hlife]
    by_cases hdc : d = c
    · subst hdc
      rw [Function.update_self]
      exact ⟨fun he => absurd he hx.1, fun he => absurd he hc⟩
    · rw [Function.update_of_ne hdc]
  · rw [hlife]
    by_cases hdc : d = c
    · subst hdc
      rw [Function.update_self]
      exact hx.2
    · rw [Function.update_of_ne hdc]
      exact h.worker d (hworker ▸ hd)

/-- The thread of a loop moves on and something is done for the connection it is at, which makes no
difference to the tables. -/
lemma Coherent.advance (h : Coherent s) (hl : (s.loop l).conn = some c) {x : Life}
    {pendingTasks : LoopId → List Task} {mailbox sent : List Letter}
    (hx : x ≠ .removed ∧ x ≠ .accepted ∧ x.isMapped = (s.life c).isMapped ∧
      x.isBound = (s.life c).isBound ∧ x.isRegistered = (s.life c).isRegistered)
    (hs : Staged { s with
      pendingTasks, mailbox, sent, loop := Function.update s.loop l pc
      life := Function.update s.life c x }) :
    Coherent { s with
      pendingTasks, mailbox, sent, loop := Function.update s.loop l pc
      life := Function.update s.life c x } where
  numbered := h.numbered.setLife rfl rfl rfl rfl rfl ((h.staged.pc l).life hl).1 ⟨hx.1, hx.2.1⟩
  tables := h.tables.setLife h.numbered (h.isOpen hl) rfl rfl rfl rfl
    (h.tables.mapConn_self (h.isOpen hl) hx.2.2.1)
    (h.tables.callbacks_self (h.isOpen hl) hx.2.2.2.2) h.tables.epoll
    (h.tables.fdToLoop_self (h.isOpen hl) hx.2.2.2.1)
    (h.tables.fdToActor_self (h.isOpen hl) hx.2.2.2.1)
  staged := hs

/-! ### HandleAccept -/

lemma Coherent.accept (h : Coherent s) (hl : s.loop .main = .accepting) {fd : Fd} (hfd : 0 ≤ fd)
    (hfree : s.fds fd = none) : Coherent (s.handleAccept .main fd) := by
  have hlt : ∀ d, s.life d ≠ .removed ∨ s.worker.conn = some d → d < s.accepted :=
    fun d hd => (h.numbered.socket _ _ (h.numbered.isOpen d hd)).1
  have hold : ∀ {f d}, s.fds f = some d → d ≠ s.accepted :=
    fun hd => Nat.ne_of_lt (h.numbered.socket _ _ hd).1
  have hfds : ∀ {f}, f ≠ fd → (s.handleAccept .main fd).fds f = s.fds f :=
    fun hf => Function.update_of_ne hf ..
  have hlife : ∀ {d}, d ≠ s.accepted → (s.handleAccept .main fd).life d = s.life d :=
    fun hd => Function.update_of_ne hd ..
  have hsocket : ∀ {d}, d ≠ s.accepted → (s.handleAccept .main fd).socket d = s.socket d :=
    fun hd => Function.update_of_ne hd ..
  have hhome : ∀ {d}, d ≠ s.accepted → (s.handleAccept .main fd).home d = s.home d :=
    fun hd => Function.update_of_ne hd ..
  have hfdsnew : (s.handleAccept .main fd).fds fd = some s.accepted := Function.update_self ..
  have hlifenew : (s.handleAccept .main fd).life s.accepted = .accepted := Function.update_self ..
  have hsocketnew : (s.handleAccept .main fd).socket s.accepted = fd := Function.update_self ..
  -- an entry of a table for any other number is about a connection that was there before
  have hsame : ∀ f, f ≠ fd → ∀ d, s.fds f = some d →
      (s.handleAccept .main fd).life d = s.life d ∧ (s.handleAccept .main fd).home d = s.home d :=
    fun f _ d hd => ⟨hlife (hold hd), hhome (hold hd)⟩
  exact {
    numbered := {
      socket := by
        intro f d hd
        by_cases hf : f = fd
        · subst hf
          obtain rfl := Option.some.inj (hfdsnew.symm.trans hd)
          exact ⟨Nat.lt_succ_self _, hsocketnew, hfd⟩
        · rw [hfds hf] at hd
          obtain ⟨hlt, hs, h0⟩ := h.numbered.socket f d hd
          exact ⟨Nat.lt_succ_of_lt hlt, (hsocket (hold hd)).trans hs, h0⟩
      held := by
        intro f d hd
        by_cases hf : f = fd
        · subst hf
          obtain rfl := Option.some.inj (hfdsnew.symm.trans hd)
          exact .inl (by simp [hlifenew])
        · rw [hfds hf] at hd
          rw [hlife (hold hd)]
          exact h.numbered.held f d hd
      isOpen := by
        intro d hd
        by_cases hdn : d = s.accepted
        · subst hdn
          rw [hsocketnew, hfdsnew]
        · rw [hlife hdn] at hd
          have hopen := h.numbered.isOpen d hd
          have hf : s.socket d ≠ fd := by
            rintro he
            rw [he, hfree] at hopen
            cases hopen
          rw [hsocket hdn, hfds hf, hopen]
      worker := by
        intro d hd
        have hdn : d ≠ s.accepted := Nat.ne_of_lt (hlt d (.inr hd))
        rw [hlife hdn]
        exact h.numbered.worker d hd }
    tables := {
      mapConn := by
        rintro ⟨l, f⟩
        have hmap := h.tables.mapConn (l, f)
        by_cases hf : f = fd
        · subst hf
          rw [hfree] at hmap
          rw [hfdsnew, Option.filter_some, hlifenew, if_neg (by simp [Life.isMapped])]
          exact hmap
        · rw [hfds hf]
          refine hmap.trans ?_
          cases hd : s.fds f with
          | none => rfl
          | some d =>
            rw [Option.filter_some, Option.filter_some, (hsame f hf d hd).1, (hsame f hf d hd).2]
      callbacks := by
        rintro ⟨l, f⟩
        have hcallbacks := h.tables.callbacks (l, f)
        by_cases hf : f = fd
        · subst hf
          rw [hfree] at hcallbacks
          rw [hfdsnew, Option.any_some, hlifenew, show Life.accepted.isRegistered = false from rfl,
            Bool.and_false]
          exact hcallbacks
        · rw [hfds hf]
          refine hcallbacks.trans ?_
          cases hd : s.fds f with
          | none => rfl
          | some d =>
            rw [Option.any_some, Option.any_some, (hsame f hf d hd).1, (hsame f hf d hd).2]
      epoll := h.tables.epoll
      fdToLoop := by
        intro f
        have hloop := h.tables.fdToLoop f
        by_cases hf : f = fd
        · subst hf
          rw [hfree] at hloop
          rw [hfdsnew, Option.filter_some, hlifenew]
          exact hloop
        · rw [hfds hf]
          refine hloop.trans ?_
          cases hd : s.fds f with
          | none => rfl
          | some d =>
            rw [Option.filter_some, Option.filter_some, (hsame f hf d hd).1]
            split_ifs
            · exact congrArg some (hsame f hf d hd).2.symm
            · rfl
      fdToActor := by
        intro f
        have hactor := h.tables.fdToActor f
        by_cases hf : f = fd
        · subst hf
          rw [hfree] at hactor
          rw [hfdsnew, Option.filter_some, hlifenew]
          exact hactor
        · rw [hfds hf]
          refine hactor.trans ?_
          cases hd : s.fds f with
          | none => rfl
          | some d =>
            rw [Option.filter_some, Option.filter_some, (hsame f hf d hd).1]
            rfl }
    staged := h.handleAccept hl hfree }

lemma Coherent.addConnection (h : Coherent s) (hl : s.loop l = .addConnection c) :
    Coherent (s.addConnection l c) := by
  have hconn : (s.loop l).conn = some c := by rw [hl]; rfl
  obtain ⟨hmain, hlife⟩ : l = .main ∧ s.life c = .accepted := h.staged.fits hl
  have hopen := h.isOpen hconn
  have hnone : s.mapConn (s.home c, s.socket c) = none := by
    rw [h.tables.mapConn, hopen, Option.filter_some, hlife]
    simp [Life.isMapped]
  have hmap : (s.addConnection l c).mapConn =
      Function.update s.mapConn (s.home c, s.socket c) (some c) := if_pos hnone
  exact {
    numbered := h.numbered.setLife rfl rfl rfl rfl rfl (by simp [hlife]) (by simp)
    tables := h.tables.setLife h.numbered hopen rfl rfl rfl rfl hmap
      (h.tables.callbacks_self hopen (by simp [hlife, Life.isRegistered])) h.tables.epoll
      (h.tables.fdToLoop_self hopen (by simp [hlife, Life.isBound]))
      (h.tables.fdToActor_self hopen (by simp [hlife, Life.isBound]))
    staged := h.staged.move hconn (fun _ => []) rfl rfl rfl rfl
      (fun _ => (List.append_nil _).symm) rfl rfl (.inr (by simp [hlife]))
      ⟨hmain, Function.update_self ..⟩ (by simp [LoopPc.conn, eq_comm]) (by simp)
      (fun _ => .inl rfl) (by simp) }

lemma Coherent.bindFdToActor (h : Coherent s) (hl : s.loop l = .bindFdToActor c) :
    Coherent (s.bindFdToActor l c) := by
  have hconn : (s.loop l).conn = some c := by rw [hl]; rfl
  obtain ⟨hmain, hlife⟩ : l = .main ∧ s.life c = .mapped := h.staged.fits hl
  have hopen := h.isOpen hconn
  exact {
    numbered := h.numbered.setLife rfl rfl rfl rfl rfl (by simp [hlife]) (by simp)
    tables := h.tables.setLife h.numbered hopen rfl rfl rfl rfl
      (h.tables.mapConn_self hopen (by simp [hlife, Life.isMapped]))
      (h.tables.callbacks_self hopen (by simp [hlife, Life.isRegistered])) h.tables.epoll rfl rfl
    staged := h.staged.move hconn (fun _ => []) rfl rfl rfl rfl
      (fun _ => (List.append_nil _).symm) rfl rfl (.inr (by simp [hlife]))
      ⟨hmain, Function.update_self ..⟩ (by simp [LoopPc.conn, eq_comm]) (by simp)
      (fun _ => .inl rfl) (by simp) }

lemma send_eq (s : TcpServer) (m : Letter) : s.send s.serverActorId m =
    { s with mailbox := s.mailbox ++ [m], sent := s.sent ++ [m] } := if_pos rfl

lemma Coherent.sendConnected (h : Coherent s) (hl : s.loop l = .sendConnected c) :
    Coherent (s.sendConnected l c) := by
  have hconn : (s.loop l).conn = some c := by rw [hl]; rfl
  obtain ⟨hmain, hlife⟩ : l = .main ∧ s.life c = .bound := h.staged.fits hl
  rw [TcpServer.sendConnected, send_eq]
  refine h.advance hconn ?_ ?_
  · simp [hlife, Life.isMapped, Life.isBound, Life.isRegistered]
  · exact h.staged.move hconn (fun _ => []) rfl rfl rfl rfl
      (fun _ => (List.append_nil _).symm) rfl rfl (.inr (by simp [hlife]))
      ⟨hmain, Function.update_self ..⟩ (by simp [LoopPc.conn, eq_comm]) (by simp)
      (fun _ => .inl rfl) (by simp)

/-- `AddEvent` of a connection that is not registered does not fail. -/
lemma Coherent.canAdd (h : Coherent s) (hopen : s.fds (s.socket c) = some c)
    (hc : (s.life c).isRegistered = false) : s.canAdd (s.home c) (s.socket c) := by
  refine ⟨by rw [hopen]; rfl, ?_⟩
  have hepoll := h.tables.epoll (s.home c, s.socket c)
  rw [h.tables.callbacks, hopen, Option.any_some, hc, Bool.and_false] at hepoll
  simpa using hepoll

lemma Coherent.finishAccept (h : Coherent s) (hl : s.loop l = .addEvent c) :
    Coherent (s.finishAccept l c) := by
  have hconn : (s.loop l).conn = some c := by rw [hl]; rfl
  obtain ⟨hmain, hlife⟩ : l = .main ∧ s.life c = .announced := h.staged.fits hl
  have hopen := h.isOpen hconn
  have hmap := h.mapConn_of_mapped (c := c) (by rw [hlife]; rfl)
  have hrelease : ∀ t : TcpServer, t.mapConn = s.mapConn → t.home = s.home →
      t.socket = s.socket → t.release c = t := by
    intro t ht hth hts
    exact release_of_mapConn (by rw [ht, hth, hts, hmap])
  by_cases hhome : s.home c = l
  · have hadd := h.canAdd hopen (by rw [hlife]; rfl)
    rw [hhome] at hadd
    rw [TcpServer.finishAccept, if_pos hhome, TcpServer.addEvent, if_pos hadd, if_pos hadd,
      hrelease _ (by rfl) (by rfl) (by rfl)]
    have hepoll : ∀ k,
        (Function.update s.epoll (s.home c, s.socket c) (some Interest.r) k).isSome =
          Function.update s.callbacks (s.home c, s.socket c) true k := by
      intro k
      by_cases hk : k = (s.home c, s.socket c)
      · subst hk
        simp
      · rw [Function.update_of_ne hk, Function.update_of_ne hk, h.tables.epoll]
    rw [hhome] at hepoll
    exact {
      numbered := h.numbered.setLife rfl rfl rfl rfl rfl (by simp [hlife]) (by simp)
      tables := h.tables.setLife h.numbered hopen rfl rfl rfl rfl
        (h.tables.mapConn_self hopen (by simp [hlife, Life.isMapped])) (by rw [hhome]; rfl) hepoll
        (h.tables.fdToLoop_self hopen (by simp [hlife, Life.isBound]))
        (h.tables.fdToActor_self hopen (by simp [hlife, Life.isBound]))
      staged := h.staged.move hconn (fun _ => []) rfl rfl rfl rfl
        (fun _ => (List.append_nil _).symm) rfl rfl (.inr (by simp [hlife])) hmain
        (by simp [LoopPc.conn]) (by simp) (fun _ => .inl rfl) (by simp) }
  · rw [TcpServer.finishAccept, if_neg hhome, hrelease _ (by rfl) (by rfl) (by rfl)]
    refine h.advance hconn (l := l) (x := .queued) ?_ ?_
    · simp [hlife, Life.isMapped, Life.isBound, Life.isRegistered]
    · refine h.staged.move hconn
        (fun l' => if l' = s.home c then [.addEvent c (s.socket c)] else []) rfl rfl rfl rfl
        (pendingTasks_queueInLoop s (s.home c) _) rfl rfl (.inr (by simp [hlife])) hmain
        (by simp [LoopPc.conn]) (by simp) (fun l' => ?_) (by simp)
      · by_cases hll : l' = s.home c
        · refine .inr ⟨by simp [hlife], _, if_pos hll, rfl, ?_⟩
          exact ⟨Function.update_self .., hll.symm, rfl⟩
        · exact .inl (if_neg hll)

/-! ### The callbacks -/

/-- The callback of a connection in its loop's map is done. -/
lemma Coherent.endCallback (h : Coherent s) (hl : (s.loop l).conn = some c)
    (hmap : s.mapConn (s.home c, s.socket c) = some c)
    (hlife : s.life c ≠ .closing ∧ s.life c ≠ .unbound) :
    Coherent ((s.setLoop l .idle).release c) := by
  rw [release_of_mapConn (s := s.setLoop l .idle) hmap]
  exact h.go hl s.received s.mailbox s.sent trivial (.inr ⟨rfl, hlife⟩)

lemma Coherent.afterRead (h : Coherent s) {out : Bool} (hl : (s.loop l).conn = some c)
    (hhome : s.home c = l) (hlife : s.life c = .serving) : Coherent (s.afterRead l c out) := by
  rw [TcpServer.afterRead]
  split_ifs
  · exact h.go hl s.received s.mailbox s.sent ⟨hhome, .inl hlife⟩ (.inl rfl)
  · exact h.endCallback hl (h.mapConn_of_mapped (by rw [hlife]; rfl)) (by simp [hlife])

lemma Coherent.handleRead (h : Coherent s) {out : Bool} (hl : s.loop l = .reading c out)
    (result : RecvResult) : Coherent (s.handleRead l c out result) := by
  have hconn : (s.loop l).conn = some c := by rw [hl]; rfl
  obtain ⟨hhome, hlife⟩ : s.home c = l ∧ s.life c = .serving := h.staged.fits hl
  cases result with
  | data bytes =>
    refine h.go hconn _ s.mailbox s.sent ⟨hhome, .inl ⟨hlife, ?_⟩⟩ (.inl rfl)
    exact ActorMessage.type_make ..
  | eintr => exact h
  | eagain | error => exact h.afterRead hconn hhome hlife
  | eof =>
    refine h.advance hconn ?_ ?_
    · simp [hlife, Life.isMapped, Life.isBound, Life.isRegistered]
    · exact h.staged.move hconn (fun _ => []) rfl rfl rfl rfl
        (fun _ => (List.append_nil _).symm) rfl rfl (.inr (by simp [hlife]))
        ⟨hhome, .inr ⟨Function.update_self .., rfl⟩⟩ (by simp [LoopPc.conn, eq_comm])
        (fun _ => rfl) (fun _ => .inl rfl) (by simp)

lemma fits_afterSend {out : Bool} {msg : ActorMessage} (hhome : s.home c = l)
    (hmsg : s.life c = .serving ∧ msg.type = .networkRecv ∨
      s.life c = .closing ∧ msg.type = .disconnected) : s.Fits l (afterSend c out msg) := by
  rw [afterSend]
  rcases hmsg with ⟨hlife, htype⟩ | ⟨hlife, htype⟩
  · rw [if_neg (by simp [htype])]
    exact ⟨hhome, hlife⟩
  · rw [if_pos htype]
    exact ⟨hhome, hlife⟩

lemma conn_afterSend (c : ConnId) (out : Bool) (msg : ActorMessage) :
    (afterSend c out msg).conn = some c := by
  rw [afterSend]
  split_ifs <;> rfl

lemma Coherent.sendByFd (h : Coherent s) {out : Bool} {msg : ActorMessage} {id : ActorId}
    (hl : s.loop l = .sendByFd c out msg) :
    Coherent (s.setLoop l (if 0 < id then .send c out msg id else afterSend c out msg)) := by
  have hconn : (s.loop l).conn = some c := by rw [hl]; rfl
  have hfits := h.staged.fits hl
  split_ifs
  · exact h.go hconn s.received s.mailbox s.sent hfits (.inl rfl)
  · exact h.go hconn s.received s.mailbox s.sent (fits_afterSend hfits.1 hfits.2)
      (.inl (conn_afterSend c out msg))

lemma Coherent.send (h : Coherent s) {out : Bool} {msg : ActorMessage} {id : ActorId}
    (hl : s.loop l = .send c out msg id) :
    Coherent ((s.send id ⟨msg, c⟩).setLoop l (afterSend c out msg)) := by
  have hconn : (s.loop l).conn = some c := by rw [hl]; rfl
  have hfits := h.staged.fits hl
  rw [TcpServer.send]
  split_ifs
  · exact h.go hconn s.received _ _ (fits_afterSend hfits.1 hfits.2)
      (.inl (conn_afterSend c out msg))
  · exact h.go hconn s.received s.mailbox s.sent (fits_afterSend hfits.1 hfits.2)
      (.inl (conn_afterSend c out msg))

lemma Coherent.unbindFd (h : Coherent s) {out : Bool} (hl : s.loop l = .unbindFd c out) :
    Coherent (s.unbindFd l c out) := by
  have hconn : (s.loop l).conn = some c := by rw [hl]; rfl
  obtain ⟨hhome, hlife⟩ : s.home c = l ∧ s.life c = .closing := h.staged.fits hl
  have hopen := h.isOpen hconn
  exact {
    numbered := h.numbered.setLife rfl rfl rfl rfl rfl (by simp [hlife]) (by simp)
    tables := h.tables.setLife h.numbered hopen rfl rfl rfl rfl
      (h.tables.mapConn_self hopen (by simp [hlife, Life.isMapped]))
      (h.tables.callbacks_self hopen (by simp [hlife, Life.isRegistered])) h.tables.epoll rfl rfl
    staged := h.staged.move hconn (fun _ => []) rfl rfl rfl rfl
      (fun _ => (List.append_nil _).symm) rfl rfl (.inr (by simp [hlife]))
      ⟨hhome, Function.update_self ..⟩ (by simp [LoopPc.conn, eq_comm]) (fun _ => rfl)
      (fun _ => .inl rfl) (by simp) }

lemma Coherent.requestRemoval (h : Coherent s) {out : Bool}
    (hl : s.loop l = .removeConnection c out) : Coherent (s.requestRemoval l c out) := by
  have hconn : (s.loop l).conn = some c := by rw [hl]; rfl
  obtain ⟨hhome, hlife⟩ : s.home c = l ∧ s.life c = .unbound := h.staged.fits hl
  obtain ⟨fired, hphase⟩ := h.staged.events l (by simp [hl])
  have hmap := h.mapConn_of_mapped (c := c) (by rw [hlife]; rfl)
  have hmove : ∀ pc : LoopPc, (pc = .writing c ∨ pc = .idle) → Coherent
      (((s.queueInLoop l (.removeConnection c (s.socket c))).setLife c .leaving).setLoop l pc) := by
    intro pc hpc
    refine h.advance hconn ?_ ?_
    · simp [hlife, Life.isMapped, Life.isBound, Life.isRegistered]
    · refine h.staged.move hconn
        (fun l' => if l' = l then [.removeConnection c (s.socket c)] else []) rfl rfl rfl rfl
        (pendingTasks_queueInLoop s l _) rfl rfl (.inr (by simp [hlife])) ?_ ?_ (by simp)
        (fun l' => ?_) ?_
      · rcases hpc with rfl | rfl
        · exact ⟨hhome, .inr (Function.update_self ..)⟩
        · trivial
      · rcases hpc with rfl | rfl <;> simp [LoopPc.conn, eq_comm]
      · by_cases hll : l' = l
        · exact .inr ⟨by simp [hlife], _, if_pos hll, rfl, Function.update_self ..,
            hhome.trans hll.symm, rfl⟩
        · exact .inl (if_neg hll)
      · intro _
        right
        rw [hhome]
        simp [nextTasks, hphase, queueInLoop, setLife]
  rw [TcpServer.requestRemoval, TcpServer.afterRead]
  split_ifs
  · exact hmove _ (.inl rfl)
  · rw [release_of_mapConn (c := c) (by exact hmap)]
    exact hmove _ (.inr rfl)

lemma Coherent.handleWrite (h : Coherent s) {rs : List WriteResult} (hl : s.loop l = .writing c)
    (hs : s.handleWrite c rs = some s') : Coherent ((s'.setLoop l .idle).release c) := by
  have hfits := h.staged.fits hl
  have hmap : s.mapConn (s.home c, s.socket c) = some c := by
    refine h.mapConn_of_mapped ?_
    rcases hfits.2 with hlife | hlife <;> rw [hlife] <;> rfl
  have hlife : s.life c ≠ .closing ∧ s.life c ≠ .unbound := by
    rcases hfits.2 with hlife | hlife <;> simp [hlife]
  have ho := outputOnly_handleWrite hs
  have h' := h.frame ho s.ran
  obtain ⟨e, o, f, w, rfl, he⟩ := ho
  exact h'.endCallback (by rw [show (_ : LoopPc) = _ from hl]; rfl) hmap hlife

/-! ### Connections that go -/

lemma Tables.closeFd (h : Tables s) {f : Fd} (hopen : s.fds f = some c)
    (hlife : s.life c = .removed) : Tables (s.closeFd f) := by
  have hnone : (s.closeFd f).fds f = none := Function.update_self ..
  have hother : ∀ g, g ≠ f → (s.closeFd f).fds g = s.fds g :=
    fun g hg => Function.update_of_ne hg ..
  have hcallbacks : ∀ l, s.callbacks (l, f) = false := by
    intro l
    rw [h.callbacks, hopen, Option.any_some, hlife, show Life.removed.isRegistered = false from rfl,
      Bool.and_false]
  exact {
    mapConn := by
      rintro ⟨l, g⟩
      refine (h.mapConn (l, g)).trans ?_
      by_cases hg : g = f
      · subst hg
        rw [hnone, hopen, Option.filter_some, hlife, if_neg (by simp [Life.isMapped])]
        rfl
      · rw [hother g hg]
        rfl
    callbacks := by
      rintro ⟨l, g⟩
      by_cases hg : g = f
      · subst hg
        rw [hnone]
        exact hcallbacks l
      · rw [hother g hg]
        exact h.callbacks (l, g)
    epoll := by
      rintro ⟨l, g⟩
      by_cases hg : g = f
      · subst hg
        exact (congrArg Option.isSome (if_pos rfl)).trans (hcallbacks l).symm
      · exact (congrArg Option.isSome (if_neg hg)).trans (h.epoll (l, g))
    fdToLoop := by
      intro g
      refine (h.fdToLoop g).trans ?_
      by_cases hg : g = f
      · subst hg
        rw [hnone, hopen, Option.filter_some, hlife]
        rfl
      · rw [hother g hg]
        rfl
    fdToActor := by
      intro g
      refine (h.fdToActor g).trans ?_
      by_cases hg : g = f
      · subst hg
        rw [hnone, hopen, Option.filter_some, hlife]
        rfl
      · rw [hother g hg]
        rfl }

/-- A `shared_ptr` to `c` has gone away. Whoever else has one shows in the tables. -/
lemma Coherent.of_release (ht : Tables s) (hs : Staged s)
    (hsocket : ∀ f d, s.fds f = some d → d < s.accepted ∧ s.socket d = f ∧ 0 ≤ f)
    (hheld : ∀ f d, s.fds f = some d → d ≠ c → s.life d ≠ .removed ∨ s.worker.conn = some d)
    (hopen : ∀ d, s.life d ≠ .removed ∨ s.worker.conn = some d → s.fds (s.socket d) = some d)
    (hworker : ∀ d, s.worker.conn = some d → s.life d ≠ .accepted)
    (hc : s.fds (s.socket c) = some c) (hlife : s.life c ≠ .accepted) :
    Coherent (s.release c) := by
  have hkeep : s.life c ≠ .removed ∨ s.worker.conn = some c → s.owned c = true →
      Coherent (s.release c) := by
    intro hholds howned
    rw [release, if_pos howned]
    refine ⟨⟨hsocket, fun f d hd => ?_, hopen, hworker⟩, ht, hs⟩
    by_cases hdc : d = c
    · rwa [hdc]
    · exact hheld f d hd hdc
  by_cases hremoved : s.life c = .removed
  · by_cases hw : s.worker.conn = some c
    · exact hkeep (.inr hw) (by simp [owned, hw])
    · have hnot : s.owned c = false := by
        have hmap : s.mapConn (s.home c, s.socket c) ≠ some c := by
          intro hmap
          have hmapped := (ht.mapConn_eq_some.mp hmap).2.2
          rw [hremoved] at hmapped
          cases hmapped
        have hconn : ∀ l, (s.loop l).conn ≠ some c := fun l => hs.conn_ne (.inr hremoved)
        simp [owned, hmap, hconn, hw]
      have hne : ∀ d, d ≠ c → s.fds (s.socket d) = some d → s.socket d ≠ s.socket c := by
        intro d hdc hd he
        rw [he, hc] at hd
        exact hdc (Option.some.inj hd).symm
      rw [release, hnot, if_neg Bool.false_ne_true]
      refine ⟨⟨fun f d hd => ?_, fun f d hd => ?_, fun d hd => ?_, hworker⟩, ht.closeFd hc hremoved,
        hs.frame (fun _ => []) (fun f d hd hserving => ?_) rfl rfl rfl rfl rfl
          (fun _ => (List.append_nil _).symm) fun _ t ht => by cases ht⟩
      · by_cases hf : f = s.socket c
        · subst hf
          simp [TcpServer.closeFd] at hd
        · exact hsocket f d ((Function.update_of_ne hf _ _).symm.trans hd)
      · by_cases hf : f = s.socket c
        · subst hf
          simp [TcpServer.closeFd] at hd
        · have hd' : s.fds f = some d := (Function.update_of_ne hf _ _).symm.trans hd
          refine hheld f d hd' ?_
          rintro rfl
          exact hf (hsocket f d hd').2.1.symm
      · have hdc : d ≠ c := by
          rintro rfl
          exact hd.elim (fun hlive => hlive hremoved) hw
        exact (Function.update_of_ne (hne d hdc (hopen d hd)) _ _).trans (hopen d hd)
      · have hdc : d ≠ c := by
          rintro rfl
          rw [hremoved] at hserving
          cases hserving
        have hf : f ≠ s.socket c := by
          rintro rfl
          exact hdc (Option.some.inj (hd.symm.trans hc))
        exact (Function.update_of_ne hf _ _).trans hd
  · refine hkeep (.inl hremoved) ?_
    have hmapped : (s.life c).isMapped = true := by
      cases hx : s.life c with
      | accepted => exact absurd hx hlife
      | removed => exact absurd hx hremoved
      | _ => rfl
    have hmap := ht.mapConn_eq_some.mpr ⟨hc, rfl, hmapped⟩
    simp [owned, hmap]

/-- `c` is removed from the map of its loop. -/
lemma Coherent.removed (h : Coherent s) (hopen : s.fds (s.socket c) = some c)
    (ht : Tables s') (hs : Staged s') (hfds : s'.fds = s.fds)
    (hsocket : s'.socket = s.socket) (haccepted : s'.accepted = s.accepted)
    (hworker : s'.worker = s.worker) (hlife : s'.life = Function.update s.life c .removed) :
    Coherent (s'.release c) := by
  have hself : s'.life c = .removed := by rw [hlife, Function.update_self]
  have hother : ∀ d, d ≠ c → s'.life d = s.life d := by
    intro d hd
    rw [hlife, Function.update_of_ne hd]
  refine Coherent.of_release ht hs ?_ ?_ ?_ ?_ (by rw [hfds, hsocket, hopen]) (by simp [hself])
  · rw [hfds, hsocket, haccepted]
    exact h.numbered.socket
  · intro f d hd hdc
    rw [hother d hdc, hworker]
    exact h.numbered.held f d (hfds ▸ hd)
  · intro d hd
    rw [hfds, hsocket]
    by_cases hdc : d = c
    · rw [hdc, hopen]
    · rw [hother d hdc, hworker] at hd
      exact h.numbered.isOpen d hd
  · intro d hd
    by_cases hdc : d = c
    · simp [hdc, hself]
    · rw [hother d hdc]
      exact h.numbered.worker d (hworker ▸ hd)

lemma Coherent.taskAddEvent (h : Coherent s) {fd : Fd} {rest : List Task} (hl : s.loop l = .idle)
    (hp : s.phase l = .tasks (.addEvent c fd :: rest)) :
    Coherent ((s.setPhase l (.tasks rest)).addEvent l c fd) := by
  obtain ⟨hlife, rfl, rfl⟩ : s.TaskFits l (.addEvent c fd) :=
    h.staged.tasks l _ (by rw [queue, hp]; exact List.mem_cons_self)
  have hopen := h.numbered.isOpen c (.inl (by simp [hlife]))
  have hadd := h.canAdd hopen (by rw [hlife]; rfl)
  rw [TcpServer.addEvent, if_pos (show (s.setPhase _ _).canAdd _ _ from hadd)]
  have hepoll : ∀ k, (Function.update s.epoll (s.home c, s.socket c) (some Interest.r) k).isSome =
      Function.update s.callbacks (s.home c, s.socket c) true k := by
    intro k
    by_cases hk : k = (s.home c, s.socket c)
    · subst hk
      simp
    · rw [Function.update_of_ne hk, Function.update_of_ne hk, h.tables.epoll]
  exact {
    numbered := h.numbered.setLife rfl rfl rfl rfl rfl (by simp [hlife]) (by simp)
    tables := h.tables.setLife h.numbered hopen rfl rfl rfl rfl
      (h.tables.mapConn_self hopen (by simp [hlife, Life.isMapped])) rfl hepoll
      (h.tables.fdToLoop_self hopen (by simp [hlife, Life.isBound]))
      (h.tables.fdToActor_self hopen (by simp [hlife, Life.isBound]))
    staged := h.staged.runTask hl hp rfl (.inl rfl) rfl rfl (fun _ _ hd _ => hd) rfl rfl rfl rfl }

lemma Coherent.taskRemove (h : Coherent s) {fd : Fd} {rest : List Task} (hl : s.loop l = .idle)
    (hp : s.phase l = .tasks (.removeConnection c fd :: rest)) :
    Coherent ((s.setPhase l (.tasks rest)).removeConnection l fd) := by
  obtain ⟨hlife, rfl, rfl⟩ : s.TaskFits l (.removeConnection c fd) :=
    h.staged.tasks l _ (by rw [queue, hp]; exact List.mem_cons_self)
  have hopen := h.numbered.isOpen c (.inl (by simp [hlife]))
  have hmap := h.mapConn_of_mapped (c := c) (by rw [hlife]; rfl)
  rw [removeConnection, show (s.setPhase _ _).mapConn = s.mapConn from rfl, hmap]
  have hepoll : ∀ k, (Function.update s.epoll (s.home c, s.socket c) none k).isSome =
      Function.update s.callbacks (s.home c, s.socket c) false k := by
    intro k
    by_cases hk : k = (s.home c, s.socket c)
    · subst hk
      simp
    · rw [Function.update_of_ne hk, Function.update_of_ne hk, h.tables.epoll]
  refine h.removed hopen ?_ ?_ rfl rfl rfl rfl rfl
  · exact h.tables.setLife h.numbered hopen rfl rfl rfl rfl rfl rfl hepoll
      (h.tables.fdToLoop_self hopen (by simp [hlife, Life.isBound]))
      (h.tables.fdToActor_self hopen (by simp [hlife, Life.isBound]))
  · exact h.staged.runTask hl hp rfl (.inr rfl) rfl rfl (fun _ _ hd _ => hd) rfl rfl rfl rfl

/-! ### The worker -/

/-- The worker moves on with the connection it holds, if any. -/
lemma Coherent.setWorker (h : Coherent s) {worker : WorkerPc} (mailbox : List Letter)
    (hconn : worker.conn = s.worker.conn) : Coherent { s with worker, mailbox } where
  numbered := h.numbered.frame rfl rfl rfl (fun _ => Iff.rfl)
    (fun d hd => h.numbered.worker d (hconn.symm.trans hd)) fun d _ => by
      rw [← show worker.conn = s.worker.conn from hconn]
  tables := h.tables.frame rfl rfl rfl (fun _ => ⟨rfl, rfl, rfl⟩) rfl rfl (fun _ => rfl) rfl rfl
  staged := h.staged.frame (fun _ => []) (fun _ _ hd _ => hd) rfl rfl rfl rfl rfl
    (fun _ => (List.append_nil _).symm) fun _ t ht => by cases ht

lemma Coherent.getConnection (h : Coherent s) {m : Letter} (hw : s.worker = .getConnection m l)
    (hfd : s.mapConn (l, m.msg.fd) = some c) : Coherent (s.setWorker (.send m c)) := by
  obtain ⟨hopen, -, hmapped⟩ := h.tables.mapConn_eq_some.mp hfd
  refine ⟨h.numbered.frame rfl rfl rfl (fun _ => Iff.rfl) ?_ ?_, ?_, ?_⟩
  · intro d hd he
    obtain rfl : c = d := Option.some.inj hd
    rw [show s.life c = .accepted from he] at hmapped
    cases hmapped
  · intro d hd
    have hdc : c ≠ d := by
      rintro rfl
      rw [hd] at hmapped
      cases hmapped
    rw [hw]
    simp [TcpServer.setWorker, WorkerPc.conn, hdc]
  · exact h.tables.frame rfl rfl rfl (fun _ => ⟨rfl, rfl, rfl⟩) rfl rfl (fun _ => rfl) rfl rfl
  · exact h.staged.frame (fun _ => []) (fun _ _ hd _ => hd) rfl rfl rfl rfl rfl
      (fun _ => (List.append_nil _).symm) fun _ t ht => by cases ht

lemma Coherent.queueSend (h : Coherent s) (l : LoopId) (origin : ConnId) (fd : Fd) (data : Bytes) :
    Coherent (s.queueInLoop l (.send origin fd data)) := by
  refine h.of_staged ?_
  refine h.staged.frame (fun l' => if l' = l then [.send origin fd data] else [])
    (fun _ _ hd _ => hd) rfl rfl rfl rfl rfl (pendingTasks_queueInLoop s l _) fun l' t ht => ?_
  split_ifs at ht
  · rw [List.mem_singleton.mp ht]
    rfl
  · cases ht

lemma Coherent.releaseWorker (h : Coherent s) (hw : s.worker = .release c) :
    Coherent ((s.setWorker .idle).release c) := by
  have hconn : s.worker.conn = some c := by rw [hw]; rfl
  refine Coherent.of_release ?_ ?_ h.numbered.socket ?_ ?_ ?_
    (h.numbered.isOpen c (.inr hconn)) (h.numbered.worker c hconn)
  · exact h.tables.frame rfl rfl rfl (fun _ => ⟨rfl, rfl, rfl⟩) rfl rfl (fun _ => rfl) rfl rfl
  · exact h.staged.frame (fun _ => []) (fun _ _ hd _ => hd) rfl rfl rfl rfl rfl
      (fun _ => (List.append_nil _).symm) fun _ t ht => by cases ht
  · intro f d hd hdc
    left
    refine (h.numbered.held f d hd).resolve_right fun he => hdc ?_
    exact Option.some.inj (he.symm.trans hconn)
  · intro d hd
    refine h.numbered.isOpen d (.inl ?_)
    exact hd.resolve_right fun he => by cases he
  · intro d hd
    cases hd

/-! ### All steps -/

theorem Coherent.next (h : Coherent s) (hs : machine.next s a = some s') : Coherent s' := by
  cases Step.of_next hs with
  | listen fired hl hp =>
    exact h.of_staged (h.staged.setLoop (by rw [hl]; rfl) rfl rfl fun _ => ⟨fired, hp⟩)
  | accept fd hl hfd hfree => exact h.accept hl hfd hfree
  | acceptDone hl =>
    exact h.of_staged (h.staged.setLoop (by rw [hl]; rfl) rfl trivial fun hne => absurd rfl hne)
  | addConnection l c hl => exact h.addConnection hl
  | bindFdToActor l c hl => exact h.bindFdToActor hl
  | sendConnected l c hl => exact h.sendConnected hl
  | finishAccept l c hl => exact h.finishAccept hl
  | wait l fired hl hp hfire hnodup => exact h.of_staged (h.wait hl hp hfire hnodup)
  | event l e rest hl hp => exact h.of_staged (h.event hl hp)
  | swap l hl hp => exact h.of_staged (h.staged.swap hl hp)
  | taskAddEvent l c fd rest hl hp => exact h.taskAddEvent hl hp
  | taskRemove l c fd rest hl hp => exact h.taskRemove hl hp
  | recv l c out result hl hv => exact h.handleRead hl result
  | sendByFd l c out msg hl => exact h.sendByFd hl
  | send l c out msg actorId hl => exact h.send hl
  | unbindFd l c out hl => exact h.unbindFd hl
  | requestRemoval l c out hl => exact h.requestRemoval hl
  | handleWrite l c rs s' hl hw => exact h.handleWrite hl hw
  | runSend l origin fd data rest rs s' hl hp hw =>
    obtain ⟨ran, ho⟩ := outputOnly_runSend hw
    have htaken := h.of_staged (h.staged.takeSend hl hp rfl)
    have hran := htaken.frame (.refl _) ran
    exact hran.frame ho s'.ran
  | pop m rest hw hm =>
    refine h.setWorker rest ?_
    rw [hw]
    split_ifs <;> rfl
  | getEventLoopByFd m hw => exact h.setWorker s.mailbox (by rw [hw]; rfl)
  | notFound m l hw hfd => exact h.setWorker s.mailbox (by rw [hw]; rfl)
  | getConnection m l c hw hfd => exact h.getConnection hw hfd
  | queueSend m c hw hok =>
    exact (h.queueSend _ _ _ _).setWorker s.mailbox (by
      rw [show (s.queueInLoop _ _).worker = s.worker from rfl, hw]
      rfl)
  | skipSend m c hw hok => exact h.setWorker s.mailbox (by rw [hw]; rfl)
  | release c hw => exact h.releaseWorker hw

end Balabala.TcpServer
