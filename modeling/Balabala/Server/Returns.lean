import Balabala.Server.Notices

/-!
# What the clients get back

`SendToNetwork` and the task it queues know a number, and the connection a message came from may
have gone in the meantime, and a new one got its number. As long as a connection is bound, nothing
of that matters for its own messages: all of them are sent back on it, once and in order.
-/

namespace Balabala.TcpServer

open Foundation

variable {s s' : TcpServer} {a : Action} {l : LoopId} {c d : ConnId}

/-- A message with data that comes from `c`. -/
def Letter.carries (c : ConnId) (m : Letter) : Bool :=
  m.origin = c && m.msg.type = .networkRecv

/-- The messages of `c` that were sent to the actor. -/
def posted (s : TcpServer) (c : ConnId) : List Bytes :=
  (s.sent.filter (Letter.carries c)).map fun m => m.msg.dataBytes

/-- The messages of `c` that the thread of its loop is about to send to the actor. -/
def beingRead (s : TcpServer) (c : ConnId) : List Bytes :=
  ((s.hand c).filter fun msg => msg.type = .networkRecv).map ActorMessage.dataBytes

/-- The messages of `c` that wait for the worker or are with it. -/
def waiting (s : TcpServer) (c : ConnId) : List Bytes :=
  ((s.worker.hand ++ s.mailbox).filter (Letter.carries c)).map fun m => m.msg.dataBytes

/-- The messages of `c` in the tasks of its loop. -/
def queued (s : TcpServer) (c : ConnId) : List Bytes :=
  ((s.sends (s.home c)).filter fun x => x.1 = c).map fun x => x.2.2

/-- The messages of `c` that were sent on `c`. -/
def own (s : TcpServer) (c : ConnId) : List Bytes :=
  ((s.ran c).filter fun x => x.1 = c).map Prod.snd

/-- Where the messages of the connections are that have not ended, and what becomes of the
others. -/
structure Returned (s : TcpServer) : Prop where
  mail : ∀ m ∈ s.worker.hand ++ s.mailbox, m ∈ s.sent
  data : ∀ m ∈ s.worker.hand, m.msg.type = .networkRecv
  looking : ∀ m l, s.worker = .getConnection m l →
    (s.life m.origin).isEnded = true ∨ l = s.home m.origin
  sending : ∀ m d, s.worker = .send m d →
    s.socket d = s.socket m.origin ∧ ((s.life m.origin).isEnded = true ∨ d = m.origin)
  tasks : ∀ l, ∀ x ∈ s.sends l, (∃ m ∈ s.sent, m.origin = x.1) ∧ x.2.1 = s.socket x.1 ∧
    x.2.2 ≠ [] ∧ ((s.life x.1).isEnded = true ∨ l = s.home x.1)
  ran : ∀ d, ∀ x ∈ s.ran d, x.1 ≤ d ∧ d < s.accepted ∧ s.socket x.1 = s.socket d ∧
    ((s.life x.1).isEnded = true ∨ x.1 = d)
  nonempty : ∀ c, ∀ b ∈ s.received c, b ≠ []
  stream : ∀ c < s.accepted, (s.life c).isEnded = false →
    s.posted c = s.own c ++ s.queued c ++ s.waiting c

/-! ### Steps that move no message -/

/-- Nothing is sent, and connections may end. -/
lemma Returned.frame (h : Returned s) (hconns : SameConns s s') (hsent : s'.sent = s.sent)
    (hmailbox : s'.mailbox = s.mailbox)
    (hworker : s'.worker = s.worker ∨ (∃ c, s.worker = .release c) ∧ s'.worker = .idle)
    (hran : s'.ran = s.ran) (hsends : ∀ l, s'.sends l = s.sends l)
    (hended : ∀ c, (s.life c).isEnded = true → (s'.life c).isEnded = true)
    (hnonempty : ∀ c, ∀ b ∈ s'.received c, b ≠ []) : Returned s' := by
  have hhand : s'.worker.hand = s.worker.hand := by
    rcases hworker with he | ⟨⟨c, he⟩, he'⟩
    · rw [he]
    · rw [he, he']
      rfl
  have hsame : ∀ pc, s'.worker = pc → pc ≠ .idle → s.worker = pc := by
    rintro pc hpc hne
    rcases hworker with he | ⟨-, he⟩
    · rw [← he, hpc]
    · exact absurd (hpc.symm.trans he) hne
  exact {
    mail := by
      rw [hhand, hmailbox, hsent]
      exact h.mail
    data := by
      rw [hhand]
      exact h.data
    looking := by
      intro m l hm
      rw [hconns.home]
      exact (h.looking m l (hsame _ hm (by simp))).imp (hended _) id
    sending := by
      intro m d hm
      rw [hconns.socket]
      obtain ⟨hsocket, hd⟩ := h.sending m d (hsame _ hm (by simp))
      exact ⟨hsocket, hd.imp (hended _) id⟩
    tasks := by
      intro l x hx
      rw [hsends] at hx
      rw [hsent, hconns.socket, hconns.home]
      obtain ⟨hm, hfd, hdata, hl⟩ := h.tasks l x hx
      exact ⟨hm, hfd, hdata, hl.imp (hended _) id⟩
    ran := by
      intro d x hx
      rw [hran] at hx
      rw [hconns.accepted, hconns.socket]
      obtain ⟨hle, hlt, hsocket, hd⟩ := h.ran d x hx
      exact ⟨hle, hlt, hsocket, hd.imp (hended _) id⟩
    nonempty := hnonempty
    stream := by
      intro c hc hlive
      have hlive : (s.life c).isEnded = false := by
        by_contra hne
        rw [hended c (by simpa using hne)] at hlive
        cases hlive
      rw [posted, own, queued, waiting, hsent, hran, hconns.home, hsends, hhand, hmailbox]
      exact h.stream c (hconns.accepted ▸ hc) hlive }

/-- A message is sent to the actor. -/
lemma Returned.post (h : Returned s) {m : Letter} (hconns : SameConns s s')
    (hsent : s'.sent = s.sent ++ [m]) (hmailbox : s'.mailbox = s.mailbox ++ [m])
    (hworker : s'.worker = s.worker) (hran : s'.ran = s.ran) (hsends : ∀ l, s'.sends l = s.sends l)
    (hended : ∀ c, (s'.life c).isEnded = (s.life c).isEnded)
    (hreceived : s'.received = s.received) : Returned s' where
  mail m' hm' := by
    rw [hworker, hmailbox, ← List.append_assoc, List.mem_append] at hm'
    rw [hsent, List.mem_append]
    exact hm'.imp (h.mail m') id
  data := by
    rw [hworker]
    exact h.data
  looking := by
    rw [hworker, hconns.home]
    simp only [hended]
    exact h.looking
  sending := by
    rw [hworker, hconns.socket]
    simp only [hended]
    exact h.sending
  tasks l x hx := by
    rw [hsends] at hx
    rw [hsent, hconns.socket, hconns.home, hended]
    obtain ⟨⟨m', hm', horigin⟩, hrest⟩ := h.tasks l x hx
    exact ⟨⟨m', List.mem_append_left _ hm', horigin⟩, hrest⟩
  ran := by
    rw [hran, hconns.accepted, hconns.socket]
    simp only [hended]
    exact h.ran
  nonempty := by
    rw [hreceived]
    exact h.nonempty
  stream c hc hlive := by
    have hstream := h.stream c (hconns.accepted ▸ hc) ((hended c).symm.trans hlive)
    have hposted : s'.posted c = s.posted c ++ ([m].filter (Letter.carries c)).map
        fun m => m.msg.dataBytes := by
      rw [posted, posted, hsent, List.filter_append, List.map_append]
    have hwaiting : s'.waiting c = s.waiting c ++ ([m].filter (Letter.carries c)).map
        fun m => m.msg.dataBytes := by
      rw [waiting, waiting, hworker, hmailbox, ← List.append_assoc, List.filter_append,
        List.map_append]
    have hqueued : s'.queued c = s.queued c := by rw [queued, queued, hconns.home, hsends]
    have hown : s'.own c = s.own c := by rw [own, own, hran]
    rw [hposted, hwaiting, hqueued, hown, hstream, ← List.append_assoc]

/-! ### A new connection -/

lemma Returned.accept (h : Returned s) (hc : Coherent s) (ht : Told s) (fd : Fd) :
    Returned (s.handleAccept .main fd) := by
  have hold : ∀ {d}, d < s.accepted →
      (s.handleAccept .main fd).life d = s.life d ∧ (s.handleAccept .main fd).home d = s.home d ∧
        (s.handleAccept .main fd).socket d = s.socket d := by
    intro d hd
    simp [handleAccept, Nat.ne_of_lt hd]
  have hhand : ∀ m ∈ s.worker.hand, m.origin < s.accepted :=
    fun m hm => ht.origin m (h.mail m (List.mem_append_left _ hm))
  exact {
    mail := h.mail
    data := h.data
    looking := by
      intro m l hm
      have hm : s.worker = .getConnection m l := hm
      have hlt := hhand m (by simp [hm, WorkerPc.hand])
      rw [(hold hlt).1, (hold hlt).2.1]
      exact h.looking m l hm
    sending := by
      intro m d hm
      have hm : s.worker = .send m d := hm
      have hlt := hhand m (by simp [hm, WorkerPc.hand])
      have hopen := hc.numbered.isOpen d (.inr (by rw [hm]; rfl))
      rw [(hold hlt).1, (hold hlt).2.2, (hold (hc.numbered.socket _ _ hopen).1).2.2]
      exact h.sending m d hm
    tasks := by
      intro l x hx
      obtain ⟨⟨m, hm, horigin⟩, hrest⟩ := h.tasks l x hx
      have hlt := ht.origin m hm
      rw [horigin] at hlt
      rw [(hold hlt).1, (hold hlt).2.1, (hold hlt).2.2]
      exact ⟨⟨m, hm, horigin⟩, hrest⟩
    ran := by
      intro d x hx
      obtain ⟨hle, hlt, hsocket, hd⟩ := h.ran d x hx
      have hx := hold (Nat.lt_of_le_of_lt hle hlt)
      rw [hx.1, hx.2.2, (hold hlt).2.2]
      exact ⟨hle, Nat.lt_succ_of_lt hlt, hsocket, hd⟩
    nonempty := h.nonempty
    stream := by
      intro c hlt hlive
      by_cases hcn : c = s.accepted
      · subst hcn
        have hfilter : ∀ ms : List Letter, (∀ m ∈ ms, m ∈ s.sent) →
            ms.filter (Letter.carries s.accepted) = [] := by
          intro ms hms
          rw [List.filter_eq_nil_iff]
          intro m hm
          simp [Letter.carries, Nat.ne_of_lt (ht.origin m (hms m hm))]
        have hposted : (s.handleAccept .main fd).posted s.accepted = [] :=
          List.map_eq_nil_iff.mpr (hfilter s.sent fun m hm => hm)
        have hwaiting : (s.handleAccept .main fd).waiting s.accepted = [] :=
          List.map_eq_nil_iff.mpr (hfilter (s.worker.hand ++ s.mailbox) h.mail)
        have hqueued : (s.handleAccept .main fd).queued s.accepted = [] := by
          rw [queued, List.map_eq_nil_iff, List.filter_eq_nil_iff]
          intro x hx
          obtain ⟨m, hm, horigin⟩ := (h.tasks _ x hx).1
          have hlt := ht.origin m hm
          rw [horigin] at hlt
          simpa using Nat.ne_of_lt hlt
        have hown : (s.handleAccept .main fd).own s.accepted = [] := by
          rw [own, List.map_eq_nil_iff, List.filter_eq_nil_iff]
          intro x hx
          exact absurd (h.ran _ x hx).2.1 (Nat.lt_irrefl _)
        rw [hposted, hwaiting, hqueued, hown]
        rfl
      · have hlt : c < s.accepted := Nat.lt_of_le_of_ne (Nat.le_of_lt_succ hlt) hcn
        have hqueued : (s.handleAccept .main fd).queued c = s.queued c := by
          rw [queued, queued, (hold hlt).2.1]
          rfl
        rw [(hold hlt).1] at hlive
        rw [hqueued]
        exact h.stream c hlt hlive }

/-! ### The worker -/

/-- As long as the connection has not ended that a message comes from, its number leads to it. -/
lemma Told.bound (h : Told s) (hc : Coherent s) {m : Letter} (hm : m ∈ s.sent)
    (hlive : (s.life m.origin).isEnded = false) :
    (s.life m.origin).isBound = true ∧ s.fds m.msg.fd = some m.origin := by
  have hannounced : (s.life m.origin).isAnnounced = true := by
    by_contra hno
    have hno : (s.life m.origin).isAnnounced = false := by simpa using hno
    have hover : (s.life m.origin).isOver = false := by
      cases hx : s.life m.origin with
      | accepted | mapped | bound => rfl
      | _ =>
        rw [hx] at hno
        cases hno
    have hmem := h.mem_story hm
    rw [story, h.unread _ (.inr hno), hno, hover] at hmem
    cases hmem
  have hbound : (s.life m.origin).isBound = true := by
    cases hx : s.life m.origin with
    | accepted | mapped | bound =>
      rw [hx] at hannounced
      cases hannounced
    | unbound | leaving | removed =>
      rw [hx] at hlive
      cases hlive
    | _ => rfl
  refine ⟨hbound, ?_⟩
  rw [h.fd hm]
  refine hc.numbered.isOpen _ (.inl fun he => ?_)
  rw [he] at hlive
  cases hlive

lemma Life.isMapped_of_isBound {x : Life} (h : x.isBound = true) : x.isMapped = true := by
  cases x with
  | accepted | removed => cases h
  | _ => rfl

/-- The worker goes on with the message it is at. -/
lemma Returned.setWorker (h : Returned s) {worker : WorkerPc} (hhand : worker.hand = s.worker.hand)
    (hlooking : ∀ m l, worker = .getConnection m l →
      (s.life m.origin).isEnded = true ∨ l = s.home m.origin)
    (hsending : ∀ m d, worker = .send m d →
      s.socket d = s.socket m.origin ∧ ((s.life m.origin).isEnded = true ∨ d = m.origin)) :
    Returned (s.setWorker worker) where
  mail := by
    rw [show (s.setWorker worker).worker.hand = s.worker.hand from hhand]
    exact h.mail
  data := by
    rw [show (s.setWorker worker).worker.hand = s.worker.hand from hhand]
    exact h.data
  looking := hlooking
  sending := hsending
  tasks := h.tasks
  ran := h.ran
  nonempty := h.nonempty
  stream c hc hlive := by
    have hwaiting : (s.setWorker worker).waiting c = s.waiting c := by
      rw [waiting, waiting, show (s.setWorker worker).worker.hand = s.worker.hand from hhand]
      rfl
    rw [hwaiting]
    exact h.stream c hc hlive

/-- The worker is done with a message. -/
lemma waiting_finish {m : Letter} (hold : s.worker.hand = [m]) (hdata : m.msg.type = .networkRecv)
    (hnew : s'.worker.hand = []) (hmailbox : s'.mailbox = s.mailbox) (c : ConnId) :
    s.waiting c = (if m.origin = c then [m.msg.dataBytes] else []) ++ s'.waiting c := by
  rw [waiting, waiting, hold, hnew, hmailbox, List.nil_append, List.singleton_append]
  by_cases hmc : m.origin = c
  · rw [if_pos hmc, List.filter_cons_of_pos (by simp [Letter.carries, hmc, hdata])]
    rfl
  · rw [if_neg hmc, List.filter_cons_of_neg (by simp [Letter.carries, hmc])]
    rfl

/-- The worker is done with a message of a connection that has ended, or that it has queued. -/
lemma Returned.finish (h : Returned s) {m : Letter} {worker : WorkerPc}
    (hold : s.worker.hand = [m]) (hnew : worker.hand = [])
    (pendingTasks : LoopId → List Task)
    (htasks : ∀ l, ∀ x ∈ { s with worker, pendingTasks }.sends l,
      (∃ m ∈ s.sent, m.origin = x.1) ∧ x.2.1 = s.socket x.1 ∧ x.2.2 ≠ [] ∧
        ((s.life x.1).isEnded = true ∨ l = s.home x.1))
    (hqueued : ∀ c, (s.life c).isEnded = false → { s with worker, pendingTasks }.queued c =
      s.queued c ++ if m.origin = c then [m.msg.dataBytes] else []) :
    Returned { s with worker, pendingTasks } where
  mail m' hm' := by
    have hm' : m' ∈ worker.hand ++ s.mailbox := hm'
    rw [hnew] at hm'
    exact h.mail m' (List.mem_append_right _ hm')
  data m' hm' := by
    have hm' : m' ∈ worker.hand := hm'
    rw [hnew] at hm'
    cases hm'
  looking := by
    rintro m' l he
    rw [show worker = _ from he] at hnew
    cases hnew
  sending := by
    rintro m' d he
    rw [show worker = _ from he] at hnew
    cases hnew
  tasks := htasks
  ran := h.ran
  nonempty := h.nonempty
  stream c hc hlive := by
    have hdata : m.msg.type = .networkRecv :=
      h.data m (by rw [hold]; exact List.mem_singleton_self m)
    have hwaiting : s.waiting c = (if m.origin = c then [m.msg.dataBytes] else []) ++
        { s with worker, pendingTasks }.waiting c := waiting_finish hold hdata hnew (by rfl) c
    have hstream := h.stream c hc hlive
    rw [hwaiting] at hstream
    rw [hqueued c hlive]
    refine hstream.trans ?_
    simp only [List.append_assoc]
    rfl

/-- The worker drops a message: the connection it comes from has ended. -/
lemma Returned.drop (h : Returned s) {m : Letter} {worker : WorkerPc}
    (hold : s.worker.hand = [m]) (hnew : worker.hand = [])
    (hended : (s.life m.origin).isEnded = true) : Returned (s.setWorker worker) := by
  refine h.finish hold hnew s.pendingTasks h.tasks fun c hlive => ?_
  have hmc : m.origin ≠ c := by
    rintro rfl
    rw [hended] at hlive
    cases hlive
  rw [if_neg hmc, List.append_nil]
  rfl

/-- Messages without data are only logged. -/
lemma waiting_pop {m : Letter} (hw : s.worker = .idle) (hm : s.mailbox = m :: s'.mailbox)
    (hw' : s'.worker = if m.msg.type = .networkRecv then .getEventLoopByFd m else .idle)
    (c : ConnId) : s'.waiting c = s.waiting c := by
  rw [waiting, waiting, hw, hm, hw']
  split_ifs with hdata
  · rfl
  · have hno : ¬ Letter.carries c m = true := by simp [Letter.carries, hdata]
    exact congrArg _ (List.filter_cons_of_neg hno).symm

lemma Returned.pop (h : Returned s) {m : Letter} {rest : List Letter} (hw : s.worker = .idle)
    (hm : s.mailbox = m :: rest) :
    Returned { s with
      mailbox := rest
      worker := if m.msg.type = .networkRecv then .getEventLoopByFd m else .idle } := by
  have hmail : ∀ m' ∈ m :: rest, m' ∈ s.sent := by
    intro m' hm'
    refine h.mail m' ?_
    rw [hw, hm]
    exact hm'
  exact {
    mail := by
      intro m' hm'
      refine hmail m' ?_
      split_ifs at hm'
      · exact hm'
      · exact List.mem_cons_of_mem m hm'
    data := by
      intro m' hm'
      split_ifs at hm' with hdata
      · rwa [List.mem_singleton.mp hm']
      · cases hm'
    looking := by
      intro m' l hm'
      split_ifs at hm'
    sending := by
      intro m' d hm'
      split_ifs at hm'
    tasks := h.tasks
    ran := h.ran
    nonempty := h.nonempty
    stream := by
      intro c hc hlive
      refine (h.stream c hc hlive).trans (congrArg _ ?_)
      symm
      apply waiting_pop hw
      · exact hm
      · rfl }

lemma sends_queueSend (s : TcpServer) (l : LoopId) (origin : ConnId) (fd : Fd) (data : Bytes)
    (l' : LoopId) : (s.queueInLoop l (.send origin fd data)).sends l' =
      s.sends l' ++ if l' = l then [(origin, fd, data)] else [] := by
  have hqueue : (s.queueInLoop l (.send origin fd data)).queue l' =
      s.queue l' ++ if l' = l then [.send origin fd data] else [] :=
    queue_eq_of_phase (by rfl) (pendingTasks_queueInLoop s l _ l')
  rw [sends, sends, hqueue, List.filterMap_append]
  split_ifs <;> rfl

lemma queued_queueSend (s : TcpServer) (l : LoopId) (origin : ConnId) (fd : Fd) (data : Bytes)
    (c : ConnId) : (s.queueInLoop l (.send origin fd data)).queued c =
      s.queued c ++ if s.home c = l ∧ origin = c then [data] else [] := by
  have hhome : (s.queueInLoop l (.send origin fd data)).home c = s.home c := rfl
  rw [queued, queued, sends_queueSend, hhome, List.filter_append, List.map_append]
  congr 1
  by_cases hl : s.home c = l
  · rw [if_pos hl]
    by_cases hc : origin = c
    · rw [if_pos ⟨hl, hc⟩, List.filter_cons_of_pos (by simpa using hc)]
      rfl
    · rw [if_neg fun h => hc h.2, List.filter_cons_of_neg (by simpa using hc)]
      rfl
  · rw [if_neg hl, if_neg fun h => hl h.1]
    rfl

lemma Returned.queueSend (h : Returned s) {m : Letter} (hw : s.worker = .send m d)
    (hok : s.sendable d m.msg.dataBytes) :
    Returned ((s.queueInLoop (s.home d) (.send m.origin (s.socket d) m.msg.dataBytes)).setWorker
      (.release d)) := by
  obtain ⟨hsocket, hd⟩ := h.sending m d hw
  have hhand : s.worker.hand = [m] := by rw [hw]; rfl
  have hm : m ∈ s.sent := h.mail m (by rw [hhand]; exact List.mem_cons_self)
  refine h.finish hhand rfl _ (fun l x hx => ?_) fun c hlive => ?_
  · have hx : x ∈ (s.queueInLoop (s.home d) _).sends l := hx
    rw [sends_queueSend, List.mem_append] at hx
    rcases hx with hx | hx
    · exact h.tasks l x hx
    · split_ifs at hx with hl
      · rw [List.mem_singleton.mp hx]
        exact ⟨⟨m, hm, rfl⟩, hsocket, hok.1, hd.imp id fun he => by rw [hl, he]⟩
      · cases hx
  · refine (queued_queueSend s (s.home d) m.origin (s.socket d) m.msg.dataBytes c).trans ?_
    by_cases hmc : m.origin = c
    · -- the connection has not ended, so it is the one that was found
      subst hmc
      rw [if_pos rfl, if_pos ⟨by rw [hd.resolve_left (by simp [hlive])], rfl⟩]
    · rw [if_neg hmc, if_neg fun he => hmc he.2]

/-! ### The tasks -/

lemma runSend_cases {origin : ConnId} {fd : Fd} {data : Bytes} {rs : List WriteResult}
    (h : s.runSend l origin fd data rs = some s') :
    (s' = s ∧ ∀ d, s.mapConn (l, fd) = some d → ¬ s.sendable d data) ∨
    ∃ d, s.mapConn (l, fd) = some d ∧ s.sendable d data ∧
      { s with ran := Function.update s.ran d (s.ran d ++ [(origin, data)]) }.sendInLoop d data rs =
        some s' := by
  rw [runSend] at h
  split at h
  · split_ifs at h
    cases h
    refine .inl ⟨rfl, fun d hd => ?_⟩
    rw [‹s.mapConn _ = none›] at hd
    cases hd
  · rename_i e he
    split_ifs at h with hok
    · exact .inr ⟨e, he, hok, h⟩
    · cases h
      refine .inl ⟨rfl, fun d hd => ?_⟩
      obtain rfl := Option.some.inj (he.symm.trans hd)
      exact hok

section Take

variable {origin : ConnId} {fd : Fd} {data : Bytes} {rest : List Task}

lemma sends_take (hp : s.phase l = .tasks (.send origin fd data :: rest)) :
    s.sends l = (origin, fd, data) :: (s.setPhase l (.tasks rest)).sends l := by
  rw [sends, sends, queue, queue, hp, phase_setPhase]
  rfl

lemma sends_take_of_ne {l' : LoopId} (hl : l' ≠ l) :
    (s.setPhase l (.tasks rest)).sends l' = s.sends l' := by
  rw [sends, sends, queue, queue, phase_setPhase_of_ne s hl]
  rfl

lemma mem_sends_of_take (hp : s.phase l = .tasks (.send origin fd data :: rest)) {l' : LoopId}
    {x : ConnId × Fd × Bytes} (hx : x ∈ (s.setPhase l (.tasks rest)).sends l') :
    x ∈ s.sends l' := by
  by_cases hl : l' = l
  · subst hl
    rw [sends_take hp]
    exact List.mem_cons_of_mem _ hx
  · rwa [sends_take_of_ne hl] at hx

lemma queued_take (hp : s.phase l = .tasks (.send origin fd data :: rest)) (c : ConnId) :
    s.queued c = (if s.home c = l ∧ origin = c then [data] else []) ++
      (s.setPhase l (.tasks rest)).queued c := by
  have hhome : (s.setPhase l (.tasks rest)).home c = s.home c := rfl
  rw [queued, queued, hhome]
  by_cases hl : s.home c = l
  · rw [hl, sends_take hp]
    by_cases hc : origin = c
    · rw [if_pos ⟨rfl, hc⟩, List.filter_cons_of_pos (by simpa using hc)]
      rfl
    · rw [if_neg fun h => hc h.2, List.filter_cons_of_neg (by simpa using hc)]
      rfl
  · rw [if_neg fun h => hl h.1, sends_take_of_ne hl]
    rfl

/-- A task of a connection that has not ended finds it. -/
lemma Returned.finds (h : Returned s) (hc : Coherent s) (ht : Told s) {x : ConnId × Fd × Bytes}
    (hx : x ∈ s.sends l) (hlive : (s.life x.1).isEnded = false) :
    s.home x.1 = l ∧ s.mapConn (l, x.2.1) = some x.1 ∧ s.sendable x.1 x.2.2 := by
  obtain ⟨⟨m, hm, horigin⟩, hfd, hdata, hl⟩ := h.tasks l x hx
  have hl := hl.resolve_left (by simp [hlive])
  rw [← horigin] at hlive
  obtain ⟨hbound, hopen⟩ := ht.bound hc hm hlive
  have hmap := hc.mapConn_of_mapped (Life.isMapped_of_isBound hbound)
  have h0 := (hc.numbered.socket _ _ hopen).2.2
  rw [ht.fd hm] at h0
  rw [horigin] at hmap h0
  rw [hl, hfd]
  exact ⟨rfl, hmap, hdata, h0⟩

/-- A task has been run. -/
lemma Returned.take (h : Returned s) (hp : s.phase l = .tasks (.send origin fd data :: rest))
    (ran : ConnId → List (ConnId × Bytes))
    (hran : ∀ d, ∀ x ∈ ran d, x.1 ≤ d ∧ d < s.accepted ∧ s.socket x.1 = s.socket d ∧
      ((s.life x.1).isEnded = true ∨ x.1 = d))
    (hown : ∀ c, (s.life c).isEnded = false → { s.setPhase l (.tasks rest) with ran }.own c =
      s.own c ++ if s.home c = l ∧ origin = c then [data] else []) :
    Returned { s.setPhase l (.tasks rest) with ran } where
  mail := h.mail
  data := h.data
  looking := h.looking
  sending := h.sending
  tasks l' x hx := h.tasks l' x (mem_sends_of_take hp hx)
  ran := hran
  nonempty := h.nonempty
  stream c hlt hlive := by
    have hstream := h.stream c hlt hlive
    rw [queued_take hp] at hstream
    rw [hown c hlive]
    refine hstream.trans ?_
    simp only [List.append_assoc]
    rfl

lemma own_update (hran : s'.ran = Function.update s.ran d (s.ran d ++ [(origin, data)]))
    (c : ConnId) : s'.own c = s.own c ++ if d = c ∧ origin = c then [data] else [] := by
  rw [own, own, hran]
  by_cases hdc : d = c
  · subst hdc
    rw [Function.update_self, List.filter_append, List.map_append]
    congr 1
    by_cases ho : origin = d
    · rw [if_pos ⟨rfl, ho⟩, List.filter_cons_of_pos (by simpa using ho)]
      rfl
    · rw [if_neg fun h => ho h.2, List.filter_cons_of_neg (by simpa using ho)]
      rfl
  · rw [Function.update_of_ne (Ne.symm hdc), if_neg fun h => hdc h.1, List.append_nil]

lemma Returned.runSend (h : Returned s) (hc : Coherent s) (ht : Told s)
    (hp : s.phase l = .tasks (.send origin fd data :: rest)) {rs : List WriteResult}
    (hs : (s.setPhase l (.tasks rest)).runSend l origin fd data rs = some s') : Returned s' := by
  have hmem : (origin, fd, data) ∈ s.sends l := by
    rw [sends_take hp]
    exact List.mem_cons_self
  rcases runSend_cases hs with ⟨rfl, hno⟩ | ⟨d, hmap, hok, hsend⟩
  · -- nothing is found, so the connection has ended
    refine h.take hp s.ran h.ran fun c hlive => ?_
    rw [if_neg, List.append_nil]
    · rfl
    · rintro ⟨-, rfl⟩
      obtain ⟨-, hmap, hok⟩ := h.finds hc ht hmem hlive
      exact hno _ hmap hok
  · obtain ⟨hopen, hhome, -⟩ := hc.tables.mapConn_eq_some.mp hmap
    obtain ⟨hlt, hsocket, -⟩ := hc.numbered.socket _ _ hopen
    obtain ⟨⟨m, hm, horigin⟩, hfd, -, -⟩ := h.tasks l _ hmem
    have horiginlt : origin < s.accepted := by
      have hlt := ht.origin m hm
      rwa [horigin] at hlt
    have hself : (s.life origin).isEnded = false → origin = d := by
      intro hlive
      obtain ⟨-, hfound, -⟩ := h.finds hc ht hmem hlive
      exact Option.some.inj (hfound.symm.trans hmap)
    have htaken : Returned { s.setPhase l (.tasks rest) with
        ran := Function.update s.ran d (s.ran d ++ [(origin, data)]) } := by
      refine h.take hp _ (fun d' x hx => ?_) fun c hlive => ?_
      · by_cases hd' : d' = d
        · subst hd'
          rw [Function.update_self, List.mem_append, List.mem_singleton] at hx
          rcases hx with hx | rfl
          · exact h.ran _ x hx
          · refine ⟨ht.latest fd _ hopen _ horiginlt hfd.symm, hlt, hfd.symm.trans hsocket.symm, ?_⟩
            cases he : (s.life origin).isEnded with
            | true => exact .inl rfl
            | false => exact .inr (hself he)
        · rw [Function.update_of_ne hd'] at hx
          exact h.ran d' x hx
      · refine (own_update (s := s) rfl c).trans ?_
        by_cases hoc : origin = c
        · subst hoc
          have hdo := hself hlive
          rw [if_pos ⟨hdo.symm, rfl⟩, if_pos ⟨by rw [hdo]; exact hhome, rfl⟩]
        · rw [if_neg fun he => hoc he.2, if_neg fun he => hoc he.2]
    have hq := (outputOnly_sendInLoop hsend).quiet
    exact htaken.frame hq.conns hq.sent hq.mailbox hq.worker hq.ran hq.sends hq.ended
      (by rw [hq.received]; exact htaken.nonempty)

end Take

/-! ### All steps -/

/-- A message with data has what was received. -/
lemma Told.dataBytes (h : Told s) {m : Letter} (hm : m ∈ s.sent)
    (hdata : m.msg.type = .networkRecv) : m.msg.dataBytes ∈ s.received m.origin := by
  have hmem := h.mem_story hm
  have hnotice : ∀ (p : Bool) (type : MsgType), type ≠ .networkRecv →
      m.msg ∉ if p then [AcceptedConnection.notice type (s.socket m.origin)] else [] := by
    intro p type hne hin
    split_ifs at hin
    · rw [List.mem_singleton.mp hin] at hdata
      exact hne hdata
    · cases hin
  rw [story, List.mem_append, List.mem_append, List.mem_map] at hmem
  rcases hmem with (hconnected | ⟨bytes, hbytes, he⟩) | hdisconnected
  · exact absurd hconnected (hnotice _ _ (by simp))
  · rwa [← he, ActorMessage.dataBytes_make]
  · exact absurd hdisconnected (hnotice _ _ (by simp))

lemma Returned.next (h : Returned s) (hc : Coherent s) (ha : Addressed s) (ht : Told s)
    (hs : machine.next s a = some s') : Returned s' := by
  cases Effect.of_next hc ha hs with
  | quiet a s' hq =>
    exact h.frame hq.conns hq.sent hq.mailbox hq.worker hq.ran hq.sends hq.ended
      (by rw [hq.received]; exact h.nonempty)
  | accept fd hl hfd hfree => exact h.accept hc ht fd
  | connected l c hl =>
    have hlife : s.life c = .bound := (hc.staged.fits hl).2
    rw [sendConnected, send_eq]
    refine h.post ⟨rfl, rfl, rfl, rfl, rfl, rfl⟩ rfl rfl rfl rfl (fun _ => rfl) (fun d => ?_) rfl
    show (Function.update s.life c .announced d).isEnded = _
    by_cases hd : d = c
    · rw [hd, Function.update_self, hlife]
      rfl
    · rw [Function.update_of_ne hd]
  | recv l c out bytes hl hbytes =>
    refine h.frame ⟨rfl, rfl, rfl, rfl, rfl, rfl⟩ rfl rfl (.inl rfl) rfl (fun _ => rfl)
      (fun _ => id) fun d b hb => ?_
    have hb : b ∈ Function.update s.received c (s.received c ++ [bytes]) d := hb
    by_cases hd : d = c
    · rw [hd, Function.update_self, List.mem_append, List.mem_singleton] at hb
      rcases hb with hb | rfl
      · exact h.nonempty c b hb
      · exact hbytes
    · rw [Function.update_of_ne hd] at hb
      exact h.nonempty d b hb
  | eof l c out hl =>
    obtain ⟨-, -, hlife, -⟩ := hc.reading hl
    refine h.frame ⟨rfl, rfl, rfl, rfl, rfl, rfl⟩ rfl rfl (.inl rfl) rfl (fun _ => rfl)
      (fun d hd => ?_) h.nonempty
    show (Function.update s.life c .closing d).isEnded = true
    have hdc : d ≠ c := by
      rintro rfl
      rw [hlife] at hd
      cases hd
    rwa [Function.update_of_ne hdc]
  | post l c out msg hl =>
    rw [send_eq]
    exact h.post ⟨rfl, rfl, rfl, rfl, rfl, rfl⟩ rfl rfl rfl rfl (fun _ => rfl) (fun _ => rfl) rfl
  | pop m rest hw hm => exact h.pop hw hm
  | getEventLoopByFd m hw =>
    refine h.setWorker (by rw [hw]; rfl) ?_ (by simp)
    rintro m' l he
    cases he
    cases hended : (s.life m.origin).isEnded with
    | true => exact .inl rfl
    | false =>
      have hm : m ∈ s.sent := h.mail m (by rw [hw]; exact List.mem_cons_self)
      obtain ⟨hbound, hopen⟩ := ht.bound hc hm hended
      exact .inr (by rw [hc.tables.getEventLoopByFd hopen, if_pos hbound])
  | notFound m l hw hfd =>
    refine h.drop (by rw [hw]; rfl) rfl ?_
    by_contra hlive
    have hlive : (s.life m.origin).isEnded = false := by simpa using hlive
    have hm : m ∈ s.sent := h.mail m (by rw [hw]; exact List.mem_cons_self)
    obtain ⟨hbound, hopen⟩ := ht.bound hc hm hlive
    have hmap := hc.mapConn_of_mapped (Life.isMapped_of_isBound hbound)
    rw [← (h.looking m l hw).resolve_left (by simp [hlive]), ← ht.fd hm, hfd] at hmap
    cases hmap
  | getConnection m l c hw hfd =>
    have hm : m ∈ s.sent := h.mail m (by rw [hw]; exact List.mem_cons_self)
    obtain ⟨hopen, -, -⟩ := hc.tables.mapConn_eq_some.mp hfd
    refine h.setWorker (by rw [hw]; rfl) (by simp) ?_
    rintro m' d he
    cases he
    refine ⟨(hc.numbered.socket _ _ hopen).2.1.trans (ht.fd hm), ?_⟩
    cases hended : (s.life m.origin).isEnded with
    | true => exact .inl rfl
    | false =>
      obtain ⟨-, hopen'⟩ := ht.bound hc hm hended
      exact .inr (Option.some.inj (hopen.symm.trans hopen'))
  | queueSend m c hw hok => exact h.queueSend hw hok
  | skipSend m c hw hno =>
    refine h.drop (by rw [hw]; rfl) rfl ?_
    by_contra hlive
    have hlive : (s.life m.origin).isEnded = false := by simpa using hlive
    have hm : m ∈ s.sent := h.mail m (by rw [hw]; exact List.mem_cons_self)
    have hdata : m.msg.type = .networkRecv := h.data m (by rw [hw]; exact List.mem_singleton_self m)
    obtain rfl := (h.sending m c hw).2.resolve_left (by simp [hlive])
    have h0 := (hc.numbered.socket _ _ (ht.bound hc hm hlive).2).2.2
    rw [ht.fd hm] at h0
    exact hno ⟨h.nonempty _ _ (ht.dataBytes hm hdata), h0⟩
  | runSend l origin fd data rest rs s₁ hl hp hw => exact h.runSend hc ht hp hw

theorem returned_of_reach {ok : TcpServer → Action → Prop} (h : machine.Reach ok s) :
    Returned s := by
  induction h with
  | start hi =>
    obtain ⟨id, n, -, rfl⟩ := hi
    exact {
      mail := by
        rintro m ⟨⟩
      data := by
        rintro m ⟨⟩
      looking := by
        rintro m l ⟨⟩
      sending := by
        rintro m d ⟨⟩
      tasks := by
        rintro l x ⟨⟩
      ran := by
        rintro d x ⟨⟩
      nonempty := by
        rintro c b ⟨⟩
      stream := fun c hc => absurd hc (Nat.not_lt_zero c) }
  | step hr _ hs ih =>
    exact ih.next (coherent_of_reach hr) (addressed_of_reach hr) (told_of_reach hr) hs

/-- What was received on a connection was sent to the actor or is at the thread that reads. -/
lemma Told.posted_append_beingRead (h : Told s) (hc : c < s.accepted) :
    s.received c = s.posted c ++ s.beingRead c := by
  have hstory := congrArg
    (fun ms : List ActorMessage =>
      (ms.filter fun msg => msg.type = .networkRecv).map ActorMessage.dataBytes) (h.letters c hc)
  have hletters : ((s.letters c).filter fun msg => msg.type = .networkRecv).map
      ActorMessage.dataBytes = s.posted c := by
    rw [TcpServer.letters, posted, List.filter_map, List.filter_filter, List.map_map]
    congr 2
    funext m
    simp [Letter.carries, Bool.and_comm]
  have hnotice : ∀ (p : Bool) (type : MsgType), type ≠ .networkRecv →
      (if p then [AcceptedConnection.notice type (s.socket c)] else []).filter
        (fun msg => msg.type = .networkRecv) = [] := by
    intro p type hne
    cases p
    · rfl
    · exact List.filter_eq_nil_iff.mpr fun msg hmsg => by
        rw [List.mem_singleton.mp hmsg]
        simp [AcceptedConnection.notice, hne]
  have hreceived : ((s.received c).map (ActorMessage.make .networkRecv 0 (s.socket c))).filter
      (fun msg => msg.type = .networkRecv) =
        (s.received c).map (ActorMessage.make .networkRecv 0 (s.socket c)) := by
    refine List.filter_eq_self.mpr fun msg hmsg => ?_
    obtain ⟨bytes, -, rfl⟩ := List.mem_map.mp hmsg
    simp
  simp only [List.filter_append, List.map_append] at hstory
  rw [hletters, story, List.filter_append, List.filter_append, hnotice _ _ (by simp),
    hnotice _ _ (by simp), hreceived, List.nil_append, List.append_nil, List.map_map] at hstory
  rw [beingRead, hstory]
  refine (List.map_id _).symm.trans (List.map_congr_left fun bytes _ => ?_)
  simp

/-- As long as a connection has not ended, all that was received on it is sent back on it, message
by message, once and in order, or is on the way: in a task of its loop, with the worker, in the
mailbox, or at the thread that reads. None of it goes to anybody else. What else is sent on it
comes from earlier connections under its number that have ended. -/
theorem received_eq (h : machine.Reachable s) (hc : c < s.accepted)
    (hlive : (s.life c).isEnded = false) :
    s.received c = s.own c ++ s.queued c ++ s.waiting c ++ s.beingRead c ∧
    (∀ d, ∀ x ∈ s.ran d, x.1 = c → d = c) ∧
    ∀ x ∈ s.ran c, x.1 ≠ c →
      x.1 < c ∧ s.socket x.1 = s.socket c ∧ (s.life x.1).isEnded = true := by
  have hr := returned_of_reach h
  refine ⟨?_, fun d x hx hxc => ?_, fun x hx hne => ?_⟩
  · rw [(told_of_reach h).posted_append_beingRead hc, hr.stream c hc hlive]
  · obtain ⟨-, -, -, hd⟩ := hr.ran d x hx
    rw [hxc] at hd
    exact (hd.resolve_left (by simp [hlive])).symm
  · obtain ⟨hle, -, hsocket, hd⟩ := hr.ran c x hx
    exact ⟨Nat.lt_of_le_of_ne hle hne, hsocket, hd.resolve_right hne⟩

/-- The client of the only connection sends two bytes, and one of them is on the way back. -/
def oneEcho : List Action :=
  [.wait .main [], .listen, .accept (some 5), .loop .main, .loop .main, .loop .main, .loop .main,
    .accept none, .wait (.sub 0) [], .loop (.sub 0), .loop (.sub 0),
    .wait (.sub 0) [⟨5, true, false⟩], .loop (.sub 0), .recv (.sub 0) (.data [7, 8]),
    .loop (.sub 0), .loop (.sub 0), .recv (.sub 0) .eagain, .pop, .pop, .worker, .worker, .worker,
    .worker, .loop (.sub 0), .write (.sub 0) [.wrote 1, .eagain]]

theorem received_eq_oneEcho :
    let s := machine.replay (start 1 1) oneEcho
    s.received 0 = [[7, 8]] ∧ s.own 0 = [[7, 8]] := by
  intro s
  have hs : machine.Reachable s := reachable_replay_start (by decide) 1 oneEcho
  have hqueued : s.queued 0 = [] := by decide +kernel
  have hwaiting : s.waiting 0 = [] := by decide +kernel
  have hreading : s.beingRead 0 = [] := by decide +kernel
  have hreceived : s.received 0 = [[7, 8]] := by decide +kernel
  have heq := (received_eq (c := 0) hs (by decide +kernel) (by decide +kernel)).1
  rw [hqueued, hwaiting, hreading, hreceived] at heq
  exact ⟨hreceived, by simpa using heq.symm⟩

end Balabala.TcpServer
