import Balabala.Server.Returns

/-!
# Connections that have ended

When the number of a connection has been unbound, `GetEventLoopByFd` gives the main loop for it, so
that what is still on the way on a connection of a sub reactor gets lost from some message on. In
the main loop the connection is found until it is removed. Either way a client gets back a first
part of what it has sent, without a gap.
-/

namespace Balabala.TcpServer

open Foundation

variable {s s' : TcpServer} {a : Action} {l : LoopId} {c d : ConnId}

/-- No message of `c` will be queued for it any more. -/
structure Cut (s : TcpServer) (c : ConnId) : Prop where
  home : s.home c ≠ .main
  looking : ∀ m l, s.worker = .getConnection m l → m.origin = c → l ≠ s.home c
  sending : ∀ m d, s.worker = .send m d → m.origin ≠ c

/-- Of the messages of `c` all, or all up to some point, will be sent on it while it is there. -/
def Leads (s : TcpServer) (c : ConnId) : Prop :=
  ∃ rest, s.posted c = s.own c ++ s.queued c ++ rest ∧ (rest = s.waiting c ∨ s.Cut c)

structure Endings (s : TcpServer) : Prop where
  looking : ∀ m l, s.worker = .getConnection m l →
    s.life m.origin = .removed ∨ l = s.home m.origin ∨ l = .main
  sent : ∀ c < s.accepted, s.own c <+: s.posted c
  leads : ∀ c < s.accepted, s.life c ≠ .removed → s.Leads c

lemma Leads.own_posted (h : s.Leads c) : s.own c <+: s.posted c := by
  obtain ⟨rest, he, -⟩ := h
  exact ⟨s.queued c ++ rest, by rw [he, List.append_assoc]⟩

lemma Returned.leads (h : Returned s) (hc : c < s.accepted) (hlive : (s.life c).isEnded = false) :
    s.Leads c := ⟨s.waiting c, h.stream c hc hlive, .inl rfl⟩

lemma isEnded_of_removed (h : s.life c = .removed) : (s.life c).isEnded = true := by
  rw [h]
  rfl

/-- Only of the connections that have ended there is something to show. -/
lemma Endings.of_ended (h : Endings s) (hr : Returned s')
    (hlooking : ∀ m l, s'.worker = .getConnection m l →
      s'.life m.origin = .removed ∨ l = s'.home m.origin ∨ l = .main)
    (hended : ∀ c < s'.accepted, (s'.life c).isEnded = true → c < s.accepted ∧
      (s'.life c = .removed → s'.own c = s.own c ∧ s'.posted c = s.posted c) ∧
      (s'.life c ≠ .removed → s'.Leads c)) : Endings s' := by
  have hleads : ∀ c < s'.accepted, s'.life c ≠ .removed → s'.Leads c := by
    intro c hc hne
    cases hx : (s'.life c).isEnded with
    | false => exact hr.leads hc hx
    | true => exact (hended c hc hx).2.2 hne
  refine ⟨hlooking, fun c hc => ?_, hleads⟩
  by_cases hx : s'.life c = .removed
  · obtain ⟨hlt, hsame, -⟩ := hended c hc (isEnded_of_removed hx)
    rw [(hsame hx).1, (hsame hx).2]
    exact h.sent c hlt
  · exact (hleads c hc hx).own_posted

/-- No message of a connection that has ended moves. -/
lemma Endings.frame (h : Endings s) (hr : Returned s')
    (hlooking : ∀ m l, s'.worker = .getConnection m l →
      s'.life m.origin = .removed ∨ l = s'.home m.origin ∨ l = .main)
    (hended : ∀ c < s'.accepted, (s'.life c).isEnded = true → c < s.accepted ∧
      s'.own c = s.own c ∧ s'.posted c = s.posted c ∧ s'.queued c = s.queued c ∧
      s'.waiting c = s.waiting c ∧
      (s'.life c ≠ .removed → s.life c ≠ .removed ∧ (s.Cut c → s'.Cut c))) : Endings s' := by
  refine h.of_ended hr hlooking fun c hc hx => ?_
  obtain ⟨hlt, hown, hposted, hqueued, hwaiting, hcut⟩ := hended c hc hx
  refine ⟨hlt, fun _ => ⟨hown, hposted⟩, fun hne => ?_⟩
  obtain ⟨hne, hcut⟩ := hcut hne
  obtain ⟨rest, he, hrest⟩ := h.leads c hlt hne
  exact ⟨rest, by rw [hposted, hown, hqueued, he], hrest.imp (by rw [hwaiting]; exact id) hcut⟩

/-! ### The threads of the loops -/

lemma Endings.quiet (h : Endings s) (hr : Returned s') (hq : Quiet s s') : Endings s' := by
  have hsame : ∀ pc, s'.worker = pc → pc ≠ .idle → s.worker = pc := by
    rintro pc hpc hne
    rcases hq.worker with he | ⟨-, he⟩
    · rw [← he, hpc]
    · exact absurd (hpc.symm.trans he) hne
  have hhand : s'.worker.hand = s.worker.hand := by
    rcases hq.worker with he | ⟨⟨c, he⟩, he'⟩
    · rw [he]
    · rw [he, he']
      rfl
  refine h.frame hr (fun m l hm => ?_) fun c hc _ => ⟨hq.conns.accepted ▸ hc, ?_, ?_, ?_, ?_, ?_⟩
  · rw [hq.conns.home]
    exact (h.looking m l (hsame _ hm (by simp))).imp (hq.removed _) id
  · rw [own, own, hq.ran]
  · rw [posted, posted, hq.sent]
  · rw [queued, queued, hq.conns.home, hq.sends]
  · rw [waiting, waiting, hhand, hq.mailbox]
  · refine fun hne => ⟨fun he => hne (hq.removed c he), fun hcut => ?_⟩
    exact {
      home := by rw [hq.conns.home]; exact hcut.home
      looking := by
        intro m l hm
        rw [hq.conns.home]
        exact hcut.looking m l (hsame _ hm (by simp))
      sending := fun m d hm => hcut.sending m d (hsame _ hm (by simp)) }

lemma Endings.accept (h : Endings s) (ht : Told s) (hr : Returned s) {fd : Fd}
    (hr' : Returned (s.handleAccept .main fd)) : Endings (s.handleAccept .main fd) := by
  have hlife : ∀ d, d ≠ s.accepted → (s.handleAccept .main fd).life d = s.life d :=
    fun d hd => Function.update_of_ne hd ..
  have hhome : ∀ d, d ≠ s.accepted → (s.handleAccept .main fd).home d = s.home d :=
    fun d hd => Function.update_of_ne hd ..
  refine h.frame hr' (fun m l hm => ?_) fun c hc hx => ?_
  · have hm : s.worker = .getConnection m l := hm
    have hlt := ht.origin m (hr.mail m (by rw [hm]; exact List.mem_cons_self))
    rw [hlife _ (Nat.ne_of_lt hlt), hhome _ (Nat.ne_of_lt hlt)]
    exact h.looking m l hm
  · have hne : c ≠ s.accepted := by
      rintro rfl
      simp [handleAccept, Life.isEnded] at hx
    refine ⟨Nat.lt_of_le_of_ne (Nat.le_of_lt_succ hc) hne, rfl, rfl, ?_, rfl, fun hx => ?_⟩
    · rw [queued, queued, hhome c hne]
      rfl
    · rw [hlife c hne] at hx
      refine ⟨hx, fun hcut => ⟨?_, ?_, hcut.sending⟩⟩
      · rw [hhome c hne]
        exact hcut.home
      · rw [hhome c hne]
        exact hcut.looking

/-- A thread does something for a connection that has not ended. -/
lemma Endings.other (h : Endings s) (hr : Returned s') (hconns : SameConns s s')
    (hworker : s'.worker = s.worker) (hran : s'.ran = s.ran) (hsends : ∀ l, s'.sends l = s.sends l)
    (hposted : ∀ d, d ≠ c → s'.posted d = s.posted d)
    (hwaiting : ∀ d, d ≠ c → s'.waiting d = s.waiting d)
    (hlife : ∀ d, d ≠ c → s'.life d = s.life d) (hold : s.life c ≠ .removed)
    (hlive : (s'.life c).isEnded = false) : Endings s' := by
  refine h.frame hr (fun m l hm => ?_) fun d hd hx => ?_
  · rw [hworker] at hm
    rw [hconns.home]
    refine (h.looking m l hm).imp (fun he => ?_) id
    rw [hlife _ (by rintro rfl; exact hold he), he]
  · have hdc : d ≠ c := by
      rintro rfl
      rw [hlive] at hx
      cases hx
    refine ⟨hconns.accepted ▸ hd, ?_, hposted d hdc, ?_, hwaiting d hdc, fun hne => ⟨?_, ?_⟩⟩
    · rw [own, own, hran]
    · rw [queued, queued, hconns.home, hsends]
    · rwa [hlife d hdc] at hne
    · rintro ⟨hhome, hlooking, hsending⟩
      exact ⟨by rwa [hconns.home], by rwa [hconns.home, hworker], by rwa [hworker]⟩

lemma posted_append_of_ne {m : Letter} (hsent : s'.sent = s.sent ++ [m]) (hm : m.origin ≠ c) :
    s'.posted c = s.posted c := by
  rw [posted, posted, hsent, List.filter_append,
    List.filter_cons_of_neg (by simp [Letter.carries, hm]), List.filter_nil, List.append_nil]

lemma waiting_append_of_ne {m : Letter} (hworker : s'.worker = s.worker)
    (hmailbox : s'.mailbox = s.mailbox ++ [m]) (hm : m.origin ≠ c) :
    s'.waiting c = s.waiting c := by
  rw [waiting, waiting, hworker, hmailbox, ← List.append_assoc, List.filter_append,
    List.filter_cons_of_neg (by simp [Letter.carries, hm]), List.filter_nil, List.append_nil]

/-! ### The worker -/

lemma Life.isBound_of_isEnded {x : Life} (h : x.isEnded = true) : x.isBound = false := by
  cases x with
  | unbound | leaving | removed => rfl
  | _ => cases h

/-- A connection that has ended is still there. -/
lemma Coherent.ended (h : Coherent s) (hx : (s.life c).isEnded = true)
    (hne : s.life c ≠ .removed) : s.fds (s.socket c) = some c ∧
      s.mapConn (s.home c, s.socket c) = some c := by
  refine ⟨h.numbered.isOpen c (.inl hne), h.mapConn_of_mapped ?_⟩
  cases hl : s.life c with
  | unbound | leaving => rfl
  | removed => exact absurd hl hne
  | _ =>
    rw [hl] at hx
    cases hx

lemma Endings.pop (h : Endings s) {m : Letter} {rest : List Letter} (hw : s.worker = .idle)
    (hm : s.mailbox = m :: rest) (hr : Returned { s with
      mailbox := rest
      worker := if m.msg.type = .networkRecv then .getEventLoopByFd m else .idle }) :
    Endings { s with
      mailbox := rest
      worker := if m.msg.type = .networkRecv then .getEventLoopByFd m else .idle } := by
  refine h.frame hr (fun m' l hm' => ?_) fun c hc _ => ⟨hc, rfl, rfl, rfl, ?_, fun hne => ⟨hne, ?_⟩⟩
  · split_ifs at hm'
  · apply waiting_pop hw
    · exact hm
    · rfl
  · rintro ⟨hhome, -, -⟩
    refine ⟨hhome, fun m' l hm' => ?_, fun m' d hm' => ?_⟩
    · split_ifs at hm'
    · split_ifs at hm'

/-- The worker looks up the loop. -/
lemma Endings.lookup (h : Endings s) (hc : Coherent s) (ht : Told s) {m : Letter}
    (hm : m ∈ s.sent) (hw : s.worker = .getEventLoopByFd m)
    (hr : Returned (s.setWorker (.getConnection m (s.getEventLoopByFd m.msg.fd)))) :
    Endings (s.setWorker (.getConnection m (s.getEventLoopByFd m.msg.fd))) := by
  have hopen : s.life m.origin ≠ .removed → s.getEventLoopByFd m.msg.fd =
      if (s.life m.origin).isBound then s.home m.origin else .main := by
    intro hne
    rw [ht.fd hm]
    exact hc.tables.getEventLoopByFd (hc.numbered.isOpen _ (.inl hne))
  refine h.frame hr ?_ fun c hlt hx => ⟨hlt, rfl, rfl, rfl, ?_, fun hne => ⟨hne, fun hcut => ?_⟩⟩
  · rintro m' l he
    cases he
    by_cases hne : s.life m.origin = .removed
    · exact .inl hne
    · rw [hopen hne]
      split_ifs
      · exact .inr (.inl rfl)
      · exact .inr (.inr rfl)
  · rw [waiting, waiting, hw]
    rfl
  · refine ⟨hcut.home, ?_, ?_⟩
    · rintro m' l he rfl
      cases he
      have hx : (s.life m.origin).isEnded = true := hx
      show s.getEventLoopByFd m.msg.fd ≠ s.home m.origin
      rw [hopen hne, Life.isBound_of_isEnded hx, if_neg Bool.false_ne_true]
      exact Ne.symm hcut.home
    · rintro m' d ⟨⟩

/-- The worker finds a connection. -/
lemma Endings.found (h : Endings s) (hc : Coherent s) (ht : Told s) {m : Letter} (hm : m ∈ s.sent)
    (hw : s.worker = .getConnection m l) (hfd : s.mapConn (l, m.msg.fd) = some d)
    (hr : Returned (s.setWorker (.send m d))) : Endings (s.setWorker (.send m d)) := by
  refine h.frame hr ?_ fun c hlt hx => ⟨hlt, rfl, rfl, rfl, ?_, fun hne => ⟨hne, fun hcut => ?_⟩⟩
  · rintro m' l' ⟨⟩
  · rw [waiting, waiting, hw]
    rfl
  · refine ⟨hcut.home, ?_, ?_⟩
    · rintro m' l' ⟨⟩
    · rintro m' d' he rfl
      cases he
      obtain ⟨hopen, hhome, -⟩ := hc.tables.mapConn_eq_some.mp hfd
      rw [ht.fd hm, (hc.ended hx hne).1] at hopen
      obtain rfl := Option.some.inj hopen
      exact hcut.looking m l hw rfl hhome.symm

/-- The worker drops a message. -/
lemma Endings.drop (h : Endings s) (hr : Returned s) {m : Letter} {worker : WorkerPc}
    (hold : s.worker.hand = [m]) (hnew : worker.hand = [])
    (hhome : (s.life m.origin).isEnded = true → s.life m.origin ≠ .removed →
      s.home m.origin ≠ .main)
    (hr' : Returned (s.setWorker worker)) : Endings (s.setWorker worker) := by
  have hdata : m.msg.type = .networkRecv :=
    hr.data m (by rw [hold]; exact List.mem_singleton_self m)
  have hcut : ∀ c, s.home c ≠ .main → (s.setWorker worker).Cut c := by
    intro c hc
    refine ⟨hc, fun m' l he => ?_, fun m' d he => ?_⟩
    · rw [show worker = _ from he] at hnew
      cases hnew
    · rw [show worker = _ from he] at hnew
      cases hnew
  refine h.of_ended hr' (fun m' l he => ?_) fun c hlt hx =>
    ⟨hlt, fun _ => ⟨rfl, rfl⟩, fun hne => ?_⟩
  · rw [show worker = _ from he] at hnew
    cases hnew
  · obtain ⟨rest, he, hrest⟩ := h.leads c hlt hne
    by_cases hmc : m.origin = c
    · subst hmc
      exact ⟨rest, he, .inr (hcut _ (hhome hx hne))⟩
    · have hwaiting : s.waiting c = (if m.origin = c then [m.msg.dataBytes] else []) ++
          (s.setWorker worker).waiting c := waiting_finish hold hdata hnew (by rfl) c
      rw [if_neg hmc, List.nil_append] at hwaiting
      exact ⟨rest, he, hrest.imp (fun heq => heq.trans hwaiting) fun hold => hcut c hold.home⟩

/-- As long as a connection is there, the worker only finds that. -/
lemma Returned.sending_eq (h : Returned s) (hc : Coherent s) {m : Letter}
    (hw : s.worker = .send m d) (hne : s.life m.origin ≠ .removed) : d = m.origin := by
  have hopen := hc.numbered.isOpen d (.inr (by rw [hw]; rfl))
  rw [(h.sending m d hw).1, hc.numbered.isOpen _ (.inl hne)] at hopen
  exact (Option.some.inj hopen).symm

lemma Endings.queueSend (h : Endings s) (hc : Coherent s) (hr : Returned s) {m : Letter}
    (hw : s.worker = .send m d) (hr' : Returned ((s.queueInLoop (s.home d)
      (.send m.origin (s.socket d) m.msg.dataBytes)).setWorker (.release d))) :
    Endings ((s.queueInLoop (s.home d) (.send m.origin (s.socket d) m.msg.dataBytes)).setWorker
      (.release d)) := by
  have hhand : s.worker.hand = [m] := by rw [hw]; rfl
  have hdata : m.msg.type = .networkRecv :=
    hr.data m (by rw [hhand]; exact List.mem_singleton_self m)
  refine h.of_ended hr' ?_ fun c hlt hx => ⟨hlt, fun _ => ⟨rfl, rfl⟩, fun hne => ?_⟩
  · rintro m' l ⟨⟩
  · obtain ⟨rest, he, hrest⟩ := h.leads c hlt hne
    have hwaiting : s.waiting c = (if m.origin = c then [m.msg.dataBytes] else []) ++
        ((s.queueInLoop (s.home d) (.send m.origin (s.socket d) m.msg.dataBytes)).setWorker
          (.release d)).waiting c := waiting_finish hhand hdata rfl (by rfl) c
    have hqueued := queued_queueSend s (s.home d) m.origin (s.socket d) m.msg.dataBytes c
    by_cases hmc : m.origin = c
    · subst hmc
      obtain rfl := hr.sending_eq hc hw hne
      have hrest := hrest.resolve_right fun hcut => hcut.sending m _ hw rfl
      rw [if_pos ⟨rfl, rfl⟩] at hqueued
      rw [hrest, hwaiting, if_pos rfl, ← List.append_assoc, List.append_assoc (s.own _),
        ← hqueued] at he
      exact ⟨_, he, .inl rfl⟩
    · rw [if_neg hmc, List.nil_append] at hwaiting
      rw [if_neg fun hand => hmc hand.2, List.append_nil] at hqueued
      refine ⟨rest, ?_, hrest.imp (fun heq => heq.trans hwaiting) fun hcut => ⟨hcut.home, ?_, ?_⟩⟩
      · rw [← hqueued] at he
        exact he
      · rintro m' l ⟨⟩
      · rintro m' d' ⟨⟩

/-! ### The tasks -/

lemma Endings.runSend (h : Endings s) (hc : Coherent s) (hr : Returned s)
    {origin : ConnId} {fd : Fd} {data : Bytes} {rest : List Task} {rs : List WriteResult}
    (hp : s.phase l = .tasks (.send origin fd data :: rest))
    (hs : (s.setPhase l (.tasks rest)).runSend l origin fd data rs = some s')
    (hr' : Returned s') : Endings s' := by
  have hmem : (origin, fd, data) ∈ s.sends l := by
    rw [sends_take hp]
    exact List.mem_cons_self
  obtain ⟨-, hfd, hdata, -⟩ := hr.tasks l _ hmem
  -- a task in the loop of a connection that is there finds it
  have hfinds : ∀ c, (s.life c).isEnded = true → s.life c ≠ .removed → s.home c = l ∧ origin = c →
      s.mapConn (l, fd) = some c ∧ s.sendable c data := by
    rintro c hx hne ⟨rfl, rfl⟩
    obtain ⟨hopen, hmap⟩ := hc.ended hx hne
    rw [show fd = _ from hfd]
    exact ⟨hmap, hdata, (hc.numbered.socket _ _ hopen).2.2⟩
  rcases runSend_cases hs with ⟨rfl, hno⟩ | ⟨e, hmap, hok, hsend⟩
  · refine h.of_ended hr' h.looking fun c hlt hx => ⟨hlt, fun _ => ⟨rfl, rfl⟩, fun hne => ?_⟩
    obtain ⟨tail, he, htail⟩ := h.leads c hlt hne
    rw [queued_take hp, if_neg, List.nil_append] at he
    · exact ⟨tail, he, htail.imp id fun hcut => ⟨hcut.home, hcut.looking, hcut.sending⟩⟩
    · intro hself
      obtain ⟨hfound, hok⟩ := hfinds c hx hne hself
      exact hno c hfound hok
  · obtain ⟨-, hhome, hmapped⟩ := hc.tables.mapConn_eq_some.mp hmap
    have hran : s'.ran = Function.update s.ran e (s.ran e ++ [(origin, data)]) :=
      (outputOnly_sendInLoop hsend).quiet.ran
    have hown := own_update hran
    obtain ⟨epoll, outputBuffer, writeFailed, written, rfl, -⟩ := outputOnly_sendInLoop hsend
    refine h.of_ended hr' h.looking fun c hlt hx => ⟨hlt, fun hremoved => ⟨?_, rfl⟩, fun hne => ?_⟩
    · have hec : e ≠ c := by
        rintro rfl
        rw [show s.life e = _ from hremoved] at hmapped
        cases hmapped
      rw [hown, if_neg fun hself => hec hself.1, List.append_nil]
    · obtain ⟨tail, he, htail⟩ := h.leads c hlt hne
      have hself : (s.home c = l ∧ origin = c) ↔ (e = c ∧ origin = c) := by
        constructor
        · intro hself
          obtain ⟨hfound, -⟩ := hfinds c hx hne hself
          exact ⟨Option.some.inj (hmap.symm.trans hfound), hself.2⟩
        · rintro ⟨rfl, ho⟩
          exact ⟨hhome, ho⟩
      rw [queued_take hp, if_congr hself rfl rfl, ← List.append_assoc,
        ← hown] at he
      exact ⟨tail, he, htail.imp id fun hcut => ⟨hcut.home, hcut.looking, hcut.sending⟩⟩

/-! ### All steps -/

lemma Endings.next (h : Endings s) (hc : Coherent s) (ha : Addressed s) (ht : Told s)
    (hr : Returned s) (hs : machine.next s a = some s') : Endings s' := by
  have hr' := hr.next hc ha ht hs
  cases Effect.of_next hc ha hs with
  | quiet a s' hq => exact h.quiet hr' hq
  | accept fd hl hfd hfree => exact h.accept ht hr hr'
  | connected l c hl =>
    have hlife : s.life c = .bound := (hc.staged.fits hl).2
    rw [sendConnected, send_eq] at hr' ⊢
    refine h.other (c := c) hr' ⟨rfl, rfl, rfl, rfl, rfl, rfl⟩ rfl rfl (fun _ => rfl)
      (fun d hd => posted_append_of_ne rfl (Ne.symm hd))
      (fun d hd => waiting_append_of_ne rfl rfl (Ne.symm hd))
      (fun d hd => Function.update_of_ne hd ..) (by simp [hlife]) ?_
    simp [setLoop, setLife, Life.isEnded]
  | recv l c out bytes hl hbytes =>
    obtain ⟨-, -, hlife, -⟩ := hc.reading hl
    refine h.other (c := c) hr' ⟨rfl, rfl, rfl, rfl, rfl, rfl⟩ rfl rfl (fun _ => rfl)
      (fun _ _ => rfl) (fun _ _ => rfl) (fun _ _ => rfl) (by simp [hlife]) ?_
    simp [handleRead, setLoop, hlife, Life.isEnded]
  | eof l c out hl =>
    obtain ⟨-, -, hlife, -⟩ := hc.reading hl
    refine h.other (c := c) hr' ⟨rfl, rfl, rfl, rfl, rfl, rfl⟩ rfl rfl (fun _ => rfl)
      (fun _ _ => rfl) (fun _ _ => rfl) (fun d hd => Function.update_of_ne hd ..)
      (by simp [hlife]) ?_
    simp [handleRead, setLoop, setLife, Life.isEnded]
  | post l c out msg hl =>
    have hlife : s.life c ≠ .removed ∧ (s.life c).isEnded = false := by
      rcases (hc.staged.fits hl).2 with ⟨hlife, -⟩ | ⟨hlife, -⟩ <;> simp [hlife, Life.isEnded]
    rw [send_eq] at hr' ⊢
    exact h.other (c := c) hr' ⟨rfl, rfl, rfl, rfl, rfl, rfl⟩ rfl rfl (fun _ => rfl)
      (fun d hd => posted_append_of_ne rfl (Ne.symm hd))
      (fun d hd => waiting_append_of_ne rfl rfl (Ne.symm hd)) (fun _ _ => rfl) hlife.1 hlife.2
  | pop m rest hw hm => exact h.pop hw hm hr'
  | getEventLoopByFd m hw =>
    exact h.lookup hc ht (hr.mail m (by rw [hw]; exact List.mem_cons_self)) hw hr'
  | notFound m l hw hfd =>
    have hm : m ∈ s.sent := hr.mail m (by rw [hw]; exact List.mem_cons_self)
    refine h.drop hr (by rw [hw]; rfl) rfl (fun hx hne he => ?_) hr'
    -- in the main loop the connection would have been found
    have hl : l = s.home m.origin := by
      rcases h.looking m l hw with hremoved | hl | hl
      · exact absurd hremoved hne
      · exact hl
      · rw [hl, he]
    have hmap := (hc.ended hx hne).2
    rw [← ht.fd hm, ← hl, hfd] at hmap
    cases hmap
  | getConnection m l c hw hfd =>
    exact h.found hc ht (hr.mail m (by rw [hw]; exact List.mem_cons_self)) hw hfd hr'
  | queueSend m c hw hok => exact h.queueSend hc hr hw hr'
  | skipSend m c hw hno =>
    have hm : m ∈ s.sent := hr.mail m (by rw [hw]; exact List.mem_cons_self)
    have hdata : m.msg.type = .networkRecv :=
      hr.data m (by rw [hw]; exact List.mem_singleton_self m)
    refine h.drop hr (by rw [hw]; rfl) rfl (fun hx hne => ?_) hr'
    obtain rfl := hr.sending_eq hc hw hne
    have h0 := (hc.numbered.socket _ _ (hc.ended hx hne).1).2.2
    exact absurd ⟨hr.nonempty _ _ (ht.dataBytes hm hdata), h0⟩ hno
  | runSend l origin fd data rest rs s₁ hl hp hw => exact h.runSend hc hr hp hw hr'

lemma endings_of_reach {ok : TcpServer → Action → Prop} (h : machine.Reach ok s) : Endings s := by
  induction h with
  | start hi =>
    obtain ⟨id, n, -, rfl⟩ := hi
    exact {
      looking := by
        rintro m l ⟨⟩
      sent := fun c hc => absurd hc (Nat.not_lt_zero c)
      leads := fun c hc => absurd hc (Nat.not_lt_zero c) }
  | step hr _ hs ih =>
    exact ih.next (coherent_of_reach hr) (addressed_of_reach hr) (told_of_reach hr)
      (returned_of_reach hr) hs

/-- At any time, also when a connection has ended and its number leads elsewhere, the messages that
were sent back on it are the first ones that were received on it, without a gap. -/
theorem own_prefix_received (h : machine.Reachable s) (hc : c < s.accepted) :
    s.own c <+: s.received c := by
  rw [(told_of_reach h).posted_append_beingRead hc]
  exact ((endings_of_reach h).sent c hc).trans (List.prefix_append ..)

/-- The client sends twice and closes. The loop of the second message is looked up when the number
has been unbound. -/
def endedEarly : List Action :=
  [.wait .main [], .listen, .accept (some 5), .loop .main, .loop .main, .loop .main, .loop .main,
    .accept none, .wait (.sub 0) [], .loop (.sub 0), .loop (.sub 0),
    .wait (.sub 0) [⟨5, true, false⟩], .loop (.sub 0), .recv (.sub 0) (.data [7]),
    .loop (.sub 0), .loop (.sub 0), .pop, .pop, .worker, .worker, .worker, .worker,
    .recv (.sub 0) (.data [8]), .loop (.sub 0), .loop (.sub 0), .recv (.sub 0) .eof,
    .loop (.sub 0), .loop (.sub 0), .loop (.sub 0), .pop, .worker, .worker, .loop (.sub 0),
    .loop (.sub 0), .write (.sub 0) [.wrote 1]]

theorem own_prefix_received_endedEarly :
    let s := machine.replay (start 1 1) endedEarly
    s.own 0 = [[7]] ∧ s.worker = .idle ∧ s.mailbox.length = 1 ∧ s.own 0 <+: s.received 0 := by
  intro s
  have hs : machine.Reachable s := reachable_replay_start (by decide) 1 endedEarly
  exact ⟨by decide +kernel, by decide +kernel, by decide +kernel,
    own_prefix_received hs (by decide +kernel)⟩

end Balabala.TcpServer
