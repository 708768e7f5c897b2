import Balabala.Net.Step

/-!
# Whose registration a removal task removes

A `RemoveConnection` task removes whatever is found under a number when it runs. `Turn` says that
this is right: what is registered under the number now belongs to the object of the first removal
that is waiting or, when none waits, to the present holder of the number; and the same holds of
what each waiting `AddEvent` task will register, with the removals that come after it.
-/

namespace Balabala

namespace PendingTask

/-- The object of the removal that runs next. -/
def firstRemoval : List PendingTask → Option ConnId
  | [] => none
  | .removeConnection c _ :: _ => some c
  | _ :: tasks => firstRemoval tasks

/-- What is registered is removed for `o`, or stays and `o` is the holder. -/
def Due (held : ConnId → Prop) (tasks : List PendingTask) (o : ConnId) : Prop :=
  match firstRemoval tasks with
  | some c => o = c
  | none => held o

/-- What the waiting `AddEvent` tasks register is due to their objects. -/
def Follows (held : ConnId → Prop) : List PendingTask → Prop
  | .addEvent c _ _ :: tasks => Due held tasks c ∧ Follows held tasks
  | _ :: tasks => Follows held tasks
  | [] => True

/-- Whether something is registered after the tasks have run, if `registered` says it of now. -/
def stays (registered : Bool) : List PendingTask → Bool
  | .addEvent _ _ _ :: tasks => stays true tasks
  | .removeConnection _ _ :: tasks => stays false tasks
  | _ :: tasks => stays registered tasks
  | [] => registered

variable {held held' : ConnId → Prop} {tasks : List PendingTask} {o : ConnId}

lemma due_of_some {c : ConnId} (h : firstRemoval tasks = some c) : Due held tasks o ↔ o = c := by
  simp [Due, h]

lemma due_of_none (h : firstRemoval tasks = none) : Due held tasks o ↔ held o := by
  simp [Due, h]

/-- The holder of the number is due when no removal of another object waits. -/
lemma due_of_held (hheld : held o) (h : ∀ c, firstRemoval tasks = some c → c = o) :
    Due held tasks o := by
  cases hr : firstRemoval tasks with
  | none => exact (due_of_none hr).mpr hheld
  | some c => exact (due_of_some hr).mpr (h c hr).symm

lemma Due.mono (h : Due held tasks o) (hle : held o → held' o) : Due held' tasks o := by
  cases hr : firstRemoval tasks with
  | none => exact (due_of_none hr).mpr (hle ((due_of_none hr).mp h))
  | some c => exact (due_of_some hr).mpr ((due_of_some hr).mp h)

lemma Follows.mono (h : Follows held tasks)
    (hle : ∀ c fd events, .addEvent c fd events ∈ tasks → held c → held' c) :
    Follows held' tasks := by
  induction tasks with
  | nil => trivial
  | cons task tasks ih =>
    have hle' := fun c fd events hc => hle c fd events (List.mem_cons_of_mem _ hc)
    cases task with
    | addEvent c fd events => exact ⟨h.1.mono (hle c fd events List.mem_cons_self), ih h.2 hle'⟩
    | _ => exact ih h hle'

lemma firstRemoval_mem {c : ConnId} (h : firstRemoval tasks = some c) :
    ∃ fd, .removeConnection c fd ∈ tasks := by
  induction tasks with
  | nil => cases h
  | cons task tasks ih =>
    cases task with
    | removeConnection d fd =>
      obtain rfl : d = c := by simpa [firstRemoval] using h
      exact ⟨fd, List.mem_cons_self⟩
    | _ => exact (ih h).imp fun fd hfd => List.mem_cons_of_mem _ hfd

lemma firstRemoval_append_addEvent (c : ConnId) (fd : Fd) (events : Interest) :
    firstRemoval (tasks ++ [.addEvent c fd events]) = firstRemoval tasks := by
  induction tasks with
  | nil => rfl
  | cons task tasks ih =>
    cases task with
    | removeConnection d f => rfl
    | _ => exact ih

lemma firstRemoval_append_removeConnection (c : ConnId) (fd : Fd) :
    firstRemoval (tasks ++ [.removeConnection c fd]) =
      some ((firstRemoval tasks).getD c) := by
  induction tasks with
  | nil => rfl
  | cons task tasks ih =>
    cases task with
    | removeConnection d f => rfl
    | _ => exact ih

/-- Without a removal nothing goes away. -/
lemma stays_of_firstRemoval (h : firstRemoval tasks = none) : stays true tasks = true := by
  induction tasks with
  | nil => rfl
  | cons task tasks ih =>
    cases task with
    | removeConnection d f => cases h
    | _ => exact ih h

/-- What stays, stays without a removal. -/
lemma Due.append_removeConnection {c : ConnId} {fd : Fd} (h : Due held tasks o)
    (hc : firstRemoval tasks = none → held o → o = c) :
    Due held' (tasks ++ [.removeConnection c fd]) o := by
  rw [due_of_some (firstRemoval_append_removeConnection c fd)]
  cases hr : firstRemoval tasks with
  | none => exact hc hr ((due_of_none hr).mp h)
  | some d => exact (due_of_some hr).mp h

lemma Due.append_addEvent {c : ConnId} {fd : Fd} {events : Interest} (h : Due held tasks o) :
    Due held (tasks ++ [.addEvent c fd events]) o := by
  unfold Due at h ⊢
  rwa [firstRemoval_append_addEvent]

/-- A removal is queued for `c`, and nothing stays that belongs to another object. -/
lemma Follows.append_removeConnection {registered : Bool} {c : ConnId} {fd : Fd}
    (h : Follows held tasks) (hc : stays registered tasks = true → ∀ o, held o → o = c) :
    Follows held' (tasks ++ [.removeConnection c fd]) := by
  induction tasks generalizing registered with
  | nil => trivial
  | cons task tasks ih =>
    cases task with
    | addEvent d f events =>
      refine ⟨h.1.append_removeConnection fun hr hd => ?_, ih h.2 hc⟩
      exact hc (stays_of_firstRemoval hr) d hd
    | _ => exact ih h hc

lemma Follows.append_addEvent {c : ConnId} (h : Follows held tasks) (hc : held c) (fd : Fd)
    (events : Interest) : Follows held (tasks ++ [.addEvent c fd events]) := by
  induction tasks with
  | nil => exact ⟨hc, trivial⟩
  | cons task tasks ih =>
    cases task with
    | addEvent d f e => exact ⟨h.1.append_addEvent, ih h.2⟩
    | _ => exact ih h

end PendingTask

open PendingTask

/-- The object has the number and is not about to close it. -/
def Held (holder : Option ConnId) (closing : ConnId → Prop) (c : ConnId) : Prop :=
  holder = some c ∧ ¬ closing c

/-- What holds of one number, see the introduction; `entry` says whose entries there are in the
tables, and `polled` that the number is registered with epoll. -/
structure Turn (tasks : List PendingTask) (holder : Option ConnId) (closing entry : ConnId → Prop)
    (polled : Prop) : Prop where
  entries : ∀ o, entry o → Due (Held holder closing) tasks o
  follows : Follows (Held holder closing) tasks
  epoll : polled → ∃ o, holder = some o ∧ Due (Held holder closing) tasks o

namespace Turn

variable {tasks : List PendingTask} {holder holder' : Option ConnId}
  {closing closing' entry entry' : ConnId → Prop} {polled polled' : Prop}

lemma mono (h : Turn tasks holder closing entry polled)
    (hclosing : ∀ o, holder = some o → closing' o → closing o) (hentry : ∀ o, entry' o → entry o)
    (hpolled : polled' → polled) : Turn tasks holder closing' entry' polled' := by
  have hle : ∀ o, Held holder closing o → Held holder closing' o :=
    fun o ho => ⟨ho.1, fun hc => ho.2 (hclosing o ho.1 hc)⟩
  exact ⟨fun o ho => (h.entries o (hentry o ho)).mono (hle o),
    h.follows.mono fun c _ _ _ => hle c,
    fun hp => (h.epoll (hpolled hp)).imp fun o ho => ⟨ho.1, ho.2.mono (hle o)⟩⟩

/-- A removal is requested for `c`, and nothing stays that belongs to another object. -/
lemma queueRemove (h : Turn tasks holder closing entry polled) {registered : Bool} (c : ConnId)
    (fd : Fd) (hreg : (∃ o, entry o) ∨ polled → registered = true)
    (hc : stays registered tasks = true → ∀ o, holder = some o → o = c)
    (closing' : ConnId → Prop) :
    Turn (tasks ++ [.removeConnection c fd]) holder closing' entry polled := by
  have hstays : (∃ o, entry o) ∨ polled → firstRemoval tasks = none →
      stays registered tasks = true := by
    intro he hr
    rw [hreg he]
    exact stays_of_firstRemoval hr
  refine ⟨fun o ho => ?_, ?_, fun hp => ?_⟩
  · exact (h.entries o ho).append_removeConnection fun hr hheld =>
      hc (hstays (.inl ⟨o, ho⟩) hr) o hheld.1
  · exact h.follows.append_removeConnection fun hs o ho => hc hs o ho.1
  · obtain ⟨o, ho, hdue⟩ := h.epoll hp
    exact ⟨o, ho, hdue.append_removeConnection fun hr _ => hc (hstays (.inr hp) hr) o ho⟩

/-- The holder of the number calls `AddEvent`. -/
lemma queueAdd (h : Turn tasks holder closing entry polled) {c : ConnId}
    (hc : Held holder closing c) (fd : Fd) (events : Interest) :
    Turn (tasks ++ [.addEvent c fd events]) holder closing entry polled where
  entries := fun o ho => (h.entries o ho).append_addEvent
  follows := h.follows.append_addEvent hc fd events
  epoll := fun hp => (h.epoll hp).imp fun _ ho => ⟨ho.1, ho.2.append_addEvent⟩

/-- An object whose turn it is gets an entry. -/
lemma enter (h : Turn tasks holder closing entry polled) {c : ConnId}
    (hc : Due (Held holder closing) tasks c) (hentry : ∀ o, entry' o → entry o ∨ o = c)
    (hpolled : polled' → polled ∨ holder = some c) : Turn tasks holder closing entry' polled' where
  entries := fun o ho => (hentry o ho).elim (h.entries o) fun hoc => hoc ▸ hc
  follows := h.follows
  epoll := fun hp => (hpolled hp).elim h.epoll fun hh => ⟨c, hh, hc⟩

/-- A removal has run. -/
lemma removed {c : ConnId} {fd : Fd}
    (h : Turn (.removeConnection c fd :: tasks) holder closing entry polled)
    (hentry : ∀ o, ¬ entry' o) (hpolled : ¬ polled') :
    Turn tasks holder closing entry' polled' where
  entries := fun o ho => absurd ho (hentry o)
  follows := h.follows
  epoll := fun hp => absurd hp hpolled

/-- The number is closed, and nothing of its holder is left without a removal. -/
lemma closed (h : Turn tasks holder closing entry polled)
    (hgone : ∀ o, Held holder closing o →
      ¬ entry o ∧ ∀ fd events, .addEvent o fd events ∉ tasks)
    (hentry : ∀ o, entry' o → entry o) (hpolled : ¬ polled') :
    Turn tasks none closing' entry' polled' where
  entries := fun o ho => (h.entries o (hentry o ho)).mono fun hh =>
    absurd (hentry o ho) (hgone o hh).1
  follows := h.follows.mono fun c fd events hc hh => absurd hc ((hgone c hh).2 fd events)
  epoll := fun hp => absurd hp hpolled

/-- A closed number is handed out again. -/
lemma opened (h : Turn tasks none closing entry polled) (hentry : ∀ o, entry' o → entry o)
    (hpolled : polled' → polled) : Turn tasks holder closing' entry' polled' where
  entries := fun o ho => (h.entries o (hentry o ho)).mono fun hh => by cases hh.1
  follows := h.follows.mono fun _ _ _ _ hh => by cases hh.1
  epoll := fun hp => by
    obtain ⟨o, ho, -⟩ := h.epoll (hpolled hp)
    cases ho

end Turn

end Balabala
