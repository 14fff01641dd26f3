import ThermalPrint.Proofs.Session.Slot
import ThermalPrint.Proofs.Work.Crew
import ThermalPrint.Proofs.Work.Process
import ThermalPrint.Proofs.Work.Steps

/-
Every job comes to one end.  Whatever goes wrong with it and whatever others do meanwhile, its
record says so in the end and its slot is free; and all that an office does is made of the steps
of runs, in which an end is final.

To hand in a print job takes the slot of its session first, and only then is the job registered:
what goes wrong with that finds the slot taken.
-/

namespace ThermalPrint

theorem Session.release_returned {τ : Type} {s : Session τ} {r : Reservation}
    (h : s.Unreturned r.serial) : (s.release r).Returned r.serial := by
  rw [release_unreturned h]
  exact List.getElem?_set_self (List.getElem?_eq_some_iff.1 h).1

namespace House

variable {τ : Type} {o : Outside τ}

section Slot

/-- Whoever has the slot of a session keeps it while an errand is run. -/
def Spares (o : Outside τ) : Prop :=
  ∀ (x : SessionId) (r : Reservation), Kept o fun h : House τ => (h.session x).Holds r

/-- A reservation is that of a session in a house, has been given back, and the slot is free. -/
structure Freed (x : SessionId) (r : Reservation) (h : House τ) : Prop where
  session : r.session = (h.session x).id
  returned : (h.session x).Returned r.serial
  free : (h.session x).Free

variable {x : SessionId} {r : Reservation}

theorem holds_ofSlots : OfSlots fun h : House τ => (h.session x).Holds r :=
  fun _ _ h hs _ => Session.holds_of_slot h (hs x)

theorem freed_ofSlots : OfSlots fun h : House τ => h.Freed x r := by
  intro h h' hfreed hs _
  have hslot := hs x
  exact ⟨hfreed.session.trans (congrArg Session.Slot.id hslot).symm, hfreed.returned.of_slot hslot,
    Session.free_of_slot hfreed.free hslot⟩

theorem leads_release :
    Leads (fun h : House τ => (h.session x).Holds r ∨ h.Freed x r) ((desk o x).release r)
      (Freed x r) := by
  intro h hh
  have hsession : r.session = (h.session x).id := hh.elim (·.session) (·.session)
  have hafter : (((desk o x).release r).run h).2 = h.setSession x ((h.session x).release r) := by
    rw [release_run]
    unfold released
    rw [if_pos hsession]
    rfl
  rw [hafter]
  rcases hh with hholds | hfreed
  · refine ⟨?_, ?_, ?_⟩
    · rw [setSession_self, Session.release_unreturned hholds.unreturned]
      exact hsession
    · rw [setSession_self]
      exact Session.release_returned hholds.unreturned
    · rw [setSession_self]
      exact Session.release_free hholds
  · have hout : ¬ (h.session x).Unreturned r.serial := by
      intro hout
      cases hout.symm.trans hfreed.returned
    rw [Session.release_again hout]
    exact freed_ofSlots h _ hfreed (setRoom_slot rfl) rfl

/-- Behind a print job its slot is free. -/
theorem leads_print (ho : Spares o) (id : Option JobId) (request : PrintRequest) :
    Leads (fun h : House τ => (h.session x).Holds r)
      ((office o).attempt ⟨id, x, .print request r⟩) (Freed x r) := by
  have hheld : Leads (fun h : House τ => (h.session x).Holds r) ((desk o x).release r)
      (Freed x r) := fun h hh => leads_release h (.inl hh)
  have hpublish : ∀ message, Leads (Freed x r) ((desk o x).publish message) (Freed x r) := by
    intro message h hh
    exact freed_ofSlots h _ hh (setRoom_slot rfl) rfl
  have hfulfil : Leads (fun h : House τ => (h.session x).Holds r)
      ((office o).fulfil x request r) fun h => (h.session x).Holds r ∨ h.Freed x r := by
    refine leads_bind (leads_order (ho x r) request) fun order => ?_
    split
    · exact fun h hh => .inl hh
    · rename_i submitted
      have hsubmit := (desk_keeps holds_ofSlots (ho x r) x).submitReserved hheld hpublish submitted
      exact fun h hh => .inr (hsubmit h hh)
  exact leads_bind hfulfil fun result => leads_bind leads_release fun _ => leads_pure _

end Slot

end House

namespace Floor

def holding (job : WaitingJob) (f : Floor) : Floor := { f with begun := job :: f.begun }

theorem Step.holding {f f' : Floor} (h : Step f f') (job : WaitingJob) :
    Step (f.holding job) (f'.holding job) := by
  cases h with
  | connect session address => exact .connect session address
  | disconnect session => exact .disconnect session
  | print session request held => exact .print session request held
  | take hpop htaken => exact .take hpop htaken
  | begin htaken hbegun =>
    exact .begin htaken ((List.Perm.swap _ _ _).trans (hbegun.cons job))
  | finish said outcome hbegun =>
    exact .finish said outcome ((hbegun.cons job).trans (List.Perm.swap _ _ _))

theorem Steps.holding {f f' : Floor} (h : Steps f f') (job : WaitingJob) :
    Steps (f.holding job) (f'.holding job) :=
  Relation.ReflTransGen.lift (Floor.holding job) (fun _ _ hstep => Step.holding hstep job) _ _ h

end Floor

namespace House

variable {τ : Type} {o : Outside τ}

/-- What is done on the floor while an errand is run are steps. -/
def Works (o : Outside τ) : Prop :=
  ∀ {α : Type} (errand : Errand τ α) (h : House τ),
    Floor.Steps h.floor ((ask o errand).run h).2.floor

/-- Whoever runs a queue takes the job at its front, and does it. -/
theorem runNext_run (queue : QueueName) (h : House τ) :
    ((office o).runNext queue).run h =
      (match h.floor.backlog.lanes.pop? queue with
        | none => pure none
        | some (job, lanes) => do
          (office o).set { h.floor.backlog with lanes }
          (office o).process job
          return some job : StateM (House τ) _).run h := rfl

/-- While a job is in hand, what is kept by all that others do on the floor is kept. -/
theorem leads_attempt {P : House τ → Prop}
    (hfloor : ∀ h h' : House τ, P h → h'.floor = h.floor → P h') (hkept : Kept o P)
    (job : WaitingJob) : Leads P ((office o).attempt job) P := by
  have hslots : OfSlots P := fun h h' hh _ hsame => hfloor h h' hh hsame
  have hdesk := desk_keeps hslots hkept job.session
  have hrelease : ∀ r, Leads P ((desk o job.session).release r) P := by
    intro r h hh
    rw [release_run]
    exact hfloor h _ hh rfl
  have hstate : ∀ result, Leads P ((office o).stateAfter job.session result) P := by
    intro result
    unfold Office.stateAfter
    split
    · exact leads_pure _
    · exact leads_bind hdesk.get fun _ => leads_pure _
  unfold Office.attempt
  dsimp only
  split
  · exact leads_bind (hdesk.connect (fun address => hkept (.openAt _ address)) _) hstate
  · exact leads_bind hdesk.disconnect hstate
  · rename_i request held _
    refine leads_bind ?_ fun result => leads_bind (hrelease held) fun _ => leads_pure _
    refine leads_bind (leads_order hkept request) fun order => ?_
    split
    · exact leads_pure _
    · exact hdesk.submitReserved (hrelease held) (fun message => hdesk.publish message none) _
  · exact leads_pure _
  · exact leads_pure _

section Works

variable (ho : Works o) (h : House τ)

include ho

/-- While a job is in hand, nothing is done on the floor but the steps of others. -/
theorem attempt_steps (job : WaitingJob) :
    Floor.Steps h.floor (((office o).attempt job).run h).2.floor := by
  have hkept : Kept o fun h' : House τ => Floor.Steps h.floor h'.floor :=
    fun errand h' hsince => hsince.trans (ho errand h')
  refine leads_attempt (fun h₁ h₂ hsince hsame => ?_) hkept job h .refl
  rw [hsame]
  exact hsince

/-- To do a job that has been taken is to begin it, to let others work, and to end it. -/
theorem process_steps (job : WaitingJob) :
    Floor.Steps { h.floor with taken := job :: h.floor.taken }
      (((office o).process job).run h).2.floor := by
  have hbegin : Floor.Step { h.floor with taken := job :: h.floor.taken }
      ((h.begun job.id).floor.holding job) :=
    .begin (List.Perm.refl _) (List.Perm.refl _)
  have hothers := (attempt_steps ho (h.begun job.id) job).holding job
  have hend : Floor.Step ((attempted o h job).2.floor.holding job)
      ((attempted o h job).2.ended job (attempted o h job).1).floor :=
    .finish _ _ (List.Perm.refl _)
  exact (Relation.ReflTransGen.head hbegin hothers).tail hend

theorem runNext_steps (queue : QueueName) :
    Floor.Steps h.floor (((office o).runNext queue).run h).2.floor := by
  rw [runNext_run]
  cases hpop : h.floor.backlog.lanes.pop? queue with
  | none => exact .refl
  | some front =>
    obtain ⟨job, lanes⟩ := front
    have htake : Floor.Step h.floor
        ⟨{ h.floor.backlog with lanes }, job :: h.floor.taken, h.floor.begun⟩ :=
      .take hpop (List.Perm.refl _)
    exact .head htake (process_steps ho (h.setBacklog { h.floor.backlog with lanes }) job)

end Works

inductive Order
  | connect (session : SessionId) (address : Text)
  | disconnect (session : SessionId)
  | print (session : SessionId) (request : PrintRequest)
  /-- The job at the front of a queue is done. -/
  | work (queue : QueueName)

def Order.run (o : Outside τ) (h : House τ) : Order → House τ
  | connect session address => (((office o).enqueueConnect session address).run h).2
  | disconnect session => (((office o).enqueueDisconnect session).run h).2
  | print session request => (((office o).enqueuePrint session request).run h).2
  | work queue => (((office o).runNext queue).run h).2

def runAll (o : Outside τ) (orders : List Order) (h : House τ) : House τ :=
  orders.foldl (Order.run o) h

theorem reserve_run (o : Outside τ) (x : SessionId) (h : House τ) :
    let spent := h.setRoom x { h.rooms x with nextToken := (h.rooms x).nextToken + 1 }
    ((desk o x).reserve).run h =
      (match (spent.session x).reserve (h.rooms x).nextToken with
        | .error e => pure (.error (.print e))
        | .ok (r, s) => do
          (desk o x).set s
          return .ok r : StateM (House τ) _).run spent := rfl

theorem reserve_floor (o : Outside τ) (x : SessionId) (h : House τ) :
    (((desk o x).reserve).run h).2.floor = h.floor := by
  rw [reserve_run]
  generalize Session.reserve _ _ = reserved
  cases reserved with
  | error e => rfl
  | ok taken => rfl

theorem enqueuePrint_run (x : SessionId) (request : PrintRequest) (h : House τ) :
    ((office o).enqueuePrint x request).run h =
      (match (((desk o x).reserve).run h).1 with
        | .error f => pure (.error f)
        | .ok held => (office o).change (·.enqueuePrint x request held) : StateM (House τ) _).run
        (((desk o x).reserve).run h).2 := rfl

/-- A request is handed in by a step, if it gets the slot of its session. -/
theorem enqueuePrint_steps (x : SessionId) (request : PrintRequest) (h : House τ) :
    Floor.Steps h.floor (((office o).enqueuePrint x request).run h).2.floor := by
  rw [enqueuePrint_run, ← reserve_floor o x h]
  generalize ((desk o x).reserve).run h = reserved
  obtain ⟨result, h'⟩ := reserved
  cases result with
  | error f => exact .refl
  | ok held => exact .single (.print x request held)

/-- All that is asked of an office is done in steps. -/
theorem order_steps (ho : Works o) (order : Order) (h : House τ) :
    Floor.Steps h.floor (order.run o h).floor := by
  cases order with
  | connect session address => exact .single (.connect session address)
  | disconnect session => exact .single (.disconnect session)
  | print session request => exact enqueuePrint_steps session request h
  | work queue => exact runNext_steps ho h queue

theorem runAll_steps (ho : Works o) (orders : List Order) (h : House τ) :
    Floor.Steps h.floor (runAll o orders h).floor := by
  induction orders generalizing h with
  | nil => exact .refl
  | cons order rest ih => exact (order_steps ho order h).trans (ih _)

/-- Every job comes to one end.  To do a job comes back, whatever fails and whatever others do
meanwhile.  If its record is still there, it says how the job ended, and a print job has given its
slot back.  All that is asked of an office is done in steps, as long as others work in steps as
well, and in any run of steps from nothing a record waits first, then runs, then ends; it only runs
while somebody has the job in hand, and once it has ended it does not change. -/
theorem jobs_settle (o : Outside τ) :
    (∀ (h : House τ) (job : WaitingJob), ∃ after,
      ((office o).process job).run h = pure ((), after) ∧
      (∀ key r, job.id = some key → after.floor.registry.get? key = some r →
        r.Ended job.action (attempted o h job).1) ∧
      (∀ request held, job.action = .print request held → Spares o →
        (h.session job.session).Holds held →
        (after.session job.session).Returned held.serial ∧
          (after.session job.session).busy = false)) ∧
    (Works o → ∀ (orders : List Order) (h : House τ),
      Floor.Steps h.floor (runAll o orders h).floor) ∧
    (∀ start now : Floor, start.New → Floor.Steps start now → now.Settles) := by
  refine ⟨fun h job => ?_, fun ho => runAll_steps ho, fun start now hnew hsteps => ?_⟩
  · refine ⟨_, process_run o h job, fun key r hkey hr => process_ended o h job hkey hr, ?_⟩
    intro request held haction hspares hholds
    obtain ⟨id, x, action⟩ := job
    cases haction
    have hfreed : Freed x held (attempted o h ⟨id, x, .print request held⟩).2 :=
      leads_print hspares id request (h.begun id) hholds
    refine ⟨hfreed.returned, ?_⟩
    show ((attempted o h ⟨id, x, .print request held⟩).2.session x).active.isSome = false
    rw [hfreed.free.1]
    rfl
  · exact (Floor.steps_inOrder hnew.inOrder hsteps).1.settles

theorem jobs_settle_idle :
    let request : PrintRequest := { markup := some "hi" }
    (∃ after, ((office alone).process (firstJob request)).run (withFirstJob request) =
        pure ((), after) ∧ (after.session 0).busy = false ∧
      ∀ r, after.floor.registry.get? "job1" = some r → r.Has .error) ∧
    (runAll alone [.print 0 request, .disconnect 0, .work (.lane 0), .work .control]
      new).floor.Settles := by
  intro request
  have hspares : Spares alone := by
    rintro x r α errand h hholds
    cases errand <;> exact hholds
  have hworks : Works alone := by
    intro α errand h
    cases errand <;> exact .refl
  obtain ⟨hends, hsteps, hruns⟩ := jobs_settle alone
  refine ⟨?_, hruns _ _ ⟨rfl, rfl, rfl⟩ (hsteps hworks _ new)⟩
  obtain ⟨after, hrun, hrecord, hslot⟩ := hends (withFirstJob request) (firstJob request)
  have hfail : (attempted alone (withFirstJob request) (firstJob request)).1 =
      .error (.print (.of .notConnected "printer is idle")) := by decide +kernel
  exact ⟨after, hrun, (hslot request _ rfl hspares ⟨rfl, rfl, rfl⟩).2,
    fun r hr => ((hrecord "job1" r rfl hr).printError _ hfail).1⟩

section HandedIn

variable (o) (h : House τ) (x : SessionId) (request : PrintRequest)

def spent : House τ := h.setRoom x { h.rooms x with nextToken := (h.rooms x).nextToken + 1 }

theorem spent_session (y : SessionId) : (h.spent x).session y = h.session y := by
  show ((if y = x then _ else h.rooms y : Room τ)).session = _
  by_cases hy : y = x
  · rw [if_pos hy, hy]
    rfl
  · rw [if_neg hy]
    rfl

theorem enqueuePrint_locked (hlocked : (h.session x).locked = true) :
    ((office o).enqueuePrint x request).run h =
      (.error (.print (.of .jobInProgress "another print job is in progress on this printer")),
        h.spent x) := by
  have hreserve : ((desk o x).reserve).run h =
      (.error (.print (.of .jobInProgress "another print job is in progress on this printer")),
        h.spent x) := by
    rw [reserve_run, show h.setRoom x _ = h.spent x from rfl, spent_session,
      Session.reserve_error hlocked]
    rfl
  rw [enqueuePrint_run, hreserve]
  rfl

theorem enqueuePrint_free (hfree : (h.session x).locked = false) :
    ∃ held s, (h.session x).reserve (h.rooms x).nextToken = .ok (held, s) ∧
      ((office o).enqueuePrint x request).run h =
        let handed := (Crew.Call.print x request held).enqueue h.floor.backlog
        (handed.1, ((h.spent x).setSession x s).setBacklog handed.2) := by
  have htaken : (h.session x).reserve (h.rooms x).nextToken = .ok _ := Session.reserve_ok hfree
  refine ⟨_, _, htaken, ?_⟩
  rw [enqueuePrint_run, reserve_run, show h.setRoom x _ = h.spent x from rfl, spent_session, htaken]
  rfl

end HandedIn

end House

end ThermalPrint
