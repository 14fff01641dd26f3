import ThermalPrint.Proofs.Outcome
import ThermalPrint.Proofs.Work.House
import ThermalPrint.Proofs.Work.Images
import ThermalPrint.Proofs.Work.Record

/-
What doing a job comes to.  A job is begun, something comes of it, and its record says what; all
that may happen in the house meanwhile does not matter to what the record says in the end.
-/

namespace ThermalPrint
namespace House

variable {τ : Type} (o : Outside τ) (h : House τ) (job : WaitingJob)

def begun (h : House τ) (id : Option JobId) : House τ :=
  h.noted id [("status", .str JobStatus.running.word)]

def ended (h : House τ) (job : WaitingJob) (result : Except Fault JobOutcome) : House τ :=
  h.noted job.id
    (("message", Json.ofText? (h.session job.session).lastMessage) ::
      (JobOutcome.ofResult result).members)

def attempted (o : Outside τ) (h : House τ) (job : WaitingJob) :
    Except Fault JobOutcome × House τ :=
  ((office o).attempt job).run (h.begun job.id)

/-- To do a job is to begin it, to attempt it and to end it. -/
theorem process_run : ((office o).process job).run h =
    pure ((), (attempted o h job).2.ended job (attempted o h job).1) := rfl

def fulfilled (o : Outside τ) (h : House τ) (x : SessionId) (request : PrintRequest)
    (held : Reservation) : Except Fault Nat × House τ :=
  ((office o).fulfil x request held).run h

/-- Behind a print job its slot is given back, whatever came of it. -/
theorem attempt_print (id : Option JobId) (x : SessionId) (request : PrintRequest)
    (held : Reservation) :
    ((office o).attempt ⟨id, x, .print request held⟩).run h =
      pure ((fulfilled o h x request held).1.map JobOutcome.written,
        (fulfilled o h x request held).2.released x held) := by
  have hreleased := release_run o (fulfilled o h x request held).2 x held
  show (((desk o x).release held).run (fulfilled o h x request held).2 >>= fun p =>
    pure (Except.map JobOutcome.written (fulfilled o h x request held).1, p.2)) = _
  rw [hreleased]
  rfl

/-- What is printed comes to a count of bytes, and what is done to a connection comes to its
state. -/
theorem attempt_succeeds (hjob : job.action ≠ .unknown) :
    Gives ((office o).attempt job) fun result =>
      ∀ outcome, result = .ok outcome → outcome.status = .success := by
  have hstate : ∀ result, Gives ((office o).stateAfter job.session result) fun result =>
      ∀ outcome, result = .ok outcome → outcome.status = .success := by
    intro result
    unfold Office.stateAfter
    split
    · exact gives_pure nofun
    · refine gives_bind _ fun x => gives_pure ?_
      rintro _ ⟨⟩
      rfl
  unfold Office.attempt
  dsimp only
  split
  · exact gives_bind _ hstate
  · exact gives_bind _ hstate
  · refine gives_bind _ fun result => gives_bind _ fun _ => gives_pure ?_
    intro outcome houtcome
    obtain ⟨count, -, rfl⟩ := Outcome.map_ok houtcome
    rfl
  · exact gives_pure nofun
  · rename_i haction
    exact absurd haction hjob

theorem attempt_unknown (hjob : job.action = .unknown) :
    ((office o).attempt job).run h = pure (.ok .unknownType, h) := by
  unfold Office.attempt
  rw [hjob]
  rfl

end House

/-- What the record of a job says in the end. -/
structure JobRecord.Ended (r : JobRecord) (action : JobAction)
    (result : Except Fault JobOutcome) : Prop where
  printError : ∀ e, result = .error (.print e) →
    r.Has .error ∧ r.lookup "error_kind".toText = some (.str e.kind.word)
  otherFault : ∀ f, result = .error f → f.isPrintError = false →
    r.Has .error ∧ r.lookup "error_kind".toText = some (.str "internal_error")
  unknown : action = .unknown →
    r.Has .error ∧ r.lookup "error_kind".toText = some (.str "unknown_job_type")
  success : ∀ outcome, result = .ok outcome → action ≠ .unknown → r.Has .success

namespace House

variable {τ : Type} (o : Outside τ) (h : House τ) (job : WaitingJob)

theorem ended_record {key : JobId} {r : JobRecord} (hkey : job.id = some key)
    {result : Except Fault JobOutcome}
    (hr : (h.ended job result).floor.backlog.registry.get? key = some r) :
    ∃ old now, h.floor.backlog.registry.get? key = some old ∧
      r = old.revise now
        (("message", Json.ofText? (h.session job.session).lastMessage) ::
          (JobOutcome.ofResult result).members) := by
  obtain ⟨now, hget⟩ := Registry.get?_update h.floor.backlog.registry job.id
    (("message", Json.ofText? (h.session job.session).lastMessage) ::
      (JobOutcome.ofResult result).members) key
  obtain ⟨old, hold, rfl⟩ := Option.map_eq_some_iff.1 (hget.symm.trans hr)
  exact ⟨old, now, hold, if_pos hkey.symm⟩

/-- Whatever a job comes to and whatever happens meanwhile, its record tells of it in the end. -/
theorem process_ended {key : JobId} {r : JobRecord} (hkey : job.id = some key)
    (hr : (((office o).process job).run h).2.floor.backlog.registry.get? key = some r) :
    r.Ended job.action (attempted o h job).1 := by
  rw [process_run] at hr
  obtain ⟨old, now, -, rfl⟩ := ended_record _ job hkey hr
  refine ⟨fun e he => ?_, fun f hf hother => ?_, fun hunknown => ?_, fun outcome hok haction => ?_⟩
  · rw [he]
    exact ⟨JobRecord.ended_has .., JobRecord.ended_kind ..⟩
  · rw [hf, JobOutcome.ofResult, JobOutcome.ofFault, hother]
    exact ⟨JobRecord.ended_has .., JobRecord.ended_kind ..⟩
  · have hresult : (attempted o h job).1 = .ok .unknownType :=
      congrArg Prod.fst (attempt_unknown o (h.begun job.id) job hunknown)
    rw [hresult]
    exact ⟨JobRecord.ended_has .., JobRecord.ended_kind ..⟩
  · have hstatus := attempt_succeeds o job haction (h.begun job.id) outcome hok
    rw [hok, ← hstatus]
    exact JobRecord.ended_has ..

/-- The record of a job says in the end what its session says then. -/
theorem process_message {key : JobId} {r : JobRecord} (hkey : job.id = some key)
    (hr : (((office o).process job).run h).2.floor.backlog.registry.get? key = some r) :
    r.lookup "message".toText =
      some (Json.ofText? ((((office o).process job).run h).2.session job.session).lastMessage) := by
  rw [process_run] at hr ⊢
  obtain ⟨old, now, -, rfl⟩ := ended_record _ job hkey hr
  exact JobRecord.ended_message ..

end House
end ThermalPrint
