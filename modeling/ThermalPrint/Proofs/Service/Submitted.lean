import ThermalPrint.Proofs.Work.Settled
import ThermalPrint.Proofs.Work.Kept
import ThermalPrint.Service.Api

/-
Printing over the web.  A request to print is looked at in stages: its data, its form, whether
anybody is at work, the slot.  Each of them may refuse it, and until the slot is taken nothing has
been done; behind that nothing is refused any more, since a registry in order takes every job.
-/

namespace ThermalPrint

namespace House

variable {τ : Type}

/-- All that is seen of a house from outside is as it was. -/
structure Untouched (h h' : House τ) : Prop where
  floor : h'.floor = h.floor
  sessions : ∀ x, h'.session x = h.session x

/-- A request to print has been taken on, under an id, for the slot of its session. -/
structure Admitted (h h' : House τ) (x : SessionId) (request : PrintRequest) (id : JobId)
    (held : Reservation) : Prop where
  free : (h.session x).locked = false
  /-- The slot is held, and nothing else of the session has changed. -/
  slot : h'.session x = { h.session x with
    locked := true, active := some held, returned := (h.session x).returned ++ [false] }
  sessions : ∀ y, y ≠ x → h'.session y = h.session y
  /-- The job waits last in the lane of its session, and the other queues are as they were. -/
  queued : ∃ n, h'.floor.backlog.lanes.assigned.lookup x = some n ∧
    (∀ m, h.floor.backlog.lanes.assigned.lookup x = some m → m = n) ∧
    h'.floor.backlog.lanes.waiting (.lane n) =
      h.floor.backlog.lanes.waiting (.lane n) ++ [⟨some id, x, .print request held⟩] ∧
    ∀ queue, queue ≠ .lane n →
      h'.floor.backlog.lanes.waiting queue = h.floor.backlog.lanes.waiting queue
  /-- There is one more record, and at most the oldest one has gone. -/
  registered : ∃ kept record, h.floor.registry.Room kept ∧
    h'.floor.registry.records = kept ++ [(id, record)] ∧ record.Has .queued ∧
    record.shownId = .str id
  fresh : ∀ e ∈ h.floor.registry.records, e.1 ≠ id
  hands : h'.floor.taken = h.floor.taken ∧ h'.floor.begun = h.floor.begun ∧
    h'.floor.backlog.staffed = h.floor.backlog.staffed

section EnqueuePrint

variable (o : Outside τ) (h : House τ) (x : SessionId) (request : PrintRequest)

theorem untouched_spent : h.Untouched (h.spent x) := ⟨rfl, h.spent_session x⟩

/-- Behind the slot a request is not refused any more. -/
theorem enqueuePrint_admitted (hkept : h.floor.backlog.Kept)
    (hfree : (h.session x).locked = false) :
    ∃ id held h', ((office o).enqueuePrint x request).run h = (.ok id, h') ∧
      h.Admitted h' x request id held := by
  obtain ⟨held, s, hreserve, hrun⟩ := enqueuePrint_free o h x request hfree
  obtain ⟨kept, hroom, henqueue⟩ := hkept.enqueue_ok (.print x request held)
  obtain ⟨-, -, rfl⟩ := Session.reserve_eq_ok hreserve
  rw [henqueue] at hrun
  refine ⟨_, held, _, hrun, hfree, ?_, fun y hy => ?_, ?_, ?_, ?_, ⟨rfl, rfl, rfl⟩⟩
  · exact setSession_self ..
  · exact (setSession_other _ _ _ hy).trans (h.spent_session x y)
  · let lanes := h.floor.backlog.lanes
    have hhas : (lanes.laneOf x).2.Has (.lane (lanes.laneOf x).1) :=
      (Crew.place_sound (.print x request held) hkept.lanes).2
    have hassigned : (lanes.laneOf x).2.assigned.lookup x = some (lanes.laneOf x).1 := by
      rw [Lanes.laneOf_assigned, if_pos rfl]
    refine ⟨(lanes.laneOf x).1, hassigned, fun m hm => ?_, ?_, fun queue hqueue => ?_⟩
    · exact Option.some.inj ((Lanes.laneOf_keeps (x := x) hm).symm.trans hassigned)
    · exact (Lanes.push_self hhas _).trans (by rw [Lanes.laneOf_waiting]; rfl)
    · exact (Lanes.push_other hqueue _).trans (Lanes.laneOf_waiting ..)
  · have hknown : ∀ c ∈ (Crew.Call.print x request held).known, c.1 ≠ "status" := by
      simp [Crew.Call.known, PrintRequest.describe]
    exact ⟨kept, _, hroom, rfl, JobRecord.new_has hknown,
      JobRecord.new_shownId (Crew.Call.known_sparing _) _ _ _⟩
  · exact fun e he => hkept.registry.fresh he

end EnqueuePrint

end House

namespace Service

open House (Untouched Admitted)

variable {τ : Type} (service : Service (StateM (House τ)) τ) (r : HttpRequest) (h : House τ)

/-- What is answered to a request, and the house behind it. -/
def answered : Except Fault HttpAnswer × House τ := (service.handle r).run.run h

structure ToPrint : Prop where
  method : r.method = "POST"
  target : r.target = "/api/v1/jobs"

/-- A request holds the data of a form. -/
def Reads (form : PrintForm) : Prop :=
  ∃ v, service.dataOf r = .ok (.inr v) ∧ PrintForm.read service.limits v = .ok form

variable {service r}

theorem lifted_ok {α : Type} (a : α) :
    (liftM (Except.ok a : Except Fault α) : ExceptT Fault (StateM (House τ)) α) = pure a := rfl

theorem handle_print (hr : ToPrint r) :
    service.handle r = service.accept r (PrintForm.read service.limits) service.print := by
  have hpath : r.path = .ok "/api/v1/jobs".toText := by
    unfold HttpRequest.path
    rw [hr.target]
    rfl
  have hmethod : r.method.map CodePoint.toUpper = "POST" := by
    rw [hr.method]
    decide
  have hroute : Route.ofPath "/api/v1/jobs".toText = some .jobs := by decide
  unfold handle
  rw [hpath, hmethod, lifted_ok, pure_bind, hroute]
  rfl

/-- The stages of a request, in order. -/
theorem accept_run {o : Outside τ} (ho : service.office = House.office o) {α : Type}
    (read : Json → Checked α) (act : α → ExceptT Fault (StateM (House τ)) HttpAnswer) :
    ((service.accept r read act).run.run h : Except Fault HttpAnswer × House τ) =
      match service.dataOf r with
      | .error f => (.error f, h)
      | .ok (.inl answer) => (.ok answer, h)
      | .ok (.inr v) =>
        match read v with
        | .error complaints => (.ok (.ofComplaints complaints), h)
        | .ok x =>
          if h.floor.backlog.staffed then (act x).run.run h else (.ok .unstaffed, h) := by
  unfold accept
  rw [ho]
  rcases service.dataOf r with f | answer | v
  · rfl
  · rfl
  · rw [lifted_ok, pure_bind]
    dsimp only
    cases read v with
    | error complaints => rfl
    | ok x =>
      show ((if h.floor.backlog.staffed then act x else pure .unstaffed :
        ExceptT Fault (StateM (House τ)) HttpAnswer).run.run h : _ × _) = _
      by_cases hstaffed : h.floor.backlog.staffed = true
      · simp only [if_pos hstaffed]
      · simp only [if_neg hstaffed]
        rfl

theorem ofJob_run (made : StateM (House τ) (Except Fault JobId)) :
    ((do HttpAnswer.ofJob (← ExceptT.lift made) :
      ExceptT Fault (StateM (House τ)) HttpAnswer).run.run h : Except Fault HttpAnswer × House τ) =
      (HttpAnswer.ofJob (made.run h).1, (made.run h).2) := by
  show ((liftM (HttpAnswer.ofJob (made.run h).1) :
    ExceptT Fault (StateM (House τ)) HttpAnswer).run.run (made.run h).2 : _ × _) = _
  cases HttpAnswer.ofJob (made.run h).1 <;> rfl

theorem print_run {o : Outside τ} (ho : service.office = House.office o) (form : PrintForm) :
    ((service.print form).run.run h : Except Fault HttpAnswer × House τ) =
      let made := ((House.office o).enqueuePrint service.session form.toRequest).run h
      (HttpAnswer.ofJob made.1, made.2) := by
  unfold print
  rw [ho]
  exact ofJob_run h _

theorem answered_print {o : Outside τ} (ho : service.office = House.office o) (hr : ToPrint r) :
    service.answered r h =
      match service.dataOf r with
      | .error f => (.error f, h)
      | .ok (.inl answer) => (.ok answer, h)
      | .ok (.inr v) =>
        match PrintForm.read service.limits v with
        | .error complaints => (.ok (.ofComplaints complaints), h)
        | .ok form =>
          if h.floor.backlog.staffed then
            let made := ((House.office o).enqueuePrint service.session form.toRequest).run h
            (HttpAnswer.ofJob made.1, made.2)
          else (.ok .unstaffed, h) := by
  unfold answered
  rw [handle_print hr, accept_run h ho]
  rcases service.dataOf r with f | answer | v
  · rfl
  · rfl
  · dsimp only
    cases PrintForm.read service.limits v with
    | error complaints => rfl
    | ok form => simp only [print_run h ho]

theorem dataOf_json (service : Service (StateM (House τ)) τ) (hjson : r.isJson = true) :
    service.contentLimit < r.body.length ∧ service.dataOf r = .ok (.inl { status := 413 }) ∨
      ¬ service.contentLimit < r.body.length ∧
        ((∃ f, r.json = .error f ∧ service.dataOf r = .error f) ∨
          ∃ v, service.dataOf r = .ok (.inr v)) := by
  unfold dataOf
  rw [hjson]
  by_cases hlength : service.contentLimit < r.body.length
  · simp [hlength]
  · cases r.json with
    | error f => simp [hlength, Except.map]
    | ok v => simp [hlength, Except.map]

theorem reads_iff {v : Json} (hdata : service.dataOf r = .ok (.inr v)) {form : PrintForm} :
    service.Reads r form ↔ PrintForm.read service.limits v = .ok form := by
  unfold Reads
  rw [hdata]
  exact ⟨fun ⟨_, hv, hform⟩ => by cases hv; exact hform, fun hform => ⟨v, rfl, hform⟩⟩

theorem reads_none (hdata : ∀ v, service.dataOf r ≠ .ok (.inr v)) :
    ¬ ∃ form, service.Reads r form :=
  fun ⟨_, v, hv, _⟩ => hdata v hv

/-- A request to print that is refused leaves no trace.  What is answered to one whose content
nests too deeply is left open. -/
theorem refused_traceless :
    (∀ start now : Floor, start.New → 1 ≤ start.registry.limit →
      (∀ n, Json.NotAfter (.str (start.registry.clock n)) (.str (start.registry.clock (n + 1)))) →
      (∃ n, 1 ≤ n ∧ start.backlog.lanes = .ofCount n) → Floor.Steps start now →
      now.backlog.Kept) ∧
    ∀ {τ : Type} (service : Service (StateM (House τ)) τ) (o : Outside τ) (r : HttpRequest)
      (h : House τ), service.office = House.office o → ToPrint r → r.isJson = true →
      h.floor.backlog.Kept →
      let after := service.answered r h
      let status := after.1.map (·.status)
      ((∃ id form held, after.1 = .ok (.accepted id) ∧ service.Reads r form ∧
          h.Admitted after.2 service.session form.toRequest id held) ∨
        h.Untouched after.2 ∧
          ((∀ f, r.json ≠ .error f) → ∃ code ∈ [400, 409, 413, 503], status = .ok code)) ∧
      (status = .ok 413 ↔ service.contentLimit < r.body.length) ∧
      (status = .ok 202 ↔ (∃ form, service.Reads r form) ∧
        h.floor.backlog.staffed = true ∧ (h.session service.session).locked = false) := by
  refine ⟨fun start now hnew hlimit hsteady ⟨n, hn, hlanes⟩ hsteps =>
    Floor.steps_kept (hnew.kept hlimit hsteady hn hlanes) hsteps, ?_⟩
  intro τ service o r h ho hr hjson hkept
  have huntouched : h.Untouched h := ⟨rfl, fun _ => rfl⟩
  dsimp only
  rw [answered_print h ho hr]
  -- one case for each stage that may refuse, in their order; behind the slot there is none
  rcases dataOf_json service hjson with
    ⟨hlong, hdata⟩ | ⟨hshort, ⟨f, hf, hdata⟩ | ⟨v, hdata⟩⟩
  · have hnone : ¬ ∃ form, service.Reads r form := reads_none (by simp [hdata])
    rw [hdata]
    exact ⟨.inr ⟨huntouched, fun _ => ⟨413, by decide, rfl⟩⟩, by simp [hlong, Except.map],
      by simp [hnone, Except.map]⟩
  · have hnone : ¬ ∃ form, service.Reads r form := reads_none (by simp [hdata])
    rw [hdata]
    exact ⟨.inr ⟨huntouched, fun hread => absurd hf (hread f)⟩, by simp [hshort, Except.map],
      by simp [hnone, Except.map]⟩
  rw [hdata]
  simp only [reads_iff hdata, hshort, iff_false]
  cases PrintForm.read service.limits v with
  | error complaints =>
    exact ⟨.inr ⟨huntouched, fun _ => ⟨400, by decide, rfl⟩⟩, nofun, iff_of_false nofun (by simp)⟩
  | ok form =>
    dsimp only
    by_cases hstaffed : h.floor.backlog.staffed = true
    · rw [if_pos hstaffed]
      cases hlocked : (h.session service.session).locked with
      | true =>
        rw [House.enqueuePrint_locked o h _ _ hlocked]
        exact ⟨.inr ⟨h.untouched_spent _, fun _ => ⟨409, by decide, rfl⟩⟩, nofun,
          iff_of_false nofun (by simp)⟩
      | false =>
        obtain ⟨id, held, h', hrun, hadmitted⟩ :=
          House.enqueuePrint_admitted o h service.session form.toRequest hkept hlocked
        rw [hrun]
        exact ⟨.inl ⟨id, form, held, rfl, rfl, hadmitted⟩, nofun,
          iff_of_true rfl ⟨⟨form, rfl⟩, hstaffed, rfl⟩⟩
    · rw [if_neg hstaffed]
      exact ⟨.inr ⟨huntouched, fun _ => ⟨503, by decide, rfl⟩⟩, nofun,
        iff_of_false nofun (by simp [hstaffed])⟩

def shop : Service (StateM (House Nat)) Nat where
  office := House.office House.alone
  document := pure (.ok none)
  await _ := pure ()

def order : HttpRequest where
  method := "POST"
  target := "/api/v1/jobs"
  contentType := some "application/json"
  body := "\x7b\"markup\":\"[L]hello\"\x7d".toText.map fun c => UInt8.ofNat c.toNat

theorem order_isJson : order.isJson = true := by decide +kernel

theorem order_readable (f : Fault) : order.json ≠ .error f := by
  have hread : order.json.isOk = true := by decide +kernel
  intro hf
  rw [hf] at hread
  cases hread

def staffed (registry : Registry) : House Nat where
  rooms _ := { session := {} }
  floor := { backlog := { staffed := true, registry } }

theorem refused_traceless_order :
    let house := staffed { clock := fun _ => "now" }
    let after := shop.answered order house
    house.floor.backlog.Kept ∧ ∃ id form held, after.1 = .ok (.accepted id) ∧
      shop.Reads order form ∧ house.Admitted after.2 0 form.toRequest id held := by
  intro house after
  have hkept : house.floor.backlog.Kept :=
    refused_traceless.1 house.floor house.floor ⟨rfl, rfl, rfl⟩ (by decide)
      (fun _ => .refl "now") ⟨2, by decide, rfl⟩ .refl
  obtain ⟨hadmitted | ⟨-, hrefused⟩, -, -⟩ :=
    refused_traceless.2 shop House.alone order house rfl ⟨rfl, rfl⟩ order_isJson hkept
  · exact ⟨hkept, hadmitted⟩
  · have haccepted : after.1.map (·.status) = .ok 202 := by decide +kernel
    obtain ⟨code, hcode, hstatus⟩ := hrefused order_readable
    rw [show _ = _ from hstatus] at haccepted
    cases haccepted
    exact absurd hcode (by decide)

/-- Content of more bytes than are read is refused with a code of its own.  Where the clock goes
back, the job that has just been accepted is the oldest, and it is forgotten at once. -/
theorem order_tooLong :
    (({ shop with contentLimit := 10 }.answered order (staffed {})).1.map HttpAnswer.status =
        .ok 413 ∧ 413 ∉ [202, 400, 409, 503]) ∧
      let registry : Registry :=
        { limit := 1, issued := 1, clock := fun n => if n ≤ 1 then "later" else "earlier",
          records := [("job1", .new "job1" (.str "print") "later" [])] }
      let after := shop.answered order (staffed registry)
      after.1.map HttpAnswer.status = .ok 202 ∧
        after.2.floor.registry.records.map (·.1) = registry.records.map (·.1) := by
  decide +kernel

end Service
end ThermalPrint
