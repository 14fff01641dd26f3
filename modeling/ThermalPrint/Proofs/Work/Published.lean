import ThermalPrint.Proofs.Work.Process

/-
Print jobs that fail, and who learns of it.  The record of a job always tells of its failure.  The
session tells of it if the job has got as far as the session, that is, if its images are there.
-/

namespace ThermalPrint
namespace House

variable {τ : Type} (o : Outside τ) (x : SessionId)

/-- The status of a session tells of an error of printing. -/
def Tells (x : SessionId) (e : PrintError) (h : House τ) : Prop :=
  (h.session x).lastErrorKind = some e.kind ∧
    (h.session x).lastMessage = some ("Print Failed: " ++ e.message)

theorem report_tells (e : PrintError) (h : House τ) :
    Tells x e
      (((desk o x).report "Print Failed" (.error (.print e) : Except Fault Nat)).run h).2 := by
  have hsession : ∀ s : Session τ, (h.setSession x s).session x = s := setSession_self h x
  exact ⟨congrArg Session.lastErrorKind (hsession _), congrArg Session.lastMessage (hsession _)⟩

/-- Giving back a slot, of whatever session, is nothing that a status tells of. -/
theorem released_said (h : House τ) (r : Reservation) (y : SessionId) :
    ((h.released x r).session y).lastErrorKind = (h.session y).lastErrorKind ∧
      ((h.released x r).session y).lastMessage = (h.session y).lastMessage := by
  unfold released
  generalize (if r.session = (h.session x).id then x else r.session) = z
  by_cases hy : y = z
  · subst hy
    rw [setSession_self]
    exact ⟨Session.release_lastErrorKind _ r, Session.release_lastMessage _ r⟩
  · rw [setSession_other h z _ hy]
    exact ⟨rfl, rfl⟩

theorem Tells.released {e : PrintError} {h : House τ} (ht : Tells x e h) (r : Reservation) :
    Tells x e (h.released x r) := by
  obtain ⟨hkind, hmessage⟩ := released_said x h r x
  exact ⟨hkind.trans ht.1, hmessage.trans ht.2⟩

/-- What comes behind the printing of an order. -/
def behind (order : PrintOrder) (r : Reservation) (result : Except Fault Nat) :
    StateM (House τ) (Except Fault Nat) := do
  (desk o x).report "Print Failed" result
  (desk o x).release r
  if result.isOk then (desk o x).publish order.success
  return result

theorem behind_gives (order : PrintOrder) (r : Reservation) (result : Except Fault Nat) :
    Gives (behind o x order r result) (· = result) := by
  cases result with
  | ok n => exact fun _ => rfl
  | error f => exact fun _ => rfl

/-- A submission that fails for an error of printing has published it. -/
theorem submit_tells {order : PrintOrder} {r : Reservation} {e : PrintError} {h : House τ}
    (hfail : (((desk o x).submit order (some r)).run h).1 = .error (.print e)) :
    Tells x e (((desk o x).submit order (some r)).run h).2 := by
  let performed := ((desk o x).perform r order).run h
  have hrun : ((desk o x).submit order (some r)).run h =
      (behind o x order r performed.1).run performed.2 := rfl
  have hresult : performed.1 = .error (.print e) := by
    rw [← hfail, hrun]
    exact (behind_gives o x order r performed.1 performed.2).symm
  have hreleased := (report_tells o x e performed.2).released x r
  rw [hrun, hresult]
  have hbehind : ((behind o x order r (.error (.print e))).run performed.2).2 =
      (((desk o x).report "Print Failed" (.error (.print e) : Except Fault Nat)).run
        performed.2).2.released x r := by
    show (((desk o x).release r).run _).2 = _
    rw [release_run]
    rfl
  rw [hbehind]
  exact hreleased

/-- A print job that fails for an error of printing says so in its record, with the message that the
session has then.  If its images were there, the session tells of the same error.  If it is the
images that could not be had, the session says what it said when that turned out. -/
theorem failure_told (h : House τ) (id : Option JobId) (request : PrintRequest)
    (held : Reservation) :
    let job : WaitingJob := ⟨id, x, .print request held⟩
    let order := (office o).ordered (h.begun id) request
    let after := (((office o).process job).run h).2
    ∀ e, (attempted o h job).1 = .error (.print e) →
      (∀ key r, id = some key → after.floor.backlog.registry.get? key = some r →
        r.Has .error ∧ r.lookup "error_kind".toText = some (.str e.kind.word) ∧
          r.lookup "message".toText = some (Json.ofText? (after.session x).lastMessage)) ∧
      (order.1.isOk = true →
        (after.session x).lastErrorKind = some e.kind ∧
          (after.session x).lastMessage = some ("Print Failed: " ++ e.message)) ∧
      (order.1.isOk = false → order.1 = .error (.print e) ∧
        (after.session x).lastErrorKind = (order.2.session x).lastErrorKind ∧
          (after.session x).lastMessage = (order.2.session x).lastMessage) := by
  intro job order after e hfail
  let printed := fulfilled o (h.begun id) x request held
  have hattempt : attempted o h job =
      (printed.1.map JobOutcome.written, printed.2.released x held) :=
    attempt_print o (h.begun id) id x request held
  have hprinted : printed.1 = .error (.print e) := by
    rw [hattempt] at hfail
    exact Outcome.map_error_iff.1 hfail
  have hafter : after.session x = (printed.2.released x held).session x := by
    show (attempted o h job).2.session x = _
    rw [hattempt]
  refine ⟨fun key r hkey hr => ?_, ?_⟩
  · obtain ⟨hstatus, hkind⟩ := (process_ended o h job hkey hr).printError e hfail
    exact ⟨hstatus, hkind, process_message o h job hkey hr⟩
  rw [hafter]
  cases horder : order.1 with
  | ok submitted =>
    have hrun : printed = _ := Office.fulfil_ordered horder
    refine ⟨fun _ => ?_, nofun⟩
    have htold : Tells x e printed.2 := by
      rw [hrun] at hprinted ⊢
      exact submit_tells o x hprinted
    exact htold.released x held
  | error f =>
    have hrun : printed = (.error f, order.2) := Office.fulfil_stopped horder
    refine ⟨nofun, fun _ => ?_⟩
    have hf : f = .print e := by
      rw [hrun] at hprinted
      exact Except.error.inj hprinted
    rw [hrun, hf]
    exact ⟨rfl, released_said x order.2 held x⟩

theorem failure_told_idle :
    let request : PrintRequest := { markup := some "hi" }
    let after := (((office alone).process (firstJob request)).run (withFirstJob request)).2
    ∃ r, after.floor.backlog.registry.get? "job1" = some r ∧
      r.lookup "error_kind".toText = some (.str ErrorKind.notConnected.word) ∧
      r.lookup "message".toText = some (.str "Print Failed: printer is idle") ∧
      (after.session 0).lastErrorKind = some .notConnected ∧
      (after.session 0).lastMessage = some "Print Failed: printer is idle" := by
  intro request after
  let e : PrintError := .of .notConnected "printer is idle"
  have hfail : (attempted alone (withFirstJob request) (firstJob request)).1 =
      .error (.print e) := by decide +kernel
  have horder : ((office alone).ordered ((withFirstJob request).begun (some "job1"))
      request).1.isOk = true := rfl
  obtain ⟨hrecord, htold, -⟩ := failure_told alone 0 (withFirstJob request) (some "job1") request
    ⟨0, 0, 0⟩ e hfail
  obtain ⟨hkind, hmessage⟩ := htold horder
  obtain ⟨r, hr⟩ : ∃ r, after.floor.backlog.registry.get? "job1" = some r :=
    Option.isSome_iff_exists.1 (by decide +kernel)
  obtain ⟨-, hword, hsaid⟩ := hrecord "job1" r rfl hr
  have hsame := hsaid.trans (congrArg (some <| Json.ofText? ·) hmessage)
  exact ⟨r, hr, hword, hsame, hkind, hmessage⟩

/-- A session does not learn of an image that cannot be had: the record of the job has the error,
and the status of the session has nothing. -/
theorem failure_untold :
    let request : PrintRequest := { image := some "!" }
    let after := (((office alone).process (firstJob request)).run (withFirstJob request)).2
    ∃ r, after.floor.backlog.registry.get? "job1" = some r ∧ r.Has .error ∧
      r.lookup "error_kind".toText = some (.str ErrorKind.imageUnavailable.word) ∧
      (after.session 0).lastErrorKind = none ∧ (after.session 0).lastMessage = none := by
  intro request after
  let e : PrintError :=
    (ReferenceFault.notBase64 Base64.Fault.foreignCharacter.message).toPrintError
  have hfail : (attempted alone (withFirstJob request) (firstJob request)).1 =
      .error (.print e) := by decide +kernel
  obtain ⟨r, hr⟩ : ∃ r, after.floor.backlog.registry.get? "job1" = some r :=
    Option.isSome_iff_exists.1 (by decide +kernel)
  obtain ⟨hstatus, hkind⟩ :=
    (process_ended alone (withFirstJob request) (firstJob request) rfl hr).printError e hfail
  exact ⟨r, hr, hstatus, hkind, by decide +kernel, by decide +kernel⟩

end House
end ThermalPrint
