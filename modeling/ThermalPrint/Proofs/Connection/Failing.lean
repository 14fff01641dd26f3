import ThermalPrint.Proofs.Connection.Interrupted

/-
How a write that fails ends its connection: the transport is let go and closed, and the next
connecting is not refused.

This holds of the errors of the stream.  A write that fails with anything else, such as an error of
the library underneath, passes it on and leaves the connection up, although part of the bytes may
have gone out.
-/

namespace ThermalPrint
namespace Bench

/-- What a failed write through a transport should come to: it is reported as an error of the
stream, a timeout as itself, and the connection is over. -/
structure EndedBy (f : Fault) (t : Nat) (result : Except Fault Unit) (after : Bench) : Prop where
  reported : ∃ f', result = .error f' ∧ f'.isA .ioError = true ∧ (f.isA .timeout = true → f' = f)
  state : after.connection.state = f.endState
  released : after.connection.transport = none
  closed : after.log.count (.closed t) = 1
  /-- Connecting anew asks for a transport, and succeeds if there is one. -/
  accepts : ∀ address o,
    .dialled address :: .told .connecting :: after.log <:+ (after.step (.connect address) o).2.log ∧
      ((after.step (.connect address) o).1 = .ok () ↔ o.opening = none)

theorem step_connect_over {b : Bench} (h : b.connection.state.isOver = true) (address : Text)
    (o : Outside) :
    .dialled address :: .told .connecting :: b.log <:+ (b.step (.connect address) o).2.log ∧
      ((b.step (.connect address) o).1 = .ok () ↔ o.opening = none) := by
  rw [show b.step (.connect address) o = ((line o).connect address).run b from rfl, connect_run,
    Connection.dial_over h]
  cases o.opening with
  | none => exact ⟨⟨[.told .connected, .opened b.opened], rfl⟩, by simp⟩
  | some f => exact ⟨⟨[.told (.failed (OpeningFailure.of f).reason)], rfl⟩, by simp⟩

section Failing

variable {b : Bench} {t : Nat} (bytes : List UInt8) {o : Outside} {f : Fault}

theorem step_failing (hb : Reached b) (hclaim : b.connection.claim = .ok t)
    (ho : o.writing = some f) (hf : f.OfStream) :
    EndedBy f t (b.step (.write bytes) o).1 (b.step (.write bytes) o).2 := by
  -- a transport that is held has not been closed yet, so that closing it now is the only time
  have hopen : b.log.count (.closed t) = 0 :=
    List.count_eq_zero.2 ((hb.sound.orderly.open_iff t).2 (Connection.claim_ok hclaim).2).2
  have hlinks : ∀ l ∈ ([] : List (Link × Outside)), l.1 ≠ .disconnect := fun _ hl => by cases hl
  obtain ⟨f', htimeout, hio, hstep⟩ := writeDuring_own bytes hclaim ho hf hlinks
  rw [writeDuring_nil] at hstep
  rw [hstep]
  refine ⟨⟨f', rfl, hio, htimeout⟩, rfl, rfl, ?_, step_connect_over f.endState_isOver⟩
  simp [hopen]

theorem step_spared (hclaim : b.connection.claim = .ok t) (ho : o.writing = some f)
    (hf : ¬ f.OfStream) : b.step (.write bytes) o = (.error f, b.note (.wrote t bytes)) := by
  have hfailure : b.failureOf f = ⟨f, none⟩ := by
    simp only [Fault.OfStream, not_or, Bool.not_eq_true] at hf
    simp [failureOf, Connection.writeFailure, hf]
  rw [show b.step (.write bytes) o = ((line o).write bytes).run b from rfl, write_run, hclaim]
  simp [ho, hfailure]

/-- A write that fails on a connection that is up ends it if it fails with an error of the stream.
With any other fault it reports the fault as it is, and nothing becomes of the connection. -/
theorem failed_write (hb : Reached b) (hup : b.connection.state = .connected)
    (ho : o.writing = some f) :
    ∃ t, b.connection.transport = some t ∧
      (f.OfStream → EndedBy f t (b.step (.write bytes) o).1 (b.step (.write bytes) o).2) ∧
      (¬ f.OfStream → b.step (.write bytes) o = (.error f, b.note (.wrote t bytes))) := by
  obtain ⟨t, ht⟩ := Option.isSome_iff_exists.1 (hb.sound.holds_iff.2 hup)
  have hclaim : b.connection.claim = .ok t := by simp [Connection.claim, hup, ht]
  exact ⟨t, ht, step_failing bytes hb hclaim ho, step_spared bytes hclaim ho⟩

end Failing

theorem failed_write_timedOut :
    connectedBench.connection.state = .connected ∧
      EndedBy (.print (.of .timeout "late")) 0
        (connectedBench.step (.write [0x41]) { writing := some (.print (.of .timeout "late")) }).1
        (connectedBench.step (.write [0x41])
          { writing := some (.print (.of .timeout "late")) }).2 := by
  have hreached : Reached connectedBench := .step .start _ _
  obtain ⟨t, ht, hended, -⟩ := failed_write [0x41] (o := { writing := _ }) hreached rfl rfl
  cases ht
  exact ⟨rfl, hended (.inl (by rw [Fault.isA_print, PrintError.of_kind]; rfl))⟩

theorem failed_write_spared :
    Reached connectedBench ∧ connectedBench.connection.state = .connected ∧
      (connectedBench.step (.write [0x41]) { writing := some (.value .runtime "boom") }).1 =
        .error (.value .runtime "boom") ∧
      (connectedBench.step (.write [0x41])
        { writing := some (.value .runtime "boom") }).2.connection = connectedBench.connection ∧
      ¬ EndedBy (.value .runtime "boom") 0
        (connectedBench.step (.write [0x41]) { writing := some (.value .runtime "boom") }).1
        (connectedBench.step (.write [0x41]) { writing := some (.value .runtime "boom") }).2 := by
  refine ⟨.step .start _ _, rfl, rfl, rfl, fun h => ?_⟩
  have hstate := h.state
  cases hstate

end Bench
end ThermalPrint
