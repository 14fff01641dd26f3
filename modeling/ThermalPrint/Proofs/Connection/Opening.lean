import ThermalPrint.Proofs.Connection.Switchboard
import ThermalPrint.Proofs.Transport.Opened

/-
How connecting ends.  Whatever comes of opening a transport, the connection is up with it or has
failed for a reason that says why, and what is reported goes with that reason.
-/

namespace ThermalPrint

namespace OpeningFailure

/-- The reason under which a fault of opening is kept, and the fault that is reported for it. -/
inductive Reported : Fault → Text → Fault → Prop
  | timeout {e : PrintError} (h : e.kind.isA .timeout = true) :
    Reported (.print e) "timeout" (.print e)
  | unreachable {e : PrintError} (h : e.kind = .deviceUnreachable) :
    Reported (.print e) (e.reason?.getD []) (.print e)
  | refused {e : PrintError} (h : e.kind.isA .connectError = true)
      (hkind : e.kind ≠ .deviceUnreachable) : Reported (.print e) e.message (.print e)
  /-- Anything else is reported as a printer that cannot be reached. -/
  | other {f : Fault} (htimeout : f.isA .timeout = false) (hconnect : f.isA .connectError = false)
      {reason : Text}
      (hreason : reason = if f.message = [] then f.className.toText else f.message) :
    Reported f reason (.print (.unreachable reason))

theorem isA_deviceUnreachable {kind : ErrorKind} :
    kind.isA .deviceUnreachable = true ↔ kind = .deviceUnreachable := by
  cases kind <;> decide

theorem of_reported (f : Fault) : Reported f (of f).reason (of f).fault := by
  have hother (htimeout : f.isA .timeout = false) (hconnect : f.isA .connectError = false) :
      Reported f (if f.message.isEmpty then f.className.toText else f.message)
        (.print (.unreachable (if f.message.isEmpty then f.className.toText else f.message))) :=
    .other htimeout hconnect (by simp)
  cases f with
  | system kind message => exact hother rfl rfl
  | value kind message => exact hother rfl rfl
  | print e =>
    unfold of
    dsimp only
    by_cases htimeout : e.kind.isA .timeout = true
    · rw [if_pos htimeout]
      exact .timeout htimeout
    · rw [if_neg htimeout]
      by_cases hunreachable : e.kind.isA .deviceUnreachable = true
      · rw [if_pos hunreachable]
        exact .unreachable (isA_deviceUnreachable.1 hunreachable)
      · rw [if_neg hunreachable]
        by_cases hconnect : e.kind.isA .connectError = true
        · rw [if_pos hconnect]
          exact .refused hconnect fun hkind => hunreachable (isA_deviceUnreachable.2 hkind)
        · rw [if_neg hconnect]
          exact hother (Bool.eq_false_iff.2 htimeout) (Bool.eq_false_iff.2 hconnect)

/-- Only who says that a printer cannot be reached may leave out why. -/
theorem Reported.reason_ne {f f' : Fault} {reason : Text} (h : Reported f reason f')
    (hmade : f.Made) (hempty : reason = []) : f = .print (.unreachable []) := by
  cases h with
  | timeout _ => exact absurd hempty (by decide)
  | @unreachable e hkind =>
    obtain ⟨reason, rfl⟩ := PrintError.Made.unreachable_of_kind hmade hkind
    cases hempty
    rfl
  | @refused e _ _ => exact absurd hempty (PrintError.Made.message_ne hmade)
  | other _ _ hreason =>
    rw [hempty] at hreason
    split at hreason
    · exact absurd hreason.symm f.className_ne
    · rename_i hmessage
      exact absurd hreason.symm hmessage

end OpeningFailure

namespace Switchboard

open OpeningFailure (Reported)

variable {τ ω : Type}

/-- How connecting ends, by what the world has answered. -/
structure Ended (address : Text) (answer : Except Fault τ) (result : Except Fault Unit)
    (c : Connection τ) : Prop where
  address : c.address = some address
  /-- The connection is up with a transport just if this is what has been answered. -/
  connected : ∀ t, c.state = .connected ∧ c.transport = some t ↔ answer = .ok t
  succeeded : result = .ok () ↔ ∃ t, answer = .ok t
  failed : ∀ f, answer = .error f → ∃ reason f', c.state = .failed reason ∧ c.transport = none ∧
    result = .error f' ∧ Reported f reason f' ∧
    (f.Made → reason = [] → f = .print (.unreachable []))

variable {s : Surroundings τ ω} {b : Switchboard τ ω}

theorem connect_ended (h : Reached s b) (hover : b.connection.state.isOver = true)
    (address : Text) (before after : List Bench.Call) :
    Ended address (answered s b address).1 ((call s before after (.connect address)).run b).1
      ((call s before after (.connect address)).run b).2.connection := by
  rw [call_connect h.sound hover]
  dsimp only
  cases (answered s b address).1 with
  | ok t =>
    refine ⟨rfl, fun t' => ?_, ?_, nofun⟩
    · simp [Connection.hold]
    · simp
  | error f =>
    have hnone : b.connection.transport = none := by
      refine h.sound.transport_none fun hup => ?_
      rw [hup] at hover
      cases hover
    have hreported := OpeningFailure.of_reported f
    refine ⟨rfl, fun t' => ?_, ?_, ?_⟩
    · simp [Connection.fail]
    · simp
    · rintro _ ⟨⟩
      exact ⟨_, _, rfl, hnone, rfl, hreported, hreported.reason_ne⟩

/-- A connection that has failed has done so for a fault that the world has answered. -/
theorem Ended.answered_error {address : Text} {answer : Except Fault τ}
    {result : Except Fault Unit} {c : Connection τ} (h : Ended address answer result c)
    {reason : Text} (hfailed : c.state = .failed reason) :
    ∃ f, answer = .error f ∧ (f.Made → reason = [] → f = .print (.unreachable [])) := by
  cases answer with
  | ok t =>
    rw [((h.connected t).2 rfl).1] at hfailed
    cases hfailed
  | error f =>
    obtain ⟨_, _, hstate, -, -, -, hreason⟩ := h.failed f rfl
    cases hstate.symm.trans hfailed
    exact ⟨f, rfl, hreason⟩

/-- Surroundings in which transports are opened over devices.  A fault that nobody handles comes
back as it is. -/
def overDevices {δ : Type} (hardware : Hardware ω δ) (seconds : Option Float)
    (tell : ConnectionState → StateM ω Unit) : Surroundings (Transport δ) ω where
  openAt address := do
    match ← (Transport.openAt hardware (some address) seconds).run with
    | .ok answer => return answer
    | .error f => return .error f
  send t bytes := do
    match ← (t.write hardware bytes).run with
    | .ok fault? => return fault?
    | .error f => return some f
  close t := do
    match ← (t.close hardware).run with
    | .ok fault? => return fault?
    | .error f => return some f
  tell := tell

theorem overDevices_telling {δ : Type} {hardware : Hardware ω δ} (hhardware : hardware.Telling)
    (seconds : Option Float) (tell : ConnectionState → StateM ω Unit) (address : Text) :
    Gives ((overDevices hardware seconds tell).openAt address) Transport.Answered := by
  intro w
  have hanswered := Transport.openAt_answered hhardware seconds (some address) w
  unfold overDevices
  dsimp only
  rw [StateT.run_bind]
  generalize (Transport.openAt hardware (some address) seconds).run.run w = opened
    at hanswered ⊢
  obtain ⟨r, w'⟩ := opened
  cases r with
  | ok answer => exact hanswered
  | error f => exact Transport.answered_error hanswered

/-- Connecting always leaves the state of connecting.  In any surroundings, and whatever others ask
of the connection meanwhile, it ends as what has been answered says; and if it has failed, it can be
begun again and ends in the same way.  Where transports are opened over devices there always is a
reason why it has failed. -/
theorem connect_ends :
    (∀ {τ ω : Type} (s : Surroundings τ ω) {b : Switchboard τ ω}, Reached s b →
      b.connection.state ≠ .connecting ∧
      (b.connection.state.isOver = true → ∀ (address : Text) (before after : List Bench.Call),
        let ended := (call s before after (.connect address)).run b
        Ended address (answered s b address).1 ended.1 ended.2.connection ∧
          ((∃ f, (answered s b address).1 = .error f) →
            ∀ (again : Text) (before' after' : List Bench.Call),
            let later := (call s before' after' (.connect again)).run ended.2
            Ended again (answered s ended.2 again).1 later.1 later.2.connection))) ∧
    ∀ {ω δ : Type} {hardware : Hardware ω δ} (seconds : Option Float)
      (tell : ConnectionState → StateM ω Unit) {b : Switchboard (Transport δ) ω},
      hardware.Telling → Reached (overDevices hardware seconds tell) b →
      b.connection.state.isOver = true → ∀ (address : Text) (before after : List Bench.Call),
      let ended := (call (overDevices hardware seconds tell) before after (.connect address)).run b
      ∀ reason, ended.2.connection.state = .failed reason → reason ≠ [] := by
  refine ⟨fun {τ ω} s {b} hb => ⟨hb.sound.settled, fun hover address before after => ?_⟩,
    fun {ω δ hardware} seconds tell {b} hhardware hb hover address before after => ?_⟩
  · have hended := connect_ended hb hover address before after
    refine ⟨hended, fun ⟨f, hf⟩ again before' after' => ?_⟩
    obtain ⟨_, _, hfailed, -⟩ := hended.failed f hf
    exact connect_ended (hb.call before after (.connect address)) (by rw [hfailed]; rfl) again
      before' after'
  · intro ended reason hfailed hempty
    have hended := connect_ended hb hover address before after
    obtain ⟨f, hf, hreason⟩ := hended.answered_error hfailed
    obtain ⟨hmade, hsaid⟩ := overDevices_telling hhardware seconds tell address _ f hf
    exact hsaid (hreason hmade hempty)

def halting : Surroundings Nat Nat where
  openAt _ n := (if n = 0 then .error (.value .runtime "") else .ok n, n + 1)
  send _ _ := pure none
  close _ := pure none
  tell _ := pure ()

/-- Devices of which none can be used. -/
def unplugged : Hardware Unit Nat where
  openNetwork _ _ _ := return .error (.bare "")
  openSerial _ _ _ := throw (.system .general "")
  socket := return none
  limit _ _ := return ()
  connect _ _ _ := return none
  send _ _ := return none
  flush _ := return none
  shutdown _ := return none
  close _ := return ()

theorem unplugged_telling : unplugged.Telling where
  openNetwork _ _ _ := yields_pure trivial
  openSerial _ _ _ := fun _ => Fault.telling_below rfl
  socket := yields_pure trivial
  limit _ _ := yields_pure trivial
  connect _ _ _ := yields_pure nofun
  close _ := yields_pure trivial

theorem connect_ends_retried :
    let first := (call halting [.disconnect] [.write [0x41]] (.connect "front")).run { world := 0 }
    let second := (call halting [] [] (.connect "front")).run first.2
    let third := (call (overDevices unplugged none fun _ => pure ()) [] []
      (.connect "/dev/rfcomm0")).run { world := () }
    first.1 = .error (.print (.unreachable "RuntimeError")) ∧
      first.2.connection.state = .failed "RuntimeError" ∧
      second.2.connection.state = .connected ∧ second.2.connection.transport = some 1 ∧
      ∀ reason, third.2.connection.state = .failed reason → reason ≠ [] := by
  intro first second third
  obtain ⟨hended, hlater⟩ := (connect_ends.1 halting (.start 0)).2 rfl "front" [.disconnect]
    [.write [0x41]]
  obtain ⟨reason, f', hstate, -, hresult, hreported, -⟩ := hended.failed _ rfl
  cases hreported with
  | other _ _ hreason =>
    have hname : reason = "RuntimeError" := hreason.trans (by decide)
    subst hname
    have hsecond := hlater ⟨_, rfl⟩ "front" [] []
    obtain ⟨hup, ht⟩ := (hsecond.connected 1).2 rfl
    exact ⟨hresult, hstate, hup, ht, connect_ends.2 none (fun _ => pure ()) unplugged_telling
      (.start ()) rfl "/dev/rfcomm0" [] []⟩

end Switchboard
end ThermalPrint
