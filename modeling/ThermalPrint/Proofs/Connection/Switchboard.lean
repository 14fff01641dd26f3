import ThermalPrint.Proofs.Connection.Bench
import ThermalPrint.Proofs.Connection.Transitions
import ThermalPrint.Proofs.Session.Leads

/-
A connection in surroundings of any kind.  Transports are opened, written to and closed in a world
with a state of its own, of which nothing is known, and while it is busy others may make calls of
the same connection.

While a transport is being opened whatever others ask is refused, so that connecting finds the
connection again as it has left it.  This is why the invariant, that a transport is held by a
connection that is up and by no other, is kept by connecting as well.
-/

namespace ThermalPrint

structure Surroundings (τ ω : Type) where
  openAt : Text → StateM ω (Except Fault τ)
  send : τ → List UInt8 → StateM ω (Option Fault)
  close : τ → StateM ω (Option Fault)
  tell : ConnectionState → StateM ω Unit

/-- A connection and the world around it. -/
structure Switchboard (τ ω : Type) where
  connection : Connection τ := {}
  world : ω

namespace Switchboard

variable {τ ω α : Type}

def outside (x : StateM ω α) : StateM (Switchboard τ ω) α := fun b =>
  ((x.run b.world).1, { b with world := (x.run b.world).2 })

/-- The connection with all that it needs from outside.  Whenever a transport is opened, or bytes
are sent, something else is done before and after. -/
def line (s : Surroundings τ ω) (before after : StateM (Switchboard τ ω) Unit) :
    Line (StateM (Switchboard τ ω)) τ where
  get b := (b.connection, b)
  set c b := ((), { b with connection := c })
  openAt address := do
    before
    let answer ← outside (s.openAt address)
    after
    return answer
  send t bytes := do
    before
    let failure? ← outside (s.send t bytes)
    after
    return failure?
  close t := outside (s.close t)
  tell state := outside (s.tell state)

def perform (line : Line (StateM (Switchboard τ ω)) τ) :
    Bench.Call → StateM (Switchboard τ ω) (Except Fault Unit)
  | .connect address => line.connect address
  | .disconnect => line.disconnect
  | .write bytes => line.write bytes

def callAll (s : Surroundings τ ω) : List Bench.Call → StateM (Switchboard τ ω) Unit
  | [] => pure ()
  | c :: rest => do
    let _ ← perform (line s (pure ()) (pure ())) c
    callAll s rest

/-- A call is made, and others make theirs before and after the world has done its part. -/
def call (s : Surroundings τ ω) (before after : List Bench.Call) :
    Bench.Call → StateM (Switchboard τ ω) (Except Fault Unit) :=
  perform (line s (callAll s before) (callAll s after))

/-- The switchboards that calls lead to. -/
inductive Reached (s : Surroundings τ ω) : Switchboard τ ω → Prop
  | start (world : ω) : Reached s { world }
  | call {b : Switchboard τ ω} (h : Reached s b) (before after : List Bench.Call) (c : Bench.Call) :
    Reached s ((call s before after c).run b).2

/-- A transport is held by a connection that is up, and by no other, and none is being opened. -/
structure Sound (b : Switchboard τ ω) : Prop where
  holds_iff : b.connection.transport.isSome ↔ b.connection.state = .connected
  settled : b.connection.state ≠ .connecting

def Opening (b : Switchboard τ ω) : Prop :=
  b.connection.state = .connecting ∧ b.connection.transport = none

variable {s : Surroundings τ ω} {b : Switchboard τ ω}

theorem Sound.transport_none (h : b.Sound) (hstate : b.connection.state ≠ .connected) :
    b.connection.transport = none :=
  Option.not_isSome_iff_eq_none.1 fun hsome => hstate (h.holds_iff.1 hsome)

theorem sound_release (c : Connection τ) {state : ConnectionState} (hover : state.isOver = true)
    (world : ω) : Sound { connection := c.release state, world } := by
  cases state with
  | connected => cases hover
  | connecting => cases hover
  | idle => exact ⟨iff_of_false nofun nofun, nofun⟩
  | failed reason => exact ⟨iff_of_false nofun nofun, nofun⟩

theorem leads_outside (x : StateM ω α) :
    Leads Sound (outside x : StateM (Switchboard τ ω) α) Sound :=
  fun _ h => ⟨h.holds_iff, h.settled⟩

/-- What others do keeps the invariant, and leaves a connection alone for which a transport is being
opened. -/
structure Discreet (x : StateM (Switchboard τ ω) Unit) : Prop where
  sound : Leads Sound x Sound
  opening : Leads Opening x Opening

theorem discreet_pure : Discreet (pure () : StateM (Switchboard τ ω) Unit) :=
  ⟨leads_pure (), leads_pure ()⟩

section Perform

variable {before after : StateM (Switchboard τ ω) Unit} (address : Text)

/-- What is left of connecting once the connection is being opened. -/
def dialled (line : Line (StateM (Switchboard τ ω)) τ) (address : Text) :
    StateM (Switchboard τ ω) (Except Fault Unit) := do
  line.tell .connecting
  match ← line.openAt address with
  | .ok t =>
    line.set ((← line.get).hold t)
    line.tell .connected
    return .ok ()
  | .error f =>
    let failure := OpeningFailure.of f
    line.set ((← line.get).fail failure.reason)
    line.tell (.failed failure.reason)
    return .error failure.fault

theorem connect_run (b : Switchboard τ ω) :
    ((line s before after).connect address).run b =
      match b.connection.dial address with
      | .error e => (.error (.print e), b)
      | .ok c => (dialled (line s before after) address).run { b with connection := c } := by
  show (match b.connection.dial address with
    | .error e => pure (.error (.print e))
    | .ok c => (do (line s before after).set c; dialled (line s before after) address) :
      StateM (Switchboard τ ω) (Except Fault Unit)).run b = _
  cases b.connection.dial address <;> rfl

theorem opening_of_dial (hb : b.Sound) {c : Connection τ}
    (h : b.connection.dial address = .ok c) : Opening { b with connection := c } := by
  obtain ⟨hover, rfl⟩ := Connection.dial_ok h
  refine ⟨rfl, hb.transport_none fun hup => ?_⟩
  rw [hup] at hover
  cases hover

theorem leads_closeOf (c : Connection τ) :
    Leads Sound ((line s before after).closeOf c) Sound := by
  unfold Line.closeOf
  cases c.transport with
  | none => exact leads_pure ()
  | some t => exact leads_bind (leads_outside (s.close t)) fun _ => leads_pure ()

theorem leads_disconnect : Leads Sound (line s before after).disconnect Sound := by
  refine leads_bind (Q := Sound) (fun _ h => h) fun c => ?_
  split
  · exact leads_pure _
  · exact leads_pure _
  · rename_i released hreleased
    refine leads_bind (Q := Sound) (fun b _ => ?_) fun _ => ?_
    · show Sound { b with connection := released }
      rw [Connection.hangUp_some hreleased]
      exact sound_release c rfl b.world
    · exact leads_bind (leads_closeOf c) fun _ =>
        leads_bind (leads_outside (s.tell .idle)) fun _ => leads_pure _

variable (hbefore : Discreet before) (hafter : Discreet after)

include hbefore hafter

theorem leads_openAt : Leads Opening ((line s before after).openAt address) Opening :=
  leads_bind hbefore.opening fun _ => leads_bind (Q := Opening) (fun _ h => h) fun _ =>
    leads_bind hafter.opening fun _ => leads_pure _

theorem leads_send (t : τ) (bytes : List UInt8) :
    Leads Sound ((line s before after).send t bytes) Sound :=
  leads_bind hbefore.sound fun _ => leads_bind (leads_outside (s.send t bytes)) fun _ =>
    leads_bind hafter.sound fun _ => leads_pure _

theorem leads_dialled : Leads Opening (dialled (line s before after) address) Sound := by
  refine leads_bind (Q := Opening) (fun _ h => h) fun _ => ?_
  refine leads_bind (leads_openAt address hbefore hafter) fun answer => ?_
  intro b hb
  cases answer with
  | ok t => exact ⟨iff_of_true rfl rfl, nofun⟩
  | error f =>
    -- Nothing has come of the transport, so that there is none.
    refine ⟨?_, nofun⟩
    show b.connection.transport.isSome ↔ ConnectionState.failed _ = .connected
    rw [hb.2]
    exact ⟨nofun, nofun⟩

theorem leads_connect : Leads Sound ((line s before after).connect address) Sound := by
  intro b hb
  rw [connect_run]
  cases hdial : b.connection.dial address with
  | error e => exact hb
  | ok c => exact leads_dialled address hbefore hafter _ (opening_of_dial address hb hdial)

theorem leads_write (bytes : List UInt8) :
    Leads Sound ((line s before after).write bytes) Sound := by
  refine leads_bind (Q := Sound) (fun _ h => h) fun c => ?_
  split
  · exact leads_pure _
  · refine leads_bind (leads_send hbefore hafter _ bytes) fun failure? => ?_
    split
    · exact leads_pure _
    · refine leads_bind (Q := Sound) (fun _ h => h) fun now => ?_
      dsimp only
      split
      · exact leads_pure _
      · rename_i state hstate
        refine leads_bind (Q := Sound) (fun b _ => ?_) fun _ => ?_
        · exact sound_release now (Connection.writeFailure_isOver hstate) b.world
        · exact leads_bind (leads_closeOf now) fun _ =>
            leads_bind (leads_outside (s.tell state)) fun _ => leads_pure _

theorem leads_perform (c : Bench.Call) : Leads Sound (perform (line s before after) c) Sound := by
  cases c with
  | connect address => exact leads_connect address hbefore hafter
  | disconnect => exact leads_disconnect
  | write bytes => exact leads_write hbefore hafter bytes

end Perform

section Refused

variable (before after : StateM (Switchboard τ ω) Unit)

@[simp] theorem get_run (b : Switchboard τ ω) :
    (line s before after).get.run b = pure (b.connection, b) := rfl

/-- While a transport is being opened, whatever is asked of the connection is refused. -/
theorem perform_refused (hb : b.Opening) (c : Bench.Call) :
    ∃ e, (perform (line s before after) c).run b = pure (.error (.print e), b) := by
  cases c with
  | connect address =>
    cases hdial : b.connection.dial address with
    | error e =>
      refine ⟨e, ?_⟩
      rw [perform, connect_run, hdial]
      rfl
    | ok c =>
      obtain ⟨hover, -⟩ := Connection.dial_ok hdial
      rw [hb.1] at hover
      cases hover
  | disconnect =>
    cases hhangUp : b.connection.hangUp with
    | error e => exact ⟨e, by simp [perform, Line.disconnect, hhangUp]⟩
    | ok released => exact absurd hb.1 (Connection.hangUp_ok hhangUp)
  | write bytes =>
    cases hclaim : b.connection.claim with
    | error e => exact ⟨e, by simp [perform, Line.write, hclaim]⟩
    | ok t =>
      have hup := (Connection.claim_ok hclaim).1
      rw [hb.1] at hup
      cases hup

end Refused

theorem callAll_refused (s : Surroundings τ ω) (calls : List Bench.Call) (hb : b.Opening) :
    (callAll s calls).run b = pure ((), b) := by
  induction calls with
  | nil => rfl
  | cons c rest ih =>
    obtain ⟨e, hrefused⟩ := perform_refused (s := s) (pure ()) (pure ()) hb c
    rw [callAll, StateT.run_bind, hrefused]
    exact ih

theorem callAll_discreet (s : Surroundings τ ω) (calls : List Bench.Call) :
    Discreet (callAll s calls) where
  sound := by
    induction calls with
    | nil => exact leads_pure ()
    | cons c rest ih =>
      have hcall := leads_perform (s := s) discreet_pure discreet_pure c
      exact leads_bind hcall fun _ => ih
  opening b hb := by
    rw [callAll_refused s calls hb]
    exact hb

theorem Reached.sound (h : Reached s b) : b.Sound := by
  induction h with
  | start world => exact ⟨iff_of_false nofun nofun, nofun⟩
  | call _ before after c ih =>
    exact leads_perform (callAll_discreet s before) (callAll_discreet s after) c _ ih

/-- What the world answers when a transport is asked for, and the world then. -/
def answered (s : Surroundings τ ω) (b : Switchboard τ ω) (address : Text) : Except Fault τ × ω :=
  (s.openAt address).run ((s.tell .connecting).run b.world).2

/-- Others find the connection busy, and leave it as it is. -/
theorem openAt_run (hb : b.Opening) (address : Text) (before after : List Bench.Call) :
    ((line s (callAll s before) (callAll s after)).openAt address).run b =
      pure (((s.openAt address).run b.world).1,
        { b with world := ((s.openAt address).run b.world).2 }) := by
  have hopened : Opening { b with world := ((s.openAt address).run b.world).2 } := hb
  show ((callAll s before >>= fun _ => outside (s.openAt address) >>= fun answer =>
    callAll s after >>= fun _ => pure answer) : StateM (Switchboard τ ω) _).run b = _
  rw [StateT.run_bind, callAll_refused s before hb, pure_bind, StateT.run_bind,
    show (outside (s.openAt address)).run b = pure (((s.openAt address).run b.world).1,
      { b with world := ((s.openAt address).run b.world).2 }) from rfl,
    pure_bind, StateT.run_bind, callAll_refused s after hopened]
  rfl

/-- Connecting comes to what the world answers, whatever others ask meanwhile. -/
theorem call_connect (hb : b.Sound) (hover : b.connection.state.isOver = true) (address : Text)
    (before after : List Bench.Call) :
    (call s before after (.connect address)).run b =
      let c := { b.connection with state := .connecting, address := some address }
      let world := (answered s b address).2
      match (answered s b address).1 with
      | .ok t =>
        (.ok (), { connection := c.hold t, world := ((s.tell .connected).run world).2 })
      | .error f =>
        let reason := (OpeningFailure.of f).reason
        (.error (OpeningFailure.of f).fault,
          { connection := c.fail reason, world := ((s.tell (.failed reason)).run world).2 }) := by
  let c := { b.connection with state := .connecting, address := some address }
  let told : Switchboard τ ω := { connection := c, world := ((s.tell .connecting).run b.world).2 }
  have hdial : b.connection.dial address = .ok c := Connection.dial_over hover address
  have hopening : told.Opening := opening_of_dial address hb hdial
  have hanswered : ((line s (callAll s before) (callAll s after)).openAt address).run told =
      pure ((answered s b address).1, { connection := c, world := (answered s b address).2 }) :=
    openAt_run hopening address before after
  have htold : ((line s (callAll s before) (callAll s after)).tell .connecting).run
      { b with connection := c } = pure ((), told) := rfl
  unfold call perform
  rw [connect_run, hdial]
  dsimp only
  unfold dialled
  rw [StateT.run_bind, htold, pure_bind, StateT.run_bind, hanswered, pure_bind]
  cases (answered s b address).1 with
  | ok t => rfl
  | error f => rfl

end Switchboard
end ThermalPrint
