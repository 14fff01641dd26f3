import ThermalPrint.Proofs.Session.Leads
import ThermalPrint.Proofs.Session.Slot
import ThermalPrint.Proofs.Session.Submit

/-
Calls for a session.  Reservations are made and given back and orders are submitted, by any number
of hands and in any order, also while an order is being written.

A run is a list of calls, and a submission has a list of its own for what is called while the
transport is at work.  The record of a run keeps the reservations that callers have in their hands,
and every moment at which somebody has called, so that what is proved of a run is proved of the
moments within a write as well.
-/

namespace ThermalPrint

variable {τ : Type}

/-- What is asked of a session.  A reservation goes by its place among those that callers have been
given; a submission of an order goes with what is asked while the order is being written. -/
inductive Call
  | reserve (token : Option TokenId)
  | release (place : Nat)
  | submit (order : PrintOrder) (token : Option TokenId) (meanwhile : List Call)
  | submitReserved (order : PrintOrder) (place : Nat) (meanwhile : List Call)

/-- A scene, the reservations that callers have been given in it, and what it was when they called,
the latest first. -/
structure Counter (τ : Type) where
  scene : Scene τ
  given : List Reservation := []
  past : List (Scene τ × List Reservation) := []

namespace Counter

/-- What is done in a scene is done in that of the counter. -/
def lift {α : Type} (x : StateM (Scene τ) α) : StateM (Counter τ) α := fun k =>
  ((x.run k.scene).1, { k with scene := (x.run k.scene).2 })

/-- The desk at a counter at which something happens while a transport is at work. -/
def desk (c : Carrier τ) (meanwhile : Counter τ → Counter τ) : Desk (StateM (Counter τ)) τ where
  get := lift (Scene.desk c).get
  set x := lift ((Scene.desk c).set x)
  newToken := lift (Scene.desk c).newToken
  cancelled token := lift ((Scene.desk c).cancelled token)
  cancel token f := lift ((Scene.desk c).cancel token f)
  openAt address := lift ((Scene.desk c).openAt address)
  send t bytes := do
    let failure ← lift ((Scene.desk c).send t bytes)
    StateT.modifyGet fun k => (failure, meanwhile k)
  close t := lift ((Scene.desk c).close t)
  announce message := lift ((Scene.desk c).announce message)
  releaseElsewhere r := lift ((Scene.desk c).releaseElsewhere r)

def called (k : Counter τ) : Counter τ := { k with past := (k.scene, k.given) :: k.past }

def handed (k : Counter τ) : Except Fault Reservation → Counter τ
  | .ok r => { k with given := k.given ++ [r] }
  | .error _ => k

end Counter

open Counter (desk lift called handed)

mutual

/-- What a call leaves. -/
def Call.run (c : Carrier τ) : Call → Counter τ → Counter τ
  | .reserve token, k =>
    let (result, k) := ((desk c id).reserve token).run k.called
    k.handed result
  | .release place, k =>
    match k.given[place]? with
    | some r => (((desk c id).release r).run k.called).2
    | none => k
  | .submit order token meanwhile, k =>
    (((desk c (Call.runAll c meanwhile)).submit order none token).run k.called).2
  | .submitReserved order place meanwhile, k =>
    match k.given[place]? with
    | some r => (((desk c (Call.runAll c meanwhile)).submit order (some r)).run k.called).2
    | none => k

def Call.runAll (c : Carrier τ) : List Call → Counter τ → Counter τ
  | [], k => k
  | call :: rest, k => Call.runAll c rest (call.run c k)

end

namespace Counter

def spent (n : TokenId) (k : Counter τ) : Counter τ :=
  { k with scene := { k.scene with room := { k.scene.room with nextToken := n } } }

def setSession (x : Session τ) (k : Counter τ) : Counter τ :=
  { k with scene := k.scene.setSession x }

section Operations

variable (c : Carrier τ) (meanwhile : Counter τ → Counter τ) (k : Counter τ)

theorem reserve_run (token : Option TokenId) :
    ∃ id n, ((desk c meanwhile).reserve token).run k =
      match k.scene.session.reserve id with
      | .error e => pure (.error (.print e), k.spent n)
      | .ok (r, x) => pure (.ok r, (k.spent n).setSession x) := by
  cases token with
  | some id =>
    refine ⟨id, k.scene.room.nextToken, ?_⟩
    show (match k.scene.session.reserve id with
      | .error e => pure (.error (.print e))
      | .ok (r, x) => do
        (desk c meanwhile).set x
        pure (.ok r) : StateM (Counter τ) (Except Fault Reservation)).run k = _
    cases k.scene.session.reserve id with
    | error e => rfl
    | ok p => rfl
  | none =>
    refine ⟨k.scene.room.nextToken, k.scene.room.nextToken + 1, ?_⟩
    show (match k.scene.session.reserve k.scene.room.nextToken with
      | .error e => pure (.error (.print e))
      | .ok (r, x) => do
        (desk c meanwhile).set x
        pure (.ok r) : StateM (Counter τ) (Except Fault Reservation)).run (k.spent _) = _
    cases k.scene.session.reserve k.scene.room.nextToken with
    | error e => rfl
    | ok p => rfl

theorem release_run {r : Reservation} (h : r.session = k.scene.session.id) :
    ((desk c meanwhile).release r).run k =
      pure ((), k.setSession (k.scene.session.release r)) := by
  show (if r.session = k.scene.session.id then (desk c meanwhile).modify (·.release r)
    else (desk c meanwhile).releaseElsewhere r : StateM (Counter τ) Unit).run k = _
  rw [if_pos h]
  rfl

/-- To submit an order is to reserve and to submit it under the reservation. -/
theorem submit_run (order : PrintOrder) (token : Option TokenId) :
    ((desk c meanwhile).submit order none token).run k =
      match ((desk c meanwhile).reserve token).run k with
      | (.error f, k') => pure (.error f, k')
      | (.ok r, k') => ((desk c meanwhile).submit order (some r)).run k' := by
  show ((desk c meanwhile).reserve token >>= _).run k = _
  rw [StateT.run_bind]
  show (match ((desk c meanwhile).reserve token).run k with | (result, k') => _) = _
  cases ((desk c meanwhile).reserve token).run k with
  | mk result k' => cases result <;> rfl

end Operations

/-- It is left to the slot, to callers and to the past whether a counter is such a one. -/
def OfSlot (P : Counter τ → Prop) : Prop :=
  ∀ k k' : Counter τ, P k → k'.scene.session.slot = k.scene.session.slot → k'.given = k.given →
    k'.past = k.past → P k'

section Leads

variable {c : Carrier τ} {meanwhile : Counter τ → Counter τ} {P Q : Counter τ → Prop}

theorem leads_lift {α : Type} {x : StateM (Scene τ) α} (hP : OfSlot P)
    (h : ∀ s, (x.run s).2.session.slot = s.session.slot) : Leads P (lift x) P :=
  fun k hk => hP k _ hk (h k.scene) rfl rfl

theorem keeps_of_slot (hP : OfSlot P) (hmeanwhile : ∀ k, P k → P (meanwhile k)) :
    (desk c meanwhile).Keeps P where
  get := leads_lift hP fun _ => rfl
  modify _ hf := fun k hk => hP k _ hk (hf k.scene.session) rfl rfl
  cancelled _ := leads_lift hP fun _ => rfl
  cancel _ _ := leads_lift hP fun _ => rfl
  send t bytes :=
    leads_bind (leads_lift hP fun s => c.write_slot t bytes s.room) fun _ k hk => hmeanwhile k hk
  close t := leads_lift hP fun s => c.close_slot t s.room
  announce _ := leads_lift hP fun _ => rfl

theorem leads_submitReserved (hP : OfSlot P) (hmeanwhile : ∀ k, P k → P (meanwhile k))
    (hQ : OfSlot Q) {r : Reservation} (hrelease : Leads P ((desk c meanwhile).release r) Q)
    (order : PrintOrder) : Leads P ((desk c meanwhile).submit order (some r)) Q := by
  refine (keeps_of_slot hP hmeanwhile).submitReserved hrelease (fun message => ?_) order
  exact fun k hk => hQ k _ hk rfl rfl rfl

end Leads

end Counter
end ThermalPrint
