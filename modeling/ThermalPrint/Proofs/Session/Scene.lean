import ThermalPrint.Session.Basic

/-
A desk in a room.  The room keeps the session and the tokens, and what goes to transports is
written down.  While a transport is at work anything may happen in the room, as long as the
slot stays with who holds it.
-/

namespace ThermalPrint

variable {τ : Type}

namespace Session

/-- The slot of a session: whose it is, its lock, who has it, and who has had it. -/
structure Slot where
  id : SessionId
  locked : Bool
  active : Option Reservation
  returned : List Bool

def slot (s : Session τ) : Slot := ⟨s.id, s.locked, s.active, s.returned⟩

/-- The reservation of a number has been given out and has not been given back. -/
def Unreturned (s : Session τ) (n : Nat) : Prop := s.returned[n]? = some false

/-- The next reservation has not been given back when it is given out. -/
theorem unreturned_next (returned : List Bool) :
    (returned ++ [false])[returned.length]? = some false :=
  List.getElem?_concat_length

/-- A job has the slot of its session. -/
structure Holds (s : Session τ) (r : Reservation) : Prop where
  active : s.active = some r
  session : r.session = s.id
  unreturned : s.Unreturned r.serial

theorem holds_of_slot {s s' : Session τ} {r : Reservation} (h : s.Holds r)
    (hs : s'.slot = s.slot) : s'.Holds r := by
  obtain ⟨hid, -, hactive, hreturned⟩ := Slot.mk.inj hs
  refine ⟨hactive.trans h.active, h.session.trans hid.symm, ?_⟩
  unfold Unreturned
  rw [hreturned]
  exact h.unreturned

@[simp] theorem release_connection (s : Session τ) (r : Reservation) :
    (s.release r).connection = s.connection := by
  unfold release
  split <;> rfl

@[simp] theorem release_lastMessage (s : Session τ) (r : Reservation) :
    (s.release r).lastMessage = s.lastMessage := by
  unfold release
  split <;> rfl

@[simp] theorem release_lastErrorKind (s : Session τ) (r : Reservation) :
    (s.release r).lastErrorKind = s.lastErrorKind := by
  unfold release
  split <;> rfl

def Free (s : Session τ) : Prop := s.active = none ∧ s.locked = false

theorem free_of_slot {s s' : Session τ} (h : s.Free) (hs : s'.slot = s.slot) : s'.Free := by
  obtain ⟨-, hlocked, hactive, -⟩ := Slot.mk.inj hs
  exact ⟨hactive.trans h.1, hlocked.trans h.2⟩

theorem release_unreturned {s : Session τ} {r : Reservation} (h : s.Unreturned r.serial) :
    s.release r = { s with
      locked := false
      active := if s.active = some r then none else s.active
      returned := s.returned.set r.serial true } :=
  if_pos h

theorem release_free {s : Session τ} {r : Reservation} (h : s.Holds r) : (s.release r).Free := by
  rw [release_unreturned h.unreturned]
  exact ⟨if_pos h.active, rfl⟩

theorem reserve_free {s : Session τ} (h : s.Free) (token : TokenId) :
    ∃ r s', s.reserve token = .ok (r, s') := by
  unfold reserve
  rw [h.2]
  exact ⟨_, _, rfl⟩

end Session

/-- A session, and the faults of the tokens that are cancelled. -/
structure Room (τ : Type) where
  session : Session τ
  cancelled : TokenId → Option Fault := fun _ => none
  nextToken : TokenId := 0

namespace Room

/-- A token that is cancelled already keeps its fault. -/
def cancel (r : Room τ) (token : TokenId) (f : Fault) : Room τ :=
  { r with cancelled := fun id =>
      if id = token then some ((r.cancelled id).getD f) else r.cancelled id }

end Room

/-- How transports behave: what opening, writing and closing come to, and the room that they
leave.  Other hands may be busy in the room meanwhile, but they leave the slot alone. -/
structure Carrier (τ : Type) where
  openAt : Text → Room τ → Except Fault τ × Room τ
  write : τ → List UInt8 → Room τ → Option Fault × Room τ
  close : τ → Room τ → Option Fault × Room τ
  write_slot : ∀ t bytes r, (write t bytes r).2.session.slot = r.session.slot
  close_slot : ∀ t r, (close t r).2.session.slot = r.session.slot

/-- A room, what has been written to transports and what has been announced, the latest
first. -/
structure Scene (τ : Type) where
  room : Room τ
  written : List (τ × List UInt8) := []
  said : List Text := []

namespace Scene

def session (s : Scene τ) : Session τ := s.room.session

def setSession (s : Scene τ) (x : Session τ) : Scene τ :=
  { s with room := { s.room with session := x } }

def desk (c : Carrier τ) : Desk (StateM (Scene τ)) τ where
  get s := (s.session, s)
  set x s := ((), s.setSession x)
  newToken s :=
    (s.room.nextToken, { s with room := { s.room with nextToken := s.room.nextToken + 1 } })
  cancelled token s := (s.room.cancelled token, s)
  cancel token f s := ((), { s with room := s.room.cancel token f })
  openAt address s :=
    ((c.openAt address s.room).1, { s with room := (c.openAt address s.room).2 })
  send t bytes s :=
    ((c.write t bytes s.room).1,
      { s with room := (c.write t bytes s.room).2, written := (t, bytes) :: s.written })
  close t s := ((c.close t s.room).1, { s with room := (c.close t s.room).2 })
  announce message s := ((), { s with said := message :: s.said })
  releaseElsewhere _ s := ((), s)

def setConnection (s : Scene τ) (x : Connection τ) : Scene τ :=
  s.setSession { s.session with connection := x }

def sent (c : Carrier τ) (t : τ) (bytes : List UInt8) (s : Scene τ) : Scene τ :=
  { s with room := (c.write t bytes s.room).2, written := (t, bytes) :: s.written }

def shut (c : Carrier τ) (x : Connection τ) (s : Scene τ) : Scene τ :=
  match x.transport with
  | some t => { s with room := (c.close t s.room).2 }
  | none => s

/-- The session has been told of a state.  The job in flight goes with the connection that is
over. -/
def told (state : ConnectionState) (s : Scene τ) : Scene τ :=
  match state.isOver, s.session.active with
  | true, some r => { s with room := s.room.cancel r.token disconnection }
  | _, _ => s

def dropped (c : Carrier τ) (x : Connection τ) (state : ConnectionState) (s : Scene τ) : Scene τ :=
  ((s.setConnection (x.release state)).shut c x).told state

def published (message : Text) (error : Option PrintError) (s : Scene τ) : Scene τ :=
  { s.setSession { s.session with
      lastMessage := some message, lastErrorKind := error.map (·.kind) } with
    said := message :: s.said }

def released (r : Reservation) (s : Scene τ) : Scene τ := s.setSession (s.session.release r)

section Views

variable (c : Carrier τ) (x : Connection τ) (t : τ) (bytes : List UInt8)
  (state : ConnectionState) (s : Scene τ)

@[simp] theorem setConnection_written : (s.setConnection x).written = s.written := rfl

@[simp] theorem setConnection_slot : (s.setConnection x).session.slot = s.session.slot := rfl

@[simp] theorem sent_written : (s.sent c t bytes).written = (t, bytes) :: s.written := rfl

@[simp] theorem sent_slot : (s.sent c t bytes).session.slot = s.session.slot :=
  c.write_slot t bytes s.room

@[simp] theorem shut_written : (s.shut c x).written = s.written := by
  unfold shut
  split <;> rfl

@[simp] theorem shut_slot : (s.shut c x).session.slot = s.session.slot := by
  unfold shut
  split
  · exact c.close_slot _ _
  · rfl

@[simp] theorem told_written : (s.told state).written = s.written := by
  unfold told
  split <;> rfl

@[simp] theorem told_slot : (s.told state).session.slot = s.session.slot := by
  unfold told
  split <;> rfl

@[simp] theorem dropped_written : (s.dropped c x state).written = s.written := by
  simp [dropped]

@[simp] theorem dropped_slot : (s.dropped c x state).session.slot = s.session.slot := by
  simp [dropped]

end Views

section Operations

variable (c : Carrier τ) (s : Scene τ)

@[simp] theorem get_run : (desk c).get.run s = pure (s.session, s) := rfl

@[simp] theorem modify_run (f : Session τ → Session τ) :
    ((desk c).modify f).run s = pure ((), s.setSession (f s.session)) := rfl

@[simp] theorem cancelled_run (token : TokenId) :
    ((desk c).cancelled token).run s = pure (s.room.cancelled token, s) := rfl

@[simp] theorem render_run (order : PrintOrder) :
    ((desk c).render order).run s =
      pure (Render.bytes s.session.config order.source order.options, s) := rfl

@[simp] theorem publish_run (message : Text) (error : Option PrintError) :
    ((desk c).publish message error).run s = pure ((), s.published message error) := rfl

@[simp] theorem lineGet_run : (desk c).line.get.run s = pure (s.session.connection, s) := rfl

@[simp] theorem lineSet_run (x : Connection τ) :
    ((desk c).line.set x).run s = pure ((), s.setConnection x) := rfl

@[simp] theorem lineSend_run (t : τ) (bytes : List UInt8) :
    ((desk c).line.send t bytes).run s =
      pure ((c.write t bytes s.room).1, s.sent c t bytes) := rfl

@[simp] theorem lineTell_run (state : ConnectionState) :
    ((desk c).line.tell state).run s = pure ((), s.told state) := by
  show ((desk c).stateChanged state).run s = _
  unfold Desk.stateChanged told
  cases state.isOver with
  | false => rfl
  | true =>
    rw [StateT.run_bind, get_run, pure_bind]
    cases s.session.active with
    | none => rfl
    | some r => rfl

@[simp] theorem lineCloseOf_run (x : Connection τ) :
    ((desk c).line.closeOf x).run s = pure ((), s.shut c x) := by
  unfold Line.closeOf shut
  cases x.transport with
  | none => rfl
  | some t => rfl

end Operations

end Scene
end ThermalPrint
