import ThermalPrint.Proofs.Session.Deeds

/-
Jobs whose connection ends.  A job that has been reserved on one connection is never printed on
another one, and it is out of the way of those that come after it.

Before the write it is the token that stops the job, since a token that is cancelled stays so
whatever is done later.  During the write it is the generation of the connection, as for any write.
-/

namespace ThermalPrint
namespace Scene

variable {τ : Type}

def roomAfter (deeds : List (Deed × Luck τ)) (r : Room τ) : Room τ :=
  (play deeds { room := r }).room

def interrupting (deeds : List (Deed × Luck τ)) (luck : Luck τ) (f : Fault) : Carrier τ :=
  { quiet luck with
    write := fun _ _ r => (some f, roomAfter deeds r)
    write_slot := fun _ _ r => play_slot deeds { room := r } }

/-- A job under a token that is not cancelled is printed, once, on the connection that there is. -/
def Serves (s : Scene τ) : Prop :=
  ∀ (c : Carrier τ) (order : PrintOrder) (token : Option TokenId) (t : τ) (bytes : List UInt8),
    s.session.connection.claim = .ok t →
    Render.bytes s.session.config order.source order.options = .ok bytes →
    s.room.cancelled (token.getD s.room.nextToken) = none →
    (∀ r, (c.write t bytes r).1 = none) →
    ∃ after, ((desk c).submit order none token).run s = pure (.ok bytes.length, after) ∧
      after.written = (t, bytes) :: s.written ∧ after.session.Free ∧
      after.session.lastErrorKind = none ∧ after.session.lastMessage = some order.success

/-- What a job leaves behind it that has failed after deeds since a scene: its failure is
published, the slot is free and serves others, and their tokens are as they were unless one of the
deeds was meant for them. -/
structure LeftBehind (scene : Scene τ) (r : Reservation) (deeds : List (Deed × Luck τ)) (f : Fault)
    (after : Scene τ) : Prop where
  free : after.session.Free
  published : ∀ e, f = .print e → after.session.lastErrorKind = some e.kind ∧
    after.session.lastMessage = some ("Print Failed: " ++ e.message)
  others : ∀ id ≠ r.token, (∀ d ∈ deeds, ∀ g, d.1 ≠ .cancel id g) →
    after.room.cancelled id = scene.room.cancelled id
  serves : ∀ again, Serves (play again after)

theorem obstacle_clear {x : Session τ} {order : PrintOrder} {t : τ} {bytes : List UInt8}
    (hclaim : x.connection.claim = .ok t)
    (hrender : Render.bytes x.config order.source order.options = .ok bytes) :
    obstacle x none order = none := by
  obtain ⟨hs, ht⟩ := Connection.claim_ok hclaim
  unfold obstacle
  rw [hrender]
  dsimp only
  rw [if_pos ⟨hs, by rw [ht]; rfl⟩]

theorem obstacle_token {x : Session τ} {order : PrintOrder} {bytes : List UInt8}
    (hrender : Render.bytes x.config order.source order.options = .ok bytes) (f : Fault) :
    obstacle x (some f) order = some f := by
  unfold obstacle
  rw [hrender]

theorem settled_room (s : Scene τ) (order : PrintOrder) (r : Reservation)
    (result : Except Fault Nat) :
    (s.settled order r result).room.cancelled = s.room.cancelled := by
  have hreported : (s.reported result).room.cancelled = s.room.cancelled := by
    unfold reported
    split <;> rfl
  unfold settled
  dsimp only
  split
  · exact hreported
  · exact hreported

theorem take_free (c : Carrier τ) {s : Scene τ} (h : s.session.Free)
    (token : Option TokenId) : ∃ r taken, ((desk c).take none token).run s = pure (.ok r, taken) ∧
      r.token = token.getD s.room.nextToken ∧ taken.session.Holds r ∧
      taken.session.connection = s.session.connection ∧
      taken.session.config = s.session.config ∧ taken.room.cancelled = s.room.cancelled ∧
      taken.written = s.written := by
  have hsome : ∀ (id : TokenId) (s : Scene τ), s.session.Free →
      ∃ r taken, ((desk c).reserve (some id)).run s = pure (.ok r, taken) ∧ r.token = id ∧
        taken.session.Holds r ∧ taken.session.connection = s.session.connection ∧
        taken.session.config = s.session.config ∧ taken.room.cancelled = s.room.cancelled ∧
        taken.written = s.written := by
    intro id s h
    rw [reserve_run, Session.reserve, h.2]
    exact ⟨_, _, rfl, rfl, ⟨rfl, rfl, Session.unreturned_next s.session.returned⟩, rfl, rfl, rfl,
      rfl⟩
  cases token with
  | some id => exact hsome id s h
  | none =>
    let fresh : Scene τ := { s with room := { s.room with nextToken := s.room.nextToken + 1 } }
    exact hsome s.room.nextToken fresh h

theorem serves_of_free {s : Scene τ} (h : s.session.Free) : Serves s := by
  intro c order token t bytes hclaim hrender htoken hwrite
  obtain ⟨r, taken, htake, hid, hholds, hconnection, hconfig, hcancelled, hwritten⟩ :=
    take_free c h token
  rw [← hconnection] at hclaim
  rw [← hconfig] at hrender
  rw [← hid, ← hcancelled] at htoken
  have hclear : obstacle taken.session (taken.room.cancelled r.token) order = none := by
    rw [htoken]
    exact obstacle_clear hclaim hrender
  obtain ⟨bytes', t', result, s', hrender', hclaim', hrun, hsent, hslot, hresult⟩ :=
    perform_sent (c := c) hclear
  cases hclaim.symm.trans hclaim'
  cases hrender.symm.trans hrender'
  rcases hresult with ⟨-, rfl⟩ | ⟨hfailed, -⟩
  · have hs' := Session.holds_of_slot hholds hslot
    obtain ⟨hkind, hmessage⟩ := (settled_status order hs' (.ok bytes.length)).2.2.1 _ rfl
    refine ⟨_, submit_run htake hrun hs', ?_, settled_free hs' order _, hkind, hmessage⟩
    rw [settled_written, hsent, hwritten]
  · exact absurd (hwrite _) hfailed

theorem leftBehind_of_settled {scene s : Scene τ} {r : Reservation}
    {deeds : List (Deed × Luck τ)} (hs : s.session.Holds r)
    (hothers : ∀ id ≠ r.token, (∀ d ∈ deeds, ∀ g, d.1 ≠ .cancel id g) →
      s.room.cancelled id = scene.room.cancelled id) (order : PrintOrder) (f : Fault) :
    LeftBehind scene r deeds f (s.settled order r (.error f)) := by
  have hfree := settled_free hs order (.error f)
  refine ⟨hfree, ?_, fun id hid hmeant => ?_,
    fun again => serves_of_free (Session.free_of_slot hfree (play_slot again _))⟩
  · rintro e rfl
    exact (settled_status order hs _).2.2.2 e rfl
  · rw [settled_room]
    exact hothers id hid hmeant

theorem others_kept {scene : Scene τ} {r : Reservation} (hr : scene.session.Holds r)
    {deeds : List (Deed × Luck τ)} {id : TokenId} (hid : id ≠ r.token)
    (hmeant : ∀ d ∈ deeds, ∀ g, d.1 ≠ .cancel id g) :
    (play deeds scene).room.cancelled id = scene.room.cancelled id := by
  refine play_others deeds scene (fun r' hr' => ?_) hmeant
  cases hr.active.symm.trans hr'
  exact hid.symm

theorem lineWrite_lost {c : Carrier τ} {s : Scene τ} {bytes : List UInt8} {t : τ} {f : Fault}
    (hclaim : s.session.connection.claim = .ok t) (hwrite : (c.write t bytes s.room).1 = some f)
    (hf : f.OfStream) (hlost : s.session.connection.generation ≠
      (s.sent c t bytes).session.connection.generation) :
    ((desk c).line.write bytes).run s =
      pure (.error (.print (.of .connectionLost "connection was closed during the write")),
        s.sent c t bytes) := by
  have hfailure := Connection.writeFailure_lost hf hlost
  simp [Line.write, hclaim, hwrite, hfailure]

section Job

variable {c : Carrier τ} {s : Scene τ} {r : Reservation} {order : PrintOrder}

theorem submit_cancelled (hr : s.session.Holds r) {bytes : List UInt8}
    (hrender : Render.bytes s.session.config order.source order.options = .ok bytes) {f : Fault}
    (hf : s.room.cancelled r.token = some f) :
    ((desk c).submit order (some r)).run s = pure (.error f, s.settled order r (.error f)) := by
  have htake : ((desk c).take (some r) none).run s = pure (.ok r, s) := rfl
  have hstop : obstacle s.session (s.room.cancelled r.token) order = some f := by
    rw [hf]
    exact obstacle_token hrender f
  exact submit_run htake (perform_stopped hstop) hr

/-- A job whose write fails on a connection that has become another one has lost it. -/
theorem submit_lost (hr : s.session.Holds r) {bytes : List UInt8}
    (hrender : Render.bytes s.session.config order.source order.options = .ok bytes)
    (htoken : s.room.cancelled r.token = none) {t : τ} {f : Fault}
    (hclaim : s.session.connection.claim = .ok t) (hwrite : (c.write t bytes s.room).1 = some f)
    (hf : f.OfStream) (hlost : s.session.connection.generation ≠
      (s.sent c t bytes).session.connection.generation) :
    ∃ e : PrintError, e.kind = .connectionLost ∧ ((desk c).submit order (some r)).run s =
      pure (.error (.print e), (s.sent c t bytes).settled order r (.error (.print e))) := by
  let e : PrintError := .of .connectionLost "connection was closed during the write"
  have hkind : e.kind = .connectionLost := PrintError.of_kind _ _
  have hline := lineWrite_lost hclaim hwrite hf hlost
  have hconnected : Fault.isA .notConnected (.print e) = false := by
    rw [Fault.isA, hkind]
    rfl
  have hperform : ((desk c).perform r order).run s =
      pure (.error (.print e), s.sent c t bytes) := by
    simp only [e] at hconnected
    simp [Desk.perform, hrender, htoken, hline, hconnected, e]
  have htake : ((desk c).take (some r) none).run s = pure (.ok r, s) := rfl
  exact ⟨e, hkind, submit_run htake hperform (Session.holds_of_slot hr (sent_slot c t bytes s))⟩

end Job

section Reserved

variable {taken : Scene τ} {r : Reservation} {deeds : List (Deed × Luck τ)} {order : PrintOrder}
  {bytes : List UInt8}

/-- The end of the connection before the write is the end of the job. -/
theorem ended_before_write (hr : taken.session.Holds r)
    (hrender : Render.bytes taken.session.config order.source order.options = .ok bytes)
    {before later : List (Deed × Luck τ)} {d : Deed × Luck τ}
    (hdeeds : deeds = before ++ d :: later) (hends : Ends d (play before taken).session.connection)
    (c : Carrier τ) :
    ∃ f after, ((desk c).submit order (some r)).run (play deeds taken) = pure (.error f, after) ∧
      f = ((play before taken).room.cancelled r.token).getD disconnection ∧
      ((play before taken).room.cancelled r.token = none →
        ∃ e, f = .print e ∧ e.kind = .connectionLost) ∧
      after.written = taken.written ∧
      after.session.connection = (play deeds taken).session.connection ∧
      LeftBehind taken r deeds f after := by
  have hs : (play deeds taken).session.Holds r := Session.holds_of_slot hr (play_slot deeds taken)
  rw [← play_config deeds taken] at hrender
  have htoken : (play deeds taken).room.cancelled r.token =
      some (((play before taken).room.cancelled r.token).getD disconnection) := by
    rw [hdeeds]
    exact play_ends taken hr.active hends
  refine ⟨_, _, submit_cancelled hs hrender htoken, rfl, fun hnone => ?_, ?_, ?_,
    leftBehind_of_settled hs (fun id => others_kept hr) order _⟩
  · rw [hnone]
    exact ⟨_, rfl, PrintError.of_kind _ _⟩
  · rw [settled_written, play_written]
  · rw [settled_connection]

/-- A write that fails after somebody has disconnected loses the connection of the job. -/
theorem disconnected_during_write (hr : taken.session.Holds r)
    (hrender : Render.bytes taken.session.config order.source order.options = .ok bytes) {t : τ}
    (htoken : (play deeds taken).room.cancelled r.token = none)
    (hclaim : (play deeds taken).session.connection.claim = .ok t)
    {during : List (Deed × Luck τ)} (luck : Luck τ) {f : Fault}
    (hduring : ∃ d ∈ during, d.1 = .disconnect) (hf : f.OfStream) :
    ∃ e after, ((desk (interrupting during luck f)).submit order (some r)).run (play deeds taken) =
        pure (.error (.print e), after) ∧ e.kind = .connectionLost ∧
      after.written = (t, bytes) :: taken.written ∧
      after.session.connection =
        (roomAfter during (play deeds taken).room).session.connection ∧
      LeftBehind taken r (deeds ++ during) (.print e) after := by
  let s := play deeds taken
  let c := interrupting during luck f
  -- Deeds done during the write see the room and nothing else of the scene.
  let inside : Scene τ := { room := s.room }
  have hs : s.session.Holds r := Session.holds_of_slot hr (play_slot deeds taken)
  have hinside : inside.session.Holds r := hs
  have hsent : (s.sent c t bytes).session.Holds r :=
    Session.holds_of_slot hs (sent_slot c t bytes s)
  have hlost : s.session.connection.generation ≠
      (s.sent c t bytes).session.connection.generation :=
    Nat.ne_of_lt (play_released (s := inside) hclaim hduring)
  rw [← play_config deeds taken] at hrender
  obtain ⟨e, hkind, hsubmit⟩ := submit_lost (c := c) hs hrender htoken hclaim rfl hf hlost
  refine ⟨e, _, hsubmit, hkind, ?_, ?_,
    leftBehind_of_settled hsent (fun id hid hmeant => ?_) order _⟩
  · rw [settled_written, sent_written, play_written]
  · rw [settled_connection]
    rfl
  · have hlater := others_kept hinside hid fun d hd => hmeant d (List.mem_append_right _ hd)
    have hdeeds := others_kept hr hid fun d hd => hmeant d (List.mem_append_left during hd)
    exact hlater.trans hdeeds

end Reserved

/-- A job whose connection has ended is not printed on another one.  If the connection came to an
end between the reservation and the write, whatever was done before and after that, the job fails
with the fault of its token, which is the end of the connection unless the token had another one
already, and nothing is written.  If somebody disconnects during the write and the write fails,
the job has lost its connection.  In either case what has become of the connection stays, and the
slot is free for other jobs. -/
theorem disconnected_job_cancelled {c : Carrier τ} {start taken : Scene τ} {token : Option TokenId}
    {r : Reservation} (hreserve : ((desk c).reserve token).run start = pure (.ok r, taken))
    (deeds : List (Deed × Luck τ)) (order : PrintOrder) {bytes : List UInt8}
    (hrender : Render.bytes taken.session.config order.source order.options = .ok bytes) :
    let s := play deeds taken
    (∀ before d later, deeds = before ++ d :: later →
      Ends d (play before taken).session.connection → ∀ c' : Carrier τ,
      ∃ f after, ((desk c').submit order (some r)).run s = pure (.error f, after) ∧
        f = ((play before taken).room.cancelled r.token).getD disconnection ∧
        ((play before taken).room.cancelled r.token = none →
          ∃ e, f = .print e ∧ e.kind = .connectionLost) ∧
        after.written = start.written ∧ after.session.connection = s.session.connection ∧
        LeftBehind taken r deeds f after) ∧
    (∀ t, s.room.cancelled r.token = none → s.session.connection.claim = .ok t →
      ∀ during luck f, (∃ d ∈ during, d.1 = .disconnect) → f.OfStream →
      ∃ e after, ((desk (interrupting during luck f)).submit order (some r)).run s =
          pure (.error (.print e), after) ∧ e.kind = .connectionLost ∧
        after.written = (t, bytes) :: start.written ∧
        after.session.connection = (roomAfter during s.room).session.connection ∧
        LeftBehind taken r (deeds ++ during) (.print e) after) := by
  intro s
  have htake : ((desk c).take none token).run start = pure (.ok r, taken) := hreserve
  obtain ⟨hr, hwritten, -⟩ := take_takes htake nofun
  rw [← hwritten]
  exact ⟨fun before d later hdeeds hends c' => ended_before_write hr hrender hdeeds hends c',
    fun t htoken hclaim during luck f hduring hf =>
      disconnected_during_write hr hrender htoken hclaim luck hduring hf⟩

def waiting : Scene Nat :=
  { room := { session := { connection := { state := .connected, transport := some 7 } } } }

def exchange : List (Deed × Luck Nat) :=
  [(.disconnect, ⟨.ok 8, none⟩), (.connect "tcp://back:9100", ⟨.ok 8, none⟩)]

theorem disconnected_job_exchanged :
    ∃ taken bytes f after,
      ((desk stalling).reserve none).run waiting = pure (.ok ⟨0, 0, 0⟩, taken) ∧
      Render.bytes taken.session.config (.markup "hi".toText) {} = .ok bytes ∧
      ((desk stalling).submit { source := .markup "hi".toText } (some ⟨0, 0, 0⟩)).run
        (play exchange taken) = pure (.error f, after) ∧
      f.isA .connectionLost = true ∧ after.written = [] ∧
      after.session.connection.transport = some 8 := by
  let taken : Scene Nat := (((desk stalling).reserve none).run waiting).2
  have hreserve : ((desk stalling).reserve none).run waiting = pure (.ok ⟨0, 0, 0⟩, taken) := rfl
  have hok : (Render.bytes taken.session.config (.markup "hi".toText) {}).isOk = true := by
    decide +kernel
  cases hrender : Render.bytes taken.session.config (.markup "hi".toText) {} with
  | error fault =>
    rw [hrender] at hok
    cases hok
  | ok bytes =>
    obtain ⟨hcancelled, -⟩ := disconnected_job_cancelled hreserve exchange
      { source := .markup "hi".toText } hrender
    obtain ⟨f, after, hsubmit, -, hlost, hwritten, hconnection, -⟩ :=
      hcancelled [] _ _ rfl ⟨.idle, List.mem_cons_self, rfl⟩ stalling
    obtain ⟨e, rfl, hkind⟩ := hlost rfl
    refine ⟨taken, bytes, _, after, hreserve, hrender, hsubmit, ?_, hwritten, ?_⟩
    · rw [Fault.isA, hkind]
      rfl
    · rw [hconnection]
      rfl

end Scene
end ThermalPrint
