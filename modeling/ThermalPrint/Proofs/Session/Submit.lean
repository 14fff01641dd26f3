import ThermalPrint.Proofs.Connection.Transitions
import ThermalPrint.Proofs.Session.Scene

/-
A submission is all or nothing up to the write.  Either a stage in front of the write has failed
and nothing has been written, or the bytes of the order have been written in one go.  In either
case the slot is free afterwards and the status says how it went.
-/

namespace ThermalPrint
namespace Scene

variable {τ : Type} {c : Carrier τ} {s : Scene τ}

theorem lineWrite_refused {bytes : List UInt8} {e : PrintError}
    (h : s.session.connection.claim = .error e) :
    ((desk c).line.write bytes).run s = pure (.error (.print e), s) := by
  simp [Line.write, h]

theorem lineWrite_done {bytes : List UInt8} {t : τ} (h : s.session.connection.claim = .ok t)
    (hw : (c.write t bytes s.room).1 = none) :
    ((desk c).line.write bytes).run s = pure (.ok (), s.sent c t bytes) := by
  simp [Line.write, h, hw]

theorem lineWrite_failed {bytes : List UInt8} {t : τ} {f : Fault}
    (h : s.session.connection.claim = .ok t) (hw : (c.write t bytes s.room).1 = some f) :
    ∃ f' s', ((desk c).line.write bytes).run s = pure (.error f', s') ∧
      s'.written = (t, bytes) :: s.written ∧ s'.session.slot = s.session.slot := by
  let x := (s.sent c t bytes).session.connection
  let failure := x.writeFailure s.session.connection.generation f
  cases hd : failure.dropTo with
  | none =>
    refine ⟨failure.fault, s.sent c t bytes, ?_, by simp, by simp⟩
    simp only [failure, x] at hd ⊢
    simp [Line.write, h, hw, hd]
  | some state =>
    refine ⟨failure.fault, (s.sent c t bytes).dropped c x state, ?_, by simp, by simp⟩
    simp only [failure, x] at hd ⊢
    simp [Line.write, h, hw, hd, dropped]

/-- The fault of the first stage in front of the write that fails: the bytes of the order, its
token, its connection. -/
def obstacle (x : Session τ) (cancelled : Option Fault) (order : PrintOrder) : Option Fault :=
  match Render.bytes x.config order.source order.options with
  | .error f => some f
  | .ok _ =>
    match cancelled with
    | some f => some f
    | none =>
      if x.connection.state = .connected ∧ x.connection.transport.isSome then none
      else some (.print (.of .notConnected s!"printer is {x.connection.state.word}"))

theorem obstacle_none {x : Session τ} {cancelled : Option Fault} {order : PrintOrder}
    (h : obstacle x cancelled order = none) :
    ∃ bytes t, Render.bytes x.config order.source order.options = .ok bytes ∧
      cancelled = none ∧ x.connection.claim = .ok t := by
  unfold obstacle at h
  split at h
  · cases h
  · rename_i bytes hb
    split at h
    · cases h
    · split at h
      · rename_i hc
        obtain ⟨t, ht⟩ := Option.isSome_iff_exists.1 hc.2
        refine ⟨bytes, t, hb, rfl, ?_⟩
        unfold Connection.claim
        rw [hc.1, ht]
      · cases h

theorem perform_stopped {r : Reservation} {order : PrintOrder} {f : Fault}
    (h : obstacle s.session (s.room.cancelled r.token) order = some f) :
    ((desk c).perform r order).run s = pure (.error f, s) := by
  unfold obstacle at h
  cases hb : Render.bytes s.session.config order.source order.options with
  | error e =>
    rw [hb] at h
    cases h
    simp [Desk.perform, hb]
  | ok bytes =>
    rw [hb] at h
    cases hk : s.room.cancelled r.token with
    | some e =>
      rw [hk] at h
      cases h
      simp [Desk.perform, hb, hk]
    | none =>
      rw [hk] at h
      dsimp only at h
      cases hc : s.session.connection.claim with
      | ok t =>
        obtain ⟨hs, ht⟩ := Connection.claim_ok hc
        rw [if_pos ⟨hs, by rw [ht]; rfl⟩] at h
        cases h
      | error e =>
        obtain ⟨hn, rfl⟩ := Connection.claim_error hc
        rw [if_neg (fun hp => by rw [hn hp.1] at hp; cases hp.2)] at h
        cases h
        have hkind : (Fault.print (.of .notConnected
            s!"printer is {s.session.connection.state.word}")).isA .notConnected = true := by
          rw [Fault.isA, PrintError.of_kind]
          decide
        simp [Desk.perform, hb, hk, lineWrite_refused hc, hkind]

/-- What becomes of an order in whose way nothing stands. -/
theorem perform_sent {r : Reservation} {order : PrintOrder}
    (h : obstacle s.session (s.room.cancelled r.token) order = none) :
    ∃ bytes t result s',
      Render.bytes s.session.config order.source order.options = .ok bytes ∧
      s.session.connection.claim = .ok t ∧
      ((desk c).perform r order).run s = pure (result, s') ∧
      s'.written = (t, bytes) :: s.written ∧ s'.session.slot = s.session.slot ∧
      (((c.write t bytes s.room).1 = none ∧ result = .ok bytes.length) ∨
        ((c.write t bytes s.room).1 ≠ none ∧ ∃ f, result = .error f)) := by
  obtain ⟨bytes, t, hb, hk, hc⟩ := obstacle_none h
  refine ⟨bytes, t, ?_⟩
  cases hw : (c.write t bytes s.room).1 with
  | none =>
    refine ⟨.ok bytes.length, s.sent c t bytes, hb, hc, ?_, by simp, by simp, by simp⟩
    simp [Desk.perform, hb, hk, lineWrite_done hc hw]
  | some f =>
    obtain ⟨e, s', hrun, hwritten, hslot⟩ := lineWrite_failed hc hw
    by_cases he : e.isA .notConnected = true
    · refine ⟨.error ((s'.room.cancelled r.token).getD e), s', hb, hc, ?_, hwritten, hslot,
        by simp⟩
      simp [Desk.perform, hb, hk, hrun, he]
    · refine ⟨.error e, s', hb, hc, ?_, hwritten, hslot, by simp⟩
      simp [Desk.perform, hb, hk, hrun, he]

def reported (result : Except Fault Nat) (s : Scene τ) : Scene τ :=
  match result with
  | .error (.print e) => s.published ("Print Failed: " ++ e.message) (some e)
  | _ => s

theorem report_run (result : Except Fault Nat) :
    ((desk c).report "Print Failed" result).run s = pure ((), s.reported result) := by
  cases result with
  | ok n => rfl
  | error f =>
    cases f with
    | print e =>
      have hwords : "Print Failed" ++ ": " ++ e.message = "Print Failed: " ++ e.message := rfl
      show ((desk c).publish ("Print Failed" ++ ": " ++ e.message) (some e)).run s = _
      rw [hwords]
      rfl
    | system kind message => rfl
    | value kind message => rfl

theorem release_run {r : Reservation} (h : s.session.Holds r) :
    ((desk c).release r).run s = pure ((), s.released r) := by
  simp [Desk.release, h.session, released]

/-- The end of a submission: what went wrong is reported, the slot given back and success
published. -/
def settled (order : PrintOrder) (r : Reservation) (result : Except Fault Nat) (s : Scene τ) :
    Scene τ :=
  let s := (s.reported result).released r
  if result.isOk then s.published order.success none else s

theorem reported_slot (result : Except Fault Nat) :
    (s.reported result).session.slot = s.session.slot := by
  unfold reported
  split <;> rfl

theorem submit_run {order : PrintOrder} {held : Option Reservation} {token : Option TokenId}
    {r : Reservation} {taken s' : Scene τ} {result : Except Fault Nat}
    (htake : ((desk c).take held token).run s = pure (.ok r, taken))
    (hperform : ((desk c).perform r order).run taken = pure (result, s'))
    (hr : s'.session.Holds r) :
    ((desk c).submit order held token).run s = pure (result, s'.settled order r result) := by
  have hreported : (s'.reported result).session.Holds r :=
    Session.holds_of_slot hr (reported_slot result)
  unfold settled
  cases hok : result.isOk with
  | true => simp [Desk.submit, htake, hperform, report_run, release_run hreported, hok]
  | false => simp [Desk.submit, htake, hperform, report_run, release_run hreported, hok]

theorem reserve_run (token : TokenId) :
    ((desk c).reserve (some token)).run s =
      match s.session.reserve token with
      | .error e => pure (.error (.print e), s)
      | .ok (r, x) => pure (.ok r, s.setSession x) := by
  show (match s.session.reserve token with
    | .error e => pure (.error (.print e))
    | .ok (r, x) => do
      (desk c).set x
      pure (.ok r) : StateM (Scene τ) (Except Fault Reservation)).run s = _
  cases s.session.reserve token with
  | error e => rfl
  | ok p => rfl

theorem reserve_takes {token : TokenId} {r : Reservation} {taken : Scene τ}
    (h : ((desk c).reserve (some token)).run s = pure (.ok r, taken)) :
    taken.session.Holds r ∧ taken.written = s.written ∧
      taken.session.connection = s.session.connection := by
  rw [reserve_run] at h
  cases hlocked : s.session.locked with
  | true =>
    rw [Session.reserve, hlocked] at h
    cases h
  | false =>
    rw [Session.reserve, hlocked] at h
    cases h
    exact ⟨⟨rfl, rfl, Session.unreturned_next s.session.returned⟩, rfl, rfl⟩

/-- The slot is in the hands of the submission, whether it was before or has been taken now. -/
theorem take_takes {held : Option Reservation} {token : Option TokenId} {r : Reservation}
    {taken : Scene τ} (h : ((desk c).take held token).run s = pure (.ok r, taken))
    (hheld : ∀ r ∈ held, s.session.Holds r) :
    taken.session.Holds r ∧ taken.written = s.written ∧
      taken.session.connection = s.session.connection := by
  cases held with
  | some given =>
    have hgiven := hheld given rfl
    cases h
    exact ⟨hgiven, rfl, rfl⟩
  | none =>
    cases token with
    | some token => exact reserve_takes h
    | none =>
      let fresh : Scene τ := { s with room := { s.room with nextToken := s.room.nextToken + 1 } }
      have hfresh : ((desk c).reserve (some s.room.nextToken)).run fresh = pure (.ok r, taken) := h
      have htakes := reserve_takes hfresh
      exact htakes

theorem reported_connection (result : Except Fault Nat) :
    (s.reported result).session.connection = s.session.connection := by
  unfold reported
  split <;> rfl

theorem reported_written (result : Except Fault Nat) :
    (s.reported result).written = s.written := by
  unfold reported
  split <;> rfl

@[simp] theorem settled_written (order : PrintOrder) (r : Reservation)
    (result : Except Fault Nat) : (s.settled order r result).written = s.written := by
  unfold settled
  dsimp only
  split
  · exact reported_written result
  · exact reported_written result

@[simp] theorem settled_connection (order : PrintOrder) (r : Reservation)
    (result : Except Fault Nat) :
    (s.settled order r result).session.connection = s.session.connection := by
  unfold settled
  dsimp only
  split
  · exact (Session.release_connection _ r).trans (reported_connection result)
  · exact (Session.release_connection _ r).trans (reported_connection result)

theorem settled_free {r : Reservation} (h : s.session.Holds r) (order : PrintOrder)
    (result : Except Fault Nat) : (s.settled order r result).session.Free := by
  have hfree := Session.release_free (Session.holds_of_slot h (reported_slot result))
  unfold settled
  dsimp only
  split
  · exact hfree
  · exact hfree

/-- The slot is free behind a submission, and the status says how it went. -/
theorem settled_status (order : PrintOrder) {r : Reservation} (h : s.session.Holds r)
    (result : Except Fault Nat) :
    (s.settled order r result).session.busy = false ∧
      (∀ next, ∃ r' x, (s.settled order r result).session.reserve next = .ok (r', x)) ∧
      (∀ n, result = .ok n →
        (s.settled order r result).session.lastErrorKind = none ∧
          (s.settled order r result).session.lastMessage = some order.success) ∧
      (∀ e, result = .error (.print e) →
        (s.settled order r result).session.lastErrorKind = some e.kind ∧
          (s.settled order r result).session.lastMessage =
            some ("Print Failed: " ++ e.message)) := by
  have hfree := settled_free h order result
  refine ⟨?_, fun next => Session.reserve_free hfree next, ?_, ?_⟩
  · rw [Session.busy, hfree.1]
    rfl
  · rintro n rfl
    exact ⟨rfl, rfl⟩
  · rintro e rfl
    exact ⟨Session.release_lastErrorKind _ r, Session.release_lastMessage _ r⟩

/-- A submission that has the slot either writes nothing, leaves the connection alone and fails
with the fault of the first stage that stands in the way, or hands the bytes of its order to the
transport once, and succeeds with their count if the transport takes them and else fails.  The
slot is free afterwards, and the status tells of the success or of the error of printing. -/
theorem submit_all_or_nothing (order : PrintOrder) {held : Option Reservation}
    {token : Option TokenId} {r : Reservation} {taken : Scene τ}
    (htake : ((desk c).take held token).run s = pure (.ok r, taken))
    (hheld : ∀ r ∈ held, s.session.Holds r) :
    ∃ result after, ((desk c).submit order held token).run s = pure (result, after) ∧
      ((∃ f, obstacle taken.session (taken.room.cancelled r.token) order = some f ∧
          result = .error f ∧ after.written = s.written ∧
          after.session.connection = s.session.connection) ∨
        (∃ bytes t, obstacle taken.session (taken.room.cancelled r.token) order = none ∧
          Render.bytes taken.session.config order.source order.options = .ok bytes ∧
          s.session.connection.transport = some t ∧ after.written = (t, bytes) :: s.written ∧
          (((c.write t bytes taken.room).1 = none ∧ result = .ok bytes.length) ∨
            ((c.write t bytes taken.room).1 ≠ none ∧ ∃ f, result = .error f)))) ∧
      after.session.busy = false ∧
      (∀ next, ∃ r' x, after.session.reserve next = .ok (r', x)) ∧
      (∀ n, result = .ok n →
        after.session.lastErrorKind = none ∧ after.session.lastMessage = some order.success) ∧
      (∀ e, result = .error (.print e) →
        after.session.lastErrorKind = some e.kind ∧
          after.session.lastMessage = some ("Print Failed: " ++ e.message)) := by
  obtain ⟨hr, hwritten, hconnection⟩ := take_takes htake hheld
  cases hstop : obstacle taken.session (taken.room.cancelled r.token) order with
  | some f =>
    refine ⟨.error f, taken.settled order r (.error f), ?_, .inl ⟨f, rfl, rfl, ?_, ?_⟩,
      settled_status order hr _⟩
    · exact submit_run htake (perform_stopped hstop) hr
    · rw [settled_written, hwritten]
    · rw [settled_connection, hconnection]
  | none =>
    obtain ⟨bytes, t, result, s', hbytes, hclaim, hrun, hsent, hslot, hresult⟩ :=
      perform_sent hstop
    have hs' := Session.holds_of_slot hr hslot
    refine ⟨result, s'.settled order r result, ?_,
      .inr ⟨bytes, t, rfl, hbytes, ?_, ?_, hresult⟩, settled_status order hs' _⟩
    · exact submit_run htake hrun hs'
    · rw [← hconnection]
      exact (Connection.claim_ok hclaim).2
    · rw [settled_written, hsent, hwritten]

def stalling : Carrier Nat where
  openAt _ r := (.ok 0, r)
  write _ _ r := (some (.print (.of .timeout "no answer")), r)
  close _ r := (none, r)
  write_slot _ _ _ := rfl
  close_slot _ _ := rfl

def connected : Scene Nat :=
  { room := { session :=
      { connection := { state := .connected, transport := some 7 }
        locked := true
        active := some ⟨0, 0, 0⟩
        returned := [false] } } }

theorem submit_all_or_nothing_stalling :
    ∃ result after bytes,
      ((desk stalling).submit { source := .markup "hi".toText } (some ⟨0, 0, 0⟩)).run connected =
        pure (result, after) ∧
      result.isOk = false ∧ after.written = [(7, bytes)] ∧ after.session.busy = false := by
  have htake : ((desk stalling).take (some ⟨0, 0, 0⟩) none).run connected =
      pure (.ok ⟨0, 0, 0⟩, connected) := rfl
  have hheld : ∀ r ∈ some ⟨0, 0, 0⟩, connected.session.Holds r := by
    rintro r ⟨⟩
    exact ⟨rfl, rfl, rfl⟩
  have hway : obstacle connected.session (connected.room.cancelled 0)
      { source := .markup "hi".toText } = none := by decide +kernel
  obtain ⟨result, after, hrun, hparts, hbusy, -⟩ :=
    submit_all_or_nothing { source := .markup "hi".toText } htake hheld
  rcases hparts with ⟨f, hf, -⟩ | ⟨bytes, t, -, -, ht, hwritten, hresult⟩
  · rw [hway] at hf
    cases hf
  · cases ht
    rcases hresult with ⟨hnone, -⟩ | ⟨-, f, rfl⟩
    · cases hnone
    · exact ⟨_, after, bytes, hrun, rfl, hwritten, hbusy⟩

end Scene
end ThermalPrint
