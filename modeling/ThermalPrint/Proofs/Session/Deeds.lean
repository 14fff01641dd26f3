import ThermalPrint.Proofs.Session.Submit

/-
What is done to a session beside its jobs: it is connected and disconnected, and tokens are
cancelled.

`Passage` records the states that a connection passes to, and the desk does what is recorded: it
moves its connection as it is and cancels the job in flight whenever one of the states is an end.
-/

namespace ThermalPrint
namespace Scene

variable {τ : Type}

/-- What is done to a session. -/
inductive Deed
  | connect (address : Text)
  | disconnect
  | cancel (token : TokenId) (f : Fault)
deriving DecidableEq

/-- What opening a transport and closing one come to. -/
structure Luck (τ : Type) where
  opening : Except Fault τ
  closing : Option Fault := none

def quiet (luck : Luck τ) : Carrier τ where
  openAt _ r := (luck.opening, r)
  write _ _ r := (none, r)
  close _ r := (luck.closing, r)
  write_slot _ _ _ := rfl
  close_slot _ _ := rfl

def Deed.run (luck : Luck τ) (s : Scene τ) : Deed → Scene τ
  | connect address => (((desk (quiet luck)).connect address).run s).2
  | disconnect => ((desk (quiet luck)).disconnect.run s).2
  | cancel token f => (((desk (quiet luck)).cancel token f).run s).2

def play (deeds : List (Deed × Luck τ)) (s : Scene τ) : Scene τ :=
  deeds.foldl (fun s d => d.1.run d.2 s) s

/-- A connection, and the states that it has passed to, the latest first. -/
structure Passage (τ : Type) where
  connection : Connection τ
  states : List ConnectionState := []

def recorder (luck : Luck τ) : Line (StateM (Passage τ)) τ where
  get p := (p.connection, p)
  set x p := ((), { p with connection := x })
  openAt _ p := (luck.opening, p)
  send _ _ p := (none, p)
  close _ p := (luck.closing, p)
  tell state p := ((), { p with states := state :: p.states })

/-- What a connection passes through by a deed. -/
def Deed.passage (luck : Luck τ) (x : Connection τ) : Deed → Passage τ
  | connect address => (((recorder luck).connect address).run ⟨x, []⟩).2
  | disconnect => ((recorder luck).disconnect.run ⟨x, []⟩).2
  | cancel _ _ => ⟨x, []⟩

/-- By a deed a connection passes to a state in which it is over. -/
def Ends (d : Deed × Luck τ) (x : Connection τ) : Prop :=
  ∃ state ∈ (d.1.passage d.2 x).states, state.isOver = true

def toldAll (states : List ConnectionState) (s : Scene τ) : Scene τ := states.foldr told s

section Recorder

variable (luck : Luck τ) (p : Passage τ)

@[simp] theorem recorderGet_run : (recorder luck).get.run p = pure (p.connection, p) := rfl

@[simp] theorem recorderOpen_run (address : Text) :
    ((recorder luck).openAt address).run p = pure (luck.opening, p) := rfl

@[simp] theorem recorderCloseOf_run (x : Connection τ) :
    ((recorder luck).closeOf x).run p = pure ((), p) := by
  unfold Line.closeOf
  cases x.transport with
  | none => rfl
  | some t => rfl

@[simp] theorem quietOpen_run (address : Text) (s : Scene τ) :
    ((desk (quiet luck)).line.openAt address).run s = pure (luck.opening, s) := rfl

@[simp] theorem quiet_shut (x : Connection τ) (s : Scene τ) : s.shut (quiet luck) x = s := by
  unfold shut
  split <;> rfl

end Recorder

theorem connect_passage (luck : Luck τ) (address : Text) (x : Connection τ) :
    (Deed.connect address).passage luck x =
      match x.dial address with
      | .error _ => ⟨x, []⟩
      | .ok c =>
        match luck.opening with
        | .ok t => ⟨c.hold t, [.connected, .connecting]⟩
        | .error f =>
          ⟨c.fail (OpeningFailure.of f).reason,
            [.failed (OpeningFailure.of f).reason, .connecting]⟩ := by
  unfold Deed.passage
  cases h : x.dial address with
  | error e => simp [Line.connect, h]; rfl
  | ok c =>
    cases hopen : luck.opening with
    | ok t => simp [Line.connect, h, hopen]; rfl
    | error f => simp [Line.connect, h, hopen]; rfl

theorem disconnect_passage (luck : Luck τ) (x : Connection τ) :
    Deed.disconnect.passage luck x =
      match x.hangUp with
      | .ok (some c) => ⟨c, [.idle]⟩
      | _ => ⟨x, []⟩ := by
  unfold Deed.passage
  cases h : x.hangUp with
  | error e => simp [Line.disconnect, h]; rfl
  | ok released =>
    cases released with
    | none => simp [Line.disconnect, h]; rfl
    | some c => simp [Line.disconnect, h]; rfl

section Line

variable (luck : Luck τ) (s : Scene τ)

def passed (p : Passage τ) (s : Scene τ) : Scene τ :=
  toldAll p.states (s.setConnection p.connection)

theorem lineConnect_run (address : Text) :
    ∃ result, ((desk (quiet luck)).line.connect address).run s =
      pure (result, s.passed ((Deed.connect address).passage luck s.session.connection)) := by
  rw [connect_passage]
  cases h : s.session.connection.dial address with
  | error e => exact ⟨.error (.print e), by simp [Line.connect, h]; rfl⟩
  | ok c =>
    cases hopen : luck.opening with
    | ok t => exact ⟨.ok (), by simp [Line.connect, h, hopen]; rfl⟩
    | error f => exact ⟨.error (OpeningFailure.of f).fault, by simp [Line.connect, h, hopen]; rfl⟩

theorem lineDisconnect_run :
    ∃ result, (desk (quiet luck)).line.disconnect.run s =
      pure (result, s.passed (Deed.disconnect.passage luck s.session.connection)) := by
  rw [disconnect_passage]
  cases h : s.session.connection.hangUp with
  | error e => exact ⟨.error (.print e), by simp [Line.disconnect, h]; rfl⟩
  | ok released =>
    cases released with
    | none => exact ⟨.ok (), by simp [Line.disconnect, h]; rfl⟩
    | some c => exact ⟨.ok (), by simp [Line.disconnect, h]; rfl⟩

end Line

section Told

variable (state : ConnectionState) (states : List ConnectionState) (s : Scene τ)

@[simp] theorem told_session : (s.told state).session = s.session := by
  unfold told
  split <;> rfl

@[simp] theorem toldAll_session : (toldAll states s).session = s.session := by
  induction states with
  | nil => rfl
  | cons state rest ih => exact (told_session state _).trans ih

@[simp] theorem toldAll_written : (toldAll states s).written = s.written := by
  induction states with
  | nil => rfl
  | cons state rest ih => exact (told_written state _).trans ih

@[simp] theorem passed_session (p : Passage τ) :
    (s.passed p).session = { s.session with connection := p.connection } :=
  toldAll_session _ _

@[simp] theorem passed_written (p : Passage τ) : (s.passed p).written = s.written :=
  toldAll_written _ _

/-- Whoever has the slot is cancelled by the end of the connection. -/
theorem told_over {state : ConnectionState} (h : state.isOver = true) {r : Reservation}
    (hr : s.session.active = some r) :
    (s.told state).room = s.room.cancel r.token disconnection := by
  unfold told
  rw [h, hr]

theorem told_cancelled (id : TokenId) :
    (s.told state).room.cancelled id = s.room.cancelled id ∨
      (∃ r, s.session.active = some r ∧ r.token = id) ∧
        (s.told state).room.cancelled id = some ((s.room.cancelled id).getD disconnection) := by
  unfold told
  split
  · rename_i r _ hr
    by_cases hid : id = r.token
    · refine .inr ⟨⟨r, hr, hid.symm⟩, ?_⟩
      show (if id = r.token then _ else _) = _
      rw [if_pos hid]
    · refine .inl ?_
      show (if id = r.token then _ else _) = _
      rw [if_neg hid]
  · exact .inl rfl

/-- A token is left as it is, or it is that of the job in flight and has been cancelled, with the
fault that it had if it had one. -/
theorem toldAll_cancelled (id : TokenId) :
    (toldAll states s).room.cancelled id = s.room.cancelled id ∨
      (∃ r, s.session.active = some r ∧ r.token = id) ∧
        (toldAll states s).room.cancelled id = some ((s.room.cancelled id).getD disconnection) := by
  induction states with
  | nil => exact .inl rfl
  | cons state rest ih =>
    have hlast := told_cancelled state (toldAll rest s) id
    rw [toldAll_session] at hlast
    show (told state (toldAll rest s)).room.cancelled id = _ ∨ _ ∧
      (told state (toldAll rest s)).room.cancelled id = _
    rcases hlast with hlast | ⟨hactive, hlast⟩
    · rw [hlast]
      exact ih
    · refine .inr ⟨hactive, ?_⟩
      rcases ih with ih | ⟨-, ih⟩
      · rw [hlast, ih]
      · rw [hlast, ih]
        rfl

theorem toldAll_over {r : Reservation} (hr : s.session.active = some r)
    (h : ∃ state ∈ states, state.isOver = true) : (toldAll states s).room.cancelled r.token =
      some ((s.room.cancelled r.token).getD disconnection) := by
  induction states with
  | nil =>
    obtain ⟨state, hmem, -⟩ := h
    cases hmem
  | cons state rest ih =>
    show (told state (toldAll rest s)).room.cancelled r.token = _
    obtain ⟨last, hmem, hover⟩ := h
    rcases List.mem_cons.1 hmem with rfl | hmem
    · have hsession : (toldAll rest s).session.active = some r := by rw [toldAll_session, hr]
      rw [told_over _ hover hsession]
      show (if r.token = r.token then _ else _) = _
      rw [if_pos rfl]
      rcases toldAll_cancelled rest s r.token with hrest | ⟨-, hrest⟩
      · rw [hrest]
      · rw [hrest]
        rfl
    · have hrest := ih ⟨last, hmem, hover⟩
      rcases told_cancelled state (toldAll rest s) r.token with hlast | ⟨-, hlast⟩
      · rw [hlast, hrest]
      · rw [hlast, hrest]
        rfl

end Told

/-- The scene without what has been said in it. -/
def mute (s : Scene τ) : Scene τ :=
  { s.setSession { s.session with lastMessage := none, lastErrorKind := none } with said := [] }

theorem report_mute {α : Type} (c : Carrier τ) (words : Text) (result : Except Fault α)
    (s : Scene τ) : ∃ s', ((desk c).report words result).run s = pure ((), s') ∧
      s'.mute = s.mute := by
  cases result with
  | ok a => exact ⟨s, rfl, rfl⟩
  | error f =>
    cases f with
    | print e => exact ⟨_, rfl, rfl⟩
    | system kind message => exact ⟨s, rfl, rfl⟩
    | value kind message => exact ⟨s, rfl, rfl⟩

/-- Beside what it says, connecting does what its connection passes through. -/
theorem connect_mute (luck : Luck τ) (address : Text) (s : Scene τ) :
    ((Deed.connect address).run luck s).mute =
      (s.passed ((Deed.connect address).passage luck s.session.connection)).mute := by
  obtain ⟨result, hline⟩ := lineConnect_run luck s address
  obtain ⟨s', hreport, hmute⟩ := report_mute (quiet luck) "Connection failed" result
    (s.passed ((Deed.connect address).passage luck s.session.connection))
  rw [← hmute]
  unfold Deed.run
  cases hok : result.isOk with
  | true => simp [Desk.connect, hline, hreport, hok]; rfl
  | false => simp [Desk.connect, hline, hreport, hok]; rfl

theorem disconnect_mute (luck : Luck τ) (s : Scene τ) :
    (Deed.disconnect.run luck s).mute =
      (s.passed (Deed.disconnect.passage luck s.session.connection)).mute := by
  obtain ⟨result, hline⟩ := lineDisconnect_run luck s
  obtain ⟨s', hreport, hmute⟩ := report_mute (quiet luck) "Error disconnecting" result
    (s.passed (Deed.disconnect.passage luck s.session.connection))
  rw [← hmute]
  unfold Deed.run
  cases hok : result.isOk with
  | true => simp [Desk.disconnect, hline, hreport, hok]; rfl
  | false => simp [Desk.disconnect, hline, hreport, hok]; rfl

/-- What a deed does in a scene. -/
structure Done (d : Deed × Luck τ) (s s' : Scene τ) : Prop where
  slot : s'.session.slot = s.session.slot
  config : s'.session.config = s.session.config
  connection : s'.session.connection = (d.1.passage d.2 s.session.connection).connection
  written : s'.written = s.written
  /-- The job in flight is cancelled when the connection ends. -/
  ends : Ends d s.session.connection → ∀ r, s.session.active = some r →
    s'.room.cancelled r.token = some ((s.room.cancelled r.token).getD disconnection)
  /-- A token that is cancelled is that of the job in flight or the one meant. -/
  cancelled : ∀ id, s'.room.cancelled id = s.room.cancelled id ∨
    ((∃ r, s.session.active = some r ∧ r.token = id) ∨ ∃ f, d.1 = .cancel id f) ∧
      ∃ f, s'.room.cancelled id = some ((s.room.cancelled id).getD f)

/-- What a connection passes through is what is done, but for what is said. -/
theorem done_of_mute {d : Deed × Luck τ} {s s' : Scene τ}
    (h : s'.mute = (s.passed (d.1.passage d.2 s.session.connection)).mute) : Done d s s' := by
  let p := d.1.passage d.2 s.session.connection
  have hcancelled : s'.room.cancelled = (s.passed p).room.cancelled :=
    congrArg (·.room.cancelled) h
  have hslot : s'.session.slot = (s.passed p).session.slot := congrArg (·.session.slot) h
  have hconfig : s'.session.config = (s.passed p).session.config :=
    congrArg (·.session.config) h
  have hconnection : s'.session.connection = (s.passed p).session.connection :=
    congrArg (·.session.connection) h
  have hwritten : s'.written = (s.passed p).written := congrArg (·.written) h
  rw [passed_session] at hslot hconfig hconnection
  rw [passed_written] at hwritten
  refine ⟨hslot, hconfig, hconnection, hwritten, fun hends r hr => ?_, fun id => ?_⟩
  · rw [hcancelled]
    exact toldAll_over p.states (s.setConnection p.connection) hr hends
  · rw [hcancelled]
    rcases toldAll_cancelled p.states (s.setConnection p.connection) id with hsame | ⟨hr, hnew⟩
    · exact .inl hsame
    · exact .inr ⟨.inl hr, _, hnew⟩

theorem deed_done (d : Deed × Luck τ) (s : Scene τ) : Done d s (d.1.run d.2 s) := by
  obtain ⟨deed, luck⟩ := d
  cases deed with
  | connect address => exact done_of_mute (connect_mute luck address s)
  | disconnect => exact done_of_mute (disconnect_mute luck s)
  | cancel token f =>
    refine ⟨rfl, rfl, rfl, rfl, ?_, fun id => ?_⟩
    · rintro ⟨state, hmem, -⟩
      cases hmem
    · show (if id = token then _ else _) = _ ∨ _ ∧ ∃ f', (if id = token then _ else _) = _
      by_cases hid : id = token
      · rw [if_pos hid]
        exact .inr ⟨.inr ⟨f, by rw [hid]⟩, f, rfl⟩
      · rw [if_neg hid]
        exact .inl rfl

section Play

variable (deeds : List (Deed × Luck τ)) (s : Scene τ)

theorem play_append (more : List (Deed × Luck τ)) :
    play (deeds ++ more) s = play more (play deeds s) :=
  List.foldl_append

@[simp] theorem play_slot : (play deeds s).session.slot = s.session.slot := by
  induction deeds generalizing s with
  | nil => rfl
  | cons d rest ih => exact (ih _).trans (deed_done d s).slot

@[simp] theorem play_config : (play deeds s).session.config = s.session.config := by
  induction deeds generalizing s with
  | nil => rfl
  | cons d rest ih => exact (ih _).trans (deed_done d s).config

@[simp] theorem play_written : (play deeds s).written = s.written := by
  induction deeds generalizing s with
  | nil => rfl
  | cons d rest ih => exact (ih _).trans (deed_done d s).written

theorem play_active : (play deeds s).session.active = s.session.active :=
  congrArg Session.Slot.active (play_slot deeds s)

theorem play_keeps {id : TokenId} {f : Fault} (h : s.room.cancelled id = some f) :
    (play deeds s).room.cancelled id = some f := by
  induction deeds generalizing s with
  | nil => exact h
  | cons d rest ih =>
    refine ih _ ?_
    rcases (deed_done d s).cancelled id with hsame | ⟨-, f', hnew⟩
    · exact hsame.trans h
    · rw [hnew, h]
      rfl

/-- The tokens of others are left alone, unless they are meant. -/
theorem play_others {id : TokenId} (hr : ∀ r, s.session.active = some r → r.token ≠ id)
    (hmeant : ∀ d ∈ deeds, ∀ f, d.1 ≠ .cancel id f) :
    (play deeds s).room.cancelled id = s.room.cancelled id := by
  induction deeds generalizing s with
  | nil => rfl
  | cons d rest ih =>
    have hdone := deed_done d s
    have hactive : (d.1.run d.2 s).session.active = s.session.active :=
      congrArg Session.Slot.active hdone.slot
    have hrest := ih (d.1.run d.2 s) (by rw [hactive]; exact hr)
      fun d' hd' => hmeant d' (List.mem_cons_of_mem d hd')
    refine hrest.trans ?_
    rcases hdone.cancelled id with hsame | ⟨⟨r, hactive, hid⟩ | ⟨f, hd⟩, -⟩
    · exact hsame
    · exact absurd hid (hr r hactive)
    · exact absurd hd (hmeant d List.mem_cons_self f)

/-- Once the connection has ended, the job in flight is cancelled, whatever comes after. -/
theorem play_ends {before later : List (Deed × Luck τ)} {d : Deed × Luck τ} {r : Reservation}
    (hr : s.session.active = some r) (hends : Ends d (play before s).session.connection) :
    (play (before ++ d :: later) s).room.cancelled r.token =
      some (((play before s).room.cancelled r.token).getD disconnection) := by
  rw [play_append]
  refine play_keeps later _ ?_
  exact (deed_done d (play before s)).ends hends r ((play_active before s).trans hr)

end Play

theorem passage_grows (d : Deed) (luck : Luck τ) (x : Connection τ) :
    x.generation ≤ (d.passage luck x).connection.generation := by
  cases d with
  | connect address =>
    rw [connect_passage]
    cases h : x.dial address with
    | error e => exact Nat.le_refl _
    | ok c =>
      obtain ⟨-, rfl⟩ := Connection.dial_ok h
      dsimp only
      cases luck.opening with
      | ok t => exact Nat.le_refl _
      | error f => exact Nat.le_refl _
  | disconnect =>
    rw [disconnect_passage]
    cases h : x.hangUp with
    | error e => exact Nat.le_refl _
    | ok released =>
      cases released with
      | none => exact Nat.le_refl _
      | some c =>
        rw [Connection.hangUp_some h]
        exact Nat.le_succ _
  | cancel token f => exact Nat.le_refl _

/-- Only disconnecting changes a connection that is up. -/
theorem passage_held {x : Connection τ} {t : τ} (h : x.claim = .ok t) {d : Deed}
    (hd : d ≠ .disconnect) (luck : Luck τ) : (d.passage luck x).connection = x := by
  cases d with
  | connect address =>
    obtain ⟨e, hdial⟩ := Connection.claim_dial h address
    rw [connect_passage, hdial]
  | disconnect => exact absurd rfl hd
  | cancel token f => rfl

theorem passage_released {x : Connection τ} {t : τ} (h : x.claim = .ok t) (luck : Luck τ) :
    (Deed.disconnect.passage luck x).connection = x.release .idle := by
  rw [disconnect_passage, Connection.claim_hangUp h]

theorem play_grows (deeds : List (Deed × Luck τ)) (s : Scene τ) :
    s.session.connection.generation ≤ (play deeds s).session.connection.generation := by
  induction deeds generalizing s with
  | nil => exact Nat.le_refl _
  | cons d rest ih =>
    have hstep := passage_grows d.1 d.2 s.session.connection
    rw [← (deed_done d s).connection] at hstep
    exact Nat.le_trans hstep (ih _)

/-- Once somebody disconnects it is another generation for good. -/
theorem play_released {deeds : List (Deed × Luck τ)} {s : Scene τ} {t : τ}
    (h : s.session.connection.claim = .ok t) (hdeeds : ∃ d ∈ deeds, d.1 = .disconnect) :
    s.session.connection.generation < (play deeds s).session.connection.generation := by
  induction deeds generalizing s with
  | nil =>
    obtain ⟨d, hd, -⟩ := hdeeds
    cases hd
  | cons d rest ih =>
    have hconnection := (deed_done d s).connection
    by_cases hd : d.1 = .disconnect
    · have hgeneration : s.session.connection.generation <
          (d.1.run d.2 s).session.connection.generation := by
        rw [hconnection, hd, passage_released h]
        exact Nat.lt_succ_self _
      exact Nat.lt_of_lt_of_le hgeneration (play_grows rest _)
    · rw [passage_held h hd] at hconnection
      obtain ⟨d', hd', hdisconnect⟩ := hdeeds
      rcases List.mem_cons.1 hd' with rfl | hd'
      · exact absurd hdisconnect hd
      · have hrest := ih (s := d.1.run d.2 s) (by rw [hconnection]; exact h)
          ⟨d', hd', hdisconnect⟩
        rw [hconnection] at hrest
        exact hrest

end Scene
end ThermalPrint
