import ThermalPrint.Proofs.Connection.Ownership

/-
Writes that others interrupt.  While bytes are on their way to a transport the connection may be
ended and made again, any number of times.  A write that fails then ends the connection that it
began on, and no other.

A connection that is up changes by disconnecting only, and that counts its generation up for good.
The two cases of a failing write follow from this: the generation is the one that the write began
in if nobody has disconnected, and a later one if somebody has.
-/

namespace ThermalPrint
namespace Bench

/-- What may be asked of the connection while a write is under way. -/
inductive Link
  | connect (address : Text)
  | disconnect
deriving DecidableEq

def Link.call : Link → Call
  | connect address => .connect address
  | disconnect => .disconnect

def relink (links : List (Link × Outside)) (b : Bench) : Bench :=
  run (links.map fun l => (l.1.call, l.2)) b

def lineDuring (links : List (Link × Outside)) (o : Outside) : Line (StateM Bench) Nat :=
  { line o with send := fun t bytes b => (o.writing, relink links (b.note (.wrote t bytes))) }

/-- A write in the course of which the connection is relinked. -/
def writeDuring (links : List (Link × Outside)) (o : Outside) (bytes : List UInt8) (b : Bench) :
    Except Fault Unit × Bench :=
  ((lineDuring links o).write bytes).run b

@[simp] theorem getDuring_run (links : List (Link × Outside)) (o : Outside) (b : Bench) :
    (lineDuring links o).get.run b = pure (b.connection, b) := rfl

@[simp] theorem sendDuring_run (links : List (Link × Outside)) (o : Outside) (t : Nat)
    (bytes : List UInt8) (b : Bench) : ((lineDuring links o).send t bytes).run b =
      pure (o.writing, relink links (b.note (.wrote t bytes))) := rfl

@[simp] theorem closeOfDuring_run (links : List (Link × Outside)) (o : Outside)
    (c : Connection Nat) (b : Bench) : ((lineDuring links o).closeOf c).run b =
      pure ((), { b with log := c.transport.toList.map .closed ++ b.log }) := closeOf_run o c b

theorem writeDuring_run (links : List (Link × Outside)) (o : Outside) (bytes : List UInt8)
    (b : Bench) : b.writeDuring links o bytes =
      match b.connection.claim with
      | .error e => (.error (.print e), b)
      | .ok t =>
        let now := relink links (b.note (.wrote t bytes))
        match o.writing with
        | none => (.ok (), now)
        | some f =>
          let failure := now.connection.writeFailure b.connection.generation f
          (.error failure.fault,
            match failure.dropTo with
            | none => now
            | some s =>
              { connection := now.connection.release s, opened := now.opened
                log := .told s :: (now.connection.transport.toList.map .closed ++ now.log) }) := by
  unfold writeDuring
  cases h : b.connection.claim with
  | error e => simp [Line.write, h]; rfl
  | ok t =>
    dsimp only
    generalize hnow : relink links (b.note (.wrote t bytes)) = now
    cases ho : o.writing with
    | none => simp [Line.write, h, ho, hnow]; rfl
    | some f =>
      cases hf : (now.connection.writeFailure b.connection.generation f).dropTo with
      | none => simp [Line.write, h, ho, hnow, hf]; rfl
      | some s => simp [Line.write, h, ho, hnow, hf]; rfl

/-- The benches that calls lead to, with writes interrupted and not. -/
inductive Reached : Bench → Prop
  | start : Reached {}
  | step {b : Bench} (h : Reached b) (c : Call) (o : Outside) : Reached (b.step c o).2
  | during {b : Bench} (h : Reached b) (links : List (Link × Outside)) (o : Outside)
      (bytes : List UInt8) : Reached (b.writeDuring links o bytes).2

theorem writeDuring_nil (b : Bench) (o : Outside) (bytes : List UInt8) :
    b.writeDuring [] o bytes = b.step (.write bytes) o := rfl

theorem relink_sound {b : Bench} (h : Sound b) (links : List (Link × Outside)) :
    Sound (relink links b) :=
  run_induction Sound.move _ h

/-- Letting go of a transport and closing it keeps the log orderly. -/
theorem Sound.release {b : Bench} (h : Sound b) {s : ConnectionState} (hs : s.isOver = true) :
    Sound { connection := b.connection.release s, opened := b.opened
            log := .told s :: (b.connection.transport.toList.map .closed ++ b.log) } := by
  refine ⟨?_, .told h.orderly.close⟩
  cases s with
  | connected => cases hs
  | idle => simp [Connection.release]
  | connecting => simp [Connection.release]
  | failed reason => simp [Connection.release]

theorem Sound.during {b : Bench} (h : Sound b) (links : List (Link × Outside)) (o : Outside)
    (bytes : List UInt8) : Sound (b.writeDuring links o bytes).2 := by
  rw [writeDuring_run]
  cases hclaim : b.connection.claim with
  | error e => exact h
  | ok t =>
    have hnow := relink_sound (h.wrote hclaim bytes) links
    dsimp only
    cases ho : o.writing with
    | none => exact hnow
    | some f =>
      dsimp only
      cases hf : (Connection.writeFailure _ b.connection.generation f).dropTo with
      | none => exact hnow
      | some s => exact hnow.release (Connection.writeFailure_isOver hf)

theorem Reached.sound {b : Bench} (h : Reached b) : Sound b := by
  induction h with
  | start => exact sound_start
  | step _ c o ih => exact ih.move (move_step _ c o)
  | during _ links o bytes ih => exact ih.during links o bytes

/-- Generations only grow, and so does what has been done. -/
theorem Move.grows {b b' : Bench} {o : Outside} {c : Call} {r : Except Fault Unit}
    (h : Move b o c r b') :
    b.connection.generation ≤ b'.connection.generation ∧ ∀ e ∈ b.log, e ∈ b'.log := by
  cases h with
  | refused _ => exact ⟨Nat.le_refl _, fun _ he => he⟩
  | resting _ => exact ⟨Nat.le_refl _, fun _ he => he⟩
  | connected hd _ =>
    obtain ⟨-, rfl⟩ := Connection.dial_ok hd
    exact ⟨Nat.le_refl _, by simp +contextual⟩
  | unreached hd _ =>
    obtain ⟨-, rfl⟩ := Connection.dial_ok hd
    exact ⟨Nat.le_refl _, by simp +contextual⟩
  | disconnected hd =>
    rw [Connection.hangUp_some hd]
    exact ⟨Nat.le_succ _, by simp +contextual⟩
  | written _ _ => exact ⟨Nat.le_refl _, by simp +contextual [note]⟩
  | spared _ _ _ => exact ⟨Nat.le_refl _, by simp +contextual [note]⟩
  | dropped _ _ _ => exact ⟨Nat.le_succ _, by simp +contextual⟩

theorem relink_grows (b : Bench) (links : List (Link × Outside)) :
    b.connection.generation ≤ (relink links b).connection.generation ∧
      ∀ e ∈ b.log, e ∈ (relink links b).log := by
  have hmove : ∀ {d d' : Bench} {o : Outside} {c : Call} {r : Except Fault Unit},
      (b.connection.generation ≤ d.connection.generation ∧ ∀ e ∈ b.log, e ∈ d.log) →
        Move d o c r d' →
        b.connection.generation ≤ d'.connection.generation ∧ ∀ e ∈ b.log, e ∈ d'.log :=
    fun hd hm => ⟨Nat.le_trans hd.1 hm.grows.1, fun e he => hm.grows.2 e (hd.2 e he)⟩
  exact run_induction hmove _ ⟨Nat.le_refl _, fun _ he => he⟩

section Held

variable {b : Bench} {t : Nat} {links : List (Link × Outside)}

theorem claim_link {l : Link} (h : b.connection.claim = .ok t) (hl : l ≠ .disconnect)
    (o : Outside) : (b.step l.call o).2 = b := by
  cases l with
  | disconnect => exact absurd rfl hl
  | connect address =>
    obtain ⟨e, hdial⟩ := Connection.claim_dial h address
    exact congrArg Prod.snd (step_refused (.connect hdial))

/-- As long as nobody disconnects, nothing becomes of a connection that is up. -/
theorem relink_held (h : b.connection.claim = .ok t) (hlinks : ∀ l ∈ links, l.1 ≠ .disconnect) :
    relink links b = b := by
  induction links with
  | nil => rfl
  | cons l rest ih =>
    show relink rest (b.step l.1.call l.2).2 = b
    rw [claim_link h (hlinks l List.mem_cons_self) l.2]
    exact ih fun l' hl' => hlinks l' (List.mem_cons_of_mem l hl')

theorem step_released (h : b.connection.claim = .ok t) (o : Outside) :
    b.connection.generation < (b.step .disconnect o).2.connection.generation ∧
      .closed t ∈ (b.step .disconnect o).2.log := by
  rw [show b.step .disconnect o = (line o).disconnect.run b from rfl, disconnect_run,
    Connection.claim_hangUp h, (Connection.claim_ok h).2]
  exact ⟨Nat.lt_succ_self _, by simp⟩

/-- Once somebody disconnects, the transport that was held is closed, and it is another
generation for good. -/
theorem relink_released (h : b.connection.claim = .ok t)
    (hlinks : ∃ l ∈ links, l.1 = .disconnect) :
    b.connection.generation < (relink links b).connection.generation ∧
      .closed t ∈ (relink links b).log := by
  induction links with
  | nil =>
    obtain ⟨l, hl, -⟩ := hlinks
    cases hl
  | cons l rest ih =>
    show b.connection.generation < (relink rest (b.step l.1.call l.2).2).connection.generation ∧
      .closed t ∈ (relink rest (b.step l.1.call l.2).2).log
    by_cases hl : l.1 = .disconnect
    · have hstep := step_released h l.2
      have hrest := relink_grows (b.step l.1.call l.2).2 rest
      rw [hl] at hrest ⊢
      exact ⟨Nat.lt_of_lt_of_le hstep.1 hrest.1, hrest.2 _ hstep.2⟩
    · rw [claim_link h hl l.2]
      obtain ⟨l', hl', hdisconnect⟩ := hlinks
      rcases List.mem_cons.1 hl' with rfl | hl'
      · exact absurd hdisconnect hl
      · exact ih ⟨l', hl', hdisconnect⟩

end Held

section Failing

variable {b : Bench} {t : Nat} (bytes : List UInt8) {o : Outside} {f : Fault}
  {links : List (Link × Outside)}

theorem writeDuring_lost (hclaim : b.connection.claim = .ok t) (ho : o.writing = some f)
    (hf : f.OfStream) (hlinks : ∃ l ∈ links, l.1 = .disconnect) :
    b.writeDuring links o bytes =
      (.error (.print (.of .connectionLost "connection was closed during the write")),
        relink links (b.note (.wrote t bytes))) := by
  have hstart : (b.note (.wrote t bytes)).connection.claim = .ok t := hclaim
  have hgeneration : b.connection.generation ≠
      (relink links (b.note (.wrote t bytes))).connection.generation :=
    Nat.ne_of_lt (relink_released hstart hlinks).1
  rw [writeDuring_run, hclaim]
  dsimp only
  rw [ho]
  dsimp only
  rw [Connection.writeFailure_lost hf hgeneration]

theorem writeDuring_own (hclaim : b.connection.claim = .ok t) (ho : o.writing = some f)
    (hf : f.OfStream) (hlinks : ∀ l ∈ links, l.1 ≠ .disconnect) :
    ∃ f', (f.isA .timeout = true → f' = f) ∧ f'.isA .ioError = true ∧
      b.writeDuring links o bytes = (.error f',
        { connection := b.connection.release (f.endState), opened := b.opened
          log := .told (f.endState) :: .closed t :: .wrote t bytes :: b.log }) := by
  have hstart : (b.note (.wrote t bytes)).connection.claim = .ok t := hclaim
  obtain ⟨f', hfailure, htimeout, hio⟩ := Connection.writeFailure_own (c := b.connection) hf
  refine ⟨f', htimeout, hio, ?_⟩
  rw [writeDuring_run, hclaim]
  dsimp only
  rw [ho, relink_held hstart hlinks]
  show (Except.error (b.connection.writeFailure b.connection.generation f).fault, _) = _
  rw [show (b.note (.wrote t bytes)).connection = b.connection from rfl, hfailure,
    (Connection.claim_ok hclaim).2]
  rfl

end Failing

/-- A write that fails does no harm to a connection that is not its own.  If somebody has
disconnected since it began, it ends as a connection that is lost and leaves everything as it finds
it, a newer transport among it.  If not, it lets its transport go, closes it and says how the stream
failed. -/
theorem stale_write_harmless {b : Bench} (hb : Reached b) {t : Nat} (bytes : List UInt8)
    {o : Outside} {f : Fault} (hclaim : b.connection.claim = .ok t) (ho : o.writing = some f)
    (hf : f.OfStream) (links : List (Link × Outside)) :
    let now := relink links (b.note (.wrote t bytes))
    let result := (b.writeDuring links o bytes).1
    let after := (b.writeDuring links o bytes).2
    (.closed t ∈ now.log ↔ ∃ l ∈ links, l.1 = .disconnect) ∧
    (.closed t ∈ now.log → (∃ e, result = .error (.print e) ∧ e.kind = .connectionLost) ∧
      after = now) ∧
    (.closed t ∉ now.log →
      after.connection = now.connection.release (f.endState) ∧
      after.log = .told (f.endState) :: .closed t :: now.log ∧
      after.log.count (.closed t) = 1 ∧
      ∃ f', result = .error f' ∧ (f.isA .timeout = true → f' = f) ∧ f'.isA .ioError = true) := by
  have hstart : (b.note (.wrote t bytes)).connection.claim = .ok t := hclaim
  have hopen : .closed t ∉ (b.note (.wrote t bytes)).log :=
    (((hb.sound.wrote hclaim bytes).orderly.open_iff t).2 (Connection.claim_ok hclaim).2).2
  by_cases hlinks : ∃ l ∈ links, l.1 = .disconnect
  · have hclosed := (relink_released hstart hlinks).2
    rw [writeDuring_lost bytes hclaim ho hf hlinks]
    exact ⟨⟨fun _ => hlinks, fun _ => hclosed⟩,
      fun _ => ⟨⟨_, rfl, PrintError.of_kind _ _⟩, rfl⟩, fun hno => absurd hclosed hno⟩
  · have hheld : ∀ l ∈ links, l.1 ≠ .disconnect := fun l hl hd => hlinks ⟨l, hl, hd⟩
    obtain ⟨f', htimeout, hio, hwrite⟩ := writeDuring_own bytes hclaim ho hf hheld
    rw [hwrite, relink_held hstart hheld]
    refine ⟨⟨fun h => absurd h hopen, fun h => absurd h hlinks⟩, fun h => absurd h hopen,
      fun _ => ⟨rfl, rfl, ?_, f', rfl, htimeout, hio⟩⟩
    show (_ :: _ :: (b.note (.wrote t bytes)).log).count (.closed t) = 1
    rw [List.count_cons_of_ne (by simp), List.count_cons_self, List.count_eq_zero.2 hopen]

def connectedBench : Bench := (({} : Bench).step (.connect "tcp://front:9100") {}).2

def reconnection : List (Link × Outside) := [(.disconnect, {}), (.connect "tcp://back:9100", {})]

theorem stale_write_reconnected :
    Reached connectedBench ∧ connectedBench.connection.claim = .ok 0 ∧
      Fault.OfStream (.system .brokenPipe "gone") ∧
      (connectedBench.writeDuring reconnection { writing := some (.system .brokenPipe "gone") }
        [0x0A]).2.connection =
          { state := .connected, transport := some 1, address := some "tcp://back:9100"
            generation := 1 } := by
  have hreached : Reached connectedBench := .step .start _ _
  have hclaim : connectedBench.connection.claim = .ok 0 := rfl
  have hstream : Fault.OfStream (.system .brokenPipe "gone") := .inr rfl
  obtain ⟨hclosed, hlost, -⟩ := stale_write_harmless hreached [0x0A]
    (o := { writing := some (.system .brokenPipe "gone") }) hclaim rfl hstream reconnection
  obtain ⟨-, hafter⟩ := hlost (hclosed.2 ⟨_, List.mem_cons_self, rfl⟩)
  exact ⟨hreached, hclaim, hstream, (congrArg Bench.connection hafter).trans rfl⟩

end Bench
end ThermalPrint
