import ThermalPrint.Session.Connection

/-
A bench on which a connection is driven by calls made one after another.  Transports are
numbered in the order in which they are opened, and what the connection does to the outside is
written down.

`move_step` says all that a call can do, and what is proved of whole runs rests on it alone.
-/

namespace ThermalPrint
namespace Bench

/-- What the outside sees of a connection. -/
inductive Event
  | dialled (address : Text)
  | opened (transport : Nat)
  | wrote (transport : Nat) (bytes : List UInt8)
  | closed (transport : Nat)
  | told (state : ConnectionState)
deriving DecidableEq, Repr

/-- What the outside does in the course of a call: the faults, if any, with which opening a
transport, writing to it and closing it end. -/
structure Outside where
  opening : Option Fault := none
  writing : Option Fault := none
  closing : Option Fault := none

inductive Call
  | connect (address : Text)
  | disconnect
  | write (bytes : List UInt8)

end Bench

/-- A connection on the bench, how many transports it has been given, and what it has done, the
latest first. -/
structure Bench where
  connection : Connection Nat := {}
  opened : Nat := 0
  log : List Bench.Event := []

namespace Bench

def note (b : Bench) (e : Event) : Bench := { b with log := e :: b.log }

def dial (o : Outside) (address : Text) (b : Bench) : Except Fault Nat × Bench :=
  let b := b.note (.dialled address)
  match o.opening with
  | some f => (.error f, b)
  | none => (.ok b.opened, { b.note (.opened b.opened) with opened := b.opened + 1 })

def line (o : Outside) : Line (StateM Bench) Nat where
  get b := (b.connection, b)
  set c b := ((), { b with connection := c })
  openAt := dial o
  send t bytes b := (o.writing, b.note (.wrote t bytes))
  close t b := (o.closing, b.note (.closed t))
  tell s b := ((), b.note (.told s))

def perform (line : Line (StateM Bench) Nat) : Call → StateM Bench (Except Fault Unit)
  | .connect address => line.connect address
  | .disconnect => line.disconnect
  | .write bytes => line.write bytes

def step (b : Bench) (c : Call) (o : Outside) : Except Fault Unit × Bench :=
  (perform (line o) c).run b

def run (calls : List (Call × Outside)) (b : Bench := {}) : Bench :=
  calls.foldl (fun b c => (b.step c.1 c.2).2) b

/-- What becomes of the connection whose write has failed, with nothing done to it meanwhile. -/
def failureOf (b : Bench) (f : Fault) : WriteFailure :=
  b.connection.writeFailure b.connection.generation f

@[simp] theorem get_run (o : Outside) (b : Bench) :
    (line o).get.run b = pure (b.connection, b) := rfl

@[simp] theorem openAt_run (o : Outside) (address : Text) (b : Bench) :
    ((line o).openAt address).run b = pure (dial o address b) := rfl

@[simp] theorem send_run (o : Outside) (t : Nat) (bytes : List UInt8) (b : Bench) :
    ((line o).send t bytes).run b = pure (o.writing, b.note (.wrote t bytes)) := rfl

@[simp] theorem closeOf_run (o : Outside) (c : Connection Nat) (b : Bench) :
    ((line o).closeOf c).run b =
      pure ((), { b with log := c.transport.toList.map .closed ++ b.log }) := by
  unfold Line.closeOf
  cases c.transport with
  | none => rfl
  | some t => rfl

theorem connect_run (o : Outside) (address : Text) (b : Bench) :
    ((line o).connect address).run b =
      match b.connection.dial address with
      | .error e => (.error (.print e), b)
      | .ok c =>
        match o.opening with
        | none =>
          (.ok (),
            { connection := c.hold b.opened, opened := b.opened + 1
              log := .told .connected :: .opened b.opened :: .dialled address
                :: .told .connecting :: b.log })
        | some f =>
          (.error (OpeningFailure.of f).fault,
            { connection := c.fail (OpeningFailure.of f).reason, opened := b.opened
              log := .told (.failed (OpeningFailure.of f).reason) :: .dialled address
                :: .told .connecting :: b.log }) := by
  cases h : b.connection.dial address with
  | error e => simp [Line.connect, h]; rfl
  | ok c =>
    cases ho : o.opening with
    | none => simp [Line.connect, h, dial, ho, note]; rfl
    | some f => simp [Line.connect, h, dial, ho, note]; rfl

theorem disconnect_run (o : Outside) (b : Bench) :
    (line o).disconnect.run b =
      match b.connection.hangUp with
      | .error e => (.error (.print e), b)
      | .ok none => (.ok (), b)
      | .ok (some c) =>
        (.ok (),
          { connection := c, opened := b.opened
            log := .told .idle :: (b.connection.transport.toList.map .closed ++ b.log) }) := by
  cases h : b.connection.hangUp with
  | error e => simp [Line.disconnect, h]; rfl
  | ok released =>
    cases released with
    | none => simp [Line.disconnect, h]; rfl
    | some c => simp [Line.disconnect, h]; rfl

theorem write_run (o : Outside) (bytes : List UInt8) (b : Bench) :
    ((line o).write bytes).run b =
      match b.connection.claim with
      | .error e => (.error (.print e), b)
      | .ok t =>
        match o.writing with
        | none => (.ok (), b.note (.wrote t bytes))
        | some f =>
          (.error (b.failureOf f).fault,
            match (b.failureOf f).dropTo with
            | none => b.note (.wrote t bytes)
            | some s =>
              { connection := b.connection.release s, opened := b.opened
                log := .told s :: (b.connection.transport.toList.map .closed
                  ++ .wrote t bytes :: b.log) }) := by
  cases h : b.connection.claim with
  | error e => simp [Line.write, h]; rfl
  | ok t =>
    cases ho : o.writing with
    | none => simp [Line.write, h, ho]; rfl
    | some f =>
      cases hf : (b.failureOf f).dropTo with
      | none =>
        unfold failureOf at hf ⊢
        simp [Line.write, h, ho, note, hf]; rfl
      | some s =>
        unfold failureOf at hf ⊢
        simp [Line.write, h, ho, note, hf]; rfl

/-- A call is refused by a connection as it stands. -/
inductive Refused (c : Connection Nat) : Call → PrintError → Prop
  | connect {address : Text} {e : PrintError} (h : c.dial address = .error e) :
    Refused c (.connect address) e
  | disconnect {e : PrintError} (h : c.hangUp = .error e) : Refused c .disconnect e
  | write {bytes : List UInt8} {e : PrintError} (h : c.claim = .error e) :
    Refused c (.write bytes) e

/-- What a call can do: what it comes to, and the bench that it leaves. -/
inductive Move (b : Bench) (o : Outside) : Call → Except Fault Unit → Bench → Prop
  | refused {c : Call} {e : PrintError} (h : Refused b.connection c e) :
    Move b o c (.error (.print e)) b
  | resting (h : b.connection.hangUp = .ok none) : Move b o .disconnect (.ok ()) b
  | connected {address : Text} {c : Connection Nat} (h : b.connection.dial address = .ok c)
      (ho : o.opening = none) :
    Move b o (.connect address) (.ok ())
      { connection := c.hold b.opened, opened := b.opened + 1
        log := .told .connected :: .opened b.opened :: .dialled address :: .told .connecting
          :: b.log }
  | unreached {address : Text} {c : Connection Nat} {f : Fault}
      (h : b.connection.dial address = .ok c) (ho : o.opening = some f) :
    Move b o (.connect address) (.error (OpeningFailure.of f).fault)
      { connection := c.fail (OpeningFailure.of f).reason, opened := b.opened
        log := .told (.failed (OpeningFailure.of f).reason) :: .dialled address
          :: .told .connecting :: b.log }
  | disconnected {c : Connection Nat} (h : b.connection.hangUp = .ok (some c)) :
    Move b o .disconnect (.ok ())
      { connection := c, opened := b.opened
        log := .told .idle :: (b.connection.transport.toList.map .closed ++ b.log) }
  | written {bytes : List UInt8} {t : Nat} (h : b.connection.claim = .ok t)
      (ho : o.writing = none) :
    Move b o (.write bytes) (.ok ()) (b.note (.wrote t bytes))
  | spared {bytes : List UInt8} {t : Nat} {f : Fault} (h : b.connection.claim = .ok t)
      (ho : o.writing = some f) (hf : (b.failureOf f).dropTo = none) :
    Move b o (.write bytes) (.error (b.failureOf f).fault) (b.note (.wrote t bytes))
  | dropped {bytes : List UInt8} {t : Nat} {f : Fault} {s : ConnectionState}
      (h : b.connection.claim = .ok t) (ho : o.writing = some f)
      (hf : (b.failureOf f).dropTo = some s) :
    Move b o (.write bytes) (.error (b.failureOf f).fault)
      { connection := b.connection.release s, opened := b.opened
        log := .told s :: (b.connection.transport.toList.map .closed
          ++ .wrote t bytes :: b.log) }

theorem move_connect (b : Bench) (o : Outside) (address : Text) :
    Move b o (.connect address) (b.step (.connect address) o).1
      (b.step (.connect address) o).2 := by
  rw [show b.step (.connect address) o = ((line o).connect address).run b from rfl, connect_run]
  cases h : b.connection.dial address with
  | error e => exact .refused (.connect h)
  | ok c =>
    cases ho : o.opening with
    | none => exact .connected h ho
    | some f => exact .unreached h ho

theorem move_disconnect (b : Bench) (o : Outside) :
    Move b o .disconnect (b.step .disconnect o).1 (b.step .disconnect o).2 := by
  rw [show b.step .disconnect o = (line o).disconnect.run b from rfl, disconnect_run]
  cases h : b.connection.hangUp with
  | error e => exact .refused (.disconnect h)
  | ok released =>
    cases released with
    | none => exact .resting h
    | some c => exact .disconnected h

theorem move_write (b : Bench) (o : Outside) (bytes : List UInt8) :
    Move b o (.write bytes) (b.step (.write bytes) o).1 (b.step (.write bytes) o).2 := by
  rw [show b.step (.write bytes) o = ((line o).write bytes).run b from rfl, write_run]
  cases h : b.connection.claim with
  | error e => exact .refused (.write h)
  | ok t =>
    cases ho : o.writing with
    | none => exact .written h ho
    | some f =>
      cases hf : (b.failureOf f).dropTo with
      | none => simpa only [hf] using Move.spared h ho hf
      | some s => simpa only [hf] using Move.dropped h ho hf

theorem move_step (b : Bench) (c : Call) (o : Outside) :
    Move b o c (b.step c o).1 (b.step c o).2 := by
  cases c with
  | connect address => exact move_connect b o address
  | disconnect => exact move_disconnect b o
  | write bytes => exact move_write b o bytes

/-- What holds at the start and is kept by every move holds behind every sequence of calls. -/
theorem run_induction {P : Bench → Prop}
    (hmove : ∀ {b b' : Bench} {o : Outside} {c : Call} {r : Except Fault Unit},
      P b → Move b o c r b' → P b')
    (calls : List (Call × Outside)) {b : Bench} (hb : P b) : P (run calls b) := by
  induction calls generalizing b with
  | nil => exact hb
  | cons call rest ih => exact ih (hmove hb (move_step b call.1 call.2))

end Bench
end ThermalPrint
