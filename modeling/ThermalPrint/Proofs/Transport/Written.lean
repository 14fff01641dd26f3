import ThermalPrint.Transport.Device

/-
What reaches a device of the bytes that are written to it.

Bytes are handed over in pieces, one behind the other, up to the first that the device refuses, and
nothing is asked of it behind that one.  The pieces make up the bytes, so the device gets all of
them or some of them from the front.  A record is kept of what a device is asked and what it
answers; that does not change what the device does.
-/

namespace ThermalPrint

variable {ω δ : Type}

namespace Devices

/-- What is asked of a device while bytes are written to it, with its answer. -/
inductive Request
  | piece (bytes : List UInt8) (answer : Option Fault)
  | finish (answer : Option Fault)
deriving DecidableEq, Repr

namespace Request

def taken (bytes : List UInt8) : Request := .piece bytes none

def taken? : Request → Option (List UInt8)
  | piece bytes none => some bytes
  | _ => none

end Request

def received (record : List Request) : List (List UInt8) := record.filterMap Request.taken?

theorem received_taken (parts : List (List UInt8)) : received (parts.map .taken) = parts := by
  unfold received
  rw [List.filterMap_map]
  exact List.filterMap_some

theorem received_behind (parts : List (List UInt8)) {last : Request} (h : last.taken? = none) :
    received (parts.map .taken ++ [last]) = parts := by
  have hlast : [last].filterMap Request.taken? = [] := List.filterMap_cons_none h
  rw [received, List.filterMap_append, hlast, List.append_nil]
  exact received_taken parts

def noted (act : StateM ω (Option Fault)) (note : Option Fault → Request) :
    StateT (List Request) (StateM ω) (Option Fault) := do
  let answer ← act
  modify (· ++ [note answer])
  return answer

theorem run_noted {act : StateM ω (Option Fault)} {w w' : ω} {answer : Option Fault}
    (h : act.run w = (answer, w')) (note : Option Fault → Request) (record : List Request) :
    ((noted act note).run record).run w = ((answer, record ++ [note answer]), w') := by
  show (fun r : Option Fault × ω => ((r.1, record ++ [note r.1]), r.2)) (act.run w) = _
  rw [h]

/-- Devices in a world of their own, with a record of what they are asked while bytes are written.
Only some of them can be asked to finish. -/
def recorded (devices : Devices (StateM ω) δ) (finishes : δ → Bool) :
    Devices (StateT (List Request) (StateM ω)) δ where
  openNetwork host port seconds := devices.openNetwork host port seconds
  openSerial port baud seconds := devices.openSerial port baud seconds
  socket := devices.socket
  limit device seconds := devices.limit device seconds
  connect device mac channel := devices.connect device mac channel
  send device piece := noted (devices.send device piece) (.piece piece)
  flush device := if finishes device then noted (devices.flush device) .finish else pure none
  shutdown device := devices.shutdown device
  close device := devices.close device

section Recorded

variable (devices : Devices (StateM ω) δ) {finishes : δ → Bool} {device : δ}

theorem flush_recorded (h : finishes device = true) :
    (devices.recorded finishes).flush device = noted (devices.flush device) .finish := if_pos h

theorem flush_unrecorded (h : finishes device = false) :
    (devices.recorded finishes).flush device = pure none := if_neg (by rw [h]; exact nofun)

end Recorded

/-- With a record the same is done as without one. -/
def Records {α : Type} (x : StateT (List Request) (StateM ω) α) (y : StateM ω α) : Prop :=
  ∀ record w, (((x.run record).run w).1.1, ((x.run record).run w).2) = y.run w

section Records

variable {α β : Type}

theorem records_pure (a : α) :
    Records (pure a : StateT (List Request) (StateM ω) α) (pure a) := fun _ _ => rfl

theorem records_bind {x : StateT (List Request) (StateM ω) α} {y : StateM ω α}
    {f : α → StateT (List Request) (StateM ω) β} {g : α → StateM ω β} (hx : Records x y)
    (hf : ∀ a, Records (f a) (g a)) : Records (x >>= f) (y >>= g) := by
  intro record w
  have hfirst := hx record w
  rw [StateT.run_bind, StateT.run_bind, StateT.run_bind, ← hfirst]
  exact hf _ _ _

theorem records_noted (act : StateM ω (Option Fault)) (note : Option Fault → Request) :
    Records (noted act note) act := fun _ _ => rfl

end Records

theorem run_send (devices : Devices (StateM ω) δ) (finishes : δ → Bool) {device : δ}
    {piece : List UInt8} {w w' : ω} {answer : Option Fault}
    (h : (devices.send device piece).run w = (answer, w')) (record : List Request) :
    (((devices.recorded finishes).send device piece).run record).run w =
      ((answer, record ++ [.piece piece answer]), w') := run_noted h (.piece piece) record

/-- A device takes pieces in order, which leads from one state of the world to another. -/
inductive Takes (devices : Devices (StateM ω) δ) (device : δ) :
    ω → List (List UInt8) → ω → Prop
  | nil (w : ω) : Takes devices device w [] w
  | cons {w w' w'' : ω} {piece : List UInt8} {rest : List (List UInt8)}
      (hpiece : (devices.send device piece).run w = (none, w'))
      (hrest : Takes devices device w' rest w'') : Takes devices device w (piece :: rest) w''

variable (devices : Devices (StateM ω) δ) (device : δ)

/-- A device that does not take all pieces refuses one of them, and has taken those in front. -/
theorem takes_or_refuses (parts : List (List UInt8)) :
    ∀ w, (∃ w', devices.Takes device w parts w') ∨
      ∃ before piece rest w' fault w'', parts = before ++ piece :: rest ∧
        devices.Takes device w before w' ∧
        (devices.send device piece).run w' = (some fault, w'') := by
  induction parts with
  | nil => exact fun w => .inl ⟨w, .nil w⟩
  | cons first rest ih =>
    intro w
    obtain ⟨answer, w', hanswer⟩ : ∃ answer w', (devices.send device first).run w = (answer, w') :=
      ⟨_, _, rfl⟩
    cases answer with
    | some fault => exact .inr ⟨[], first, rest, w, fault, w', rfl, .nil w, hanswer⟩
    | none =>
      rcases ih w' with ⟨w'', htakes⟩ | ⟨before, piece, behind, w₁, fault, w₂, rfl, htakes, hfault⟩
      · exact .inl ⟨w'', .cons hanswer htakes⟩
      · exact .inr
          ⟨first :: before, piece, behind, w₁, fault, w₂, rfl, .cons hanswer htakes, hfault⟩

end Devices

namespace Transport

open Devices

/-! ## Pieces -/

section Pieces

variable {size : Nat} {bytes : List UInt8}

theorem pieces_flatten (hsize : 0 < size) : (pieces size bytes).flatten = bytes := by
  fun_induction pieces size bytes with
  | case1 => rfl
  | case2 b rest hzero => exact absurd hzero (by omega)
  | case3 b rest hzero ih =>
    rw [List.flatten_cons, ih, List.cons_append, List.take_append_drop]

theorem of_mem_pieces {piece : List UInt8} (h : piece ∈ pieces size bytes) :
    piece ≠ [] ∧ piece.length ≤ size := by
  fun_induction pieces size bytes with
  | case1 => cases h
  | case2 b rest hzero => cases h
  | case3 b rest hzero ih =>
    rcases List.mem_cons.1 h with rfl | hrest
    · refine ⟨List.cons_ne_nil _ _, ?_⟩
      rw [List.length_cons, List.length_take]
      omega
    · exact ih hrest

end Pieces

def parts (t : Transport δ) (bytes : List UInt8) : List (List UInt8) :=
  pieces t.pieceSize.toNat bytes

/-! ## Handing over -/

section Sent

variable (devices : Devices (StateM ω) δ) (finishes : δ → Bool) {device : δ}

theorem records_sendAll (parts : List (List UInt8)) :
    Records (sendAll ((devices.recorded finishes).send device) parts)
      (sendAll (devices.send device) parts) := by
  induction parts with
  | nil => exact records_pure none
  | cons piece rest ih =>
    refine records_bind (records_noted _ _) fun answer => ?_
    cases answer with
    | some fault => exact records_pure _
    | none => exact ih

theorem sendAll_taken {w w' : ω} {piece : List UInt8}
    (h : (devices.send device piece).run w = (none, w')) (rest : List (List UInt8))
    (record : List Request) :
    ((sendAll ((devices.recorded finishes).send device) (piece :: rest)).run record).run w =
      ((sendAll ((devices.recorded finishes).send device) rest).run
        (record ++ [.taken piece])).run w' := by
  rw [sendAll, StateT.run_bind, StateT.run_bind, run_send devices finishes h]
  rfl

theorem sendAll_refused {w w' : ω} {piece : List UInt8} {fault : Fault}
    (h : (devices.send device piece).run w = (some fault, w')) (rest : List (List UInt8))
    (record : List Request) :
    ((sendAll ((devices.recorded finishes).send device) (piece :: rest)).run record).run w =
      ((some fault, record ++ [.piece piece (some fault)]), w') := by
  rw [sendAll, StateT.run_bind, StateT.run_bind, run_send devices finishes h]
  rfl

theorem sendAll_append {w w' : ω} {before : List (List UInt8)}
    (h : devices.Takes device w before w') (rest : List (List UInt8)) :
    ∀ record,
      ((sendAll ((devices.recorded finishes).send device) (before ++ rest)).run record).run w =
        ((sendAll ((devices.recorded finishes).send device) rest).run
          (record ++ before.map .taken)).run w' := by
  induction h with
  | nil w =>
    intro record
    rw [List.map_nil, List.append_nil, List.nil_append]
  | @cons w w' w'' piece before hpiece _ ih =>
    intro record
    rw [List.cons_append, sendAll_taken devices finishes hpiece, ih, List.append_assoc,
      List.map_cons, List.singleton_append]

end Sent

/-! ## Writing -/

def written (devices : Devices (StateM ω) δ) (finishes : δ → Bool) (t : Transport δ)
    (bytes : List UInt8) (w : ω) : (Option Fault × List Request) × ω :=
  ((t.write (devices.recorded finishes) bytes).run []).run w

section Written

variable (devices : Devices (StateM ω) δ) (finishes : δ → Bool) {t : Transport δ}
  {bytes : List UInt8} {w w' w'' : ω}

theorem records_write
    (hidle : finishes t.device = false → devices.flush t.device = pure none) :
    Records (t.write (devices.recorded finishes) bytes) (t.write devices bytes) := by
  have hflush : Records ((devices.recorded finishes).flush t.device) (devices.flush t.device) := by
    cases hfinishes : finishes t.device with
    | true =>
      rw [devices.flush_recorded hfinishes]
      exact records_noted _ _
    | false =>
      rw [devices.flush_unrecorded hfinishes, hidle hfinishes]
      exact records_pure _
  unfold write
  split
  · exact records_pure _
  · refine records_bind (records_sendAll devices finishes _) fun answer => ?_
    cases answer with
    | some fault => exact records_pure _
    | none =>
      cases t.medium with
      | socket => exact records_pure _
      | printer => exact records_bind hflush fun _ => records_pure _

theorem sendAll_parts (h : devices.Takes t.device w (t.parts bytes) w') :
    ((sendAll ((devices.recorded finishes).send t.device)
      (pieces t.pieceSize.toNat bytes)).run []).run w =
        ((none, (t.parts bytes).map .taken), w') := by
  have hbehind := sendAll_append devices finishes h [] []
  rwa [List.append_nil, List.nil_append] at hbehind

/-- Where nothing can be asked to finish, all is done with the last piece. -/
theorem written_taken (hsize : 1 ≤ t.pieceSize)
    (htakes : devices.Takes t.device w (t.parts bytes) w')
    (hasked : t.medium = .socket ∨ finishes t.device = false) :
    t.written devices finishes bytes w = ((none, (t.parts bytes).map .taken), w') := by
  have hsent := sendAll_parts devices finishes htakes
  unfold written write
  rw [if_neg (by omega), StateT.run_bind, StateT.run_bind, hsent]
  rcases hasked with hsocket | hnever
  · rw [hsocket]
    rfl
  · rw [devices.flush_unrecorded hnever]
    cases t.medium with
    | socket => rfl
    | printer => rfl

theorem written_finished (hsize : 1 ≤ t.pieceSize)
    (htakes : devices.Takes t.device w (t.parts bytes) w') (hmedium : t.medium = .printer)
    (hfinishes : finishes t.device = true) {answer : Option Fault}
    (hanswer : (devices.flush t.device).run w' = (answer, w'')) :
    t.written devices finishes bytes w =
      ((answer.map t.writeFault, (t.parts bytes).map .taken ++ [.finish answer]), w'') := by
  have hsent := sendAll_parts devices finishes htakes
  have hfinish := run_noted hanswer .finish ((t.parts bytes).map .taken)
  unfold written write
  rw [if_neg (by omega), StateT.run_bind, StateT.run_bind, hsent, hmedium,
    devices.flush_recorded hfinishes]
  exact congrArg (fun r => ((r.1.1.map t.writeFault, r.1.2), r.2)) hfinish

/-- Nothing is asked of a device behind a piece that it refuses. -/
theorem written_refused (hsize : 1 ≤ t.pieceSize) {before rest : List (List UInt8)}
    {piece : List UInt8} {fault : Fault} (hparts : t.parts bytes = before ++ piece :: rest)
    (htakes : devices.Takes t.device w before w')
    (hfault : (devices.send t.device piece).run w' = (some fault, w'')) :
    t.written devices finishes bytes w =
      ((some (t.writeFault fault), before.map .taken ++ [.piece piece (some fault)]), w'') := by
  have hsent : ((sendAll ((devices.recorded finishes).send t.device)
      (pieces t.pieceSize.toNat bytes)).run []).run w =
        ((some fault, before.map .taken ++ [.piece piece (some fault)]), w'') := by
    rw [← parts, hparts, sendAll_append devices finishes htakes,
      sendAll_refused devices finishes hfault, List.nil_append]
  unfold written write
  rw [if_neg (by omega), StateT.run_bind, StateT.run_bind, hsent]
  rfl

/-- However it ends, a device has got the bytes or some of them from the front. -/
theorem written_received (hsize : 1 ≤ t.pieceSize) (bytes : List UInt8) (w : ω) :
    (received (t.written devices finishes bytes w).1.2).flatten <+: bytes ∧
      ((t.written devices finishes bytes w).1.1 = none →
        (received (t.written devices finishes bytes w).1.2).flatten = bytes) := by
  have hbytes : (t.parts bytes).flatten = bytes := pieces_flatten (by omega)
  rcases devices.takes_or_refuses t.device (t.parts bytes) w with
    ⟨w', htakes⟩ | ⟨before, piece, rest, w', fault, w'', hparts, htakes, hfault⟩
  · have hall : received (t.written devices finishes bytes w).1.2 = t.parts bytes := by
      cases hmedium : t.medium with
      | socket =>
        rw [written_taken devices finishes hsize htakes (.inl hmedium)]
        exact received_taken _
      | printer =>
        cases hfinishes : finishes t.device with
        | false =>
          rw [written_taken devices finishes hsize htakes (.inr hfinishes)]
          exact received_taken _
        | true =>
          rw [written_finished devices finishes hsize htakes hmedium hfinishes rfl]
          exact received_behind _ rfl
    rw [hall, hbytes]
    exact ⟨List.prefix_refl _, fun _ => rfl⟩
  · rw [written_refused devices finishes hsize hparts htakes hfault]
    refine ⟨?_, nofun⟩
    dsimp only
    rw [received_behind _ rfl, ← hbytes, hparts, List.flatten_append]
    exact List.prefix_append _ _

end Written

/-- A device that has run out of time is reported as such, every other fault of it as a failure. -/
theorem writeFault_system (t : Transport δ) (kind : SystemFault) (message : Text) :
    t.writeFault (.system kind message) = .print
      (if kind = .timedOut ∨ kind = .serialTimeout ∧ t.medium = .printer then
        .of .timeout ("write to " ++ t.label ++ " timed out")
      else .of .ioError ("write to " ++ t.label ++ " failed: " ++ message)) := by
  obtain ⟨device, medium, label, writeTimeout, pieceSize⟩ := t
  cases medium with
  | printer => cases kind <;> rfl
  | socket => cases kind <;> rfl

/-- A transport that writes bytes asks its device to take them in pieces of the size that is set,
none of which is empty, and behind the last one to finish if it can.  A piece that is refused is
the last thing that it is asked.  What has been taken until then is the bytes from the front, and
what the transport reports is made of what the device has answered in the end.  The record makes
no difference to that. -/
theorem write_delivers (devices : Devices (StateM ω) δ) (finishes : δ → Bool) (t : Transport δ)
    (hsize : 1 ≤ t.pieceSize) (bytes : List UInt8) (w : ω) :
    ((t.parts bytes).flatten = bytes ∧
      ∀ piece ∈ t.parts bytes, piece ≠ [] ∧ (piece.length : Int) ≤ t.pieceSize) ∧
    ((received (t.written devices finishes bytes w).1.2).flatten <+: bytes ∧
      ((t.written devices finishes bytes w).1.1 = none →
        (received (t.written devices finishes bytes w).1.2).flatten = bytes)) ∧
    (∀ w', devices.Takes t.device w (t.parts bytes) w' →
      (t.medium = .socket ∨ finishes t.device = false →
        t.written devices finishes bytes w = ((none, (t.parts bytes).map .taken), w')) ∧
      (t.medium = .printer → finishes t.device = true →
        ∀ answer w'', (devices.flush t.device).run w' = (answer, w'') →
          t.written devices finishes bytes w =
            ((answer.map t.writeFault, (t.parts bytes).map .taken ++ [.finish answer]), w''))) ∧
    (∀ before piece rest w' fault w'', t.parts bytes = before ++ piece :: rest →
      devices.Takes t.device w before w' →
      (devices.send t.device piece).run w' = (some fault, w'') →
      t.written devices finishes bytes w =
        ((some (t.writeFault fault), before.map .taken ++ [.piece piece (some fault)]), w'')) ∧
    (∀ kind message, t.writeFault (.system kind message) = .print
      (if kind = .timedOut ∨ kind = .serialTimeout ∧ t.medium = .printer then
        .of .timeout ("write to " ++ t.label ++ " timed out")
      else .of .ioError ("write to " ++ t.label ++ " failed: " ++ message))) ∧
    ((finishes t.device = false → devices.flush t.device = pure none) →
      (t.write devices bytes).run w =
        ((t.written devices finishes bytes w).1.1, (t.written devices finishes bytes w).2)) := by
  refine ⟨⟨pieces_flatten (by omega), fun piece hpiece => ?_⟩,
    written_received devices finishes hsize bytes w, fun w' htakes => ⟨?_, ?_⟩, ?_,
    t.writeFault_system, fun hidle => (records_write devices finishes hidle [] w).symm⟩
  · obtain ⟨hne, hlength⟩ := of_mem_pieces hpiece
    exact ⟨hne, by omega⟩
  · exact written_taken devices finishes hsize htakes
  · intro hmedium hfinishes answer w'' hanswer
    exact written_finished devices finishes hsize htakes hmedium hfinishes hanswer
  · intro before piece rest w' fault w'' hparts htakes hfault
    exact written_refused devices finishes hsize hparts htakes hfault

def fused : Devices (StateM Nat) Unit where
  openNetwork _ _ _ := pure (.ok ())
  openSerial _ _ _ := pure (.ok ())
  socket := pure (some ())
  limit _ _ := pure ()
  connect _ _ _ := pure none
  send _ _
    | 0 => (some (.system .serialTimeout "Write timeout"), 0)
    | charges + 1 => (none, charges)
  flush _ := pure (some (.system .brokenPipe "Broken pipe"))
  shutdown _ := pure none
  close _ := pure ()

def till : Transport Unit :=
  { device := (), medium := .printer, label := "serial:COM5".toText, pieceSize := 2 }

theorem till_parts : till.parts [1, 2, 3, 4, 5] = [[1, 2], [3, 4], [5]] := by
  simp [parts, till, pieces]

theorem write_delivers_till :
    1 ≤ till.pieceSize ∧ till.parts [1, 2, 3, 4, 5] = [[1, 2], [3, 4], [5]] ∧
      till.written fused (fun _ => true) [1, 2, 3, 4, 5] 3 =
        ((some (.print (.of .ioError "write to serial:COM5 failed: Broken pipe")),
          [.taken [1, 2], .taken [3, 4], .taken [5],
            .finish (some (.system .brokenPipe "Broken pipe"))]), 0) ∧
      till.written fused (fun _ => false) [1, 2, 3, 4, 5] 3 =
        ((none, [.taken [1, 2], .taken [3, 4], .taken [5]]), 0) ∧
      till.written fused (fun _ => true) [1, 2, 3, 4, 5] 1 =
        ((some (.print (.of .timeout "write to serial:COM5 timed out")),
          [.taken [1, 2], .piece [3, 4] (some (.system .serialTimeout "Write timeout"))]), 0) := by
  have htakes : fused.Takes () 3 (till.parts [1, 2, 3, 4, 5]) 0 := by
    rw [till_parts]
    exact .cons rfl (.cons rfl (.cons rfl (.nil 0)))
  have hfinished := (write_delivers fused (fun _ => true) till (by decide) [1, 2, 3, 4, 5] 3).2.2.1
    0 htakes
  have htaken := (write_delivers fused (fun _ => false) till (by decide) [1, 2, 3, 4, 5] 3).2.2.1
    0 htakes
  have hrefused := (write_delivers fused (fun _ => true) till (by decide) [1, 2, 3, 4, 5] 1).2.2.2.1
    [[1, 2]] [3, 4] [[5]] 0 (.system .serialTimeout "Write timeout") 0 till_parts
    (.cons rfl (.nil 0)) rfl
  refine ⟨by decide, till_parts, ?_, ?_, ?_⟩
  · rw [hfinished.2 rfl rfl _ _ rfl, till_parts]
    rfl
  · rw [htaken.1 (.inr rfl), till_parts]
    rfl
  · rw [hrefused]
    rfl

end Transport
end ThermalPrint
