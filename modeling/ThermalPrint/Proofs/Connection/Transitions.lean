import ThermalPrint.Proofs.Fault
import ThermalPrint.Session.Connection

/-
When a connection takes each of its transitions, and to what.
-/

namespace ThermalPrint

namespace Fault

/-- An error of the stream: one that ends the connection. -/
def OfStream (f : Fault) : Prop := f.isA .ioError = true ∨ f.isSystem = true

theorem OfStream.not_spared {f : Fault} (h : f.OfStream) :
    (!(f.isA .ioError || f.isSystem)) = false := by
  rcases h with h | h
  · simp [h]
  · simp [h]

theorem isA_ioError_of_timeout {f : Fault} (h : f.isA .timeout = true) : f.isA .ioError = true := by
  cases f with
  | print e =>
    have hkind : ∀ kind : ErrorKind, kind.isA .timeout = true → kind.isA .ioError = true := by
      intro kind
      cases kind <;> decide
    exact hkind e.kind h
  | system kind message => cases h
  | value kind message => cases h

def endState (f : Fault) : ConnectionState :=
  if f.isA .timeout then .failed timeoutReason else .idle

theorem endState_isOver (f : Fault) : f.endState.isOver = true := by
  by_cases h : f.isA .timeout = true
  · simp [endState, h, ConnectionState.isOver]
  · simp [endState, h, ConnectionState.isOver]

end Fault

namespace Connection

variable {τ : Type} {c c' : Connection τ} {e : PrintError} {t : τ}

theorem dial_ok {address : Text} (h : c.dial address = .ok c') :
    c.state.isOver = true ∧ c' = { c with state := .connecting, address := some address } := by
  unfold dial at h
  split at h
  · cases h
  · cases h
  · rename_i hconnecting hconnected
    cases h
    refine ⟨?_, rfl⟩
    cases hs : c.state with
    | idle => rfl
    | failed reason => rfl
    | connecting => exact absurd hs hconnecting
    | connected => exact absurd hs hconnected

theorem dial_over (h : c.state.isOver = true) (address : Text) :
    c.dial address = .ok { c with state := .connecting, address := some address } := by
  unfold dial
  cases hs : c.state with
  | idle => rfl
  | failed reason => rfl
  | connecting => simp [hs, ConnectionState.isOver] at h
  | connected => simp [hs, ConnectionState.isOver] at h

theorem dial_error {address : Text} (h : c.dial address = .error e) :
    (c.state = .connecting ∧ e.kind = .alreadyConnecting) ∨
      (c.state = .connected ∧ e.kind = .alreadyConnected) := by
  unfold dial at h
  split at h
  · rename_i hs
    cases h
    exact .inl ⟨hs, PrintError.of_kind _ _⟩
  · rename_i hs
    cases h
    exact .inr ⟨hs, PrintError.of_kind _ _⟩
  · cases h

theorem hangUp_some (h : c.hangUp = .ok (some c')) : c' = c.release .idle := by
  unfold hangUp at h
  split at h
  · cases h
  · cases h
  · cases h
    rfl

theorem hangUp_ok {released : Option (Connection τ)} (h : c.hangUp = .ok released) :
    c.state ≠ .connecting := by
  intro hs
  unfold hangUp at h
  rw [hs] at h
  cases h

theorem hangUp_error (h : c.hangUp = .error e) :
    c.state = .connecting ∧ e.kind = .disconnectError := by
  unfold hangUp at h
  split at h
  · rename_i hs
    cases h
    exact ⟨hs, PrintError.of_kind _ _⟩
  · cases h
  · cases h

theorem claim_ok (h : c.claim = .ok t) : c.state = .connected ∧ c.transport = some t := by
  unfold claim at h
  split at h
  · rename_i hs ht
    cases h
    exact ⟨hs, ht⟩
  · cases h

theorem claim_error (h : c.claim = .error e) :
    (c.state = .connected → c.transport = none) ∧
      e = .of .notConnected s!"printer is {c.state.word}" := by
  unfold claim at h
  split at h
  · cases h
  · rename_i hnot
    cases h
    refine ⟨fun hs => ?_, rfl⟩
    cases ht : c.transport with
    | none => rfl
    | some t => exact absurd ht (hnot t hs)

/-- A connection that is up can be ended, and is not begun again. -/
theorem claim_hangUp (h : c.claim = .ok t) : c.hangUp = .ok (some (c.release .idle)) := by
  unfold hangUp
  rw [(claim_ok h).1]

theorem claim_dial (h : c.claim = .ok t) (address : Text) : ∃ e, c.dial address = .error e := by
  unfold dial
  rw [(claim_ok h).1]
  exact ⟨_, rfl⟩

/-- A write that fails drops the connection to the state of its fault, or leaves it as it is. -/
theorem writeFailure_dropTo {generation : Nat} {f : Fault} {s : ConnectionState}
    (h : (c.writeFailure generation f).dropTo = some s) : s = f.endState := by
  unfold writeFailure at h
  unfold Fault.endState
  split at h
  · cases h
  · split at h
    · cases h
    · split at h
      · rename_i htimeout
        rw [if_pos htimeout]
        exact (Option.some.inj h).symm
      · rename_i htimeout
        rw [if_neg htimeout]
        exact (Option.some.inj h).symm

theorem writeFailure_isOver {generation : Nat} {f : Fault} {s : ConnectionState}
    (h : (c.writeFailure generation f).dropTo = some s) : s.isOver = true := by
  rw [writeFailure_dropTo h]
  exact f.endState_isOver

/-- What a write that failed is reported as: the fault itself, or an error of the stream. -/
theorem writeFailure_fault (c : Connection τ) (generation : Nat) (f : Fault) :
    (c.writeFailure generation f).fault = f ∨
      ∃ e : PrintError, (c.writeFailure generation f).fault = .print e ∧
        (e.kind = .connectionLost ∨ e.kind = .ioError) := by
  unfold writeFailure
  split
  · exact .inl rfl
  · split
    · exact .inr ⟨_, rfl, .inl (PrintError.of_kind _ _)⟩
    · split
      · exact .inl rfl
      · by_cases hf : f.isA .ioError = true
        · rw [if_pos hf]
          exact .inl rfl
        · rw [if_neg hf]
          exact .inr ⟨_, rfl, .inr (PrintError.of_kind _ _)⟩

/-- The fault of a write is nothing to a connection of another generation. -/
theorem writeFailure_lost {generation : Nat} {f : Fault} (h : f.OfStream)
    (hgeneration : generation ≠ c.generation) : c.writeFailure generation f =
      ⟨.print (.of .connectionLost "connection was closed during the write"), none⟩ := by
  rw [writeFailure, h.not_spared, if_neg Bool.false_ne_true, if_pos hgeneration]

theorem writeFailure_own {f : Fault} (h : f.OfStream) :
    ∃ f', c.writeFailure c.generation f = ⟨f', some f.endState⟩ ∧
      (f.isA .timeout = true → f' = f) ∧ f'.isA .ioError = true := by
  rw [writeFailure, h.not_spared, if_neg Bool.false_ne_true, if_neg (by simp), Fault.endState]
  by_cases htimeout : f.isA .timeout = true
  · rw [if_pos htimeout, if_pos htimeout]
    exact ⟨f, rfl, fun _ => rfl, Fault.isA_ioError_of_timeout htimeout⟩
  · rw [if_neg htimeout, if_neg htimeout]
    refine ⟨_, rfl, fun h => absurd h htimeout, ?_⟩
    by_cases hio : f.isA .ioError = true
    · rw [if_pos hio]
      exact hio
    · rw [if_neg hio, Fault.isA, PrintError.of_kind]
      rfl

end Connection

/-- What an opening that failed is reported as: the fault itself, or a printer that cannot be
reached. -/
theorem OpeningFailure.of_fault (f : Fault) :
    (OpeningFailure.of f).fault = f ∨
      ∃ reason, (OpeningFailure.of f).fault = .print (.unreachable reason) := by
  unfold OpeningFailure.of
  dsimp only
  split
  · split
    · exact .inl rfl
    · split
      · exact .inl rfl
      · split
        · exact .inl rfl
        · exact .inr ⟨_, rfl⟩
  · exact .inr ⟨_, rfl⟩

end ThermalPrint
