import ThermalPrint.Proofs.Fault
import ThermalPrint.Proofs.Session.Leads
import ThermalPrint.Transport.Device

/-
Why a transport could not be opened.  Devices may fail in any way at each of their operations, and
what nobody handles ends the opening as it is; still there is a reason, whatever the address.
-/

namespace ThermalPrint

/-- A fault with a reason to it. -/
def Fault.Telling (f : Fault) : Prop := f.Made ∧ f ≠ .print (.unreachable "")

namespace Fault

theorem telling_below {f : Fault} (h : f.isPrintError = false) : f.Telling := by
  cases f with
  | print e => cases h
  | system kind message => exact ⟨trivial, nofun⟩
  | value kind message => exact ⟨trivial, nofun⟩

theorem telling_unreachable {reason : Text} (h : reason ≠ []) :
    Telling (.print (.unreachable reason)) := by
  refine ⟨.unreachable reason, fun hsame => h ?_⟩
  have hreason := congrArg PrintError.reason? (Fault.print.inj hsame)
  rw [PrintError.unreachable_reason, PrintError.unreachable_reason] at hreason
  exact Option.some.inj hreason

theorem telling_timeout (message : Text) : Telling (.print (.of .timeout message)) := by
  refine ⟨.plain .timeout (some message) nofun, fun hsame => ?_⟩
  have hkind : (PrintError.of .timeout message).kind = .deviceUnreachable := by
    rw [Fault.print.inj hsame]
    rfl
  rw [PrintError.of_kind] at hkind
  cases hkind

end Fault

theorem AddressFault.reason_ne (f : AddressFault) : f.reason ≠ [] := by
  cases f with
  | channelOutOfRange n =>
    simp [reason]
  | portOutOfRange n =>
    simp [reason]
  | noBaudRate n => simp [reason]
  | noHostName host => simp [reason]
  | unsupported address =>
    cases address with
    | none => exact nofun
    | some t => simp [reason]

variable {ω δ α β : Type}

/-- What is done ends with a result of some kind, or with a fault that has a reason. -/
def Yields (x : ExceptT Fault (StateM ω) α) (P : α → Prop) : Prop :=
  Gives x.run fun r => match r with
    | .ok a => P a
    | .error f => f.Telling

section Yields

variable {P : α → Prop} {Q : β → Prop}

theorem yields_pure {a : α} (h : P a) : Yields (pure a : ExceptT Fault (StateM ω) α) P :=
  fun _ => h

theorem yields_bind {x : ExceptT Fault (StateM ω) α} {f : α → ExceptT Fault (StateM ω) β}
    (hx : Yields x P) (hf : ∀ a, P a → Yields (f a) Q) : Yields (x >>= f) Q := by
  intro w
  have hresult := hx w
  rw [ExceptT.run_bind, StateT.run_bind]
  generalize x.run.run w = ended at hresult ⊢
  obtain ⟨r, w'⟩ := ended
  cases r with
  | ok a => exact hf a hresult w'
  | error f => exact hresult

end Yields

/-- Devices that may fail whatever they are asked, so that nobody handles it, in a world of their
own. -/
abbrev Hardware (ω δ : Type) : Type := Devices (ExceptT Fault (StateM ω)) δ

/-- Whatever goes wrong with devices, they do not leave out themselves why a printer cannot be
reached. -/
structure Hardware.Telling (hardware : Hardware ω δ) : Prop where
  openNetwork : ∀ host port seconds, Yields (hardware.openNetwork host port seconds) fun _ => True
  openSerial : ∀ port baud seconds, Yields (hardware.openSerial port baud seconds) fun _ => True
  socket : Yields hardware.socket fun _ => True
  limit : ∀ device seconds, Yields (hardware.limit device seconds) fun _ => True
  connect : ∀ device mac channel, Yields (hardware.connect device mac channel) fun fault? =>
    ∀ f, fault? = some f → f.Telling
  close : ∀ device, Yields (hardware.close device) fun _ => True

namespace Transport

/-- A transport has been opened, or there is a reason why it has not. -/
def Answered (answer : Except Fault (Transport δ)) : Prop := ∀ f, answer = .error f → f.Telling

theorem answered_ok (t : Transport δ) : Answered (.ok t) := nofun

theorem answered_error {f : Fault} (h : f.Telling) :
    Answered (.error f : Except Fault (Transport δ)) := by
  rintro _ ⟨⟩
  exact h

theorem telling_place (place message : Text) :
    (Fault.print (.unreachable (place ++ ": " ++ message))).Telling :=
  Fault.telling_unreachable (by simp)

section Opened

variable {hardware : Hardware ω δ} (h : hardware.Telling) (seconds : Option Float)

include h

theorem openNetwork_answered (host : Text) (port : Nat) :
    Yields (openNetwork hardware host port seconds) Answered := by
  refine yields_bind (h.openNetwork host port seconds) fun opened? _ => ?_
  split
  · exact yields_pure (answered_ok _)
  · exact yields_pure (answered_error (Fault.telling_timeout _))
  · exact yields_pure (answered_error (telling_place _ _))

theorem openSerial_answered (port : Text) (baud : Nat) :
    Yields (openSerial hardware port baud seconds) Answered := by
  refine yields_bind (h.openSerial port baud seconds) fun opened? _ => ?_
  split
  · exact yields_pure (answered_ok _)
  · exact yields_pure (answered_error (telling_place _ _))

theorem openRfcomm_answered (mac : Text) (channel : Nat) :
    Yields (openRfcomm hardware mac channel seconds) Answered := by
  refine yields_bind h.socket fun device? _ => ?_
  split
  · exact yields_pure (answered_error (Fault.telling_unreachable (by decide)))
  · rename_i device
    refine yields_bind (h.limit device seconds) fun _ _ => ?_
    refine yields_bind (h.connect device mac channel) fun fault? hfault => ?_
    split
    · exact yields_pure (answered_ok _)
    · refine yields_bind (h.close device) fun _ _ => ?_
      exact yields_pure (answered_error (Fault.telling_timeout _))
    · refine yields_bind (h.close device) fun _ _ => ?_
      exact yields_pure (answered_error (telling_place _ _))
    · exact yields_pure (answered_error (hfault _ rfl))

theorem openAt_answered (address : Option Text) :
    Yields (openAt hardware address seconds) Answered := by
  unfold openAt
  split
  · rename_i fault _
    exact yields_pure (answered_error (Fault.telling_unreachable fault.reason_ne))
  · exact openRfcomm_answered h seconds _ _
  · exact openSerial_answered h seconds _ _
  · exact openNetwork_answered h seconds _ _

end Opened

end Transport
end ThermalPrint
