import Mathlib.Data.List.TakeWhile
import ThermalPrint.Proofs.Encode.Printed
import ThermalPrint.Proofs.Fault

/-
How a job comes to have no bytes.  In a code page that has a place for every character, on a line
whose characters can be counted, and with whole characters in every code, whatever is wrong is
reported as an error of printing.  Numbers are no reason to fail: they are brought within bounds.
-/

namespace ThermalPrint

theorem Utf8.encode_of_whole {t : Text} (h : ∀ c ∈ t, c.isHalf = false) :
    Utf8.encode t = .ok (t.flatMap Utf8.bytesOf) := by
  have hdrop : t.dropWhile (fun c => !c.isHalf) = [] :=
    List.dropWhile_eq_nil_iff.2 fun c hc => by rw [h c hc]; rfl
  have hnone : Utf8.unpaired? t = none := by
    rw [unpaired?, halvesFrom?, hdrop]
  rw [encode, hnone]

namespace Encode

/-- What has failed is reported as an error of printing. -/
def Reported {α : Type} (x : Except EncodeFault α) : Prop :=
  ∀ fault, x = .error fault → fault.toFault.isPrintError = true

theorem reported_ok {α : Type} (a : α) : Reported (.ok a) := fun _ => nofun

theorem reported_error {α : Type} {fault : EncodeFault} (h : fault.toFault.isPrintError = true) :
    Reported (.error fault : Except EncodeFault α) := by
  intro other hother
  cases hother
  exact h

theorem Reported.map {α β : Type} {x : Except EncodeFault α} (h : Reported x) (f : α → β) :
    Reported (x.map f) := fun fault hfault => h fault (Outcome.map_error_iff.1 hfault)

section Directives

variable {config : SessionConfig}

theorem textLine_reported (hset : config.charset = "cp437")
    (hroom : config.charsPerLine ≤ Text.room) (line : AlignedText) :
    Reported (textLine config line) := by
  obtain ⟨commands, hcommands⟩ := @textLine_isOk config hset line (.inl hroom)
  rw [hcommands]
  exact reported_ok commands

theorem rule_reported (hset : config.charset = "cp437") (hroom : config.charsPerLine ≤ Text.room)
    (mark : Text) : Reported (rule config mark) := by
  unfold rule
  rw [lengthFault?_short hroom]
  dsimp only
  rw [textCommand_eq hset]
  exact reported_ok _

theorem image_reported (raster : Raster) (align : Align) :
    Reported (image config raster align) := by
  unfold image
  split
  · exact reported_ok _
  · exact reported_error rfl

theorem qrCode_reported {data : Text} (hdata : ∀ c ∈ data, c.isHalf = false) (size : Int)
    (align : Align) : Reported (qrCode data size align) := by
  unfold qrCode
  rw [Utf8.encode_of_whole hdata]
  show Reported (if _ then _ else _)
  split
  · exact reported_error rfl
  · split
    · exact reported_error rfl
    · exact reported_ok _

theorem payload_reported (symbology : Text) (given data : Text) :
    Reported (payload symbology given data) := by
  have hsends := payload_sends symbology given data
  generalize payload symbology given data = x at hsends ⊢
  cases hsends with
  | ean13 | code128 => exact reported_ok _
  | notEan13 | notCode128 | longCode128 | unsupported => exact reported_error rfl

theorem barcode_reported (symbology : Text) {data : Text}
    (hdata : ∀ c ∈ data, c.isHalf = false) (height : Int) (align : Align) :
    Reported (barcode symbology data height align) := by
  unfold barcode
  dsimp only
  split
  · exact qrCode_reported hdata 6 align
  · exact (payload_reported _ _ _).map _

theorem directive_reported (hset : config.charset = "cp437")
    (hroom : config.charsPerLine ≤ Text.room) {d : Directive}
    (hdata : ∀ c ∈ d.data, c.isHalf = false) : Reported (directive config d) := by
  cases d with
  | text line => exact textLine_reported hset hroom line
  | rule mark => exact rule_reported hset hroom mark
  | image raster align => exact image_reported raster align
  | barcode symbology data height align => exact barcode_reported symbology hdata height align
  | qrCode data size align => exact qrCode_reported hdata size align
  | lineFeed => exact reported_ok _
  | cut => exact reported_ok _

theorem job_reported (hset : config.charset = "cp437") (hroom : config.charsPerLine ≤ Text.room)
    {j : Job} (hdata : ∀ d ∈ j, ∀ c ∈ d.data, c.isHalf = false) : Reported (job config j) := by
  intro fault h
  obtain ⟨d, hd, hfault⟩ :=
    Outcome.error_of_mapM (Outcome.map_error_iff.1 (Outcome.map_error_iff.1 h))
  exact directive_reported hset hroom (hdata d hd) fault hfault

end Directives

theorem clamp_toNat {low high : Int} (hlow : 0 ≤ low) (hhigh : high < 256) (hle : low ≤ high)
    (n : Int) : ((clamp low high n).toNat : Int) = max low (min high n) := by
  rw [clamp, UInt8.toNat_ofNat']
  omega

def SizeSet (size : Int) (commands : List Command) : Prop :=
  ∃ n : UInt8, .symbol [0x31, 0x43, n] ∈ commands ∧ (n.toNat : Int) = max 1 (min 16 size)

def HeightSet (height : Int) (commands : List Command) : Prop :=
  ∃ n : UInt8, .barcodeHeight n ∈ commands ∧ (n.toNat : Int) = max 1 (min 255 height)

/-- The size or height of a code is set to what the directive says, within bounds.  A QR code that
is asked for as a barcode has no use for a height. -/
def Sized : Directive → List Command → Prop
  | .qrCode _ size _, commands => SizeSet size commands
  | .barcode symbology _ height _, commands =>
    if Text.upper symbology = "QR" then SizeSet 6 commands
    else HeightSet height commands
  | _, _ => True

section Sizes

variable {config : SessionConfig} {commands : List Command}

theorem qrCode_sized {data : Text} {size : Int} {align : Align}
    (h : qrCode data size align = .ok commands) : SizeSet size commands := by
  obtain ⟨bytes, -, rfl⟩ := qrCode_ok h
  exact ⟨clamp 1 16 size, by simp, clamp_toNat (by decide) (by decide) (by decide) size⟩

theorem directive_sized {d : Directive} (h : directive config d = .ok commands) :
    Sized d commands := by
  cases d with
  | qrCode data size align => exact qrCode_sized h
  | barcode symbology data height align =>
    unfold directive barcode at h
    unfold Sized
    dsimp only at h ⊢
    split at h
    · rename_i hqr
      rw [if_pos (beq_iff_eq.1 hqr)]
      exact qrCode_sized h
    · rename_i hbars
      rw [if_neg fun hqr => hbars (beq_iff_eq.2 hqr)]
      obtain ⟨⟨system, bytes⟩, -, rfl⟩ := Outcome.map_ok h
      exact ⟨clamp 1 255 height, by simp, clamp_toNat (by decide) (by decide) (by decide) height⟩
  | _ => trivial

/-- Each directive of a job has its own commands, with its numbers within bounds. -/
theorem commands_sized {j : Job} (h : Encode.commands config j = .ok commands) :
    ∃ parts, List.Forall₂ Sized j parts ∧ commands = .reset :: parts.flatten := by
  obtain ⟨parts, hparts, rfl⟩ := Outcome.map_ok h
  exact ⟨parts, (Outcome.mapM_ok hparts).imp fun _ _ hd => directive_sized hd, rfl⟩

end Sizes

end Encode
end ThermalPrint
