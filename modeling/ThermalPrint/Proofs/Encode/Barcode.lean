import ThermalPrint.Proofs.Encode.Framing
import ThermalPrint.Proofs.Encode.Reader
import ThermalPrint.Proofs.Fault
import ThermalPrint.Proofs.Text.Capital

/-
Barcodes on paper.  A printer is told the data of a barcode by one command, whose bytes stand for
the data that was asked for, and data that cannot be carried is refused.
-/

namespace ThermalPrint

def Instruction.barcode? : Instruction → Option (UInt8 × List UInt8)
  | .barcode system data => some (system, data)
  | _ => none

/-- A printer is told to print one barcode by bytes that it can read to their end. -/
def Carries (bytes : List UInt8) (system : UInt8) (data : List UInt8) : Prop :=
  ∃ instructions, Instruction.read bytes = some instructions ∧
    instructions.filterMap Instruction.barcode? = [(system, data)]

/-- A symbology is asked for by a name, in letters of any case. -/
def Named (name symbology : Text) : Prop := symbology.map CodePoint.toUpper = name

instance (name symbology : Text) : Decidable (Named name symbology) :=
  inferInstanceAs (Decidable (_ = _))

namespace Encode

/-- What has failed is reported as an error of printing of a kind. -/
def FailsAs {α : Type} (kind : ErrorKind) (x : Except EncodeFault α) : Prop :=
  ∃ fault e, x = .error fault ∧ fault.toFault = .print e ∧ e.kind = kind

theorem FailsAs.not_ok {α : Type} {kind : ErrorKind} {x : Except EncodeFault α} {a : α}
    (h : FailsAs kind x) : x ≠ .ok a := by
  obtain ⟨fault, e, rfl, -⟩ := h
  exact nofun

theorem FailsAs.map {α β : Type} {kind : ErrorKind} {x : Except EncodeFault α} (h : FailsAs kind x)
    (f : α → β) : FailsAs kind (x.map f) := by
  obtain ⟨fault, e, rfl, he⟩ := h
  exact ⟨fault, e, rfl, he⟩

theorem notEan13_fails {given data : Text} (h : ¬ IsEan13 data) :
    FailsAs .invalidBarcodeData (payload "EAN13" given data) := by
  rw [payload_ean13, if_neg h]
  exact ⟨_, _, rfl, rfl, PrintError.of_kind _ _⟩

theorem notCode128_fails {given data : Text} (h : ¬ IsCode128 data) :
    FailsAs .invalidBarcodeData (payload "CODE128" given data) := by
  obtain ⟨fault, hpayload, hfault⟩ := payload_notCode128 h
  rcases hfault with rfl | ⟨length, limit, rfl⟩
  · exact ⟨_, _, hpayload, rfl, PrintError.of_kind _ _⟩
  · exact ⟨_, _, hpayload, rfl, PrintError.of_kind _ _⟩

section Symbology

variable {symbology data : Text} {height : Int} {align : Align} {name : Text}

theorem barcode_named (h : ∀ d ∈ name, Text.IsOwnCapital d) (hbars : name ≠ "QR")
    (hname : Named name symbology) : barcode symbology data height align =
      (payload name symbology data).map fun (system, bytes) =>
        [.align align, .barcodeHeight (clamp 1 255 height), .barcodeWidth 2, .barcodeFont 0,
          .barcodeCaption 2, .barcode system bytes, .lineFeed] := by
  unfold barcode
  rw [(Text.upper_eq_iff h).2 hname]
  exact if_neg fun hqr => hbars (beq_iff_eq.1 hqr)

theorem barcode_ok {system : UInt8} {bytes : List UInt8}
    (h : ∀ d ∈ name, Text.IsOwnCapital d) (hbars : name ≠ "QR")
    (hname : Named name symbology)
    (hpayload : payload name symbology data = .ok (system, bytes)) :
    ∃ commands, barcode symbology data height align = .ok commands ∧
      Carries (streamOf commands) system bytes := by
  have hcommands : barcode symbology data height align = .ok _ :=
    (barcode_named h hbars hname).trans (congrArg (Except.map _) hpayload)
  exact ⟨_, hcommands, _, Instruction.read_stream (barcode_framed hcommands), rfl⟩

theorem barcode_fails {kind : ErrorKind} (h : ∀ d ∈ name, Text.IsOwnCapital d)
    (hbars : name ≠ "QR") (hname : Named name symbology)
    (hpayload : FailsAs kind (payload name symbology data)) :
    FailsAs kind (barcode symbology data height align) := by
  rw [barcode_named h hbars hname]
  exact hpayload.map _

theorem own_ean13 : ∀ d ∈ "EAN13".toText, Text.IsOwnCapital d := by decide

theorem own_code128 : ∀ d ∈ "CODE128".toText, Text.IsOwnCapital d := by decide

theorem own_qr : ∀ d ∈ "QR".toText, Text.IsOwnCapital d := by decide

theorem code128_ok (hname : Named "CODE128" symbology) (hdata : IsCode128 data) :
    ∃ commands body, barcode symbology data height align = .ok commands ∧
      Carries (streamOf commands) 73 (0x7B :: 0x42 :: body) ∧ CodeSetB.read body = some data := by
  obtain ⟨commands, hcommands, hcarries⟩ :=
    barcode_ok own_code128 (by decide) hname (payload_code128 hdata)
  exact ⟨commands, _, hcommands, hcarries, CodeSetB.read_escaped hdata.2.1⟩

theorem ean13_ok (hname : Named "EAN13" symbology) (hdata : IsEan13 data) :
    ∃ commands bytes, barcode symbology data height align = .ok commands ∧
      Carries (streamOf commands) 67 bytes ∧
      bytes.map (fun b => CodePoint.ofNat b.toNat) = data := by
  obtain ⟨commands, hcommands, hcarries⟩ :=
    barcode_ok own_ean13 (by decide) hname (payload_ean13.trans (if_pos hdata))
  refine ⟨commands, _, hcommands, hcarries, ofNat_asciiBytes fun c hc => ?_⟩
  have hdigit : isAsciiDigit c = true := (isAsciiDigit_eq c).trans (hdata.2 c hc)
  simp only [isAsciiDigit, Bool.and_eq_true, decide_eq_true_eq] at hdigit
  omega

theorem barcode_unsupported (hean : ¬ Named "EAN13" symbology) (hcode : ¬ Named "CODE128" symbology)
    (hqr : ¬ Named "QR" symbology) :
    barcode symbology data height align = .error (.unsupportedSymbology symbology) := by
  unfold barcode
  dsimp only
  rw [if_neg (mt beq_iff_eq.1 (mt (Text.upper_eq_iff own_qr).1 hqr)),
    payload_unsupported (mt (Text.upper_eq_iff own_ean13).1 hean)
      (mt (Text.upper_eq_iff own_code128).1 hcode)]
  rfl

end Symbology

/-- What a barcode carries is what it was asked for.  A CODE128 barcode carries its data in code set
B, and is refused exactly for data that is empty, has a character other than the printable ones of
ASCII, or is too long with its braces doubled.  An EAN-13 barcode carries its digits, and is refused
exactly for data other than twelve or thirteen of them.  There are no other symbologies but QR. -/
theorem barcode_carried (config : SessionConfig) (symbology data : Text) (height : Int)
    (align : Align) :
    let encoded := directive config (.barcode symbology data height align)
    (Named "CODE128" symbology →
      (FailsAs .invalidBarcodeData encoded ↔ ¬ IsCode128 data) ∧
        (IsCode128 data → ∃ commands body, encoded = .ok commands ∧
          Carries (streamOf commands) 73 (0x7B :: 0x42 :: body) ∧
          CodeSetB.read body = some data)) ∧
      (Named "EAN13" symbology →
        (FailsAs .invalidBarcodeData encoded ↔ ¬ IsEan13 data) ∧
          (IsEan13 data → ∃ commands bytes, encoded = .ok commands ∧
            Carries (streamOf commands) 67 bytes ∧
            bytes.map (fun b => CodePoint.ofNat b.toNat) = data)) ∧
      (¬ Named "EAN13" symbology → ¬ Named "CODE128" symbology → ¬ Named "QR" symbology →
        FailsAs .unsupportedSymbology encoded) := by
  intro encoded
  refine ⟨fun hname => ⟨⟨?_, ?_⟩, code128_ok hname⟩, fun hname => ⟨⟨?_, ?_⟩, ean13_ok hname⟩,
    fun hean hcode hqr => ?_⟩
  · intro hfails hdata
    obtain ⟨commands, body, hcommands, -⟩ := code128_ok hname hdata
    exact hfails.not_ok hcommands
  · exact fun hdata => barcode_fails own_code128 (by decide) hname (notCode128_fails hdata)
  · intro hfails hdata
    obtain ⟨commands, bytes, hcommands, -⟩ := ean13_ok hname hdata
    exact hfails.not_ok hcommands
  · exact fun hdata => barcode_fails own_ean13 (by decide) hname (notEan13_fails hdata)
  · exact ⟨_, _, barcode_unsupported hean hcode hqr, rfl, rfl⟩

theorem barcode_carried_braces :
    Named "CODE128" "Code128".toText ∧ IsCode128 "\x7b\x7bA\x7d".toText ∧
      ∃ commands body, directive .standard
          (.barcode "Code128".toText "\x7b\x7bA\x7d".toText (-1) .right) = .ok commands ∧
        Carries (streamOf commands) 73 (0x7B :: 0x42 :: body) ∧
        CodeSetB.read body = some "\x7b\x7bA\x7d".toText := by
  have hname : Named "CODE128" "Code128".toText := by decide
  have hdata : IsCode128 "\x7b\x7bA\x7d".toText := by decide
  obtain ⟨hcode, -, -⟩ :=
    barcode_carried .standard "Code128".toText "\x7b\x7bA\x7d".toText (-1) .right
  exact ⟨hname, hdata, (hcode hname).2 hdata⟩

end Encode
end ThermalPrint
