import ThermalPrint.Fault

/-
The parameters of a printer, fixed for the lifetime of a session.
-/

namespace ThermalPrint

/-- The print head's width in dots, which is also the width images are made for, the
width of the paper, the characters of a line, and the character set. -/
structure SessionConfig where
  dotsPerLine : Nat := 384
  charsPerLine : Nat := 32
  paperWidthMm : Float := 48.0
  printerDpi : Int := 203
  charset : Text := "cp437"
  dots_pos : 0 < dotsPerLine := by decide
  chars_pos : 0 < charsPerLine := by decide

namespace SessionConfig

def standard : SessionConfig := {}

def defaultCharset : Text := "cp437"

def refuse {α : Type} (field : String) : Except Fault α :=
  .error (.value .value s!"{field} must be positive")

/-- A configuration of any numbers, if those that have to be positive are. -/
def ofValues (dots chars : Int) (paperWidthMm : Float) (dpi : Int) (charset : Text) :
    Except Fault SessionConfig :=
  if hd : 0 < dots.toNat then
    if hc : 0 < chars.toNat then
      if paperWidthMm ≤ 0 then refuse "paper_width_mm"
      else .ok ⟨dots.toNat, chars.toNat, paperWidthMm, dpi, charset, hd, hc⟩
    else refuse "chars_per_line"
  else refuse "dots_per_line"

end SessionConfig
end ThermalPrint
