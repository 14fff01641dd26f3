import ThermalPrint.Image.Reading
import ThermalPrint.Proofs.Encode.Reported
import ThermalPrint.Proofs.Receipt.Label
import ThermalPrint.Proofs.Render.Prepared

/-
How rendering fails.  Images, markup and directives fail in ways of their own, and each of these is
an error of printing that a caller is told of.  No text of an attribute, no data of a code and no
digits of an image make rendering fail in another way.
-/

namespace ThermalPrint

namespace Bitmap

/-- What rendering may be given for an image.  One that is scaled down has no more pixels than
images are decoded and cropped with, and one that cannot be decoded is at fault for its file or for
a value. -/
structure Usual (limit : Nat) (b : Bitmap) : Prop where
  decoded : ∀ s, b.decoded? = some s → s.Modest limit
  undecoded : ∀ mode width height f, b = .encoded mode width height (.error f) →
    f.isSystem = true ∨ f.isValue = true

variable {b : Bitmap} {limit : Nat}

theorem Usual.failsOutside (h : b.Usual limit) : b.FailsOutside := by
  cases b with
  | encoded mode width height decoded =>
    cases decoded with
    | ok p => trivial
    | error f =>
      show f.isPrintError = false
      cases f with
      | print e => exact absurd (h.undecoded _ _ _ _ rfl) (by rintro (h | h) <;> cases h)
      | system | value => rfl
  | _ => trivial

/-- An image that cannot be decoded, or has nothing to decode, is reported when it is prepared. -/
theorem Usual.fit_undecoded (hlimit : 0 < limit) (h : b.Usual limit) (hs : b.decoded? = none)
    {f : Fault} (hfit : b.fit limit = .error f) : f.isPrintError = true := by
  have hempty : ∀ {p : Picture}, p.size? = none → ∀ {room : Nat} {hroom : 0 < room},
      p.fit room hroom = .error f → f.isPrintError = true := by
    intro p hp room hroom hfault
    rw [Picture.fit, hp] at hfault
    cases hfault
    rfl
  unfold fit at hfit
  rw [dif_pos (show 0 < (limit : Int).toNat from hlimit)] at hfit
  cases b with
  | raster r => cases hs
  | picture p => exact hempty hs hfit
  | encoded mode width height decoded =>
    dsimp only at hfit
    split at hfit
    · cases hfit
      rfl
    · rename_i hsome
      cases decoded with
      | error fault =>
        cases hfit
        rw [decodeFault, if_pos (Bool.or_eq_true_iff.2 (h.undecoded _ _ _ _ rfl))]
        rfl
      | ok p =>
        rw [decoded?, if_neg hsome] at hs
        exact hempty hs hfit
  | foreign typeName =>
    cases hfit
    rfl

/-- An image that cannot be prepared is reported as one that cannot be had. -/
theorem Usual.fit_reported (hlimit : 0 < limit) (h : b.Usual limit) {f : Fault}
    (hfit : b.fit limit = .error f) : ∃ e, f = .print e ∧ e.kind = .invalidImage := by
  have hprint : f.isPrintError = true := by
    cases hs : b.decoded? with
    | some s =>
      obtain ⟨r, -, -, hr, -⟩ := fit_ok hlimit hs (h.decoded s hs)
      rw [hr] at hfit
      cases hfit
    | none => exact h.fit_undecoded hlimit hs hfit
  cases f with
  | print e => exact ⟨e, rfl, fit_kind h.failsOutside hfit⟩
  | system | value => cases hprint

end Bitmap

namespace Render

def failureKinds : List ErrorKind :=
  [.unknownTag, .unterminatedTag, .invalidImage, .widthMismatch, .unsupportedSymbology,
    .invalidBarcodeData]

def Known (f : Fault) : Prop := ∃ e, f = .print e ∧ e.kind ∈ failureKinds

theorem known_image {e : PrintError} (h : e.kind = .invalidImage) : Known (.print e) :=
  ⟨e, rfl, by rw [h]; decide⟩

theorem known_markup (fault : Markup.MarkupFault) : Known (.print fault.toPrintError) := by
  refine ⟨_, rfl, ?_⟩
  rw [Markup.MarkupFault.toPrintError_kind]
  split <;> decide

theorem known_encode {fault : EncodeFault} (h : fault.toFault.isPrintError = true) :
    Known fault.toFault := by
  have hkinds : ∀ kind ∈ [ErrorKind.widthMismatch, .unsupportedSymbology, .invalidBarcodeData],
      kind ∈ failureKinds := by decide
  cases hfault : fault.toFault with
  | print e => exact ⟨e, rfl, hkinds _ (EncodeFault.kind_of_toFault hfault)⟩
  | system | value =>
    rw [hfault] at h
    cases h

/-- A configuration that rendering is meant for: with the code page of printers, no wider than what
raster commands can state, and with room for the characters of a line. -/
structure Meant (config : SessionConfig) : Prop where
  charset : config.charset = "cp437"
  dots : config.dotsPerLine ≤ 524280
  chars : config.charsPerLine ≤ Text.room

section Stages

variable {config : SessionConfig} {text : Text} {options : PrintOptions}

theorem resolveImages_known (himages : ∀ name b, (name, some b) ∈ options.images →
      b.Usual config.dotsPerLine) {f : Fault}
    (h : resolveImages config options.imageOptional options.images = .error f) : Known f := by
  rcases resolveImages_error h with ⟨name, rfl⟩ | ⟨name, b, hmem, hfit⟩
  · exact known_image (PrintError.of_kind _ _)
  · obtain ⟨e, rfl, hkind⟩ := (himages name b hmem).fit_reported config.dots_pos hfit
    exact known_image hkind

theorem buildJob_refused {rasters : List (Text × Option Raster)} {fault : Markup.MarkupFault}
    (himages : resolveImages config options.imageOptional options.images = .ok rasters)
    (h : Markup.compile (handles rasters) ⟨options.imageOptional, options.cut⟩ text =
      .error fault) :
    buildJob config (.markup text) options = .error (.print fault.toPrintError) := by
  unfold buildJob
  dsimp only
  rw [himages]
  dsimp only
  rw [h]

theorem buildJob_known (himages : ∀ name b, (name, some b) ∈ options.images →
      b.Usual config.dotsPerLine) {f : Fault}
    (h : buildJob config (.markup text) options = .error f) : Known f := by
  unfold buildJob at h
  dsimp only at h
  split at h
  · rename_i fault hresolve
    cases h
    exact resolveImages_known himages hresolve
  · split at h
    · cases h
      exact known_markup _
    · cases h

theorem bytes_known (hconfig : Meant config) (htext : ∀ c ∈ text, c.isHalf = false)
    (himages : ∀ name b, (name, some b) ∈ options.images → b.Usual config.dotsPerLine) {f : Fault}
    (h : bytes config (.markup text) options = .error f) : Known f := by
  unfold bytes at h
  split at h
  · rename_i hjob
    cases h
    exact buildJob_known himages hjob
  · rename_i job hjob
    split at h
    · rename_i fault hencode
      cases h
      have hdata : ∀ d ∈ job, ∀ c ∈ d.data, c.isHalf = false := fun d hd c hc =>
        htext c (buildJob_characters hjob d hd c (List.mem_append_right _ hc)).1
      exact known_encode (Encode.job_reported hconfig.charset hconfig.chars hdata fault hencode)
    · cases h

end Stages

def torn : Bitmap := .encoded .gray 4 4 (.error (.system .general "image file is truncated"))

def sizedLine (size : Int) : Text :=
  Receipt.lines ([Receipt.codeLine .qrcode (Receipt.qrAttributes size) "x".toText] ++ [[]])

theorem bytes_longSize {config : SessionConfig} {size : Nat} (h : 10 ^ Text.digitLimit ≤ size) :
    ∃ e, bytes config (.markup (sizedLine size)) {} = .error (.print e) ∧ e.kind = .unknownTag := by
  let fault : Markup.MarkupFault :=
    .notAnInteger "qrcode".toText "size".toText (Decimal.ofInt size)
  have hdirective : ∀ content, Markup.elementDirective [] false .center .qrcode
      (Receipt.qrAttributes size) content = (.error fault : Except _ Directive).map some := by
    intro content
    rw [Receipt.qrDirective, Int.natAbs_natCast,
      if_pos ((Decimal.lt_digits_length_iff (by decide)).2 h)]
  have hcompile : Markup.compile [] ⟨false, false⟩ (sizedLine size) = .error fault :=
    Receipt.compile_codeLine (by decide) (Receipt.qrAttributes_given size) (hdirective _)
  refine ⟨fault.toPrintError, ?_, Markup.MarkupFault.toPrintError_kind _⟩
  have hjob : buildJob config (.markup (sizedLine size)) {} = .error (.print fault.toPrintError) :=
    buildJob_refused rfl hcompile
  rw [bytes, hjob]

def spread (chars : Nat) (chars_pos : 0 < chars) : SessionConfig :=
  { SessionConfig.standard with
    charsPerLine := chars
    chars_pos }

end Render
end ThermalPrint
