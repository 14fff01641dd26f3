import ThermalPrint.Proofs.Encode.Field
import ThermalPrint.Proofs.Image.Prepared
import ThermalPrint.Proofs.Markup.Named
import ThermalPrint.Proofs.Render.Stream

/-
Images from a caller to the printer.  What is prepared for the line is what the job has, what the
job has is narrow enough to be encoded, and what is encoded is as wide as the line.
-/

namespace ThermalPrint
namespace Render

open Bitmap (Becomes)
open Markup (payloads)

def depicted (images : List (Text × Option Bitmap)) : PrintSource → List Bitmap
  | .image b => [b]
  | .markup text => (payloads text).filterMap fun payload => (images.lookup payload).join

/-- All images of a source can be decoded, and markup names only such as are supplied. -/
def Decodable (images : List (Text × Option Bitmap)) : PrintSource → Prop
  | .image b => b.decoded?.isSome = true
  | .markup text => ∀ payload ∈ payloads text,
    ∃ b, images.lookup payload = some (some b) ∧ b.decoded?.isSome = true

section Resolved

variable {config : SessionConfig} {imageOptional : Bool} {images : List (Text × Option Bitmap)}
  {rasters : List (Text × Option Raster)}

/-- What is known of a handle before it is resolved decides what is known of it afterwards. -/
theorem lookup_resolved (h : resolveImages config imageOptional images = .ok rasters)
    {payload : Text} {b? : Option Bitmap} (hb : images.lookup payload = some b?) :
    ∃ r?, rasters.lookup payload = some r? ∧
      resolveImage config imageOptional payload b? = .ok r? := by
  have hall := Outcome.mapM_ok h
  clear h
  induction hall with
  | nil => cases hb
  | @cons a a' rest rest' ha hrest ih =>
    obtain ⟨name, b⟩ := a
    obtain ⟨r, hr, rfl⟩ := Outcome.map_ok ha
    rw [List.lookup_cons] at hb ⊢
    by_cases hname : payload = name
    · rw [hname, beq_self_eq_true] at hb ⊢
      cases hb
      exact ⟨r, rfl, hr⟩
    · rw [beq_false_of_ne hname] at hb ⊢
      exact ih hb

theorem lookup_supplied (rasters : List (Text × Option Raster)) (payload : Text) :
    (handles rasters).lookup payload = (rasters.lookup payload).map supplied := by
  unfold handles
  induction rasters with
  | nil => rfl
  | cons a rest ih =>
    rw [List.map_cons, List.lookup_cons, List.lookup_cons, ih]
    split <;> rfl

/-- The raster behind a handle is the image that was supplied for it, prepared. -/
theorem resolve_supplied (h : resolveImages config imageOptional images = .ok rasters)
    {payload : Text} {b : Bitmap} {s : Size} (hb : images.lookup payload = some (some b))
    (hs : b.decoded? = some s) :
    ∃ r, Becomes config.dotsPerLine b r ∧
      Markup.resolveImage (handles rasters) payload = .ok r := by
  obtain ⟨r?, hlookup, hresolve⟩ := lookup_resolved h hb
  unfold Markup.resolveImage
  rw [lookup_supplied, hlookup]
  unfold resolveImage at hresolve
  dsimp only at hresolve
  split at hresolve
  · rename_i r hfit
    cases hresolve
    exact ⟨r, Bitmap.becomes_of_fit config.dots_pos hs hfit, rfl⟩
  · -- A size that is too large is no reason to leave the image out.
    rename_i fault hfit
    obtain ⟨kind, message, rfl⟩ := Bitmap.fit_oversize config.dots_pos hs hfit
    rw [if_neg (by rw [Bool.and_eq_true]; exact fun himage => Bool.false_ne_true himage.2)]
      at hresolve
    cases hresolve

end Resolved

section Stages

variable {config : SessionConfig} {source : PrintSource} {options : PrintOptions}

theorem buildJob_image {b : Bitmap} {s : Size} (hs : b.decoded? = some s) :
    buildJob config (.image b) options = (b.fit config.dotsPerLine).map fun r =>
      .image r .center :: if options.cut then [.cut] else [] := by
  cases b with
  | foreign typeName => cases hs
  | _ =>
    unfold buildJob
    dsimp only
    split
    · rename_i hfit
      rw [hfit]
      rfl
    · rename_i hfit
      rw [hfit]
      rfl

/-- A job has the images of its source, one for each and in order, prepared for the line. -/
theorem rasters_buildJob (hsource : Decodable options.images source) {job : Job}
    (h : buildJob config source options = .ok job) :
    List.Forall₂ (Becomes config.dotsPerLine) (depicted options.images source) (rasters job) := by
  cases source with
  | markup text =>
    unfold buildJob at h
    dsimp only at h
    split at h
    · cases h
    · rename_i resolved hresolved
      split at h
      · cases h
      · rename_i hcompile
        cases h
        rw [Markup.rasters_compile hcompile, depicted, Markup.had]
        refine Outcome.forall₂_filterMap fun payload hpayload => ?_
        obtain ⟨b, hb, hdecoded⟩ := hsource payload hpayload
        obtain ⟨s, hs⟩ := Option.isSome_iff_exists.1 hdecoded
        obtain ⟨r, hr, hresolve⟩ := resolve_supplied hresolved hb hs
        exact ⟨b, r, by rw [hb]; rfl, hr, by rw [hresolve]; rfl⟩
  | image b =>
    obtain ⟨s, hs⟩ := Option.isSome_iff_exists.1 (hsource : b.decoded?.isSome = true)
    rw [buildJob_image hs] at h
    obtain ⟨r, hfit, rfl⟩ := Outcome.map_ok h
    have hone : rasters (.image r .center :: if options.cut then [.cut] else []) = [r] := by
      cases options.cut <;> rfl
    rw [hone]
    exact .cons (Bitmap.becomes_of_fit config.dots_pos hs hfit) .nil

theorem fit_not_wide {b : Bitmap} {limit : Int} {f : Fault} (houtside : b.FailsOutside)
    (h : b.fit limit = .error f) : f.isA .widthMismatch = false := by
  cases f with
  | print e =>
    rw [Fault.isA_print, Bitmap.fit_kind houtside h]
    rfl
  | system | value => rfl

/-- Images are refused because one is missing, or because one cannot be fitted to the paper. -/
theorem resolveImages_error {images : List (Text × Option Bitmap)} {imageOptional : Bool}
    {f : Fault} (h : resolveImages config imageOptional images = .error f) :
    (∃ name, f = (ImageFault.missing name).toFault) ∨
      ∃ name b, (name, some b) ∈ images ∧ b.fit config.dotsPerLine = .error f := by
  obtain ⟨⟨name, b?⟩, hmem, ha⟩ := Outcome.error_of_mapM h
  have hresolve := Outcome.map_error_iff.1 ha
  unfold resolveImage at hresolve
  split at hresolve
  · split at hresolve
    · cases hresolve
    · exact .inl ⟨name, (Except.error.inj hresolve).symm⟩
  · split at hresolve
    · cases hresolve
    · rename_i b _ fault hfit
      split at hresolve
      · cases hresolve
      · cases hresolve
        exact .inr ⟨name, b, hmem, hfit⟩

theorem resolveImages_not_wide {images : List (Text × Option Bitmap)} {imageOptional : Bool}
    {f : Fault} (hdecoders : ∀ name b, (name, some b) ∈ images → b.FailsOutside)
    (h : resolveImages config imageOptional images = .error f) :
    f.isA .widthMismatch = false := by
  rcases resolveImages_error h with ⟨name, rfl⟩ | ⟨name, b, hmem, hfit⟩
  · exact ImageFault.toFault_isA _ _
  · exact fit_not_wide (hdecoders name b hmem) hfit

theorem buildJob_not_wide {f : Fault} (hsource : Decodable options.images source)
    (hdecoders : ∀ name b, (name, some b) ∈ options.images → b.FailsOutside)
    (h : buildJob config source options = .error f) : f.isA .widthMismatch = false := by
  cases source with
  | markup text =>
    unfold buildJob at h
    dsimp only at h
    split at h
    · rename_i fault hresolve
      cases h
      exact resolveImages_not_wide hdecoders hresolve
    · split at h
      · rename_i fault _
        cases h
        rw [Fault.isA_print, Markup.MarkupFault.toPrintError_kind]
        cases fault <;> rfl
      · cases h
  | image b =>
    obtain ⟨s, hs⟩ := Option.isSome_iff_exists.1 (hsource : b.decoded?.isSome = true)
    rw [buildJob_image hs] at h
    exact fit_not_wide (Bitmap.failsOutside_of_decoded hs) (Outcome.map_error_iff.1 h)

/-- A job of prepared images has none that is too wide for the line. -/
theorem commands_not_wide {job : Job} {fault : EncodeFault}
    (hjob : ∀ r ∈ rasters job, r.width ≤ config.dotsPerLine)
    (h : Encode.commands config job = .error fault) : fault.toFault.isA .widthMismatch = false := by
  refine Bool.eq_false_iff.2 fun hwide => ?_
  obtain ⟨dots, room, rfl⟩ := EncodeFault.tooWide_of_widthMismatch hwide
  obtain ⟨d, hd, hdirective⟩ := Outcome.error_of_mapM (Outcome.map_error_iff.1 h)
  obtain ⟨r, align, rfl, hmore⟩ := Encode.directive_tooWide hdirective
  exact absurd (hjob r (mem_rasters.2 ⟨align, hd⟩)) (Nat.not_le_of_gt hmore)

theorem bytes_image {b : Bitmap} {r : Raster} (hr : Becomes config.dotsPerLine b r) :
    ∃ out, bytes config (.image b) options = .ok out := by
  obtain ⟨s, hs, hfit, hprepared⟩ := hr
  obtain ⟨commands, hcommands⟩ : ∃ commands,
      Encode.directive config (.image r .center) = .ok commands :=
    ⟨_, dif_pos hprepared.width_le⟩
  obtain ⟨all, hall⟩ : ∃ all, Encode.commands config
      (.image r .center :: if options.cut then [.cut] else []) = .ok all := by
    unfold Encode.commands
    rw [List.mapM_cons, hcommands]
    cases options.cut <;> exact ⟨_, rfl⟩
  have hjob : buildJob config (.image b) options =
      .ok (.image r .center :: if options.cut then [.cut] else []) := by
    rw [buildJob_image hs, hfit]
    rfl
  have hstream : Encode.job config (.image r .center :: if options.cut then [.cut] else []) =
      .ok (streamOf all) := by
    rw [Encode.job, hall]
    rfl
  unfold bytes
  rw [hjob]
  dsimp only
  rw [hstream]
  exact ⟨_, rfl⟩

end Stages

/-- A source is rendered with its images prepared for the line. -/
structure Fits (config : SessionConfig) (source : PrintSource) (options : PrintOptions) : Prop where
  /-- The rasters of the job are the images of the source, one for each and in order. -/
  prepared : ∀ job, buildJob config source options = .ok job →
    List.Forall₂ (Becomes config.dotsPerLine) (depicted options.images source) (rasters job)
  /-- However rendering fails, it is not for the width of an image. -/
  narrow : ∀ f, bytes config source options = .error f → f.isA .widthMismatch = false
  /-- The bytes are those of the directives, each sent within the line. -/
  sent : ∀ out, bytes config source options = .ok out → ∃ job parts,
    buildJob config source options = .ok job ∧ List.Forall₂ (Sent config.dotsPerLine) job parts ∧
      out = streamOf (.reset :: parts.flatten)
  /-- Every image of the source can be prepared, unless it has too many pixels to be scaled. -/
  possible : ∀ b ∈ depicted options.images source, ∀ s, b.decoded? = some s →
    s.Modest config.dotsPerLine → ∃ r, Becomes config.dotsPerLine b r
  /-- Such an image by itself is rendered. -/
  rendered : ∀ b s, source = .image b → b.decoded? = some s → s.Modest config.dotsPerLine →
    ∃ out, bytes config source options = .ok out

theorem images_fit (config : SessionConfig) (hdots : config.dotsPerLine ≤ 524280)
    (source : PrintSource) (options : PrintOptions) (hsource : Decodable options.images source)
    (hdecoders : ∀ name b, (name, some b) ∈ options.images → b.FailsOutside) :
    Fits config source options where
  prepared job hjob := rasters_buildJob hsource hjob
  narrow f hf := by
    unfold bytes at hf
    split at hf
    · rename_i hjob
      cases hf
      exact buildJob_not_wide hsource hdecoders hjob
    · rename_i job hjob
      split at hf
      · rename_i fault hfault
        cases hf
        refine commands_not_wide (fun r hr => ?_) (Outcome.map_error_iff.1 hfault)
        obtain ⟨b, -, hbecomes⟩ := Outcome.exists_of_forall₂ (rasters_buildJob hsource hjob) hr
        exact hbecomes.width_le
      · cases hf
  sent out hout := by
    obtain ⟨job, commands, hjob, hcommands, rfl⟩ := bytes_ok hout
    obtain ⟨parts, hparts, rfl⟩ := Encode.commands_sent hdots hcommands
    exact ⟨job, parts, hjob, hparts, rfl⟩
  possible b _ s hs hmodest := Bitmap.fit_ok config.dots_pos hs hmodest
  rendered b s hb hs hmodest := by
    obtain ⟨r, hr⟩ := Bitmap.fit_ok config.dots_pos hs hmodest
    rw [hb]
    exact bytes_image hr

def banner : Picture := ⟨.gray, 24, 3, Bytes.generate (24 * 3) fun i => UInt8.ofNat (7 * i)⟩

theorem images_fit_banner :
    let images := [("logo".toText, some (Bitmap.picture banner))]
    let text := "tea <img>logo</img> cake".toText
    Encode.narrow.dotsPerLine ≤ 524280 ∧
      Fits Encode.narrow (.markup text) ⟨images, false, true⟩ ∧
      ((buildJob Encode.narrow (.markup text) ⟨images, false, true⟩).map
        fun job => job.map Directive.rows).toOption = some [0, 2, 0, 0] ∧
      Fits Encode.narrow (.image (.picture banner)) {} ∧
      ∃ out, bytes Encode.narrow (.image (.picture banner)) {} = .ok out := by
  intro images text
  have hdots : Encode.narrow.dotsPerLine ≤ 524280 := by decide
  have hsize : (Bitmap.picture banner).decoded? = some ⟨24, 3, by decide, by decide⟩ := rfl
  have hmarkup : Decodable images (.markup text) := by
    have hnamed : payloads text = ["logo".toText] := by decide +kernel
    intro payload hpayload
    rw [hnamed, List.mem_singleton] at hpayload
    exact ⟨.picture banner, by rw [hpayload]; rfl, congrArg Option.isSome hsize⟩
  have hdecoders : ∀ name b, (name, some b) ∈ images → b.FailsOutside := by
    intro name b hmem
    cases List.mem_singleton.1 hmem
    trivial
  have hlone := images_fit Encode.narrow hdots (.image (.picture banner)) {}
    (congrArg Option.isSome hsize) fun _ _ hmem => absurd hmem List.not_mem_nil
  exact ⟨hdots, images_fit Encode.narrow hdots _ ⟨images, false, true⟩ hmarkup hdecoders,
    by decide +kernel, hlone, hlone.rendered _ _ rfl hsize fun _ => by decide⟩

end Render
end ThermalPrint
