import ThermalPrint.Proofs.Fault
import ThermalPrint.Proofs.Markup.Optional
import ThermalPrint.Proofs.Markup.Placeholder
import ThermalPrint.Render

/-
Rendering with images that may be left out.

Images go missing in three places: among those that a caller supplies, behind a handle, and in
the digits of a payload.  Whichever it is, no more is lost than the image.
-/

namespace ThermalPrint
namespace Render

open Outcome (SameUnless)

/-- An image cannot be had. -/
def NoImage (f : Fault) : Prop := f.isA .invalidImage = true

section Stages

variable (config : SessionConfig) (text : Text) (images : List (Text × Option Bitmap)) (cut : Bool)

theorem resolveImage_optional (name : Text) (b : Option Bitmap) :
    SameUnless NoImage (resolveImage config false name b) (resolveImage config true name b) := by
  cases b with
  | none => exact .inl ⟨_, rfl, ImageFault.toFault_isA _ _⟩
  | some b =>
    unfold resolveImage
    dsimp only
    split
    · exact .inr rfl
    · rename_i fault _
      cases hfault : fault.isA .invalidImage with
      | true => exact .inl ⟨fault, rfl, hfault⟩
      | false => exact .inr rfl

theorem resolveImages_optional :
    SameUnless NoImage (resolveImages config false images) (resolveImages config true images) := by
  unfold resolveImages
  exact SameUnless.mapM (fun a => (resolveImage_optional config a.1 a.2).map _) images

/-- Where no image is at fault without leave, the job is the same with it. -/
theorem buildJob_optional :
    SameUnless NoImage (buildJob config (.markup text) ⟨images, false, cut⟩)
      (buildJob config (.markup text) ⟨images, true, cut⟩) := by
  unfold buildJob
  dsimp only
  rcases resolveImages_optional config images with ⟨fault, hstrict, hfault⟩ | hsame
  · rw [hstrict]
    exact .inl ⟨fault, rfl, hfault⟩
  · rw [hsame]
    split
    · exact .inr rfl
    · rename_i rasters _
      rcases Markup.compile_optional (handles rasters) cut text with
        ⟨fault, hstrict, f, rfl⟩ | hsame
      · rw [hstrict]
        exact .inl ⟨_, rfl, ImageFault.toFault_isA f _⟩
      · rw [hsame]
        exact .inr rfl

theorem bytes_optional :
    SameUnless NoImage (bytes config (.markup text) ⟨images, false, cut⟩)
      (bytes config (.markup text) ⟨images, true, cut⟩) := by
  unfold bytes
  rcases buildJob_optional config text images cut with ⟨fault, hstrict, hfault⟩ | hsame
  · rw [hstrict]
    exact .inl ⟨fault, rfl, hfault⟩
  · rw [hsame]
    exact .inr rfl

theorem resolveImages_spares {fault : Fault} (h : resolveImages config true images = .error fault) :
    ¬ NoImage fault := by
  obtain ⟨a, -, ha⟩ := Outcome.error_of_mapM h
  have hresolve := Outcome.map_error_iff.1 ha
  unfold resolveImage at hresolve
  split at hresolve
  · cases hresolve
  · split at hresolve
    · cases hresolve
    · rename_i other _
      intro hfault
      split at hresolve
      · cases hresolve
      · rename_i hother
        cases hresolve
        exact hother hfault

theorem bytes_spares {fault : Fault}
    (h : bytes config (.markup text) ⟨images, true, cut⟩ = .error fault) : ¬ NoImage fault := by
  unfold bytes at h
  split at h
  · rename_i f hjob
    cases h
    unfold buildJob at hjob
    dsimp only at hjob
    split at hjob
    · rename_i f hresolve
      cases hjob
      exact resolveImages_spares config images hresolve
    · split at hjob
      · rename_i f hcompile
        cases hjob
        have hspared : Markup.Spares (.error f : Except Markup.MarkupFault Job) :=
          hcompile ▸ Markup.compile_spares cut text
        unfold NoImage
        rw [Fault.isA_print, Markup.MarkupFault.toPrintError_kind]
        cases f with
        | image f => exact absurd rfl (hspared f)
        | _ => exact Bool.false_ne_true
      · cases hjob
  · split at h
    · rename_i f _
      cases h
      unfold NoImage
      rw [EncodeFault.not_invalidImage]
      exact Bool.false_ne_true
    · cases h

end Stages

open Markup (Images SamePaper compile payloads withPlaceholder)

/-- To leave images out is to lose nothing else.  Rendered with leave to, markup fails for no image
and agrees with what it is without leave, unless that fails for an image.  What is compiled with
leave is what is compiled with a placeholder, once the placeholder has been taken out. -/
theorem optional_loses_only_images (config : SessionConfig) (text : Text)
    (images : List (Text × Option Bitmap)) (cut : Bool) :
    (∀ f, bytes config (.markup text) ⟨images, true, cut⟩ = .error f →
      f.isA .invalidImage = false) ∧
    (∀ out, bytes config (.markup text) ⟨images, false, cut⟩ = .ok out →
      bytes config (.markup text) ⟨images, true, cut⟩ = .ok out) ∧
    (∀ f, bytes config (.markup text) ⟨images, false, cut⟩ = .error f →
      f.isA .invalidImage = false → bytes config (.markup text) ⟨images, true, cut⟩ = .error f) ∧
    ∀ (handles : Images) (placeholder : Raster),
      (∀ payload ∈ payloads text, ∀ r,
        Markup.resolveImage handles payload = .ok r → r ≠ placeholder) →
      Outcome.Alike (SamePaper placeholder)
        (compile (withPlaceholder handles placeholder (payloads text)) ⟨false, cut⟩ text)
        (compile handles ⟨true, cut⟩ text) := by
  have hsame := bytes_optional config text images cut
  refine ⟨fun f hf => ?_, fun out hout => ?_, fun f hf hfault => ?_,
    fun handles placeholder hother => Markup.compile_filled cut hother⟩
  · exact Bool.eq_false_iff.2 (bytes_spares config text images cut hf)
  · rcases hsame with ⟨f, hstrict, -⟩ | hsame
    · rw [hstrict] at hout
      cases hout
    · rw [hsame, hout]
  · rcases hsame with ⟨other, hstrict, hother⟩ | hsame
    · cases hstrict.symm.trans hf
      rw [NoImage, hfault] at hother
      cases hother
    · rw [hsame, hf]

def speck : Raster := Raster.ofDots 1 1 Nat.one_pos Nat.one_pos fun _ _ => true

theorem optional_loses_only_images_logo :
    let text := "tea <img>logo</img> cake".toText
    ∃ filled left,
      compile (withPlaceholder [] speck (payloads text)) ⟨false, true⟩ text = .ok filled ∧
      compile [] ⟨true, true⟩ text = .ok left ∧ SamePaper speck filled left ∧
      filled.length = 4 ∧ left.length = 2 := by
  intro text
  have hother : ∀ payload ∈ payloads text, ∀ r,
      Markup.resolveImage [] payload = .ok r → r ≠ speck := by
    have hnamed : payloads text = ["logo".toText] := by decide +kernel
    intro payload hpayload r hr
    rw [hnamed, List.mem_singleton] at hpayload
    have hnone : (Markup.resolveImage [] "logo".toText).isOk = false := by decide +kernel
    rw [hpayload] at hr
    rw [hr] at hnone
    cases hnone
  have hfilled : ((compile (withPlaceholder [] speck (payloads text)) ⟨false, true⟩ text).map
      List.length).toOption = some 4 := by decide +kernel
  have hleft : ((compile [] ⟨true, true⟩ text).map List.length).toOption = some 2 := by
    decide +kernel
  have hpaper := (optional_loses_only_images .standard text [] true).2.2.2 [] speck hother
  generalize compile (withPlaceholder [] speck (payloads text)) ⟨false, true⟩ text = filled? at *
  generalize compile [] ⟨true, true⟩ text = left? at *
  cases hpaper with
  | error fault => cases hfilled
  | ok hsame => exact ⟨_, _, rfl, rfl, hsame, Option.some.inj hfilled, Option.some.inj hleft⟩

end Render
end ThermalPrint
