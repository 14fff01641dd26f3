import ThermalPrint.Image.Fit
import ThermalPrint.Proofs.Decimal.Finite
import ThermalPrint.Proofs.Fault
import ThermalPrint.Proofs.Outcome

/-
Images prepared for the line.  Whichever way an image is made a raster, left as it is, scaled at
once or scaled in bands, its size is the one that the image has within the line.  That size exists
unless the image is too large for doubles, and the image can be brought to it unless it has bands of
too many pixels.
-/

namespace ThermalPrint

theorem Size.measure_normal {n : Nat} (hpos : 0 < n) (hlt : n < 2 ^ 256) :
    Decimal.Normal (-52) 204 (Size.measure n) := by
  have hsign : decide ((n : Int) < 0) = false := decide_eq_false (by omega)
  rw [Size.measure, hsign, Int.natAbs_natCast]
  exact Decimal.nearest_normal hpos hlt

section TargetSize

theorem targetSize_width {width height limit : Int} {target : Int × Int}
    (h : targetSize width height limit = .ok target) : target.1 = min width limit := by
  unfold targetSize at h
  split at h
  · cases h
    exact (min_eq_left ‹_›).symm
  · split at h
    · cases h
    · split at h
      · cases h
      · split at h
        · cases h
        · split at h
          · cases h
            exact (min_eq_right (by omega)).symm
          · cases h

/-- A size has no place within a line only if it is too large for doubles. -/
theorem targetSize_fault {width height limit : Int} {f : Fault} (hwidth : 0 < width)
    (h : targetSize width height limit = .error f) : ∃ message, f = .value .overflow message := by
  unfold targetSize at h
  split at h
  · cases h
  · split at h
    · cases h
      exact ⟨_, rfl⟩
    · rw [if_neg (by omega)] at h
      split at h
      · cases h
        exact ⟨_, rfl⟩
      · split at h
        · cases h
        · cases h
          exact ⟨_, rfl⟩

theorem targetSize_ok {width height limit : Nat} (hwidth : 0 < width ∧ width < 2 ^ 256)
    (hheight : 0 < height ∧ height < 2 ^ 256) (hlimit : 0 < limit) :
    ∃ target, targetSize width height limit = .ok target := by
  unfold targetSize
  by_cases hnarrow : (width : Int) ≤ limit
  · exact ⟨_, if_pos hnarrow⟩
  · have hless : limit < 2 ^ 256 := by omega
    have hscaled : (Decimal.round? (Size.scaledHeight width height limit)).isSome = true :=
      Decimal.scaled_isSome (Size.measure_normal hheight.1 hheight.2)
        (Size.measure_normal hlimit hless) (Size.measure_normal hwidth.1 hwidth.2)
    obtain ⟨scaled, hscaled⟩ := Option.isSome_iff_exists.1 hscaled
    rw [if_neg hnarrow, Decimal.ofInt?_isNone hwidth.1 hwidth.2, Decimal.ofInt?_isNone hlimit hless,
      Bool.or_self, if_neg Bool.false_ne_true, if_neg (by omega),
      Decimal.ofInt?_isNone hheight.1 hheight.2, if_neg Bool.false_ne_true, hscaled]
    exact ⟨_, rfl⟩

end TargetSize

/-- A raster is what an image of a size becomes within a line. -/
structure Prepared (limit : Nat) (s : Size) (r : Raster) : Prop where
  width : r.width = min s.width limit
  /-- The height is the one in proportion to the width. -/
  height : targetSize s.width s.height limit = .ok ((r.width : Int), (r.height : Int))
  height_pos : 1 ≤ r.height
  data : r.data.size = r.bytesPerRow * r.height

namespace Prepared

variable {limit : Nat} {s : Size} {r : Raster}

theorem of_targetSize (h : targetSize s.width s.height limit = .ok (↑r.width, ↑r.height)) :
    Prepared limit s r where
  width := by
    have hwidth : (r.width : Int) = min (s.width : Int) limit := targetSize_width h
    omega
  height := h
  height_pos := r.height_pos
  data := r.size_eq

theorem width_le (h : Prepared limit s r) : r.width ≤ limit := by
  rw [h.width]
  exact Nat.min_le_right _ _

end Prepared

namespace Picture

theorem bomb?_eq_none {width height : Nat} (h : width * height ≤ pixelLimit) :
    bomb? width height = none :=
  if_neg (Nat.not_lt.2 h)

theorem bomb?_eq_some {width height : Nat} {f : Fault} (h : bomb? width height = some f) :
    pixelLimit < width * height ∧ ∃ message, f = .value .decompressionBomb message := by
  unfold bomb? at h
  split at h
  · cases h
    exact ⟨‹_›, _, rfl⟩
  · cases h

theorem Band.rows_le {α : Type} [Coordinate α] {height outputs first rows : Nat}
    (hheight : 0 < height) :
    (Band.of α height outputs first rows).bottom - (Band.of α height outputs first rows).top ≤
      height := by
  unfold Band.of
  dsimp only
  omega

theorem bandBomb?_eq_none {s target : Size} (h : s.width * s.height ≤ pixelLimit) :
    bandBomb? s target = none :=
  List.findSome?_eq_none_iff.2 fun _ _ =>
    bomb?_eq_none ((Nat.mul_le_mul_left _ (Band.rows_le s.height_pos)).trans h)

theorem bandBomb?_self (s : Size) : bandBomb? s s = none := by
  rw [bandBomb?, bands, if_pos (.inl ⟨rfl, rfl⟩)]
  rfl

theorem bandBomb?_eq_some {s target : Size} {f : Fault} (h : bandBomb? s target = some f) :
    pixelLimit < s.width * s.height ∧ ∃ message, f = .value .decompressionBomb message := by
  refine ⟨Nat.lt_of_not_le fun hmodest => ?_, ?_⟩
  · rw [bandBomb?_eq_none hmodest] at h
    cases h
  · obtain ⟨_, -, hband⟩ := List.exists_of_findSome?_eq_some h
    exact (bomb?_eq_some hband).2

end Picture

/-- A size that is kept within a line, or has few enough pixels for the bands that it is scaled
in. -/
def Size.Modest (s : Size) (limit : Nat) : Prop :=
  limit < s.width → s.width * s.height ≤ Picture.pixelLimit

/-- The sides of a size that is scaled down and has not too many pixels are of moderate length. -/
theorem targetSize_modest {s : Size} {limit : Nat} (hlimit : 0 < limit) (h : s.Modest limit) :
    ∃ target, targetSize s.width s.height limit = .ok target := by
  by_cases hwide : limit < s.width
  · have hpixels := h hwide
    have hmoderate : Picture.pixelLimit < 2 ^ 256 := by decide
    have hwidth : s.width ≤ s.width * s.height := Nat.le_mul_of_pos_right _ s.height_pos
    have hheight : s.height ≤ s.width * s.height := Nat.le_mul_of_pos_left _ s.width_pos
    exact targetSize_ok ⟨s.width_pos, by omega⟩ ⟨s.height_pos, by omega⟩ hlimit
  · exact ⟨_, if_pos (Int.ofNat_le.2 (Nat.le_of_not_lt hwide))⟩

/-- An image of a size is prepared if that size has a place within the line and the image can be cut
into bands, and otherwise is at fault for one of these. -/
inductive Decided (limit : Nat) (s : Size) : Except Fault Raster → Prop
  | ok {r : Raster} (h : Prepared limit s r) : Decided limit s (.ok r)
  | error {f : Fault} (h : targetSize s.width s.height limit = .error f) :
    Decided limit s (.error f)
  | bomb {message : Text} (h : ¬ s.Modest limit) :
    Decided limit s (.error (.value .decompressionBomb message))

/-- The size of an image that can be decoded and has pixels. -/
def Bitmap.decoded? : Bitmap → Option Size
  | raster r => some ⟨r.width, r.height, r.width_pos, r.height_pos⟩
  | picture p => p.size?
  | encoded _ width height (.ok p) => if width = 0 ∨ height = 0 then none else p.size?
  | _ => none

section Fit

variable {limit : Nat}

theorem Size.fitted_ok {s target : Size} {limit_pos : 0 < limit}
    (h : s.fitted limit limit_pos = .ok target) :
    targetSize s.width s.height limit = .ok (↑target.width, ↑target.height) := by
  unfold Size.fitted at h
  split at h
  · cases h
  · rename_i width height htarget
    cases h
    obtain ⟨hwidth, hheight⟩ := targetSize_pos (Int.natCast_pos.2 s.width_pos)
      (Int.natCast_pos.2 s.height_pos) (Int.natCast_pos.2 limit_pos) htarget
    refine htarget.trans (congrArg Except.ok (Prod.ext ?_ ?_))
    · exact (Int.toNat_of_nonneg hwidth.le).symm
    · exact (Int.toNat_of_nonneg hheight.le).symm

theorem Size.fitted_error {s : Size} {limit_pos : 0 < limit} {f : Fault}
    (h : s.fitted limit limit_pos = .error f) :
    targetSize s.width s.height limit = .error f := by
  unfold Size.fitted at h
  split at h
  · cases h
    assumption
  · cases h

theorem Size.fitted_self {s : Size} {limit_pos : 0 < limit} (h : s.width ≤ limit) :
    s.fitted limit limit_pos = .ok s := by
  have hkept : targetSize s.width s.height limit = .ok (↑s.width, ↑s.height) :=
    if_pos (Int.ofNat_le.2 h)
  cases hfitted : s.fitted limit limit_pos with
  | error f =>
    have hfault := Size.fitted_error hfitted
    rw [hkept] at hfault
    cases hfault
  | ok target =>
    have htarget := Size.fitted_ok hfitted
    rw [hkept] at htarget
    obtain ⟨width, height, _, _⟩ := target
    obtain ⟨width', height', _, _⟩ := s
    simp only [Except.ok.injEq, Prod.mk.injEq, Int.natCast_inj] at htarget
    obtain ⟨rfl, rfl⟩ := htarget
    rfl

/-- Only a picture that is scaled down, and has too many pixels, cannot be cut into bands. -/
theorem Size.not_modest_of_bandBomb {s target : Size} {limit_pos : 0 < limit}
    (htarget : s.fitted limit limit_pos = .ok target) {f : Fault}
    (h : Picture.bandBomb? s target = some f) : ¬ s.Modest limit := by
  intro hmodest
  by_cases hwide : limit < s.width
  · exact Nat.not_le.2 (Picture.bandBomb?_eq_some h).1 (hmodest hwide)
  · rw [Size.fitted_self (Nat.le_of_not_lt hwide)] at htarget
    cases htarget
    rw [Picture.bandBomb?_self] at h
    cases h

theorem Picture.fit_decided {p : Picture} {s : Size} (limit_pos : 0 < limit)
    (hs : p.size? = some s) : Decided limit s (p.fit limit limit_pos) := by
  unfold fit
  rw [hs]
  dsimp only
  cases htarget : s.fitted limit limit_pos with
  | ok target =>
    dsimp only
    cases hbomb : bandBomb? s target with
    | none => exact .ok (.of_targetSize (Size.fitted_ok htarget))
    | some f =>
      obtain ⟨-, message, rfl⟩ := bandBomb?_eq_some hbomb
      exact .bomb (Size.not_modest_of_bandBomb htarget hbomb)
  | error f => exact .error (Size.fitted_error htarget)

/-- An error of printing from a picture that is scaled says that the image cannot be had. -/
theorem Picture.fit_kind {p : Picture} {limit_pos : 0 < limit} {e : PrintError}
    (h : p.fit limit limit_pos = .error (.print e)) : e.kind = .invalidImage := by
  cases hs : p.size? with
  | none =>
    rw [Picture.fit, hs] at h
    exact ImageFault.kind_of_toFault (Except.error.inj h)
  | some s =>
    have hdecided := p.fit_decided limit_pos hs
    rw [h] at hdecided
    cases hdecided with
    | error hfault =>
      obtain ⟨message, hvalue⟩ := targetSize_fault (Int.natCast_pos.2 s.width_pos) hfault
      cases hvalue

theorem Raster.size?_toPicture (r : Raster) :
    r.toGray.toPicture.size? = some ⟨r.width, r.height, r.width_pos, r.height_pos⟩ :=
  dif_pos ⟨r.width_pos, r.height_pos⟩

namespace Bitmap

variable {b : Bitmap} {s : Size}

/-- Only the size of an image decides whether it can be prepared, and for what size. -/
theorem fit_decided (hlimit : 0 < limit) (hs : b.decoded? = some s) :
    Decided limit s (b.fit limit) := by
  unfold fit
  rw [dif_pos (show 0 < (limit : Int).toNat from hlimit)]
  cases b with
  | raster r =>
    have hsize : (⟨r.width, r.height, r.width_pos, r.height_pos⟩ : Size) = s := Option.some.inj hs
    dsimp only [Int.toNat_natCast]
    split
    · rename_i hnarrow
      refine .ok (.of_targetSize ?_)
      rw [← hsize]
      exact if_pos (Int.ofNat_le.2 hnarrow)
    · exact Picture.fit_decided hlimit (r.size?_toPicture.trans hs)
  | picture p => exact p.fit_decided hlimit hs
  | encoded mode width height decoded =>
    cases decoded with
    | error f => cases hs
    | ok p =>
      dsimp only [decoded?] at hs ⊢
      split at hs
      · cases hs
      · rename_i hsome
        rw [if_neg hsome]
        exact p.fit_decided hlimit hs
  | foreign typeName => cases hs

/-- An image is prepared as a raster, which has the size of the image within the line. -/
def Becomes (limit : Nat) (b : Bitmap) (r : Raster) : Prop :=
  ∃ s, b.decoded? = some s ∧ b.fit limit = .ok r ∧ Prepared limit s r

/-- A decoded image fails only for its size, which is beyond all doubles or too many pixels. -/
theorem fit_oversize {f : Fault} (hlimit : 0 < limit) (hs : b.decoded? = some s)
    (h : b.fit limit = .error f) : ∃ kind message, f = .value kind message := by
  have hdecided := fit_decided hlimit hs
  rw [h] at hdecided
  cases hdecided with
  | error hfault =>
    obtain ⟨message, rfl⟩ := targetSize_fault (Int.natCast_pos.2 s.width_pos) hfault
    exact ⟨_, _, rfl⟩
  | bomb => exact ⟨_, _, rfl⟩

theorem becomes_of_fit {r : Raster} (hlimit : 0 < limit) (hs : b.decoded? = some s)
    (h : b.fit limit = .ok r) : Becomes limit b r := by
  have hdecided := fit_decided hlimit hs
  rw [h] at hdecided
  cases hdecided with
  | ok hprepared => exact ⟨s, hs, h, hprepared⟩

theorem Becomes.width_le {r : Raster} (h : Becomes limit b r) : r.width ≤ limit := by
  obtain ⟨s, -, -, hprepared⟩ := h
  exact hprepared.width_le

/-- An image that has not too many pixels for its bands, or is not scaled, can be prepared. -/
theorem fit_ok (hlimit : 0 < limit) (hs : b.decoded? = some s) (hmodest : s.Modest limit) :
    ∃ r, Becomes limit b r := by
  cases hfit : b.fit limit with
  | ok r => exact ⟨r, becomes_of_fit hlimit hs hfit⟩
  | error f =>
    have hdecided := fit_decided hlimit hs
    rw [hfit] at hdecided
    cases hdecided with
    | error hfault =>
      obtain ⟨target, htarget⟩ := targetSize_modest hlimit hmodest
      rw [htarget] at hfault
      cases hfault
    | bomb hbomb => exact absurd hmodest hbomb

/-- Decoders are no part of printing, so what is wrong with an encoded image is no error of it. -/
def FailsOutside : Bitmap → Prop
  | encoded _ _ _ (.error f) => f.isPrintError = false
  | _ => True

theorem failsOutside_of_decoded (hs : b.decoded? = some s) : b.FailsOutside := by
  cases b with
  | encoded mode width height decoded =>
    cases decoded with
    | error f => cases hs
    | ok p => trivial
  | _ => trivial

theorem decodeFault_kind {f : Fault} {e : PrintError} (houtside : f.isPrintError = false)
    (h : decodeFault f = .print e) : e.kind = .invalidImage := by
  unfold decodeFault at h
  split at h
  · exact ImageFault.kind_of_toFault h
  · rw [h] at houtside
    cases houtside

/-- An error of printing from an image that is prepared says that the image cannot be had. -/
theorem fit_kind {limit : Int} {e : PrintError} (houtside : b.FailsOutside)
    (h : b.fit limit = .error (.print e)) : e.kind = .invalidImage := by
  unfold fit at h
  split at h
  · dsimp only at h
    split at h
    · split at h
      · cases h
      · exact Picture.fit_kind h
    · exact Picture.fit_kind h
    · split at h
      · exact ImageFault.kind_of_toFault (Except.error.inj h)
      · split at h
        · exact decodeFault_kind houtside (Except.error.inj h)
        · exact Picture.fit_kind h
    · exact ImageFault.kind_of_toFault (Except.error.inj h)
  · exact ImageFault.kind_of_toFault (Except.error.inj h)

end Bitmap

end Fit

end ThermalPrint
