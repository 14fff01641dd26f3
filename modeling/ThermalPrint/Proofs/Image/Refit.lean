import ThermalPrint.Proofs.Image.Dots
import ThermalPrint.Proofs.Image.Prepared

/-
Fitting what fits already.

A raster that fits is left as it is.  The long way round, drawing it black on white and dividing the
drawing into ink and paper, gives its dots in clean rows.  So the two ways differ in the bits that
fill up the rows at most, and these are clear in whatever has been made out of a picture.
-/

namespace ThermalPrint

namespace Raster

/-- The bits that fill up the rows are zero. -/
def Clear (r : Raster) : Prop :=
  ∀ y < r.height, ∀ x < 8 * r.bytesPerRow, r.width ≤ x → r.dot x y = false

instance (r : Raster) : Decidable r.Clear := inferInstanceAs (Decidable (∀ y < r.height, _))

theorem byte_ext {a b : UInt8}
    (h : ∀ k < 8, a.toNat.testBit (7 - k) = b.toNat.testBit (7 - k)) : a = b := by
  refine UInt8.toNat_inj.1 (Nat.eq_of_testBit_eq fun i => ?_)
  by_cases hi : i < 8
  · have hbit := h (7 - i) (by omega)
    rwa [Nat.sub_sub_self (by omega)] at hbit
  · have hpow : 2 ^ 8 ≤ 2 ^ i := Nat.pow_le_pow_right (by decide) (by omega)
    rw [Nat.testBit_lt_two_pow (Nat.lt_of_lt_of_le a.toNat_lt hpow),
      Nat.testBit_lt_two_pow (Nat.lt_of_lt_of_le b.toNat_lt hpow)]

/-- Rasters of one size are the same if all their bits are, also those that fill up the rows. -/
theorem ext_dot {r s : Raster} (hwidth : r.width = s.width) (hheight : r.height = s.height)
    (h : ∀ y < r.height, ∀ x < 8 * r.bytesPerRow, r.dot x y = s.dot x y) : r = s := by
  refine (eq_iff r s).1 ⟨hwidth, hheight, congrArg ByteArray.data ?_⟩
  have hrow : s.bytesPerRow = r.bytesPerRow := congrArg rowBytes hwidth.symm
  have hsize : r.data.size = s.data.size := by
    rw [r.size_eq, s.size_eq, hwidth, hheight]
  refine Bytes.ext_get hsize fun i hi => byte_ext fun k hk => ?_
  have hi₀ : i < r.bytesPerRow * r.height := by
    rw [r.size_eq] at hi
    exact hi
  have hpos : 0 < r.bytesPerRow := Nat.pos_of_mul_pos_right (Nat.lt_of_le_of_lt (Nat.zero_le i) hi₀)
  have hcolumn : i % r.bytesPerRow < r.bytesPerRow := Nat.mod_lt i hpos
  have hdot := h (i / r.bytesPerRow) (Nat.div_lt_of_lt_mul hi₀) (8 * (i % r.bytesPerRow) + k)
    (by omega)
  have hbyte : (8 * (i % r.bytesPerRow) + k) / 8 = i % r.bytesPerRow := by omega
  have hbit : (8 * (i % r.bytesPerRow) + k) % 8 = k := by omega
  have hplace : i / r.bytesPerRow * r.bytesPerRow + i % r.bytesPerRow = i := by
    rw [Nat.mul_comm]
    exact Nat.div_add_mod i r.bytesPerRow
  unfold dot at hdot
  rwa [hrow, hbyte, hbit, hplace] at hdot

section Packed

variable {width height : Nat} {width_pos : 0 < width} {height_pos : 0 < height}
  {black black' : Nat → Nat → Bool}

theorem clear_ofDots : (ofDots width height width_pos height_pos black).Clear := by
  intro y hy x hx (hbehind : width ≤ x)
  have hdot : (ofDots width height width_pos height_pos black).dot x y =
      (decide (x < width) && black x y) := dot_ofDots hx hy
  rw [hdot, decide_eq_false (Nat.not_lt.2 hbehind), Bool.false_and]

theorem ofDots_congr (h : ∀ x < width, ∀ y < height, black x y = black' x y) :
    ofDots width height width_pos height_pos black =
      ofDots width height width_pos height_pos black' := by
  refine (eq_iff _ _).1 ⟨rfl, rfl, congrArg ByteArray.data ?_⟩
  exact packDots_congr h

end Packed

theorem dot_repack {r : Raster} {x y : Nat} (hx : x < r.width) (hy : y < r.height) :
    r.repack.dot x y = r.dot x y := by
  have hbyte : x < 8 * rowBytes r.width := by
    unfold rowBytes
    omega
  exact (dot_ofDots hbyte hy).trans (by rw [decide_eq_true hx, Bool.true_and])

/-- Packing the dots anew changes nothing if there is nothing but dots. -/
theorem repack_eq_iff (r : Raster) : r.repack = r ↔ r.Clear := by
  constructor
  · intro h
    rw [← h]
    exact clear_ofDots
  · intro hclear
    refine ext_dot rfl rfl fun y hy x hx => ?_
    by_cases hwidth : x < r.width
    · exact dot_repack hwidth hy
    · rw [hclear y hy x hx (Nat.not_lt.1 hwidth)]
      exact clear_ofDots y hy x hx (Nat.not_lt.1 hwidth)

end Raster

theorem Gray.level_toPicture (g : Gray) (x y : Nat) : g.toPicture.level x y = g.level x y :=
  UInt8.ofNat_toNat

section Fit

variable {limit : Nat} {limit_pos : 0 < limit}

/-- What a picture becomes has clean rows, and fits. -/
theorem Picture.fit_clear {p : Picture} {r : Raster} (h : p.fit limit limit_pos = .ok r) :
    r.Clear ∧ r.width ≤ limit := by
  cases hs : p.size? with
  | none =>
    rw [Picture.fit, hs] at h
    cases h
  | some s =>
    have hdecided := p.fit_decided limit_pos hs
    rw [h] at hdecided
    cases hdecided with
    | ok hprepared =>
      refine ⟨?_, hprepared.width_le⟩
      rw [Picture.fit, hs] at h
      dsimp only at h
      split at h
      · cases h
      · split at h
        · cases h
        · cases h
          exact Raster.clear_ofDots

theorem Raster.fit_toPicture {r : Raster} (h : r.width ≤ limit) :
    r.toGray.toPicture.fit limit limit_pos = .ok r.repack := by
  unfold Picture.fit
  rw [r.size?_toPicture]
  dsimp only
  rw [Size.fitted_self h]
  dsimp only
  rw [Picture.bandBomb?_self]
  refine congrArg Except.ok
    (Raster.ofDots_congr fun x (hx : x < r.width) y (hy : y < r.height) => ?_)
  have hsame : r.toGray.toPicture.scaled ⟨r.width, r.height, r.width_pos, r.height_pos⟩ =
      r.toGray.toPicture.toGray := if_pos ⟨rfl, rfl⟩
  have hlevel : r.toGray.toPicture.toGray.level x y = r.toGray.toPicture.level x (0 + y) :=
    Raster.level_ofLevels hx hy
  have hdrawn : r.toGray.level x y = if r.dot x y then 0 else 255 := Raster.level_ofLevels hx hy
  rw [hsame, hlevel, Nat.zero_add, Gray.level_toPicture, hdrawn, Raster.isInk_level]

end Fit

namespace Bitmap

variable {b : Bitmap} {limit : Int} {r : Raster}

theorem fit_narrow {r : Raster} (hlimit : 0 < limit) (h : (r.width : Int) ≤ limit) :
    (raster r).fit limit = .ok r := by
  unfold fit
  rw [dif_pos (by omega)]
  exact if_pos (by omega)

theorem fit_drawn {r : Raster} (hlimit : 0 < limit) (h : (r.width : Int) ≤ limit) :
    (picture r.toGray.toPicture).fit limit = .ok r.repack := by
  unfold fit
  rw [dif_pos (by omega)]
  exact Raster.fit_toPicture (by omega)

/-- A raster comes from a raster that was narrow enough and is left as it is, or from a picture. -/
theorem fit_source (h : b.fit limit = .ok r) :
    (b = raster r ∧ (r.width : Int) ≤ limit) ∨
      (r.Clear ∧ (r.width : Int) ≤ limit ∧ ∀ given, b = raster given → limit < given.width) := by
  unfold fit at h
  by_cases hlimit : 0 < limit.toNat
  · rw [dif_pos hlimit] at h
    have hpicture : ∀ {p : Picture}, p.fit limit.toNat hlimit = .ok r →
        r.Clear ∧ (r.width : Int) ≤ limit := by
      intro p hp
      obtain ⟨hclear, hwidth⟩ := Picture.fit_clear hp
      exact ⟨hclear, by omega⟩
    cases b with
    | raster given =>
      dsimp only at h
      by_cases hnarrow : given.width ≤ limit.toNat
      · rw [if_pos hnarrow] at h
        cases h
        exact .inl ⟨rfl, by omega⟩
      · rw [if_neg hnarrow] at h
        obtain ⟨hclear, hwidth⟩ := hpicture h
        refine .inr ⟨hclear, hwidth, fun other hother => ?_⟩
        cases hother
        omega
    | picture p =>
      obtain ⟨hclear, hwidth⟩ := hpicture h
      exact .inr ⟨hclear, hwidth, fun _ => nofun⟩
    | encoded mode width height decoded =>
      dsimp only at h
      by_cases hnone : width = 0 ∨ height = 0
      · rw [if_pos hnone] at h
        cases h
      · rw [if_neg hnone] at h
        cases decoded with
        | error fault => cases h
        | ok p =>
          obtain ⟨hclear, hwidth⟩ := hpicture h
          exact .inr ⟨hclear, hwidth, fun _ => nofun⟩
    | foreign typeName => cases h
  · rw [dif_neg hlimit] at h
    cases h

/-- What has been fitted fits, and stays as it is.  Drawn and fitted once more it has the same size
and dots, and is the same exactly if its rows are clean, as they always are unless it was a raster
that fitted from the start.  So for a raster that fits the short way and the long way agree. -/
theorem fit_again (limit : Int) (hlimit : 1 ≤ limit) :
    (∀ (b : Bitmap) (r : Raster), b.fit limit = .ok r →
      (raster r).fitsAlready limit = true ∧ (raster r).fit limit = .ok r ∧
        ∃ q, (picture r.toGray.toPicture).fit limit = .ok q ∧ q.width = r.width ∧
          q.height = r.height ∧ (∀ x < r.width, ∀ y < r.height, q.dot x y = r.dot x y) ∧
          (q = r ↔ r.Clear) ∧
          ((∀ given, b = raster given → limit < given.width) → r.Clear)) ∧
      ∀ r : Raster, (r.width : Int) ≤ limit →
        ∃ q, (raster r).fit limit = .ok r ∧ (picture r.toGray.toPicture).fit limit = .ok q ∧
          q.width = r.width ∧ q.height = r.height ∧
          ∀ x < r.width, ∀ y < r.height, q.dot x y = r.dot x y := by
  have hpos : 0 < limit := by omega
  refine ⟨fun b r hfit => ?_, fun r hwidth => ?_⟩
  · have hsource := fit_source hfit
    have hwidth : (r.width : Int) ≤ limit := hsource.elim And.right fun h => h.2.1
    refine ⟨?_, fit_narrow hpos hwidth, r.repack, fit_drawn hpos hwidth, rfl, rfl,
      fun x hx y hy => Raster.dot_repack hx hy, r.repack_eq_iff, fun hwide => ?_⟩
    · show (decide (0 < limit) && decide ((r.width : Int) ≤ limit)) = true
      rw [decide_eq_true hpos, decide_eq_true hwidth]
      rfl
    · rcases hsource with ⟨hraster, hnarrow⟩ | ⟨hclear, -⟩
      · have := hwide r hraster
        omega
      · exact hclear
  · exact ⟨r.repack, fit_narrow hpos hwidth, fit_drawn hpos hwidth, rfl, rfl,
      fun x hx y hy => Raster.dot_repack hx hy⟩

def stray : Raster := ⟨6, 4, [0x93, 0x60, 0x4B, 0xFC].toByteArray, by decide, by decide, rfl⟩

theorem fit_again_stray :
    (1 : Int) ≤ 6 ∧ (raster stray).fit 6 = .ok stray ∧ ¬ stray.Clear ∧
      ∃ q, (picture stray.toGray.toPicture).fit 6 = .ok q ∧ q ≠ stray ∧
        ∀ x < 6, ∀ y < 4, q.dot x y = stray.dot x y := by
  have hfit : (raster stray).fit 6 = .ok stray := fit_narrow (by decide) (by decide)
  have hstray : ¬ stray.Clear := by decide +kernel
  obtain ⟨-, -, q, hq, -, -, hdots, hclear, -⟩ := (fit_again 6 (by decide)).1 _ _ hfit
  exact ⟨by decide, hfit, hstray, q, hq, fun heq => hstray (hclear.1 heq), hdots⟩

end Bitmap
end ThermalPrint
