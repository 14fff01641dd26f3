import ThermalPrint.Proofs.Image.Levels
import ThermalPrint.Proofs.Image.Prepared

/-
A picture that is made darker keeps its ink.

Every stage between a picture and its dots is monotone: the gray levels in the colours, an average
in what is averaged, whatever the weights are, the paper in the bands that are put on it, and the
division into ink and paper.  Where the windows lie, and what they weigh, depends on the size alone,
so two pictures of one size go through the same stages.
-/

namespace ThermalPrint

theorem byte_mono {m n : Nat} (h : m ≤ n) (hn : n < 256) : UInt8.ofNat m ≤ UInt8.ofNat n := by
  rw [UInt8.le_iff_toNat_le, UInt8.toNat_ofNat', UInt8.toNat_ofNat',
    Nat.mod_eq_of_lt (Nat.lt_of_le_of_lt h hn), Nat.mod_eq_of_lt hn]
  exact h

/-! ## Gray images -/

/-- No pixel of an image is lighter than that of another of its size. -/
structure Gray.NoLighter (g g' : Gray) : Prop where
  width : g.width = g'.width
  height : g.height = g'.height
  level : ∀ x < g.width, ∀ y < g.height, g.level x y ≤ g'.level x y

namespace Resample

namespace Window

variable {f g : Nat → UInt8}

theorem sum_mono {weights : List Nat} :
    ∀ {place total total' : Nat}, total ≤ total' →
      (∀ i, place ≤ i → i < place + weights.length → f i ≤ g i) →
      sum f place weights total ≤ sum g place weights total' := by
  induction weights with
  | nil => exact fun htotal _ => htotal
  | cons w rest ih =>
    intro place total total' htotal h
    have hfirst : f place ≤ g place := h place (Nat.le_refl _) (by rw [List.length_cons]; omega)
    have hweighted : w * (f place).toNat ≤ w * (g place).toNat :=
      Nat.mul_le_mul_left w (UInt8.le_iff_toNat_le.1 hfirst)
    rw [sum, sum]
    exact ih (Nat.add_le_add htotal hweighted) fun i hi hlt =>
      h i (by omega) (by rw [List.length_cons]; omega)

/-- No weight is negative, so what is averaged may only go up for the average to go up. -/
theorem average_mono (w : Window)
    (h : ∀ i, w.first ≤ i → i < w.first + w.weights.length → f i ≤ g i) :
    w.average f ≤ w.average g := by
  have hsum := sum_mono (Nat.le_refl 0) h
  have hmean : (2 ^ (precision - 1) + sum f w.first w.weights 0) / 2 ^ precision ≤
      (2 ^ (precision - 1) + sum g w.first w.weights 0) / 2 ^ precision :=
    Nat.div_le_div_right (Nat.add_le_add_left hsum _)
  refine byte_mono (Nat.le_min.2 ⟨Nat.min_le_left _ _, (Nat.min_le_right _ _).trans hmean⟩) ?_
  exact Nat.lt_of_le_of_lt (Nat.min_le_left _ _) (by decide)

end Window

variable {α : Type} [Coordinate α] {g g' : Gray} {width height : Nat}
  {horizontal vertical : Span α}

theorem widened_mono (h : g.NoLighter g') :
    (widened g width horizontal).NoLighter (widened g' width horizontal) where
  width := by rw [widened_width, widened_width]
  height := by rw [widened_height, widened_height, h.height]
  level x hx y hy := by
    rw [widened_width] at hx
    rw [widened_height] at hy
    unfold widened
    rw [← h.width]
    split
    · rename_i hwhole
      exact h.level x (isWhole_length hwhole ▸ hx) y hy
    · have hsize : x < (windows g.width horizontal width).size := by rwa [windows_size]
      unfold acrossRows
      rw [Raster.level_ofLevels hsize hy, Raster.level_ofLevels hsize (h.height ▸ hy),
        windows_get hx]
      exact Window.average_mono _ fun i hfirst hlast => h.level i (window_inside hfirst hlast) y hy

/-- A darker image is darker at any other size. -/
theorem resize_mono (h : g.NoLighter g') :
    (resize g width height horizontal vertical).NoLighter
      (resize g' width height horizontal vertical) where
  width := resize_size.1.trans resize_size.1.symm
  height := resize_size.2.trans resize_size.2.symm
  level x hx y hy := by
    have hwide : (widened g width horizontal).NoLighter (widened g' width horizontal) :=
      widened_mono h
    rw [resize_size.1] at hx
    rw [resize_size.2] at hy
    have hcolumn : x < (widened g width horizontal).width := by rwa [widened_width]
    rw [level_resize hx hy, level_resize hx hy, ← h.height]
    split
    · rename_i hwhole
      refine hwide.level x hcolumn y ?_
      rw [widened_height, isWhole_length hwhole]
      exact hy
    · refine Window.average_mono _ fun i hfirst hlast => hwide.level x hcolumn i ?_
      rw [widened_height]
      exact window_inside hfirst hlast

end Resample

namespace Gray

/-- Two images lie in the same rows, as wide as the paper at least, and the first is darker. -/
def Overlays (width : Nat) (part part' : Nat × Gray) : Prop :=
  part.1 = part'.1 ∧ width ≤ part.2.width ∧ part.2.NoLighter part'.2

/-- Of images in the same rows it is the same ones that have a row of the paper. -/
theorem find?_covers {width : Nat} {parts parts' : List (Nat × Gray)} (y : Nat)
    (h : List.Forall₂ (Overlays width) parts parts') :
    Option.Rel (Overlays width) (parts.find? (covers y)) (parts'.find? (covers y)) := by
  induction h with
  | nil => exact .none
  | @cons part part' parts parts' hpart _ ih =>
    have hsame : covers y part = covers y part' := by
      obtain ⟨top, g⟩ := part
      obtain ⟨top', g'⟩ := part'
      obtain ⟨rfl, -, hdark⟩ := hpart
      show (decide (top ≤ y) && decide (y < top + g.height)) = _
      rw [hdark.height]
      rfl
    rw [List.find?_cons, List.find?_cons, ← hsame]
    cases covers y part with
    | true => exact .some hpart
    | false => exact ih

theorem pasted_mono {width height : Nat} {parts parts' : List (Nat × Gray)}
    (h : List.Forall₂ (Overlays width) parts parts') :
    (pasted width height parts).NoLighter (pasted width height parts') where
  width := rfl
  height := rfl
  level x hx y hy := by
    have hcolumn : x < width := hx
    have hrow : y < height := hy
    have hfound := find?_covers y (List.forall₂_reverse_iff.2 h)
    have hrows : ∀ part ∈ parts.reverse.find? (covers y),
        part.1 ≤ y ∧ y < part.1 + part.2.height := by
      rintro ⟨top, part⟩ hpart
      have hcovers := List.find?_some hpart
      simpa only [covers, Bool.and_eq_true, decide_eq_true_eq] using hcovers
    unfold pasted
    dsimp only
    rw [Raster.level_ofLevels hcolumn hrow, Raster.level_ofLevels hcolumn hrow,
      Array.getElem?_ofFn, Array.getElem?_ofFn, dif_pos hrow, dif_pos hrow]
    dsimp only
    generalize parts.reverse.find? (covers y) = found at hfound hrows
    generalize parts'.reverse.find? (covers y) = found' at hfound
    cases hfound with
    | none => exact UInt8.le_refl _
    | @some part part' hpart =>
      obtain ⟨top, g⟩ := part
      obtain ⟨top', g'⟩ := part'
      obtain ⟨rfl, hwide, hdark⟩ := hpart
      have hband := hrows _ rfl
      exact hdark.level x (Nat.lt_of_lt_of_le hcolumn hwide) (y - top) (by omega)

end Gray

/-! ## Pictures -/

namespace PixelMode

def channels : PixelMode → Nat
  | rgb => 3
  | rgba => 4
  | _ => 1

def colours : PixelMode → Nat
  | rgb | rgba => 3
  | _ => 1

end PixelMode

namespace Picture

def channel (p : Picture) (x y c : Nat) : UInt8 :=
  Bytes.get p.data (y * p.mode.stride p.width + p.mode.channels * x + c)

/-- No colour of a picture is lighter than in another of its size and mode. -/
structure NoLighter (p q : Picture) : Prop where
  mode : p.mode = q.mode
  plain : p.mode = .gray ∨ p.mode = .rgb ∨ p.mode = .rgba
  width : p.width = q.width
  height : p.height = q.height
  /-- There are no bytes behind the last row. -/
  rows : p.data.size ≤ p.height * p.mode.stride p.width
  channel : ∀ x < p.width, ∀ y < p.height, ∀ c < p.mode.colours, p.channel x y c ≤ q.channel x y c

theorem luminance_mono {r g b r' g' b' : UInt8} (hr : r ≤ r') (hg : g ≤ g') (hb : b ≤ b') :
    luminance r.toNat g.toNat b.toNat ≤ luminance r'.toNat g'.toNat b'.toNat := by
  have hr' := r'.toNat_lt
  have hg' := g'.toNat_lt
  have hb' := b'.toNat_lt
  rw [UInt8.le_iff_toNat_le] at hr hg hb
  exact byte_mono (Nat.div_le_div_right (by omega)) (Nat.div_lt_of_lt_mul (by omega))

section Channels

variable {p q : Picture} (h : p.NoLighter q)

include h

/-- Behind the last row there is nothing that could be lighter. -/
theorem NoLighter.channel_le {x : Nat} (hx : x < p.width) (y : Nat) {c : Nat}
    (hc : c < p.mode.colours) : p.channel x y c ≤ q.channel x y c := by
  by_cases hy : y < p.height
  · exact h.channel x hx y hy c hc
  · have hrows : p.height * p.mode.stride p.width ≤ y * p.mode.stride p.width :=
      Nat.mul_le_mul_right _ (Nat.not_lt.1 hy)
    have hsize := h.rows
    have hnone : p.channel x y c = 0 := dif_neg (by omega)
    rw [hnone]
    exact UInt8.le_iff_toNat_le.2 (Nat.zero_le _)

end Channels

theorem level_gray {p : Picture} (h : p.mode = .gray) (x y : Nat) :
    p.level x y = p.channel x y 0 := by
  unfold level channel
  rw [h]
  dsimp only [PixelMode.channels]
  rw [Nat.one_mul, Nat.add_zero]
  exact UInt8.ofNat_toNat

theorem level_colour {p : Picture} (h : p.mode = .rgb ∨ p.mode = .rgba) (x y : Nat) :
    p.level x y = luminance (p.channel x y 0).toNat (p.channel x y 1).toNat
      (p.channel x y 2).toNat := by
  unfold level channel
  rcases h with h | h
  · rw [h]
    rfl
  · rw [h]
    rfl

section Levels

variable {p q : Picture} (h : p.NoLighter q)

include h

theorem NoLighter.level_le {x : Nat} (hx : x < p.width) (y : Nat) : p.level x y ≤ q.level x y := by
  have hchannel : ∀ c < p.mode.colours, p.channel x y c ≤ q.channel x y c :=
    fun c hc => h.channel_le hx y hc
  by_cases hgray : p.mode = .gray
  · rw [hgray] at hchannel
    rw [level_gray hgray, level_gray (h.mode ▸ hgray)]
    exact hchannel 0 (by decide)
  · have hcolour : p.mode = .rgb ∨ p.mode = .rgba := h.plain.resolve_left hgray
    have hthree : p.mode.colours = 3 := by
      rcases hcolour with hmode | hmode
      · rw [hmode]
        rfl
      · rw [hmode]
        rfl
    rw [hthree] at hchannel
    rw [level_colour hcolour, level_colour (h.mode ▸ hcolour)]
    exact luminance_mono (hchannel 0 (by decide)) (hchannel 1 (by decide)) (hchannel 2 (by decide))

theorem grayRows_mono (top bottom : Nat) :
    (p.grayRows top bottom).NoLighter (q.grayRows top bottom) where
  width := h.width
  height := rfl
  level x (hx : x < p.width) y (hy : y < bottom - top) := by
    unfold grayRows
    rw [Raster.level_ofLevels hx hy, Raster.level_ofLevels (h.width ▸ hx) hy]
    exact h.level_le hx _

theorem toGray_mono : p.toGray.NoLighter q.toGray := by
  unfold toGray
  rw [← h.height]
  exact grayRows_mono h 0 p.height

variable (α : Type) [Coordinate α] (s : Size)

theorem scaledBand_mono (first rows : Nat) :
    (p.scaledBand α s first rows).NoLighter (q.scaledBand α s first rows) := by
  unfold scaledBand
  rw [← h.height, ← h.width]
  exact Resample.resize_mono (grayRows_mono h _ _)

theorem scaledAtOnce_mono : (p.scaledAtOnce α s).NoLighter (q.scaledAtOnce α s) := by
  unfold scaledAtOnce
  rw [← h.height, ← h.width]
  exact Resample.resize_mono (toGray_mono h)

theorem scaledInBands_mono : (p.scaledInBands α s).NoLighter (q.scaledInBands α s) := by
  unfold scaledInBands
  refine Gray.pasted_mono ?_
  rw [List.forall₂_map_left_iff, List.forall₂_map_right_iff, List.forall₂_same]
  rintro ⟨first, rows⟩ -
  exact ⟨rfl, Resample.resize_size.1.ge, scaledBand_mono h α s first rows⟩

theorem scaled_mono : (p.scaled s).NoLighter (q.scaled s) := by
  unfold scaled
  rw [← h.height, ← h.width]
  split
  · exact toGray_mono h
  · split
    · exact scaledInBands_mono h Float s
    · exact scaledAtOnce_mono h Float s

end Levels

theorem scaled_size (p : Picture) (s : Size) :
    (p.scaled s).width = s.width ∧ (p.scaled s).height = s.height := by
  unfold scaled
  split
  · rename_i hsame
    exact hsame
  · split
    · exact ⟨rfl, rfl⟩
    · exact Resample.resize_size

end Picture

/-! ## Rasters -/

/-- Every dot of a raster is one of another of its size. -/
structure Raster.Covers (r s : Raster) : Prop where
  width : r.width = s.width
  height : r.height = s.height
  dot : ∀ x < s.width, ∀ y < s.height, s.dot x y = true → r.dot x y = true

theorem Raster.covers_ofDots {width height : Nat} {width_pos : 0 < width}
    {height_pos : 0 < height} {black black' : Nat → Nat → Bool}
    (h : ∀ x < width, ∀ y < height, black' x y = true → black x y = true) :
    (ofDots width height width_pos height_pos black).Covers
      (ofDots width height width_pos height_pos black') where
  width := rfl
  height := rfl
  dot x hx y hy hdot := by
    have hcolumn : x < width := hx
    have hrow : y < height := hy
    have hbyte : x < 8 * rowBytes width := by
      unfold rowBytes
      omega
    rw [dot_ofDots hbyte hrow, decide_eq_true hcolumn, Bool.true_and] at hdot ⊢
    exact h x hcolumn y hrow hdot

theorem Gray.isInk_mono {a b : UInt8} (h : a ≤ b) (hb : isInk b = true) : isInk a = true :=
  decide_eq_true (UInt8.le_trans h (of_decide_eq_true hb))

theorem Picture.covers_scaled {p q : Picture} (h : p.NoLighter q) (s : Size) :
    (Raster.ofDots s.width s.height s.width_pos s.height_pos fun x y =>
        Gray.isInk ((p.scaled s).level x y)).Covers
      (Raster.ofDots s.width s.height s.width_pos s.height_pos fun x y =>
        Gray.isInk ((q.scaled s).level x y)) := by
  have hsize := p.scaled_size s
  have hlevel := (scaled_mono h s).level
  rw [hsize.1, hsize.2] at hlevel
  exact Raster.covers_ofDots fun x hx y hy => Gray.isInk_mono (hlevel x hx y hy)

theorem Picture.fit_mono {p q : Picture} (h : p.NoLighter q) {limit : Nat} (limit_pos : 0 < limit) :
    Outcome.Alike Raster.Covers (p.fit limit limit_pos) (q.fit limit limit_pos) := by
  have hsize : q.size? = p.size? := by simp only [size?, h.width, h.height]
  unfold fit
  rw [hsize]
  cases p.size? with
  | none =>
    dsimp only
    rw [← h.width, ← h.height]
    exact .error _
  | some size =>
    dsimp only
    cases size.fitted limit limit_pos with
    | error f => exact .error f
    | ok target =>
      dsimp only
      cases bandBomb? size target with
      | some f => exact .error f
      | none => exact .ok (covers_scaled h target)

namespace Bitmap

/-- A bitmap is a picture, be it decoded already or still to be. -/
inductive Holds : Bitmap → Picture → Prop
  | picture (p : Picture) : Holds (.picture p) p
  | encoded (mode : PixelMode) (p : Picture) : Holds (.encoded mode p.width p.height (.ok p)) p

theorem Holds.fit {b : Bitmap} {p : Picture} (h : b.Holds p) {limit : Int}
    (hlimit : 0 < limit.toNat) : b.fit limit = p.fit limit.toNat hlimit := by
  unfold Bitmap.fit
  rw [dif_pos hlimit]
  cases h with
  | picture p => rfl
  | encoded mode p =>
    dsimp only
    split
    · rename_i hnone
      have hsize : p.size? = none := dif_neg (by omega)
      rw [Picture.fit, hsize]
    · rfl

theorem Holds.decoded? {b : Bitmap} {p : Picture} (h : b.Holds p) (hwidth : 0 < p.width)
    (hheight : 0 < p.height) :
    b.decoded? = some ⟨p.width, p.height, hwidth, hheight⟩ := by
  have hsize : p.size? = some ⟨p.width, p.height, hwidth, hheight⟩ := dif_pos ⟨hwidth, hheight⟩
  cases h with
  | picture p => exact hsize
  | encoded mode p => exact (if_neg (by omega)).trans hsize

/-- Of two pictures of a size the darker one has all the dots of the other, at whatever width.
Either both can be fitted or both fail in the same way, and they can if they are not scaled down or
have not too many pixels for that.  It makes no difference whether they are scaled at all, in one
pass or in bands, and how the windows are laid and weighed. -/
theorem fit_covers {p q : Picture} (h : p.NoLighter q) {limit : Int} (hlimit : 1 ≤ limit) :
    (∀ a b : Bitmap, a.Holds p → b.Holds q →
      Outcome.Alike Raster.Covers (a.fit limit) (b.fit limit) ∧
        (0 < p.width → 0 < p.height →
          (limit < p.width → p.width * p.height ≤ Picture.pixelLimit) →
          ∃ r s, a.fit limit = .ok r ∧ b.fit limit = .ok s ∧ r.Covers s)) ∧
    p.toGray.NoLighter q.toGray ∧
    ∀ (α : Type) [Coordinate α] (target : Size),
      (p.scaledAtOnce α target).NoLighter (q.scaledAtOnce α target) ∧
        (p.scaledInBands α target).NoLighter (q.scaledInBands α target) := by
  refine ⟨fun a b ha hb => ?_, Picture.toGray_mono h, fun α _ target =>
    ⟨Picture.scaledAtOnce_mono h α target, Picture.scaledInBands_mono h α target⟩⟩
  have hpos : 0 < limit.toNat := by omega
  have halike : Outcome.Alike Raster.Covers (a.fit limit) (b.fit limit) := by
    rw [ha.fit hpos, hb.fit hpos]
    exact Picture.fit_mono h hpos
  refine ⟨halike, fun hwidth hheight hmodest => ?_⟩
  obtain ⟨r, s, -, hr, -⟩ := fit_ok hpos (ha.decoded? hwidth hheight)
    fun (hwide : limit.toNat < p.width) => hmodest (by omega)
  rw [Int.toNat_of_nonneg (by omega)] at hr
  rw [hr] at halike
  generalize b.fit limit = fitted at halike ⊢
  cases halike with
  | ok hcovers => exact ⟨r, _, hr, rfl, hcovers⟩

def smoke : Picture := ⟨.rgba, 2, 1, [60, 50, 40, 255, 90, 80, 70, 0].toByteArray⟩

def mist : Picture := ⟨.rgba, 2, 1, [60, 70, 40, 0, 90, 210, 190, 128].toByteArray⟩

theorem smoke_noLighter : smoke.NoLighter mist :=
  ⟨rfl, .inr (.inr rfl), rfl, rfl, by decide, by decide +kernel⟩

theorem fit_covers_mist :
    smoke.NoLighter mist ∧ (1 : Int) ≤ 1 ∧ (1 : Int) ≤ 2 ∧
      (∃ r s, (picture smoke).fit 1 = .ok r ∧ (picture mist).fit 1 = .ok s ∧ r.Covers s) ∧
      ∃ r s, (picture smoke).fit 2 = .ok r ∧ (picture mist).fit 2 = .ok s ∧ r.Covers s ∧
        r.data.toList = [0xC0] ∧ s.data.toList = [0x80] := by
  have hscaled := (fit_covers smoke_noLighter (by decide : (1 : Int) ≤ 1)).1 _ _ (.picture smoke)
    (.picture mist)
  have hplain := (fit_covers smoke_noLighter (by decide : (1 : Int) ≤ 2)).1 _ _ (.picture smoke)
    (.picture mist)
  refine ⟨smoke_noLighter, by decide, by decide,
    hscaled.2 (by decide) (by decide) (by decide), ?_⟩
  obtain ⟨r, s, hr, hs, hcovers⟩ := hplain.2 (by decide) (by decide) (by decide)
  refine ⟨r, s, hr, hs, hcovers, ?_, ?_⟩
  · cases hr
    decide +kernel
  · cases hs
    decide +kernel

end Bitmap
end ThermalPrint
