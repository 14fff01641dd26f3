import Mathlib.Data.Rat.Floor
import Mathlib.Tactic.FieldSimp
import Mathlib.Tactic.Linarith
import Mathlib.Tactic.Ring
import ThermalPrint.Image.Resample
import ThermalPrint.Proofs.Image.Blocks
import ThermalPrint.Proofs.Image.Levels

/-
A picture scaled in bands.

With fractions in the place of doubles nothing is rounded but the weights.  A window then depends
on its scale and its center alone, and goes with its center where that is moved by whole pixels.

A band begins at a fraction of a row, and has the whole rows around what its output rows are made
of.  In exact numbers that is enough: the window of each output row is in the rows of its band, and
it is the window of that row in the whole picture.  So there are no seams, whatever the ratio of
the heights and however many rows the last band has.
-/

namespace ThermalPrint

/-- Fractions, with their bounds as they are. -/
instance : Coordinate ℚ where
  ofNat n := n
  less a b := decide (a < b)
  cutOff x := ⌊x⌋₊
  roundUp x := ⌈x⌉₊
  bound x := x

namespace Resample

/-- How far a window of a scale reaches to either side. -/
def support (scale : ℚ) : ℚ := 1 / 2 * max scale 1

def low (scale center : ℚ) : Nat := ⌊center - support scale + 1 / 2⌋₊

def high (scale center : ℚ) : Nat := ⌊center + support scale + 1 / 2⌋₊

def belongs (scale center : ℚ) (pixel : Nat) : Bool :=
  let d := (pixel - center + 1 / 2) * (1 / max scale 1)
  decide (0 - 1 / 2 < d) && !decide (1 / 2 < d)

def weightsOf (scale center : ℚ) (first count : Nat) : List Nat :=
  let inside := (List.range count).map fun x => belongs scale center (x + first)
  inside.map fun member =>
    if member then ⌊1 / 2 + 1 / (inside.countP id : ℚ) * (2 ^ precision : Nat)⌋₊ else 0

theorem window_eq (inputs : Nat) (span : Span ℚ) (outputs output : Nat) {scale center : ℚ}
    (hscale : (span.stop - span.start) / outputs = scale)
    (hcenter : span.start + (output + 1 / 2) * scale = center) :
    window inputs span outputs output =
      ⟨low scale center,
        weightsOf scale center (low scale center)
          (min inputs (high scale center) - low scale center)⟩ := by
  subst hscale hcenter
  have hreach : ∀ x : ℚ, (if decide (x < 1) = true then 1 else x) = max x 1 := by
    intro x
    by_cases hx : x < 1
    · rw [decide_eq_true hx, if_pos rfl, max_eq_right hx.le]
    · rw [decide_eq_false hx, if_neg Bool.false_ne_true, max_eq_left (not_lt.1 hx)]
  unfold low high weightsOf belongs support
  rw [← hreach]
  rfl

theorem low_le_high (scale center : ℚ) : low scale center ≤ high scale center := by
  have hpos : 0 ≤ support scale := by
    have hone := le_max_right scale 1
    unfold support
    linarith
  refine Nat.floor_mono ?_
  linarith

theorem weightsOf_length (scale center : ℚ) (first count : Nat) :
    (weightsOf scale center first count).length = count := by
  simp [weightsOf]

/-! ## A window that is moved -/

section Moved

variable {scale center : ℚ} {top : Nat}

theorem low_moved (scale center : ℚ) (top : Nat) :
    low scale (center - top) = low scale center - top := by
  unfold low
  rw [← Nat.floor_sub_natCast]
  congr 1
  ring

theorem high_moved (scale center : ℚ) (top : Nat) :
    high scale (center - top) = high scale center - top := by
  unfold high
  rw [← Nat.floor_sub_natCast]
  congr 1
  ring

theorem weightsOf_moved {first : Nat} (h : top ≤ first) (count : Nat) :
    weightsOf scale (center - top) (first - top) count = weightsOf scale center first count := by
  have hbelongs : ∀ x : Nat, belongs scale (center - top) (x + (first - top)) =
      belongs scale center (x + first) := by
    intro x
    have hplace : ((x + (first - top) : Nat) : ℚ) - (center - top) =
        ((x + first : Nat) : ℚ) - center := by
      rw [Nat.cast_add, Nat.cast_add, Nat.cast_sub h]
      ring
    unfold belongs
    rw [hplace]
  unfold weightsOf
  simp only [hbelongs]

/-- The window is the same in some rows as in all, if it is in these rows. -/
theorem window_moved {inputs bottom outputs output rows row : Nat} {span part : Span ℚ}
    (hscale : (span.stop - span.start) / outputs = scale)
    (hcenter : span.start + (output + 1 / 2) * scale = center)
    (hpart : (part.stop - part.start) / rows = scale)
    (hmoved : part.start + (row + 1 / 2) * scale = center - top)
    (hlow : top ≤ low scale center) (hhigh : high scale center ≤ bottom)
    (hbottom : bottom ≤ inputs) :
    let whole := window inputs span outputs output
    let own := window (bottom - top) part rows row
    whole.first = top + own.first ∧ whole.weights = own.weights ∧
      own.first + own.weights.length ≤ bottom - top := by
  have horder := low_le_high scale center
  have hall : min inputs (high scale center) = high scale center := by omega
  have hrows : min (bottom - top) (high scale center - top) - (low scale center - top) =
      high scale center - low scale center := by omega
  intro whole own
  have hwhole : whole = _ := window_eq inputs span outputs output hscale hcenter
  have hown : own = _ := window_eq (bottom - top) part rows row hpart hmoved
  rw [hall] at hwhole
  rw [low_moved, high_moved, hrows, weightsOf_moved hlow] at hown
  rw [hwhole, hown]
  refine ⟨(Nat.add_sub_cancel' hlow).symm, rfl, ?_⟩
  dsimp only
  rw [weightsOf_length]
  omega

end Moved

/-! ## Bands -/

theorem isWhole_iff {length outputs : Nat} {span : Span ℚ} :
    isWhole length outputs span = true ↔
      length = outputs ∧ span.start = 0 ∧ span.stop = length := by
  have hsame : ∀ a b : ℚ, (!decide (a < b) && !decide (b < a)) = true ↔ a = b := by
    intro a b
    rw [Bool.and_eq_true, Bool.not_eq_true', Bool.not_eq_true', decide_eq_false_iff_not,
      decide_eq_false_iff_not, not_lt, not_lt]
    exact ⟨fun h => le_antisymm h.2 h.1, fun h => ⟨h.ge, h.le⟩⟩
  have hzero : ((0 : Nat) : ℚ) = 0 := Nat.cast_zero
  unfold isWhole
  rw [Bool.and_eq_true, Bool.and_eq_true, beq_iff_eq, and_assoc]
  refine and_congr_right fun _ => ?_
  rw [← hzero]
  exact and_congr (hsame _ _) (hsame _ _)

end Resample

namespace Picture

open Resample (window isWhole low high support)

section Band

variable {height outputs : Nat}

def rowsEach (height outputs : Nat) : ℚ := height / outputs

def startRow (height outputs output : Nat) : Nat := ⌊output * rowsEach height outputs⌋₊

def stopRow (height outputs output : Nat) : Nat := ⌈output * rowsEach height outputs⌉₊

theorem rowsEach_pos (hheight : 0 < height) (houtputs : 0 < outputs) :
    0 < rowsEach height outputs :=
  div_pos (Nat.cast_pos.2 hheight) (Nat.cast_pos.2 houtputs)

theorem rows_le (houtputs : 0 < outputs) {output : Nat} (h : output ≤ outputs) :
    output * rowsEach height outputs ≤ height := by
  have hpos : 0 ≤ rowsEach height outputs := div_nonneg (Nat.cast_nonneg _) (Nat.cast_nonneg _)
  calc output * rowsEach height outputs
      ≤ outputs * rowsEach height outputs := mul_le_mul_of_nonneg_right (Nat.cast_le.2 h) hpos
    _ = height := mul_div_cancel₀ _ (Nat.cast_ne_zero.2 houtputs.ne')

/-- One row goes into one output row if all rows of a picture stay as they are, and only then. -/
theorem rowsEach_eq_one_iff (houtputs : 0 < outputs) :
    rowsEach height outputs = 1 ↔ height = outputs := by
  unfold rowsEach
  rw [div_eq_one_iff_eq (Nat.cast_ne_zero.2 houtputs.ne'), Nat.cast_inj]

theorem startRow_one (h : rowsEach height outputs = 1) (output : Nat) :
    startRow height outputs output = output := by
  unfold startRow
  rw [h, mul_one, Nat.floor_natCast]

theorem stopRow_one (h : rowsEach height outputs = 1) (output : Nat) :
    stopRow height outputs output = output := by
  unfold stopRow
  rw [h, mul_one, Nat.ceil_natCast]

theorem stopRow_le (houtputs : 0 < outputs) {output : Nat} (h : output ≤ outputs) :
    stopRow height outputs output ≤ height := Nat.ceil_le.2 (rows_le houtputs h)

theorem startRow_le (hheight : 0 < height) (houtputs : 0 < outputs) (output : Nat) :
    (startRow height outputs output : ℚ) ≤ output * rowsEach height outputs :=
  Nat.floor_le (mul_nonneg (Nat.cast_nonneg _) (rowsEach_pos hheight houtputs).le)

theorem startRow_lt_stopRow (hheight : 0 < height) (houtputs : 0 < outputs) {first last : Nat}
    (h : first < last) : startRow height outputs first < stopRow height outputs last := by
  have hmore : (first : ℚ) * rowsEach height outputs < last * rowsEach height outputs :=
    mul_lt_mul_of_pos_right (Nat.cast_lt.2 h) (rowsEach_pos hheight houtputs)
  have hceil := Nat.le_ceil ((last : ℚ) * rowsEach height outputs)
  exact Nat.cast_lt.1 (((startRow_le hheight houtputs first).trans_lt hmore).trans_le hceil)

/-- In exact numbers a band has the whole rows from where it begins to where it ends. -/
theorem band_eq (hheight : 0 < height) (houtputs : 0 < outputs) {first rows : Nat}
    (hrows : 0 < rows) (hlast : first + rows ≤ outputs) :
    Band.of ℚ height outputs first rows =
      ⟨startRow height outputs first, stopRow height outputs (first + rows),
        ⟨first * rowsEach height outputs - (startRow height outputs first : Nat),
          (first + rows : Nat) * rowsEach height outputs -
            (startRow height outputs first : Nat)⟩⟩ := by
  have hstop : (first + rows : Nat) * rowsEach height outputs ≤ height := rows_le houtputs hlast
  have hscaled : ∀ x : ℚ, x ≤ height → (if decide (x < height) = true then x else height) = x := by
    intro x hx
    by_cases hlt : x < height
    · rw [decide_eq_true hlt, if_pos rfl]
    · rw [decide_eq_false hlt, if_neg Bool.false_ne_true, le_antisymm hx (not_lt.1 hlt)]
  have hless := startRow_lt_stopRow hheight houtputs (Nat.lt_add_of_pos_right hrows (n := first))
  have hbottom : max (startRow height outputs first + 1)
      (min height (stopRow height outputs (first + rows))) =
      stopRow height outputs (first + rows) := by
    rw [min_eq_right (stopRow_le houtputs hlast), max_eq_right hless]
  have hband : Band.of ℚ height outputs first rows = ⟨startRow height outputs first,
      max (startRow height outputs first + 1) (min height
        ⌈if decide (((first + rows : Nat) : ℚ) * rowsEach height outputs < height) = true
          then ((first + rows : Nat) : ℚ) * rowsEach height outputs else height⌉₊),
      ⟨first * rowsEach height outputs - (startRow height outputs first : Nat),
        (if decide (((first + rows : Nat) : ℚ) * rowsEach height outputs < height) = true
          then ((first + rows : Nat) : ℚ) * rowsEach height outputs else height) -
          (startRow height outputs first : Nat)⟩⟩ := rfl
  rw [hband, hscaled _ hstop, ← hbottom]
  rfl

def rowCenter (height outputs output : Nat) : ℚ := (output + 1 / 2) * rowsEach height outputs

/-- The window of an output row begins no earlier than the band that the row is in. -/
theorem startRow_le_low (hheight : 0 < height) (houtputs : 0 < outputs) {first output : Nat}
    (h : first ≤ output) : startRow height outputs first ≤
      low (rowsEach height outputs) (rowCenter height outputs output) := by
  have heach := rowsEach_pos hheight houtputs
  have hmore : (first : ℚ) * rowsEach height outputs ≤ output * rowsEach height outputs :=
    mul_le_mul_of_nonneg_right (Nat.cast_le.2 h) heach.le
  refine Nat.floor_mono ?_
  unfold rowCenter support
  rcases le_total (rowsEach height outputs) 1 with hsmall | hlarge
  · rw [max_eq_right hsmall]
    linarith
  · rw [max_eq_left hlarge]
    linarith

theorem high_le_stopRow (hheight : 0 < height) (houtputs : 0 < outputs) {output last : Nat}
    (h : output < last) : high (rowsEach height outputs) (rowCenter height outputs output) ≤
      stopRow height outputs last := by
  have heach := rowsEach_pos hheight houtputs
  have hnext : ((output : ℚ) + 1) * rowsEach height outputs ≤ last * rowsEach height outputs :=
    mul_le_mul_of_nonneg_right (by exact_mod_cast h) heach.le
  have hceil : (last : ℚ) * rowsEach height outputs ≤ (stopRow height outputs last : Nat) :=
    Nat.le_ceil _
  refine Nat.lt_succ_iff.1 ((Nat.floor_lt' (Nat.succ_ne_zero _)).2 ?_)
  rw [Nat.cast_succ]
  unfold rowCenter support
  rcases le_total (rowsEach height outputs) 1 with hsmall | hlarge
  · rw [max_eq_right hsmall]
    linarith
  · rw [max_eq_left hlarge]
    linarith

section Rows

variable {first rows : Nat} (hheight : 0 < height) (houtputs : 0 < outputs) (hrows : 0 < rows)
  (hlast : first + rows ≤ outputs)

include hheight houtputs hrows hlast

/-- What an output row is made of in its band is what it is made of in the whole picture. -/
theorem window_band {row : Nat} (hrow : row < rows) :
    let band := Band.of ℚ height outputs first rows
    let whole := window height (⟨0, height⟩ : Resample.Span ℚ) outputs (first + row)
    let own := window (band.bottom - band.top) band.span rows row
    whole.first = band.top + own.first ∧ whole.weights = own.weights ∧
      own.first + own.weights.length ≤ band.bottom - band.top := by
  have hrows' : (rows : ℚ) ≠ 0 := Nat.cast_ne_zero.2 hrows.ne'
  have hlow : startRow height outputs first ≤
      Resample.low (rowsEach height outputs) (rowCenter height outputs (first + row)) :=
    startRow_le_low hheight houtputs (Nat.le_add_right _ _)
  have hhigh : Resample.high (rowsEach height outputs) (rowCenter height outputs (first + row)) ≤
      stopRow height outputs (first + rows) :=
    high_le_stopRow hheight houtputs (Nat.add_lt_add_left hrow _)
  rw [band_eq hheight houtputs hrows hlast]
  refine Resample.window_moved ?_ ?_ ?_ ?_ hlow hhigh (stopRow_le houtputs hlast)
  · rw [sub_zero]
    rfl
  · exact zero_add _
  · rw [sub_sub_sub_cancel_right, Nat.cast_add, ← sub_mul, add_sub_cancel_left,
      mul_div_cancel_left₀ _ hrows']
  · unfold rowCenter
    dsimp only
    rw [Nat.cast_add]
    ring

/-- The rows of a band stay as they are when all rows do, and then they begin with its first. -/
theorem isWhole_band :
    let band := Band.of ℚ height outputs first rows
    isWhole (band.bottom - band.top) rows band.span =
      isWhole height outputs (⟨0, height⟩ : Resample.Span ℚ) ∧
    (isWhole height outputs (⟨0, height⟩ : Resample.Span ℚ) = true → band.top = first) := by
  have hrows' : (rows : ℚ) ≠ 0 := Nat.cast_ne_zero.2 hrows.ne'
  rw [band_eq hheight houtputs hrows hlast]
  intro band
  have hall : isWhole height outputs (⟨0, height⟩ : Resample.Span ℚ) = true ↔
      rowsEach height outputs = 1 := by
    rw [Resample.isWhole_iff, rowsEach_eq_one_iff houtputs]
    exact ⟨And.left, fun h => ⟨h, rfl, rfl⟩⟩
  refine ⟨Bool.eq_iff_iff.2 ?_, fun h => startRow_one (hall.1 h) first⟩
  rw [hall, Resample.isWhole_iff]
  constructor
  · rintro ⟨hlength, hstart, hstop⟩
    -- As many rows go in as come out, so each output row is one row.
    have hspan : (rows : ℚ) * rowsEach height outputs = rows := by
      have hdifference :
          band.span.stop - band.span.start = (rows : ℚ) * rowsEach height outputs := by
        show _ - _ - (_ - _) = _
        rw [sub_sub_sub_cancel_right, Nat.cast_add]
        ring
      rw [← hdifference, hstart, hstop, hlength, sub_zero]
    exact (mul_right_eq_self₀.1 hspan).resolve_right hrows'
  · intro heach
    have htop : band.top = first := startRow_one heach first
    have hbottom : band.bottom = first + rows := stopRow_one heach (first + rows)
    have hstart : band.span.start = first * rowsEach height outputs - (band.top : Nat) := rfl
    have hstop : band.span.stop =
        (first + rows : Nat) * rowsEach height outputs - (band.top : Nat) := rfl
    refine ⟨by omega, ?_, ?_⟩
    · rw [hstart, htop, heach, mul_one, sub_self]
    · rw [hstop, htop, hbottom, heach, mul_one, Nat.add_sub_cancel_left, Nat.cast_add,
        add_sub_cancel_left]

/-- A band is inside of the picture, and what its output rows divide is inside of the band. -/
theorem band_inside :
    let band := Band.of ℚ height outputs first rows
    band.top < band.bottom ∧ band.bottom ≤ height ∧ 0 ≤ band.span.start ∧
      band.span.stop ≤ (band.bottom - band.top : Nat) := by
  have hless := startRow_lt_stopRow hheight houtputs (Nat.lt_add_of_pos_right hrows (n := first))
  rw [band_eq hheight houtputs hrows hlast]
  refine ⟨hless, stopRow_le houtputs hlast, sub_nonneg.2 (startRow_le hheight houtputs first), ?_⟩
  rw [Nat.cast_sub hless.le]
  exact sub_le_sub_right (Nat.le_ceil _) _

end Rows

end Band

section Levels

variable {p : Picture} {s : Size} {first rows x row : Nat}

theorem level_grayRows {top bottom y : Nat} (hx : x < p.width) (hy : y < bottom - top) :
    (p.grayRows top bottom).level x y = p.level x (top + y) := Raster.level_ofLevels hx hy

/-- An output row of a band is that row of the picture scaled in one pass. -/
theorem level_scaledBand (hheight : 0 < p.height) (hrows : 0 < rows)
    (hlast : first + rows ≤ s.height) (hx : x < s.width) (hrow : row < rows) :
    (p.scaledBand ℚ s first rows).level x row = (p.scaledAtOnce ℚ s).level x (first + row) := by
  have hwindow := window_band hheight s.height_pos hrows hlast hrow
  have hwhole := isWhole_band hheight s.height_pos hrows hlast
  have hinside := band_inside hheight s.height_pos hrows hlast
  unfold scaledBand scaledAtOnce
  generalize Band.of ℚ p.height s.height first rows = band at *
  dsimp only at hwindow hwhole hinside ⊢
  -- The rows of the band, at their width, are rows of the picture at that width.
  have hwide : ∀ i < band.bottom - band.top,
      (Resample.widened (p.grayRows band.top band.bottom) s.width
        ⟨Coordinate.ofNat 0, (Coordinate.ofNat p.width : ℚ)⟩).level x i =
      (Resample.widened p.toGray s.width
        ⟨Coordinate.ofNat 0, (Coordinate.ofNat p.width : ℚ)⟩).level x (band.top + i) := by
    intro i hi
    have hbottom := hinside.2.1
    refine Resample.widened_congr rfl hi (show band.top + i < p.height - 0 by omega)
      (fun x hx => ?_) hx
    have hall : p.toGray.level x (band.top + i) = p.level x (0 + (band.top + i)) :=
      level_grayRows hx (show band.top + i < p.height - 0 by omega)
    rw [level_grayRows hx hi, hall, Nat.zero_add]
  have hheights : p.toGray.height = p.height := Nat.sub_zero _
  rw [Resample.level_resize hx hrow,
    Resample.level_resize hx (show first + row < s.height by omega), hheights]
  show (if isWhole (band.bottom - band.top) rows band.span then _
    else (window (band.bottom - band.top) band.span rows row).average _) =
    if isWhole p.height s.height (⟨0, p.height⟩ : Resample.Span ℚ) then _
    else (window p.height (⟨0, p.height⟩ : Resample.Span ℚ) s.height (first + row)).average _
  rw [hwhole.1]
  split
  · rename_i hall
    have htop := hwhole.2 hall
    have hrows' : band.bottom - band.top = rows := Resample.isWhole_length (hwhole.1.trans hall)
    rw [hwide row (by omega), htop]
  · refine Resample.Window.average_congr hwindow.1 hwindow.2.1 fun i _ hi => ?_
    exact hwide i (lt_of_lt_of_le hi hwindow.2.2)

theorem scaledInBands_eq (hheight : 0 < p.height) : p.scaledInBands ℚ s = p.scaledAtOnce ℚ s := by
  have hsize : (p.scaledAtOnce ℚ s).width = s.width ∧ (p.scaledAtOnce ℚ s).height = s.height :=
    Resample.resize_size
  have hrowsOf : ∀ first rows, (p.scaledBand ℚ s first rows).height = rows :=
    fun first rows => Resample.resize_size.2
  refine Gray.ext_level hsize.1.symm hsize.2.symm fun x hx y hy => ?_
  refine Gray.level_pasted (f := (p.scaledAtOnce ℚ s).level) (fun top part hmem x hx y hy => ?_) ?_
    hx hy
  · obtain ⟨⟨first, rows⟩, hblock, heq⟩ := List.mem_map.1 hmem
    obtain ⟨rfl, rfl⟩ := Prod.mk.inj heq
    obtain ⟨hrows, -, hlast⟩ := Raster.mem_blockRows (by decide) hblock
    rw [hrowsOf] at hy
    exact level_scaledBand hheight hrows hlast hx hy
  · have hall : (Raster.blockRows s.height bandRows).flatMap (fun p => List.range' p.1 p.2) =
        List.range' 0 s.height := Raster.flatMap_blockRows (by decide)
    have hmem : y ∈ (Raster.blockRows s.height bandRows).flatMap fun p => List.range' p.1 p.2 := by
      rw [hall, List.mem_range'_1]
      exact ⟨Nat.zero_le y, by rw [Nat.zero_add]; exact hy⟩
    obtain ⟨⟨first, rows⟩, hblock, hrows⟩ := List.mem_flatMap.1 hmem
    obtain ⟨hfirst, hlast⟩ := List.mem_range'_1.1 hrows
    refine ⟨first, _, List.mem_map.2 ⟨(first, rows), hblock, rfl⟩, hfirst, ?_⟩
    rw [hrowsOf]
    exact hlast

end Levels

/-- Scaled in bands, a picture is what it is scaled in one pass.  The bands have every output row
once and in order, each has the rows that it divides, and no window is cut off at the edge of a
band. -/
theorem bands_without_seams (p : Picture) (hheight : 0 < p.height) (s : Size) :
    p.scaledInBands ℚ s = p.scaledAtOnce ℚ s ∧
    (Raster.blockRows s.height bandRows).flatMap (fun (first, rows) => List.range' first rows) =
      List.range' 0 s.height ∧
    ∀ first rows, (first, rows) ∈ Raster.blockRows s.height bandRows →
      let band := Band.of ℚ p.height s.height first rows
      (band.top < band.bottom ∧ band.bottom ≤ p.height ∧ 0 ≤ band.span.start ∧
        band.span.stop ≤ (band.bottom - band.top : Nat)) ∧
      ∀ row < rows,
        let whole := window p.height (⟨0, p.height⟩ : Resample.Span ℚ) s.height (first + row)
        let own := window (band.bottom - band.top) band.span rows row
        whole.first = band.top + own.first ∧ whole.weights = own.weights ∧
          own.first + own.weights.length ≤ band.bottom - band.top := by
  refine ⟨scaledInBands_eq hheight, Raster.flatMap_blockRows (by decide),
    fun first rows hblock => ?_⟩
  obtain ⟨hrows, -, hlast⟩ := Raster.mem_blockRows (by decide) hblock
  exact ⟨band_inside hheight s.height_pos hrows hlast,
    fun row hrow => window_band hheight s.height_pos hrows hlast hrow⟩

def stripes : Picture := ⟨.gray, 3, 71, Bytes.generate (3 * 71) fun i => UInt8.ofNat (29 * i)⟩

theorem bands_without_seams_stripes :
    let target : Size := ⟨2, 47, by decide, by decide⟩
    let band := Band.of ℚ 71 47 32 15
    stripes.scaledInBands ℚ target = stripes.scaledAtOnce ℚ target ∧
      Raster.blockRows 47 bandRows = [(0, 32), (32, 15)] ∧
      band.top = 48 ∧ band.bottom = 71 ∧ band.span.start = 16 / 47 ∧
      0 ≤ band.span.start ∧ band.span.stop ≤ (band.bottom - band.top : Nat) := by
  intro target band
  have hblocks : Raster.blockRows 47 bandRows = [(0, 32), (32, 15)] := by decide
  have hheight : 0 < stripes.height := by decide
  obtain ⟨hsame, -, hbands⟩ := bands_without_seams stripes hheight target
  have hblock : (32, 15) ∈ Raster.blockRows target.height bandRows := by
    show _ ∈ Raster.blockRows 47 bandRows
    rw [hblocks]
    exact List.mem_cons_of_mem _ List.mem_cons_self
  obtain ⟨⟨-, -, hstart, hstop⟩, -⟩ := hbands 32 15 hblock
  exact ⟨hsame, hblocks, by decide +kernel, by decide +kernel, by decide +kernel, hstart, hstop⟩

end Picture
end ThermalPrint
