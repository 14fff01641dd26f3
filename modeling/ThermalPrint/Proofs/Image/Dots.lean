import ThermalPrint.Image.Gray
import ThermalPrint.Proofs.Bytes

/-
Dots and the bytes that they are packed into.  Each dot has a bit of its own, the bits that fill up
a row are clear, and rows that are cut out of an image are packed as they are packed in it.
-/

namespace ThermalPrint
namespace Raster

section Bits

/-- The number whose binary digits are the first `m` of `f`, the first of them in front. -/
def bitsNumber (f : Nat → Bool) (m : Nat) : Nat :=
  (List.range m).foldl (fun n k => 2 * n + (f k).toNat) 0

theorem bitsNumber_succ (f : Nat → Bool) (m : Nat) :
    bitsNumber f (m + 1) = 2 * bitsNumber f m + (f m).toNat := by
  unfold bitsNumber
  rw [List.range_succ, List.foldl_append]
  rfl

theorem bitsNumber_lt (f : Nat → Bool) (m : Nat) : bitsNumber f m < 2 ^ m := by
  induction m with
  | zero => exact Nat.one_pos
  | succ m ih =>
    have hbit := Bool.toNat_le (f m)
    rw [bitsNumber_succ, Nat.pow_succ]
    omega

theorem testBit_bitsNumber (f : Nat → Bool) {m k : Nat} (h : k < m) :
    (bitsNumber f m).testBit (m - 1 - k) = f k := by
  induction m with
  | zero => exact absurd h (Nat.not_lt_zero k)
  | succ m ih =>
    rw [bitsNumber_succ]
    rcases Nat.lt_or_eq_of_le (Nat.le_of_lt_succ h) with hlt | rfl
    · have hplace : m + 1 - 1 - k = m - 1 - k + 1 := by omega
      have hbit := Bool.toNat_le (f m)
      have hhalf : (2 * bitsNumber f m + (f m).toNat) / 2 = bitsNumber f m := by
        cases f m <;> simp only [Bool.toNat_true, Bool.toNat_false] <;> omega
      rw [hplace, Nat.testBit_succ, hhalf, ih hlt]
    · rw [Nat.add_sub_cancel, Nat.sub_self, Nat.testBit_zero]
      cases f k <;> simp

theorem testBit_packByte (f : Nat → Bool) {k : Nat} (h : k < 8) :
    (packByte f).toNat.testBit (7 - k) = f k := by
  have hnumber : (packByte f).toNat = bitsNumber f 8 := by
    show (UInt8.ofNat (bitsNumber f 8)).toNat = _
    rw [UInt8.toNat_ofNat']
    exact Nat.mod_eq_of_lt (bitsNumber_lt f 8)
  rw [hnumber]
  exact testBit_bitsNumber f h

end Bits

section Rows

variable {width height x y : Nat} {black : Nat → Nat → Bool}

theorem row_place_lt {w : Nat} (hx : x < w) (hy : y < height) : y * w + x < w * height := by
  have hrow : (y + 1) * w ≤ height * w := Nat.mul_le_mul_right w hy
  rw [Nat.add_mul, Nat.one_mul, Nat.mul_comm height w] at hrow
  omega

theorem row_place_mod {w : Nat} (hx : x < w) : (y * w + x) % w = x := by
  rw [Nat.mul_add_mod_self_right, Nat.mod_eq_of_lt hx]

theorem row_place_div {w : Nat} (hx : x < w) : (y * w + x) / w = y := by
  rw [Nat.mul_comm, Nat.mul_add_div (Nat.lt_of_le_of_lt (Nat.zero_le x) hx),
    Nat.div_eq_of_lt hx, Nat.add_zero]

/-- A dot of a packed raster is the one that was packed, and none behind the end of its row. -/
theorem dot_ofDots {width_pos : 0 < width} {height_pos : 0 < height}
    (hx : x < 8 * rowBytes width) (hy : y < height) :
    (ofDots width height width_pos height_pos black).dot x y =
      (decide (x < width) && black x y) := by
  have hbyte : x / 8 < rowBytes width := by omega
  have hbit : x % 8 < 8 := Nat.mod_lt x (by decide)
  show (Bytes.get (packDots width height black) (y * rowBytes width + x / 8)).toNat.testBit _ = _
  unfold packDots
  rw [Bytes.get_generate _ (row_place_lt hbyte hy), row_place_mod hbyte, row_place_div hbyte,
    testBit_packByte _ hbit, Nat.div_add_mod]

theorem packDots_congr {black' : Nat → Nat → Bool}
    (h : ∀ x < width, ∀ y < height, black x y = black' x y) :
    packDots width height black = packDots width height black' := by
  unfold packDots
  refine Bytes.generate_congr fun i hi => congrArg packByte (funext fun k => ?_)
  have hy : i / rowBytes width < height := Nat.div_lt_of_lt_mul hi
  by_cases hx : 8 * (i % rowBytes width) + k < width
  · rw [h _ hx _ hy]
  · rw [decide_eq_false hx, Bool.false_and, Bool.false_and]

/-- The packed bytes of some rows of an image are the image of those rows. -/
theorem slice_packDots {top bottom : Nat} (h : bottom ≤ height) :
    Bytes.slice (packDots width height black) (top * rowBytes width) (bottom * rowBytes width) =
      (packDots width (bottom - top) fun x y => black x (top + y)).toList := by
  have hlength : bottom * rowBytes width ≤ rowBytes width * height := by
    rw [Nat.mul_comm]
    exact Nat.mul_le_mul_left _ h
  unfold packDots
  rw [Bytes.slice_eq, ← Bytes.toList_eq, Bytes.toList_generate, Bytes.toList_generate,
    ← List.map_take, ← List.map_drop, List.take_range, Nat.min_eq_left hlength]
  have hcount : bottom * rowBytes width - top * rowBytes width =
      rowBytes width * (bottom - top) := by
    rw [← Nat.sub_mul, Nat.mul_comm]
  refine List.ext_getElem ?_ fun i hi hi' => ?_
  · simp [hcount]
  · have hpos : 0 < rowBytes width := by
      rw [List.length_map, List.length_range] at hi'
      exact Nat.pos_of_mul_pos_right (Nat.lt_of_le_of_lt (Nat.zero_le i) hi')
    simp only [List.getElem_map, List.getElem_drop, List.getElem_range]
    rw [Nat.mul_comm top, Nat.mul_add_mod, Nat.mul_add_div hpos]

end Rows

section Ink

theorem level_ofLevels {width height x y : Nat} {f : Nat → Nat → UInt8} (hx : x < width)
    (hy : y < height) : (Gray.ofLevels width height f).level x y = f x y := by
  show Bytes.get (Bytes.generate (width * height) _) (y * width + x) = _
  rw [Bytes.get_generate _ (row_place_lt hx hy), row_place_mod hx, row_place_div hx]

/-- Ink that is drawn black on white is the same ink again. -/
theorem isInk_level (black : Bool) : Gray.isInk (if black then 0 else 255) = black := by
  cases black <;> decide

/-- The ink of some rows of a drawn raster is what these rows are packed into. -/
theorem ink_rows (r : Raster) {top bottom : Nat} (h : bottom ≤ r.height) :
    (r.toGray.rows top bottom).ink.toList =
      Bytes.slice r.repack.data (top * r.bytesPerRow) (bottom * r.bytesPerRow) := by
  have hink : (r.toGray.rows top bottom).ink =
      packDots r.width (bottom - top) fun x y => r.dot x (top + y) := by
    refine packDots_congr fun x (hx : x < r.width) y (hy : y < bottom - top) => ?_
    have hrow : top + y < r.height := by omega
    have hband : (r.toGray.rows top bottom).level x y = r.toGray.level x (top + y) :=
      level_ofLevels hx hy
    have hdrawn : r.toGray.level x (top + y) = if r.dot x (top + y) then 0 else 255 :=
      level_ofLevels hx hrow
    rw [hband, hdrawn, isInk_level]
  rw [hink]
  exact (slice_packDots h).symm

end Ink

end Raster
end ThermalPrint
