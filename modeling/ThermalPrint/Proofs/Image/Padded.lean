import Mathlib.Algebra.BigOperators.Group.Finset.Sigma
import Mathlib.Algebra.BigOperators.Intervals
import Mathlib.Data.Finset.Prod
import ThermalPrint.Proofs.Image.Dots
import ThermalPrint.Proofs.Image.Refit

/-
Rasters in wider fields, and their ink.

The ink of a raster is the number of its black dots.  Counted byte by byte it is the same, as long
as the bits behind the end of a row are masked.

In a field the dots of a raster are moved by any number of places, so that bits go from one byte to
another, and neither the bits behind the ends of its rows nor those behind the ends of the field's
turn into dots.
-/

namespace ThermalPrint
namespace Raster

open Finset (range)

/-! ## Ink -/

def inked (r : Raster) : Finset (Nat × Nat) :=
  (range r.width ×ˢ range r.height).filter fun place => r.dot place.1 place.2 = true

theorem mem_inked {r : Raster} {x y : Nat} :
    (x, y) ∈ r.inked ↔ x < r.width ∧ y < r.height ∧ r.dot x y = true := by
  unfold inked
  rw [Finset.mem_filter, Finset.mem_product, Finset.mem_range, Finset.mem_range, and_assoc]

theorem fold_add (f : Nat → Nat) (n sum : Nat) :
    n.fold (fun i _ sum => sum + f i) sum = sum + ∑ i ∈ range n, f i := by
  induction n with
  | zero => rfl
  | succ n ih => rw [Nat.fold_succ, ih, Finset.sum_range_succ, Nat.add_assoc]

theorem inkCount_eq_sum (r : Raster) :
    r.inkCount = ∑ y ∈ range r.height, ∑ x ∈ range r.width, (r.dot x y).toNat := by
  unfold inkCount
  simp only [fold_add, Nat.zero_add]

theorem inkCount_eq_card (r : Raster) : r.inkCount = r.inked.card := by
  have hbit : ∀ b : Bool, b.toNat = if b = true then 1 else 0 := by decide
  unfold inked
  rw [inkCount_eq_sum, Finset.card_filter, Finset.sum_product_right]
  simp only [hbit]

section Bytes

def bitCount (b : UInt8) : Nat := ∑ k ∈ range 8, (b.toNat.testBit k).toNat

/-- The ink of a row by its bytes: of those that are full of dots all bits, and of the next one
those in front of the end of the row. -/
def rowInk (r : Raster) (y : Nat) : Nat :=
  let byte (i : Nat) : UInt8 := Bytes.get r.data (y * r.bytesPerRow + i)
  let mask : UInt8 := UInt8.ofNat (0xFF <<< (8 - r.width % 8))
  ∑ i ∈ range (r.width / 8), bitCount (byte i) +
    if r.width % 8 = 0 then 0 else bitCount (byte (r.width / 8) &&& mask)

/-- The bits of a byte from the highest down, which is the order of its dots. -/
theorem bitCount_eq (b : UInt8) : bitCount b = ∑ k ∈ range 8, (b.toNat.testBit (7 - k)).toNat :=
  (Finset.sum_range_reflect (fun k => (b.toNat.testBit k).toNat) 8).symm

theorem testBit_mask : ∀ rest < 8, ∀ k < 8,
    (UInt8.ofNat (0xFF <<< (8 - rest))).toNat.testBit (7 - k) = decide (k < rest) := by
  decide

/-- Of a masked byte only the dots in front of the end of the row count. -/
theorem bitCount_masked (b : UInt8) {rest : Nat} (h : rest < 8) :
    bitCount (b &&& UInt8.ofNat (0xFF <<< (8 - rest))) =
      ∑ k ∈ range rest, (b.toNat.testBit (7 - k)).toNat := by
  have hkept : ∀ k ∈ range 8,
      ((b &&& UInt8.ofNat (0xFF <<< (8 - rest))).toNat.testBit (7 - k)).toNat =
        if k < rest then (b.toNat.testBit (7 - k)).toNat else 0 := by
    intro k hk
    rw [UInt8.toNat_and, Nat.testBit_and, testBit_mask rest h k (Finset.mem_range.1 hk)]
    by_cases hrest : k < rest <;> simp [hrest]
  have hfront : (range 8).filter (· < rest) = range rest := by
    ext k
    rw [Finset.mem_filter, Finset.mem_range, Finset.mem_range]
    omega
  rw [bitCount_eq, Finset.sum_congr rfl hkept, ← Finset.sum_filter, hfront]

theorem sum_range_bytes (f : Nat → Nat) (n : Nat) :
    ∑ x ∈ range (8 * n), f x = ∑ i ∈ range n, ∑ k ∈ range 8, f (8 * i + k) := by
  induction n with
  | zero => rfl
  | succ n ih =>
    rw [Nat.mul_succ, Finset.sum_range_add f (8 * n) 8, ih,
      Finset.sum_range_succ (fun i => ∑ k ∈ range 8, f (8 * i + k))]

theorem dot_byte (r : Raster) (y : Nat) {i k : Nat} (h : k < 8) :
    r.dot (8 * i + k) y =
      (Bytes.get r.data (y * r.bytesPerRow + i)).toNat.testBit (7 - k) := by
  have hbyte : (8 * i + k) / 8 = i := by omega
  have hbit : (8 * i + k) % 8 = k := by omega
  unfold dot
  rw [hbyte, hbit]

theorem rowInk_eq (r : Raster) (y : Nat) :
    r.rowInk y = ∑ x ∈ range r.width, (r.dot x y).toNat := by
  have hwidth : r.width = 8 * (r.width / 8) + r.width % 8 := (Nat.div_add_mod _ _).symm
  have hrest : r.width % 8 < 8 := Nat.mod_lt _ (by decide)
  have hfull : ∀ i, bitCount (Bytes.get r.data (y * r.bytesPerRow + i)) =
      ∑ k ∈ range 8, (r.dot (8 * i + k) y).toNat := by
    intro i
    rw [bitCount_eq]
    exact Finset.sum_congr rfl fun k hk => by rw [dot_byte r y (Finset.mem_range.1 hk)]
  have hlast : (if r.width % 8 = 0 then 0 else
      bitCount (Bytes.get r.data (y * r.bytesPerRow + r.width / 8) &&&
        UInt8.ofNat (0xFF <<< (8 - r.width % 8)))) =
      ∑ k ∈ range (r.width % 8), (r.dot (8 * (r.width / 8) + k) y).toNat := by
    split
    · rename_i hnone
      rw [hnone, Finset.sum_range_zero]
    · rw [bitCount_masked _ hrest]
      refine Finset.sum_congr rfl fun k hk => ?_
      rw [dot_byte r y ((Finset.mem_range.1 hk).trans hrest)]
  unfold rowInk
  dsimp only
  rw [hlast, Finset.sum_congr rfl fun i _ => hfull i,
    ← sum_range_bytes (fun x => (r.dot x y).toNat), ← Finset.sum_range_add, ← hwidth]

/-- Row by row and byte by byte, the ink is the number of black dots. -/
theorem inkCount_eq_rows (r : Raster) : r.inkCount = ∑ y ∈ range r.height, r.rowInk y := by
  rw [inkCount_eq_sum]
  exact Finset.sum_congr rfl fun y _ => (r.rowInk_eq y).symm

end Bytes

/-! ## Fields -/

/-- A field shows a raster from a column on, and nothing else. -/
structure Placed (r : Raster) (start outer : Nat) (field : Raster) : Prop where
  width : field.width = outer
  height : field.height = r.height
  data : field.data.size = field.bytesPerRow * field.height
  dot : ∀ x < outer, ∀ y < r.height,
    field.dot x y = true ↔ start ≤ x ∧ x < start + r.width ∧ r.dot (x - start) y = true
  clear : field.Clear
  ink : field.inkCount = r.inkCount

theorem offset_add_le (align : Align) {inner outer : Nat} (h : inner ≤ outer) :
    offset align inner outer + inner ≤ outer := by
  cases align with
  | left => exact (Nat.zero_add inner).trans_le h
  | center =>
    show (outer - inner) / 2 + inner ≤ outer
    omega
  | right => exact (Nat.sub_add_cancel h).le

section Padded

variable {r : Raster} {width : Nat} {align : Align} (h : r.width < width)

include h

theorem padded_eq : r.padded width align h.le =
    ofDots width r.height (r.width_pos.trans h) r.height_pos fun x y =>
      decide (offset align r.width width ≤ x) &&
        decide (x - offset align r.width width < r.width) &&
          r.dot (x - offset align r.width width) y := if_neg h.ne

theorem dot_padded {x y : Nat} (hx : x < width) (hy : y < r.height) :
    (r.padded width align h.le).dot x y = true ↔ offset align r.width width ≤ x ∧
      x < offset align r.width width + r.width ∧
        r.dot (x - offset align r.width width) y = true := by
  have hbyte : x < 8 * rowBytes width := by
    unfold rowBytes
    omega
  rw [padded_eq h, dot_ofDots hbyte hy, decide_eq_true hx, Bool.true_and, Bool.and_eq_true,
    Bool.and_eq_true, decide_eq_true_eq, decide_eq_true_eq, and_assoc]
  refine and_congr_right fun hstart => and_congr_left fun _ => ?_
  omega

/-- The black dots of the field are those of the raster, moved. -/
theorem inkCount_padded : (r.padded width align h.le).inkCount = r.inkCount := by
  have hwidth : (r.padded width align h.le).width = width := by rw [padded_eq h]; rfl
  have hheight : (r.padded width align h.le).height = r.height := by rw [padded_eq h]; rfl
  have hfits := offset_add_le align h.le
  rw [inkCount_eq_card, inkCount_eq_card]
  refine Finset.card_nbij' (fun place => (place.1 - offset align r.width width, place.2))
    (fun place => (place.1 + offset align r.width width, place.2)) ?_ ?_ ?_ ?_
  · rintro ⟨x, y⟩ hmem
    obtain ⟨hx, hy, hdot⟩ := mem_inked.1 hmem
    rw [hwidth] at hx
    rw [hheight] at hy
    obtain ⟨hstart, hend, hown⟩ := (dot_padded h hx hy).1 hdot
    exact mem_inked.2 ⟨by omega, hy, hown⟩
  · rintro ⟨x, y⟩ hmem
    obtain ⟨hx, hy, hdot⟩ := mem_inked.1 hmem
    have hplace : x + offset align r.width width < width := by omega
    refine mem_inked.2 ⟨hwidth.symm ▸ hplace, hheight.symm ▸ hy, (dot_padded h hplace hy).2 ?_⟩
    rw [Nat.add_sub_cancel]
    exact ⟨Nat.le_add_left _ _, by omega, hdot⟩
  · rintro ⟨x, y⟩ hmem
    obtain ⟨hx, hy, hdot⟩ := mem_inked.1 hmem
    rw [hwidth] at hx
    rw [hheight] at hy
    exact Prod.ext (Nat.sub_add_cancel ((dot_padded h hx hy).1 hdot).1) rfl
  · exact fun place _ => Prod.ext (Nat.add_sub_cancel _ _) rfl

theorem placed_padded :
    Placed r (offset align r.width width) width (r.padded width align h.le) where
  width := by rw [padded_eq h]; rfl
  height := by rw [padded_eq h]; rfl
  data := (r.padded width align h.le).size_eq
  dot _ hx _ hy := dot_padded h hx hy
  clear := by
    rw [padded_eq h]
    exact clear_ofDots
  ink := inkCount_padded h

end Padded

/-- A raster stands in a wider field with all of its dots, and the field has no others.  A field of
its own width is the raster itself, and one that is narrower is refused. -/
theorem paddedTo_places (r : Raster) (width : Int) (align : Align) :
    ((r.width : Int) < width → ∃ (field : Raster) (start : Nat),
      r.paddedTo width align = .ok field ∧
      (start : Int) = (match align with
        | .left => 0
        | .center => (width - r.width) / 2
        | .right => width - r.width) ∧
      Placed r start width.toNat field) ∧
    (width = r.width → r.paddedTo width align = .ok r) ∧
    (width < r.width → r.paddedTo width align =
      .error (.value .value s!"cannot pad a {r.width}-dot raster into {width} dots")) ∧
    r.inkCount = r.inked.card ∧ r.inkCount = ∑ y ∈ Finset.range r.height, r.rowInk y := by
  refine ⟨fun hwide => ?_, fun hsame => ?_, fun hnarrow => ?_, r.inkCount_eq_card,
    r.inkCount_eq_rows⟩
  · have hless : r.width < width.toNat := by omega
    refine ⟨_, offset align r.width width.toNat, dif_pos hless.le, ?_, placed_padded hless⟩
    cases align with
    | left => rfl
    | center =>
      show (((width.toNat - r.width) / 2 : Nat) : Int) = (width - r.width) / 2
      omega
    | right =>
      show ((width.toNat - r.width : Nat) : Int) = width - r.width
      omega
  · subst hsame
    exact (dif_pos (le_of_eq rfl)).trans (congrArg Except.ok (if_pos rfl))
  · have hpos := r.width_pos
    exact dif_neg (by omega)

def stub : Raster := ⟨10, 2, [0x9A, 0x7F, 0x01, 0xC5].toByteArray, by decide, Nat.two_pos, rfl⟩

theorem paddedTo_places_stub :
    (10 : Int) < 19 ∧ (10 : Int) = 10 ∧ (9 : Int) < 10 ∧
      (∃ field, stub.paddedTo 19 .right = .ok field ∧ Placed stub 9 19 field ∧
        field.data.toList = [0x00, 0x4D, 0x20, 0x00, 0x00, 0xE0]) ∧
      stub.paddedTo 10 .center = .ok stub ∧
      stub.paddedTo 9 .left =
        .error (.value .value "cannot pad a 10-dot raster into 9 dots") := by
  obtain ⟨field, start, hfield, hstart, hplaced⟩ :=
    (paddedTo_places stub 19 .right).1 (by decide)
  have hnine : start = 9 := by
    have hdots : (start : Int) = 19 - (10 : Nat) := hstart
    omega
  have hdata : (stub.padded 19 .right (by decide)).data.toList =
      [0x00, 0x4D, 0x20, 0x00, 0x00, 0xE0] := by decide +kernel
  subst hnine
  cases hfield
  exact ⟨by decide, rfl, by decide, ⟨_, rfl, hplaced, hdata⟩,
    (paddedTo_places stub 10 .center).2.1 rfl,
    (paddedTo_places stub 9 .left).2.2.1 (by decide)⟩

end Raster
end ThermalPrint
