import ThermalPrint.Proofs.Image.Grammar

/-
Rasters cut into blocks and put together again.  The blocks have every row of the raster once and
in order, so whoever reads them one after the other has its bytes again, whatever the size of a
block.
-/

namespace ThermalPrint
namespace Raster

section Rows

variable {height step : Nat}

theorem flatMap_tops (height step n : Nat) :
    ((List.range n).map (· * step)).flatMap
      (fun top => List.range' top (min step (height - top))) =
        List.range' 0 (min height (n * step)) := by
  induction n with
  | zero => simp
  | succ n ih =>
    have hnext : (n + 1) * step = n * step + step := by rw [Nat.add_mul, Nat.one_mul]
    rw [List.range_succ, List.map_append, List.flatMap_append, ih, List.map_singleton,
      List.flatMap_singleton, hnext]
    by_cases hfull : n * step ≤ height
    · have hrows : min height (n * step + step) = n * step + min step (height - n * step) := by
        omega
      rw [Nat.min_eq_right hfull, hrows, ← List.range'_append_1, Nat.zero_add]
    · have hnone : min step (height - n * step) = 0 := by omega
      have hall : min height (n * step) = min height (n * step + step) := by omega
      rw [hnone, hall, List.range'_zero, List.append_nil]

/-- Every row is in one block, and the blocks have them in order. -/
theorem flatMap_blockRows (hstep : 0 < step) :
    (blockRows height step).flatMap (fun (top, rows) => List.range' top rows) =
      List.range' 0 height := by
  have henough : height ≤ (height + step - 1) / step * step := by
    have hrest := Nat.div_add_mod (height + step - 1) step
    have hmod := Nat.mod_lt (height + step - 1) hstep
    rw [Nat.mul_comm] at hrest
    omega
  unfold blockRows blockTops
  rw [List.flatMap_map, flatMap_tops, Nat.min_eq_left henough]

theorem sum_blockRows (hstep : 0 < step) : ((blockRows height step).map Prod.snd).sum = height := by
  calc ((blockRows height step).map Prod.snd).sum
      = ((blockRows height step).map fun (top, rows) => (List.range' top rows).length).sum :=
        congrArg List.sum (List.map_congr_left fun p _ => List.length_range'.symm)
    _ = ((blockRows height step).flatMap fun (top, rows) => List.range' top rows).length :=
        List.length_flatMap.symm
    _ = height := by rw [flatMap_blockRows hstep, List.length_range']

theorem mem_blockRows {top rows : Nat} (hstep : 0 < step)
    (h : (top, rows) ∈ blockRows height step) :
    0 < rows ∧ rows ≤ step ∧ top + rows ≤ height := by
  unfold blockRows blockTops at h
  rw [List.map_map, List.mem_map] at h
  obtain ⟨i, hi, heq⟩ := h
  obtain ⟨rfl, rfl⟩ := Prod.mk.inj heq
  have hblocks : i < (height + step - 1) / step := List.mem_range.1 hi
  have htop : i * step + step ≤ height + step - 1 := by
    calc i * step + step = (i + 1) * step := by rw [Nat.add_mul, Nat.one_mul]
      _ ≤ (height + step - 1) / step * step := Nat.mul_le_mul_right step hblocks
      _ ≤ height + step - 1 := Nat.div_mul_le_self _ _
  dsimp only
  omega

end Rows

section Bodies

/-- The bytes of some rows are those of one row after the other. -/
theorem slice_rows {bytes : ByteArray} {w : Nat} (top rows : Nat) :
    Bytes.slice bytes (top * w) ((top + rows) * w) =
      (List.range' top rows).flatMap fun y => Bytes.slice bytes (y * w) ((y + 1) * w) := by
  induction rows with
  | zero =>
    rw [Nat.add_zero, Bytes.slice_eq, List.range'_zero, List.flatMap_nil]
    exact List.drop_eq_nil_of_le (List.length_take_le _ _)
  | succ rows ih =>
    have hnext : (top + rows) * w ≤ (top + rows + 1) * w :=
      Nat.mul_le_mul_right w (Nat.le_succ _)
    have htop : top * w ≤ (top + rows) * w := Nat.mul_le_mul_right w (Nat.le_add_right _ _)
    rw [List.range'_1_concat, List.flatMap_append, ← ih, List.flatMap_singleton,
      ← Nat.add_assoc, Bytes.slice_append htop hnext]

theorem slice_all (r : Raster) :
    Bytes.slice r.data (0 * r.bytesPerRow) ((0 + r.height) * r.bytesPerRow) = r.data.toList := by
  have hall : (0 + r.height) * r.bytesPerRow = r.data.size := by
    rw [r.size_eq, Nat.zero_add, Nat.mul_comm]
    rfl
  rw [hall, Nat.zero_mul, Bytes.slice_eq, Bytes.toList_eq]
  exact List.take_length

theorem rows_length (r : Raster) {top rows : Nat} (h : top + rows ≤ r.height) :
    (Bytes.slice r.data (top * r.bytesPerRow) ((top + rows) * r.bytesPerRow)).length =
      r.bytesPerRow * rows := by
  have hfit : (top + rows) * r.bytesPerRow ≤ r.data.size := by
    rw [r.size_eq, Nat.mul_comm]
    exact Nat.mul_le_mul_left _ h
  rw [Bytes.slice_length hfit, ← Nat.sub_mul, Nat.add_sub_cancel_left, Nat.mul_comm]

def bodies (r : Raster) (step : Nat) : List (Nat × List UInt8) :=
  (blockRows r.height step).map fun (top, rows) =>
    (rows, Bytes.slice r.data (top * r.bytesPerRow) ((top + rows) * r.bytesPerRow))

variable {r : Raster} {step : Nat}

theorem blocks_eq (r : Raster) (step : Nat) :
    r.blocks step = (r.bodies step).map fun (rows, body) => block r.bytesPerRow rows body := by
  unfold blocks bodies
  rw [List.map_map]
  rfl

theorem mem_bodies {rows : Nat} {body : List UInt8} (hstep : 0 < step)
    (h : (rows, body) ∈ r.bodies step) :
    0 < rows ∧ rows ≤ step ∧ body.length = r.bytesPerRow * rows := by
  unfold bodies at h
  rw [List.mem_map] at h
  obtain ⟨⟨top, rows⟩, hrows, heq⟩ := h
  obtain ⟨rfl, rfl⟩ := Prod.mk.inj heq
  obtain ⟨hpos, hmost, hend⟩ := mem_blockRows hstep hrows
  exact ⟨hpos, hmost, rows_length r hend⟩

theorem bodies_bytes (hstep : 0 < step) :
    (r.bodies step).flatMap Prod.snd = r.data.toList := by
  unfold bodies
  rw [List.flatMap_map]
  calc (blockRows r.height step).flatMap (fun (top, rows) =>
          Bytes.slice r.data (top * r.bytesPerRow) ((top + rows) * r.bytesPerRow))
      = ((blockRows r.height step).flatMap fun (top, rows) => List.range' top rows).flatMap
          fun y => Bytes.slice r.data (y * r.bytesPerRow) ((y + 1) * r.bytesPerRow) := by
        rw [List.flatMap_assoc]
        congr 1
        funext p
        exact slice_rows p.1 p.2
    _ = Bytes.slice r.data (0 * r.bytesPerRow) ((0 + r.height) * r.bytesPerRow) := by
        rw [flatMap_blockRows hstep, slice_rows]
    _ = r.data.toList := slice_all r

theorem bodies_rows (hstep : 0 < step) : ((r.bodies step).map Prod.fst).sum = r.height := by
  unfold bodies
  rw [List.map_map]
  exact sum_blockRows hstep

end Bodies

section Reading

def blockOf (width rows : Nat) (body : List UInt8) : PayloadBlock :=
  ⟨0, UInt8.ofNat width, UInt8.ofNat (width / 256), UInt8.ofNat rows, UInt8.ofNat (rows / 256),
    body⟩

variable {width rows : Nat} {body : List UInt8}

theorem bytes_blockOf : (blockOf width rows body).bytes = block width rows body := rfl

theorem width_blockOf (h : width < 65536) : (blockOf width rows body).width = width :=
  Bytes.word_littleEndian h

theorem rows_blockOf (h : rows < 65536) : (blockOf width rows body).rows = rows :=
  Bytes.word_littleEndian h

theorem sound_blockOf (hwidth : 0 < width ∧ width < 65536) (hrows : 0 < rows ∧ rows < 65536)
    (hbody : body.length = width * rows) : (blockOf width rows body).Sound where
  width_pos := by
    rw [width_blockOf hwidth.2]
    exact hwidth.1
  rows_pos := by
    rw [rows_blockOf hrows.2]
    exact hrows.1
  length := by
    rw [width_blockOf hwidth.2, rows_blockOf hrows.2]
    exact hbody

theorem readBlock_block {place : Nat} {width? : Option Nat} {rest : List UInt8}
    (hwidth : 0 < width ∧ width < 65536) (hrows : 0 < rows ∧ rows < 65536)
    (hbody : body.length = width * rows) (hsame : width? = none ∨ width? = some width) :
    readBlock place width? (block width rows body ++ rest) = .ok ⟨width, rows, body, rest⟩ := by
  have hknown : width? = none ∨ width? = some (blockOf width rows body).width := by
    rwa [width_blockOf hwidth.2]
  have hread := readBlock_bytes place (sound_blockOf hwidth hrows hbody) hknown rest
  rwa [bytes_blockOf, width_blockOf hwidth.2, rows_blockOf hrows.2] at hread

end Reading

section Payload

variable {r : Raster} {step : Nat}

/-- The raster whose dots are all the bits of the bytes of another, also those that fill up its
rows. -/
def filled (r : Raster) : Raster where
  width := 8 * r.bytesPerRow
  height := r.height
  data := r.data
  width_pos := by
    have := r.width_pos
    unfold bytesPerRow rowBytes
    omega
  height_pos := r.height_pos
  size_eq := by
    have hbytes : rowBytes (8 * r.bytesPerRow) = rowBytes r.width := by
      unfold bytesPerRow rowBytes
      omega
    rw [hbytes]
    exact r.size_eq

theorem bytesPerRow_filled (r : Raster) : r.filled.bytesPerRow = r.bytesPerRow := by
  show rowBytes (8 * r.bytesPerRow) = r.bytesPerRow
  rw [rowBytes]
  omega

theorem dot_filled (r : Raster) (x y : Nat) : r.filled.dot x y = r.dot x y := by
  unfold dot
  rw [bytesPerRow_filled]
  rfl

theorem filled_eq (h : 8 ∣ r.width) : r.filled = r := by
  obtain ⟨w, hw⟩ := h
  have hwidth : 8 * r.bytesPerRow = r.width := by
    unfold bytesPerRow rowBytes
    omega
  cases r
  unfold filled
  simp only [mk.injEq, and_true]
  exact hwidth

theorem blocksOf_eq {count : Int} (hbytes : r.bytesPerRow ≤ 65535) (hcount : 1 ≤ count)
    (hmost : count ≤ 65535) : r.blocksOf count = .ok (r.blocks count.toNat) := by
  unfold blocksOf
  rw [if_neg (by omega), if_neg (by omega), if_neg]
  simp only [gt_iff_lt, Bool.or_eq_true, decide_eq_true_eq]
  omega

theorem draws_bodies (hbytes : r.bytesPerRow ≤ 65535) (hstep : 0 < step) (hmost : step ≤ 65535) :
    Draws ((r.bodies step).map fun (rows, body) => blockOf r.bytesPerRow rows body) r.filled := by
  have hwidth : 0 < r.bytesPerRow ∧ r.bytesPerRow < 65536 := by
    have := r.filled.width_pos
    have hfilled : r.filled.width = 8 * r.bytesPerRow := rfl
    omega
  have hbodies : ∀ rows body, (rows, body) ∈ r.bodies step →
      (0 < rows ∧ rows < 65536) ∧ body.length = r.bytesPerRow * rows := by
    intro rows body hmem
    obtain ⟨hpos, hrows, hlength⟩ := mem_bodies hstep hmem
    exact ⟨⟨hpos, by omega⟩, hlength⟩
  refine ⟨?_, ?_, ?_, ?_, ?_⟩
  · intro hnone
    have hrows := bodies_rows (r := r) hstep
    rw [List.map_eq_nil_iff.1 hnone] at hrows
    exact absurd hrows.symm (Nat.ne_of_gt r.height_pos)
  · rw [List.forall_mem_map]
    rintro ⟨rows, body⟩ hmem
    obtain ⟨hrows, hlength⟩ := hbodies rows body hmem
    exact sound_blockOf hwidth hrows hlength
  · rw [List.forall_mem_map]
    rintro ⟨rows, body⟩ -
    show 8 * r.bytesPerRow = 8 * (blockOf r.bytesPerRow rows body).width
    rw [width_blockOf hwidth.2]
  · have hrows : ((r.bodies step).map Prod.fst).sum = r.height := bodies_rows hstep
    show r.height = _
    rw [← hrows, List.map_map]
    refine congrArg List.sum (List.map_congr_left ?_)
    rintro ⟨rows, body⟩ hmem
    exact (rows_blockOf (hbodies rows body hmem).1.2).symm
  · show r.data.toList = _
    rw [List.flatMap_map, ← bodies_bytes hstep]
    rfl

/-- The blocks of a raster, put one behind the other, are read as its bytes. -/
theorem ofBlocks_blocks (hbytes : r.bytesPerRow ≤ 65535) (hstep : 0 < step) (hmost : step ≤ 65535) :
    ofBlocks (r.blocks step).flatten = .ok r.filled := by
  refine ofBlocks_ok_iff.2 ⟨_, ?_, draws_bodies hbytes hstep hmost⟩
  rw [blocks_eq, List.flatMap_map, ← List.flatMap_def]
  rfl

/-- A text that writes the blocks of a raster is read as its bytes. -/
theorem ofHex_blocks (hbytes : r.bytesPerRow ≤ 65535) (hstep : 0 < step) (hmost : step ≤ 65535)
    {payload : Text} (h : payload.WritesHex (r.blocks step).flatten) :
    ofHex payload = .ok r.filled := by
  unfold ofHex
  rw [h.bytesOfHex]
  exact ofBlocks_blocks hbytes hstep hmost

end Payload

end Raster
end ThermalPrint
