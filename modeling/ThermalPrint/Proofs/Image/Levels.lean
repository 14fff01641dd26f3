import ThermalPrint.Image.Fit
import ThermalPrint.Proofs.Image.Dots

/-
The levels of images that are made out of others.

What is read of an image in scaling it is inside of it: an output pixel takes a row from the same
row, and a column from the rows of its window.
-/

namespace ThermalPrint

namespace Gray

theorem ext_level {g g' : Gray} (hwidth : g.width = g'.width) (hheight : g.height = g'.height)
    (h : ∀ x < g.width, ∀ y < g.height, g.level x y = g'.level x y) : g = g' := by
  obtain ⟨width, height, pixels, hsize⟩ := g
  obtain ⟨width', height', pixels', hsize'⟩ := g'
  obtain rfl : width = width' := hwidth
  obtain rfl : height = height' := hheight
  have heq : pixels = pixels' := by
    refine Bytes.ext_get (hsize.trans hsize'.symm) fun i hi => ?_
    have hi₀ : i < width * height := hsize ▸ hi
    have hpos : 0 < width := Nat.pos_of_mul_pos_right (Nat.lt_of_le_of_lt (Nat.zero_le i) hi₀)
    have hlevel := h (i % width) (Nat.mod_lt i hpos) (i / width) (Nat.div_lt_of_lt_mul hi₀)
    have hplace : i / width * width + i % width = i := by
      rw [Nat.mul_comm]
      exact Nat.div_add_mod i width
    unfold level at hlevel
    dsimp only at hlevel
    rwa [hplace] at hlevel
  subst heq
  rfl

/-- Where parts that agree with a rule cover the paper, it shows what the rule says. -/
theorem level_pasted {width height x y : Nat} {parts : List (Nat × Gray)} {f : Nat → Nat → UInt8}
    (hparts : ∀ top part, (top, part) ∈ parts → ∀ x < width, ∀ y < part.height,
      part.level x y = f x (top + y))
    (hcover : ∃ top part, (top, part) ∈ parts ∧ top ≤ y ∧ y < top + part.height)
    (hx : x < width) (hy : y < height) : (pasted width height parts).level x y = f x y := by
  unfold pasted
  dsimp only
  rw [Raster.level_ofLevels hx hy, Array.getElem?_ofFn, dif_pos hy]
  cases hfind : parts.reverse.find? (covers y) with
  | none =>
    obtain ⟨top, part, hmem, htop, hbottom⟩ := hcover
    have hmiss := List.find?_eq_none.1 hfind _ (List.mem_reverse.2 hmem)
    simp [covers, htop, hbottom] at hmiss
  | some found =>
    obtain ⟨top, part⟩ := found
    have hmem := List.mem_reverse.1 (List.mem_of_find?_eq_some hfind)
    have hrows := List.find?_some hfind
    simp only [covers, Bool.and_eq_true, decide_eq_true_eq] at hrows
    have hown := hparts top part hmem x hx (y - top) (by omega)
    rw [Nat.add_sub_cancel' hrows.1] at hown
    exact hown

end Gray

namespace Resample

namespace Window

theorem sum_congr {f g : Nat → UInt8} {shift : Nat} {weights : List Nat} :
    ∀ {first total : Nat},
      (∀ i, first ≤ i → i < first + weights.length → f i = g (shift + i)) →
      sum f first weights total = sum g (shift + first) weights total := by
  induction weights with
  | nil => exact fun _ => rfl
  | cons w rest ih =>
    intro first total h
    rw [sum, sum, h first (Nat.le_refl _) (by rw [List.length_cons]; omega),
      ih fun i hi hlt => h i (by omega) (by rw [List.length_cons]; omega)]
    rfl

/-- Windows of the same weights over the same pixels have the same average. -/
theorem average_congr {w w' : Window} {f g : Nat → UInt8} {shift : Nat}
    (hfirst : w'.first = shift + w.first) (hweights : w'.weights = w.weights)
    (h : ∀ i, w.first ≤ i → i < w.first + w.weights.length → f i = g (shift + i)) :
    w.average f = w'.average g := by
  unfold average
  rw [hfirst, hweights, sum_congr h]

end Window

section Axis

variable {α : Type} [Coordinate α]

theorem window_inside {inputs outputs output i : Nat} {span : Span α}
    (hfirst : (window inputs span outputs output).first ≤ i)
    (hlast : i < (window inputs span outputs output).first +
      (window inputs span outputs output).weights.length) : i < inputs := by
  unfold window at hfirst hlast
  simp only [List.length_map, List.length_range] at hfirst hlast
  omega

theorem windows_get {inputs outputs x : Nat} {span : Span α} (hx : x < outputs) :
    (windows inputs span outputs)[x]? = some (window inputs span outputs x) := by
  unfold windows
  rw [Array.getElem?_ofFn, dif_pos hx]

theorem windows_size (inputs outputs : Nat) (span : Span α) :
    (windows inputs span outputs).size = outputs := Array.size_ofFn

theorem isWhole_length {length outputs : Nat} {span : Span α}
    (h : isWhole length outputs span = true) : length = outputs := by
  unfold isWhole at h
  simp only [Bool.and_eq_true, beq_iff_eq] at h
  exact h.1.1

def widened (g : Gray) (width : Nat) (horizontal : Span α) : Gray :=
  if isWhole g.width width horizontal then g
  else acrossRows g (windows g.width horizontal width)

variable {g g' : Gray} {width height x y y' : Nat} {horizontal vertical : Span α}

theorem widened_height : (widened g width horizontal).height = g.height := by
  unfold widened
  split <;> rfl

theorem widened_width : (widened g width horizontal).width = width := by
  unfold widened
  split
  · rename_i hwhole
    exact isWhole_length hwhole
  · exact windows_size _ _ _

theorem widened_congr (hwidth : g.width = g'.width) (hy : y < g.height) (hy' : y' < g'.height)
    (h : ∀ i < g.width, g.level i y = g'.level i y') (hx : x < width) :
    (widened g width horizontal).level x y = (widened g' width horizontal).level x y' := by
  unfold widened
  rw [← hwidth]
  split
  · rename_i hwhole
    exact h x (isWhole_length hwhole ▸ hx)
  · have hsize : x < (windows g.width horizontal width).size := by rwa [windows_size]
    unfold acrossRows
    rw [Raster.level_ofLevels hsize hy, Raster.level_ofLevels hsize hy', windows_get hx]
    refine Window.average_congr (Nat.zero_add _).symm rfl fun i hfirst hlast => ?_
    rw [Nat.zero_add]
    exact h i (window_inside hfirst hlast)

theorem resize_eq : resize g width height horizontal vertical =
    if isWhole g.height height vertical then widened g width horizontal
    else downColumns (widened g width horizontal) (windows g.height vertical height) := rfl

theorem resize_size : (resize g width height horizontal vertical).width = width ∧
    (resize g width height horizontal vertical).height = height := by
  rw [resize_eq]
  split
  · rename_i hwhole
    exact ⟨widened_width, widened_height.trans (isWhole_length hwhole)⟩
  · exact ⟨widened_width, windows_size _ _ _⟩

/-- A pixel of a resized image, out of the column at its width. -/
theorem level_resize (hx : x < width) (hy : y < height) :
    (resize g width height horizontal vertical).level x y =
      if isWhole g.height height vertical then (widened g width horizontal).level x y
      else (window g.height vertical height y).average fun i =>
        (widened g width horizontal).level x i := by
  rw [resize_eq]
  split
  · rfl
  · have hwidth : x < (widened g width horizontal).width := by rwa [widened_width]
    have hsize : y < (windows g.height vertical height).size := by rwa [windows_size]
    unfold downColumns
    rw [Raster.level_ofLevels hwidth hsize, windows_get hy]

end Axis

end Resample
end ThermalPrint
