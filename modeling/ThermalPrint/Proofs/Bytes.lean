import ThermalPrint.Bytes

/-
Byte arrays as lists.
-/

namespace ThermalPrint
namespace Bytes

theorem toList_loop (bytes : ByteArray) (i : Nat) (done : List UInt8) :
    ByteArray.toList.loop bytes i done = done.reverse ++ bytes.data.toList.drop i := by
  fun_induction ByteArray.toList.loop bytes i done with
  | case1 i done h ih =>
    have hi : i < bytes.data.toList.length := h
    have hget : bytes.get! i = bytes.data.toList[i] := by
      show bytes.data[i]! = _
      rw [getElem!_pos bytes.data i h, Array.getElem_toList]
    rw [ih, List.drop_eq_getElem_cons hi, hget, List.reverse_cons, List.append_assoc]
    rfl
  | case2 i done h =>
    have hi : bytes.data.toList.length ≤ i := Nat.le_of_not_lt h
    rw [List.drop_eq_nil_of_le hi, List.append_nil]

theorem toList_eq (bytes : ByteArray) : bytes.toList = bytes.data.toList := by
  show ByteArray.toList.loop bytes 0 [] = _
  rw [toList_loop]
  rfl

theorem slice_eq (bytes : ByteArray) (start stop : Nat) :
    slice bytes start stop = (bytes.data.toList.take stop).drop start := by
  unfold slice
  rw [toList_eq, ByteArray.data_extract, Array.toList_extract, List.extract_eq_take_drop,
    List.drop_take]

theorem slice_length {bytes : ByteArray} {start stop : Nat} (h : stop ≤ bytes.size) :
    (slice bytes start stop).length = stop - start := by
  have hsize : bytes.data.toList.length = bytes.size := rfl
  rw [slice_eq, List.length_drop, List.length_take, hsize]
  omega

theorem slice_append {bytes : ByteArray} {a b c : Nat} (hab : a ≤ b) (hbc : b ≤ c) :
    slice bytes a b ++ slice bytes b c = slice bytes a c := by
  have hlength : c - a = (b - a) + (c - b) := by omega
  have hplace : a + (b - a) = b := by omega
  rw [slice_eq, slice_eq, slice_eq, List.drop_take, List.drop_take, List.drop_take, hlength,
    List.take_add, List.drop_drop, hplace]

theorem word_littleEndian {n : Nat} (h : n < 65536) :
    word (UInt8.ofNat n) (UInt8.ofNat (n / 256)) = n := by
  unfold word
  rw [UInt8.toNat_ofNat', UInt8.toNat_ofNat']
  omega

theorem toList_generate (n : Nat) (f : Nat → UInt8) :
    (generate n f).toList = (List.range n).map f := by
  unfold generate
  suffices ∀ m, (n.fold (fun i _ bytes => bytes.push (f i))
      (ByteArray.emptyWithCapacity m)).toList = (List.range n).map f from this n
  intro m
  rw [toList_eq]
  induction n with
  | zero => rfl
  | succ n ih =>
    rw [Nat.fold_succ, ByteArray.data_push, Array.toList_push, ih, List.range_succ,
      List.map_append]
    rfl

theorem get_eq (bytes : ByteArray) (i : Nat) : get bytes i = (bytes.toList[i]?).getD 0 := by
  rw [toList_eq]
  unfold get
  by_cases h : i < bytes.size
  · have hi : i < bytes.data.toList.length := h
    rw [dif_pos h, List.getElem?_eq_getElem hi]
    rfl
  · have hi : bytes.data.toList.length ≤ i := Nat.le_of_not_lt h
    rw [dif_neg h, List.getElem?_eq_none hi]
    rfl

theorem get_generate {n i : Nat} (f : Nat → UInt8) (h : i < n) : get (generate n f) i = f i := by
  rw [get_eq, toList_generate, List.getElem?_map, List.getElem?_range h]
  rfl

theorem generate_congr {n : Nat} {f g : Nat → UInt8} (h : ∀ i < n, f i = g i) :
    generate n f = generate n g := by
  unfold generate
  congr 1
  funext i hi bytes
  rw [h i hi]

theorem ext_get {a b : ByteArray} (hsize : a.size = b.size) (h : ∀ i < a.size, get a i = get b i) :
    a = b := by
  refine ByteArray.ext (Array.ext hsize fun i (ha : i < a.size) (hb : i < b.size) => ?_)
  have hget := h i ha
  unfold get at hget
  rw [dif_pos ha, dif_pos hb] at hget
  exact hget

theorem toByteArray_toList (bytes : ByteArray) : bytes.toList.toByteArray = bytes := by
  rw [toList_eq]
  exact ByteArray.ext (by rw [List.data_toByteArray])

end Bytes
end ThermalPrint
