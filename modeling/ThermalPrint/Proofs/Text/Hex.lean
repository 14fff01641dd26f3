import ThermalPrint.Proofs.Text.Search
import ThermalPrint.Text.Hex

/-
Bytes written in hexadecimal digits are read back, whatever the case of the digits and wherever
white space stands between them.
-/

namespace ThermalPrint
namespace Text

/-- A text writes bytes in hexadecimal digits of either case, with white space anywhere. -/
def WritesHex (t : Text) (bytes : List UInt8) : Prop :=
  t.withoutBlanks.map CodePoint.toLower = hexOfBytes bytes

instance (t : Text) (bytes : List UInt8) : Decidable (WritesHex t bytes) :=
  inferInstanceAs (Decidable (_ = _))

theorem toNat_hexDigit : ∀ n < 16, (hexDigit n).toNat = if n < 10 then 48 + n else 87 + n := by
  decide

theorem hexDigit_ascii {c : CodePoint} {n : Nat} (hn : n < 16) (h : c.toLower = hexDigit n) :
    c.toNat < 128 := by
  have hdigit := toNat_hexDigit n hn
  rcases toLower_cases c with hc | ⟨-, hZ, -⟩
  · rw [← h, hc] at hdigit
    split at hdigit <;> omega
  · omega

theorem hexValue?_of_toLower {c : CodePoint} {n : Nat} (hn : n < 16) (h : c.toLower = hexDigit n) :
    hexValue? c = some n := by
  have hdigit := toNat_hexDigit n hn
  rw [← h] at hdigit
  unfold hexValue?
  simp only [Bool.and_eq_true, decide_eq_true_eq]
  rcases toLower_cases c with hc | ⟨hA, hZ, hsmall⟩
  · rw [hc] at hdigit
    split at hdigit
    · rw [if_pos (by omega), hdigit, Nat.add_sub_cancel_left]
    · rw [if_neg (by omega), if_pos (by omega), hdigit, Nat.add_sub_cancel_left]
  · rw [hsmall] at hdigit
    split at hdigit
    · omega
    · have hvalue : c.toNat - 55 = n := by omega
      rw [if_neg (by omega), if_neg (by omega), if_pos (by omega), hvalue]

def IsHexDigit (c : CodePoint) : Prop := c ∈ "0123456789ABCDEFabcdef".toText

instance (c : CodePoint) : Decidable (IsHexDigit c) := inferInstanceAs (Decidable (_ ∈ _))

/-- A character that stands for a value is a digit, which is written as that value. -/
theorem hexValue?_eq_some {c : CodePoint} {n : Nat} (h : hexValue? c = some n) :
    IsHexDigit c ∧ n < 16 ∧ c.toLower = hexDigit n := by
  have hlow : c.toNat < 103 := by
    unfold hexValue? at h
    simp only [Bool.and_eq_true, decide_eq_true_eq] at h
    split at h
    · omega
    · split at h
      · omega
      · split at h
        · omega
        · cases h
  have hspec : (hexValue? c).isSome = true →
      IsHexDigit c ∧ ∃ m < 16, hexValue? c = some m ∧ c.toLower = hexDigit m :=
    CodePoint.of_forall_lt c hlow (by decide)
  rw [h] at hspec
  obtain ⟨hdigit, m, hm, heq, hwritten⟩ := hspec rfl
  cases heq
  exact ⟨hdigit, hm, hwritten⟩

theorem hexValue?_isSome : ∀ c ∈ "0123456789ABCDEFabcdef".toText, (hexValue? c).isSome = true :=
  List.all_eq_true.1 (by decide)

theorem hexOfBytes_cons (b : UInt8) (bytes : List UInt8) :
    hexOfBytes (b :: bytes) =
      hexDigit (b.toNat / 16) :: hexDigit (b.toNat % 16) :: hexOfBytes bytes :=
  rfl

theorem hexOfBytes_mem {bytes : List UInt8} {c : CodePoint} (h : c ∈ hexOfBytes bytes) :
    ∃ n < 16, c = hexDigit n := by
  obtain ⟨b, -, hc⟩ := List.mem_flatMap.1 h
  have hb := b.toNat_lt
  rw [hexOfByte, List.mem_cons, List.mem_singleton] at hc
  rcases hc with rfl | rfl
  · exact ⟨_, by omega, rfl⟩
  · exact ⟨_, by omega, rfl⟩

theorem bytesOfHex_go {bytes : List UInt8} :
    ∀ {t : Text} {place : Nat} {done : List UInt8}, t.map CodePoint.toLower = hexOfBytes bytes →
      bytesOfHex.go place done t = .ok (done.reverse ++ bytes) := by
  induction bytes with
  | nil =>
    intro t place done h
    rw [List.map_eq_nil_iff.1 h, bytesOfHex.go, List.append_nil]
  | cons b bytes ih =>
    intro t place done h
    rw [hexOfBytes_cons] at h
    obtain ⟨c, t, rfl, hc, h⟩ := List.map_eq_cons_iff.1 h
    obtain ⟨d, rest, rfl, hd, hrest⟩ := List.map_eq_cons_iff.1 h
    have hb := b.toNat_lt
    have hhigh := hexValue?_of_toLower (by omega) hc
    have hlow := hexValue?_of_toLower (by omega) hd
    have hbyte : UInt8.ofNat (16 * (b.toNat / 16) + b.toNat % 16) = b := by
      rw [Nat.div_add_mod, UInt8.ofNat_toNat]
    rw [bytesOfHex.go, hhigh, hlow]
    dsimp only
    rw [hbyte, ih hrest, List.reverse_cons, List.append_assoc]
    rfl

theorem WritesHex.bytesOfHex {t : Text} {bytes : List UInt8} (h : t.WritesHex bytes) :
    bytesOfHex t.withoutBlanks = .ok bytes := by
  have hascii : (t.withoutBlanks.findIdx? fun c => decide (c.toNat ≥ 128)) = none := by
    rw [List.findIdx?_eq_none_iff]
    intro c hc
    have hmem : c.toLower ∈ hexOfBytes bytes := h ▸ List.mem_map_of_mem hc
    obtain ⟨n, hn, hdigit⟩ := hexOfBytes_mem hmem
    exact decide_eq_false (Nat.not_le.2 (hexDigit_ascii hn hdigit))
  unfold Text.bytesOfHex
  rw [hascii]
  exact bytesOfHex_go h

theorem bytesOfHex_go_ok {t : Text} {place : Nat} {done bytes : List UInt8}
    (h : bytesOfHex.go place done t = .ok bytes) :
    ∃ more, bytes = done.reverse ++ more ∧ t.map CodePoint.toLower = hexOfBytes more := by
  fun_induction bytesOfHex.go place done t with
  | case1 place done =>
    cases h
    exact ⟨[], (List.append_nil _).symm, rfl⟩
  | case5 place done c d rest high low hlow hhigh ih =>
    obtain ⟨more, rfl, hrest⟩ := ih h
    obtain ⟨-, hhigh₁₆, hc⟩ := hexValue?_eq_some hhigh
    obtain ⟨-, hlow₁₆, hd⟩ := hexValue?_eq_some hlow
    have hbyte : (UInt8.ofNat (16 * high + low)).toNat = 16 * high + low := by
      rw [UInt8.toNat_ofNat']
      omega
    have hquotient : (16 * high + low) / 16 = high := by omega
    have hremainder : (16 * high + low) % 16 = low := by omega
    refine ⟨UInt8.ofNat (16 * high + low) :: more, ?_, ?_⟩
    · rw [List.reverse_cons, List.append_assoc, List.singleton_append]
    · rw [hexOfBytes_cons, hbyte, hquotient, hremainder, List.map_cons, List.map_cons, hc, hd,
        hrest]
  | _ => cases h

/-- Bytes are read off a text exactly if it writes them. -/
theorem bytesOfHex_ok_iff {t : Text} {bytes : List UInt8} :
    bytesOfHex t.withoutBlanks = .ok bytes ↔ t.WritesHex bytes := by
  refine ⟨fun h => ?_, WritesHex.bytesOfHex⟩
  unfold bytesOfHex at h
  split at h
  · cases h
  · obtain ⟨more, rfl, hmore⟩ := bytesOfHex_go_ok h
    exact hmore

theorem length_hexOfBytes (bytes : List UInt8) : (hexOfBytes bytes).length = 2 * bytes.length := by
  induction bytes with
  | nil => rfl
  | cons b rest ih =>
    rw [hexOfBytes_cons, List.length_cons, List.length_cons, ih, List.length_cons]
    omega

theorem digit_of_writes {t : Text} {bytes : List UInt8}
    (h : t.map CodePoint.toLower = hexOfBytes bytes) : ∀ c ∈ t, IsHexDigit c := by
  intro c hc
  have hmem : c.toLower ∈ hexOfBytes bytes := h ▸ List.mem_map_of_mem hc
  obtain ⟨n, hn, hdigit⟩ := hexOfBytes_mem hmem
  exact (hexValue?_eq_some (hexValue?_of_toLower hn hdigit)).1

theorem bytesOfHex_go_digits {t : Text} (place : Nat) (done : List UInt8) :
    t.length % 2 = 0 → (∀ c ∈ t, IsHexDigit c) →
      ∃ bytes, bytesOfHex.go place done t = .ok bytes := by
  fun_induction bytesOfHex.go place done t with
  | case1 place done => exact fun _ _ => ⟨_, rfl⟩
  | case2 place done c => exact fun hodd => absurd hodd Nat.one_ne_zero
  | case3 place done c d rest hnone =>
    intro _ hall
    have hsome := hexValue?_isSome c (hall c List.mem_cons_self)
    rw [hnone] at hsome
    cases hsome
  | case4 place done c d rest high hnone hhigh =>
    intro _ hall
    have hsome := hexValue?_isSome d (hall d (List.mem_cons_of_mem _ List.mem_cons_self))
    rw [hnone] at hsome
    cases hsome
  | case5 place done c d rest high low hlow hhigh ih =>
    intro heven hall
    refine ih ?_ fun e he => hall e (List.mem_cons_of_mem _ (List.mem_cons_of_mem _ he))
    rw [List.length_cons, List.length_cons] at heven
    omega

/-- A text writes bytes if there is an even number of digits in it, and nothing else that shows. -/
theorem writesHex_iff_digits {t : Text} : (∃ bytes, t.WritesHex bytes) ↔
    t.withoutBlanks.length % 2 = 0 ∧ ∀ c ∈ t.withoutBlanks, IsHexDigit c := by
  constructor
  · rintro ⟨bytes, h⟩
    have hlength := congrArg List.length h
    rw [List.length_map, length_hexOfBytes] at hlength
    exact ⟨by omega, digit_of_writes h⟩
  · rintro ⟨heven, hall⟩
    obtain ⟨bytes, hbytes⟩ := bytesOfHex_go_digits 0 [] heven hall
    obtain ⟨more, -, hmore⟩ := bytesOfHex_go_ok hbytes
    exact ⟨more, hmore⟩

theorem hexDigit_toUpper : ∀ n < 16, (hexDigit n).toUpper.toLower = hexDigit n ∧
    isBlankChar (hexDigit n).toUpper = false ∧ (hexDigit n).toUpper ≠ '<' ∧
    (hexDigit n).toUpper ≠ '\n' ∧ (hexDigit n).toUpper ≠ 'İ' := by
  decide

theorem writesHex_toUpper (bytes : List UInt8) :
    WritesHex ((hexOfBytes bytes).map CodePoint.toUpper) bytes := by
  have hall : ∀ c ∈ (hexOfBytes bytes).map CodePoint.toUpper, (!isBlankChar c) = true := by
    intro c hc
    obtain ⟨d, hd, rfl⟩ := List.mem_map.1 hc
    obtain ⟨n, hn, rfl⟩ := hexOfBytes_mem hd
    rw [(hexDigit_toUpper n hn).2.1]
    rfl
  unfold WritesHex withoutBlanks
  rw [List.filter_eq_self.2 hall, List.map_map]
  calc (hexOfBytes bytes).map (CodePoint.toLower ∘ CodePoint.toUpper)
      = (hexOfBytes bytes).map id := List.map_congr_left fun c hc => by
        obtain ⟨n, hn, rfl⟩ := hexOfBytes_mem hc
        exact (hexDigit_toUpper n hn).1
    _ = hexOfBytes bytes := List.map_id _

end Text
end ThermalPrint
