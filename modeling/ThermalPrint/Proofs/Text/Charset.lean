import Mathlib.Data.List.Forall2
import ThermalPrint.Text.Charset

/-
The bytes of texts in code pages.
-/

namespace ThermalPrint
namespace Text
namespace Charset

theorem place?_some {characters : List Char} {c : Char} {place : Nat}
    (h : place? characters c = some place) :
    c ≠ '\uFFFD' ∧ place < characters.length ∧ characters[place]? = some c := by
  unfold place? at h
  split at h
  · cases h
  · rename_i hgap
    obtain ⟨hbound, hat, -⟩ := List.findIdx?_eq_some_iff_getElem.1 h
    exact ⟨hgap, hbound, by rw [List.getElem?_eq_getElem hbound, eq_of_beq hat]⟩

theorem upperByte_toNat {place : Nat} (h : place < 128) :
    (UInt8.ofNat (128 + place)).toNat = 128 + place := by
  rw [UInt8.toNat_ofNat']
  omega

/-- A byte of a code page is the character itself where that is in ASCII, and otherwise it is in
the upper half or a question mark. -/
theorem page_byte {upper : List Char} (hupper : upper.length ≤ 128) {t : Text} {b : UInt8}
    (h : b ∈ (page upper).encode t) :
    ∃ c ∈ t, if c.toNat < 128 then b = UInt8.ofNat c.toNat else 128 ≤ b ∨ b = unknownByte := by
  have hmem : b ∈ (page upper).body t := h
  simp only [body, List.map_map, List.mem_map] at hmem
  obtain ⟨c, hc, rfl⟩ := hmem
  refine ⟨c, hc, ?_⟩
  cases c with
  | half n =>
    have hhigh := CodePoint.le_toNat_half n
    rw [if_neg (by omega)]
    exact .inr rfl
  | char c =>
    rw [Function.comp_apply, CodePoint.charOr, CodePoint.toNat_char]
    by_cases hascii : c.toNat < 128
    · rw [if_pos hascii, if_pos hascii]
    · rw [if_neg hascii, if_neg hascii]
      cases hp : place? upper c with
      | none => exact .inr rfl
      | some place =>
        have hbyte := upperByte_toNat (Nat.lt_of_lt_of_le (place?_some hp).2.1 hupper)
        left
        rw [UInt8.le_iff_toNat_le]
        show 128 ≤ (UInt8.ofNat (128 + place)).toNat
        omega

def glyph? (upper : List Char) (b : UInt8) : Option CodePoint :=
  if b.toNat < 128 then some (Char.ofNat b.toNat)
  else (upper[b.toNat - 128]?.filter (· ≠ '\uFFFD')).map .char

/-- A byte is what a code page has for a character: it stands for the character, or is a
question mark and no byte does. -/
def Shows (upper : List Char) (b : UInt8) (c : CodePoint) : Prop :=
  glyph? upper b = some c ∨ (b = unknownByte ∧ ∀ other, glyph? upper other ≠ some c)

theorem glyph?_some {upper : List Char} {c : CodePoint} {b : UInt8} (h : glyph? upper b = some c) :
    ∃ d : Char, c = d ∧ (b.toNat = d.toNat ∧ d.toNat < 128 ∨ d ≠ '\uFFFD' ∧ d ∈ upper) := by
  unfold glyph? at h
  split at h
  · rename_i hb
    have hvalid : b.toNat.isValidChar := .inl (by omega)
    have hcode : (Char.ofNat b.toNat).toNat = b.toNat := by
      rw [Char.ofNat, dif_pos hvalid]
      rfl
    exact ⟨_, (Option.some.inj h).symm, .inl ⟨hcode.symm, by rwa [hcode]⟩⟩
  · obtain ⟨d, hd, rfl⟩ := Option.map_eq_some_iff.1 h
    obtain ⟨hmem, hgap⟩ := Option.filter_eq_some_iff.1 hd
    exact ⟨d, rfl, .inr ⟨of_decide_eq_true hgap, List.mem_of_getElem? hmem⟩⟩

/-- A code page encodes each character by the byte that it has for it. -/
theorem page_shows {upper : List Char} (hupper : upper.length ≤ 128) (t : Text) :
    List.Forall₂ (fun c b => Shows upper b c) t ((page upper).encode t) := by
  show List.Forall₂ _ t ((t.map _).map _)
  rw [List.map_map, List.forall₂_map_right_iff, List.forall₂_same]
  intro c _
  cases c with
  | half n =>
    refine .inr ⟨rfl, fun b hb => ?_⟩
    obtain ⟨d, hd, -⟩ := glyph?_some hb
    cases hd
  | char c =>
    rw [Function.comp_apply, CodePoint.charOr]
    by_cases hascii : c.toNat < 128
    · left
      have hbyte : (UInt8.ofNat c.toNat).toNat = c.toNat := by
        rw [UInt8.toNat_ofNat']
        omega
      rw [if_pos hascii, glyph?, hbyte, if_pos hascii, Char.ofNat_toNat]
    · rw [if_neg hascii]
      cases hplace : place? upper c with
      | some place =>
        left
        obtain ⟨hgap, hlt, hat⟩ := place?_some hplace
        have hbyte := upperByte_toNat (Nat.lt_of_lt_of_le hlt hupper)
        show glyph? upper (UInt8.ofNat (128 + place)) = some (.char c)
        rw [glyph?, hbyte, if_neg (by omega), Nat.add_sub_cancel_left, hat, Option.filter_some_pos]
        · rfl
        · exact decide_eq_true hgap
      | none =>
        refine .inr ⟨rfl, fun b hb => ?_⟩
        obtain ⟨d, hd, hglyph⟩ := glyph?_some hb
        cases hd
        obtain ⟨hgap, hmem⟩ := hglyph.resolve_left fun hlow => hascii hlow.2
        rw [place?, if_neg hgap, List.findIdx?_eq_none_iff] at hplace
        exact absurd (hplace c hmem) (by simp)

/-- A space has one byte, unless a code page has a second one for it. -/
theorem shows_space {upper : List Char} (hupper : ' ' ∉ upper) {b : UInt8}
    (h : Shows upper b ' ') : b = 32 := by
  have hspace : glyph? upper 32 = some (.char ' ') := rfl
  rcases h with h | ⟨-, hnone⟩
  · obtain ⟨d, hd, hglyph⟩ := glyph?_some h
    cases hd
    obtain ⟨hcode, -⟩ := hglyph.resolve_right fun hhigh => hupper hhigh.2
    exact UInt8.toNat.inj hcode
  · exact absurd hspace (hnone 32)

/-- The characters of the upper half of the standard code page. -/
def cp437 : List Char := codePages[11].upper.toList

theorem toList_append_length {a b : String} {m n : Nat} (ha : a.toList.length = m)
    (hb : b.toList.length = n) : (a ++ b).toList.length = m + n := by
  rw [String.toList_append, List.length_append, ha, hb]

theorem find_cp437 : (codePages.find? fun p => p.name == "cp437") = some codePages[11] := rfl

theorem cp437_length : cp437.length = 128 := by
  -- The two halves are measured apart, since the length of both at once is slow to check.
  refine @toList_append_length _ _ 64 64 ?_ ?_
  · rw [String.toList_ofList]
    rfl
  · rw [String.toList_ofList]
    rfl

theorem space_cp437 : ' ' ∉ cp437 := by
  show ' ' ∉ ((_ : String) ++ _).toList
  rw [String.toList_append, List.mem_append, not_or]
  refine ⟨?_, ?_⟩
  · rw [String.toList_ofList]
    decide
  · rw [String.toList_ofList]
    decide

theorem charsetNameOf_cp437 : charsetNameOf (charsetKey "cp437") = "cp437" := by
  decide +kernel

theorem ofName_cp437 : ofName "cp437" = .ok (.page cp437) := by
  have hhalf : Utf8.unpaired? "cp437".toText = none := rfl
  have hzero : "cp437".toText.contains (Char.ofNat 0) = false := rfl
  have htext : nonTextEncodings.contains "cp437" = false := rfl
  have hnamed : named? "cp437" = some (.page cp437) := by
    show (((codePages.find? fun p => p.name == "cp437").map fun p => page p.upper.toList)
      <|> _ <|> _ <|> _) = _
    rw [find_cp437]
    rfl
  unfold ofName
  rw [hhalf, charsetNameOf_cp437]
  dsimp only
  rw [hzero, htext, hnamed]
  rfl

end Charset
end Text
end ThermalPrint
