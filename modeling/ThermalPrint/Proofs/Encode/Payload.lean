import ThermalPrint.Encode.Barcode

/-
The data of a barcode.  Each of the two systems takes data of a kind, and has bytes for it that can
be counted in one.  In code set B an opening brace is a mark, so that the data has to be written
around it; what is read back in the code set is the data as it was.
-/

namespace ThermalPrint

namespace Encode

theorem asciiBytes_length (t : Text) : (asciiBytes t).length = t.length := List.length_map _

theorem asciiByte_toNat {c : CodePoint} (h : c.toNat < 128) :
    (UInt8.ofNat c.toNat).toNat = c.toNat := by
  rw [UInt8.toNat_ofNat']
  omega

/-- The bytes of a text in ASCII are the codes of its characters. -/
theorem ofNat_asciiBytes {t : Text} (h : ∀ c ∈ t, c.toNat < 128) :
    (asciiBytes t).map (fun b => CodePoint.ofNat b.toNat) = t := by
  rw [asciiBytes, List.map_map]
  refine (List.map_congr_left fun c hc => ?_).trans (List.map_id t)
  show CodePoint.ofNat (UInt8.ofNat c.toNat).toNat = c
  rw [asciiByte_toNat (h c hc), CodePoint.ofNat_toNat]

theorem isAsciiDigit_eq (c : CodePoint) : isAsciiDigit c = c.is Char.isDigit := by
  cases c with
  | char c => rfl
  | half n =>
    have hhigh := CodePoint.le_toNat_half n
    have hc : ¬ (CodePoint.half n).toNat ≤ 57 := by omega
    simp [isAsciiDigit, CodePoint.is, hc]

end Encode

namespace CodeSetB

/-- A character that the code set has, but for the last, which does not show. -/
def Has (c : CodePoint) : Prop := 32 ≤ c.toNat ∧ c.toNat < 127

instance (c : CodePoint) : Decidable (Has c) := inferInstanceAs (Decidable (_ ∧ _))

instance (data : Text) : Decidable (∀ c ∈ data, Has c) := List.decidableBAll _ data

/-- The text that bytes stand for.  Two opening braces are one; a single one would change the code
set or be a function, and is no text. -/
def read : List UInt8 → Option Text
  | [] => some []
  | 0x7B :: 0x7B :: rest => (read rest).map (.char '\x7b' :: ·)
  | b :: rest =>
    if 32 ≤ b ∧ b < 127 ∧ b ≠ 0x7B then (read rest).map (CodePoint.ofNat b.toNat :: ·) else none

/-- Data as it is written among bytes that an opening brace marks. -/
def escaped (data : Text) : Text :=
  data.flatMap fun (c : CodePoint) => if c = '\x7b' then [c, c] else [c]

theorem escaped_cons (c : CodePoint) (rest : Text) :
    escaped (c :: rest) = (if c = '\x7b' then [c, c] else [c]) ++ escaped rest := List.flatMap_cons

theorem escaped_length (data : Text) :
    (escaped data).length = data.length + data.count (.char '\x7b') := by
  induction data with
  | nil => rfl
  | cons c rest ih =>
    rw [escaped_cons, List.length_append, ih, List.length_cons]
    by_cases hbrace : c = '\x7b'
    · rw [if_pos hbrace, hbrace, List.count_cons_self]
      show 2 + _ = _
      omega
    · rw [if_neg hbrace, List.count_cons_of_ne hbrace]
      show 1 + _ = _
      omega

theorem read_cons {b : UInt8} (hlow : 32 ≤ b) (hhigh : b < 127) (hbrace : b ≠ 0x7B)
    (rest : List UInt8) : read (b :: rest) = (read rest).map (CodePoint.ofNat b.toNat :: ·) := by
  rw [read]
  · exact if_pos ⟨hlow, hhigh, hbrace⟩
  · rintro _ rfl
    exact absurd rfl hbrace

theorem read_escaped {data : Text} (h : ∀ c ∈ data, Has c) :
    read (Encode.asciiBytes (escaped data)) = some data := by
  induction data with
  | nil => rfl
  | cons c rest ih =>
    have hrest := ih fun d hd => h d (List.mem_cons_of_mem _ hd)
    obtain ⟨hlow, hhigh⟩ := h c List.mem_cons_self
    rw [escaped_cons]
    by_cases hbrace : c = '\x7b'
    · rw [if_pos hbrace, hbrace]
      show (read (Encode.asciiBytes (escaped rest))).map _ = _
      rw [hrest]
      rfl
    · have hn : (UInt8.ofNat c.toNat).toNat = c.toNat := Encode.asciiByte_toNat (by omega)
      rw [if_neg hbrace]
      show read (UInt8.ofNat c.toNat :: Encode.asciiBytes (escaped rest)) = _
      rw [read_cons, hrest, hn, CodePoint.ofNat_toNat]
      · rfl
      · rw [UInt8.le_iff_toNat_le, hn]
        exact hlow
      · rw [UInt8.lt_iff_toNat_lt, hn]
        exact hhigh
      · intro heq
        have hcode : c.toNat = 123 := by rw [← hn, heq]; rfl
        rw [← CodePoint.ofNat_toNat c, hcode] at hbrace
        exact hbrace rfl

end CodeSetB

namespace Encode

/-- Data is an EAN-13 number, with or without its last digit, which is a check. -/
def IsEan13 (data : Text) : Prop :=
  (data.length = 12 ∨ data.length = 13) ∧ ∀ c ∈ data, c.is Char.isDigit = true

/-- Data can be carried by a barcode in code set B. -/
def IsCode128 (data : Text) : Prop :=
  data ≠ [] ∧ (∀ c ∈ data, CodeSetB.Has c) ∧ 2 + data.length + data.count (.char '\x7b') ≤ 255

instance (data : Text) : Decidable (IsEan13 data) :=
  have : Decidable (∀ c ∈ data, c.is Char.isDigit = true) := List.decidableBAll _ data
  inferInstanceAs (Decidable (_ ∧ _))

instance (data : Text) : Decidable (IsCode128 data) := inferInstanceAs (Decidable (_ ∧ _))

section Payload

variable {name : Text} {given data : Text}

theorem payload_ean13 :
    payload "EAN13" given data =
      if IsEan13 data then .ok (67, asciiBytes data) else .error (.notEan13 data) := by
  have hcheck : (data.all isAsciiDigit && (data.length == 12 || data.length == 13)) = true ↔
      IsEan13 data := by
    rw [Bool.and_eq_true, Bool.or_eq_true, beq_iff_eq, beq_iff_eq, List.all_eq_true]
    simp only [isAsciiDigit_eq]
    exact And.comm
  unfold payload
  rw [if_pos (by decide)]
  by_cases hdata : IsEan13 data
  · rw [if_pos (hcheck.2 hdata), if_pos hdata]
  · rw [if_neg fun h => hdata (hcheck.1 h), if_neg hdata]

theorem payload_code128 (h : IsCode128 data) :
    payload "CODE128" given data =
      .ok (73, 0x7B :: 0x42 :: asciiBytes (CodeSetB.escaped data)) := by
  obtain ⟨hsome, hhas, hlength⟩ := h
  have hcheck : ¬ (data.isEmpty || !data.all fun c => 32 ≤ c.toNat && c.toNat < 127) = true := by
    simpa [CodeSetB.Has, hsome] using hhas
  have hbody : ¬ (code128Payload data).length > code128Limit := by
    show ¬ (CodeSetB.escaped data).length + 1 + 1 > 255
    rw [CodeSetB.escaped_length]
    omega
  unfold payload
  rw [if_neg (by decide), if_pos (by decide), if_neg hcheck]
  exact if_neg hbody

theorem payload_notCode128 (h : ¬ IsCode128 data) :
    ∃ fault, payload "CODE128" given data = .error fault ∧
      (fault = .notCode128 data ∨ ∃ length limit, fault = .longCode128 length limit) := by
  unfold payload
  rw [if_neg (by decide), if_pos (by decide)]
  dsimp only
  split
  · exact ⟨_, rfl, .inl rfl⟩
  · rename_i hcheck
    split
    · exact ⟨_, rfl, .inr ⟨_, _, rfl⟩⟩
    · rename_i hbody
      have hlength : ¬ (CodeSetB.escaped data).length + 1 + 1 > 255 := hbody
      rw [CodeSetB.escaped_length] at hlength
      simp only [Bool.or_eq_true, not_or] at hcheck
      refine absurd ⟨?_, ?_, by omega⟩ h
      · simpa using hcheck.1
      · simpa [CodeSetB.Has] using hcheck.2

theorem payload_unsupported (hean : name ≠ "EAN13") (hcode : name ≠ "CODE128") :
    payload name given data = .error (.unsupportedSymbology given) := by
  unfold payload
  rw [if_neg (mt beq_iff_eq.1 hean), if_neg (mt beq_iff_eq.1 hcode)]

/-- What becomes of the data for a barcode. -/
inductive Sends (given data : Text) : Except EncodeFault (UInt8 × List UInt8) → Prop
  | ean13 (hdata : IsEan13 data) : Sends given data (.ok (67, asciiBytes data))
  | notEan13 : Sends given data (.error (.notEan13 data))
  | code128 (hdata : IsCode128 data) :
    Sends given data (.ok (73, 0x7B :: 0x42 :: asciiBytes (CodeSetB.escaped data)))
  | notCode128 : Sends given data (.error (.notCode128 data))
  | longCode128 (length limit : Nat) : Sends given data (.error (.longCode128 length limit))
  | unsupported : Sends given data (.error (.unsupportedSymbology given))

theorem payload_sends (name : Text) (given data : Text) :
    Sends given data (payload name given data) := by
  by_cases hean : name = "EAN13"
  · rw [hean, payload_ean13]
    by_cases hdata : IsEan13 data
    · rw [if_pos hdata]
      exact .ean13 hdata
    · rw [if_neg hdata]
      exact .notEan13
  · by_cases hcode : name = "CODE128"
    · rw [hcode]
      by_cases hdata : IsCode128 data
      · rw [payload_code128 hdata]
        exact .code128 hdata
      · obtain ⟨fault, hpayload, hfault⟩ := payload_notCode128 hdata
        rw [hpayload]
        rcases hfault with rfl | ⟨length, limit, rfl⟩
        · exact .notCode128
        · exact .longCode128 length limit
    · rw [payload_unsupported hean hcode]
      exact .unsupported

theorem payload_length {system : UInt8} {bytes : List UInt8}
    (h : payload name given data = .ok (system, bytes)) : bytes.length < 256 := by
  have hsends := payload_sends name given data
  rw [h] at hsends
  cases hsends with
  | ean13 hdata =>
    obtain ⟨hlength, -⟩ := hdata
    rw [asciiBytes_length]
    omega
  | code128 hdata =>
    obtain ⟨-, -, hlength⟩ := hdata
    show (asciiBytes (CodeSetB.escaped data)).length + 1 + 1 < 256
    rw [asciiBytes_length, CodeSetB.escaped_length]
    omega

end Payload

end Encode
end ThermalPrint
