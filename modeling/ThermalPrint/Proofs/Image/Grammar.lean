import Mathlib.Data.List.Forall2
import ThermalPrint.Image.Raster.Payload
import ThermalPrint.Proofs.Bytes
import ThermalPrint.Proofs.Fault
import ThermalPrint.Proofs.Text.Hex

/-
The form of a payload.

A payload is one raster command behind the other, all of one width.  Whatever has this form is read
as the raster that the commands draw between them, and everything else is refused: a header that is
cut off or of another kind, a body that is too short, bytes behind the last body, a size of zero, a
width that changes.
-/

namespace ThermalPrint

/-- The fault is one of a payload, rather than of the raster that it describes. -/
def ImageFault.isOfPayload : ImageFault → Bool
  | notHex _ | emptyPayload | notRasterBlock _ | emptyBlock | unequalBlocks | shortBlock => true
  | _ => false

namespace Raster

/-- A raster command as it stands in a payload. -/
structure PayloadBlock where
  mode : UInt8
  xl : UInt8
  xh : UInt8
  yl : UInt8
  yh : UInt8
  body : List UInt8

namespace PayloadBlock

def width (p : PayloadBlock) : Nat := Bytes.word p.xl p.xh

def rows (p : PayloadBlock) : Nat := Bytes.word p.yl p.yh

def bytes (p : PayloadBlock) : List UInt8 :=
  [0x1D, 0x76, 0x30, p.mode, p.xl, p.xh, p.yl, p.yh] ++ p.body

/-- The header says what follows it, and that is something. -/
structure Sound (p : PayloadBlock) : Prop where
  width_pos : 0 < p.width
  rows_pos : 0 < p.rows
  length : p.body.length = p.width * p.rows

theorem length_bytes (p : PayloadBlock) : p.bytes.length = headerLength + p.body.length := by
  show ([0x1D, 0x76, 0x30, p.mode, p.xl, p.xh, p.yl, p.yh] ++ p.body).length = 8 + p.body.length
  rw [List.length_append]
  rfl

end PayloadBlock

section Block

variable {place : Nat} {width? : Option Nat} {bytes : List UInt8}

theorem readBlock_bytes (place : Nat) {p : PayloadBlock} (hp : p.Sound)
    (hsame : width? = none ∨ width? = some p.width) (rest : List UInt8) :
    readBlock place width? (p.bytes ++ rest) = .ok ⟨p.width, p.rows, p.body, rest⟩ := by
  have hsome : ¬ (p.width = 0 ∨ p.rows = 0) := by
    have := hp.width_pos
    have := hp.rows_pos
    omega
  have hequal : ¬ (width? ≠ none ∧ width? ≠ some p.width) := by
    rintro ⟨hnone, hother⟩
    exact hsame.elim hnone hother
  show readBlock place width? (0x1D :: 0x76 :: 0x30 :: p.mode :: p.xl :: p.xh :: p.yl :: p.yh ::
    (p.body ++ rest)) = _
  rw [readBlock]
  show (if p.width = 0 ∨ p.rows = 0 then _
    else if width? ≠ none ∧ width? ≠ some p.width then _
    else if ((p.body ++ rest).take (p.width * p.rows)).length ≠ p.width * p.rows then _
    else Except.ok (BlockRead.mk p.width p.rows ((p.body ++ rest).take (p.width * p.rows))
      ((p.body ++ rest).drop (p.width * p.rows)))) = _
  rw [if_neg hsome, if_neg hequal, ← hp.length, List.take_left, List.drop_left,
    if_neg (fun h => h rfl)]

theorem readBlock_ok {b : BlockRead} (h : readBlock place width? bytes = .ok b) :
    ∃ p : PayloadBlock, p.Sound ∧ bytes = p.bytes ++ b.rest ∧
      b = ⟨p.width, p.rows, p.body, b.rest⟩ ∧ (width? = none ∨ width? = some p.width) := by
  unfold readBlock at h
  split at h
  · rename_i mode xl xh yl yh rest
    dsimp only at h
    split at h
    · cases h
    · rename_i hsome
      split at h
      · cases h
      · rename_i hequal
        split at h
        · cases h
        · rename_i hlength
          cases h
          refine ⟨⟨mode, xl, xh, yl, yh, rest.take (Bytes.word xl xh * Bytes.word yl yh)⟩,
            ⟨?_, ?_, not_not.1 hlength⟩, ?_, rfl, ?_⟩
          · exact Nat.pos_of_ne_zero fun hzero => hsome (.inl hzero)
          · exact Nat.pos_of_ne_zero fun hzero => hsome (.inr hzero)
          · unfold PayloadBlock.bytes
            rw [List.append_assoc, List.take_append_drop]
            rfl
          · by_cases hnone : width? = none
            · exact .inl hnone
            · exact .inr (not_not.1 fun hother => hequal ⟨hnone, hother⟩)
  · cases h

theorem readBlock_fault {f : ImageFault} (h : readBlock place width? bytes = .error f) :
    f.isOfPayload = true := by
  unfold readBlock at h
  split at h
  · dsimp only at h
    split at h
    · cases h
      rfl
    · split at h
      · cases h
        rfl
      · split at h
        · cases h
          rfl
        · cases h
  · cases h
    rfl

/-- Every turn of the reader takes away a header and more. -/
theorem readBlock_shortens {b : BlockRead} (h : readBlock place width? bytes = .ok b) :
    b.rest.length + headerLength < bytes.length := by
  obtain ⟨p, hp, rfl, -, -⟩ := readBlock_ok h
  have hbody : 0 < p.body.length := by
    rw [hp.length]
    exact Nat.mul_pos hp.width_pos hp.rows_pos
  rw [List.length_append, p.length_bytes]
  omega

end Block

section Blocks

variable {bytes : List UInt8} {place height : Nat} {width? : Option Nat}
  {done : List (List UInt8)}

theorem readBlocks_cons {b : BlockRead} (h : readBlock place width? bytes = .ok b) :
    readBlocks place width? height done bytes =
      readBlocks (place + headerLength + b.width * b.rows) (some b.width) (height + b.rows)
        (b.body :: done) b.rest := by
  have hne : bytes.isEmpty = false := by
    cases bytes with
    | nil => cases h
    | cons => rfl
  rw [readBlocks, hne, if_neg Bool.false_ne_true]
  split
  · rename_i heq
    rw [h] at heq
    cases heq
  · rename_i heq
    rw [h] at heq
    cases heq
    rfl

/-- Blocks of one width, one behind the other, are read to the end of the last. -/
theorem readBlocks_bytes {width : Nat} {parts : List PayloadBlock}
    (hparts : ∀ p ∈ parts, p.Sound ∧ p.width = width) :
    ∀ {place height : Nat} {width? : Option Nat} {done : List (List UInt8)},
      width? = none ∧ parts ≠ [] ∨ width? = some width →
      readBlocks place width? height done (parts.flatMap PayloadBlock.bytes) =
        .ok (width, height + (parts.map PayloadBlock.rows).sum,
          (parts.map PayloadBlock.body).reverse ++ done) := by
  -- In front of the first block no width is known, and behind it the one that all blocks have.
  induction parts with
  | nil =>
    rintro place height width? done (⟨-, hne⟩ | rfl)
    · exact absurd rfl hne
    · rw [List.flatMap_nil, readBlocks]
      rfl
  | cons p parts ih =>
    intro place height width? done hsame
    obtain ⟨hp, rfl⟩ := hparts p List.mem_cons_self
    have hread := readBlock_bytes place hp (hsame.imp And.left id)
      (parts.flatMap PayloadBlock.bytes)
    rw [List.flatMap_cons, readBlocks_cons hread,
      ih (fun q hq => hparts q (List.mem_cons_of_mem _ hq)) (.inr rfl)]
    simp only [List.map_cons, List.sum_cons, List.reverse_cons, List.append_assoc, Nat.add_assoc]
    rfl

/-- What is read as blocks is blocks, of the width that is given back. -/
theorem readBlocks_ok {width total : Nat} {bodies : List (List UInt8)}
    (h : readBlocks place width? height done bytes = .ok (width, total, bodies)) :
    ∃ parts : List PayloadBlock, bytes = parts.flatMap PayloadBlock.bytes ∧
      (∀ p ∈ parts, p.Sound ∧ p.width = width) ∧ (∀ known, width? = some known → width = known) ∧
      total = height + (parts.map PayloadBlock.rows).sum ∧
      bodies = (parts.map PayloadBlock.body).reverse ++ done := by
  fun_induction readBlocks place width? height done bytes with
  | case1 place width? height done bytes hempty =>
    cases h
    refine ⟨[], List.isEmpty_iff.1 hempty, nofun, ?_, rfl, rfl⟩
    rintro known rfl
    rfl
  | case2 => cases h
  | case3 place width? height done bytes hsome b hread ih =>
    obtain ⟨parts, hrest, hparts, hwidth, rfl, rfl⟩ := ih h
    obtain ⟨p, hp, hbytes, hb, hsame⟩ := readBlock_ok hread
    have hown : p.width = width := by
      rw [hwidth _ rfl, hb]
    refine ⟨p :: parts, ?_, ?_, ?_, ?_, ?_⟩
    · rw [List.flatMap_cons, hbytes, hrest]
    · exact List.forall_mem_cons.2 ⟨⟨hp, hown⟩, hparts⟩
    · rintro known rfl
      exact hown.symm.trans (Option.some.inj (hsame.resolve_left nofun)).symm
    · rw [hb, List.map_cons, List.sum_cons, Nat.add_assoc]
    · rw [hb, List.map_cons, List.reverse_cons, List.append_assoc]
      rfl

theorem readBlocks_fault {f : ImageFault}
    (h : readBlocks place width? height done bytes = .error f) : f.isOfPayload = true := by
  fun_induction readBlocks place width? height done bytes with
  | case1 => cases h
  | case2 place width? height done bytes hsome e hread =>
    cases h
    exact readBlock_fault hread
  | case3 place width? height done bytes hsome b hread ih => exact ih h

end Blocks

section Payload

variable {q : Raster} {bytes : List UInt8}

/-- Packed bytes are a raster if they are the bytes of one. -/
theorem ofBytes_ok_iff {width height : Int} {data : ByteArray} :
    ofBytes width height data = .ok q ↔
      (q.width : Int) = width ∧ (q.height : Int) = height ∧ q.data = data := by
  unfold ofBytes
  constructor
  · intro h
    split at h
    · cases h
    · split at h
      · cases h
        dsimp only
        refine ⟨by omega, by omega, rfl⟩
      · cases h
  · rintro ⟨rfl, rfl, rfl⟩
    have hwidth := q.width_pos
    have hheight := q.height_pos
    rw [if_neg (by omega), dif_pos ⟨hwidth, hheight, q.size_eq⟩]
    rfl

theorem length_bodies {width : Nat} {parts : List PayloadBlock}
    (hparts : ∀ p ∈ parts, p.Sound ∧ p.width = width) :
    (parts.flatMap PayloadBlock.body).length =
      width * (parts.map PayloadBlock.rows).sum := by
  induction parts with
  | nil => rfl
  | cons p parts ih =>
    obtain ⟨hp, rfl⟩ := hparts p List.mem_cons_self
    rw [List.flatMap_cons, List.length_append, hp.length,
      ih fun q hq => hparts q (List.mem_cons_of_mem _ hq), List.map_cons, List.sum_cons,
      Nat.mul_add]

/-- Blocks draw a raster: they have one width, which is that of the raster in bytes, and its rows
between them. -/
structure Draws (parts : List PayloadBlock) (q : Raster) : Prop where
  some : parts ≠ []
  sound : ∀ p ∈ parts, p.Sound
  width : ∀ p ∈ parts, q.width = 8 * p.width
  height : q.height = (parts.map PayloadBlock.rows).sum
  data : q.data.toList = parts.flatMap PayloadBlock.body

/-- Blocks of one width draw a raster. -/
theorem exists_draws {width : Nat} {parts : List PayloadBlock} (hsome : parts ≠ [])
    (hparts : ∀ p ∈ parts, p.Sound ∧ p.width = width) : ∃ q, Draws parts q := by
  obtain ⟨first, rest, rfl⟩ := List.exists_cons_of_ne_nil hsome
  obtain ⟨hfirst, rfl⟩ := hparts first List.mem_cons_self
  have hwidth := hfirst.width_pos
  have hrows : 0 < ((first :: rest).map PayloadBlock.rows).sum := by
    have := hfirst.rows_pos
    rw [List.map_cons, List.sum_cons]
    omega
  have hbytes : rowBytes (8 * first.width) = first.width := by
    unfold rowBytes
    omega
  have hsize : ((first :: rest).flatMap PayloadBlock.body).toByteArray.size =
      rowBytes (8 * first.width) * ((first :: rest).map PayloadBlock.rows).sum := by
    rw [List.size_toByteArray, length_bodies hparts, hbytes]
  refine ⟨⟨8 * first.width, _, _, by omega, hrows, hsize⟩, hsome, fun p hp => (hparts p hp).1,
    fun p hp => by rw [(hparts p hp).2], rfl, ?_⟩
  rw [Bytes.toList_eq, List.data_toByteArray]

theorem ofBlocks_ok_iff :
    ofBlocks bytes = .ok q ↔
      ∃ parts, bytes = parts.flatMap PayloadBlock.bytes ∧ Draws parts q := by
  unfold ofBlocks
  constructor
  · intro h
    split at h
    · cases h
    · rename_i hempty
      split at h
      · cases h
      · rename_i width height bodies hread
        obtain ⟨parts, rfl, hparts, -, rfl, rfl⟩ := readBlocks_ok hread
        obtain ⟨hwidth, hheight, hdata⟩ := ofBytes_ok_iff.1 h
        refine ⟨parts, rfl, ?_, fun p hp => (hparts p hp).1, fun p hp => ?_, ?_, ?_⟩
        · rintro rfl
          exact hempty rfl
        · rw [(hparts p hp).2]
          omega
        · omega
        · rw [hdata, List.append_nil, List.reverse_reverse, ← List.flatMap_def, Bytes.toList_eq,
            List.data_toByteArray]
  · rintro ⟨parts, rfl, h⟩
    obtain ⟨first, hfirst⟩ := List.exists_mem_of_ne_nil parts h.some
    have hparts : ∀ p ∈ parts, p.Sound ∧ p.width = first.width := by
      intro p hp
      have hown := h.width p hp
      have hother := h.width first hfirst
      exact ⟨h.sound p hp, by omega⟩
    have hempty : (parts.flatMap PayloadBlock.bytes).isEmpty = false := by
      cases hcases : parts with
      | nil => exact absurd hcases h.some
      | cons p rest => rfl
    rw [hempty, if_neg Bool.false_ne_true, readBlocks_bytes hparts (.inl ⟨rfl, h.some⟩)]
    dsimp only
    rw [List.append_nil, List.reverse_reverse, ← List.flatMap_def, ← h.data,
      Bytes.toByteArray_toList, Nat.zero_add, ofBytes_ok_iff, ← h.height, ← h.width first hfirst]
    exact ⟨rfl, rfl, rfl⟩

/-- Whatever is wrong is wrong with the payload.  The raster behind it has a size and the bytes for
it. -/
theorem ofBlocks_fault {f : ImageFault} (h : ofBlocks bytes = .error f) : f.isOfPayload = true := by
  cases hread : readBlocks 0 none 0 [] bytes with
  | error e =>
    unfold ofBlocks at h
    rw [hread] at h
    split at h
    · cases h
      rfl
    · cases h
      exact readBlocks_fault hread
  | ok found =>
    obtain ⟨parts, rfl, hparts, -, -, -⟩ := readBlocks_ok hread
    by_cases hsome : parts = []
    · subst hsome
      cases h
      rfl
    · obtain ⟨q, hq⟩ := exists_draws hsome hparts
      rw [ofBlocks_ok_iff.2 ⟨parts, rfl, hq⟩] at h
      cases h

theorem ofHex_ok_iff {payload : Text} : ofHex payload = .ok q ↔
    ∃ parts, payload.WritesHex (parts.flatMap PayloadBlock.bytes) ∧ Draws parts q := by
  constructor
  · intro h
    unfold ofHex at h
    split at h
    · cases h
    · rename_i bytes hbytes
      obtain ⟨parts, rfl, hdraws⟩ := ofBlocks_ok_iff.1 h
      exact ⟨parts, Text.bytesOfHex_ok_iff.1 hbytes, hdraws⟩
  · rintro ⟨parts, hwritten, hdraws⟩
    unfold ofHex
    rw [hwritten.bytesOfHex]
    exact ofBlocks_ok_iff.2 ⟨parts, rfl, hdraws⟩

theorem ofHex_fault {payload : Text} {f : ImageFault} (h : ofHex payload = .error f) :
    f.isOfPayload = true := by
  unfold ofHex at h
  split at h
  · cases h
    rfl
  · exact ofBlocks_fault h

end Payload

/-- A payload is read exactly if its digits are those of one block or more, sound and of one width,
and then as the raster that these draw.  Every other payload is refused for what is wrong with it,
as an image that cannot be printed, and the reader gets through all of them, as each of its turns
takes away a header and more. -/
theorem ofHex_accepts (payload : Text) :
    ((∃ q, ofHex payload = .ok q) ↔ ∃ (parts : List PayloadBlock) (width : Nat),
      payload.WritesHex (parts.flatMap PayloadBlock.bytes) ∧ parts ≠ [] ∧
        ∀ p ∈ parts, p.Sound ∧ p.width = width) ∧
    (∀ q, ofHex payload = .ok q ↔
      ∃ parts, payload.WritesHex (parts.flatMap PayloadBlock.bytes) ∧ Draws parts q) ∧
    ((∃ bytes, payload.WritesHex bytes) ↔ payload.withoutBlanks.length % 2 = 0 ∧
      ∀ c ∈ payload.withoutBlanks, Text.IsHexDigit c) ∧
    (∀ f, ofHex payload = .error f →
      f.isOfPayload = true ∧ f.toPrintError.kind = .invalidImage) ∧
    ∀ (place : Nat) (width? : Option Nat) (bytes : List UInt8) (b : BlockRead),
      readBlock place width? bytes = .ok b → b.rest.length + headerLength < bytes.length := by
  refine ⟨⟨?_, ?_⟩, fun q => ofHex_ok_iff, Text.writesHex_iff_digits,
    fun f hf => ⟨ofHex_fault hf, PrintError.of_kind _ _⟩, fun _ _ _ _ => readBlock_shortens⟩
  · rintro ⟨q, hq⟩
    obtain ⟨parts, hwritten, hdraws⟩ := ofHex_ok_iff.1 hq
    refine ⟨parts, q.width / 8, hwritten, hdraws.some, fun p hp => ⟨hdraws.sound p hp, ?_⟩⟩
    have hwidth := hdraws.width p hp
    omega
  · rintro ⟨parts, width, hwritten, hsome, hparts⟩
    obtain ⟨q, hq⟩ := exists_draws hsome hparts
    exact ⟨q, ofHex_ok_iff.2 ⟨parts, hwritten, hq⟩⟩

def voucher : List PayloadBlock :=
  [⟨0, 2, 0, 2, 0, [0xFF, 0x80, 0x01, 0x00]⟩, ⟨3, 2, 0, 1, 0, [0xAA, 0x0F]⟩]

def voucherDigits : Text :=
  "1D7630 00 0200 0200 ff80\n0100\u2003 1d763003 02000100 aa0 F".toText

theorem ofHex_accepts_voucher :
    (∃ q, ofHex voucherDigits = .ok q ∧ q.width = 16 ∧ q.height = 3 ∧
      q.data.toList = [0xFF, 0x80, 0x01, 0x00, 0xAA, 0x0F]) ∧
    ofHex "1D7630000100020055".toText = .error .shortBlock ∧
      ImageFault.shortBlock.toPrintError.kind = .invalidImage := by
  have hwritten : voucherDigits.WritesHex (voucher.flatMap PayloadBlock.bytes) := by
    decide +kernel
  have hparts : ∀ p ∈ voucher, p.Sound ∧ p.width = 2 := by
    unfold voucher
    simp only [List.forall_mem_cons, List.not_mem_nil, false_imp_iff, implies_true, and_true]
    exact ⟨⟨⟨by decide, by decide, rfl⟩, rfl⟩, ⟨by decide, by decide, rfl⟩, rfl⟩
  obtain ⟨q, hq⟩ := (ofHex_accepts voucherDigits).1.2 ⟨voucher, 2, hwritten, nofun, hparts⟩
  have hshort : ofHex "1D7630000100020055".toText = .error .shortBlock := by decide +kernel
  refine ⟨⟨q, hq, ?_⟩, hshort, ((ofHex_accepts _).2.2.2.1 _ hshort).2⟩
  have hread : (ofHex voucherDigits).map (fun q => (q.width, q.height, q.data.toList)) =
      .ok (16, 3, [0xFF, 0x80, 0x01, 0x00, 0xAA, 0x0F]) := by decide +kernel
  rw [hq] at hread
  injection hread with hread
  simp only [Prod.mk.injEq] at hread
  exact hread

end Raster
end ThermalPrint
