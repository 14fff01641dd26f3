import ThermalPrint.Proofs.Image.Blocks
import ThermalPrint.Proofs.Markup.Aligned
import ThermalPrint.Proofs.Markup.Lines

/-
Rasters written out in markup.  An element that is a line by itself is read as it is written, so an
image element with the blocks of a raster in it prints the raster that the blocks describe.
-/

namespace ThermalPrint
namespace Markup

section Lone

variable {number : Nat} {e : Element} {tag : Tag} {attributes : List Attribute}
  {opening content : Text}

theorem divides_lone (htag : readTag? (opening ++ content ++ e.closingTag) = some tag)
    (hlength : tag.length = opening.length) (hopen : tag.closing = false)
    (hname : tag.name = e.name)
    (hattributes : checkAttributes tag.name e.keys tag.attributes = .ok attributes)
    (hcontent : .char '<' ∉ content) :
    Divides (opening ++ content ++ e.closingTag)
      [.element opening e attributes content e.closingTag] := by
  have hsmall : e.closingTag.map CodePoint.toLower = e.closingTag := by cases e <;> rfl
  have hfirst : ∀ i < content.length, ¬ Closes e ((content ++ e.closingTag ++ []).drop i) := by
    rintro i hi hcloses
    have hdrop : (content ++ e.closingTag ++ []).drop i =
        content[i] :: (content.drop (i + 1) ++ e.closingTag) := by
      rw [List.append_nil, List.drop_append_of_le_length (Nat.le_of_lt hi),
        List.drop_eq_getElem_cons hi, List.cons_append]
    rw [Closes, hdrop, List.map_cons] at hcloses
    have hbracket := (List.cons_prefix_cons.1 hcloses).1.symm
    exact hcontent (Text.eq_of_toLower (by decide) hbracket ▸ List.getElem_mem hi)
  rw [← List.append_nil (opening ++ content ++ e.closingTag)] at htag ⊢
  exact .element htag hlength hopen hname hattributes hsmall hfirst .done

theorem pieces_lone (htag : readTag? (opening ++ content ++ e.closingTag) = some tag)
    (hlength : tag.length = opening.length) (hopen : tag.closing = false)
    (hname : tag.name = e.name)
    (hattributes : checkAttributes tag.name e.keys tag.attributes = .ok attributes)
    (hcontent : .char '<' ∉ content) (hopening : .char 'İ' ∉ opening) (hdot : .char 'İ' ∉ content) :
    pieces number (.ofLine (opening ++ content ++ e.closingTag)) =
      ([.element e attributes content], none) := by
  have hdivides := divides_lone htag hlength hopen hname hattributes hcontent
  have hclosing : .char 'İ' ∉ e.closingTag := by cases e <;> decide
  have hundotted : Undotted (opening ++ content ++ e.closingTag) := by
    intro a b hline
    have hmem : .char 'İ' ∈ opening ++ content ++ e.closingTag :=
      hline ▸ List.mem_append_right a List.mem_cons_self
    rw [List.mem_append, List.mem_append] at hmem
    exact absurd hmem (by rintro ((h | h) | h) <;> contradiction)
  rw [hundotted.pieces]
  exact (pieces_eq_iff number hdivides rfl).2 (found_even hdivides)

end Lone

section Image

theorem readTag?_img (rest : Text) :
    readTag? ("<img>".toText ++ rest) = some ⟨false, Element.img.name, [], 5⟩ := by
  have hwritable : ∀ a ∈ ([] : List Attribute), a.Writable := by simp
  exact readTag?_opening .img hwritable rest

section Compiled

variable {images : Images} {options : Options} {payload : Text}

/-- An image element with neither blanks nor brackets in it, and nothing else on the line, is the
raster that its content stands for, from the left margin on. -/
theorem compile_lone_image {q : Raster}
    (hplain : ∀ c ∈ payload, Text.isBlankChar c = false ∧ c ≠ '<' ∧ c ≠ '\n' ∧ c ≠ 'İ')
    (hresolve : resolveImage images payload = .ok q) :
    compile images options ("<img>".toText ++ payload ++ "</img>".toText) =
      .ok (.image q .left :: if options.cut then [.cut] else []) := by
  have hpieces : pieces 1 (.ofLine ("<img>".toText ++ payload ++ "</img>".toText)) =
      ([.element .img [] payload], none) := by
    have htag : readTag? ("<img>".toText ++ payload ++ Element.img.closingTag) =
        some ⟨false, Element.img.name, [], 5⟩ := by
      rw [List.append_assoc]
      exact readTag?_img _
    exact pieces_lone htag rfl rfl rfl rfl (fun h => (hplain _ h).2.1 rfl) (by decide)
      (fun h => (hplain _ h).2.2.2 rfl)
  have halign : lineAlign ("<img>".toText ++ payload ++ "</img>".toText) = (.left, 0) := rfl
  have hmem : .char '<' ∈ "<img>".toText ++ payload ++ "</img>".toText := List.mem_cons_self
  obtain ⟨hblank, hrule⟩ := shows_of_mem hmem rfl (by decide) (by decide)
  have hbreak : .char '\n' ∉ "<img>".toText ++ payload ++ "</img>".toText := by
    rw [List.mem_append, List.mem_append]
    rintro ((h | h) | h)
    · exact absurd h (by decide)
    · exact (hplain _ h).2.2.1 rfl
    · exact absurd h (by decide)
  have helement : elementDirective images options.imageOptional .left .img [] payload =
      .ok (some (.image q .left)) := by
    unfold elementDirective
    dsimp only
    rw [Text.trim_of_unblank fun c hc => (hplain c hc).1, hresolve]
  have hfold : [Piece.element .img [] payload].foldlM
      (LineState.add images options.imageOptional 1) { align := .left } =
        .ok { align := .left, done := [.image q .left] } := by
    show (LineState.add images options.imageOptional 1 _ _ >>= _) = _
    unfold LineState.add
    dsimp only
    rw [helement]
    rfl
  rw [compile_line_eq hbreak (List.cons_ne_nil _ _),
    compileLine_of_body halign rfl hblank hrule hpieces, hfold]
  rfl

/-- An image element does not go on behind the end of its line. -/
theorem compile_unclosed_image (hclose : .char '>' ∉ payload) (hbreak : .char '\n' ∉ payload)
    (hreturn : .char '\r' ∉ payload) (rest : Text) :
    compile images options ("<img>".toText ++ payload ++ .char '\n' :: rest) =
      .error (.unclosed Element.img.name 1) := by
  have hfind : Text.find? Element.img.closingTag
      ((Cursor.ofLine ("<img>".toText ++ payload)).advance 5).folded = none := by
    have hfolded : ((Cursor.ofLine ("<img>".toText ++ payload)).advance 5).folded =
        [] ++ Text.fold payload := by
      show (Text.fold ("<img>".toText ++ payload)).drop 5 = _
      rw [Text.fold_append]
      rfl
    rw [hfolded, Text.find?_append (closingTag_last .img) fun h => hclose (Text.close_mem_fold h)]
    rfl
  have hread : readToken 1 (.ofLine ("<img>".toText ++ payload)) =
      .error (.unclosed Element.img.name 1) := by
    have htag : readTag? (Cursor.ofLine ("<img>".toText ++ payload)).rest = some _ :=
      readTag?_img payload
    exact readToken_unclosed htag rfl rfl rfl hfind
  have hpieces : pieces 1 (.ofLine ("<img>".toText ++ payload)) =
      ([], some (.unclosed Element.img.name 1)) := pieces_fault rfl hread
  have hmem : .char '<' ∈ "<img>".toText ++ payload := List.mem_cons_self
  obtain ⟨hblank, hrule⟩ := shows_of_mem hmem rfl (by decide) (by decide)
  have hline : compileLine images options.imageOptional 1 ("<img>".toText ++ payload) =
      .error (.unclosed Element.img.name 1) :=
    compileLine_of_fault rfl rfl hblank hrule hpieces
  have hlines : sourceLines ("<img>".toText ++ payload ++ .char '\n' :: rest) =
      ("<img>".toText ++ payload) :: sourceLines rest :=
    sourceLines_cons (by simp [hbreak]) (by simp [hreturn]) rest
  rw [compile, hlines, List.zipIdx_cons, List.mapM_cons]
  dsimp only
  rw [hline]
  rfl

/-- An image element with digits in it, and nothing else on the line, is the raster that the digits
describe, from the left margin on. -/
theorem compile_image {bytes : List UInt8} {q : Raster} (hsome : bytes ≠ [])
    (hhandle : images.lookup ((Text.hexOfBytes bytes).map CodePoint.toUpper) = none)
    (hraster : Raster.ofHex ((Text.hexOfBytes bytes).map CodePoint.toUpper) = .ok q) :
    compile images options
        ("<img>".toText ++ (Text.hexOfBytes bytes).map CodePoint.toUpper ++ "</img>".toText) =
      .ok (.image q .left :: if options.cut then [.cut] else []) := by
  refine compile_lone_image (fun c hc => ?_) ?_
  · obtain ⟨d, hd, rfl⟩ := List.mem_map.1 hc
    obtain ⟨n, hn, rfl⟩ := Text.hexOfBytes_mem hd
    exact (Text.hexDigit_toUpper n hn).2
  · have hfilled : (Text.hexOfBytes bytes).map CodePoint.toUpper ≠ [] := by
      cases bytes with
      | nil => exact absurd rfl hsome
      | cons b rest => exact List.cons_ne_nil _ _
    unfold resolveImage
    rw [hhandle]
    dsimp only
    rw [if_neg (by rw [List.isEmpty_iff]; exact hfilled)]
    exact hraster

end Compiled

end Image

end Markup

namespace Raster

/-- The blocks of a raster, of whatever size, are read as the raster with its bytes, however they
are written in hexadecimal digits, and so they are in an image element. -/
theorem payload_read (r : Raster) (hbytes : r.bytesPerRow ≤ 65535) {count : Int}
    (hcount : 1 ≤ count) (hmost : count ≤ 65535) :
    ∃ blocks q, r.blocksOf count = .ok blocks ∧
      q.width = 8 * r.bytesPerRow ∧ q.height = r.height ∧ q.data = r.data ∧
      (8 ∣ r.width → q = r) ∧
      (∀ payload : Text, payload.WritesHex blocks.flatten → ofHex payload = .ok q) ∧
      ∃ payload, r.toHex = .ok payload ∧
        ∀ (images : Markup.Images) (options : Markup.Options), images.lookup payload = none →
          Markup.compile images options ("<img>".toText ++ payload ++ "</img>".toText) =
            .ok (.image q .left :: if options.cut then [.cut] else []) := by
  have hown : r.blocksOf maxBlockRows = .ok (r.blocks maxBlockRows) :=
    blocksOf_eq hbytes (by decide) (by decide)
  have hsome : (r.blocks maxBlockRows).flatten ≠ [] := by
    intro hnone
    have hread : ofBlocks (r.blocks maxBlockRows).flatten = .ok r.filled :=
      ofBlocks_blocks hbytes (by decide) (by decide)
    rw [hnone] at hread
    cases hread
  refine ⟨_, r.filled, blocksOf_eq hbytes hcount hmost, rfl, rfl, rfl, filled_eq,
    fun payload hpayload => ofHex_blocks hbytes (by omega) (by omega) hpayload, _, ?_,
    fun images options hhandle => Markup.compile_image hsome hhandle ?_⟩
  · rw [toHex, hown]
    rfl
  · exact ofHex_blocks hbytes (by decide) (by decide) (Text.writesHex_toUpper _)

def ticket : Raster :=
  ⟨9, 3, [0xFF, 0x80, 0x01, 0x00, 0xAA, 0xFF].toByteArray, by decide, by decide, rfl⟩

def ticketDigits : Text := "1D7630 00 0200 0200 ff80\n0100\u2003 1d763000 02000100 aaF F".toText

theorem payload_read_ticket :
    ticket.bytesPerRow ≤ 65535 ∧ ∃ q, q.width = 16 ∧ q.height = 3 ∧ q.data = ticket.data ∧
      ofHex ticketDigits = .ok q ∧ ∃ payload, ticket.toHex = .ok payload ∧
        Markup.compile [] {} ("<img>".toText ++ payload ++ "</img>".toText) =
          .ok [.image q .left] := by
  have hbytes : ticket.bytesPerRow ≤ 65535 := by decide
  obtain ⟨blocks, q, hblocks, hwidth, hheight, hdata, -, hread, payload, hpayload, hcompile⟩ :=
    payload_read ticket hbytes (by decide : (1 : Int) ≤ 2) (by decide)
  have hwritten : ticket.blocksOf 2 =
      .ok [[0x1D, 0x76, 0x30, 0, 2, 0, 2, 0, 0xFF, 0x80, 0x01, 0x00],
        [0x1D, 0x76, 0x30, 0, 2, 0, 1, 0, 0xAA, 0xFF]] := by decide +kernel
  cases hblocks.symm.trans hwritten
  exact ⟨hbytes, q, hwidth, hheight, hdata, hread _ (by decide +kernel), payload, hpayload,
    hcompile [] {} rfl⟩

end Raster
end ThermalPrint
