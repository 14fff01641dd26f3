import Mathlib.Data.Bool.AllAny
import ThermalPrint.Proofs.Decimal.Whole
import ThermalPrint.Proofs.Markup.Concat
import ThermalPrint.Proofs.Markup.Enclosed
import ThermalPrint.Proofs.Markup.InPlace
import ThermalPrint.Proofs.Receipt.Clean
import ThermalPrint.Receipt.Template

/-
Labels with a code.  Data goes into the code as into any other line, and that is cleaned.

A label's lines are written out as a title, one element and what stands below, and each of them is
compiled by itself.  The end of the element is looked for in the folded line, in which U+0130 takes
up two places.  So the content is known where the data is without it, and that there is one code
and nothing else is known of all data.
-/

namespace ThermalPrint

namespace Markup

/-- A number in an attribute is read back, unless it has too many digits. -/
theorem intAttribute_ofInt {tag key : Text} {attributes : List Attribute} {n : Int}
    (h : attribute? attributes key = some (Decimal.ofInt n)) (default_ : Int) :
    intAttribute tag attributes key default_ =
      if Text.digitLimit < (Decimal.digits n.natAbs).length then
        .error (.notAnInteger tag key (Decimal.ofInt n))
      else .ok n := by
  obtain ⟨c, rest, hcons⟩ := List.exists_cons_of_ne_nil (Decimal.ofInt_ne_nil n)
  have hblank : Text.isBlank (Decimal.ofInt n) = false :=
    Text.isBlank_of_mem (hcons ▸ List.mem_cons_self)
      (Decimal.ofInt_unblank (hcons ▸ List.mem_cons_self))
  unfold intAttribute
  rw [h]
  dsimp only
  rw [hblank, if_neg Bool.false_ne_true, Text.trim_of_unblank fun _ => Decimal.ofInt_unblank,
    Text.readInt_ofInt]
  by_cases hlong : Text.digitLimit < (Decimal.digits n.natAbs).length
  · rw [if_pos hlong, if_pos hlong]
  · rw [if_neg hlong, if_neg hlong]

end Markup

namespace Receipt

open Markup

theorem sourceLines_lines {ls : List Text} (h : ∀ l ∈ ls, Text.Unbroken l) :
    sourceLines (lines (ls ++ [[]])) = ls := by
  induction ls with
  | nil => rfl
  | cons l rest ih =>
    have hcons : lines (l :: rest ++ [[]]) = l ++ .char '\n' :: lines (rest ++ [[]]) := by
      cases rest with
      | nil => rfl
      | cons l' rest => rfl
    have hl := h l List.mem_cons_self
    rw [hcons, sourceLines_cons (hl.not_mem rfl) (hl.not_mem rfl),
      ih fun l' hl' => h l' (List.mem_cons_of_mem l hl')]

theorem compile_lines {images : Images} {options : Options} {ls : List Text}
    (h : ∀ l ∈ ls, Text.Unbroken l) :
    compile images options (lines (ls ++ [[]])) =
      (compileLines images options.imageOptional 0 ls).map
        (· ++ if options.cut then [.cut] else []) := by
  rw [compile_eq, sourceLines_lines h]

theorem clean_undotted {data : Text} (h : .char 'İ' ∉ data) : .char 'İ' ∉ clean data := by
  intro hmem
  rcases mem_clean hmem with hc | hc | hc | ⟨hc, -⟩
  · exact absurd hc (by decide)
  · exact absurd hc (by decide)
  · exact absurd hc (by decide)
  · exact h hc

/-- A character that ends no line and folds to one character. -/
def IsOrdinary (c : CodePoint) : Prop := Text.isLineBreak c = false ∧ c ≠ 'İ'

instance (c : CodePoint) : Decidable (IsOrdinary c) := inferInstanceAs (Decidable (_ ∧ _))

theorem ofInt_ordinary {n : Int} : ∀ c ∈ Decimal.ofInt n, IsOrdinary c ∧ c ≠ '\'' := by
  intro c hc
  have hunbroken := Text.unbroken_of_unblank (Decimal.ofInt_unblank hc)
  rcases Decimal.mem_ofInt hc with rfl | hdigit
  · decide
  · refine ⟨⟨hunbroken, ?_⟩, ?_⟩
    · rintro rfl
      exact absurd hdigit (by decide)
    · rintro rfl
      exact absurd hdigit (by decide)

/-- Attributes that may stand in an element's tag on a line of their own. -/
structure Given (e : Element) (attributes : List Attribute) : Prop where
  writable : ∀ a ∈ attributes, a.Writable
  ordinary : ∀ a ∈ attributes, ∀ c ∈ a.key ++ a.value, IsOrdinary c
  checked : checkAttributes e.name e.keys attributes = .ok attributes

theorem keys_written (e : Element) {k : Text} (h : k ∈ e.keys) :
    k ≠ [] ∧ Text.lower k = k ∧ ∀ c ∈ k, isKeyChar c = true ∧ IsOrdinary c := by
  have hkeys : ∀ k ∈ e.keys, k ≠ [] ∧ Text.lower k = k ∧
      k.all (fun c => isKeyChar c = true ∧ IsOrdinary c) = true := by
    cases e with
    | img => decide
    | qrcode => decide
    | barcode => decide
  obtain ⟨hne, hlower, hall⟩ := hkeys k h
  exact ⟨hne, hlower, List.all_iff_forall_prop.1 hall⟩

theorem checkAttributes_own {tag : Text} {keys : List Text} {attributes : List Attribute}
    (h : ∀ a ∈ attributes, a.key ∈ keys ∧ Text.lower a.key = a.key) :
    checkAttributes tag keys attributes = .ok attributes := by
  induction attributes with
  | nil => rfl
  | cons a more ih =>
    obtain ⟨hkey, hlower⟩ := h a List.mem_cons_self
    have hmore := ih fun b hb => h b (List.mem_cons_of_mem a hb)
    unfold checkAttributes at *
    rw [List.mapM_cons, hmore, hlower]
    simp [hkey]
    rfl

theorem given_of_values {e : Element} {attributes : List Attribute}
    (h : ∀ a ∈ attributes, a.key ∈ e.keys ∧ ∀ c ∈ a.value, IsOrdinary c ∧ c ≠ '\'') :
    Given e attributes := by
  refine ⟨fun a ha => ?_, fun a ha => ?_, checkAttributes_own fun a ha => ?_⟩
  · obtain ⟨hne, -, hkey⟩ := keys_written e (h a ha).1
    exact ⟨hne, fun c hc => (hkey c hc).1, fun hquote => ((h a ha).2 _ hquote).2 rfl⟩
  · obtain ⟨-, -, hkey⟩ := keys_written e (h a ha).1
    exact List.forall_mem_append.2 ⟨fun c hc => (hkey c hc).2, fun c hc => ((h a ha).2 c hc).1⟩
  · exact ⟨(h a ha).1, (keys_written e (h a ha).1).2.1⟩

def codeLine (e : Element) (attributes : List Attribute) (data : Text) : Text :=
  .char '[' :: .char 'C' :: .char ']' :: enclosed e attributes (clean data)

section Label

variable {e : Element} {attributes : List Attribute}

theorem Given.tag_ordinary (h : Given e attributes) :
    ∀ c ∈ writtenTag false e.name attributes, IsOrdinary c := by
  have hname : ∀ c ∈ e.name, IsOrdinary c := by
    refine List.all_iff_forall_prop.1 ?_
    cases e with
    | img => decide
    | qrcode => decide
    | barcode => decide
  exact forall_mem_writtenTag (List.all_iff_forall_prop.1 (by decide)) hname h.ordinary false

theorem codeLine_unbroken (h : Given e attributes) (data : Text) :
    Text.Unbroken (codeLine e attributes data) := by
  have hfront : Text.Unbroken "[C]".toText := by decide
  have hclosing : Text.Unbroken e.closingTag := by
    cases e with
    | img => decide
    | qrcode => decide
    | barcode => decide
  have htag : Text.Unbroken (writtenTag false e.name attributes) :=
    fun c hc => (h.tag_ordinary c hc).1
  exact hfront.append ((htag.append (clean_unbroken data)).append hclosing)

variable {images : Images} {options : Options} {result : Except MarkupFault Directive}

theorem compileLine_codeLine (he : e ≠ .img) (h : Given e attributes) {data : Text}
    (hdirective : elementDirective images options.imageOptional .center e attributes
      (contentOf e (clean data)) = result.map some) (number : Nat) :
    compileLine images options.imageOptional number (codeLine e attributes data) =
      result.map fun d => [d] :=
  compileLine_enclosed rfl he (clean_tagless data) h.writable
    (fun hmem => (h.tag_ordinary _ hmem).2 rfl) h.checked hdirective

/-- A line with a code is that code. -/
theorem compile_codeLine (he : e ≠ .img) (h : Given e attributes) {data : Text}
    (hdirective : elementDirective images options.imageOptional .center e attributes
      (contentOf e (clean data)) = result.map some) :
    compile images options (lines ([codeLine e attributes data] ++ [[]])) =
      result.map fun d => d :: if options.cut then [.cut] else [] := by
  have hlines : ∀ l ∈ [codeLine e attributes data], Text.Unbroken l := by
    intro l hl
    rw [List.mem_singleton.1 hl]
    exact codeLine_unbroken h data
  rw [compile_lines hlines, compileLines, compileLine_codeLine he h hdirective]
  cases result with
  | error fault => rfl
  | ok d => rfl

/-- A label is its title, the code, and what stands below. -/
theorem compile_label (he : e ≠ .img) (h : Given e attributes) {title data : Text}
    (htitle : Tagless title) (hblank : Text.isBlank title = false) {below : List Text} {more : Job}
    (hunbroken : ∀ l ∈ bolded title :: below, Text.Unbroken l)
    (hbelow : compileLines images options.imageOptional 2 below = .ok more)
    (hdirective : elementDirective images options.imageOptional .center e attributes
      (contentOf e (clean data)) = result.map some) :
    compile images options (lines ((.char '[' :: .char 'C' :: .char ']' :: bolded title) ::
        codeLine e attributes data :: below ++ [[]])) =
      result.map fun d => .text (.plain title .center true) :: d :: more ++
        if options.cut then [.cut] else [] := by
  have htop : compileLine images options.imageOptional 1
      (.char '[' :: .char 'C' :: .char ']' :: bolded title) =
      .ok [.text (.plain title .center true)] := by
    rw [compileLine_bolded rfl htitle, hblank]
    rfl
  have hcode := compileLine_codeLine he h hdirective 2
  have hlines : ∀ l ∈ (.char '[' :: .char 'C' :: .char ']' :: bolded title) ::
      codeLine e attributes data :: below, Text.Unbroken l := by
    intro l hl
    rcases List.mem_cons.1 hl with rfl | hl
    · have hfront : Text.Unbroken "[C]".toText := by decide
      exact hfront.append (hunbroken _ List.mem_cons_self)
    · rcases List.mem_cons.1 hl with rfl | hl
      · exact codeLine_unbroken h data
      · exact hunbroken l (List.mem_cons_of_mem _ hl)
  rw [compile_lines hlines, compileLines, compileLines, htop, hcode, hbelow]
  cases result with
  | error fault => rfl
  | ok d => rfl

end Label

section QrCode

def qrAttributes (size : Int) : List Attribute := [⟨"size".toText, Decimal.ofInt size⟩]

theorem qrCode_eq (data : Text) (size : Int) : qrCode data size =
    (spelled size).map fun _ =>
      lines ((.char '[' :: .char 'C' :: .char ']' :: bolded "Scan QR Code".toText) ::
        codeLine .qrcode (qrAttributes size) data :: ["[C]Thank you!".toText, []] ++ [[]]) := by
  have htag : writtenTag false Element.qrcode.name (qrAttributes size) =
      "<qrcode size='".toText ++ (Decimal.ofInt size ++ "'".toText) ++ [] ++ ">".toText := rfl
  have hline : codeLine .qrcode (qrAttributes size) data =
      "[C]<qrcode size='".toText ++ Decimal.ofInt size ++ "'>".toText ++ clean data ++
        "</qrcode>".toText := by
    rw [codeLine, enclosed, htag]
    simp only [List.append_assoc]
    rfl
  rw [hline, qrCode, spelled]
  split
  · rfl
  · rfl

theorem qrAttributes_given (size : Int) : Given .qrcode (qrAttributes size) := by
  refine given_of_values fun a ha => ?_
  obtain rfl := List.mem_singleton.1 ha
  exact ⟨List.mem_cons_self, ofInt_ordinary⟩

theorem qrDirective {images : Images} {imageOptional : Bool} (content : Text) (size : Int) :
    elementDirective images imageOptional .center .qrcode (qrAttributes size) content =
      (if Text.digitLimit < (Decimal.digits size.natAbs).length then
        .error (.notAnInteger "qrcode".toText "size".toText (Decimal.ofInt size))
      else .ok (.qrCode content size .center) : Except MarkupFault Directive).map some := by
  unfold elementDirective
  dsimp only
  rw [intAttribute_ofInt rfl]
  split
  · rfl
  · rfl

end QrCode

section Barcode

def barcodeAttributes (height : Int) : List Attribute :=
  [⟨"type".toText, labelSymbology⟩, ⟨"height".toText, Decimal.ofInt height⟩]

theorem barcode_eq (data : Text) (height : Int) : barcode data labelSymbology height =
    (spelled height).map fun _ =>
      lines ((.char '[' :: .char 'C' :: .char ']' :: bolded "Product Barcode".toText) ::
        codeLine .barcode (barcodeAttributes height) data :: [[]] ++ [[]]) := by
  have hsymbology : clean labelSymbology = "ean13".toText :=
    clean_eq_self_iff.2 ⟨by decide, tagless_unbracketed (by decide) (by decide)⟩
  have htag : writtenTag false Element.barcode.name (barcodeAttributes height) =
      "<barcode type='ean13' height='".toText ++ (Decimal.ofInt height ++ "'".toText) ++ [] ++
        ">".toText := rfl
  have hline : codeLine .barcode (barcodeAttributes height) data =
      "[C]<barcode type='".toText ++ "ean13".toText ++ "' height='".toText ++
        Decimal.ofInt height ++ "'>".toText ++ clean data ++ "</barcode>".toText := by
    rw [codeLine, enclosed, htag]
    simp only [List.append_assoc]
    rfl
  rw [hline, ← hsymbology, barcode, spelled]
  split
  · rfl
  · rfl

theorem barcodeAttributes_given (height : Int) : Given .barcode (barcodeAttributes height) := by
  have hsymbology : ∀ c ∈ labelSymbology, IsOrdinary c ∧ c ≠ '\'' :=
    List.all_iff_forall_prop.1 (by decide)
  refine given_of_values fun a ha => ?_
  rcases List.mem_cons.1 ha with rfl | ha
  · exact ⟨List.mem_cons_self, hsymbology⟩
  · obtain rfl := List.mem_singleton.1 ha
    exact ⟨List.mem_cons_of_mem _ List.mem_cons_self, ofInt_ordinary⟩

theorem barcodeDirective {images : Images} {imageOptional : Bool} (content : Text) (height : Int) :
    elementDirective images imageOptional .center .barcode (barcodeAttributes height) content =
      (if Text.digitLimit < (Decimal.digits height.natAbs).length then
        .error (.notAnInteger "barcode".toText "height".toText (Decimal.ofInt height))
      else .ok (.barcode "EAN13".toText (Text.trim content) height .center) :
        Except MarkupFault Directive).map some := by
  have hsymbology : normalizeSymbology (attribute? (barcodeAttributes height) "type".toText) =
      "EAN13".toText := by
    show normalizeSymbology (some labelSymbology) = _
    decide +kernel
  unfold elementDirective
  dsimp only
  rw [intAttribute_ofInt rfl, hsymbology]
  split
  · rfl
  · rfl

end Barcode

/-- A label carries its data in one code, cleaned: with spaces for the line breaks and its tags
taken apart, which is the data itself exactly if there is none of either in it.  A barcode has no
white space at its ends.  The one thing that can fail is a size or a height of too many digits. -/
theorem labels_carry (images : Images) (options : Options) (data : Text) (size height : Int) :
    (∃ content, (.char 'İ' ∉ data → content = clean data) ∧
      (qrCode data size).map (compile images options) =
        if Text.digitLimit < (Decimal.digits size.natAbs).length then .error unspelled
        else .ok (.ok ([.text (.plain "Scan QR Code".toText .center true),
          .qrCode content size .center, .text (.plain "Thank you!".toText .center), .lineFeed] ++
            if options.cut then [.cut] else []))) ∧
    (∃ content, (.char 'İ' ∉ data → content = clean data) ∧
      (barcode data labelSymbology height).map (compile images options) =
        if Text.digitLimit < (Decimal.digits height.natAbs).length then .error unspelled
        else .ok (.ok ([.text (.plain "Product Barcode".toText .center true),
          .barcode "EAN13".toText (Text.trim content) height .center, .lineFeed] ++
            if options.cut then [.cut] else []))) ∧
    (clean data = data ↔ Text.Unbroken data ∧ Tagless data) := by
  refine ⟨⟨contentOf .qrcode (clean data), fun hdot => contentOf_eq _ (clean_undotted hdot), ?_⟩,
    ⟨contentOf .barcode (clean data), fun hdot => contentOf_eq _ (clean_undotted hdot), ?_⟩,
    clean_eq_self_iff⟩
  · have hbelow : compileLines images options.imageOptional 2 ["[C]Thank you!".toText, []] =
        .ok [.text (.plain "Thank you!".toText .center), .lineFeed] := by
      have hthanks : compileLine images options.imageOptional 3 "[C]Thank you!".toText =
          .ok [.text (.plain "Thank you!".toText .center)] :=
        compileLine_plain rfl (tagless_unbracketed (by decide) (by decide)) (by decide) (by decide)
      rw [compileLines, compileLines, hthanks]
      rfl
    rw [qrCode_eq, spelled]
    split
    · rfl
    · rename_i hshort
      have hdirective := @qrDirective images options.imageOptional
        (contentOf .qrcode (clean data)) size
      rw [if_neg hshort] at hdirective
      refine congrArg Except.ok ?_
      exact compile_label (by decide) (qrAttributes_given size)
        (tagless_unbracketed (by decide) (by decide)) (by decide) (by decide) hbelow hdirective
  · rw [barcode_eq, spelled]
    split
    · rfl
    · rename_i hshort
      have hdirective := @barcodeDirective images options.imageOptional
        (contentOf .barcode (clean data)) height
      rw [if_neg hshort] at hdirective
      refine congrArg Except.ok ?_
      exact compile_label (by decide) (barcodeAttributes_given height)
        (tagless_unbracketed (by decide) (by decide)) (by decide) (by decide) rfl hdirective

theorem labels_carry_link :
    .char 'İ' ∉ "two\nlines".toText ∧
      (qrCode "two\nlines".toText (-3)).map (compile [] {}) =
        .ok (.ok [.text (.plain "Scan QR Code".toText .center true),
          .qrCode "two lines".toText (-3) .center,
          .text (.plain "Thank you!".toText .center), .lineFeed]) := by
  have hdot : .char 'İ' ∉ "two\nlines".toText := by decide
  have hclean : clean "two\nlines".toText = "two lines".toText := by decide +kernel
  obtain ⟨⟨content, hcontent, hqr⟩, -, -⟩ := labels_carry [] {} "two\nlines".toText (-3) 50
  rw [hcontent hdot, hclean, if_neg (by decide)] at hqr
  exact ⟨hdot, hqr⟩

/-- Data in which a tag seems to begin comes out of the code with a space in it. -/
theorem qrCode_altered :
    ∃ label job, qrCode "a<b".toText labelQrSize = .ok label ∧ compile [] {} label = .ok job ∧
      job.filterMap qrData? = ["a< b".toText] ∧ "a< b".toText ≠ "a<b".toText := by
  obtain ⟨label, hlabel⟩ : ∃ label, qrCode "a<b".toText labelQrSize = .ok label := ⟨_, rfl⟩
  have hdata : ((qrCode "a<b".toText labelQrSize).toOption.bind fun label =>
      (compile [] {} label).toOption.map (·.filterMap qrData?)) = some ["a< b".toText] := by
    decide +kernel
  rw [hlabel] at hdata
  cases hjob : compile [] {} label with
  | error fault =>
    simp [Except.toOption, hjob] at hdata
  | ok job =>
    exact ⟨label, job, hlabel, hjob, by simpa [Except.toOption, hjob] using hdata, by decide⟩

end Receipt
end ThermalPrint
