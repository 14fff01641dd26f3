import ThermalPrint.Proofs.Markup.Payload
import ThermalPrint.Proofs.Outcome
import ThermalPrint.Proofs.Work.Images
import ThermalPrint.Service.Form

/-
Forms that are accepted.  What is true of them is told once; from that follows which names the
images of a form can be used by, and what there is to print.
-/

namespace ThermalPrint
namespace Service

namespace Checked

variable {α β : Type}

theorem ap_ok {f : Checked (α → β)} {c : Checked α} {y : β} (h : ap f c = .ok y) :
    ∃ g x, f = .ok g ∧ c = .ok x ∧ g x = y := by
  cases f with
  | error complaints => cases c <;> cases h
  | ok g =>
    cases c with
    | error complaints => cases h
    | ok x => exact ⟨g, x, rfl, rfl, Except.ok.inj h⟩

theorem named_ok {name : Text} {c : Checked α} {x : α} (h : c.named name = .ok x) :
    c = .ok x :=
  Outcome.mapError_ok.1 h

end Checked

/-- A name for an image, as the markup has it. -/
structure IsName (t : Text) : Prop where
  filled : t ≠ []
  short : t.length ≤ 64
  letters : ∀ c ∈ t, c.is Char.isAlphanum = true ∨ c = '_' ∨ c = '.' ∨ c = '-'

theorem isName_iff {t : Text} :
    (!t.isEmpty && decide (t.length ≤ 64) && t.all isHandleChar) = true ↔ IsName t := by
  simp only [Bool.and_eq_true, Bool.not_eq_true', List.isEmpty_eq_false_iff, decide_eq_true_eq,
    List.all_eq_true, isHandleChar, Bool.or_eq_true, or_assoc]
  exact ⟨fun ⟨⟨hfilled, hshort⟩, hletters⟩ => ⟨hfilled, hshort, hletters⟩,
    fun ⟨hfilled, hshort, hletters⟩ => ⟨⟨hfilled, hshort⟩, hletters⟩⟩

/-- One line feed may stand behind a name. -/
theorem isHandle_iff {t : Text} : isHandle t = true ↔ ∃ name, IsName name ∧
    (t = name ∨ t = name ++ [.char '\n']) := by
  unfold isHandle
  dsimp only
  rw [isName_iff]
  constructor
  · intro h
    by_cases hlast : t.getLast? = some (.char '\n')
    · rw [if_pos hlast] at h
      refine ⟨t.dropLast, h, .inr ?_⟩
      exact (List.dropLast_append_getLast? _ hlast).symm
    · rw [if_neg hlast] at h
      exact ⟨t, h, .inl rfl⟩
  · rintro ⟨name, hname, rfl | rfl⟩
    · have hlast : t.getLast? ≠ some (.char '\n') := by
        intro hlast
        have hmem : .char '\n' ∈ t := List.mem_of_getLast? hlast
        rcases hname.letters _ hmem with h | h
        · exact absurd h (by decide)
        · exact absurd h (by decide)
      rwa [if_neg hlast]
    · rwa [if_pos List.getLast?_concat, List.dropLast_concat]

/-- What is true of a form that is accepted. -/
structure PrintForm.Accepted (limits : Limits) (form : PrintForm) : Prop where
  markup : ∀ s, form.markup = some s →
    (s.length : Int) ≤ limits.markup ∧ hasControlChars s = false
  url : ∀ s, form.imageUrl = some s → Picture.isWebAddress s = true
  count : form.images ≠ [] → (form.images.length : Int) ≤ limits.images
  images : ∀ image ∈ form.images,
    isHandle image.1 = true ∧ Text.isBlank image.2 = false
  single : form.sources.length = 1
  supporting : form.images ≠ [] → form.markup.isSome = true

namespace PrintForm

variable {limits : Limits} {v : Json} {form : PrintForm}

theorem checkMarkup_ok {s s' : Text} (h : checkMarkup limits s = .ok s') :
    (s'.length : Int) ≤ limits.markup ∧ hasControlChars s' = false := by
  unfold checkMarkup at h
  split at h
  · cases h
  · split at h
    · cases h
    · rename_i hlong hcontrol
      cases h
      exact ⟨Int.not_lt.1 hlong, Bool.eq_false_iff.2 hcontrol⟩

theorem checkUrl_ok {s s' : Text} (h : checkUrl s = .ok s') : Picture.isWebAddress s' = true := by
  unfold checkUrl at h
  dsimp only at h
  split at h
  · rename_i hweb
    exact Except.ok.inj h ▸ hweb
  · cases h

theorem checkImage_ok {image : Text × Text} (h : checkImage image = .ok ()) :
    isHandle image.1 = true ∧ Text.isBlank image.2 = false := by
  unfold checkImage at h
  split at h
  · cases h
  · split at h
    · cases h
    · rename_i hhandle hblank
      exact ⟨by simpa using hhandle, Bool.eq_false_iff.2 hblank⟩

theorem checkImages_ok {images images' : List (Text × Text)}
    (h : checkImages limits images = .ok images') :
    (images'.length : Int) ≤ limits.images ∧
      ∀ image ∈ images', isHandle image.1 = true ∧ Text.isBlank image.2 = false := by
  unfold checkImages at h
  split at h
  · cases h
  · rename_i hmany
    obtain ⟨⟨⟩, hall, h⟩ := Outcome.bind_ok h
    cases h
    exact ⟨Int.not_lt.1 hmany,
      fun image himage => checkImage_ok (Outcome.forM_ok hall image himage)⟩

theorem check_ok {form' : PrintForm} (h : form'.check = .ok form) :
    form' = form ∧ form.sources.length = 1 ∧ (form.images ≠ [] → form.markup.isSome = true) := by
  unfold check at h
  split at h
  · cases h
  · split at h
    · cases h
    · rename_i hsingle hstray
      cases h
      refine ⟨rfl, Decidable.not_not.1 hsingle, fun himages => ?_⟩
      by_contra hmarkup
      refine hstray ?_
      rw [Bool.and_eq_true, Bool.not_eq_true', List.isEmpty_eq_false_iff, Option.isNone_iff_eq_none]
      exact ⟨himages, by simpa using hmarkup⟩

section Field

variable {α : Type} {members : List (Text × Json)} {name : Text} {default_ x : α}
  {read : Json → Checked α}

theorem field_ok (h : (match members.lookup name with
      | none => .ok default_
      | some v => (read v).named name : Checked α) = .ok x) :
    x = default_ ∨ ∃ v, read v = .ok x := by
  split at h
  · exact .inl (Except.ok.inj h).symm
  · exact .inr ⟨_, Checked.named_ok h⟩

theorem checked_ok {check : Text → Checked Text} {v : Json} {s : Text}
    (h : (Checked.text? v >>= fun given => match given with
      | none => .ok none
      | some s => (check s).map some : Checked (Option Text)) = .ok (some s)) :
    ∃ given, check given = .ok s := by
  obtain ⟨given, -, h⟩ := Outcome.bind_ok h
  cases given with
  | none => cases h
  | some given =>
    obtain ⟨s', hs', hs⟩ := Outcome.map_ok h
    cases hs
    exact ⟨given, hs'⟩

end Field

theorem read_accepted (h : PrintForm.read limits v = .ok form) : form.Accepted limits := by
  cases v with
  | obj members =>
    obtain ⟨form', hparts, hcheck⟩ := Outcome.bind_ok h
    obtain ⟨rfl, hsingle, hsupporting⟩ := check_ok hcheck
    -- the parts, from the last one to the first
    obtain ⟨f₅, cut, h₅, -, hform⟩ := Checked.ap_ok hparts
    obtain ⟨f₄, optional, h₄, -, hf₅⟩ := Checked.ap_ok h₅
    obtain ⟨f₃, images, h₃, himages, hf₄⟩ := Checked.ap_ok h₄
    obtain ⟨f₂, url, h₂, hurl, hf₃⟩ := Checked.ap_ok h₃
    obtain ⟨f₁, base64, h₁, -, hf₂⟩ := Checked.ap_ok h₂
    obtain ⟨f₀, markup, h₀, hmarkup, hf₁⟩ := Checked.ap_ok h₁
    cases h₀
    subst hf₁ hf₂ hf₃ hf₄ hf₅ hform
    refine ⟨fun s hs => ?_, fun s hs => ?_, ?_, ?_, hsingle, hsupporting⟩
    · cases hs
      rcases field_ok hmarkup with hnone | ⟨v, hv⟩
      · cases hnone
      · obtain ⟨given, hgiven⟩ := checked_ok hv
        exact checkMarkup_ok hgiven
    · cases hs
      rcases field_ok hurl with hnone | ⟨v, hv⟩
      · cases hnone
      · obtain ⟨given, hgiven⟩ := checked_ok hv
        exact checkUrl_ok hgiven
    · rcases field_ok himages with rfl | ⟨v, hv⟩
      · exact fun hne => absurd rfl hne
      · obtain ⟨given, -, hgiven⟩ := Outcome.bind_ok hv
        exact fun _ => (checkImages_ok hgiven).1
    · rcases field_ok himages with rfl | ⟨v, hv⟩
      · nofun
      · obtain ⟨given, -, hgiven⟩ := Outcome.bind_ok hv
        exact (checkImages_ok hgiven).2
  | _ => cases h

theorem Accepted.one (h : form.Accepted limits) :
    (∃ s, form.markup = some s ∧ form.imageBase64 = none ∧ form.imageUrl = none) ∨
    (∃ s, form.markup = none ∧ form.imageBase64 = some s ∧ form.imageUrl = none) ∨
    ∃ s, form.markup = none ∧ form.imageBase64 = none ∧ form.imageUrl = some s := by
  have hsingle := h.single
  unfold sources at hsingle
  cases hmarkup : form.markup <;> cases hbase64 : form.imageBase64 <;>
    cases hurl : form.imageUrl <;>
    simp [hmarkup, hbase64, hurl] at hsingle ⊢

end PrintForm

section Handles

def imageLine (handle : Text) : Text := "<img>".toText ++ handle ++ "</img>".toText

/-- A name has no character that means something to the markup, nor one that is trimmed. -/
theorem IsName.plain {name : Text} (h : IsName name) {c : CodePoint} (hc : c ∈ name) :
    c.toNat < 128 ∧ Text.isBlankChar c = false ∧ c ≠ '<' ∧ c ≠ '>' := by
  have hlow : c.toNat < 128 := by
    rcases h.letters c hc with halphanum | rfl | rfl | rfl
    · exact Text.alphanum_ascii halphanum
    all_goals decide
  have hplain : c.is Char.isAlphanum = true ∨ c = '_' ∨ c = '.' ∨ c = '-' →
      Text.isBlankChar c = false ∧ c ≠ '<' ∧ c ≠ '>' :=
    CodePoint.of_forall_lt c hlow (by decide)
  exact ⟨hlow, hplain (h.letters c hc)⟩

theorem IsName.not_mem_of_blank {name : Text} (h : IsName name) {c : CodePoint}
    (hc : Text.isBlankChar c = true) : c ∉ name := by
  intro hmem
  rw [(h.plain hmem).2.1] at hc
  cases hc

/-- An image of an accepted form is printed by its name in markup, whatever raster it is, as long
as the name has no line feed behind it.  A name that has one is two lines in the markup, on the
first of which the element does not end. -/
theorem handles_printed {limits : Limits} {v : Json} {form : PrintForm}
    (h : PrintForm.read limits v = .ok form) {handle reference : Text}
    (himage : (handle, reference) ∈ form.images) :
    (handle.getLast? ≠ some (.char '\n') →
      ∀ (images : Markup.Images) (r : Raster) (options : Markup.Options),
        images.lookup handle = some (.raster r) →
        Markup.compile images options (imageLine handle) =
          .ok (.image r .left :: if options.cut then [.cut] else [])) ∧
    (handle.getLast? = some (.char '\n') →
      ∀ (images : Markup.Images) (options : Markup.Options),
        Markup.compile images options (imageLine handle) =
          .error (.unclosed Markup.Element.img.name 1)) := by
  obtain ⟨name, hname, hhandle⟩ := isHandle_iff.1 ((PrintForm.read_accepted h).images _ himage).1
  have hbreak : .char '\n' ∉ name := hname.not_mem_of_blank (by decide)
  rcases hhandle with hhandle | hhandle
  · rw [show handle = name from hhandle]
    refine ⟨fun _ images r options hlookup => ?_,
      fun hlast => absurd (List.mem_of_getLast? hlast) hbreak⟩
    refine Markup.compile_lone_image (fun c hc => ?_) ?_
    · obtain ⟨hlow, hblank, hbracket, -⟩ := hname.plain hc
      refine ⟨hblank, hbracket, ?_, ?_⟩
      · rintro rfl
        cases hblank
      · rintro rfl
        exact absurd hlow (by decide)
    · unfold Markup.resolveImage
      rw [hlookup]
  · rw [show handle = name ++ [.char '\n'] from hhandle]
    refine ⟨fun hlast => absurd List.getLast?_concat hlast, fun _ images options => ?_⟩
    have hsource : imageLine (name ++ [.char '\n']) =
        "<img>".toText ++ name ++ .char '\n' :: "</img>".toText := by
      simp [imageLine]
    rw [hsource]
    exact Markup.compile_unclosed_image (fun hmem => (hname.plain hmem).2.2.2 rfl) hbreak
      (hname.not_mem_of_blank (by decide)) _

def pictured (handle : Text) : Json :=
  .obj [("markup", .str (imageLine handle)),
    ("images", .obj [(handle, .str "UDEgMSAxIDEK")])]

def picturedForm (handle : Text) : PrintForm :=
  { markup := some (imageLine handle)
    imageBase64 := none
    imageUrl := none
    images := [(handle, "UDEgMSAxIDEK")]
    imageOptional := false
    cut := false }

theorem handles_printed_logo :
    PrintForm.read {} (pictured "logo.v2-x") = .ok (picturedForm "logo.v2-x") ∧
      Markup.compile [("logo.v2-x".toText, .raster Raster.ticket)] {}
        (imageLine "logo.v2-x".toText) = .ok [.image Raster.ticket .left] := by
  have hread : PrintForm.read {} (pictured "logo.v2-x") = .ok (picturedForm "logo.v2-x") := by rfl
  refine ⟨hread, ?_⟩
  exact (handles_printed hread List.mem_cons_self).1 (by decide) _ Raster.ticket {} rfl

/-- A name with a line feed behind it is accepted, and its image cannot be printed. -/
theorem broken_handle :
    PrintForm.read {} (pictured "logo\n") = .ok (picturedForm "logo\n") ∧
      ("logo\n".toText, "UDEgMSAxIDEK".toText) ∈ (picturedForm "logo\n").images ∧
      Markup.compile [("logo\n".toText, .raster Raster.ticket)] {} (imageLine "logo\n".toText) ≠
        .ok [.image Raster.ticket .left] := by
  refine ⟨by rfl, List.mem_cons_self, ?_⟩
  have hfault : Markup.compile [("logo\n".toText, .raster Raster.ticket)] {}
      (imageLine "logo\n".toText) = .error (.unclosed Markup.Element.img.name 1) :=
    Markup.compile_unclosed_image (show .char '>' ∉ "logo".toText by decide) (by decide)
      (by decide) _
  rw [hfault]
  nofun

end Handles
end Service

namespace PrintRequest

/-- What there is to print is named: either markup, which images may come with, or an image by
itself. -/
inductive Named (r : PrintRequest) : Prop
  | markup {s : Text} (hmarkup : r.markup = some s) (himage : r.image = none)
  | image {s : Text} (hmarkup : r.markup = none) (himage : r.image = some s) (hfilled : s ≠ [])
      (halone : r.images = [])

/-- The references that are loaded before anything is printed. -/
def references (r : PrintRequest) : List (Text × Text) :=
  match r.image with
  | none => r.images
  | some s => [("", s)]

variable {r : PrintRequest}

/-- The record of a job tells which of the two is printed and how many references are loaded. -/
theorem Named.describe_eq (h : r.Named) : r.describe =
    [("source".toText, Json.str (if r.image.isSome then "image" else "markup")),
      ("image_count".toText, .int r.references.length), ("cut".toText, .bool r.cut)] := by
  unfold describe imageCount references
  cases h with
  | markup hmarkup himage =>
    rw [hmarkup, himage]
    rfl
  | @image s hmarkup himage hfilled halone =>
    have hempty : s.isEmpty = false := by simpa using hfilled
    rw [hmarkup, himage, halone, Option.getD_some, hempty]
    rfl

section Ordered

variable {σ τ : Type} {office : Office (StateM σ) τ} {s : σ}

/-- What is wrong with an order for such a request is wrong with one of its references. -/
theorem Named.ordered_error (h : r.Named) {f : Fault}
    (hfault : (office.ordered s r).1 = .error f) :
    ∃ reference ∈ r.references, ∃ s', ((office.load reference.2).run s').1 = .error f := by
  unfold references
  cases h with
  | markup hmarkup himage =>
    rw [office.ordered_markup s hmarkup] at hfault
    rw [himage]
    exact office.loadImages_error (Outcome.map_error_iff.1 hfault)
  | image hmarkup himage hfilled _ =>
    rw [office.ordered_image s hmarkup himage hfilled] at hfault
    rw [himage]
    exact ⟨_, List.mem_cons_self, s, Outcome.map_error_iff.1 hfault⟩

/-- All references are loaded, as many as the record tells, and then there is an order. -/
theorem Named.ordered_ok (h : r.Named)
    (hload : ∀ reference ∈ r.references, Gives (office.load reference.2) (∃ p, · = .ok p)) :
    (∃ order, (office.ordered s r).1 = .ok order) ∧
      (office.ordered s r).2 = (office.loads r.references s).2 := by
  unfold references at hload ⊢
  cases h with
  | markup hmarkup himage =>
    rw [himage] at hload ⊢
    have hthrough : ∀ reference ∈ r.images, Gives (office.load reference.2) fun result =>
        Office.loadedOrLeftOut r.imageOptional result = .ok (result.toOption.map .picture) := by
      intro reference hr s'
      obtain ⟨p, hp⟩ := hload reference hr s'
      rw [hp]
      rfl
    rw [office.ordered_markup s hmarkup, office.loadImages_through hthrough]
    exact ⟨⟨_, rfl⟩, rfl⟩
  | image hmarkup himage hfilled _ =>
    rw [himage] at hload ⊢
    obtain ⟨p, hp⟩ := hload _ List.mem_cons_self s
    rw [office.ordered_image s hmarkup himage hfilled, Office.loads_cons]
    exact ⟨⟨_, congrArg (Except.map _) hp⟩, rfl⟩

end Ordered

end PrintRequest

namespace Service

section Sources

variable {limits : Limits} {form : PrintForm} (h : form.Accepted limits)

include h

theorem PrintForm.Accepted.alone (hnone : form.markup = none) : form.images = [] := by
  by_contra hsome
  have hmarkup := h.supporting hsome
  rw [hnone] at hmarkup
  cases hmarkup

/-- An accepted form names what there is to print, or an image of no characters. -/
theorem PrintForm.Accepted.named (hfilled : form.imageBase64 ≠ some "") :
    form.toRequest.Named := by
  have himage : form.toRequest.image = form.image := rfl
  unfold PrintForm.image at himage
  rcases h.one with ⟨s, hs, hbase64, hurl⟩ | ⟨s, hs, hbase64, hurl⟩ | ⟨s, hs, hbase64, hurl⟩
  · rw [hurl, hbase64] at himage
    exact .markup hs himage
  · rw [hurl, hbase64] at himage
    exact .image hs himage (fun hempty => hfilled (hbase64.trans (congrArg some hempty)))
      (h.alone hs)
  · have hweb : s ≠ [] := by
      rintro rfl
      exact absurd (h.url _ hurl) (by decide)
    have hempty : s.isEmpty = false := by simpa using hweb
    rw [hurl] at himage
    dsimp only at himage
    rw [hempty, if_neg Bool.false_ne_true] at himage
    exact .image hs himage hweb (h.alone hs)

theorem PrintForm.Accepted.empty (hempty : form.imageBase64 = some "") :
    form.toRequest.markup = none ∧ form.toRequest.image = some "" ∧ form.toRequest.images = [] := by
  have himage : form.toRequest.image = form.image := rfl
  unfold PrintForm.image at himage
  rcases h.one with ⟨s, hs, hbase64, hurl⟩ | ⟨s, hs, hbase64, hurl⟩ | ⟨s, hs, hbase64, hurl⟩
  · cases hempty.symm.trans hbase64
  · rw [hurl, hempty] at himage
    exact ⟨hs, himage, h.alone hs⟩
  · cases hempty.symm.trans hbase64

end Sources

/-- An accepted request names one thing to print, which is markup or an image that a reference
stands for, and images come with markup only.  Its record tells which it is and how many references
there are.  They are all that is loaded, and what is wrong with an order is wrong with one of them.
Only an image of no characters is accepted as well: there is nothing to load and nothing to print,
and the order for it fails at once. -/
theorem read_named {limits : Limits} {v : Json} {form : PrintForm}
    (h : PrintForm.read limits v = .ok form) :
    let r := form.toRequest
    (r.images ≠ [] → r.markup.isSome = true) ∧
    (r.Named ↔ form.imageBase64 ≠ some "") ∧
    (r.Named →
      r.describe = [("source".toText, Json.str (if r.image.isSome then "image" else "markup")),
        ("image_count".toText, .int r.references.length), ("cut".toText, .bool r.cut)] ∧
      ∀ {σ τ : Type} (office : Office (StateM σ) τ) (s : σ),
        (∀ f, (office.ordered s r).1 = .error f →
          ∃ reference ∈ r.references, ∃ s', ((office.load reference.2).run s').1 = .error f) ∧
        ((∀ reference ∈ r.references, Gives (office.load reference.2) (∃ p, · = .ok p)) →
          (∃ order, (office.ordered s r).1 = .ok order) ∧
            (office.ordered s r).2 = (office.loads r.references s).2)) ∧
    (form.imageBase64 = some "" →
      r.describe = [("source".toText, Json.str "image"), ("image_count".toText, .int 0),
        ("cut".toText, .bool r.cut)] ∧
      ∀ {σ τ : Type} (office : Office (StateM σ) τ) (s : σ),
        office.ordered s r = (.error (.print ReferenceFault.noSource.toPrintError), s)) := by
  intro r
  have haccepted := PrintForm.read_accepted h
  refine ⟨haccepted.supporting, ⟨fun hnamed hempty => ?_, haccepted.named⟩,
    fun hnamed => ⟨hnamed.describe_eq, ?_⟩, fun hempty => ?_⟩
  · obtain ⟨-, himage, -⟩ := haccepted.empty hempty
    rcases hnamed with ⟨-, hnone⟩ | ⟨-, hsome, hfilled, -⟩
    · cases himage.symm.trans hnone
    · cases himage.symm.trans hsome
      exact hfilled rfl
  · exact fun office s => ⟨fun f hfault => hnamed.ordered_error hfault,
      fun hload => hnamed.ordered_ok hload⟩
  · obtain ⟨hmarkup, himage, himages⟩ := haccepted.empty hempty
    refine ⟨?_, fun office s => office.ordered_empty s hmarkup himage⟩
    unfold PrintRequest.describe PrintRequest.imageCount
    rw [hmarkup, himage, himages]
    rfl

theorem read_named_logo :
    PrintForm.read {} (pictured "logo") = .ok (picturedForm "logo") ∧
      (picturedForm "logo").toRequest.Named ∧
      (picturedForm "logo").toRequest.describe =
        [("source".toText, Json.str "markup"), ("image_count".toText, .int 1),
          ("cut".toText, .bool false)] := by
  have hread : PrintForm.read {} (pictured "logo") = .ok (picturedForm "logo") := by rfl
  obtain ⟨-, hnamed, hdescribe, -⟩ := read_named hread
  exact ⟨hread, hnamed.2 nofun, (hdescribe (hnamed.2 nofun)).1⟩

def emptyForm : PrintForm :=
  { markup := none, imageBase64 := some "", imageUrl := none, images := [], imageOptional := false,
    cut := false }

theorem empty_image :
    PrintForm.read {} (.obj [("image_base64", .str "")]) = .ok emptyForm ∧
      emptyForm.toRequest.markup = none ∧ emptyForm.toRequest.image = some "" ∧
      ¬ emptyForm.toRequest.Named ∧
      ((House.office House.alone).ordered
        ({ rooms _ := { session := {} }, floor := {} } : House Nat) emptyForm.toRequest).1 =
          .error (.print ReferenceFault.noSource.toPrintError) := by
  refine ⟨by rfl, rfl, rfl, ?_, rfl⟩
  rintro (⟨-, hnone⟩ | ⟨-, hsome, hfilled, -⟩)
  · cases hnone
  · cases hsome
    exact hfilled rfl

end Service
end ThermalPrint
