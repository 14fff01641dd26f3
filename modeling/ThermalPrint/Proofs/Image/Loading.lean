import Mathlib.Data.List.TakeWhile
import ThermalPrint.Image.Reference
import ThermalPrint.Proofs.Fault
import ThermalPrint.Proofs.Session.Leads

/-
Loading what a reference names.  Whatever comes over the web, and whatever is in a reference, an
image that cannot be had is said to be unavailable, unless the reference is a data address that
ends before its data.
-/

namespace ThermalPrint

namespace Bitmap

/-- Data are refused with a fault, when they are opened or when they are decoded. -/
def Refused (data : ByteArray) (f : Fault) : Prop :=
  ofFile data = .error f ∨
    ∃ mode width height, ofFile data = .ok (.encoded mode width height (.error f))

/-- A fault that stands for data that cannot be decoded. -/
inductive Documented : Fault → Prop
  | system (kind : SystemFault) (message : Text) : Documented (.system kind message)
  | bomb (message : Text) : Documented (.value .decompressionBomb message)

end Bitmap

/-- Loading has come to a picture, or to the error of an image that is unavailable. -/
def Picture.Settled (result : Except Fault Picture) : Prop :=
  (∃ p, result = .ok p) ∨ ∃ e : PrintError, result = .error (.print e) ∧ e.kind = .imageUnavailable

namespace Picture

theorem settled_unavailable (f : ReferenceFault) : Settled (.error (unavailable f)) := by
  refine .inr ⟨f.toPrintError, rfl, ?_⟩
  cases f <;> exact PrintError.of_kind _ _

theorem settled_undecodable {f : Fault} (h : Bitmap.Documented f) :
    Settled (.error (undecodable f)) := by
  cases h with
  | system kind message => exact settled_unavailable _
  | bomb message => exact settled_unavailable _

theorem ofFile_settled {data : ByteArray} (h : ∀ f, Bitmap.Refused data f → Bitmap.Documented f) :
    Settled (ofFile data) := by
  unfold ofFile
  split
  · exact settled_unavailable _
  · split
    · rename_i mode width height decoded hfile
      cases decoded with
      | ok p => exact .inl ⟨p, rfl⟩
      | error f => exact settled_undecodable (h f (.inr ⟨mode, width, height, hfile⟩))
    · exact settled_undecodable (.system _ _)
    · rename_i f hfile
      exact settled_undecodable (h f (.inl hfile))

theorem ofAnswer_settled (limit : Int) (url : Text) (answer : Except Text WebAnswer)
    (h : ∀ a body, answer = .ok a → WebAnswer.gather limit .empty a.pieces = some body →
      ∀ f, Bitmap.Refused body f → Bitmap.Documented f) :
    Settled (ofAnswer limit url answer) := by
  cases answer with
  | error reason => exact settled_unavailable _
  | ok a =>
    unfold ofAnswer
    dsimp only
    split
    · exact settled_unavailable _
    · split
      · exact settled_unavailable _
      · exact settled_unavailable _
      · rename_i body hbody _
        exact ofFile_settled (h a body rfl hbody)

theorem ofFile_refused {data : ByteArray} {f : Fault} (h : Bitmap.Refused data f) :
    (ofFile data).isOk = false := by
  unfold ofFile
  split
  · rfl
  · rcases h with hfile | ⟨mode, width, height, hfile⟩
    · rw [hfile]
      rfl
    · rw [hfile]
      rfl

/-- A data address that ends before its data. -/
def CutShort (reference : Text) : Prop :=
  "data:".toText <+: reference ∧ .char ',' ∉ reference

instance (reference : Text) : Decidable (CutShort reference) :=
  inferInstanceAs (Decidable (_ ∧ _))

theorem payload_cutShort {t : Text} (hdata : "data:".toText <+: t) (hcomma : .char ',' ∉ t) :
    payload t = .error (.value .index "list index out of range") := by
  unfold payload
  rw [if_pos (List.isPrefixOf_iff_prefix.2 hdata)]
  have hnone : t.dropWhile (· ≠ .char ',') = [] := by
    rw [List.dropWhile_eq_nil_iff]
    intro c hc
    simpa using fun h : c = ',' => hcomma (h ▸ hc)
  rw [hnone]

theorem payload_whole {t : Text} (h : ¬ ("data:".toText <+: t ∧ .char ',' ∉ t)) :
    ∃ body, payload t = .ok body := by
  unfold payload
  split
  · rename_i hdata
    split
    · rename_i hnone
      refine absurd ⟨List.isPrefixOf_iff_prefix.1 hdata, fun hcomma => ?_⟩ h
      have hall := List.dropWhile_eq_nil_iff.1 hnone (.char ',') hcomma
      simp at hall
    · exact ⟨_, rfl⟩
  · exact ⟨_, rfl⟩

section Load

variable {σ : Type} {fetch : Fetch (StateM σ)} {limit : Int} {seconds : Float}
  {reference : Text}

/-- The data that a reference may turn out to name. -/
inductive Names (fetch : Fetch (StateM σ)) (limit : Int) (seconds : Float) (reference : Text) :
    ByteArray → Prop
  | web {s : σ} {a : WebAnswer} {data : ByteArray} : isWebAddress reference = true →
      ((fetch reference seconds).run s).1 = .ok a →
      WebAnswer.gather limit .empty a.pieces = some data → Names fetch limit seconds reference data
  | base64 {body : Text} {bytes : List UInt8} : isWebAddress reference = false →
      payload reference = .ok body → Base64.decode body = .ok bytes →
      Names fetch limit seconds reference bytes.toByteArray

/-- All data that a reference may name are taken, or refused with a fault that stands for data
that cannot be decoded. -/
def Readable (fetch : Fetch (StateM σ)) (limit : Int) (seconds : Float) (reference : Text) :
    Prop :=
  ∀ data f, Names fetch limit seconds reference data → Bitmap.Refused data f →
    Bitmap.Documented f

theorem load_settled (hread : Readable fetch limit seconds reference)
    (hwhole : ¬ CutShort reference) : Gives (load fetch limit seconds reference) Settled := by
  unfold load
  cases hweb : isWebAddress reference with
  | true =>
    exact fun s => ofAnswer_settled limit reference _ fun a body ha hbody f =>
      hread body f (.web hweb ha hbody)
  | false =>
    refine gives_pure ?_
    obtain ⟨body, hbody⟩ := payload_whole hwhole
    unfold ofBase64
    rw [hbody]
    dsimp only
    split
    · exact settled_unavailable _
    · rename_i bytes hbytes
      exact ofFile_settled fun f => hread _ f (.base64 hweb hbody hbytes)

theorem readable_of_isOk (hweb : isWebAddress reference = false)
    (hok : (ofBase64 reference).isOk = true) : Readable fetch limit seconds reference := by
  intro data f hnames hrefused
  cases hnames with
  | web h => cases hweb.symm.trans h
  | base64 _ hbody hbytes =>
    rw [ofBase64, hbody] at hok
    dsimp only at hok
    rw [hbytes] at hok
    cases hok.symm.trans (ofFile_refused hrefused)

theorem load_cutShort (h : CutShort reference) :
    load fetch limit seconds reference =
      pure (.error (.value .index "list index out of range")) := by
  have hweb : isWebAddress reference = false := by
    obtain ⟨rest, hrest⟩ := h.1
    unfold isWebAddress
    rw [← hrest]
    rfl
  unfold load
  rw [hweb, if_neg Bool.false_ne_true, ofBase64, payload_cutShort h.1 h.2]

end Load

end Picture
end ThermalPrint
