import ThermalPrint.Encode.Fault
import ThermalPrint.Markup.Fault

/-
The kinds of the faults of each stage.
-/

namespace ThermalPrint

namespace ErrorKind

theorem phrase_ne (kind : ErrorKind) : kind.phrase.toText ≠ [] := by
  cases kind <;> decide

theorem className_ne (kind : ErrorKind) : kind.className.toText ≠ [] := by
  cases kind <;> decide

end ErrorKind

namespace PrintError

@[simp] theorem of_kind (kind : ErrorKind) (message : Text) : (of kind message).kind = kind := by
  unfold of ofMessage
  dsimp only
  split <;> rfl

@[simp] theorem atTag_kind (kind : ErrorKind) (tag : Text) (message : Option Text) :
    (atTag kind tag message).kind = kind := by
  unfold atTag
  split
  · split <;> rfl
  · rfl

/-- An error as its class makes it. -/
inductive Made : PrintError → Prop
  | plain (kind : ErrorKind) (message : Option Text) (h : kind ≠ .deviceUnreachable) :
    Made (ofMessage kind message)
  | unreachable (reason : Text) : Made (unreachable reason)
  | atTag (kind : ErrorKind) (tag : Text) (message : Option Text)
      (h : kind ≠ .deviceUnreachable) : Made (atTag kind tag message)
  | unsupported (symbology : Text) : Made (unsupported symbology)

theorem ofMessage_kind (kind : ErrorKind) (message : Option Text) :
    (ofMessage kind message).kind = kind := by
  unfold ofMessage
  split
  · split <;> rfl
  · rfl

@[simp] theorem unreachable_reason (reason : Text) :
    (unreachable reason).reason? = some reason := rfl

/-- Only an error that a printer cannot be reached has this kind, and it has a reason. -/
theorem Made.unreachable_of_kind {e : PrintError} (h : e.Made)
    (hkind : e.kind = .deviceUnreachable) : ∃ reason, e = .unreachable reason := by
  cases h with
  | plain kind message h =>
    rw [ofMessage_kind] at hkind
    exact absurd hkind h
  | unreachable reason => exact ⟨reason, rfl⟩
  | atTag kind tag message h =>
    rw [atTag_kind] at hkind
    exact absurd hkind h
  | unsupported symbology => cases hkind

/-- No error is without words. -/
theorem Made.message_ne {e : PrintError} (h : e.Made) : e.message ≠ [] := by
  cases h with
  | plain kind message h =>
    unfold ofMessage
    split
    · split
      · exact kind.phrase_ne
      · rename_i text htext
        exact fun hempty => htext (by rw [show text = [] from hempty]; rfl)
    · exact kind.phrase_ne
  | unreachable reason => exact List.append_ne_nil_of_left_ne_nil (by decide) reason
  | atTag kind tag message h =>
    have htag : kind.phrase ++ ": " ++ tag ≠ ([] : Text) :=
      List.append_ne_nil_of_left_ne_nil (List.append_ne_nil_of_left_ne_nil kind.phrase_ne _) _
    unfold PrintError.atTag
    split
    · split
      · exact htag
      · rename_i text htext
        exact fun hempty => htext (by rw [show text = [] from hempty]; rfl)
    · exact htag
  | unsupported symbology => exact List.append_ne_nil_of_left_ne_nil (by decide) symbology

end PrintError

/-- A fault that is no error of printing, or one as its class makes it. -/
def Fault.Made : Fault → Prop
  | print e => e.Made
  | _ => True

theorem Fault.className_ne (f : Fault) : f.className.toText ≠ [] := by
  cases f with
  | print e => exact e.kind.className_ne
  | system kind message =>
    show kind.word.toText ≠ []
    cases kind <;> decide
  | value kind message =>
    show kind.word.toText ≠ []
    cases kind <;> decide

@[simp] theorem Fault.isA_print (e : PrintError) (general : ErrorKind) :
    (Fault.print e).isA general = e.kind.isA general := rfl

theorem ImageFault.toFault_isA (f : ImageFault) (general : ErrorKind) :
    f.toFault.isA general = ErrorKind.invalidImage.isA general := by
  rw [toFault, Fault.isA_print, toPrintError, PrintError.of_kind]

theorem ImageFault.kind_of_toFault {f : ImageFault} {e : PrintError}
    (h : f.toFault = .print e) : e.kind = .invalidImage := by
  cases h
  exact PrintError.of_kind _ _

namespace Markup

/-- Markup fails for an image, for a tag or attribute that there is not, or for one left open. -/
theorem MarkupFault.toPrintError_kind (fault : MarkupFault) :
    fault.toPrintError.kind =
      match fault with
      | .image _ => .invalidImage
      | .unclosed .. => .unterminatedTag
      | _ => .unknownTag := by
  cases fault with
  | image f => exact PrintError.of_kind _ _
  | _ => exact PrintError.atTag_kind _ _ _

end Markup

namespace EncodeFault

/-- A directive that has no bytes is not at fault for an image that cannot be had. -/
theorem not_invalidImage (fault : EncodeFault) : fault.toFault.isA .invalidImage = false := by
  cases fault with
  | unsupportedSymbology name => rfl
  | charset | unpaired | notADirective | uncountable | noRoom => rfl
  | _ =>
    rw [toFault, Fault.isA_print, PrintError.of_kind]
    rfl

/-- What is too wide is an image. -/
theorem tooWide_of_widthMismatch {fault : EncodeFault}
    (h : fault.toFault.isA .widthMismatch = true) : ∃ dots room, fault = .tooWide dots room := by
  cases fault with
  | tooWide dots room => exact ⟨dots, room, rfl⟩
  | unsupportedSymbology name => cases h
  | charset | unpaired | notADirective | uncountable | noRoom => cases h
  | _ =>
    rw [toFault, Fault.isA_print, PrintError.of_kind] at h
    cases h

/-- An error of printing from a directive that has no bytes is about the width of an image or about
a code. -/
theorem kind_of_toFault {fault : EncodeFault} {e : PrintError} (h : fault.toFault = .print e) :
    e.kind ∈ [ErrorKind.widthMismatch, .unsupportedSymbology, .invalidBarcodeData] := by
  cases fault with
  | unsupportedSymbology name =>
    cases h
    exact List.mem_cons_of_mem _ List.mem_cons_self
  | charset | unpaired | notADirective | uncountable | noRoom => cases h
  | _ =>
    cases h
    rw [PrintError.of_kind]
    decide

end EncodeFault
end ThermalPrint
