import ThermalPrint.Proofs.Markup.Concat

/-
Markup compiled with images that may be left out.  It fails for no image, and where the strict
compilation does not either, the two are the same.
-/

namespace ThermalPrint
namespace Markup

def MarkupFault.OfImage (fault : MarkupFault) : Prop := ∃ f, fault = .image f

open Outcome (SameUnless)

section Strict

variable (images : Images)

/-! ## Where the strict compilation goes, the other one goes too -/

theorem elementDirective_optional (align : Align) (e : Element) (attributes : List Attribute)
    (content : Text) :
    SameUnless MarkupFault.OfImage (elementDirective images false align e attributes content)
      (elementDirective images true align e attributes content) := by
  cases e with
  | qrcode | barcode => exact .inr rfl
  | img =>
    unfold elementDirective
    dsimp only
    cases resolveImage images (Text.trim content) with
    | ok r => exact .inr rfl
    | error fault => exact .inl ⟨_, rfl, fault, rfl⟩

theorem add_optional (number : Nat) (s : LineState) (p : Piece) :
    SameUnless MarkupFault.OfImage (s.add images false number p) (s.add images true number p) := by
  cases p with
  | text | column => exact .inr rfl
  | bold on => cases on <;> exact .inr rfl
  | element e attributes content =>
    unfold LineState.add
    dsimp only
    rcases elementDirective_optional images s.align e attributes content with
      ⟨fault, hstrict, hfault⟩ | hsame
    · rw [hstrict]
      exact .inl ⟨fault, rfl, hfault⟩
    · rw [hsame]
      exact .inr rfl

theorem compileLine_optional (number : Nat) (line : Text) :
    SameUnless MarkupFault.OfImage (compileLine images false number line)
      (compileLine images true number line) := by
  unfold compileLine
  dsimp only
  split
  · exact .inr rfl
  · split
    · exact .inr rfl
    · rcases SameUnless.foldlM (add_optional images number) (pieces number _).1 _ with
        ⟨fault, hstrict, hfault⟩ | hsame
      · rw [hstrict]
        exact .inl ⟨fault, rfl, hfault⟩
      · rw [hsame]
        exact .inr rfl

theorem compileLines_optional (above : Nat) (lines : List Text) :
    SameUnless MarkupFault.OfImage (compileLines images false above lines)
      (compileLines images true above lines) := by
  induction lines generalizing above with
  | nil => exact .inr rfl
  | cons line below ih =>
    rw [compileLines, compileLines]
    exact (compileLine_optional images _ line).bind fun first _ => (ih _).map _

/-- Either an image is at fault in the strict compilation, or the other one gives the same. -/
theorem compile_optional (cut : Bool) (source : Text) :
    SameUnless MarkupFault.OfImage (compile images ⟨false, cut⟩ source)
      (compile images ⟨true, cut⟩ source) := by
  rw [compile_eq, compile_eq]
  exact (compileLines_optional images 0 _).map _

end Strict

variable {images : Images}

/-! ## No image is at fault -/

/-- No image is at fault in what has failed. -/
def Spares {α : Type} (x : Except MarkupFault α) : Prop := ∀ f, x ≠ .error (.image f)

theorem spares_ok {α : Type} (a : α) : Spares (.ok a) := fun _ => nofun

theorem Spares.bind {α β : Type} {x : Except MarkupFault α} {f : α → Except MarkupFault β}
    (h : Spares x) (hnext : ∀ a, Spares (f a)) : Spares (x >>= f) := by
  cases x with
  | error fault => exact fun g hg => h g (by cases hg; rfl)
  | ok a => exact hnext a

theorem Spares.map {α β : Type} {x : Except MarkupFault α} (h : Spares x) (f : α → β) :
    Spares (x.map f) := fun g hg => h g (Outcome.map_error_iff.1 hg)

theorem Spares.foldlM {α β : Type} {f : β → α → Except MarkupFault β}
    (hstep : ∀ b a, Spares (f b a)) (l : List α) : ∀ b, Spares (l.foldlM f b) := by
  induction l with
  | nil => exact spares_ok
  | cons a rest ih =>
    intro b
    rw [List.foldlM_cons]
    exact (hstep b a).bind ih

theorem checkAttributes_spares (tag : Text) (keys : List Text) (given : List Attribute) :
    Spares (checkAttributes tag keys given) := by
  intro f h
  obtain ⟨a, -, ha⟩ := Outcome.error_of_mapM h
  dsimp only at ha
  split at ha
  · cases ha
  · cases ha

theorem readToken_spares (number : Nat) (c : Cursor) : Spares (readToken number c) := by
  intro f h
  unfold readToken at h
  split at h
  · cases h
  · split at h
    · unfold readPiece at h
      dsimp only at h
      split at h
      · split at h
        · cases h
        · split at h
          · cases h
          · exact checkAttributes_spares _ _ _ _ (Outcome.map_error_iff.1 h)
      · split at h
        · cases h
        · split at h
          · rename_i fault hfault
            cases h
            exact checkAttributes_spares _ _ _ _ hfault
          · split at h <;> cases h
    · cases h

theorem pieces_spares (number : Nat) (c : Cursor) (f : ImageFault) :
    (pieces number c).2 ≠ some (.image f) := by
  fun_induction pieces number c with
  | case1 c hend =>
    intro h
    cases h
  | case2 c hrest length hplain more fault hmore ih =>
    rw [hmore] at ih
    exact ih
  | case3 c hrest length hplain fault hfault =>
    intro h
    cases h
    exact readToken_spares number c f hfault
  | case4 c hrest length hplain piece taken htoken more fault hmore ih =>
    rw [hmore] at ih
    exact ih

theorem intAttribute_spares (tag : Text) (attributes : List Attribute) (key : Text)
    (default_ : Int) : Spares (intAttribute tag attributes key default_) := by
  intro f h
  unfold intAttribute at h
  split at h
  · cases h
  · split at h
    · cases h
    · split at h <;> cases h

theorem elementDirective_spares (align : Align) (e : Element) (attributes : List Attribute)
    (content : Text) : Spares (elementDirective images true align e attributes content) := by
  cases e with
  | qrcode | barcode => exact (intAttribute_spares _ _ _ _).map _
  | img =>
    unfold elementDirective
    dsimp only
    split <;> exact spares_ok _

theorem add_spares (number : Nat) (s : LineState) (p : Piece) :
    Spares (s.add images true number p) := by
  intro f h
  unfold LineState.add at h
  split at h
  · cases h
  · cases h
  · cases h
  · split at h <;> cases h
  · split at h
    · rename_i fault hfault
      cases h
      exact elementDirective_spares _ _ _ _ f hfault
    · cases h
    · cases h

theorem compileLine_spares (number : Nat) (line : Text) :
    Spares (compileLine images true number line) := by
  intro f h
  unfold compileLine at h
  dsimp only at h
  split at h
  · cases h
  · split at h
    · cases h
    · split at h
      · rename_i fault hfault
        cases h
        exact Spares.foldlM (add_spares number) _ _ f hfault
      · split at h
        · rename_i fault hfault
          cases h
          exact pieces_spares number _ f hfault
        · unfold LineState.finish at h
          dsimp only at h
          split at h
          · cases h
          · split at h <;> cases h

theorem compileLines_spares (above : Nat) (lines : List Text) :
    Spares (compileLines images true above lines) := by
  induction lines generalizing above with
  | nil => exact spares_ok _
  | cons line below ih =>
    rw [compileLines]
    exact (compileLine_spares _ line).bind fun first => (ih _).map _

theorem compile_spares (cut : Bool) (source : Text) :
    Spares (compile images ⟨true, cut⟩ source) := by
  rw [compile_eq]
  exact (compileLines_spares 0 _).map _

end Markup
end ThermalPrint
