import ThermalPrint.Json.Order
import ThermalPrint.Proofs.Outcome

/-
The least of values that have texts for keys.  Texts are in one line by the numbers of their
characters, and of those that are the same the first is the least.
-/

namespace ThermalPrint

namespace Text

theorem codesLe_refl (s : Text) : codesLe s s = true := by
  induction s with
  | nil => rfl
  | cons a s ih => simp [codesLe, ih]

theorem codesLe_total (s t : Text) : codesLe s t = true ∨ codesLe t s = true := by
  induction s generalizing t with
  | nil => exact .inl (by cases t <;> rfl)
  | cons a s ih =>
    cases t with
    | nil => exact .inr rfl
    | cons b t =>
      simp only [codesLe, Bool.or_eq_true, Bool.and_eq_true, decide_eq_true_eq, beq_iff_eq]
      rcases Nat.lt_trichotomy a.toNat b.toNat with h | h | h
      · exact .inl (.inl h)
      · exact (ih t).imp (fun hle => .inr ⟨h, hle⟩) fun hle => .inr ⟨h.symm, hle⟩
      · exact .inr (.inl h)

theorem codesLe_trans {s t u : Text} (h : codesLe s t = true) (h' : codesLe t u = true) :
    codesLe s u = true := by
  induction s generalizing t u with
  | nil => cases u <;> rfl
  | cons a s ih =>
    cases t with
    | nil => cases h
    | cons b t =>
      cases u with
      | nil => cases h'
      | cons c u =>
        simp only [codesLe, Bool.or_eq_true, Bool.and_eq_true, decide_eq_true_eq,
          beq_iff_eq] at h h' ⊢
        rcases h with h | ⟨h, hrest⟩
        · rcases h' with h' | ⟨h', -⟩
          · exact .inl (by omega)
          · exact .inl (by omega)
        · rcases h' with h' | ⟨h', hrest'⟩
          · exact .inl (by omega)
          · exact .inr ⟨by omega, ih hrest hrest'⟩

end Text

namespace Json

/-- A text does not come behind another one. -/
def NotAfter (a b : Json) : Prop :=
  ∃ s t : Text, a = .str s ∧ b = .str t ∧ Text.codesLe s t = true

namespace NotAfter

variable {a b c : Json}

theorem less_eq (h : a.NotAfter b) : less b a = .ok false := by
  obtain ⟨s, t, rfl, rfl, hle⟩ := h
  rw [less, hle]
  rfl

theorem trans (h : a.NotAfter b) (h' : b.NotAfter c) : a.NotAfter c := by
  obtain ⟨s, t, rfl, rfl, hle⟩ := h
  obtain ⟨_, u, hsame, rfl, hle'⟩ := h'
  cases hsame
  exact ⟨s, u, rfl, rfl, Text.codesLe_trans hle hle'⟩

theorem refl (s : Text) : NotAfter (.str s) (.str s) :=
  ⟨s, s, rfl, rfl, Text.codesLe_refl s⟩

end NotAfter

theorem less_str (s t : Text) :
    less (.str s) (.str t) = .ok true ∧ NotAfter (.str s) (.str t) ∨
      less (.str s) (.str t) = .ok false ∧ NotAfter (.str t) (.str s) := by
  rw [less]
  cases h : Text.codesLe t s with
  | true => exact .inr ⟨rfl, t, s, rfl, rfl, h⟩
  | false =>
    have hle := (Text.codesLe_total s t).resolve_right (by simp [h])
    exact .inl ⟨rfl, s, t, rfl, rfl, hle⟩

section LeastBy

variable {α : Type} {key : α → Json}

/-- Where all keys are texts there is a least one, and the first of those that are least is
found. -/
theorem leastBy_first {first : α} {rest : List α}
    (hkey : ∀ x ∈ first :: rest, ∃ t, key x = .str t) :
    ∃ before least after, first :: rest = before ++ least :: after ∧
      leastBy key first rest = .ok least ∧
      (∀ x ∈ first :: rest, (key least).NotAfter (key x)) ∧
      ∀ x ∈ before, ¬ (key x).NotAfter (key least) := by
  induction rest generalizing first with
  | nil =>
    obtain ⟨t, ht⟩ := hkey first List.mem_cons_self
    refine ⟨[], first, [], rfl, rfl, fun x hx => ?_, nofun⟩
    rw [List.mem_singleton.1 hx, ht]
    exact .refl t
  | cons x rest ih =>
    obtain ⟨s, hs⟩ := hkey first List.mem_cons_self
    obtain ⟨t, ht⟩ := hkey x (List.mem_cons_of_mem _ List.mem_cons_self)
    have hlater : ∀ y ∈ rest, ∃ t, key y = .str t :=
      fun y hy => hkey y (List.mem_cons_of_mem _ (List.mem_cons_of_mem _ hy))
    unfold leastBy at ih ⊢
    rw [List.foldlM_cons, hs, ht]
    rcases less_str t s with ⟨hless, hbefore⟩ | ⟨hless, hbefore⟩
    · -- The second is less than the first, so that the first is before the least.
      have hkeys : ∀ y ∈ x :: rest, ∃ t, key y = .str t := List.forall_mem_cons.2 ⟨⟨t, ht⟩, hlater⟩
      obtain ⟨before, least, after, hsplit, hleast, hall, hfirst⟩ := ih hkeys
      have hx : (key least).NotAfter (.str t) := ht ▸ hall x List.mem_cons_self
      rw [hless]
      refine ⟨first :: before, least, after, congrArg (first :: ·) hsplit, hleast,
        List.forall_mem_cons.2 ⟨hs ▸ hx.trans hbefore, hall⟩,
        List.forall_mem_cons.2 ⟨fun hsame => ?_, hfirst⟩⟩
      cases ((hs ▸ hsame).trans hx).less_eq.symm.trans hless
    · have hkeys : ∀ y ∈ first :: rest, ∃ t, key y = .str t :=
        List.forall_mem_cons.2 ⟨⟨s, hs⟩, hlater⟩
      obtain ⟨before, least, after, hsplit, hleast, hall, hfirst⟩ := ih hkeys
      obtain ⟨hself, hrest⟩ := List.forall_mem_cons.1 hall
      have hx : (key least).NotAfter (key x) := ht ▸ (hs ▸ hself).trans hbefore
      have hless' : (key least).NotAfter (key first) ∧ ∀ y ∈ x :: rest,
          (key least).NotAfter (key y) := ⟨hself, List.forall_mem_cons.2 ⟨hx, hrest⟩⟩
      rw [hless]
      cases before with
      | nil =>
        obtain ⟨rfl, rfl⟩ := List.cons.inj hsplit
        exact ⟨[], first, x :: rest, rfl, hleast, List.forall_mem_cons.2 hless', nofun⟩
      | cons other before =>
        obtain ⟨rfl, rfl⟩ := List.cons.inj hsplit
        obtain ⟨hown, hmore⟩ := List.forall_mem_cons.1 hfirst
        refine ⟨first :: x :: before, least, after, rfl, hleast, List.forall_mem_cons.2 hless',
          List.forall_mem_cons.2 ⟨hown, List.forall_mem_cons.2 ⟨fun hsame => hown ?_, hmore⟩⟩⟩
        rw [hs]
        exact hbefore.trans (ht ▸ hsame)

end LeastBy

end Json
end ThermalPrint
