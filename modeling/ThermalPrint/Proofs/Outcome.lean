import Mathlib.Data.List.Forall2

/-
What is known of a computation that may fail once it has not.
-/

namespace ThermalPrint
namespace Outcome

variable {ε α β : Type}

theorem map_ok {x : Except ε α} {f : α → β} {b : β} (h : x.map f = .ok b) :
    ∃ a, x = .ok a ∧ f a = b := by
  cases x with
  | error e => cases h
  | ok a =>
    cases h
    exact ⟨a, rfl, rfl⟩

theorem bind_ok {x : Except ε α} {f : α → Except ε β} {b : β} (h : x >>= f = .ok b) :
    ∃ a, x = .ok a ∧ f a = .ok b := by
  cases x with
  | error e => cases h
  | ok a => exact ⟨a, rfl, h⟩

theorem map_error_iff {x : Except ε α} {f : α → β} {e : ε} : x.map f = .error e ↔ x = .error e := by
  cases x with
  | error e' => exact ⟨fun h => by cases h; rfl, fun h => by cases h; rfl⟩
  | ok a => exact ⟨nofun, nofun⟩

theorem map_mapError {ε' : Type} (x : Except ε α) (f : α → β) (g : ε → ε') :
    (x.map f).mapError g = (x.mapError g).map f := by
  cases x <;> rfl

theorem bind_mapError {ε' : Type} (x : Except ε α) (f : α → Except ε β) (g : ε → ε') :
    (x >>= f).mapError g = x.mapError g >>= fun a => (f a).mapError g := by
  cases x <;> rfl

theorem map_map {γ : Type} (x : Except ε α) (f : α → β) (g : β → γ) :
    (x.map f).map g = x.map fun a => g (f a) := by
  cases x <;> rfl

theorem flatten_mapM_cons (f : α → Except ε (List β)) (a : α) (l : List α) :
    ((a :: l).mapM f).map List.flatten =
      f a >>= fun first => ((l.mapM f).map List.flatten).map (first ++ ·) := by
  rw [List.mapM_cons]
  cases f a with
  | error e => rfl
  | ok first =>
    cases l.mapM f with
    | error e => rfl
    | ok more => rfl

theorem mapError_ok {ε' : Type} {x : Except ε α} {f : ε → ε'} {a : α} :
    x.mapError f = .ok a ↔ x = .ok a := by
  cases x with
  | error e => exact ⟨nofun, nofun⟩
  | ok b => exact ⟨fun h => by cases h; rfl, fun h => by cases h; rfl⟩

theorem mapError_error {ε' : Type} {x : Except ε α} {f : ε → ε'} {e' : ε'} :
    x.mapError f = .error e' ↔ ∃ e, x = .error e ∧ e' = f e := by
  cases x with
  | error e =>
    constructor
    · intro h
      cases h
      exact ⟨e, rfl, rfl⟩
    · rintro ⟨_, hx, rfl⟩
      cases hx
      rfl
  | ok b => exact ⟨nofun, nofun⟩

theorem mapError_id {f : ε → ε} {x : Except ε α} (h : ∀ e, x = .error e → f e = e) :
    x.mapError f = x := by
  cases x with
  | error e => exact congrArg Except.error (h e rfl)
  | ok a => rfl

theorem foldlM_mapError {ε' : Type} {f : β → α → Except ε β} {f' : β → α → Except ε' β}
    {g : ε → ε'} (hstep : ∀ b a, f' b a = (f b a).mapError g) (l : List α) :
    ∀ b, l.foldlM f' b = (l.foldlM f b).mapError g := by
  induction l with
  | nil => exact fun b => rfl
  | cons a rest ih =>
    intro b
    rw [List.foldlM_cons, List.foldlM_cons, hstep, bind_mapError]
    exact congrArg _ (funext fun b' => ih b')

/-- What each step keeps, all of them keep. -/
theorem foldlM_keeps {P : β → Prop} {f : β → α → Except ε β} {l : List α}
    (hstep : ∀ b b', ∀ a ∈ l, P b → f b a = .ok b' → P b') :
    ∀ {b b' : β}, P b → l.foldlM f b = .ok b' → P b' := by
  induction l with
  | nil =>
    intro b b' hb h
    cases h
    exact hb
  | cons a rest ih =>
    intro b b' hb h
    rw [List.foldlM_cons] at h
    obtain ⟨next, hnext, h⟩ := bind_ok h
    exact ih (fun b b' a ha => hstep b b' a (List.mem_cons_of_mem _ ha))
      (hstep b next a List.mem_cons_self hb hnext) h

theorem error_of_mapM {f : α → Except ε β} {l : List α} {e : ε} (h : l.mapM f = .error e) :
    ∃ a ∈ l, f a = .error e := by
  induction l with
  | nil => cases h
  | cons a rest ih =>
    rw [List.mapM_cons] at h
    cases ha : f a with
    | error e' =>
      rw [ha] at h
      cases h
      exact ⟨a, List.mem_cons_self, ha⟩
    | ok b =>
      rw [ha] at h
      cases hrest : rest.mapM f with
      | error e' =>
        rw [hrest] at h
        cases h
        obtain ⟨a', hmem, ha'⟩ := ih hrest
        exact ⟨a', List.mem_cons_of_mem _ hmem, ha'⟩
      | ok more =>
        rw [hrest] at h
        cases h

theorem mapM_ok {f : α → Except ε β} {l : List α} :
    ∀ {results : List β}, l.mapM f = .ok results →
      List.Forall₂ (fun a b => f a = .ok b) l results := by
  induction l with
  | nil =>
    intro results h
    rw [List.mapM_nil] at h
    cases h
    exact .nil
  | cons a rest ih =>
    intro results h
    rw [List.mapM_cons] at h
    obtain ⟨b, hb, h⟩ := bind_ok h
    obtain ⟨more, hmore, h⟩ := bind_ok h
    cases h
    exact .cons hb (ih hmore)

theorem forM_ok {f : α → Except ε Unit} {l : List α} (h : l.forM f = .ok ()) :
    ∀ a ∈ l, f a = .ok () := by
  induction l with
  | nil => nofun
  | cons a rest ih =>
    obtain ⟨⟨⟩, hfirst, hrest⟩ := bind_ok (f := fun _ => rest.forM f) h
    exact List.forall_mem_cons.2 ⟨hfirst, ih hrest⟩

theorem exists_of_forall₂ {R : α → β → Prop} {l : List α} {results : List β}
    (h : List.Forall₂ R l results) {b : β} (hb : b ∈ results) : ∃ a ∈ l, R a b := by
  induction h with
  | nil => cases hb
  | cons hab _ ih =>
    rcases List.mem_cons.1 hb with rfl | hrest
    · exact ⟨_, List.mem_cons_self, hab⟩
    · obtain ⟨a, ha, hfa⟩ := ih hrest
      exact ⟨a, List.mem_cons_of_mem _ ha, hfa⟩

theorem mem_of_mapM {f : α → Except ε β} {l : List α} {results : List β}
    (h : l.mapM f = .ok results) {b : β} (hb : b ∈ results) : ∃ a ∈ l, f a = .ok b :=
  exists_of_forall₂ (mapM_ok h) hb

/-- What a list of names stands for in two ways belongs together if that holds of each name. -/
theorem forall₂_filterMap {γ : Type} {R : β → γ → Prop} {f : α → Option β} {g : α → Option γ}
    {names : List α} (h : ∀ name ∈ names, ∃ b c, f name = some b ∧ R b c ∧ g name = some c) :
    List.Forall₂ R (names.filterMap f) (names.filterMap g) := by
  induction names with
  | nil => exact .nil
  | cons name rest ih =>
    obtain ⟨b, c, hb, hbc, hc⟩ := h name List.mem_cons_self
    rw [List.filterMap_cons, hb, List.filterMap_cons, hc]
    exact .cons hbc (ih fun other hother => h other (List.mem_cons_of_mem _ hother))

/-- Two computations fail alike, or both succeed with results in a relation. -/
inductive Alike (R : α → β → Prop) : Except ε α → Except ε β → Prop
  | error (e : ε) : Alike R (.error e) (.error e)
  | ok {a : α} {b : β} : R a b → Alike R (.ok a) (.ok b)

namespace Alike

variable {γ δ : Type} {R : α → β → Prop} {S : γ → δ → Prop}

theorem bind {x : Except ε α} {y : Except ε β} {f : α → Except ε γ} {g : β → Except ε δ}
    (h : Alike R x y) (hnext : ∀ a b, R a b → Alike S (f a) (g b)) :
    Alike S (x >>= f) (y >>= g) := by
  cases h with
  | error e => exact .error e
  | ok hab => exact hnext _ _ hab

theorem map {x : Except ε α} {y : Except ε β} {f : α → γ} {g : β → δ} (h : Alike R x y)
    (hmap : ∀ a b, R a b → S (f a) (g b)) : Alike S (x.map f) (y.map g) := by
  cases h with
  | error e => exact .error e
  | ok hab => exact .ok (hmap _ _ hab)

theorem foldlM {f : α → γ → Except ε α} {g : β → γ → Except ε β} {l : List γ}
    (hstep : ∀ a b, R a b → ∀ c ∈ l, Alike R (f a c) (g b c)) :
    ∀ {a : α} {b : β}, R a b → Alike R (l.foldlM f a) (l.foldlM g b) := by
  induction l with
  | nil => exact fun hab => .ok hab
  | cons c rest ih =>
    intro a b hab
    rw [List.foldlM_cons, List.foldlM_cons]
    refine (hstep a b hab c List.mem_cons_self).bind fun a' b' hab' => ?_
    exact ih (fun a b hab c hc => hstep a b hab c (List.mem_cons_of_mem _ hc)) hab'

end Alike

/-- A computation fails in a way that is excused, or else the other one is the same. -/
def SameUnless (excused : ε → Prop) (x y : Except ε α) : Prop :=
  (∃ e, x = .error e ∧ excused e) ∨ y = x

namespace SameUnless

variable {excused : ε → Prop} {x y : Except ε α}

theorem bind {f g : α → Except ε β} (h : SameUnless excused x y)
    (hnext : ∀ a, x = .ok a → SameUnless excused (f a) (g a)) :
    SameUnless excused (x >>= f) (y >>= g) := by
  rcases h with ⟨e, rfl, he⟩ | rfl
  · exact .inl ⟨e, rfl, he⟩
  · cases y with
    | error e => exact .inr rfl
    | ok a => exact hnext a rfl

theorem map (f : α → β) (h : SameUnless excused x y) :
    SameUnless excused (x.map f) (y.map f) := by
  rcases h with ⟨e, rfl, he⟩ | rfl
  · exact .inl ⟨e, rfl, he⟩
  · exact .inr rfl

theorem foldlM {f g : β → α → Except ε β} (hstep : ∀ b a, SameUnless excused (f b a) (g b a))
    (l : List α) : ∀ b, SameUnless excused (l.foldlM f b) (l.foldlM g b) := by
  induction l with
  | nil => exact fun b => .inr rfl
  | cons a rest ih =>
    intro b
    rw [List.foldlM_cons, List.foldlM_cons]
    exact (hstep b a).bind fun b' _ => ih b'

theorem mapM {f g : α → Except ε β} (hstep : ∀ a, SameUnless excused (f a) (g a)) (l : List α) :
    SameUnless excused (l.mapM f) (l.mapM g) := by
  induction l with
  | nil => exact .inr rfl
  | cons a rest ih =>
    rw [List.mapM_cons, List.mapM_cons]
    exact (hstep a).bind fun b _ => ih.bind fun more _ => .inr rfl

end SameUnless

end Outcome
end ThermalPrint
