import ThermalPrint.Text.Blank

/-
The parts of a text between the occurrences of a separator.  They hold everything of the text but
the separators, and they are put together to the text again.
-/

namespace ThermalPrint
namespace Text

theorem splitOn_go_mem {separator : CodePoint} {p : CodePoint → Prop} {t : Text} :
    ∀ {part : Text} {done : List Text}, (∀ c ∈ t, p c) →
      (∀ c ∈ part, p c ∧ c ≠ separator) → (∀ l ∈ done, ∀ c ∈ l, p c ∧ c ≠ separator) →
      ∀ l ∈ splitOn.go separator part done t, ∀ c ∈ l, p c ∧ c ≠ separator := by
  induction t with
  | nil =>
    intro part done _ hpart hdone l hl c hc
    rw [splitOn.go, List.mem_reverse] at hl
    rcases List.mem_cons.1 hl with rfl | hl
    · exact hpart c (List.mem_reverse.1 hc)
    · exact hdone l hl c hc
  | cons c rest ih =>
    intro part done ht hpart hdone
    have hrest : ∀ c ∈ rest, p c := fun x hx => ht x (List.mem_cons_of_mem _ hx)
    rw [splitOn.go]
    by_cases hsep : c = separator
    · rw [if_pos hsep]
      refine ih hrest (fun x hx => absurd hx List.not_mem_nil) fun l hl x hx => ?_
      rcases List.mem_cons.1 hl with rfl | hl
      · exact hpart x (List.mem_reverse.1 hx)
      · exact hdone l hl x hx
    · rw [if_neg hsep]
      refine ih hrest (fun x hx => ?_) hdone
      rcases List.mem_cons.1 hx with rfl | hx
      · exact ⟨ht x List.mem_cons_self, hsep⟩
      · exact hpart x hx

theorem splitOn_mem {separator c : CodePoint} {t l : Text} (hl : l ∈ splitOn separator t)
    (hc : c ∈ l) : c ∈ t ∧ c ≠ separator :=
  splitOn_go_mem (fun _ h => h) (fun _ h => absurd h List.not_mem_nil)
    (fun _ h => absurd h List.not_mem_nil) l hl c hc

theorem splitOn_go_eq {separator : CodePoint} {t : Text} (h : separator ∉ t) :
    ∀ part done, splitOn.go separator part done t =
      (done.reverse ++ [part.reverse ++ t]) := by
  induction t with
  | nil =>
    intro part done
    rw [splitOn.go, List.reverse_cons, List.append_nil]
  | cons c rest ih =>
    intro part done
    have hc : c ≠ separator := fun hc => h (hc ▸ List.mem_cons_self)
    rw [splitOn.go, if_neg hc, ih (fun hmem => h (List.mem_cons_of_mem _ hmem)),
      List.reverse_cons, List.append_assoc]
    rfl

theorem splitOn_go_append (separator : CodePoint) (t : Text) :
    ∀ part done, splitOn.go separator part done t =
      done.reverse ++ splitOn.go separator part [] t := by
  induction t with
  | nil =>
    intro part done
    rw [splitOn.go, splitOn.go, List.reverse_cons]
    rfl
  | cons c rest ih =>
    intro part done
    rw [splitOn.go, splitOn.go]
    split
    · rw [ih, ih [] [part.reverse], List.reverse_cons, List.append_assoc]
      rfl
    · exact ih (c :: part) done

/-- A separator parts a text in two, whatever stands in front of it and behind it. -/
theorem splitOn_append (separator : CodePoint) (s t : Text) :
    splitOn separator (s ++ separator :: t) = splitOn separator s ++ splitOn separator t := by
  suffices h : ∀ part, splitOn.go separator part [] (s ++ separator :: t) =
      splitOn.go separator part [] s ++ splitOn separator t from h []
  induction s with
  | nil =>
    intro part
    rw [List.nil_append, splitOn.go.eq_2, if_pos rfl, splitOn_go_append]
    rfl
  | cons c rest ih =>
    intro part
    rw [List.cons_append, splitOn.go, splitOn.go]
    split
    · rw [splitOn_go_append, splitOn_go_append separator rest, ih, List.append_assoc]
    · exact ih (c :: part)

theorem splitOn_length (separator : CodePoint) (t : Text) :
    (splitOn separator t).length = t.count separator + 1 := by
  suffices h : ∀ part, (splitOn.go separator part [] t).length = t.count separator + 1 from h []
  induction t with
  | nil => exact fun part => rfl
  | cons c rest ih =>
    intro part
    rw [splitOn.go]
    split
    · rename_i hc
      rw [splitOn_go_append, List.length_append, ih, hc, List.count_cons_self]
      exact Nat.add_comm _ _
    · rename_i hc
      rw [ih, List.count_cons_of_ne hc]

theorem splitOn_ne_nil (separator : CodePoint) (t : Text) : splitOn separator t ≠ [] :=
  List.ne_nil_of_length_eq_add_one (splitOn_length separator t)

theorem mem_intercalate {separator : Text} {parts : List Text} {c : CodePoint}
    (h : c ∈ separator.intercalate parts) : c ∈ separator ∨ ∃ part ∈ parts, c ∈ part := by
  induction parts with
  | nil => cases h
  | cons part rest ih =>
    by_cases hrest : rest = []
    · subst hrest
      rw [List.intercalate_singleton] at h
      exact .inr ⟨part, List.mem_cons_self, h⟩
    · rw [List.intercalate_cons_of_ne_nil hrest, List.mem_append, List.mem_append] at h
      rcases h with (hc | hc) | hc
      · exact .inr ⟨part, List.mem_cons_self, hc⟩
      · exact .inl hc
      · exact (ih hc).imp_right fun ⟨p, hp, hmem⟩ => ⟨p, List.mem_cons_of_mem _ hp, hmem⟩

theorem intercalate_splitOn (separator : CodePoint) (t : Text) :
    [separator].intercalate (splitOn separator t) = t := by
  suffices h : ∀ part, [separator].intercalate (splitOn.go separator part [] t) =
      part.reverse ++ t from h []
  induction t with
  | nil =>
    intro part
    rw [splitOn.go, List.append_nil]
    exact List.intercalate_singleton
  | cons c rest ih =>
    intro part
    rw [splitOn.go]
    split
    · rename_i hc
      have hne : splitOn.go separator [] [] rest ≠ [] := splitOn_ne_nil separator rest
      rw [splitOn_go_append, List.reverse_singleton, List.singleton_append,
        List.intercalate_cons_of_ne_nil hne, ih [], hc]
      exact List.append_assoc ..
    · rw [ih (c :: part), List.reverse_cons, List.append_assoc]
      rfl

theorem splitOn_intercalate {separator : CodePoint} {parts : List Text} (hne : parts ≠ [])
    (h : ∀ part ∈ parts, separator ∉ part) :
    splitOn separator ([separator].intercalate parts) = parts := by
  induction parts with
  | nil => exact absurd rfl hne
  | cons part rest ih =>
    have hpart : splitOn separator part = [part] := splitOn_go_eq (h part List.mem_cons_self) [] []
    by_cases hrest : rest = []
    · rw [hrest, List.intercalate_singleton, hpart]
    · rw [List.intercalate_cons_of_ne_nil hrest, List.append_assoc, List.singleton_append,
        splitOn_append, hpart, ih hrest fun p hp => h p (List.mem_cons_of_mem _ hp)]
      rfl

end Text
end ThermalPrint
