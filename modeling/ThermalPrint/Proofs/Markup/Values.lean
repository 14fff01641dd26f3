import ThermalPrint.Proofs.Markup.Letters
import ThermalPrint.Proofs.Text.Capital

/-
The values of attributes.  Their characters stand in the line as those of the text do, and the
name of a symbology, which is a value in capitals, has a line feed only if the value has one.
-/

namespace ThermalPrint

namespace Markup

variable {number : Nat}

theorem readQuoted?_mem {t value rest : Text} (h : readQuoted? t = some (value, rest)) :
    (∀ c ∈ value, c ∈ t) ∧ ∀ c ∈ rest, c ∈ t := by
  cases t with
  | nil => cases h
  | cons mark t =>
    simp only [readQuoted?] at h
    split at h
    · split at h
      · cases h
      · rename_i d behind heq
        cases h
        refine ⟨fun c hc => List.mem_cons_of_mem _ ((List.takeWhile_sublist _).mem hc),
          fun c hc => List.mem_cons_of_mem _ ?_⟩
        have hdropped := List.mem_cons_of_mem d hc
        rw [← heq] at hdropped
        exact (List.dropWhile_sublist _).mem hdropped
    · cases h

theorem trimLeft_mem {t : Text} {c : CodePoint} (h : c ∈ Text.trimLeft t) : c ∈ t :=
  (List.dropWhile_sublist _).mem h

theorem readAttribute?_mem {t rest : Text} {a : Attribute}
    (h : readAttribute? t = some (a, rest)) : (∀ c ∈ a.value, c ∈ t) ∧ ∀ c ∈ rest, c ∈ t := by
  unfold readAttribute? at h
  dsimp only at h
  split at h
  · cases h
  · split at h
    · rename_i more heq
      have hmore : ∀ c ∈ Text.trimLeft more, c ∈ t := by
        intro c hc
        have hequals : c ∈ .char '=' :: more := List.mem_cons_of_mem _ (trimLeft_mem hc)
        rw [← heq] at hequals
        exact trimLeft_mem ((List.dropWhile_sublist _).mem (trimLeft_mem hequals))
      split at h
      · rename_i value behind hquoted
        cases h
        obtain ⟨hvalue, hbehind⟩ := readQuoted?_mem hquoted
        exact ⟨fun c hc => hmore c (hvalue c hc), fun c hc => hmore c (hbehind c hc)⟩
      · cases h
    · cases h

theorem readAttributes_mem {t : Text} : ∀ a ∈ (readAttributes t).1, ∀ c ∈ a.value, c ∈ t := by
  fun_induction readAttributes t with
  | case1 t hnone =>
    intro a ha
    cases ha
  | case2 t first rest hread more behind heq ih =>
    obtain ⟨hvalue, hrest⟩ := readAttribute?_mem hread
    rw [heq] at ih
    intro a ha c hc
    rcases List.mem_cons.1 ha with rfl | ha
    · exact hvalue c hc
    · exact hrest c (ih a ha c hc)

theorem tagBody?_mem {t body : Text} {closing : Bool} (h : tagBody? t = some (closing, body)) :
    ∀ c ∈ body, c ∈ t := by
  unfold tagBody? at h
  split at h
  · split at h
    · cases h
      exact fun c hc => List.mem_cons_of_mem _ (List.mem_cons_of_mem _ hc)
    · cases h
  · split at h
    · cases h
      exact fun c hc => List.mem_cons_of_mem _ hc
    · cases h
  · cases h

theorem readTag?_mem {t : Text} {tag : Tag} (h : readTag? t = some tag) :
    ∀ a ∈ tag.attributes, ∀ c ∈ a.value, c ∈ t := by
  unfold readTag? at h
  split at h
  · cases h
  · rename_i closing body hbody
    dsimp only at h
    split at h
    · cases h
      intro a ha c hc
      exact tagBody?_mem hbody c ((List.dropWhile_sublist _).mem (readAttributes_mem a ha c hc))
    · cases h

theorem checkAttributes_values {tag : Text} {keys : List Text} {given attributes : List Attribute}
    (h : checkAttributes tag keys given = .ok attributes) :
    ∀ a ∈ attributes, ∃ b ∈ given, a.value = b.value := by
  intro a ha
  obtain ⟨b, hb, hcheck⟩ := Outcome.mem_of_mapM h ha
  refine ⟨b, hb, ?_⟩
  dsimp only at hcheck
  split at hcheck
  · cases hcheck
    rfl
  · cases hcheck

/-- The attributes of the elements have their values from the line. -/
theorem pieces_values {c : Cursor} {e : Element} {attributes : List Attribute} {content : Text}
    (h : .element e attributes content ∈ (pieces number c).1) :
    ∀ a ∈ attributes, ∀ x ∈ a.value, x ∈ c.rest := by
  fun_induction pieces number c with
  | case1 c hend => cases h
  | case2 c hmore n hn more fault heq ih =>
    rcases List.mem_cons.1 h with hpiece | hrest
    · cases hpiece
    · rw [heq] at ih
      exact fun a ha x hx => List.mem_of_mem_drop (ih hrest a ha x hx)
  | case3 c hmore n hn fault hread => cases h
  | case4 c hmore n hn first length hread more fault heq ih =>
    rcases List.mem_cons.1 h with rfl | hrest
    · rcases readToken_ok hread with ⟨_, _, _, -, -, hpiece, -⟩ | ⟨_, -, -, -, hpiece, -⟩ |
        ⟨tag, _, own, _, htag, -, -, hown, -, hpiece, -⟩
      · cases hpiece
      · cases hpiece
      · cases hpiece
        intro a ha x hx
        obtain ⟨b, hb, hvalue⟩ := checkAttributes_values hown a ha
        rw [hvalue] at hx
        exact readTag?_mem htag b hb x hx
    · rw [heq] at ih
      exact fun a ha x hx => List.mem_of_mem_drop (ih hrest a ha x hx)

theorem lookup_mem {α β : Type} [BEq α] [LawfulBEq α] {key : α} {value : β} {l : List (α × β)}
    (h : l.lookup key = some value) : (key, value) ∈ l := by
  induction l with
  | nil => cases h
  | cons entry rest ih =>
    obtain ⟨other, found⟩ := entry
    rw [List.lookup_cons] at h
    by_cases hkey : key = other
    · subst hkey
      rw [beq_self_eq_true] at h
      cases h
      exact List.mem_cons_self
    · rw [beq_false_of_ne hkey] at h
      exact List.mem_cons_of_mem _ (ih h)

theorem normalizeSymbology_unbroken {name : Option Text} (h : ∀ t, name = some t → .char '\n' ∉ t) :
    .char '\n' ∉ normalizeSymbology name := by
  intro hfeed
  unfold normalizeSymbology at hfeed
  extract_lets given key at hfeed
  cases hlookup : symbologyAliases.lookup key with
  | some canonical =>
    have hplain : ∀ entry ∈ symbologyAliases, .char '\n' ∉ entry.2 := by decide
    rw [hlookup] at hfeed
    exact hplain _ (lookup_mem hlookup) hfeed
  | none =>
    rw [hlookup] at hfeed
    have htrim : .char '\n' ∈ given := trim_mem (Text.lineFeed_mem_upper hfeed)
    have hplain : .char '\n' ∉ "ean13".toText := by decide
    cases name with
    | none => exact hplain htrim
    | some t =>
      dsimp only [given] at htrim
      split at htrim
      · exact hplain htrim
      · exact h t rfl htrim

end Markup
end ThermalPrint
