import ThermalPrint.Text.Case

/-
Where a text is found in another, and what becomes of that when letters are folded.
-/

namespace ThermalPrint
namespace Text

theorem find?_go (sought : Text) :
    ∀ (t : Text) (place : Nat), find?.go sought place t = (find? sought t).map (· + place) := by
  intro t
  induction t with
  | nil =>
    intro place
    unfold find?
    rw [find?.go, find?.go]
    by_cases hs : sought.isEmpty
    · rw [if_pos hs, if_pos hs, Option.map_some, Nat.zero_add]
    · rw [if_neg hs, if_neg hs, Option.map_none]
  | cons c rest ih =>
    intro place
    unfold find?
    rw [find?.go, find?.go]
    by_cases hs : sought.isPrefixOf (c :: rest)
    · rw [if_pos hs, if_pos hs, Option.map_some, Nat.zero_add]
    · rw [if_neg hs, if_neg hs, ih, ih, Option.map_map]
      congr 1
      funext n
      show n + (place + 1) = n + (0 + 1) + place
      omega

theorem find?_cons (sought : Text) (c : CodePoint) (rest : Text) :
    find? sought (c :: rest) =
      if sought.isPrefixOf (c :: rest) then some 0 else (find? sought rest).map (· + 1) := by
  show find?.go sought 0 (c :: rest) = _
  rw [find?.go, find?_go]

theorem find?_nil {sought : Text} (hs : sought ≠ []) : find? sought [] = none := by
  show (if sought.isEmpty then some 0 else none) = none
  rw [if_neg]
  simpa using hs

theorem find?_eq_some {sought : Text} (hs : sought ≠ []) {t : Text} {n : Nat} :
    find? sought t = some n ↔ sought <+: t.drop n ∧ ∀ i < n, ¬ sought <+: t.drop i := by
  induction t generalizing n with
  | nil =>
    rw [find?_nil hs]
    constructor
    · intro h
      cases h
    · rintro ⟨h, -⟩
      rw [List.drop_nil] at h
      exact absurd (List.prefix_nil.1 h) hs
  | cons c rest ih =>
    rw [find?_cons]
    by_cases hp : sought.isPrefixOf (c :: rest)
    · have hzero : sought <+: (c :: rest).drop 0 := List.isPrefixOf_iff_prefix.1 hp
      rw [if_pos hp]
      constructor
      · intro h
        cases h
        exact ⟨hzero, fun i hi => absurd hi (Nat.not_lt_zero i)⟩
      · rintro ⟨-, hfirst⟩
        cases n with
        | zero => rfl
        | succ n => exact absurd hzero (hfirst 0 (Nat.succ_pos n))
    · have hzero : ¬ sought <+: (c :: rest).drop 0 := fun h => hp (List.isPrefixOf_iff_prefix.2 h)
      rw [if_neg hp, Option.map_eq_some_iff]
      constructor
      · rintro ⟨m, hm, rfl⟩
        obtain ⟨hbegins, hfirst⟩ := ih.1 hm
        refine ⟨hbegins, fun i hi => ?_⟩
        cases i with
        | zero => exact hzero
        | succ i => exact hfirst i (by omega)
      · rintro ⟨hbegins, hfirst⟩
        cases n with
        | zero => exact absurd hbegins hzero
        | succ n => exact ⟨n, ih.2 ⟨hbegins, fun i hi => hfirst (i + 1) (by omega)⟩, rfl⟩

theorem find?_congr {sought t u : Text} (hs : sought ≠ [])
    (h : ∀ i, sought <+: t.drop i ↔ sought <+: u.drop i) : find? sought t = find? sought u := by
  have hsome : ∀ n, find? sought t = some n ↔ find? sought u = some n := by
    intro n
    rw [find?_eq_some hs, find?_eq_some hs]
    constructor
    · rintro ⟨hbegins, hfirst⟩
      exact ⟨(h n).1 hbegins, fun i hi hu => hfirst i hi ((h i).2 hu)⟩
    · rintro ⟨hbegins, hfirst⟩
      exact ⟨(h n).2 hbegins, fun i hi ht => hfirst i hi ((h i).1 ht)⟩
  exact Option.ext hsome

/-- A text cannot reach into one that does not have its last character. -/
theorem prefix_append_iff {sought x y : Text} {last : CodePoint}
    (hlast : sought.getLast? = some last) (hy : last ∉ y) : sought <+: x ++ y ↔ sought <+: x := by
  constructor
  · rintro ⟨z, hz⟩
    rcases List.append_eq_append_iff.1 hz with ⟨a, rfl, -⟩ | ⟨a, rfl, rfl⟩
    · exact List.prefix_append _ _
    · cases a with
      | nil => simp
      | cons c rest =>
        have hmem : last ∈ c :: rest := by
          rw [List.getLast?_append,
            List.getLast?_eq_some_getLast (List.cons_ne_nil c rest)] at hlast
          cases hlast
          exact List.getLast_mem _
        exact absurd (List.mem_append_left z hmem) hy
  · intro h
    exact h.trans (List.prefix_append x y)

theorem find?_append {sought x y : Text} {last : CodePoint} (hlast : sought.getLast? = some last)
    (hy : last ∉ y) : find? sought (x ++ y) = find? sought x := by
  have hs : sought ≠ [] := by
    rintro rfl
    cases hlast
  refine find?_congr hs fun i => ?_
  rw [List.drop_append]
  exact prefix_append_iff hlast fun h => hy (List.mem_of_mem_drop h)

theorem prefix_map_congr {f g : CodePoint → CodePoint} {sought : Text} :
    ∀ {t : Text}, (∀ c, ∀ d ∈ sought, f c = d ↔ g c = d) →
      (sought <+: t.map f ↔ sought <+: t.map g) := by
  induction sought with
  | nil =>
    intro t _
    exact ⟨fun _ => List.nil_prefix, fun _ => List.nil_prefix⟩
  | cons d rest ih =>
    intro t h
    cases t with
    | nil => rfl
    | cons c more =>
      rw [List.map_cons, List.map_cons, List.cons_prefix_cons, List.cons_prefix_cons,
        ih fun c' d' hd' => h c' d' (List.mem_cons_of_mem _ hd'), eq_comm, h c d List.mem_cons_self,
        eq_comm]

/-- Two ways to replace characters are alike to a search if they are for what is sought. -/
theorem find?_map_congr {f g : CodePoint → CodePoint} {sought : Text} (hs : sought ≠ [])
    (h : ∀ c, ∀ d ∈ sought, f c = d ↔ g c = d) (t : Text) :
    find? sought (t.map f) = find? sought (t.map g) := by
  refine find?_congr hs fun i => ?_
  rw [← List.map_drop, ← List.map_drop]
  exact prefix_map_congr h

def smallOf (c : CodePoint) : CodePoint :=
  if c.toNat < 128 then c.toLower else (CaseRun.image? lowerRuns c.toNat).getD c

theorem lowerOf_eq (c : CodePoint) :
    lowerOf c = if c = 'İ' then [.char 'i', .char '\u0307'] else [smallOf c] := by
  unfold lowerOf smallOf
  by_cases hascii : c.toNat < 128
  · have hdot : c ≠ 'İ' := by
      rintro rfl
      exact absurd hascii (by decide)
    rw [if_pos hascii, if_pos hascii, if_neg hdot]
  · rw [if_neg hascii, if_neg hascii]

/-- No small letter of a character outside ASCII is in ASCII, but for that of the sign for
Kelvin. -/
theorem lowerRuns_high : ∀ r ∈ lowerRuns.toList,
    (r.first = 0x212A ∧ r.last = 0x212A ∧ r.shift = -8383) ∨ (128 : Int) ≤ r.first + r.shift := by
  decide +kernel

theorem toNat_ofNat (n : Nat) : (CodePoint.ofNat n).toNat = n ∨ CodePoint.ofNat n = '\x00' := by
  rw [CodePoint.ofNat]
  split
  · left
    rw [CodePoint.toNat_half]
    simp only
    omega
  · by_cases hvalid : n.isValidChar
    · left
      rw [CodePoint.toNat_char, Char.ofNat, dif_pos hvalid]
      rfl
    · right
      rw [Char.ofNat, dif_neg hvalid]
      rfl

theorem ofNat_ascii {n : Nat} (h : (CodePoint.ofNat n).toNat < 128) :
    n < 128 ∨ CodePoint.ofNat n = '\x00' := by
  refine (toNat_ofNat n).imp_left fun hn => ?_
  rwa [hn] at h

theorem image?_ascii {n : Nat} {c : CodePoint} (h : CaseRun.image? lowerRuns n = some c)
    (hascii : c.toNat < 128) : c = 'k' ∨ c = '\x00' := by
  rw [CaseRun.image?, Option.map_eq_some_iff] at h
  obtain ⟨r, hr, rfl⟩ := h
  have hmem := Array.mem_toList_iff.2 (Array.mem_of_find?_eq_some hr)
  have hcovers := Array.find?_some hr
  simp only [CaseRun.covers, Bool.and_eq_true, decide_eq_true_eq] at hcovers
  rcases lowerRuns_high r hmem with ⟨hfirst, hlast, hshift⟩ | hhigh
  · left
    have hn : n = 0x212A := by omega
    rw [hn, hshift]
    decide
  · right
    rcases ofNat_ascii hascii with hlow | hzero
    · omega
    · exact hzero

/-- A character that only its capital in ASCII has for its small letter. -/
def IsOwnSmall (d : CodePoint) : Prop := d.toNat < 128 ∧ d ≠ 'k' ∧ d ≠ '\x00'

instance (d : CodePoint) : Decidable (IsOwnSmall d) := inferInstanceAs (Decidable (_ ∧ _))

/-- A capital has a small letter behind it; everything else is its own. -/
theorem toLower_cases (c : CodePoint) :
    c.toLower = c ∨ 65 ≤ c.toNat ∧ c.toNat ≤ 90 ∧ c.toLower.toNat = c.toNat + 32 := by
  cases c with
  | half n => exact .inl rfl
  | char c =>
    unfold CodePoint.toLower
    rw [CodePoint.map_char, CodePoint.toNat_char, CodePoint.toNat_char]
    unfold Char.toLower
    split
    · rename_i h
      have hA : 65 ≤ c.toNat := h.1
      have hZ : c.toNat ≤ 90 := h.2
      refine .inr ⟨hA, hZ, ?_⟩
      show (c.val + 32).toNat = c.val.toNat + 32
      have hval : c.val.toNat = c.toNat := rfl
      rw [UInt32.toNat_add, hval]
      show (c.toNat + 32) % 2 ^ 32 = c.toNat + 32
      omega
    · exact .inl rfl

theorem toLower_high {c : CodePoint} (h : ¬ c.toNat < 128) : c.toLower = c := by
  rcases toLower_cases c with hc | ⟨-, hZ, -⟩
  · exact hc
  · omega

/-- What is no small letter comes from itself alone. -/
theorem eq_of_toLower {c d : CodePoint} (hd : d.toNat < 97 ∨ 122 < d.toNat) (h : c.toLower = d) :
    c = d := by
  subst h
  rcases toLower_cases c with hc | ⟨hA, hZ, hsmall⟩
  · exact hc.symm
  · omega

theorem smallOf_eq_iff {c d : CodePoint} (hd : IsOwnSmall d) : smallOf c = d ↔ c.toLower = d := by
  obtain ⟨hascii, hk, hzero⟩ := hd
  unfold smallOf
  by_cases hc : c.toNat < 128
  · rw [if_pos hc]
  · rw [if_neg hc, toLower_high hc]
    cases himage : CaseRun.image? lowerRuns c.toNat with
    | none => rfl
    | some b =>
      rw [Option.getD_some]
      constructor
      · rintro rfl
        rcases image?_ascii himage hascii with hb | hb
        · exact absurd hb hk
        · exact absurd hb hzero
      · rintro rfl
        exact absurd hascii hc

theorem fold_cons (c : CodePoint) (t : Text) : fold (c :: t) = lowerOf c ++ fold t :=
  List.flatMap_cons

theorem fold_append (s t : Text) : fold (s ++ t) = fold s ++ fold t := List.flatMap_append

/-- Where no character becomes two, folding is done character by character. -/
theorem fold_eq_map {t : Text} (h : .char 'İ' ∉ t) : fold t = t.map smallOf := by
  induction t with
  | nil => rfl
  | cons c rest ih =>
    have hc : c ≠ 'İ' := fun hc => h (hc ▸ List.mem_cons_self)
    rw [fold_cons, lowerOf_eq, if_neg hc, ih fun hrest => h (List.mem_cons_of_mem _ hrest)]
    rfl

theorem close_mem_fold {t : Text} (h : .char '>' ∈ fold t) : .char '>' ∈ t := by
  obtain ⟨c, hc, hmem⟩ := List.mem_flatMap.1 h
  rw [lowerOf_eq] at hmem
  split at hmem
  · exact absurd hmem (by decide)
  · have hsmall : smallOf c = '>' := (List.mem_singleton.1 hmem).symm
    rw [smallOf_eq_iff (by decide)] at hsmall
    rw [← eq_of_toLower (by decide) hsmall]
    exact hc

end Text
end ThermalPrint
