import ThermalPrint.Json.Reader

/-
How far the reader of JSON gets.  What has been read leaves the end of the text.  For something else
than its syntax a text is refused only where more digits follow one another than a whole number may
have, or where more brackets open than may lie inside of each other.
-/

namespace ThermalPrint
namespace Json

def isOpener (c : CodePoint) : Bool := c = '[' || c = '\x7b'

def openers (t : Text) : Nat := t.countP isOpener

/-- More digits follow one another than a whole number may have. -/
def HasLongRun (t : Text) : Prop :=
  ∃ run, run <:+: t ∧ (∀ c ∈ run, isDigit c = true) ∧ Text.digitLimit < run.length

/-- A text is read up to its end, or there is a reason in it not to, where so many brackets may
still open inside of each other. -/
def Accounted {α : Type} (depth : Nat) (t : Text) : Read α → Prop
  | .ok (_, rest) => rest <:+ t
  | .error (.syntaxAt ..) => True
  | .error (.number _) => HasLongRun t
  | .error (.tooDeep _) => depth < openers t

section Accounted

variable {α : Type} {depth : Nat} {t rest : Text} {r : Read α}

theorem openers_le (h : rest <:+ t) : openers rest ≤ openers t := h.sublist.countP_le

theorem Accounted.behind (h : Accounted depth rest r) (hrest : rest <:+ t) :
    Accounted depth t r := by
  rcases r with (_ | _ | _) | _
  · trivial
  · obtain ⟨run, hrun, hlong⟩ := h
    exact ⟨run, hrun.trans hrest.isInfix, hlong⟩
  · exact Nat.lt_of_lt_of_le h (openers_le hrest)
  · exact List.IsSuffix.trans h hrest

theorem Accounted.inside {c : CodePoint} (hc : isOpener c = true)
    (h : Accounted (depth - 1) rest r) (hrest : rest <:+ t) : Accounted depth (c :: t) r := by
  rcases r with (_ | _ | _) | _
  · trivial
  · obtain ⟨run, hrun, hlong⟩ := h
    exact ⟨run, (hrun.trans hrest.isInfix).trans (List.suffix_cons c t).isInfix, hlong⟩
  · have hopen : openers (c :: t) = openers t + 1 := List.countP_cons_of_pos hc
    have hle := openers_le hrest
    have hlt : depth - 1 < openers rest := h
    show depth < openers (c :: t)
    omega
  · exact (List.IsSuffix.trans h hrest).trans (List.suffix_cons c t)

theorem Accounted.next {β : Type} {r' : Read β} (h : Accounted depth t r)
    (herror : ∀ e, r = .error e → r' = .error e)
    (hok : ∀ a rest, r = .ok (a, rest) → Accounted depth rest r') : Accounted depth t r' := by
  rcases r with (_ | _ | _) | ⟨a, rest⟩
  · rw [herror _ rfl]
    trivial
  · rw [herror _ rfl]
    exact h
  · rw [herror _ rfl]
    exact h
  · exact (hok a rest rfl).behind h

theorem skip_suffix (t : Text) : skip t <:+ t := List.dropWhile_suffix _

theorem of_skip (h : skip t = rest) : rest <:+ t := h ▸ skip_suffix t

end Accounted

section Strings

theorem codeEscape_accounted (depth : Nat) (letter : Text) :
    Accounted depth letter (codeEscape letter) := by
  have hbody : (letter.drop 1).drop 4 <:+ letter :=
    (List.drop_suffix _ _).trans (List.drop_suffix _ _)
  unfold codeEscape
  dsimp only
  split
  · trivial
  · split
    · trivial
    · split
      · split
        · rename_i more hmore
          split
          · trivial
          · split
            · rw [hmore] at hbody
              exact (List.drop_suffix 4 more).trans
                (((List.suffix_cons _ _).trans (List.suffix_cons _ _)).trans hbody)
            · exact hbody
        · exact hbody
      · exact hbody

theorem stringBody_accounted (depth : Nat) (start : Text) (fuel : Nat) (done t : Text) :
    Accounted depth t (stringBody start fuel done t) := by
  induction fuel generalizing done t with
  | zero => trivial
  | succ fuel ih =>
    unfold stringBody
    split
    · trivial
    · exact List.suffix_cons _ _
    · trivial
    · rename_i c rest
      split
      · have hescape := (codeEscape_accounted depth (c :: rest)).behind
          (List.suffix_cons (.char '\\') _)
        refine hescape.next (fun e he => by rw [he]) fun d more hd => ?_
        rw [hd]
        exact ih _ more
      · split
        · exact (ih _ rest).behind ((List.suffix_cons _ _).trans (List.suffix_cons _ _))
        · trivial
    · split
      · trivial
      · exact (ih _ _).behind (List.suffix_cons _ _)

theorem readString_accounted (depth : Nat) (t : Text) : Accounted depth t (readString t) :=
  (stringBody_accounted depth t _ [] _).behind (List.drop_suffix 1 t)

end Strings

section Numbers

theorem readNumber_accounted (depth : Nat) (t : Text) : Accounted depth t (readNumber t) := by
  unfold readNumber
  extract_lets negative body whole rest fraction rest' n m
  have hbody : body <:+ t := by
    show (if negative then t.drop 1 else t) <:+ t
    split
    · exact List.drop_suffix 1 t
    · exact List.suffix_refl t
  clear_value body
  have hwhole : whole = [.char '0'] ∨ whole = body.takeWhile isDigit := by
    dsimp only [whole]
    split
    · exact .inl rfl
    · exact .inr rfl
  have hrest : rest' <:+ t := by
    have hfront : rest <:+ t := (List.drop_suffix whole.length body).trans hbody
    show (if fraction.isEmpty then rest else rest.drop (fraction.length + 1)) <:+ t
    split
    · exact hfront
    · exact (List.drop_suffix _ rest).trans hfront
  clear_value rest'
  split
  · trivial
  · split
    rename_i power last hlast
    have hlast : last <:+ t := by
      split at hlast
      · rename_i c after
        split at hlast
        · extract_lets sign ds power' at hlast
          clear_value sign
          split at hlast
          · cases hlast
            exact hrest
          · cases hlast
            exact (List.drop_suffix _ after).trans ((List.suffix_cons c after).trans hrest)
        · cases hlast
          exact hrest
      · cases hlast
        exact hrest
    split
    · split
      · rename_i hlong
        rcases hwhole with hzero | hdigits
        · rw [hzero] at hlong
          exact absurd hlong (by decide)
        · refine ⟨whole, ?_, ?_, hlong⟩
          · rw [hdigits]
            exact (List.takeWhile_prefix _).isInfix.trans hbody.isInfix
          · rw [hdigits]
            exact List.all_eq_true.1 List.all_takeWhile
      · exact hlast
    · exact hlast

end Numbers

section Values

theorem words_accounted {t rest : Text} {v : Json} (depth : Nat)
    (h : readWord? t = some (v, rest)) : Accounted depth t (.ok (v, rest)) := by
  obtain ⟨word, -, hword⟩ := Option.map_eq_some_iff.1 h
  cases hword
  exact List.drop_suffix _ t

/-- With so much fuel the same holds of values, of items and of members. -/
structure AccountedAt (fuel : Nat) : Prop where
  value : ∀ depth t, Accounted depth t (readValue fuel depth t)
  items : ∀ depth done t, Accounted depth t (readItems fuel depth done t)
  members : ∀ depth done t, Accounted depth t (readMembers fuel depth done t)

variable {fuel : Nat} (h : AccountedAt fuel) (depth : Nat)

include h

theorem readValue_next (t : Text) : Accounted depth t (readValue (fuel + 1) depth t) := by
  unfold readValue
  split
  · trivial
  · rename_i rest
    refine (readString_accounted depth (.char '"' :: rest)).next (fun e he => by rw [he])
      fun s more hs => ?_
    rw [hs]
    exact List.suffix_refl more
  · rename_i rest
    have hopen : openers (.char '[' :: rest) = openers rest + 1 := List.countP_cons_of_pos rfl
    split
    · show depth < openers (.char '[' :: rest)
      omega
    · split
      · rename_i after hafter
        exact ((List.suffix_cons (.char ']') after).trans (of_skip hafter)).trans
          (List.suffix_cons (.char '[') rest)
      · exact (h.items (depth - 1) [] _).inside rfl (skip_suffix rest)
  · rename_i rest
    have hopen : openers (.char '\x7b' :: rest) = openers rest + 1 := List.countP_cons_of_pos rfl
    split
    · show depth < openers (.char '\x7b' :: rest)
      omega
    · split
      · rename_i after hafter
        exact ((List.suffix_cons (.char '\x7d') after).trans (of_skip hafter)).trans
          (List.suffix_cons (.char '\x7b') rest)
      · exact (h.members (depth - 1) [] _).inside rfl (skip_suffix rest)
  · split
    · rename_i found hfound
      exact words_accounted depth hfound
    · exact readNumber_accounted depth t

theorem readItems_next (done : List Json) (t : Text) :
    Accounted depth t (readItems (fuel + 1) depth done t) := by
  unfold readItems
  refine (h.value depth t).next (fun e he => by rw [he]) fun v rest hv => ?_
  rw [hv]
  dsimp only
  split
  · rename_i after hafter
    exact (List.suffix_cons (.char ']') after).trans (of_skip hafter)
  · rename_i after hafter
    exact (h.items depth _ _).behind
      ((skip_suffix after).trans ((List.suffix_cons (.char ',') after).trans (of_skip hafter)))
  · trivial

theorem readMembers_next (done : List (Text × Json)) (t : Text) :
    Accounted depth t (readMembers (fuel + 1) depth done t) := by
  unfold readMembers
  split
  · rename_i rest
    refine (readString_accounted depth (.char '"' :: rest)).next (fun e he => by rw [he])
      fun name more hname => ?_
    rw [hname]
    dsimp only
    split
    · rename_i after hafter
      have hvalue := (h.value depth (skip after)).behind
        ((skip_suffix after).trans ((List.suffix_cons (.char ':') after).trans (of_skip hafter)))
      refine hvalue.next (fun e he => by rw [he]) fun v behind hv => ?_
      rw [hv]
      dsimp only
      split
      · rename_i last hlast
        exact (List.suffix_cons (.char '\x7d') last).trans (of_skip hlast)
      · rename_i last hlast
        exact (h.members depth _ _).behind
          ((skip_suffix last).trans ((List.suffix_cons (.char ',') last).trans (of_skip hlast)))
      · trivial
    · trivial
  · trivial

omit h

theorem accountedAt (fuel : Nat) : AccountedAt fuel := by
  induction fuel with
  | zero => exact ⟨fun _ _ => trivial, fun _ _ _ => trivial, fun _ _ _ => trivial⟩
  | succ fuel ih => exact ⟨readValue_next ih, readItems_next ih, readMembers_next ih⟩

end Values

/-- A text with few brackets and short numbers is refused for its syntax only. -/
theorem read_error {t : Text} {fault : ReadFault} (hrun : ¬ HasLongRun t)
    (hopen : openers t ≤ depthLimit) (h : read t = .error fault) :
    ∃ what rest, fault = .syntaxAt what rest := by
  unfold read at h
  split at h
  · cases h
    exact ⟨_, _, rfl⟩
  · unfold readPlain at h
    have haccounted := ((accountedAt (2 * t.length + 2)).value depthLimit (skip t)).behind
      (skip_suffix t)
    split at h
    · rename_i e he
      cases h
      rw [he] at haccounted
      cases fault with
      | syntaxAt what rest => exact ⟨what, rest, rfl⟩
      | number n => exact absurd haccounted hrun
      | tooDeep object => exact absurd hopen (Nat.not_le_of_lt haccounted)
    · split at h
      · cases h
      · cases h
        exact ⟨_, _, rfl⟩

end Json
end ThermalPrint
