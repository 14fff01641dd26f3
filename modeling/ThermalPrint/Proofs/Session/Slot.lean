import ThermalPrint.Proofs.Session.Scene

/-
The slot of a session.  Three things say who has it: a lock, the reservation that is kept as the
active one, and a flag of each reservation that says whether it has been given back.  They agree,
as long as no reservation is given back but those that the session has given out.
-/

namespace ThermalPrint
namespace Session

variable {τ : Type} {s s' : Session τ} {r r' : Reservation}

/-- The session has given out the reservation. -/
structure Knows (s : Session τ) (r : Reservation) : Prop where
  session : r.session = s.id
  given : r.serial < s.returned.length
  active : ∀ r', s.active = some r' → r'.serial = r.serial → r' = r

/-- The reservation of a number has been given back. -/
def Returned (s : Session τ) (n : Nat) : Prop := s.returned[n]? = some true

/-- A reservation that has been given out is out or has been given back. -/
theorem Knows.returned_iff (h : s.Knows r) : s.Returned r.serial ↔ ¬ s.Unreturned r.serial := by
  have hgiven := h.given
  unfold Returned Unreturned
  rw [List.getElem?_eq_getElem hgiven]
  cases s.returned[r.serial] <;> simp

/-- The lock, the active reservation and the flags agree. -/
structure Sound (s : Session τ) : Prop where
  locked : s.locked = s.active.isSome
  holds : ∀ r, s.active = some r → s.Holds r
  only : ∀ n, s.Unreturned n → ∃ r, s.active = some r ∧ r.serial = n

structure New (s : Session τ) : Prop where
  locked : s.locked = false
  active : s.active = none
  returned : s.returned = []

theorem New.sound (h : s.New) : s.Sound where
  locked := by rw [h.locked, h.active]; rfl
  holds r hr := by rw [h.active] at hr; cases hr
  only n hn := by
    unfold Unreturned at hn
    rw [h.returned] at hn
    cases hn

theorem Returned.of_slot {n : Nat} (h : s.Returned n) (hs : s'.slot = s.slot) :
    s'.Returned n := by
  obtain ⟨-, -, -, hreturned⟩ := Slot.mk.inj hs
  unfold Returned
  rw [hreturned]
  exact h

theorem Unreturned.of_slot {n : Nat} (h : s.Unreturned n) (hs : s'.slot = s.slot) :
    s'.Unreturned n := by
  obtain ⟨-, -, -, hreturned⟩ := Slot.mk.inj hs
  unfold Unreturned
  rw [hreturned]
  exact h

theorem Knows.of_slot (h : s.Knows r) (hs : s'.slot = s.slot) : s'.Knows r := by
  obtain ⟨hid, -, hactive, hreturned⟩ := Slot.mk.inj hs
  exact ⟨h.session.trans hid.symm, by rw [hreturned]; exact h.given,
    fun r' hr' => h.active r' (hactive ▸ hr')⟩

theorem Sound.of_slot (h : s.Sound) (hs : s'.slot = s.slot) : s'.Sound := by
  obtain ⟨-, hlocked, hactive, -⟩ := Slot.mk.inj hs
  refine ⟨?_, fun r hr => ?_, fun n hn => ?_⟩
  · rw [hlocked, hactive, h.locked]
  · exact holds_of_slot (h.holds r (hactive ▸ hr)) hs
  · rw [hactive]
    exact h.only n (hn.of_slot hs.symm)

namespace Sound

/-- The slot is taken exactly while a reservation is out. -/
theorem locked_iff (h : s.Sound) : s.locked = true ↔ ∃ n, s.Unreturned n := by
  rw [h.locked]
  constructor
  · intro hsome
    obtain ⟨r, hr⟩ := Option.isSome_iff_exists.1 hsome
    exact ⟨r.serial, (h.holds r hr).unreturned⟩
  · rintro ⟨n, hn⟩
    obtain ⟨r, hr, -⟩ := h.only n hn
    rw [hr]
    rfl

theorem busy_iff (h : s.Sound) : s.busy = true ↔ ∃ n, s.Unreturned n := by
  rw [← h.locked_iff, h.locked]
  rfl

/-- No two reservations are out. -/
theorem one (h : s.Sound) {m n : Nat} (hm : s.Unreturned m) (hn : s.Unreturned n) : m = n := by
  obtain ⟨r, hr, rfl⟩ := h.only m hm
  obtain ⟨r', hr', rfl⟩ := h.only n hn
  cases hr.symm.trans hr'
  rfl

/-- A reservation that is out is the active one. -/
theorem active_iff (h : s.Sound) (hr : s.Knows r) :
    s.active = some r ↔ s.Unreturned r.serial := by
  constructor
  · exact fun hactive => (h.holds r hactive).unreturned
  · intro hout
    obtain ⟨r', hr', hserial⟩ := h.only _ hout
    rw [hr', hr.active r' hr' hserial]

end Sound

section Reserve

variable {token : TokenId}

theorem reserve_error (h : s.locked = true) :
    s.reserve token =
      .error (.of .jobInProgress "another print job is in progress on this printer") := by
  unfold reserve
  rw [h]
  rfl

theorem reserve_ok (h : s.locked = false) : s.reserve token =
    .ok (⟨s.id, s.returned.length, token⟩, { s with
      locked := true
      active := some ⟨s.id, s.returned.length, token⟩
      returned := s.returned ++ [false] }) := by
  unfold reserve
  rw [h]
  rfl

theorem reserve_eq_ok (h : s.reserve token = .ok (r, s')) :
    s.locked = false ∧ r = ⟨s.id, s.returned.length, token⟩ ∧
      s' = { s with locked := true, active := some r, returned := s.returned ++ [false] } := by
  cases hlocked : s.locked with
  | true =>
    rw [reserve_error hlocked] at h
    cases h
  | false =>
    rw [reserve_ok hlocked] at h
    cases h
    exact ⟨rfl, rfl, rfl⟩

theorem Sound.none_of_unlocked (h : s.Sound) (hlocked : s.locked = false) (n : Nat) :
    ¬ s.Unreturned n := by
  intro hn
  have hlock := h.locked_iff.2 ⟨n, hn⟩
  rw [hlocked] at hlock
  cases hlock

theorem Sound.unreturned_reserve (h : s.Sound) (hr : s.reserve token = .ok (r, s')) (n : Nat) :
    s'.Unreturned n ↔ n = r.serial := by
  obtain ⟨hlocked, rfl, rfl⟩ := reserve_eq_ok hr
  have hnone := h.none_of_unlocked hlocked n
  show (s.returned ++ [false])[n]? = some false ↔ n = s.returned.length
  constructor
  · intro hn
    rcases Nat.lt_trichotomy n s.returned.length with hlt | heq | hgt
    · rw [List.getElem?_append_left hlt] at hn
      exact absurd hn hnone
    · exact heq
    · rw [List.getElem?_eq_none (by rw [List.length_append, List.length_singleton]; omega)] at hn
      cases hn
  · rintro rfl
    exact unreturned_next s.returned

theorem Sound.reserve (h : s.Sound) (hr : s.reserve token = .ok (r, s')) : s'.Sound := by
  have hout := h.unreturned_reserve hr
  obtain ⟨-, rfl, rfl⟩ := reserve_eq_ok hr
  refine ⟨rfl, fun r' hr' => ?_, fun n hn => ⟨_, rfl, ((hout n).1 hn).symm⟩⟩
  cases hr'
  exact ⟨rfl, rfl, (hout _).2 rfl⟩

theorem knows_reserved (hr : s.reserve token = .ok (r, s')) : s'.Knows r := by
  obtain ⟨-, rfl, rfl⟩ := reserve_eq_ok hr
  refine ⟨rfl, by simp, fun r' hr' _ => ?_⟩
  cases hr'
  rfl

theorem Knows.reserve (hr' : s.Knows r') (hr : s.reserve token = .ok (r, s')) : s'.Knows r' := by
  have hgiven := hr'.given
  obtain ⟨-, rfl, rfl⟩ := reserve_eq_ok hr
  refine ⟨hr'.session, ?_, fun r hr hserial => ?_⟩
  · show r'.serial < (s.returned ++ [false]).length
    rw [List.length_append]
    exact Nat.lt_add_right _ hgiven
  · cases hr
    have hnext : s.returned.length = r'.serial := hserial
    omega

/-- A new reservation comes behind all others. -/
theorem Knows.before (hr' : s.Knows r') (hr : s.reserve token = .ok (r, s')) :
    r'.serial < r.serial := by
  obtain ⟨-, rfl, -⟩ := reserve_eq_ok hr
  exact hr'.given

theorem Returned.reserve {n : Nat} (h : s.Returned n) (hr : s.reserve token = .ok (r, s')) :
    s'.Returned n := by
  obtain ⟨-, rfl, rfl⟩ := reserve_eq_ok hr
  show (s.returned ++ [false])[n]? = some true
  have hn : n < s.returned.length := (List.getElem?_eq_some_iff.1 h).1
  rw [List.getElem?_append_left hn]
  exact h

end Reserve

section Release

theorem release_again (h : ¬ s.Unreturned r.serial) : s.release r = s := if_neg h

/-- Behind a release the reservation is not out, and what is out beside it stays so. -/
theorem unreturned_release (n : Nat) :
    (s.release r).Unreturned n ↔ s.Unreturned n ∧ n ≠ r.serial := by
  by_cases hout : s.Unreturned r.serial
  · rw [release_unreturned hout]
    show (s.returned.set r.serial true)[n]? = some false ↔ _
    by_cases hn : n = r.serial
    · subst hn
      constructor
      · intro h
        rw [List.getElem?_set_self'] at h
        cases hold : s.returned[r.serial]? <;> simp [hold] at h
      · exact fun h => absurd rfl h.2
    · rw [List.getElem?_set_ne (Ne.symm hn)]
      exact ⟨fun h => ⟨h, hn⟩, And.left⟩
  · rw [release_again hout]
    refine ⟨fun h => ⟨h, ?_⟩, And.left⟩
    rintro rfl
    exact hout h

theorem Returned.release {n : Nat} (h : s.Returned n) (r : Reservation) :
    (s.release r).Returned n := by
  by_cases hout : s.Unreturned r.serial
  · rw [release_unreturned hout]
    show (s.returned.set r.serial true)[n]? = some true
    by_cases hn : r.serial = n
    · subst hn
      have hlt : r.serial < s.returned.length := (List.getElem?_eq_some_iff.1 h).1
      exact List.getElem?_set_self hlt
    · rw [List.getElem?_set_ne hn]
      exact h
  · rw [release_again hout]
    exact h

theorem Knows.release (hr' : s.Knows r') (r : Reservation) : (s.release r).Knows r' := by
  by_cases hout : s.Unreturned r.serial
  · rw [release_unreturned hout]
    refine ⟨hr'.session, ?_, fun r₁ hr₁ => hr'.active r₁ ?_⟩
    · show r'.serial < (s.returned.set r.serial true).length
      rw [List.length_set]
      exact hr'.given
    · have hactive : (if s.active = some r then none else s.active) = some r₁ := hr₁
      split at hactive
      · cases hactive
      · exact hactive
  · rw [release_again hout]
    exact hr'

theorem Sound.release_active (h : s.Sound) (hr : s.Knows r) (hout : s.Unreturned r.serial) :
    (s.release r).active = none ∧ (s.release r).locked = false := by
  have hactive := (h.active_iff hr).2 hout
  exact release_free (h.holds r hactive)

theorem Sound.release (h : s.Sound) (hr : s.Knows r) : (s.release r).Sound := by
  by_cases hout : s.Unreturned r.serial
  · obtain ⟨hactive, hlocked⟩ := h.release_active hr hout
    refine ⟨?_, fun r' hr' => ?_, fun n hn => ?_⟩
    · rw [hactive, hlocked]
      rfl
    · rw [hactive] at hr'
      cases hr'
    · obtain ⟨hn, hne⟩ := (unreturned_release n).1 hn
      exact absurd (h.one hn hout) hne
  · rw [release_again hout]
    exact h

end Release

end Session
end ThermalPrint
