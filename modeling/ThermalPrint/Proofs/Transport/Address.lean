import Mathlib.Data.List.Basic
import Mathlib.Data.Option.Basic
import ThermalPrint.Proofs.Text.Blank
import ThermalPrint.Proofs.Text.Capital
import ThermalPrint.Proofs.Text.Hex
import ThermalPrint.Proofs.Text.Split
import ThermalPrint.Transport.Address

/-
The parts of an address: hardware addresses in capitals, the names of hosts, and the bounds of
their numbers.
-/

namespace ThermalPrint
namespace Address

def IsCapitalDigit (c : CodePoint) : Prop :=
  48 ≤ c.toNat ∧ c.toNat ≤ 57 ∨ 65 ≤ c.toNat ∧ c.toNat ≤ 70

instance (c : CodePoint) : Decidable (IsCapitalDigit c) := inferInstanceAs (Decidable (_ ∨ _))

/-- Six pairs of digits with colons between them. -/
def IsCapitalMac (mac : Text) : Prop :=
  ∃ pairs : List (CodePoint × CodePoint), pairs.length = 6 ∧
    (∀ p ∈ pairs, IsCapitalDigit p.1 ∧ IsCapitalDigit p.2) ∧
    mac = [.char ':'].intercalate (pairs.map fun p => [p.1, p.2])

/-- What may stand between two dots of a host name. -/
structure IsHostPart (part : Text) : Prop where
  filled : 0 < part.length
  short : part.length ≤ 63
  letters : ∀ c ∈ part, c.is Char.isAlphanum = true ∨ c = '-'
  begins : part.head? ≠ some (.char '-')
  ends : part.getLast? ≠ some (.char '-')

/-- Parts with dots between them, and as many dots behind the last one. -/
structure IsHost (dots : Nat) (host : Text) : Prop where
  short : host.length ≤ 253
  parted : ∃ parts : List Text, parts ≠ [] ∧ (∀ p ∈ parts, IsHostPart p) ∧
    host = [.char '.'].intercalate parts ++ List.replicate dots (.char '.')

/-- All parts of an address are such as devices take them, with so many dots at the end of a
host. -/
inductive Fits (dots : Nat) : Address → Prop
  | rfcomm {mac : Text} {channel : Nat} (hmac : IsCapitalMac mac) (hlow : 1 ≤ channel)
      (hhigh : channel ≤ 30) : Fits dots (.rfcomm mac channel)
  | serial {port : Text} {baud : Nat} (hport : port ≠ []) (hbaud : 1 ≤ baud) :
    Fits dots (.serial port baud)
  | tcp {host : Text} {port : Nat} (hhost : IsHost dots host) (hlow : 1 ≤ port)
      (hhigh : port ≤ 65535) : Fits dots (.tcp host port)

/-- An address that devices can be asked for; one dot may end the name of a host. -/
def Usable (a : Address) : Prop := ∃ dots ≤ 1, a.Fits dots

section Mac

theorem capital_toUpper : ∀ c ∈ "0123456789ABCDEFabcdef".toText, IsCapitalDigit c.toUpper := by
  have h : ("0123456789ABCDEFabcdef".toText.all fun c => decide (IsCapitalDigit c.toUpper)) =
      true := by
    decide
  exact fun c hc => of_decide_eq_true (List.all_eq_true.1 h c hc)

theorem upperOf_digit {c : CodePoint} (h : (Text.hexValue? c).isSome = true) :
    ∃ d, Text.upperOf c = [d] ∧ IsCapitalDigit d := by
  obtain ⟨n, hn⟩ := Option.isSome_iff_exists.1 h
  obtain ⟨hdigit, hlt, hlower⟩ := Text.hexValue?_eq_some hn
  exact ⟨c.toUpper, Text.upperOf_ascii (Text.hexDigit_ascii hlt hlower), capital_toUpper c hdigit⟩

/-- Pairs of digits with colons between them are such pairs in capitals, too. -/
theorem upper_pairs (count place : Nat) {t : Text} (hlength : t.length = 3 * count + 2)
    (hplace : place % 3 = 0)
    (h : ∀ p ∈ t.zipIdx place,
      (if p.2 % 3 = 2 then decide (p.1 = ':') else (Text.hexValue? p.1).isSome) = true) :
    ∃ pairs : List (CodePoint × CodePoint), pairs.length = count + 1 ∧
      (∀ p ∈ pairs, IsCapitalDigit p.1 ∧ IsCapitalDigit p.2) ∧
      Text.upper t = [.char ':'].intercalate (pairs.map fun p => [p.1, p.2]) := by
  induction count generalizing t place with
  | zero =>
    obtain ⟨a, b, rfl⟩ := List.length_eq_two.1 hlength
    have ha := h (a, place) (by simp)
    have hb := h (b, place + 1) (by simp)
    rw [if_neg (by dsimp only; omega)] at ha hb
    obtain ⟨c, hc, hcapital⟩ := upperOf_digit ha
    obtain ⟨d, hd, hcapital'⟩ := upperOf_digit hb
    refine ⟨[(c, d)], rfl, by simp [hcapital, hcapital'], ?_⟩
    simp [Text.upper, hc, hd]
  | succ count ih =>
    obtain ⟨a, t, rfl⟩ := List.exists_cons_of_length_eq_add_one hlength
    obtain ⟨b, t, rfl⟩ := List.exists_cons_of_length_eq_add_one (Nat.succ.inj hlength)
    obtain ⟨colon, rest, rfl⟩ :=
      List.exists_cons_of_length_eq_add_one (Nat.succ.inj (Nat.succ.inj hlength))
    have ha := h (a, place) (by simp)
    have hb := h (b, place + 1) (by simp)
    have hcolon := h (colon, place + 2) (by simp)
    rw [if_neg (by dsimp only; omega)] at ha hb
    rw [if_pos (by dsimp only; omega), decide_eq_true_eq] at hcolon
    obtain ⟨c, hc, hcapital⟩ := upperOf_digit ha
    obtain ⟨d, hd, hcapital'⟩ := upperOf_digit hb
    have hrest : rest.length = 3 * count + 2 := by
      simp only [List.length_cons] at hlength
      omega
    obtain ⟨pairs, hpairs, hall, hupper⟩ := ih (place + 3) hrest (by omega)
      fun p hp => h p (by simp [hp])
    have hne : pairs.map (fun p => [p.1, p.2]) ≠ [] := by
      intro hnil
      rw [List.map_eq_nil_iff.1 hnil] at hpairs
      cases hpairs
    have hsign : Text.upperOf colon = [.char ':'] := by
      rw [show colon = ':' from hcolon]
      decide
    refine ⟨(c, d) :: pairs, by rw [List.length_cons, hpairs], ?_, ?_⟩
    · exact List.forall_mem_cons.2 ⟨⟨hcapital, hcapital'⟩, hall⟩
    · rw [List.map_cons, List.intercalate_cons_of_ne_nil hne, ← hupper]
      simp [Text.upper, hc, hd, hsign]

theorem isMac_upper {t : Text} (h : isMac t = true) : IsCapitalMac (Text.upper t) := by
  simp only [isMac, Bool.and_eq_true, decide_eq_true_eq, List.all_eq_true] at h
  exact upper_pairs 5 0 h.1 rfl h.2

theorem IsCapitalDigit.spec {c : CodePoint} (h : IsCapitalDigit c) :
    (Text.hexValue? c).isSome = true ∧ Text.upperOf c = [c] ∧ Text.isBlankChar c = false := by
  have hlow : c.toNat < 71 := by
    unfold IsCapitalDigit at h
    omega
  revert h
  exact CodePoint.of_forall_lt c hlow (by decide)

theorem pairs_joined {pairs : List (CodePoint × CodePoint)} (count place : Nat)
    (hlength : pairs.length = count + 1) (hplace : place % 3 = 0)
    (hall : ∀ p ∈ pairs, IsCapitalDigit p.1 ∧ IsCapitalDigit p.2) :
    let t := [.char ':'].intercalate (pairs.map fun p => [p.1, p.2])
    t.length = 3 * count + 2 ∧ Text.upper t = t ∧
      ∀ p ∈ t.zipIdx place,
        (if p.2 % 3 = 2 then decide (p.1 = ':') else (Text.hexValue? p.1).isSome) = true := by
  induction pairs generalizing count place with
  | nil => cases hlength
  | cons pair rest ih =>
    obtain ⟨⟨hfirst, hsecond⟩, hrest⟩ := List.forall_mem_cons.1 hall
    obtain ⟨hvalue, hupper, -⟩ := hfirst.spec
    obtain ⟨hvalue', hupper', -⟩ := hsecond.spec
    cases rest with
    | nil =>
      cases hlength
      rw [List.map_singleton, List.intercalate_singleton]
      refine ⟨rfl, by simp [Text.upper, hupper, hupper'], ?_⟩
      simp [hvalue, hvalue', show ¬ place % 3 = 2 by omega, show ¬ (place + 1) % 3 = 2 by omega]
    | cons next more =>
      obtain ⟨hmore, hsame, hplaces⟩ := ih more.length (place + 3) rfl
        (by omega) hrest
      rw [List.map_cons, List.intercalate_cons_of_ne_nil (by simp)]
      generalize [.char ':'].intercalate ((next :: more).map fun p => [p.1, p.2]) = t at *
      have hsign : Text.upperOf ':' = [.char ':'] := by decide
      refine ⟨?_, ?_, ?_⟩
      · simp only [List.length_cons] at hlength
        simp only [List.length_append, List.length_cons, List.length_nil, hmore]
        omega
      · rw [Text.upper, List.flatMap_append, List.flatMap_append]
        show _ ++ _ ++ Text.upper t = _
        rw [hsame]
        simp [hupper, hupper', hsign]
      · intro p hp
        simp only [List.cons_append, List.nil_append, List.zipIdx_cons, List.mem_cons] at hp
        rcases hp with rfl | rfl | rfl | hp
        · rw [if_neg (by dsimp only; omega)]
          exact hvalue
        · rw [if_neg (by dsimp only; omega)]
          exact hvalue'
        · rw [if_pos (by dsimp only; omega)]
          rfl
        · exact hplaces p hp

theorem IsCapitalMac.isMac {mac : Text} (h : IsCapitalMac mac) :
    isMac mac = true ∧ Text.upper mac = mac := by
  obtain ⟨pairs, hlength, hall, rfl⟩ := h
  obtain ⟨hcount, hsame, hplaces⟩ := pairs_joined 5 0 hlength rfl hall
  refine ⟨?_, hsame⟩
  simp only [Address.isMac, Bool.and_eq_true, decide_eq_true_eq, List.all_eq_true]
  exact ⟨hcount, hplaces⟩

end Mac

section Host

theorem isLabel_iff {t : Text} : isLabel t = true ↔ IsHostPart t := by
  simp only [isLabel, Bool.and_eq_true, Bool.not_eq_true', List.isEmpty_eq_false_iff,
    decide_eq_true_eq, List.all_eq_true, Bool.or_eq_true, bne_iff_ne]
  constructor
  · rintro ⟨⟨⟨⟨hfilled, hshort⟩, hletters⟩, hbegins⟩, hends⟩
    exact ⟨List.length_pos_iff.2 hfilled, hshort, hletters, hbegins, hends⟩
  · rintro ⟨hfilled, hshort, hletters, hbegins, hends⟩
    exact ⟨⟨⟨⟨List.length_pos_iff.1 hfilled, hshort⟩, hletters⟩, hbegins⟩, hends⟩

theorem IsHostPart.no_dot {part : Text} (h : IsHostPart part) : .char '.' ∉ part := by
  intro hdot
  rcases h.letters _ hdot with halphanum | hhyphen
  · cases halphanum
  · cases hhyphen

variable {parts : List Text} (hne : parts ≠ []) (hparts : ∀ p ∈ parts, IsHostPart p)

include hne hparts

theorem join_last :
    ∃ front c, [CodePoint.char '.'].intercalate parts = front ++ [c] ∧ c ≠ .char '.' := by
  induction parts with
  | nil => exact absurd rfl hne
  | cons part rest ih =>
    by_cases hrest : rest = []
    · subst hrest
      have hpart := hparts part List.mem_cons_self
      obtain ⟨front, c, rfl⟩ := (List.eq_nil_or_concat part).resolve_left
        (List.length_pos_iff.1 hpart.filled)
      rw [List.concat_eq_append] at hpart ⊢
      refine ⟨front, c, List.intercalate_singleton, ?_⟩
      rintro rfl
      exact hpart.no_dot (List.mem_append_right _ (List.mem_singleton.2 rfl))
    · obtain ⟨front, c, hjoin, hc⟩ := ih hrest fun p hp => hparts p (List.mem_cons_of_mem _ hp)
      refine ⟨part ++ [.char '.'] ++ front, c, ?_, hc⟩
      rw [List.intercalate_cons_of_ne_nil hrest, hjoin, List.append_assoc _ front]

theorem stem_join (dots : Nat) :
    ([CodePoint.char '.'].intercalate parts ++
      List.replicate dots (CodePoint.char '.')).reverse.dropWhile (· = CodePoint.char '.') =
        ([CodePoint.char '.'].intercalate parts).reverse := by
  obtain ⟨front, c, hjoin, hc⟩ := join_last hne hparts
  have hdots : ∀ d ∈ List.replicate dots (CodePoint.char '.'), decide (d = '.') = true :=
    fun d hd => decide_eq_true (List.eq_of_mem_replicate hd)
  rw [List.reverse_append, List.reverse_replicate, List.dropWhile_append_of_pos hdots, hjoin,
    List.reverse_append]
  exact List.dropWhile_cons_of_neg (by simp [hc])

omit hne hparts

/-- How many dots end a host can be told from its characters. -/
theorem IsHost.dots_eq {dots : Nat} {host : Text} (h : IsHost dots host) :
    host.length = (host.reverse.dropWhile (· = CodePoint.char '.')).length + dots := by
  obtain ⟨-, parts, hne, hparts, rfl⟩ := h
  rw [stem_join hne hparts, List.length_append, List.length_replicate, List.length_reverse]

theorem isHostName_iff {host : Text} : isHostName host = true ↔ ∃ dots, IsHost dots host := by
  simp only [isHostName, Bool.and_eq_true, decide_eq_true_eq, List.all_eq_true]
  constructor
  · rintro ⟨hshort, hall⟩
    let stem := (host.reverse.dropWhile (· = CodePoint.char '.')).reverse
    have hdots : host.reverse.takeWhile (· = CodePoint.char '.') =
        List.replicate (host.reverse.takeWhile (· = CodePoint.char '.')).length (.char '.') :=
      List.eq_replicate_of_mem fun c hc =>
        of_decide_eq_true (List.all_eq_true.1 List.all_takeWhile c hc)
    refine ⟨(host.reverse.takeWhile (· = CodePoint.char '.')).length, hshort, Text.splitOn '.' stem,
      Text.splitOn_ne_nil _ _, fun p hp => isLabel_iff.1 (hall p hp), ?_⟩
    calc host
        = host.reverse.reverse := (List.reverse_reverse host).symm
      _ = (host.reverse.takeWhile (· = CodePoint.char '.') ++
          host.reverse.dropWhile (· = CodePoint.char '.')).reverse := by
          rw [List.takeWhile_append_dropWhile]
      _ = stem ++ (host.reverse.takeWhile (· = CodePoint.char '.')).reverse := List.reverse_append
      _ = [CodePoint.char '.'].intercalate (Text.splitOn '.' stem) ++
          List.replicate (host.reverse.takeWhile (· = CodePoint.char '.')).length (.char '.') := by
          rw [Text.intercalate_splitOn, hdots, List.reverse_replicate, List.length_replicate]
  · rintro ⟨dots, hshort, parts, hne, hparts, rfl⟩
    refine ⟨hshort, fun p hp => isLabel_iff.2 (hparts p ?_)⟩
    rw [stem_join hne hparts, List.reverse_reverse,
      Text.splitOn_intercalate hne fun p hp => (hparts p hp).no_dot] at hp
    exact hp

end Host

end Address
end ThermalPrint
