import Mathlib.Data.Option.Basic
import ThermalPrint.Proofs.Decimal.Whole
import ThermalPrint.Proofs.Transport.Address
import ThermalPrint.Transport.Device

/-
Addresses that devices can be asked for.  Whatever text is read as one, its numbers are within the
bounds that devices have and its names are well formed, up to the dots at the end of a host, of
which there may be too many.  Every such address is read from the text that writes it out.
-/

namespace ThermalPrint
namespace Address

section Read

variable {t : Text} {a : Address}

theorem readRfcomm?_fits (h : readRfcomm? t = some (.ok a)) : ∃ dots, a.Fits dots := by
  unfold readRfcomm? at h
  extract_lets mac channel at h
  split at h
  · rename_i n hmac _
    split at h
    · rename_i hrange
      cases h
      exact ⟨0, .rfcomm (isMac_upper hmac) hrange.1 hrange.2⟩
    · cases h
  · cases h

theorem readSerial?_fits (h : readSerial? t = some (.ok a)) : ∃ dots, a.Fits dots := by
  unfold readSerial? at h
  extract_lets label body port baud at h
  clear_value port baud
  split at h
  · split at h
    · cases h
    · cases h
    · rename_i hfilled
      split at h
      · rename_i hbaud
        cases h
        exact ⟨0, .serial (fun hempty => hfilled hempty) hbaud⟩
      · cases h
  · cases h

theorem readPort?_fits (h : readPort? t = some (.ok a)) : ∃ dots, a.Fits dots := by
  unfold readPort? at h
  extract_lets numbered at h
  obtain ⟨hnamed, hport⟩ := Option.ite_none_right_eq_some.1 h
  cases hport
  refine ⟨0, .serial ?_ (by decide)⟩
  rintro rfl
  exact absurd hnamed (by decide)

theorem readTcp?_fits (h : readTcp? t = some (.ok a)) : ∃ dots, a.Fits dots := by
  unfold readTcp? at h
  extract_lets protocol named body host port at h
  clear_value host port
  split at h
  · cases h
  · cases h
  · split at h
    · cases h
    · rename_i hname
      split at h
      · rename_i hrange
        cases h
        obtain ⟨dots, hhost⟩ := isHostName_iff.1 (by simpa using hname)
        exact ⟨dots, .tcp hhost hrange.1 hrange.2⟩
      · cases h

theorem read_fits {address : Option Text} (h : read address = .ok a) : ∃ dots, a.Fits dots := by
  unfold read at h
  extract_lets t at h
  split at h
  · rename_i result hread
    subst h
    -- one of the readers has read it, those before it having read nothing
    rcases (Option.orElse_eq_some _ _ _).1 hread with hrfcomm | ⟨-, hread⟩
    · exact readRfcomm?_fits hrfcomm
    rcases (Option.orElse_eq_some _ _ _).1 hread with hserial | ⟨-, hread⟩
    · exact readSerial?_fits hserial
    rcases (Option.orElse_eq_some _ _ _).1 hread with hport | ⟨-, htcp⟩
    · exact readPort?_fits hport
    · exact readTcp?_fits htcp
  · cases h

end Read

section Written

/-- An address with all its parts written out. -/
def written : Address → Text
  | rfcomm mac channel => mac ++ .char '/' :: Decimal.digits channel
  | serial port baud => "serial:".toText ++ port ++ .char '@' :: Decimal.digits baud
  | tcp host port => "tcp://".toText ++ host ++ .char ':' :: Decimal.digits port

theorem written_rfcomm (mac : Text) (channel : Nat) :
    written (.rfcomm mac channel) = mac ++ .char '/' :: Decimal.digits channel := rfl

theorem written_serial (port : Text) (baud : Nat) :
    written (.serial port baud) =
      "serial:".toText ++ port ++ .char '@' :: Decimal.digits baud := rfl

theorem written_tcp (host : Text) (port : Nat) :
    written (.tcp host port) = "tcp://".toText ++ host ++ .char ':' :: Decimal.digits port := rfl

theorem number?_digits {limit n : Nat} (hpos : 0 < limit) (h : n < 10 ^ limit) :
    number? limit (Decimal.digits n) = some n := by
  have hfold : ∀ l : List Char, (∀ c ∈ l, 48 ≤ c.toNat ∧ c.toNat ≤ 57) → ∀ value,
      (l.map CodePoint.char).foldl
        (fun n c => n.bind fun n => (Text.digitValue? c).map (10 * n + ·)) (some value) =
          some (Nat.ofDigitChars 10 l value) := by
    intro l
    induction l with
    | nil => exact fun _ _ => rfl
    | cons c rest ih =>
      intro hall value
      have hc : Text.digitValue? (.char c) = some (c.toNat - 48) :=
        Text.digitValue?_digit (hall c List.mem_cons_self)
      rw [List.map_cons, List.foldl_cons, Option.bind_some, hc, Nat.ofDigitChars_cons]
      exact ih (fun d hd => hall d (List.mem_cons_of_mem c hd)) _
  have hshort := (Decimal.digits_length_le_iff hpos).2 h
  have hfilled := Decimal.digits_ne_nil n
  unfold number?
  rw [if_neg]
  · rw [Decimal.digits_eq, hfold _ (Decimal.toDigits_range n) 0,
      Nat.ofDigitChars_toDigits (by decide) (by decide)]
  · simp only [Bool.or_eq_true, List.isEmpty_iff, decide_eq_true_eq, not_or, Nat.not_lt]
    exact ⟨hfilled, hshort⟩

theorem trim_written {c : CodePoint} (hc : Text.isBlankChar c = false) (t : Text) (n : Nat) :
    Text.trim (c :: t ++ Decimal.digits n) = c :: t ++ Decimal.digits n := by
  obtain ⟨front, d, hdigits⟩ := (List.eq_nil_or_concat (Decimal.digits n)).resolve_left
    (Decimal.digits_ne_nil n)
  rw [List.concat_eq_append] at hdigits
  have hd : d ∈ Decimal.digits n := hdigits ▸ List.mem_append_right _ (List.mem_singleton.2 rfl)
  have hlast : Text.isBlankChar d = false := by
    refine Decimal.ofInt_unblank (n := n) ?_
    rw [Decimal.ofInt, if_neg (by omega)]
    exact hd
  rw [hdigits, ← List.append_assoc]
  exact Text.trim_of_ends hc hlast (t ++ front)

theorem isMac_cons {c : CodePoint} (h : Text.hexValue? c = none) (t : Text) :
    isMac (c :: t) = false := by
  simp [isMac, h]

section Rfcomm

theorem blank_digit : ∀ c ∈ "0123456789ABCDEFabcdef".toText, Text.isBlankChar c = false := by
  have h : ("0123456789ABCDEFabcdef".toText.all fun c => decide (Text.isBlankChar c = false)) =
      true := by
    decide
  exact fun c hc => of_decide_eq_true (List.all_eq_true.1 h c hc)

theorem read_rfcomm {mac : Text} {channel : Nat} (hmac : IsCapitalMac mac) (hlow : 1 ≤ channel)
    (hhigh : channel ≤ 30) :
    read (some (written (.rfcomm mac channel))) = .ok (.rfcomm mac channel) := by
  obtain ⟨hmac, hsame⟩ := hmac.isMac
  have hplaced := hmac
  simp only [Address.isMac, Bool.and_eq_true, decide_eq_true_eq, List.all_eq_true] at hplaced
  obtain ⟨c, rest, rfl⟩ := List.exists_cons_of_length_eq_add_one hplaced.1
  have hc : Text.isBlankChar c = false := by
    obtain ⟨n, hn⟩ := Option.isSome_iff_exists.1 (hplaced.2 (c, 0) (by simp))
    exact blank_digit c (Text.hexValue?_eq_some hn).1
  have htrim : Text.trim (c :: rest ++ .char '/' :: Decimal.digits channel) =
      c :: rest ++ .char '/' :: Decimal.digits channel := by
    have h := trim_written hc (rest ++ [.char '/']) channel
    rwa [← List.cons_append, List.append_assoc] at h
  have htake : (c :: rest ++ .char '/' :: Decimal.digits channel).take 17 = c :: rest := by
    rw [← hplaced.1]
    exact List.take_left ..
  have hdrop : (c :: rest ++ .char '/' :: Decimal.digits channel).drop 17 =
      .char '/' :: Decimal.digits channel := by
    rw [← hplaced.1]
    exact List.drop_left ..
  have hread : readRfcomm? (c :: rest ++ .char '/' :: Decimal.digits channel) =
      some (.ok (.rfcomm (c :: rest) channel)) := by
    have hnumber : number? 3 (Decimal.digits channel) = some channel :=
      number?_digits (by decide) (by omega)
    unfold readRfcomm?
    rw [htake, hdrop]
    simp only [hmac, hsame, hnumber]
    rw [if_pos ⟨hlow, hhigh⟩]
  unfold read
  dsimp only
  rw [written_rfcomm, Option.getD_some, htrim, hread]
  rfl

end Rfcomm

theorem readRfcomm?_none {c : CodePoint} (h : Text.hexValue? c = none) (t : Text) :
    readRfcomm? (c :: t) = none := by
  unfold readRfcomm?
  dsimp only
  rw [List.take_succ_cons, isMac_cons h]

theorem read_serial {port : Text} {baud : Nat} (hport : port ≠ []) (hat : .char '@' ∉ port)
    (hlow : 1 ≤ baud) (hhigh : baud < 10 ^ 7) :
    read (some (written (.serial port baud))) = .ok (.serial port baud) := by
  have htrim := trim_written (c := 's') (by decide) ("erial:".toText ++ port ++ [.char '@']) baud
  have hwritten : .char 's' :: ("erial:".toText ++ port ++ [.char '@']) ++ Decimal.digits baud =
      written (.serial port baud) := by
    rw [← List.cons_append, List.append_assoc]
    rfl
  have hread : readSerial? (written (.serial port baud)) = some (.ok (.serial port baud)) := by
    have hlabel : "serial:".toText.isPrefixOf (written (.serial port baud)) = true := by
      rw [List.isPrefixOf_iff_prefix, written_serial, List.append_assoc]
      exact List.prefix_append ..
    have hbody : (written (.serial port baud)).drop "serial:".toText.length =
        port ++ .char '@' :: Decimal.digits baud := by
      rw [written_serial, List.append_assoc]
      exact List.drop_left ..
    have htake : (port ++ .char '@' :: Decimal.digits baud).takeWhile
        (fun c : CodePoint => decide (c ≠ '@')) = port := by
      have hfront : ∀ c ∈ port, decide (c ≠ '@') = true :=
        fun c hc => decide_eq_true fun h => hat (h ▸ hc)
      rw [List.takeWhile_append_of_pos hfront, List.takeWhile_cons_of_neg (by decide),
        List.append_nil]
    unfold readSerial?
    dsimp only
    rw [if_pos hlabel, hbody, htake, List.drop_left]
    dsimp only
    rw [number?_digits (by decide) hhigh]
    split
    · exact absurd rfl hport
    · rename_i hnone
      cases hnone
    · rename_i n _ hsome
      cases hsome
      rw [if_pos (show 0 < baud from hlow)]
  unfold read
  dsimp only
  rw [hwritten] at htrim
  rw [Option.getD_some, htrim, hread, ← hwritten, List.cons_append, readRfcomm?_none (by decide)]
  rfl

section Tcp

variable {dots : Nat} {host : Text}

/-- A colon ends a host, and nothing in it does. -/
theorem IsHost.chars (h : IsHost dots host) : ∀ c ∈ host, isHostChar c = true := by
  have hspec : ∀ c : CodePoint, c.is Char.isAlphanum = true ∨ c = '-' ∨ c = '.' →
      isHostChar c = true := by
    intro c hc
    have hlow : c.toNat < 128 := by
      rcases hc with halphanum | rfl | rfl
      · exact Text.alphanum_ascii halphanum
      · decide
      · decide
    revert hc
    exact CodePoint.of_forall_lt c hlow (by decide)
  obtain ⟨-, parts, -, hparts, rfl⟩ := h
  intro c hc
  rcases List.mem_append.1 hc with hjoin | hdots
  · rcases Text.mem_intercalate hjoin with hdot | ⟨part, hpart, hmem⟩
    · exact hspec c (.inr (.inr (List.mem_singleton.1 hdot)))
    · exact hspec c (((hparts part hpart).letters c hmem).imp_right .inl)
  · exact hspec c (.inr (.inr (List.eq_of_mem_replicate hdots)))

theorem IsHost.filled (h : IsHost dots host) : host ≠ [] := by
  obtain ⟨-, parts, hne, hparts, rfl⟩ := h
  obtain ⟨front, c, hjoin, -⟩ := join_last hne hparts
  rw [hjoin]
  simp

theorem read_tcp {port : Nat} (hhost : IsHost dots host) (hlow : 1 ≤ port) (hhigh : port ≤ 65535) :
    read (some (written (.tcp host port))) = .ok (.tcp host port) := by
  have htrim := trim_written (c := 't') (by decide) ("cp://".toText ++ host ++ [.char ':']) port
  have hwritten : .char 't' :: ("cp://".toText ++ host ++ [.char ':']) ++ Decimal.digits port =
      written (.tcp host port) := by
    rw [← List.cons_append, List.append_assoc]
    rfl
  have hread : readTcp? (written (.tcp host port)) = some (.ok (.tcp host port)) := by
    have hprotocol : "tcp://".toText.isPrefixOf (written (.tcp host port)) = true := by
      rw [List.isPrefixOf_iff_prefix, written_tcp, List.append_assoc]
      exact List.prefix_append ..
    have hbody : (written (.tcp host port)).drop "tcp://".toText.length =
        host ++ .char ':' :: Decimal.digits port := by
      rw [written_tcp, List.append_assoc]
      exact List.drop_left ..
    have htake : (host ++ .char ':' :: Decimal.digits port).takeWhile isHostChar = host := by
      rw [List.takeWhile_append_of_pos hhost.chars, List.takeWhile_cons_of_neg (by decide),
        List.append_nil]
    have hnumber : number? 5 (Decimal.digits port) = some port :=
      number?_digits (by decide) (by omega)
    have hname : isHostName host = true := isHostName_iff.2 ⟨dots, hhost⟩
    unfold readTcp?
    dsimp only
    rw [if_pos hprotocol, hbody, htake, List.drop_left]
    simp only [hnumber]
    split
    · exact absurd rfl hhost.filled
    · rename_i hnone
      cases hnone
    · rename_i n _ hsome
      cases hsome
      rw [hname, if_neg (by decide), if_pos ⟨hlow, hhigh⟩]
  have hserial : readSerial? (written (.tcp host port)) = none := rfl
  have hport : readPort? (written (.tcp host port)) = none := rfl
  unfold read
  dsimp only
  rw [hwritten] at htrim
  rw [Option.getD_some, htrim, hread, hserial, hport, ← hwritten, List.cons_append,
    readRfcomm?_none (by decide)]
  rfl

end Tcp
end Written

/-- How many dots end the name of a host decides whether the address can be used. -/
theorem usable_iff {dots : Nat} {host : Text} {port : Nat} (h : (Address.tcp host port).Fits dots) :
    (Address.tcp host port).Usable ↔ dots ≤ 1 := by
  cases h with
  | tcp hhost hlow hhigh =>
    constructor
    · rintro ⟨dots', hdots', ⟨⟩⟩
      rename_i hhost' _ _
      have h := hhost.dots_eq
      have h' := hhost'.dots_eq
      omega
    · exact fun hdots => ⟨dots, hdots, .tcp hhost hlow hhigh⟩

end Address

/-- Devices that do the same where they are asked for something that is within their bounds. -/
structure Devices.Alike {m : Type → Type} {δ : Type} (devices others : Devices m δ) : Prop where
  openNetwork : ∀ host port seconds, (Address.tcp host port).Usable →
    devices.openNetwork host port seconds = others.openNetwork host port seconds
  openSerial : ∀ port baud seconds, (Address.serial port baud).Usable →
    devices.openSerial port baud seconds = others.openSerial port baud seconds
  connect : ∀ device mac channel, (Address.rfcomm mac channel).Usable →
    devices.connect device mac channel = others.connect device mac channel
  socket : devices.socket = others.socket
  limit : devices.limit = others.limit
  close : devices.close = others.close

namespace Transport

/-- What devices do with what is out of their bounds has no bearing on an address that can be
used. -/
theorem openAt_alike {m : Type → Type} [Monad m] {δ : Type} {devices others : Devices m δ}
    (h : devices.Alike others) {address : Option Text}
    (husable : ∀ a, Address.read address = .ok a → a.Usable) (seconds : Option Float) :
    openAt devices address seconds = openAt others address seconds := by
  unfold openAt
  cases hread : Address.read address with
  | error fault => rfl
  | ok a =>
    have ha := husable a hread
    cases a with
    | rfcomm mac channel =>
      show openRfcomm devices mac channel seconds = openRfcomm others mac channel seconds
      unfold openRfcomm
      rw [h.socket, h.limit, h.close]
      simp only [h.connect _ mac channel ha]
    | serial port baud =>
      show openSerial devices port baud seconds = openSerial others port baud seconds
      unfold openSerial
      rw [h.openSerial port baud seconds ha]
    | tcp host port =>
      show openNetwork devices host port seconds = openNetwork others host port seconds
      unfold openNetwork
      rw [h.openNetwork host port seconds ha]

end Transport

namespace Address

/-- A text is read as an address that can be used, or it is refused, unless it names a host with
more than one dot at its end.  Every address that can be used is read from its parts, as long as
they can be told apart in a text.  So it does not matter what devices do with numbers that are out
of their range or with names that are not well formed. -/
theorem read_usable (address : Option Text) :
    ((∃ f, read address = .error f ∧ f.toPrintError.kind = .deviceUnreachable) ∨
      ∃ a dots, read address = .ok a ∧ a.Fits dots ∧ (a.Usable ↔ dots ≤ 1)) ∧
    (∀ a, a.Usable →
      (∀ port baud, a = .serial port baud → .char '@' ∉ port ∧ baud < 10 ^ 7) →
      read (some a.written) = .ok a) ∧
    ((∀ a, read address = .ok a → a.Usable) →
      ∀ {m : Type → Type} [Monad m] {δ : Type} (devices others : Devices m δ)
        (seconds : Option Float), devices.Alike others →
        Transport.openAt devices address seconds = Transport.openAt others address seconds) := by
  refine ⟨?_, fun a husable hserial => ?_,
    fun hread _ _ _ devices others seconds h => Transport.openAt_alike h hread seconds⟩
  · cases hread : read address with
    | error f => exact .inl ⟨f, rfl, rfl⟩
    | ok a =>
      obtain ⟨dots, hfits⟩ := read_fits hread
      refine .inr ⟨a, ?_⟩
      cases hfits with
      | rfcomm hmac hlow hhigh =>
        have hfits : Fits 0 _ := .rfcomm hmac hlow hhigh
        exact ⟨0, rfl, hfits, iff_of_true ⟨0, Nat.zero_le 1, hfits⟩ (Nat.zero_le 1)⟩
      | serial hport hbaud =>
        have hfits : Fits 0 _ := .serial hport hbaud
        exact ⟨0, rfl, hfits, iff_of_true ⟨0, Nat.zero_le 1, hfits⟩ (Nat.zero_le 1)⟩
      | tcp hhost hlow hhigh =>
        have hfits : Fits dots _ := .tcp hhost hlow hhigh
        exact ⟨dots, rfl, hfits, usable_iff hfits⟩
  · obtain ⟨dots, -, hfits⟩ := husable
    cases hfits with
    | rfcomm hmac hlow hhigh => exact read_rfcomm hmac hlow hhigh
    | serial hport hbaud =>
      obtain ⟨hat, hhigh⟩ := hserial _ _ rfl
      exact read_serial hport hat hbaud hhigh
    | tcp hhost hlow hhigh => exact read_tcp hhost hlow hhigh

def fussy : Devices Id Unit where
  openNetwork _ port _ := if 1 ≤ port ∧ port ≤ 65535 then .ok () else .error (.bare "no such port")
  openSerial _ baud _ := if 1 ≤ baud then .ok () else .error (.bare "no such speed")
  socket := some ()
  limit _ _ := ()
  connect _ _ channel := if channel ≤ 30 then none else some (.system .general "no such channel")
  send _ _ := none
  flush _ := none
  shutdown _ := none
  close _ := ()

def lenient : Devices Id Unit :=
  { fussy with
    openNetwork := fun _ _ _ => Except.ok ()
    openSerial := fun _ _ _ => Except.ok ()
    connect := fun _ _ _ => none }

theorem fussy_alike : fussy.Alike lenient where
  openNetwork host port seconds h := by
    obtain ⟨dots, -, hfits⟩ := h
    cases hfits with
    | tcp hhost hlow hhigh => exact if_pos ⟨hlow, hhigh⟩
  openSerial port baud seconds h := by
    obtain ⟨dots, -, hfits⟩ := h
    cases hfits with
    | serial hport hbaud => exact if_pos hbaud
  connect device mac channel h := by
    obtain ⟨dots, -, hfits⟩ := h
    cases hfits with
    | rfcomm hmac hlow hhigh => exact if_pos hhigh
  socket := rfl
  limit := rfl
  close := rfl

theorem rooted_fits : (Address.tcp "till-2.lan.".toText 9100).Fits 1 :=
  .tcp ⟨by decide, ["till-2".toText, "lan".toText], by decide,
    fun p hp => isLabel_iff.1 (List.all_eq_true.1 (by decide) p hp), by decide⟩
    (by decide) (by decide)

theorem read_usable_rooted :
    let address := written (.tcp "till-2.lan.".toText 9100)
    (Address.tcp "till-2.lan.".toText 9100).Usable ∧
      read (some address) = .ok (.tcp "till-2.lan.".toText 9100) ∧
      Transport.openAt fussy (some address) none =
        Transport.openAt lenient (some address) none := by
  intro address
  have husable : (Address.tcp "till-2.lan.".toText 9100).Usable := ⟨1, by decide, rooted_fits⟩
  obtain ⟨-, hwritten, halike⟩ := read_usable (some address)
  have hread := hwritten (.tcp "till-2.lan.".toText 9100) husable nofun
  refine ⟨husable, hread, halike (fun a ha => ?_) fussy lenient none fussy_alike⟩
  cases hread.symm.trans ha
  exact husable

theorem dotted_host : IsHost 2 "a..".toText :=
  ⟨by decide, ["a".toText], by decide,
    fun p hp => isLabel_iff.1 (List.all_eq_true.1 (by decide) p hp), by decide⟩

/-- A host with two dots at its end is read, though the part between them is empty. -/
theorem read_dotted :
    read (some "tcp://a..:80".toText) = .ok (.tcp "a..".toText 80) ∧
      ¬ (Address.tcp "a..".toText 80).Usable := by
  have hwritten : "tcp://a..:80".toText = written (.tcp "a..".toText 80) := by decide
  have hfits : (Address.tcp "a..".toText 80).Fits 2 := .tcp dotted_host (by decide) (by decide)
  rw [hwritten]
  exact ⟨read_tcp dotted_host (by decide) (by decide),
    fun h => absurd ((usable_iff hfits).1 h) (by decide)⟩

end Address
end ThermalPrint
