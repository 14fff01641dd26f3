import ThermalPrint.Config.Document
import ThermalPrint.Proofs.Decimal.Finite
import ThermalPrint.Proofs.Json.Reader
import ThermalPrint.Proofs.Service.Submitted

/-
Starting with a configuration file.  A file that is text and no document counts as missing, as long
as the text has few brackets and short numbers; a document that holds parameters of the right kinds
gives those, and the defaults for the others.  A file that is no text stops the service.
-/

namespace ThermalPrint
namespace Document

/-- Bytes that are text, in which not too many brackets open and not too many digits follow one
another. -/
def Modest (content : ByteArray) : Prop :=
  ∃ t, textOf content = .ok t ∧ ¬ Json.HasLongRun t ∧ Json.openers t ≤ Json.depthLimit

/-- The members that are known have values of the right kinds, where they are there at all. -/
structure Typed (members : List (Text × Json)) : Prop where
  dots : ∀ v, members.lookup "dots_per_line".toText = some v → ∃ n : Int, v = .int n ∧ 0 < n
  chars : ∀ v, members.lookup "chars_per_line".toText = some v → ∃ n : Int, v = .int n ∧ 0 < n
  dpi : ∀ v, members.lookup "printer_dpi".toText = some v → ∃ n : Int, v = .int n
  paper : ∀ v, members.lookup "paper_width_mm".toText = some v →
    (∃ x : Float, v = .float x ∧ 0 < x) ∨
      ∃ (n : Int) (x : Float), v = .int n ∧ 0 < n ∧ Decimal.ofInt? n = some x
  charset : ∀ v, members.lookup "charset".toText = some v → ∃ s, v = .str s ∧ s ≠ []

/-- A value is a number, or the whole number that a double is nearest to. -/
def IsNumber (v : Json) (x : Float) : Prop :=
  v = .float x ∨ ∃ n, v = .int n ∧ Decimal.ofInt? n = some x

/-- Parameters are what members say, and the standard where they say nothing. -/
structure Says (members : List (Text × Json)) (c : SessionConfig) : Prop where
  dots : (members.lookup "dots_per_line".toText).getD (.int SessionConfig.standard.dotsPerLine) =
    .int c.dotsPerLine
  chars : (members.lookup "chars_per_line".toText).getD (.int SessionConfig.standard.charsPerLine) =
    .int c.charsPerLine
  dpi : (members.lookup "printer_dpi".toText).getD (.int SessionConfig.standard.printerDpi) =
    .int c.printerDpi
  paper : IsNumber
    ((members.lookup "paper_width_mm".toText).getD (.float SessionConfig.standard.paperWidthMm))
    c.paperWidthMm
  charset : (members.lookup "charset".toText).getD (.str SessionConfig.standard.charset) =
    .str c.charset

section Reading

variable {fs : Files} {p : Path} {content : ByteArray} {f : Fault}

theorem modest_of_short {t : Text} (ht : textOf content = .ok t)
    (hshort : t.length ≤ Json.depthLimit) : Modest content := by
  refine ⟨t, ht, ?_, List.countP_le_length.trans hshort⟩
  rintro ⟨run, hrun, -, hlong⟩
  have hle : run.length ≤ t.length := hrun.length_le
  have hlimits : Json.depthLimit ≤ Text.digitLimit := by decide
  omega

theorem ofBytes_error (hmodest : Modest content) (h : ofBytes content = .error f) :
    ∃ message, f = .value .json message := by
  obtain ⟨t, ht, hrun, hopen⟩ := hmodest
  unfold ofBytes at h
  rw [ht] at h
  dsimp only at h
  split at h
  · cases h
  · rename_i fault hfault
    obtain ⟨what, rest, rfl⟩ := Json.read_error hrun hopen hfault
    cases h
    exact ⟨_, rfl⟩

theorem ofBytes_not_text (h : ∀ t, textOf content ≠ .ok t) :
    ∃ message, ofBytes content = .error (.value .unicodeDecode message) := by
  unfold ofBytes
  unfold textOf at h ⊢
  split
  · rename_i e he
    split at he
    · cases he
    · cases he
      exact ⟨_, rfl⟩
  · rename_i t ht
    exact absurd ht (h t)

theorem exists_of_read (h : fs.read p = .ok content) : fs.exists p = .ok true := by
  unfold Files.read at h
  unfold Files.exists
  split at h
  · cases h
  · rename_i husable
    rw [husable]
    split at h
    · rename_i hfind
      rw [hfind]
      rfl
    · cases h
    · cases h

theorem load_eq (h : fs.read p = .ok content) : load fs p = ofContent content := by
  unfold load
  rw [exists_of_read h, h]

theorem load_error (h : fs.read p = .ok content) (hf : ofBytes content = .error f) :
    load fs p = .error f := by
  rw [load_eq h, ofContent, hf]
  rfl

theorem load_object {members : List (Text × Json)} (h : fs.read p = .ok content)
    (hmembers : ofBytes content = .ok (.obj members)) : load fs p = .ok (some (.obj members)) := by
  rw [load_eq h, ofContent, hmembers]
  rfl

theorem load_missing (h : fs.exists p = .ok false) : load fs p = .ok none := by
  unfold load
  rw [h]

theorem startConfig_missing (h : fs.exists p = .ok false) : startConfig fs p = .ok .standard := by
  unfold startConfig
  rw [load_missing h]
  rfl

theorem startConfig_error {message : Text} (h : load fs p = .error (.value .json message)) :
    startConfig fs p = .ok .standard := by
  unfold startConfig
  rw [h]
  rfl

end Reading

section Parameters

variable {members : List (Text × Json)}

theorem positive_of_typed {given : Option Json} {standard : Nat} (hstandard : 0 < standard)
    (h : ∀ v, given = some v → ∃ n : Int, v = .int n ∧ 0 < n) :
    ∃ n : Nat, 0 < n ∧ given.getD (.int standard) = .int n := by
  cases given with
  | none => exact ⟨standard, hstandard, rfl⟩
  | some v =>
    obtain ⟨n, rfl, hn⟩ := h v rfl
    refine ⟨n.toNat, by omega, ?_⟩
    rw [Option.getD_some, Int.toNat_of_nonneg hn.le]

theorem toFloat_of_isNumber {v : Json} {x : Float} (h : IsNumber v x) : v.toFloat = .ok x := by
  rcases h with rfl | ⟨n, rfl, hn⟩
  · rfl
  · show Json.floatOfInt n = .ok x
    unfold Json.floatOfInt
    rw [hn]

theorem charset_of_says {c : SessionConfig} (h : Says members c) (hcharset : c.charset ≠ []) :
    (if ((members.lookup "charset".toText).getD .null).isEmpty then SessionConfig.defaultCharset
      else ((members.lookup "charset".toText).getD .null).plainText) = c.charset := by
  have hsaid := h.charset
  cases hgiven : members.lookup "charset".toText with
  | none =>
    rw [hgiven] at hsaid
    exact Json.str.inj hsaid
  | some v =>
    rw [hgiven, Option.getD_some] at hsaid
    subst hsaid
    have hfilled : c.charset.isEmpty = false := by simpa using hcharset
    rw [Option.getD_some, Json.isEmpty, hfilled, if_neg Bool.false_ne_true]
    rfl

/-- What a document says is read from it, unless the paper has no width. -/
theorem sessionConfig_of_says {c : SessionConfig} (h : Says members c)
    (hpaper : ¬ c.paperWidthMm ≤ 0) (hcharset : c.charset ≠ []) :
    sessionConfig (some (.obj members)) = .ok c := by
  by_cases hempty : members = []
  · subst hempty
    obtain ⟨hdots, hchars, hdpi, hwidth, hset⟩ := h
    obtain ⟨dots, chars, paper, dpi, charset, hd, hc⟩ := c
    cases (Int.ofNat.inj (Json.int.inj hdots) : 384 = dots)
    cases (Int.ofNat.inj (Json.int.inj hchars) : 32 = chars)
    cases (Json.int.inj hdpi : 203 = dpi)
    cases (Json.str.inj hset : "cp437" = charset)
    rcases hwidth with hfloat | ⟨n, hint, -⟩
    · cases (Json.float.inj hfloat : 48.0 = paper)
      rfl
    · cases hint
  · have hdots : ((members.lookup "dots_per_line".toText).getD (.int 384)).toInt =
        .ok c.dotsPerLine :=
      congrArg Json.toInt h.dots
    have hchars : ((members.lookup "chars_per_line".toText).getD (.int 32)).toInt =
        .ok c.charsPerLine :=
      congrArg Json.toInt h.chars
    have hdpi : ((members.lookup "printer_dpi".toText).getD (.int 203)).toInt = .ok c.printerDpi :=
      congrArg Json.toInt h.dpi
    have hwidth : ((members.lookup "paper_width_mm".toText).getD (.float 48.0)).toFloat =
        .ok c.paperWidthMm := toFloat_of_isNumber h.paper
    have hfilled : (Json.obj members).isEmpty = false := by
      simpa [Json.isEmpty] using hempty
    unfold sessionConfig
    dsimp only
    rw [Option.getD_some, hfilled, if_neg Bool.false_ne_true]
    dsimp only
    rw [hdots, hwidth, hchars, hdpi, charset_of_says h hcharset]
    show SessionConfig.ofValues c.dotsPerLine c.charsPerLine c.paperWidthMm c.printerDpi c.charset =
      .ok c
    have hpositive : 0 < (c.dotsPerLine : Int).toNat := c.dots_pos
    have hpositive' : 0 < (c.charsPerLine : Int).toNat := c.chars_pos
    unfold SessionConfig.ofValues
    rw [dif_pos hpositive, dif_pos hpositive', if_neg hpaper]
    rfl

theorem Typed.says (h : Typed members) :
    ∃ c : SessionConfig, Says members c ∧ ¬ c.paperWidthMm ≤ 0 ∧ c.charset ≠ [] := by
  obtain ⟨dots, hdots, hdotsEq⟩ := positive_of_typed SessionConfig.standard.dots_pos h.dots
  obtain ⟨chars, hchars, hcharsEq⟩ := positive_of_typed SessionConfig.standard.chars_pos h.chars
  have hdpi : ∃ dpi, (members.lookup "printer_dpi".toText).getD
      (.int SessionConfig.standard.printerDpi) = .int dpi := by
    cases hgiven : members.lookup "printer_dpi".toText with
    | none => exact ⟨_, rfl⟩
    | some v => exact h.dpi v hgiven
  have hpaper : ∃ x, IsNumber ((members.lookup "paper_width_mm".toText).getD
      (.float SessionConfig.standard.paperWidthMm)) x ∧ ¬ x ≤ 0 := by
    cases hgiven : members.lookup "paper_width_mm".toText with
    | none => exact ⟨48.0, .inl rfl, by decide +kernel⟩
    | some v =>
      rcases h.paper v hgiven with ⟨x, rfl, hx⟩ | ⟨n, x, rfl, hn, hx⟩
      · exact ⟨x, .inl rfl, Decimal.not_le_zero (Decimal.positive_of_lt hx)⟩
      · exact ⟨x, .inr ⟨n, rfl, hx⟩, Decimal.not_le_zero (Decimal.ofInt?_positive hn hx)⟩
  have hcharset : ∃ charset, (members.lookup "charset".toText).getD
      (.str SessionConfig.standard.charset) = .str charset ∧ charset ≠ [] := by
    cases hgiven : members.lookup "charset".toText with
    | none => exact ⟨"cp437", rfl, by decide⟩
    | some v =>
      obtain ⟨charset, rfl, hfilled⟩ := h.charset v hgiven
      exact ⟨charset, rfl, hfilled⟩
  obtain ⟨dpi, hdpi⟩ := hdpi
  obtain ⟨paper, hpaper, hwidth⟩ := hpaper
  obtain ⟨charset, hcharset, hfilled⟩ := hcharset
  exact ⟨⟨dots, chars, paper, dpi, charset, hdots, hchars⟩,
    ⟨hdotsEq, hcharsEq, hdpi, hpaper, hcharset⟩, hwidth, hfilled⟩

end Parameters

end Document

namespace Service

variable {τ : Type} {service : Service (StateM (House τ)) τ} {r : HttpRequest} {h : House τ}

structure ToHealth (r : HttpRequest) : Prop where
  method : r.method = "GET"
  target : r.target = "/healthz"

def HttpAnswer.member? (a : HttpAnswer) (name : Text) : Option Json :=
  a.body.bind (Json.get? name)

theorem handle_health (hr : ToHealth r) : service.handle r = service.health := by
  have hpath : r.path = .ok "/healthz".toText := by
    unfold HttpRequest.path
    rw [hr.target]
    rfl
  have hmethod : r.method.map CodePoint.toUpper = "GET" := by
    rw [hr.method]
    decide
  have hroute : Route.ofPath "/healthz".toText = some .health := by decide
  unfold handle
  rw [hpath, hmethod, lifted_ok, pure_bind, hroute]
  rfl

theorem lookup_present (status present : Json) (work : Backlog.Status) (reason : Option Text)
    (rest : List (Text × Json)) :
    ([("status".toText, status)] ++ officeMembers work ++
      (reason.map fun r => ("reason".toText, Json.str r)).toList ++
      ("config_present".toText, present) :: rest).lookup "config_present".toText =
        some present := by
  cases reason <;> rfl

/-- Nothing is changed by a request to tell how the service is. -/
theorem answered_health {o : Outside τ} (ho : service.office = House.office o) (hr : ToHealth r)
    {document : Except Fault (Option Json)} (hdocument : service.document = pure document) :
    (∀ f, configPresent document = .error f → service.answered r h = (.error f, h)) ∧
    ∀ present, configPresent document = .ok present →
      ∃ answer, service.answered r h = (.ok answer, h) ∧ answer.status = 200 ∧
        answer.member? "config_present" = some (.bool present) ∧
        (document.isOk = false → answer.member? "status" = some (.str "degraded")) := by
  unfold answered
  rw [handle_health hr]
  obtain ⟨office, session, limits, contentLimit, current, await⟩ := service
  dsimp only at ho hdocument
  subst ho hdocument
  unfold health
  constructor
  · intro f hf
    show ((do
      let present ← (liftM (configPresent document) : ExceptT Fault (StateM (House τ)) Bool)
      _ : ExceptT Fault (StateM (House τ)) HttpAnswer).run.run h : _ × _) = _
    rw [hf]
    rfl
  · intro present hpresent
    -- the answer is found by running the request
    apply Exists.intro
    refine ⟨?_, ?_, ?_, ?_⟩
    · show ((do
        let present ← (liftM (configPresent document) : ExceptT Fault (StateM (House τ)) Bool)
        _ : ExceptT Fault (StateM (House τ)) HttpAnswer).run.run h : _ × _) = _
      rw [hpresent]
      rfl
    · rfl
    · unfold HttpAnswer.member?
      rw [Option.bind_some, Json.get?, lookup_present]
    · intro hunread
      show some (Json.str (if Option.isSome _ = true then "degraded" else "ok")) = _
      rw [hunread, if_pos]
      split
      · rfl
      · rfl

open Document

/-- A configuration file that is missing, or that is text and no document, does not keep the service
from starting with the standard parameters, nor from telling how it is.  One that is a document with
values of the right kinds gives these values.  Too many brackets or digits in a text, and bytes that
are no text, are not provided for: the latter keep the service from starting, and from telling. -/
theorem start_configured {fs : Files} {p : Path} :
    (fs.exists p = .ok false → startConfig fs p = .ok .standard) ∧
    ∀ content, fs.read p = .ok content →
      (∀ f, ofBytes content = .error f → Modest content → startConfig fs p = .ok .standard) ∧
      (∀ members, ofBytes content = .ok (.obj members) → Typed members →
        ∃ c, Says members c ∧ startConfig fs p = .ok c) ∧
      ((∀ t, textOf content ≠ .ok t) →
        ∃ message, startConfig fs p = .error (.value .unicodeDecode message)) ∧
      ∀ {τ : Type} (service : Service (StateM (House τ)) τ) (o : Outside τ) (r : HttpRequest)
        (h : House τ), service.office = House.office o → ToHealth r →
        service.document = pure (load fs p) →
        (∀ f, ofBytes content = .error f → Modest content →
          ∃ answer, service.answered r h = (.ok answer, h) ∧ answer.status = 200 ∧
            answer.member? "config_present" = some (.bool false) ∧
            answer.member? "status" = some (.str "degraded")) ∧
        (∀ members, ofBytes content = .ok (.obj members) →
          ∃ answer, service.answered r h = (.ok answer, h) ∧ answer.status = 200 ∧
            answer.member? "config_present" = some (.bool true)) ∧
        ((∀ t, textOf content ≠ .ok t) →
          ∃ message, service.answered r h = (.error (.value .unicodeDecode message), h)) := by
  refine ⟨startConfig_missing, fun content hread => ?_⟩
  have hbroken : ∀ f, ofBytes content = .error f → Modest content →
      ∃ message, load fs p = .error (.value .json message) := by
    intro f hf hmodest
    obtain ⟨message, rfl⟩ := ofBytes_error hmodest hf
    exact ⟨message, load_error hread hf⟩
  have hbytes : (∀ t, textOf content ≠ .ok t) →
      ∃ message, load fs p = .error (.value .unicodeDecode message) := by
    intro htext
    obtain ⟨message, hf⟩ := ofBytes_not_text htext
    exact ⟨message, load_error hread hf⟩
  refine ⟨fun f hf hmodest => ?_, fun members hmembers htyped => ?_, fun htext => ?_, ?_⟩
  · obtain ⟨message, hmessage⟩ := hbroken f hf hmodest
    exact startConfig_error hmessage
  · obtain ⟨c, hsays, hpaper, hcharset⟩ := htyped.says
    refine ⟨c, hsays, ?_⟩
    unfold startConfig
    rw [load_object hread hmembers]
    exact sessionConfig_of_says hsays hpaper hcharset
  · obtain ⟨message, hmessage⟩ := hbytes htext
    refine ⟨message, ?_⟩
    unfold startConfig
    rw [hmessage]
  · intro τ service o r h ho hr hdocument
    obtain ⟨hfails, htells⟩ := answered_health (h := h) ho hr hdocument
    refine ⟨fun f hf hmodest => ?_, fun members hmembers => ?_, fun htext => ?_⟩
    · obtain ⟨message, hmessage⟩ := hbroken f hf hmodest
      have hpresent : configPresent (load fs p) = .ok false := by
        rw [hmessage]
        rfl
      obtain ⟨answer, hanswer, hstatus, hmember, hdegraded⟩ := htells false hpresent
      exact ⟨answer, hanswer, hstatus, hmember, hdegraded (by rw [hmessage]; rfl)⟩
    · have hpresent : configPresent (load fs p) = .ok true := by
        rw [load_object hread hmembers]
        rfl
      obtain ⟨answer, hanswer, hstatus, hmember, -⟩ := htells true hpresent
      exact ⟨answer, hanswer, hstatus, hmember⟩
    · obtain ⟨message, hmessage⟩ := hbytes htext
      refine ⟨message, hfails _ ?_⟩
      rw [hmessage]
      rfl

def configPath : Path := ["config.json"]

def filed (content : ByteArray) : Files := { nodes := [(configPath, .file content)] }

theorem filed_read (content : ByteArray) : (filed content).read configPath = .ok content := rfl

def configured (content : ByteArray) : Service (StateM (House Nat)) Nat :=
  { shop with document := pure (load (filed content) configPath) }

def healthRequest : HttpRequest where
  method := "GET"
  target := "/healthz"

def wide : ByteArray :=
  "\x7b\"dots_per_line\": 576, \"paper_width_mm\": 72, \"charset\": \"cp850\"\x7d".toUTF8

def wideMembers : List (Text × Json) :=
  [("dots_per_line", .int 576), ("paper_width_mm", .int 72), ("charset", .str "cp850")]

def isWide : Json → Bool
  | .obj [(dots, .int n), (paper, .int width), (charset, .str set)] =>
    dots = "dots_per_line" && n = 576 && paper = "paper_width_mm" && width = 72 &&
      charset = "charset" && set = "cp850"
  | _ => false

theorem eq_of_isWide {v : Json} (h : isWide v = true) : v = .obj wideMembers := by
  unfold isWide at h
  split at h
  · simp only [Bool.and_eq_true, decide_eq_true_eq] at h
    obtain ⟨⟨⟨⟨⟨rfl, rfl⟩, rfl⟩, rfl⟩, rfl⟩, rfl⟩ := h
    rfl
  · cases h

theorem wide_read : ofBytes wide = .ok (.obj wideMembers) := by
  have hwide : (ofBytes wide).toOption.any isWide = true := by decide +kernel
  cases hread : ofBytes wide with
  | error f =>
    rw [hread] at hwide
    cases hwide
  | ok v =>
    rw [hread] at hwide
    rw [eq_of_isWide hwide]

theorem wide_typed : Typed wideMembers where
  dots v hv := by
    cases (show some (Json.int 576) = some v from hv)
    exact ⟨576, rfl, by decide⟩
  chars v hv := by cases (show none = some v from hv)
  dpi v hv := by cases (show none = some v from hv)
  paper v hv := by
    cases (show some (Json.int 72) = some v from hv)
    obtain ⟨x, hx⟩ :=
      Option.isSome_iff_exists.1 (by decide +kernel : (Decimal.ofInt? 72).isSome = true)
    exact .inr ⟨72, x, rfl, by decide, hx⟩
  charset v hv := by
    cases (show some (Json.str "cp850") = some v from hv)
    exact ⟨"cp850", rfl, by decide⟩

def brokenOff : ByteArray := "[1, \"\u00e9\"".toUTF8

theorem brokenOff_modest : Modest brokenOff := by
  have hlength : (textOf brokenOff).toOption.map List.length = some 7 := by decide +kernel
  cases htext : textOf brokenOff with
  | error e =>
    rw [htext] at hlength
    cases hlength
  | ok t =>
    rw [htext] at hlength
    have hseven : t.length = 7 := Option.some.inj hlength
    exact modest_of_short htext (by rw [hseven]; decide)

theorem start_configured_read :
    (∃ c, Says wideMembers c ∧ startConfig (filed wide) configPath = .ok c) ∧
      (ofBytes brokenOff).isOk = false ∧ Modest brokenOff ∧
      startConfig (filed brokenOff) configPath = .ok .standard ∧
      ∃ answer,
        (configured brokenOff).answered healthRequest (staffed {}) = (.ok answer, staffed {}) ∧
        answer.status = 200 ∧ answer.member? "config_present" = some (.bool false) ∧
        answer.member? "status" = some (.str "degraded") := by
  have hbroken : (ofBytes brokenOff).isOk = false := by decide +kernel
  obtain ⟨f, hf⟩ : ∃ f, ofBytes brokenOff = .error f := by
    cases h : ofBytes brokenOff with
    | error f => exact ⟨f, rfl⟩
    | ok v =>
      rw [h] at hbroken
      cases hbroken
  obtain ⟨-, htyped, -⟩ := start_configured.2 wide (filed_read wide)
  obtain ⟨hstandard, -, -, hanswers⟩ := start_configured.2 brokenOff (filed_read brokenOff)
  obtain ⟨htells, -, -⟩ := hanswers (configured brokenOff) House.alone healthRequest (staffed {})
    rfl ⟨rfl, rfl⟩ rfl
  exact ⟨htyped wideMembers wide_read wide_typed, hbroken, brokenOff_modest,
    hstandard f hf brokenOff_modest, htells f hf brokenOff_modest⟩

def stray : ByteArray := ⟨#[0xFF]⟩

/-- A file that is no text keeps the service from starting, and from telling how it is. -/
theorem stray_fails :
    (ofBytes stray).isOk = false ∧ (filed stray).read configPath = .ok stray ∧
      (startConfig (filed stray) configPath).isOk = false ∧
      ((configured stray).answered healthRequest (staffed {})).1.isOk = false := by
  decide +kernel

end Service
end ThermalPrint
