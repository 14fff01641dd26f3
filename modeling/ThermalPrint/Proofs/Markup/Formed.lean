import ThermalPrint.Proofs.Markup.Concat
import ThermalPrint.Proofs.Markup.Placeholder
import ThermalPrint.Proofs.Markup.Values

/-
The form of compiled jobs: what the directives are like that a line under construction can come
to, and what each line of the markup adds to the job.
-/

namespace ThermalPrint

/-- What a compiled line of text is like. -/
structure AlignedText.WellFormed (line : AlignedText) : Prop where
  columns : line.columns ≠ []
  runs : ∀ k ∈ line.columns, k.runs ≠ []
  texts : ∀ k ∈ line.columns, ∀ r ∈ k.runs, r.text ≠ []
  content : line.content = line.columns.flatMap fun k => k.runs.flatMap (·.text)
  shows : Text.isBlank line.content = false
  align : line.columns.head?.map (·.align) = some line.align
  bold : line.bold = true ↔ ∀ k ∈ line.columns, ∀ r ∈ k.runs, r.bold = true

def Directive.texts : Directive → List Text
  | .text line => line.content :: line.columns.flatMap fun k => k.runs.map (·.text)
  | .rule mark => [mark]
  | .image .. => []
  | .barcode symbology data _ _ => [symbology, data]
  | .qrCode data _ _ => [data]
  | .lineFeed => []
  | .cut => []

namespace Markup

/-- A raster that was handed in under a handle, or that markup may write out. -/
def Supplies (images : Images) (r : Raster) : Prop :=
  (∃ handle, (handle, .raster r) ∈ images) ∨ ∃ payload, Raster.ofHex payload = .ok r

/-- What a directive is like that a line of markup comes to. -/
def WellFormed (images : Images) : Directive → Prop
  | .text line => line.WellFormed
  | .rule mark => mark = [.char '-'] ∨ mark = [.char '=']
  | .image r _ => Supplies images r ∧
      0 < r.width ∧ 0 < r.height ∧ r.data.size = rowBytes r.width * r.height
  | .barcode symbology _ _ _ => .char '\n' ∉ symbology
  | .qrCode .. => True
  | .lineFeed => True
  | .cut => False

variable {images : Images} {imageOptional : Bool} {number : Nat}

/-! ## Elements -/

theorem resolveImage_supplies {payload : Text} {r : Raster}
    (h : resolveImage images payload = .ok r) : Supplies images r := by
  unfold resolveImage at h
  split at h
  · rename_i own hlookup
    cases h
    exact .inl ⟨payload, lookup_mem hlookup⟩
  · cases h
  · cases h
  · split at h
    · cases h
    · exact .inr ⟨payload, h⟩

theorem elementDirective_wellFormed {align : Align} {e : Element} {attributes : List Attribute}
    {content : Text} {d : Directive} (hvalues : ∀ a ∈ attributes, .char '\n' ∉ a.value)
    (h : elementDirective images imageOptional align e attributes content = .ok (some d)) :
    WellFormed images d := by
  unfold elementDirective at h
  split at h
  · obtain ⟨size, -, hd⟩ := Outcome.map_ok h
    cases hd
    trivial
  · obtain ⟨height, -, hd⟩ := Outcome.map_ok h
    cases hd
    refine normalizeSymbology_unbroken fun t ht => ?_
    obtain ⟨a, ha, rfl⟩ := Option.map_eq_some_iff.1 ht
    exact hvalues a (List.mem_reverse.1 (List.mem_of_find?_eq_some ha))
  · split at h
    · rename_i r hr
      cases h
      exact ⟨resolveImage_supplies hr, r.width_pos, r.height_pos, r.size_eq⟩
    · split at h
      · cases h
      · cases h

/-- Only an image that cannot be had is left out. -/
theorem elementDirective_none {align : Align} {e : Element} {attributes : List Attribute}
    {content : Text}
    (h : elementDirective images imageOptional align e attributes content = .ok none) :
    imageOptional = true ∧ e = .img ∧
      ∃ fault, resolveImage images (Text.trim content) = .error fault := by
  unfold elementDirective at h
  split at h
  · obtain ⟨size, -, hnone⟩ := Outcome.map_ok h
    cases hnone
  · obtain ⟨height, -, hnone⟩ := Outcome.map_ok h
    cases hnone
  · split at h
    · cases h
    · rename_i fault hfault
      split at h
      · rename_i hoptional
        exact ⟨hoptional, rfl, fault, hfault⟩
      · cases h

/-! ## Lines under construction -/

theorem ofColumns_wellFormed {first : TextColumn} {rest : List TextColumn}
    (hruns : ∀ k ∈ first :: rest, k.runs ≠ [])
    (htexts : ∀ k ∈ first :: rest, ∀ r ∈ k.runs, r.text ≠ [])
    (hshows : Text.isBlank (AlignedText.ofColumns first rest).content = false) :
    (AlignedText.ofColumns first rest).WellFormed where
  columns := List.cons_ne_nil _ _
  runs := hruns
  texts := htexts
  content := rfl
  shows := hshows
  align := rfl
  bold := by
    -- No run is empty, so the filter of the definition drops none.
    have hall : ((first :: rest).flatMap (·.runs)).filter (fun r => !r.text.isEmpty) =
        (first :: rest).flatMap (·.runs) := by
      refine List.filter_eq_self.2 fun r hr => ?_
      obtain ⟨k, hk, hr⟩ := List.mem_flatMap.1 hr
      simpa using htexts k hk r hr
    have hfilled : ((first :: rest).flatMap (·.runs)).isEmpty = false := by
      obtain ⟨r, more, hr⟩ := List.exists_cons_of_ne_nil (hruns first List.mem_cons_self)
      rw [List.flatMap_cons, hr]
      rfl
    show (!(((first :: rest).flatMap (·.runs)).filter _).isEmpty &&
      (((first :: rest).flatMap (·.runs)).filter _).all (·.bold)) = true ↔ _
    rw [hall, hfilled, Bool.not_false, Bool.true_and, List.all_eq_true]
    constructor
    · exact fun h k hk r hr => h r (List.mem_flatMap.2 ⟨k, hk, hr⟩)
    · intro h r hr
      obtain ⟨k, hk, hr⟩ := List.mem_flatMap.1 hr
      exact h k hk r hr

namespace LineState

/-- A line under construction with no empty run or column, and with sound directives. -/
structure Sound (images : Images) (s : LineState) : Prop where
  runs : ∀ r ∈ s.runs, r.text ≠ []
  columns : ∀ k ∈ s.columns, k.runs ≠ [] ∧ ∀ r ∈ k.runs, r.text ≠ []
  done : ∀ d ∈ s.done, WellFormed images d

variable {s : LineState}

theorem Sound.endRun (h : s.Sound images) : s.endRun.Sound images := by
  unfold LineState.endRun
  split
  · exact h
  · rename_i hfilled
    refine { h with runs := fun r hr => ?_ }
    rcases List.mem_cons.1 hr with rfl | hr
    · exact fun hempty => hfilled (List.isEmpty_iff.2 hempty)
    · exact h.runs r hr

theorem Sound.endColumn (h : s.Sound images) : s.endColumn.Sound images := by
  have hrun := h.endRun
  unfold LineState.endColumn
  dsimp only
  split
  · exact hrun
  · rename_i hfilled
    refine { hrun with runs := fun r hr => absurd hr List.not_mem_nil, columns := fun k hk => ?_ }
    rcases List.mem_cons.1 hk with rfl | hk
    · refine ⟨fun hempty => hfilled ?_, fun r hr => hrun.runs r (List.mem_reverse.1 hr)⟩
      exact List.isEmpty_iff.2 (List.reverse_eq_nil_iff.1 hempty)
    · exact hrun.columns k hk

theorem Sound.push (h : s.Sound images) {d : Directive} (hd : WellFormed images d) :
    ({ s with done := d :: s.done } : LineState).Sound images :=
  { h with done := List.forall_mem_cons.2 ⟨hd, h.done⟩ }

theorem Sound.endText (h : s.Sound images) : s.endText.Sound images := by
  have hcolumn := h.endColumn
  unfold LineState.endText
  dsimp only
  split
  · exact hcolumn
  · rename_i first rest heq
    have hempty : ({ s.endColumn with columns := [] } : LineState).Sound images :=
      { hcolumn with columns := fun k hk => absurd hk List.not_mem_nil }
    split
    · exact hempty
    · rename_i hshows
      have hmem : ∀ k ∈ first :: rest, k ∈ s.endColumn.columns := by
        intro k hk
        rw [← heq] at hk
        exact List.mem_reverse.1 hk
      exact hempty.push (ofColumns_wellFormed (fun k hk => (hcolumn.columns k (hmem k hk)).1)
        (fun k hk => (hcolumn.columns k (hmem k hk)).2) (Bool.eq_false_iff.2 hshows))

theorem Sound.add {piece : Piece} {s' : LineState} (h : s.Sound images)
    (hvalues : ∀ e attributes content, piece = .element e attributes content →
      ∀ a ∈ attributes, .char '\n' ∉ a.value)
    (hadd : s.add images imageOptional number piece = .ok s') : s'.Sound images := by
  cases LineState.add_ok hadd with
  | text t => exact { h with }
  | column align => exact { h.endColumn with }
  | bold _ => exact { h.endRun with }
  | dropped _ => exact { h with }
  | element hd => exact h.endText.push (elementDirective_wellFormed (hvalues _ _ _ rfl) hd)

theorem Sound.finish {job : Job} (h : s.Sound images) (hfinish : s.finish number = .ok job) :
    ∀ d ∈ job, WellFormed images d := by
  rcases LineState.finish_cases hfinish with ⟨-, rfl⟩ | ⟨rfl, -⟩
  · intro d hd
    rw [List.mem_singleton.1 hd]
    trivial
  · exact fun d hd => h.endText.done d (List.mem_reverse.1 hd)

end LineState

/-! ## Whole lines -/

/-- An image of a line is left out since it cannot be had. -/
def LeavesOut (images : Images) (imageOptional : Bool) (line : Text) : Prop :=
  imageOptional = true ∧ ∃ attributes content fault,
    .element .img attributes content ∈ linePieces line ∧
      resolveImage images (Text.trim content) = .error fault

theorem finish_nil {s : LineState} (h : s.finish number = .ok []) : s.dropped = true := by
  obtain ⟨-, hdropped, -⟩ := LineState.endText_spec [] s
  rcases LineState.finish_cases h with ⟨-, hjob⟩ | ⟨-, hleft⟩
  · cases hjob
  · exact hdropped.symm.trans (hleft rfl)

theorem add_dropped {s s' : LineState} {piece : Piece}
    (hadd : s.add images imageOptional number piece = .ok s') (h : s'.dropped = true) :
    s.dropped = true ∨ imageOptional = true ∧ ∃ attributes content fault,
      piece = .element .img attributes content ∧
        resolveImage images (Text.trim content) = .error fault := by
  cases LineState.add_ok hadd with
  | text t => exact .inl h
  | column align =>
    obtain ⟨-, -, -, -, hdropped⟩ := LineState.endColumn_spec s
    exact .inl (hdropped.symm.trans h)
  | bold _ =>
    obtain ⟨-, -, -, hdropped⟩ := LineState.endRun_spec s
    exact .inl (hdropped.symm.trans h)
  | @dropped e attributes content hnone =>
    obtain ⟨hoptional, rfl, fault, hfault⟩ := elementDirective_none hnone
    exact .inr ⟨hoptional, attributes, content, fault, rfl, hfault⟩
  | element _ =>
    obtain ⟨-, hdropped, -⟩ := LineState.endText_spec images s
    exact .inl (hdropped.symm.trans h)

theorem compileLine_leavesOut {line : Text} (h : compileLine images imageOptional 1 line = .ok []) :
    LeavesOut images imageOptional line := by
  rcases compileLine_cases h with ⟨-, hjob⟩ | ⟨mark, -, hjob⟩ | ⟨found, s, hread, hfold, hfinish⟩
  · cases hjob
  · cases hjob
  · -- What was left out so far, the pieces of the line name.
    refine Outcome.foldlM_keeps (P := fun s => s.dropped = true →
      LeavesOut images imageOptional line) (fun s s' piece hmem hs hadd hdropped => ?_)
      (fun hstart => absurd hstart Bool.false_ne_true) hfold (finish_nil hfinish)
    rcases add_dropped hadd hdropped with hbefore | ⟨hoptional, attributes, content, fault,
      rfl, hfault⟩
    · exact hs hbefore
    · refine ⟨hoptional, attributes, content, fault, ?_, hfault⟩
      rwa [linePieces, hread]

theorem ruleMark?_eq {t : Text} {mark : CodePoint} (h : ruleMark? t = some mark) :
    mark = '-' ∨ mark = '=' := by
  unfold ruleMark? at h
  split at h
  · split at h
    · rename_i hmark
      cases h
      simp only [Bool.and_eq_true, Bool.or_eq_true, decide_eq_true_eq] at hmark
      exact hmark.1.1
    · cases h
  · cases h

theorem compileLine_wellFormed {line : Text} {job : Job} (hline : .char '\n' ∉ line)
    (h : compileLine images imageOptional number line = .ok job) :
    ∀ d ∈ job, WellFormed images d := by
  rcases compileLine_cases h with ⟨-, rfl⟩ | ⟨mark, hmark, rfl⟩ |
    ⟨found, s, hread, hfold, hfinish⟩
  · intro d hd
    rw [List.mem_singleton.1 hd]
    trivial
  · intro d hd
    rw [List.mem_singleton.1 hd]
    rcases ruleMark?_eq hmark with rfl | rfl
    · exact .inl rfl
    · exact .inr rfl
  · have hstart : ({ align := (lineAlign line).1 } : LineState).Sound images :=
      ⟨nofun, nofun, nofun⟩
    refine LineState.Sound.finish (Outcome.foldlM_keeps
      (fun s s' piece hmem hs hadd => ?_) hstart hfold) hfinish
    refine hs.add (fun e attributes content hpiece a ha hfeed => ?_) hadd
    have hpieces : .element e attributes content ∈
        (pieces number ((Cursor.ofLine line).advance (lineAlign line).2)).1 := by
      rwa [hread, ← hpiece]
    exact hline (List.mem_of_mem_drop (pieces_values hpieces a ha _ hfeed))

/-- A sound directive has the line feeds that it prints or gives to machines, and no more. -/
theorem WellFormed.unbroken {d : Directive} (h : WellFormed images d)
    (hd : .char '\n' ∉ d.characters) : ∀ t ∈ d.texts, .char '\n' ∉ t := by
  intro t ht hfeed
  cases d with
  | text line =>
    rw [Directive.characters_text, AlignedText.letters, List.mem_append] at hd
    rcases List.mem_cons.1 ht with rfl | ht
    · exact hd (.inl hfeed)
    · obtain ⟨k, hk, ht⟩ := List.mem_flatMap.1 ht
      obtain ⟨r, hr, rfl⟩ := List.mem_map.1 ht
      exact hd (.inr (List.mem_flatMap.2 ⟨k, hk, TextColumn.mem_text.2 ⟨r, hr, hfeed⟩⟩))
  | rule mark =>
    rw [List.mem_singleton.1 ht] at hfeed
    exact hd (List.mem_append_left _ hfeed)
  | barcode symbology data height align =>
    rcases List.mem_cons.1 ht with rfl | ht
    · exact h hfeed
    · rw [List.mem_singleton.1 ht] at hfeed
      exact hd hfeed
  | qrCode data size align =>
    rw [List.mem_singleton.1 ht] at hfeed
    exact hd hfeed
  | image r align => cases ht
  | lineFeed => cases ht
  | cut => cases ht

/-- The form of a compiled job.  It is what the lines of the markup come to, one after the other,
and a cut at the end if one was asked for.  No other directive is a cut, none has a line feed in a
text, and each is what the encoder relies on.  A line comes to nothing only if an image of it is
left out. -/
theorem compile_wellFormed {images : Images} {options : Options} {source : Text} {job : Job}
    (h : compile images options source = .ok job) :
    ∃ parts : List Job,
      List.Forall₂ (fun line part =>
        compileLine images options.imageOptional 1 line = .ok part ∧
          (part = [] → LeavesOut images options.imageOptional line)) (sourceLines source) parts ∧
      job = parts.flatten ++ (if options.cut then [.cut] else []) ∧
      (∀ d ∈ parts.flatten, d ≠ .cut ∧ WellFormed images d) ∧
      ∀ d ∈ job, ∀ t ∈ d.texts, .char '\n' ∉ t := by
  have hcharacters := compile_characters h
  obtain ⟨parts, hparts, rfl⟩ := compile_ok_lines.1 h
  have hformed : ∀ d ∈ parts.flatten, WellFormed images d := by
    intro d hd
    obtain ⟨part, hpart, hd⟩ := List.mem_flatten.1 hd
    obtain ⟨line, hline, hcompile⟩ := Outcome.exists_of_forall₂ hparts hpart
    exact compileLine_wellFormed (fun hfeed => (sourceLines_mem hline hfeed).2 rfl) hcompile d hd
  have hfilled : ∀ line part, compileLine images options.imageOptional 1 line = .ok part →
      part = [] → LeavesOut images options.imageOptional line := by
    rintro line part hpart rfl
    exact compileLine_leavesOut hpart
  refine ⟨parts, hparts.imp fun line part hpart => ⟨hpart, hfilled line part hpart⟩, rfl,
    fun d hd => ⟨?_, hformed d hd⟩, ?_⟩
  · rintro rfl
    exact hformed _ hd
  · intro d hd
    have hprinted : .char '\n' ∉ d.characters := fun hfeed => (hcharacters d hd _ hfeed).2 rfl
    rcases List.mem_append.1 hd with hd | hd
    · exact (hformed d hd).unbroken hprinted
    · split at hd
      · rw [List.mem_singleton.1 hd]
        exact nofun
      · cases hd

def mixedMarkup : Text := "[C]<b>a</b>b\n---\n<img>zz</img>".toText

theorem compile_wellFormed_mixed :
    ∃ job parts, compile [] ⟨true, true⟩ mixedMarkup = .ok job ∧
      List.Forall₂ (fun line part => compileLine [] true 1 line = .ok part ∧
        (part = [] → LeavesOut [] true line)) (sourceLines mixedMarkup) parts ∧
      job = parts.flatten ++ [.cut] ∧ (∀ d ∈ parts.flatten, d ≠ .cut ∧ WellFormed [] d) ∧
      ∀ d ∈ job, ∀ t ∈ d.texts, .char '\n' ∉ t := by
  have hok : (compile [] ⟨true, true⟩ mixedMarkup).toOption.isSome = true := by decide +kernel
  cases hjob : compile [] ⟨true, true⟩ mixedMarkup with
  | error fault =>
    rw [hjob] at hok
    cases hok
  | ok job =>
    obtain ⟨parts, hparts, hflat, hformed, htexts⟩ := compile_wellFormed hjob
    exact ⟨job, parts, rfl, hparts, hflat, hformed, htexts⟩

end Markup
end ThermalPrint
