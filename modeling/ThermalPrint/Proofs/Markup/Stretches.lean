import ThermalPrint.Proofs.Markup.Formed
import ThermalPrint.Proofs.Markup.Textual
import ThermalPrint.Proofs.Markup.Aligned

/-
What a line of text and tags means.

A character has the alignment of the last alignment tag before it and the weight that the last tag
for bold type before it sets.  The compiler has runs and columns under construction instead, which
it ends one by one, and the two come to the same whatever the order of the tags.
-/

namespace ThermalPrint

def TextRun.letters (r : TextRun) : List (CodePoint × Bool) := r.text.map (·, r.bold)

def TextColumn.letters (k : TextColumn) : List (CodePoint × Bool) := k.runs.flatMap TextRun.letters

def TextColumn.stretch (k : TextColumn) : Align × List (CodePoint × Bool) := (k.align, k.letters)

theorem map_fst_weighted (t : Text) (bold : Bool) : (t.map (·, bold)).map Prod.fst = t := by
  rw [List.map_map]
  exact List.map_id t

theorem TextColumn.letters_text (k : TextColumn) : k.letters.map Prod.fst = k.text := by
  unfold TextColumn.letters TextColumn.text
  rw [List.map_flatMap]
  exact congrArg (k.runs.flatMap ·) (funext fun r => map_fst_weighted r.text r.bold)

namespace Markup

namespace Segment

/-- The text outside the tags. -/
def plain : Segment → Text
  | text t => t
  | _ => []

def align? : Segment → Option Align
  | column _ align => some align
  | _ => none

def weight? : Segment → Option Bool
  | bold _ on => some on
  | _ => none

def isElement : Segment → Bool
  | element .. => true
  | _ => false

end Segment

/-- The alignment of the last alignment tag, or else left. -/
def alignBehind (before : List Segment) : Align :=
  (before.filterMap Segment.align?).getLast?.getD .left

/-- The last tag for bold type opens. -/
def boldBehind (before : List Segment) : Bool :=
  (before.filterMap Segment.weight?).getLast?.getD false

/-- The stretches between alignment tags, each with its alignment and its characters.  The first
has `letters` already, and `before` is what stands in front. -/
def stretches (before : List Segment) (letters : List (CodePoint × Bool)) :
    List Segment → List (Align × List (CodePoint × Bool))
  | [] => [(alignBehind before, letters)]
  | .column written align :: more =>
    (alignBehind before, letters) :: stretches (before ++ [.column written align]) [] more
  | segment :: more =>
    stretches (before ++ [segment]) (letters ++ segment.plain.map (·, boldBehind before)) more

/-- Every tag that closes stands where the last tag for bold type opens. -/
def Balanced (before segments : List Segment) : Prop :=
  ∀ earlier written later, segments = earlier ++ .bold written false :: later →
    boldBehind (before ++ earlier) = true

/-- What the parts of a line come to: the stretches that are not empty, in the columns of one
line of text, or a feed if nothing of them shows. -/
def Means (segments : List Segment) (d : Directive) : Prop :=
  if Text.isBlank (segments.flatMap Segment.plain) then d = .lineFeed
  else ∃ line : AlignedText, d = .text line ∧
    line.columns.map TextColumn.stretch =
      (stretches [] [] segments).filter (fun stretch => !stretch.2.isEmpty) ∧
    line.content = segments.flatMap Segment.plain ∧
    line.columns.flatMap (·.text) = segments.flatMap Segment.plain ∧
    line.columns.head?.map (·.align) = some line.align ∧
    (line.bold = true ↔ ∀ stretch ∈ stretches [] [] segments, ∀ x ∈ stretch.2, x.2 = true)

theorem alignBehind_concat (before : List Segment) (segment : Segment) :
    alignBehind (before ++ [segment]) = segment.align?.getD (alignBehind before) := by
  unfold alignBehind
  rw [List.filterMap_append]
  cases h : segment.align? with
  | none => simp [h]
  | some align => simp [h]

theorem boldBehind_concat (before : List Segment) (segment : Segment) :
    boldBehind (before ++ [segment]) = segment.weight?.getD (boldBehind before) := by
  unfold boldBehind
  rw [List.filterMap_append]
  cases h : segment.weight? with
  | none => simp [h]
  | some on => simp [h]

theorem Begins.noElement {t rest : Text} {segments : List Segment} (h : Begins t segments rest) :
    ∀ segment ∈ segments, segment.isElement = false := by
  induction h with
  | here t => exact nofun
  | text _ _ _ _ ih => exact List.forall_mem_cons.2 ⟨rfl, ih⟩
  | column _ _ ih => exact List.forall_mem_cons.2 ⟨rfl, ih⟩
  | bold _ _ _ _ _ ih => exact List.forall_mem_cons.2 ⟨rfl, ih⟩

/-- Every character outside the tags is in the stretches once and in order. -/
theorem stretches_letters (segments : List Segment) :
    ∀ before letters, ((stretches before letters segments).flatMap (·.2)).map Prod.fst =
      letters.map Prod.fst ++ segments.flatMap Segment.plain := by
  induction segments with
  | nil =>
    intro before letters
    simp [stretches]
  | cons segment more ih =>
    intro before letters
    cases segment with
    | column written align => simp [stretches, ih, Segment.plain]
    | text t =>
      show ((stretches _ (letters ++ t.map (·, _)) more).flatMap (·.2)).map Prod.fst = _
      rw [ih, List.map_append, map_fst_weighted, List.append_assoc]
      rfl
    | _ => simp [stretches, ih, Segment.plain]

theorem flatMap_filled (l : List (Align × List (CodePoint × Bool))) :
    (l.filter fun stretch => !stretch.2.isEmpty).flatMap (·.2) = l.flatMap (·.2) := by
  induction l with
  | nil => rfl
  | cons stretch more ih =>
    by_cases hempty : stretch.2 = []
    · rw [List.filter_cons_of_neg (by simp [hempty]), ih, List.flatMap_cons, hempty]
      rfl
    · rw [List.filter_cons_of_pos (by simpa using hempty), List.flatMap_cons, ih]
      rfl

section Columns

variable {columns : List TextColumn} {segments : List Segment}
  (hcolumns : columns.map TextColumn.stretch =
    (stretches [] [] segments).filter fun stretch => !stretch.2.isEmpty)

include hcolumns

theorem columns_letters :
    columns.flatMap TextColumn.letters = (stretches [] [] segments).flatMap (·.2) := by
  rw [← flatMap_filled, ← hcolumns, List.flatMap_map]
  rfl

theorem columns_text : columns.flatMap (·.text) = segments.flatMap Segment.plain := by
  have hletters := congrArg (List.map Prod.fst) (columns_letters hcolumns)
  rw [stretches_letters, List.map_flatMap] at hletters
  rw [← List.nil_append (segments.flatMap Segment.plain), ← List.map_nil, ← hletters]
  exact congrArg (columns.flatMap ·) (funext fun k => k.letters_text.symm)

end Columns

theorem means_columns {first : TextColumn} {rest : List TextColumn} {segments : List Segment}
    (hcolumns : (first :: rest).map TextColumn.stretch =
      (stretches [] [] segments).filter fun stretch => !stretch.2.isEmpty)
    (hfilled : ∀ k ∈ first :: rest, k.runs ≠ [] ∧ ∀ r ∈ k.runs, r.text ≠ []) :
    Means segments (if Text.isBlank (AlignedText.ofColumns first rest).content then .lineFeed
      else .text (.ofColumns first rest)) := by
  have hcontent : (AlignedText.ofColumns first rest).content = segments.flatMap Segment.plain :=
    columns_text hcolumns
  have hletters := columns_letters hcolumns
  unfold Means
  rw [← hcontent]
  by_cases hblank : Text.isBlank (AlignedText.ofColumns first rest).content = true
  · rw [if_pos hblank, if_pos hblank]
  · rw [if_neg hblank, if_neg hblank]
    have hformed := ofColumns_wellFormed (fun k hk => (hfilled k hk).1)
      (fun k hk => (hfilled k hk).2) (Bool.eq_false_iff.2 hblank)
    refine ⟨_, rfl, hcolumns, rfl, rfl, rfl, hformed.bold.trans ?_⟩
    constructor
    · intro h stretch hstretch x hx
      have hmem := List.mem_flatMap.2 ⟨stretch, hstretch, hx⟩
      rw [← hletters] at hmem
      obtain ⟨k, hk, hx⟩ := List.mem_flatMap.1 hmem
      obtain ⟨r, hr, hx⟩ := List.mem_flatMap.1 hx
      obtain ⟨c, -, rfl⟩ := List.mem_map.1 hx
      exact h k hk r hr
    · intro h k hk r hr
      obtain ⟨c, more, htext⟩ := List.exists_cons_of_ne_nil ((hfilled k hk).2 r hr)
      have hx : (c, r.bold) ∈ r.letters := by
        rw [TextRun.letters, htext]
        exact List.mem_cons_self
      have hmem : (c, r.bold) ∈ (first :: rest).flatMap TextColumn.letters :=
        List.mem_flatMap.2 ⟨k, hk, List.mem_flatMap.2 ⟨r, hr, hx⟩⟩
      rw [hletters] at hmem
      obtain ⟨stretch, hstretch, hx⟩ := List.mem_flatMap.1 hmem
      exact h stretch hstretch _ hx

theorem balanced_cons {before more : List Segment} {segment : Segment} :
    Balanced before (segment :: more) ↔
      (∀ written, segment = .bold written false → boldBehind before = true) ∧
        Balanced (before ++ [segment]) more := by
  constructor
  · intro h
    refine ⟨?_, fun earlier written later hmore => ?_⟩
    · rintro written rfl
      have hfirst := h [] written more rfl
      rwa [List.append_nil] at hfirst
    · rw [List.append_assoc]
      exact h (segment :: earlier) written later (congrArg (segment :: ·) hmore)
  · rintro ⟨hfirst, hmore⟩ earlier written later heq
    cases earlier with
    | nil =>
      obtain ⟨rfl, -⟩ := List.cons.inj heq
      rw [List.append_nil]
      exact hfirst written rfl
    | cons other earlier =>
      obtain ⟨rfl, hrest⟩ := List.cons.inj heq
      have hlater := hmore earlier written later hrest
      rwa [List.append_assoc] at hlater

namespace LineState

/-- The characters that are not in a column yet. -/
def held (s : LineState) : List (CodePoint × Bool) :=
  s.runs.reverse.flatMap TextRun.letters ++ s.buffer.map (·, s.bold)

/-- A line under construction as it is behind some parts without elements: `letters` are the
characters since the last alignment tag, and `passed` the stretches before it. -/
structure Behind (s : LineState) (before : List Segment) (letters : List (CodePoint × Bool))
    (passed : List (Align × List (CodePoint × Bool))) : Prop where
  align : s.align = alignBehind before
  bold : s.bold = boldBehind before
  held : s.held = letters
  columns : s.columns.reverse.map TextColumn.stretch =
    passed.filter (fun stretch => !stretch.2.isEmpty)
  sound : s.Sound []
  done : s.done = []
  dropped : s.dropped = false

variable {s : LineState} {before : List Segment} {letters : List (CodePoint × Bool)}
  {passed : List (Align × List (CodePoint × Bool))}

theorem held_eq_nil_iff (hfilled : ∀ r ∈ s.runs, r.text ≠ []) :
    s.held = [] ↔ s.runs = [] ∧ s.buffer = [] := by
  unfold held
  rw [List.append_eq_nil_iff, List.map_eq_nil_iff]
  refine and_congr_left fun _ => ?_
  constructor
  · intro h
    refine List.eq_nil_iff_forall_not_mem.2 fun r hr => hfilled r hr ?_
    exact List.map_eq_nil_iff.1 (List.flatMap_eq_nil_iff.1 h r (List.mem_reverse.2 hr))
  · intro h
    rw [h]
    rfl

theorem Behind.endRun (h : s.Behind before letters passed) :
    s.endRun.Behind before letters passed := by
  have hsound := h.sound.endRun
  unfold LineState.endRun at hsound ⊢
  split
  · exact h
  · rename_i hfilled
    rw [if_neg hfilled] at hsound
    refine { h with held := ?_, sound := hsound }
    rw [← h.held]
    simp [LineState.held, TextRun.letters]

theorem endRun_buffer (s : LineState) : s.endRun.buffer = [] := (endRun_spec s).2.1

theorem Behind.endColumn (h : s.Behind before letters passed) :
    s.endColumn.align = s.align ∧ s.endColumn.bold = s.bold ∧
      s.endColumn.Behind before [] (passed ++ [(alignBehind before, letters)]) := by
  have hrun := h.endRun
  have hsound := h.sound.endColumn
  have hbuffer := endRun_buffer s
  have hempty := held_eq_nil_iff hrun.sound.runs
  have hsame : s.endRun.align = s.align ∧ s.endRun.bold = s.bold :=
    ⟨hrun.align.trans h.align.symm, hrun.bold.trans h.bold.symm⟩
  unfold LineState.endColumn at hsound ⊢
  dsimp only at hsound ⊢
  split
  · rename_i hruns
    have hnil : letters = [] := by
      rw [← hrun.held]
      exact hempty.2 ⟨List.isEmpty_iff.1 hruns, hbuffer⟩
    refine ⟨hsame.1, hsame.2, ?_⟩
    rw [hnil] at hrun ⊢
    refine { hrun with columns := ?_ }
    rw [List.filter_append, hrun.columns]
    exact (List.append_nil _).symm
  · rename_i hruns
    rw [if_neg hruns] at hsound
    refine ⟨hsame.1, hsame.2, { hrun with held := ?_, columns := ?_, sound := hsound }⟩
    · show [] ++ s.endRun.buffer.map _ = []
      rw [hbuffer]
      rfl
    · have hletters : s.endRun.runs.reverse.flatMap TextRun.letters = letters := by
        rw [← hrun.held, LineState.held, hbuffer, List.map_nil, List.append_nil]
      have hfilled : letters ≠ [] := by
        intro hnil
        rw [← hrun.held, hempty] at hnil
        exact hruns (List.isEmpty_iff.2 hnil.1)
      rw [List.filter_append, ← hrun.columns, List.filter_cons_of_pos (by simpa using hfilled),
        List.reverse_cons, List.map_append, ← hletters, ← hrun.align]
      rfl

variable {images : Images} {imageOptional : Bool} {number : Nat}

theorem Behind.setBold (h : s.Behind before letters passed) (written : Text) (on : Bool) :
    ({ s.endRun with bold := on } : LineState).Behind (before ++ [.bold written on]) letters
      passed := by
  have hrun := h.endRun
  refine { hrun with align := ?_, bold := ?_, held := ?_, sound := { hrun.sound with } }
  · rw [alignBehind_concat]
    exact hrun.align
  · rw [boldBehind_concat]
    rfl
  · -- The weight does not matter to a buffer with nothing in it.
    rw [← hrun.held, LineState.held, LineState.held, endRun_buffer]
    rfl

theorem Behind.add (h : s.Behind before letters passed) (images : Images) (imageOptional : Bool)
    (number : Nat) {segment : Segment} (helement : segment.isElement = false)
    (hclosing : ∀ written, segment = .bold written false → boldBehind before = true) :
    ∃ s' letters' passed', s.add images imageOptional number segment.piece = .ok s' ∧
      s'.Behind (before ++ [segment]) letters' passed' ∧
      ∀ more, passed ++ stretches before letters (segment :: more) =
        passed' ++ stretches (before ++ [segment]) letters' more := by
  cases segment with
  | text t =>
    refine ⟨_, _, passed, rfl,
      { h with align := ?_, bold := ?_, held := rfl, sound := { h.sound with } }, fun more => ?_⟩
    · rw [alignBehind_concat]
      exact h.align
    · rw [boldBehind_concat]
      exact h.bold
    · show passed ++ stretches _ (letters ++ t.map (·, boldBehind before)) more = _
      rw [← h.bold, ← h.held]
      simp [LineState.held]
  | column written align =>
    obtain ⟨-, -, hcolumn⟩ := h.endColumn
    have hsound : ({ s.endColumn with align := align } : LineState).Sound [] :=
      { hcolumn.sound with }
    refine ⟨_, [], _, rfl,
      { hcolumn with align := ?_, bold := ?_, held := hcolumn.held, sound := hsound },
      fun more => ?_⟩
    · rw [alignBehind_concat]
      rfl
    · rw [boldBehind_concat]
      exact hcolumn.bold
    · exact (List.append_assoc passed [_] _).symm
  | bold written on =>
    have hstretches : ∀ more, passed ++ stretches before letters (.bold written on :: more) =
        passed ++ stretches (before ++ [.bold written on]) letters more := by
      intro more
      show passed ++ stretches _ (letters ++ []) more = _
      rw [List.append_nil]
    cases on with
    | true => exact ⟨_, letters, passed, rfl, h.setBold written true, hstretches⟩
    | false =>
      have hbold : s.bold = true := h.bold.trans (hclosing written rfl)
      exact ⟨_, letters, passed, if_pos hbold, h.setBold written false, hstretches⟩
  | element opening e attributes content closing => cases helement

theorem Behind.addAll (images : Images) (imageOptional : Bool) (number : Nat)
    {segments : List Segment} :
    ∀ {s : LineState} {before letters passed}, s.Behind before letters passed →
      (∀ segment ∈ segments, segment.isElement = false) → Balanced before segments →
      ∃ s' letters' passed',
        (segments.map Segment.piece).foldlM (LineState.add images imageOptional number) s = .ok s' ∧
        s'.Behind (before ++ segments) letters' passed' ∧
        passed ++ stretches before letters segments =
          passed' ++ [(alignBehind (before ++ segments), letters')] := by
  induction segments with
  | nil =>
    intro s before letters passed h _ _
    rw [List.append_nil]
    exact ⟨s, letters, passed, rfl, h, rfl⟩
  | cons segment more ih =>
    intro s before letters passed h hplain hbalanced
    obtain ⟨hsegment, hplain⟩ := List.forall_mem_cons.1 hplain
    obtain ⟨hclosing, hbalanced⟩ := balanced_cons.1 hbalanced
    obtain ⟨s', letters', passed', hadd, hbehind, hstretches⟩ :=
      h.add images imageOptional number hsegment hclosing
    obtain ⟨t, lettersLast, passedLast, hfold, hlast, hall⟩ := ih hbehind hplain hbalanced
    rw [List.append_assoc] at hlast hall
    refine ⟨t, lettersLast, passedLast, ?_, hlast, (hstretches more).trans hall⟩
    rw [List.map_cons, List.foldlM_cons, hadd]
    exact hfold

theorem Behind.balanced {segments : List Segment} :
    ∀ {s t : LineState} {before letters passed}, s.Behind before letters passed →
      (∀ segment ∈ segments, segment.isElement = false) →
      (segments.map Segment.piece).foldlM (LineState.add images imageOptional number) s = .ok t →
      Balanced before segments := by
  induction segments with
  | nil =>
    intro s t before letters passed _ _ _ earlier written later heq
    cases earlier <;> cases heq
  | cons segment more ih =>
    intro s t before letters passed h hplain hfold
    obtain ⟨hsegment, hplain⟩ := List.forall_mem_cons.1 hplain
    rw [List.map_cons, List.foldlM_cons] at hfold
    obtain ⟨next, hnext, hfold⟩ := Outcome.bind_ok hfold
    have hclosing : ∀ written, segment = .bold written false → boldBehind before = true := by
      rintro written rfl
      rw [← h.bold]
      cases LineState.add_ok hnext with
      | bold hopen => exact hopen rfl
    obtain ⟨s', letters', passed', hadd, hbehind, -⟩ :=
      h.add images imageOptional number hsegment hclosing
    cases hadd.symm.trans hnext
    exact balanced_cons.2 ⟨hclosing, ih hbehind hplain hfold⟩

theorem Behind.finish (number : Nat) {segments : List Segment}
    (h : s.Behind segments letters passed)
    (hstretches : stretches [] [] segments = passed ++ [(alignBehind segments, letters)])
    (hbold : boldBehind segments = false) : ∃ d, s.finish number = .ok [d] ∧ Means segments d := by
  obtain ⟨-, -, hcolumn⟩ := h.endColumn
  have hcolumns := hcolumn.columns
  rw [← hstretches] at hcolumns
  cases hlist : s.endColumn.columns.reverse with
  | nil =>
    rw [hlist] at hcolumns
    have hempty : segments.flatMap Segment.plain = [] := (columns_text hcolumns).symm
    refine ⟨.lineFeed, ?_, ?_⟩
    · unfold LineState.finish LineState.endText
      rw [h.bold.trans hbold, if_neg Bool.false_ne_true]
      dsimp only
      rw [hlist]
      dsimp only
      rw [hcolumn.done, hcolumn.dropped]
      rfl
    · unfold Means
      rw [hempty]
      exact (if_pos rfl : (if Text.isBlank [] then _ else _) = _).mpr rfl
  | cons first rest =>
    rw [hlist] at hcolumns
    refine ⟨_, finish_columns (h.bold.trans hbold) h.done h.dropped hlist number,
      means_columns hcolumns fun k hk => hcolumn.sound.columns k ?_⟩
    rw [← hlist] at hk
    exact List.mem_reverse.1 hk

end LineState

section Line

variable {images : Images} {imageOptional : Bool} {number : Nat} {line : Text}
  {segments : List Segment}

theorem behind_start : LineState.Behind { align := .left } [] [] [] :=
  ⟨rfl, rfl, rfl, rfl, ⟨nofun, nofun, nofun⟩, rfl, rfl⟩

theorem Begins.read_all (h : Begins line segments []) :
    pieces number (.ofLine line) = (segments.map Segment.piece, none) := by
  obtain ⟨d, hd, hpieces⟩ := h.read number (c := .ofLine line) rfl
  rw [hpieces, pieces_end hd, List.append_nil]

/-- A line of text and tags comes to what its parts mean. -/
theorem compileFrom_means (h : Begins line segments []) (hbalanced : Balanced [] segments)
    (hbold : boldBehind segments = false) :
    ∃ d, compileFrom images imageOptional number .left (.ofLine line) = .ok [d] ∧
      Means segments d := by
  obtain ⟨s, letters, passed, hfold, hbehind, hstretches⟩ :=
    behind_start.addAll images imageOptional number h.noElement hbalanced
  obtain ⟨d, hfinish, hmeans⟩ := hbehind.finish number hstretches hbold
  refine ⟨d, ?_, hmeans⟩
  rw [compileFrom, h.read_all]
  dsimp only
  rw [hfold]
  exact hfinish

theorem compileFrom_unclosed (h : Begins line segments []) (hbalanced : Balanced [] segments)
    (hbold : boldBehind segments = true) :
    compileFrom images imageOptional number .left (.ofLine line) =
      .error (.unclosed boldName number) := by
  obtain ⟨s, letters, passed, hfold, hbehind, -⟩ :=
    behind_start.addAll images imageOptional number h.noElement hbalanced
  rw [compileFrom, h.read_all]
  dsimp only
  rw [hfold]
  show s.finish number = _
  rw [LineState.finish, if_pos (hbehind.bold.trans hbold)]

/-- The first tag that closes nothing decides, whatever stands behind it. -/
theorem compileFrom_stray {rest : Text} {tag : Tag} (h : Begins line segments rest)
    (hbalanced : Balanced [] segments) (hbold : boldBehind segments = false)
    (htag : readTag? rest = some tag) (hclosing : tag.closing = true)
    (hname : tag.name = boldName) :
    compileFrom images imageOptional number .left (.ofLine line) =
      .error (.strayClosing boldName number) := by
  obtain ⟨s, letters, passed, hfold, hbehind, -⟩ :=
    behind_start.addAll images imageOptional number h.noElement hbalanced
  obtain ⟨d, rfl, hpieces⟩ := h.read number (c := .ofLine line) rfl
  have hopens : tag.closing = false → tag.attributes = [] := by
    rw [hclosing]
    exact nofun
  have hstray : s.add images imageOptional number (.bold false) =
      .error (.strayClosing boldName number) :=
    if_neg (by rw [hbehind.bold, List.nil_append, hbold]; exact Bool.false_ne_true)
  rw [compileFrom, hpieces, read_bold htag hname hopens, hclosing]
  dsimp only
  rw [List.foldlM_append, hfold]
  show ((Piece.bold false :: _).foldlM _ s >>= _) = _
  rw [List.foldlM_cons, hstray]
  rfl

/-- A line of text and tags that is compiled is balanced and ends in plain type. -/
theorem begins_of_compileFrom {job : Job} (htextual : Textual line)
    (h : compileFrom images imageOptional number .left (.ofLine line) = .ok job) :
    ∃ segments, Begins line segments [] ∧ Balanced [] segments ∧
      boldBehind segments = false := by
  obtain ⟨found, s, hread, hfold, -⟩ := compileFrom_ok h
  obtain ⟨segments, hbegins, rfl⟩ := begins_of_pieces (c := .ofLine line) rfl htextual hread
  have hbalanced := behind_start.balanced hbegins.noElement hfold
  refine ⟨segments, hbegins, hbalanced, ?_⟩
  by_cases hbold : boldBehind segments = true
  · cases (compileFrom_unclosed hbegins hbalanced hbold).symm.trans h
  · exact Bool.eq_false_iff.2 hbold

end Line

/-- The meaning of a line in which no element stands and which is no rule.

If it is compiled, then it consists of text, alignment tags and tags for bold type, every tag that
closes has one before it that opens, and the last one closes; such a line is always compiled, and
to what it means.  A line of this kind whose last tag for bold type opens is refused for that tag.
A line that is of this kind up to a tag that closes nothing is refused for that one, whatever
stands behind it. -/
theorem compile_textual {images : Images} {options : Options} {source line : Text}
    (hline : sourceLines source = [line])
    (hrule : ruleMark? (Text.trim (line.drop (lineAlign line).2)) = none) :
    (Textual line → ∀ job, compile images options source = .ok job →
      ∃ segments d, Begins line segments [] ∧ segments.flatMap Segment.written = line ∧
        Balanced [] segments ∧ boldBehind segments = false ∧
        job = d :: (if options.cut then [.cut] else []) ∧ Means segments d) ∧
    (∀ segments, Begins line segments [] → Balanced [] segments → boldBehind segments = false →
      ∃ d, compile images options source = .ok (d :: if options.cut then [.cut] else []) ∧
        Means segments d) ∧
    (∀ segments, Begins line segments [] → Balanced [] segments → boldBehind segments = true →
      ∃ fault, compile images options source = .error fault ∧
        fault.toPrintError.kind = .unterminatedTag ∧ fault.toPrintError.detail = .tag "b") ∧
    ∀ segments rest tag, Begins line segments rest → Balanced [] segments →
      boldBehind segments = false → readTag? rest = some tag → tag.closing = true →
      tag.name = boldName →
      ∃ fault, compile images options source = .error fault ∧
        fault.toPrintError.kind = .unknownTag ∧ fault.toPrintError.detail = .tag "/b" := by
  rw [compile_only hline, compileLine_eq hrule]
  have hmeans : ∀ segments, Begins line segments [] → Balanced [] segments →
      boldBehind segments = false → ∃ d,
        (compileFrom images options.imageOptional 1 .left (.ofLine line)).map
          (· ++ if options.cut then [.cut] else []) =
            .ok (d :: if options.cut then [.cut] else []) ∧ Means segments d := by
    intro segments hbegins hbalanced hbold
    obtain ⟨d, hd, hmeans⟩ := compileFrom_means hbegins hbalanced hbold
    exact ⟨d, by rw [hd]; rfl, hmeans⟩
  refine ⟨fun htextual job hjob => ?_, hmeans, ?_, ?_⟩
  · obtain ⟨directives, hdirectives, -⟩ := Outcome.map_ok hjob
    obtain ⟨segments, hbegins, hbalanced, hbold⟩ := begins_of_compileFrom htextual hdirectives
    obtain ⟨d, hd, hmeans⟩ := hmeans segments hbegins hbalanced hbold
    have hwritten := hbegins.written
    rw [List.append_nil] at hwritten
    exact ⟨segments, d, hbegins, hwritten, hbalanced, hbold,
      Except.ok.inj (hjob.symm.trans hd), hmeans⟩
  · intro segments hbegins hbalanced hbold
    rw [compileFrom_unclosed hbegins hbalanced hbold]
    exact ⟨_, rfl, rfl, rfl⟩
  · intro segments rest tag hbegins hbalanced hbold htag hclosing hname
    rw [compileFrom_stray hbegins hbalanced hbold htag hclosing hname]
    exact ⟨_, rfl, rfl, rfl⟩

def twoColumns : Text := "[C]a<b>b[R]c</b>".toText

theorem compile_textual_columns :
    sourceLines twoColumns = [twoColumns] ∧
      ruleMark? (Text.trim (twoColumns.drop (lineAlign twoColumns).2)) = none ∧
      Textual twoColumns ∧ ∃ job segments d, compile [] {} twoColumns = .ok job ∧
        Begins twoColumns segments [] ∧ job = [d] ∧ Means segments d := by
  have hlines : sourceLines twoColumns = [twoColumns] := by decide
  have hrule : ruleMark? (Text.trim (twoColumns.drop (lineAlign twoColumns).2)) = none := by decide
  have htags : ∀ k < 17, ∀ tag ∈ readTag? (twoColumns.drop k), Element.ofName? tag.name = none := by
    decide +kernel
  have htextual : Textual twoColumns := by
    refine textual_of_suffix fun rest tag hrest htag => ?_
    rw [List.suffix_iff_eq_drop.1 hrest] at htag
    exact htags _ (Nat.lt_succ_of_le (Nat.sub_le _ _)) tag htag
  have hok : (compile [] {} twoColumns).toOption.isSome = true := by decide +kernel
  refine ⟨hlines, hrule, htextual, ?_⟩
  cases hjob : compile [] {} twoColumns with
  | error fault =>
    rw [hjob] at hok
    cases hok
  | ok job =>
    obtain ⟨segments, d, hbegins, -, -, -, hd, hmeans⟩ :=
      (compile_textual hlines hrule).1 htextual job hjob
    exact ⟨job, segments, d, rfl, hbegins, hd, hmeans⟩

end Markup
end ThermalPrint
