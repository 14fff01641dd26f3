import ThermalPrint.Encode.Job

/-
Columns on a line.

A line is drawn from the places of its columns: spaces fill up what is free in front of a column,
and the runs of the column follow.  What carries the statements about it is the room for the text
that is left, from the column at hand on.  If the room behind the position that is reached is
enough for it, then so it is behind the place of the column, wherever its alignment puts it.  If it
is not enough, no column is moved any more.
-/

namespace ThermalPrint

def TextColumn.shownRuns (c : TextColumn) : List TextRun := c.runs.filter fun r => !r.text.isEmpty

namespace Layout

/-- A part of a line: a run of a column, or spaces in front of a column. -/
inductive Part
  | own (r : TextRun)
  | gap (n : Nat)

namespace Part

def run : Part → TextRun
  | own r => r
  | gap n => padding n

/-- The run of a column, unless it is spaces. -/
def own? : Part → Option TextRun
  | own r => some r
  | gap _ => none

end Part

/-- A column and the position that it starts at. -/
structure Place where
  origin : Nat
  column : TextColumn

def Place.stop (p : Place) : Nat := p.origin + p.column.text.length

def placesFrom (width : Int) : Nat → Bool → List TextColumn → List Place
  | _, _, [] => []
  | position, first, column :: rest =>
    let p : Place := ⟨start width position column rest first, column⟩
    p :: placesFrom width p.stop false rest

def places (width : Int) (columns : List TextColumn) : List Place :=
  placesFrom width 0 true (occupied columns)

def space (position : Nat) (p : Place) : List Part :=
  if p.origin > position then [.gap (p.origin - position)] else []

/-- The parts of a line with columns at places, from a position on. -/
def drawn : Nat → List Place → List Part
  | _, [] => []
  | position, p :: rest => space position p ++ p.column.shownRuns.map .own ++ drawn p.stop rest

/-- The parts of a line of columns. -/
def parts (width : Int) (columns : List TextColumn) : List Part := drawn 0 (places width columns)

/-- The position that is reached behind columns at places. -/
def reached : Nat → List Place → Nat
  | position, [] => position
  | _, p :: rest => reached p.stop rest

def textLength (runs : List TextRun) : Nat := (runs.map (·.text.length)).sum

/-! ## A line as it is drawn -/

section Drawn

theorem textLength_append (front back : List TextRun) :
    textLength (front ++ back) = textLength front + textLength back := by
  rw [textLength, List.map_append, List.sum_append]
  rfl

theorem textLength_shownRuns (c : TextColumn) : textLength c.shownRuns = c.text.length := by
  unfold textLength TextColumn.shownRuns TextColumn.text
  induction c.runs with
  | nil => rfl
  | cons r rest ih =>
    rw [List.flatMap_cons, List.length_append, ← ih]
    by_cases hempty : r.text = []
    · rw [List.filter_cons_of_neg (by simp [hempty]), hempty, List.length_nil, Nat.zero_add]
    · rw [List.filter_cons_of_pos (by simp [hempty]), List.map_cons, List.sum_cons]

theorem totalLength_cons (c : TextColumn) (rest : List TextColumn) :
    totalLength (c :: rest) = c.text.length + totalLength rest := by
  rw [totalLength, List.map_cons, List.sum_cons]
  rfl

theorem totalLength_occupied (columns : List TextColumn) :
    totalLength (occupied columns) = totalLength columns := by
  induction columns with
  | nil => rfl
  | cons c rest ih =>
    unfold occupied at ih ⊢
    by_cases hempty : c.text = []
    · rw [List.filter_cons_of_neg (by simp [hempty]), ih, totalLength_cons, hempty,
        List.length_nil, Nat.zero_add]
    · rw [List.filter_cons_of_pos (by simp [hempty]), totalLength_cons, totalLength_cons, ih]

theorem shownRuns_occupied (columns : List TextColumn) :
    (occupied columns).flatMap (·.shownRuns) = columns.flatMap (·.shownRuns) := by
  induction columns with
  | nil => rfl
  | cons c rest ih =>
    unfold occupied at ih ⊢
    by_cases hempty : c.text = []
    · have hnone : c.shownRuns = [] := by
        refine List.filter_eq_nil_iff.2 fun r hr => ?_
        simp [List.flatMap_eq_nil_iff.1 hempty r hr]
      rw [List.filter_cons_of_neg (by simp [hempty]), ih, List.flatMap_cons, hnone, List.nil_append]
    · rw [List.filter_cons_of_pos (by simp [hempty]), List.flatMap_cons, List.flatMap_cons, ih]

theorem occupied_eq {columns : List TextColumn} (h : ∀ c ∈ columns, c.text ≠ []) :
    occupied columns = columns :=
  List.filter_eq_self.2 fun c hc => by simpa using h c hc

variable {width : Int} {columns : List TextColumn}

theorem placesFrom_columns : ∀ {position : Nat} {first : Bool},
    (placesFrom width position first columns).map Place.column = columns := by
  induction columns with
  | nil => exact rfl
  | cons c rest ih => exact congrArg (c :: ·) ih

theorem own_run (runs : List TextRun) : (runs.map Part.own).map Part.run = runs := by
  rw [List.map_map]
  exact List.map_id _

theorem place_eq : ∀ {position : Nat} {first : Bool},
    place width position first columns =
      (drawn position (placesFrom width position first columns)).map Part.run := by
  induction columns with
  | nil => exact rfl
  | cons c rest ih =>
    intro position first
    rw [place, placesFrom, drawn, ih, List.map_append, List.map_append, own_run, space]
    dsimp only
    split
    · rfl
    · rfl

theorem line_eq (width : Int) (columns : List TextColumn) :
    line width columns = (parts width columns).map Part.run := place_eq

theorem own_drawn (ps : List Place) : ∀ {position : Nat},
    (drawn position ps).filterMap Part.own? = ps.flatMap (·.column.shownRuns) := by
  induction ps with
  | nil => exact rfl
  | cons p rest ih =>
    intro position
    have hgap : (space position p).filterMap Part.own? = [] := by
      unfold space
      split
      · rfl
      · rfl
    have hown : (p.column.shownRuns.map Part.own).filterMap Part.own? = p.column.shownRuns := by
      rw [List.filterMap_map]
      exact List.filterMap_some
    rw [drawn, List.filterMap_append, List.filterMap_append, hgap, hown, ih, List.nil_append,
      List.flatMap_cons]

theorem own_parts (width : Int) (columns : List TextColumn) :
    (parts width columns).filterMap Part.own? = columns.flatMap (·.shownRuns) := by
  have hplaces : (places width columns).map Place.column = occupied columns := placesFrom_columns
  rw [← shownRuns_occupied, ← hplaces, List.flatMap_map]
  exact own_drawn _

theorem drawn_append (front back : List Place) : ∀ {position : Nat},
    drawn position (front ++ back) =
      drawn position front ++ drawn (reached position front) back := by
  induction front with
  | nil => exact rfl
  | cons p rest ih =>
    intro position
    rw [List.cons_append, drawn, drawn, reached, ih, ← List.append_assoc]

end Drawn

/-! ## Room for the text that is left -/

section Room

/-- Where the alignment of a column puts it, if the column before it ends at `position`: a left one
behind that one, a right one with the columns behind it against the margin, and a centered one in
the middle of the line, unless that leaves no room for the columns behind it or is taken. -/
def Stands (width : Int) (position : Nat) (p : Place) (rest : List TextColumn) : Prop :=
  let needed : Int := (p.column.text.length + totalLength rest : Nat)
  let middle : Int := (width - p.column.text.length) / 2
  match p.column.align with
  | .left => p.origin = position
  | .right => p.origin = width - needed
  | .center =>
    if width - needed < middle then p.origin = width - needed
    else if middle < position then p.origin = position
    else p.origin = middle

/-- Each column starts at the position that is reached in front of it, or further on. -/
def Apart : Nat → List Place → Prop
  | _, [] => True
  | position, p :: rest => position ≤ p.origin ∧ Apart p.stop rest

theorem apart_append {front back : List Place} : ∀ {position : Nat},
    Apart position (front ++ back) →
      Apart position front ∧ Apart (reached position front) back := by
  induction front with
  | nil => exact fun h => ⟨trivial, h⟩
  | cons p rest ih => exact fun h => ⟨⟨h.1, (ih h.2).1⟩, (ih h.2).2⟩

theorem textLength_space {position : Nat} {p : Place} (h : position ≤ p.origin) :
    position + textLength ((space position p).map Part.run) = p.origin := by
  unfold space
  split
  · show position + ((List.replicate (p.origin - position) (CodePoint.char ' ')).length + 0) =
      p.origin
    rw [List.length_replicate]
    omega
  · show position + 0 = p.origin
    omega

theorem textLength_drawn {ps : List Place} : ∀ {position : Nat}, Apart position ps →
    position + textLength ((drawn position ps).map Part.run) = reached position ps := by
  induction ps with
  | nil => exact fun _ => rfl
  | cons p rest ih =>
    rintro position ⟨hbehind, hrest⟩
    rw [drawn, List.map_append, List.map_append, own_run, textLength_append, textLength_append,
      textLength_shownRuns, reached, ← ih hrest, ← Nat.add_assoc, ← Nat.add_assoc,
      textLength_space hbehind]
    rfl

/-- In a line that is drawn, the runs of a column stand where its place is. -/
theorem drawn_stands {before after : List Place} {p : Place} {position : Nat}
    (h : Apart position (before ++ p :: after)) :
    ∃ front back, (drawn position (before ++ p :: after)).map Part.run =
      front ++ p.column.shownRuns ++ back ∧ position + textLength front = p.origin := by
  obtain ⟨hbefore, hbehind, -⟩ := apart_append h
  refine ⟨(drawn position before ++ space (reached position before) p).map Part.run,
    (drawn p.stop after).map Part.run, ?_, ?_⟩
  · rw [drawn_append, drawn, ← List.append_assoc, ← List.append_assoc, List.map_append,
      List.map_append, own_run]
  · rw [List.map_append, textLength_append, ← Nat.add_assoc, textLength_drawn hbefore,
      textLength_space hbehind]

theorem reached_append (front back : List Place) : ∀ {position : Nat},
    reached position (front ++ back) = reached (reached position front) back := by
  induction front with
  | nil => exact rfl
  | cons p rest ih => exact ih

variable {width : Int} {position : Nat} {c : TextColumn} {rest columns : List TextColumn}
  {first : Bool}

theorem le_start : position ≤ start width position c rest first := by
  unfold start
  split
  · exact Nat.le_refl _
  · exact Nat.le_max_left _ _

/-- No column is moved further than to where the text from it on ends with the line. -/
theorem start_le : (start width position c rest first : Int) ≤
    max (position : Int) (width - totalLength (c :: rest)) := by
  rw [totalLength_cons]
  unfold start target
  cases first with
  | true => exact Int.le_max_left _ _
  | false =>
    rw [if_neg Bool.false_ne_true]
    dsimp only
    cases c.align with
    | left => dsimp only; omega
    | center => dsimp only; omega
    | right => dsimp only; omega

theorem start_room (h : (position + totalLength (c :: rest) : Nat) ≤ width) :
    (start width position c rest first + totalLength (c :: rest) : Nat) ≤ width := by
  have hmost : (start width position c rest first : Int) ≤ _ := start_le
  omega

/-- Without room for the text that is left, a column starts at the position that is reached. -/
theorem start_crowded (h : width < (position + totalLength (c :: rest) : Nat)) :
    start width position c rest first = position := by
  have hmost : (start width position c rest first : Int) ≤ _ := start_le
  have hleast : position ≤ start width position c rest first := le_start
  omega

/-- A column behind the first starts where its alignment puts it, if there is room. -/
theorem start_stands (h : (position + totalLength (c :: rest) : Nat) ≤ width) :
    Stands width position ⟨start width position c rest false, c⟩ rest := by
  rw [totalLength_cons] at h
  unfold Stands start target
  rw [if_neg Bool.false_ne_true]
  dsimp only
  cases c.align with
  | left => dsimp only; omega
  | center =>
    dsimp only
    rw [Int.fdiv_eq_ediv_of_nonneg _ (by decide)]
    split
    · omega
    · split
      · omega
      · omega
  | right => dsimp only; omega

/-- The room behind a column is enough for the columns behind it. -/
theorem stop_room (h : (position + totalLength (c :: rest) : Nat) ≤ width) :
    ((Place.mk (start width position c rest first) c).stop + totalLength rest : Nat) ≤ width := by
  have hroom : (start width position c rest first + totalLength (c :: rest) : Nat) ≤ width :=
    start_room h
  rw [totalLength_cons, ← Nat.add_assoc] at hroom
  exact hroom

/-- In front of a column there are no more spaces than the line has characters. -/
theorem gapsFrom_le (hwidth : 0 ≤ width) : ∀ {position : Nat} {first : Bool},
    ∀ n ∈ gapsFrom width position first columns, (n : Int) ≤ width := by
  induction columns with
  | nil => exact fun _ hn => absurd hn List.not_mem_nil
  | cons c rest ih =>
    intro position first n hn
    rcases List.mem_cons.1 hn with rfl | hn
    · have hmost : (start width position c rest first : Int) ≤ _ := start_le
      omega
    · exact ih n hn

theorem gaps_short {width : Nat} (h : width ≤ Text.room) (columns : List TextColumn) :
    (gaps width columns).findSome? Encode.lengthFault? = none := by
  refine List.findSome?_eq_none_iff.2 fun n hn => Encode.lengthFault?_short ?_
  have hmost : (n : Int) ≤ width := gapsFrom_le (Int.natCast_nonneg width) n hn
  omega

theorem placesFrom_apart : ∀ {position : Nat} {first : Bool},
    Apart position (placesFrom width position first columns) := by
  induction columns with
  | nil => exact trivial
  | cons c rest ih => exact ⟨le_start, ih⟩

theorem reached_le : ∀ {position : Nat} {first : Bool},
    (position + totalLength columns : Nat) ≤ width →
      (reached position (placesFrom width position first columns) : Int) ≤ width := by
  induction columns with
  | nil => exact fun h => h
  | cons c rest ih => exact fun h => ih (stop_room h)

theorem drawn_crowded : ∀ {position : Nat} {first : Bool},
    width < (position + totalLength columns : Nat) →
      drawn position (placesFrom width position first columns) =
        (columns.flatMap (·.shownRuns)).map .own := by
  induction columns with
  | nil => exact fun _ => rfl
  | cons c rest ih =>
    intro position first h
    have hstart : start width position c rest first = position := start_crowded h
    rw [totalLength_cons, ← Nat.add_assoc] at h
    rw [placesFrom, hstart, drawn, space, if_neg (Nat.lt_irrefl _), List.flatMap_cons,
      List.map_append]
    exact congrArg (c.shownRuns.map Part.own ++ ·) (ih h)

theorem placesFrom_stands : ∀ {position : Nat} {before after : List Place} {p : Place},
    (position + totalLength columns : Nat) ≤ width →
      placesFrom width position false columns = before ++ p :: after →
        Stands width (reached position before) p (after.map Place.column) := by
  induction columns with
  | nil =>
    intro position before after p _ h
    cases before with
    | nil => cases h
    | cons => cases h
  | cons c rest ih =>
    intro position before after p hroom h
    rw [placesFrom] at h
    cases before with
    | nil =>
      obtain ⟨rfl, rfl⟩ := List.cons.inj h
      rw [placesFrom_columns]
      exact start_stands hroom
    | cons b before =>
      obtain ⟨rfl, hrest⟩ := List.cons.inj h
      show Stands width (reached (Place.mk _ c).stop before) p _
      exact ih (stop_room hroom) hrest

/-- A column that is not the first stands where its alignment puts it. -/
theorem places_stands {before after : List Place} {p : Place}
    (hfits : (totalLength columns : Int) ≤ width)
    (h : places width columns = before ++ p :: after) (hlater : before ≠ []) :
    Stands width (reached 0 before) p (after.map Place.column) := by
  rw [← totalLength_occupied] at hfits
  unfold places at h
  cases hcases : occupied columns with
  | nil =>
    rw [hcases] at h
    exact absurd (List.append_eq_nil_iff.1 h.symm).1 hlater
  | cons c rest =>
    rw [hcases] at h hfits
    cases before with
    | nil => exact absurd rfl hlater
    | cons b before =>
      obtain ⟨rfl, hrest⟩ := List.cons.inj h
      have hroom : ((Place.mk (start width 0 c rest true) c).stop + totalLength rest : Nat) ≤
          width := stop_room (by rwa [Nat.zero_add])
      show Stands width (reached (Place.mk _ c).stop before) p _
      exact placesFrom_stands hroom hrest

end Room

/-- A line has the runs of its columns in order, with nothing but plain spaces between them.  Text
that fits is not spread beyond the line, and up to its very end if there are several columns and
the last stands at the right; text that does not fit is not spread at all. -/
theorem line_spaced (width : Int) (columns : List TextColumn) :
    line width columns = (parts width columns).map Part.run ∧
      (parts width columns).filterMap Part.own? = columns.flatMap (·.shownRuns) ∧
      (∀ p ∈ parts width columns, p.own? = none →
        p.run.bold = false ∧ ∀ c ∈ p.run.text, c = ' ') ∧
      ((totalLength columns : Int) ≤ width →
        (textLength (line width columns) : Int) ≤ width ∧
          ∀ front last, occupied columns = front ++ [last] → front ≠ [] → last.align = .right →
            (textLength (line width columns) : Int) = width) ∧
      (width < totalLength columns → ∀ p ∈ parts width columns, p.own? ≠ none) := by
  have hlength : textLength (line width columns) = reached 0 (places width columns) := by
    rw [line_eq, ← Nat.zero_add (textLength _)]
    exact textLength_drawn placesFrom_apart
  refine ⟨line_eq width columns, own_parts width columns, ?_, fun hfits => ⟨?_, ?_⟩,
    fun hcrowded => ?_⟩
  · intro p _ hgap
    cases p with
    | own r => cases hgap
    | gap n => exact ⟨rfl, fun c hc => (List.mem_replicate.1 hc).2⟩
  · rw [hlength]
    rw [← totalLength_occupied] at hfits
    exact reached_le (by rwa [Nat.zero_add])
  · intro front last hcolumns hfront hright
    have hplaces : (places width columns).map Place.column = front ++ [last] :=
      placesFrom_columns.trans hcolumns
    obtain ⟨before, behind, hsplit, rfl, hlast⟩ := List.map_eq_append_iff.1 hplaces
    obtain ⟨p, rfl, rfl⟩ := List.map_eq_singleton_iff.1 hlast
    have hstands := places_stands hfits hsplit (by rintro rfl; exact hfront rfl)
    have horigin : (p.origin : Int) = width - (p.column.text.length + 0 : Nat) := by
      unfold Stands at hstands
      rw [hright] at hstands
      exact hstands
    rw [hlength, hsplit, reached_append]
    show ((p.origin + p.column.text.length : Nat) : Int) = width
    omega
  · rw [← totalLength_occupied] at hcrowded
    intro p hp
    rw [parts, places, drawn_crowded (by rwa [Nat.zero_add])] at hp
    obtain ⟨r, -, rfl⟩ := List.mem_map.1 hp
    exact nofun

def item : List TextColumn :=
  [⟨.left, [⟨"Tea".toText, true⟩]⟩, ⟨.center, [⟨[], false⟩]⟩, ⟨.right, [⟨"2.50".toText, false⟩]⟩]

theorem line_spaced_item :
    ((totalLength item : Int) ≤ 11 ∧ (textLength (line 11 item) : Int) = 11) ∧
      ((5 : Int) < totalLength item ∧ ∀ p ∈ parts 5 item, p.own? ≠ none) := by
  obtain ⟨-, -, -, hfits, -⟩ := line_spaced 11 item
  obtain ⟨-, -, -, -, hcrowded⟩ := line_spaced 5 item
  have hroom : (totalLength item : Int) ≤ 11 := by decide
  have hnone : (5 : Int) < totalLength item := by decide
  exact ⟨⟨hroom, (hfits hroom).2 [⟨.left, [⟨"Tea".toText, true⟩]⟩]
    ⟨.right, [⟨"2.50".toText, false⟩]⟩ (by decide) (by decide) rfl⟩, hnone, hcrowded hnone⟩

/-- Columns that fit on a line stand where their alignments put them, but for the first, which
stands at the left margin whatever its alignment is. -/
theorem columns_stand {width : Int} {columns : List TextColumn} (htext : ∀ c ∈ columns, c.text ≠ [])
    (hfits : (totalLength columns : Int) ≤ width) :
    (places width columns).map Place.column = columns ∧
      ∀ before p after, places width columns = before ++ p :: after →
        (∃ front back, line width columns = front ++ p.column.shownRuns ++ back ∧
          textLength front = p.origin) ∧
        (before = [] → p.origin = 0) ∧
        (before ≠ [] ∨ p.column.align = .left →
          Stands width (reached 0 before) p (after.map Place.column)) := by
  have hcolumns : occupied columns = columns := occupied_eq htext
  refine ⟨placesFrom_columns.trans hcolumns, fun before p after hsplit => ?_⟩
  have hfirst : before = [] → p.origin = 0 := by
    rintro rfl
    unfold places at hsplit
    cases hcases : occupied columns with
    | nil =>
      rw [hcases] at hsplit
      cases hsplit
    | cons c rest =>
      rw [hcases] at hsplit
      obtain ⟨rfl, -⟩ := List.cons.inj hsplit
      rfl
  refine ⟨?_, hfirst, ?_⟩
  · have hapart : Apart 0 (places width columns) := placesFrom_apart
    rw [hsplit] at hapart
    obtain ⟨front, back, hline, horigin⟩ := drawn_stands hapart
    rw [Nat.zero_add] at horigin
    exact ⟨front, back, by rw [line_eq, parts, hsplit, hline], horigin⟩
  · rintro (hlater | hleft)
    · exact places_stands hfits hsplit hlater
    · by_cases hbefore : before = []
      · unfold Stands
        rw [hleft, hfirst hbefore, hbefore]
        rfl
      · exact places_stands hfits hsplit hbefore

def spread : List TextColumn :=
  [⟨.left, [⟨"A".toText, false⟩]⟩, ⟨.center, [⟨"MID".toText, false⟩]⟩,
    ⟨.right, [⟨"Z".toText, false⟩]⟩]

theorem columns_stand_spread :
    (∀ c ∈ spread, c.text ≠ []) ∧ (totalLength spread : Int) ≤ 11 ∧
      Stands 11 1 ⟨4, ⟨.center, [⟨"MID".toText, false⟩]⟩⟩ [⟨.right, [⟨"Z".toText, false⟩]⟩] := by
  have htext : ∀ c ∈ spread, c.text ≠ [] := by decide
  have hfits : (totalLength spread : Int) ≤ 11 := by decide
  obtain ⟨-, hplaces⟩ := columns_stand htext hfits
  obtain ⟨-, -, hstands⟩ := hplaces [⟨0, ⟨.left, [⟨"A".toText, false⟩]⟩⟩]
    ⟨4, ⟨.center, [⟨"MID".toText, false⟩]⟩⟩ [⟨10, ⟨.right, [⟨"Z".toText, false⟩]⟩⟩] rfl
  exact ⟨htext, hfits, hstands (.inl (by decide))⟩

def headed : List TextColumn :=
  [⟨.center, [⟨"MID".toText, false⟩]⟩, ⟨.right, [⟨"Z".toText, false⟩]⟩]

/-- A centered column in front is not centered. -/
theorem first_unmoved :
    2 ≤ headed.length ∧ (∀ c ∈ headed, c.text ≠ []) ∧ (totalLength headed : Int) ≤ 11 ∧
      ∃ p after, places 11 headed = p :: after ∧ p.column.align = .center ∧
        ¬ Stands 11 0 p (after.map Place.column) := by
  refine ⟨by decide, by decide, by decide, _, _, rfl, rfl, fun hstands => ?_⟩
  have hmiddle : (0 : Int) = 4 := hstands
  cases hmiddle

end Layout
end ThermalPrint
