import ThermalPrint.Markup.Compile
import ThermalPrint.Proofs.Outcome
import ThermalPrint.Proofs.Text.Split

/-
The lines of a markup text, and what may become of one that is compiled.
-/

namespace ThermalPrint

namespace Markup

theorem unifyBreaks_go_eq {t : Text} (h : .char '\n' ∉ t) :
    ∀ done, unifyBreaks.go done t = done.reverse ++ t := by
  intro done
  fun_induction unifyBreaks.go done t with
  | case1 done => rw [List.append_nil]
  | case2 done rest ih => simp at h
  | case3 done c rest hbreak ih =>
    rw [ih fun hmem => h (List.mem_cons_of_mem _ hmem), List.reverse_cons, List.append_assoc]
    rfl

theorem unifyBreaks_go_mem {done t : Text} {c : CodePoint} (h : c ∈ unifyBreaks.go done t) :
    c ∈ done ∨ c ∈ t := by
  fun_induction unifyBreaks.go done t with
  | case1 done => exact .inl (List.mem_reverse.1 h)
  | case2 done rest ih =>
    have := ih h
    rw [List.mem_cons] at this
    grind
  | case3 done x rest hbreak ih =>
    have := ih h
    rw [List.mem_cons] at this
    grind

theorem sourceLines_mem {t line : Text} {c : CodePoint} (hline : line ∈ sourceLines t)
    (hc : c ∈ line) : c ∈ t ∧ c ≠ '\n' := by
  have hsplit : line ∈ Text.splitOn '\n' (unifyBreaks t) := by
    unfold sourceLines at hline
    dsimp only at hline
    split at hline
    · exact (List.dropLast_sublist _).mem hline
    · exact hline
  obtain ⟨hmem, hne⟩ := Text.splitOn_mem hsplit hc
  rcases unifyBreaks_go_mem hmem with hnil | ht
  · cases hnil
  · exact ⟨ht, hne⟩

theorem sourceLines_line {line : Text} (h : .char '\n' ∉ line) (hne : line ≠ []) :
    sourceLines line = [line] := by
  have hbreaks : unifyBreaks line = line := unifyBreaks_go_eq h []
  have hsplit : Text.splitOn '\n' line = [line] := Text.splitOn_go_eq h [] []
  unfold sourceLines
  rw [hbreaks, hsplit]
  dsimp only
  rw [if_neg]
  simpa using hne

theorem unifyBreaks_go_append (t : Text) :
    ∀ done, unifyBreaks.go done t = done.reverse ++ unifyBreaks t := by
  suffices h : ∀ done more,
      unifyBreaks.go (done ++ more) t = more.reverse ++ unifyBreaks.go done t from
    fun done => h [] done
  intro done more
  fun_induction unifyBreaks.go done t with
  | case1 done => rw [unifyBreaks.go, List.reverse_append]
  | case2 done rest ih => rw [unifyBreaks.go, ← ih]; rfl
  | case3 done c rest hbreak ih =>
    rw [unifyBreaks.go, ← ih]
    · rfl
    · exact hbreak

/-- What stands behind a line feed has no part in what becomes of the text in front. -/
theorem unifyBreaks_append (a : Text) :
    ∃ u, ∀ b, unifyBreaks (a ++ .char '\n' :: b) = u ++ .char '\n' :: unifyBreaks b := by
  suffices h : ∀ done, ∃ u, ∀ b,
      unifyBreaks.go done (a ++ .char '\n' :: b) = u ++ .char '\n' :: unifyBreaks b from h []
  intro done
  fun_induction unifyBreaks.go done a with
  | case1 done =>
    refine ⟨done.reverse, fun b => ?_⟩
    rw [List.nil_append, unifyBreaks.go, unifyBreaks_go_append, List.reverse_cons,
      List.append_assoc]
    · rfl
    · simp
  | case2 done rest ih => exact ih
  | case3 done c rest hbreak ih =>
    -- A carriage return at the end of the text goes with the line feed that is put behind it.
    by_cases hreturn : c = '\r' ∧ rest = []
    · obtain ⟨rfl, rfl⟩ := hreturn
      refine ⟨done.reverse, fun b => ?_⟩
      show unifyBreaks.go (.char '\n' :: done) b = _
      rw [unifyBreaks_go_append, List.reverse_cons, List.append_assoc]
      rfl
    · obtain ⟨u, hu⟩ := ih
      refine ⟨u, fun b => ?_⟩
      rw [List.cons_append, unifyBreaks.go, hu]
      intro rest' hc hrest'
      cases rest with
      | nil => exact hreturn ⟨hc, rfl⟩
      | cons d more =>
        rw [List.cons_append] at hrest'
        cases hrest'
        exact hbreak more hc rfl

theorem unifyBreaks_count (t : Text) :
    (unifyBreaks t).count (.char '\n') = t.count (.char '\n') := by
  suffices h : ∀ done, (unifyBreaks.go done t).count (.char '\n') =
      done.count (.char '\n') + t.count (.char '\n') from
    (h []).trans (by rw [List.count_nil, Nat.zero_add])
  intro done
  fun_induction unifyBreaks.go done t with
  | case1 done => simp
  | case2 done rest ih =>
    rw [ih]
    simp
    omega
  | case3 done c rest hbreak ih =>
    rw [ih]
    simp [List.count_cons]
    omega

theorem sourceLines_break {a u : Text}
    (hu : ∀ b, unifyBreaks (a ++ .char '\n' :: b) = u ++ .char '\n' :: unifyBreaks b) :
    sourceLines (a ++ [.char '\n']) = Text.splitOn '\n' u := by
  have hnil : Text.splitOn '\n' (unifyBreaks []) = [[]] := rfl
  unfold sourceLines
  rw [hu [], Text.splitOn_append, hnil]
  dsimp only
  rw [if_pos (by simp), List.dropLast_concat]

/-- The lines of a text in front of a line feed, and the lines of the text behind it. -/
theorem sourceLines_append (a b : Text) :
    sourceLines (a ++ .char '\n' :: b) = sourceLines (a ++ [.char '\n']) ++ sourceLines b := by
  obtain ⟨u, hu⟩ := unifyBreaks_append a
  have hne := Text.splitOn_ne_nil '\n' (unifyBreaks b)
  rw [sourceLines_break hu]
  unfold sourceLines
  rw [hu b, Text.splitOn_append]
  dsimp only
  rw [List.getLast?_append_of_ne_nil _ hne, List.dropLast_append_of_ne_nil hne]
  split <;> rfl

/-- A carriage return belongs to the line feed behind it, and no line is empty for the one
at the end. -/
example : sourceLines "tea\r\n\ncake\n".toText = ["tea".toText, [], "cake".toText] := by
  decide +kernel

theorem unifyBreaks_over {a : Text} (h : .char '\r' ∉ a) (b : Text) :
    unifyBreaks (a ++ .char '\n' :: b) = a ++ .char '\n' :: unifyBreaks b := by
  induction a with
  | nil =>
    show unifyBreaks.go [.char '\n'] b = _
    rw [unifyBreaks_go_append]
    rfl
  | cons c rest ih =>
    have hc : c ≠ '\r' := fun hc => h (hc ▸ List.mem_cons_self)
    have hstep : unifyBreaks (c :: (rest ++ .char '\n' :: b)) =
        unifyBreaks.go [c] (rest ++ .char '\n' :: b) := unifyBreaks.go.eq_3 _ _ _ (by simp [hc])
    rw [List.cons_append, hstep, unifyBreaks_go_append,
      ih fun hmem => h (List.mem_cons_of_mem c hmem)]
    rfl

theorem sourceLines_cons {line : Text} (hbreak : .char '\n' ∉ line) (hreturn : .char '\r' ∉ line)
    (b : Text) : sourceLines (line ++ .char '\n' :: b) = line :: sourceLines b := by
  have hsplit : Text.splitOn '\n' line = [line] := Text.splitOn_go_eq hbreak [] []
  rw [sourceLines_append, sourceLines_break (unifyBreaks_over hreturn), hsplit]
  rfl

theorem sourceLines_length (a : Text) :
    (sourceLines (a ++ [.char '\n'])).length = a.count (.char '\n') + 1 := by
  obtain ⟨u, hu⟩ := unifyBreaks_append a
  have hcount := unifyBreaks_count (a ++ [.char '\n'])
  rw [hu [], List.count_append, List.count_append] at hcount
  have hends : (.char '\n' :: unifyBreaks []).count (.char '\n') = 1 := rfl
  have hend : [CodePoint.char '\n'].count (.char '\n') = 1 := rfl
  rw [sourceLines_break hu, Text.splitOn_length]
  omega

namespace LineState

/-- What becomes of a line when it takes up a piece. -/
inductive Adds (images : Images) (imageOptional : Bool) (s : LineState) : Piece → LineState → Prop
  | text (t : Text) : Adds images imageOptional s (.text t) { s with buffer := s.buffer ++ t }
  | column (align : Align) :
    Adds images imageOptional s (.column align) { s.endColumn with align := align }
  | bold {on : Bool} (hopen : on = false → s.bold = true) :
    Adds images imageOptional s (.bold on) { s.endRun with bold := on }
  | dropped {e : Element} {attributes : List Attribute} {content : Text}
    (hnone : elementDirective images imageOptional s.align e attributes content = .ok none) :
    Adds images imageOptional s (.element e attributes content) { s with dropped := true }
  | element {e : Element} {attributes : List Attribute} {content : Text} {d : Directive}
    (hd : elementDirective images imageOptional s.align e attributes content = .ok (some d)) :
    Adds images imageOptional s (.element e attributes content)
      { s.endText with done := d :: s.endText.done }

theorem add_ok {images : Images} {imageOptional : Bool} {number : Nat} {s s' : LineState}
    {piece : Piece} (h : s.add images imageOptional number piece = .ok s') :
    s.Adds images imageOptional piece s' := by
  unfold add at h
  split at h
  · cases h
    exact .text _
  · cases h
    exact .column _
  · cases h
    exact .bold nofun
  · split at h
    · rename_i hopen
      cases h
      exact .bold fun _ => hopen
    · cases h
  · split at h
    · cases h
    · rename_i hnone
      cases h
      exact .dropped hnone
    · rename_i d hd
      cases h
      exact .element hd

/-- A line feeds the paper if nothing has come of it and nothing has been left out, or else is what
has come of it. -/
theorem finish_cases {s : LineState} {number : Nat} {job : Job} (h : s.finish number = .ok job) :
    (s.endText.done = [] ∧ job = [.lineFeed]) ∨
    (job = s.endText.done.reverse ∧ (job = [] → s.endText.dropped = true)) := by
  unfold finish at h
  split at h
  · cases h
  · dsimp only at h
    split at h
    · rename_i hempty
      rw [Bool.and_eq_true, List.isEmpty_iff] at hempty
      exact .inl ⟨hempty.1, (Except.ok.inj h).symm⟩
    · rename_i hfilled
      cases h
      refine .inr ⟨rfl, fun hnone => ?_⟩
      rw [List.reverse_eq_nil_iff.1 hnone, List.isEmpty_nil, Bool.true_and] at hfilled
      simpa using hfilled

end LineState

/-- A line that is compiled is blank, or a rule, or its pieces come to the job without a fault. -/
theorem compileLine_cases {images : Images} {imageOptional : Bool} {number : Nat} {line : Text}
    {job : Job} (h : compileLine images imageOptional number line = .ok job) :
    (Text.trim (line.drop (lineAlign line).2) = [] ∧ job = [.lineFeed]) ∨
    (∃ mark, ruleMark? (Text.trim (line.drop (lineAlign line).2)) = some mark ∧
      job = [.rule [mark]]) ∨
    ∃ found s, pieces number ((Cursor.ofLine line).advance (lineAlign line).2) = (found, none) ∧
      found.foldlM (LineState.add images imageOptional number) { align := (lineAlign line).1 } =
        .ok s ∧ s.finish number = .ok job := by
  unfold compileLine at h
  dsimp only at h
  split at h
  · rename_i hempty
    exact .inl ⟨List.isEmpty_iff.1 hempty, (Except.ok.inj h).symm⟩
  · split at h
    · rename_i mark hmark
      exact .inr (.inl ⟨mark, hmark, (Except.ok.inj h).symm⟩)
    · split at h
      · cases h
      · rename_i s hfold
        split at h
        · cases h
        · rename_i hfault
          exact .inr (.inr ⟨_, s, Prod.ext rfl hfault, hfold, h⟩)

/-- A single line is compiled by itself, and the cut comes behind it. -/
theorem compile_only {images : Images} {options : Options} {t line : Text}
    (h : sourceLines t = [line]) :
    compile images options t =
      (compileLine images options.imageOptional 1 line).map
        (· ++ if options.cut then [.cut] else []) := by
  rw [compile, h, List.zipIdx_cons, List.mapM_cons]
  dsimp only
  cases hline : compileLine images options.imageOptional (0 + 1) line with
  | error fault => rfl
  | ok directives =>
    show Except.ok ([directives].flatten ++ _) = Except.ok (directives ++ _)
    rw [List.flatten_singleton]

theorem compile_line_eq {images : Images} {options : Options} {line : Text}
    (hbreak : .char '\n' ∉ line) (hne : line ≠ []) :
    compile images options line =
      (compileLine images options.imageOptional 1 line).map
        (· ++ if options.cut then [.cut] else []) :=
  compile_only (sourceLines_line hbreak hne)

theorem compile_single {images : Images} {options : Options} {line : Text} {job : Job}
    (hbreak : .char '\n' ∉ line) (hne : line ≠ []) (h : compile images options line = .ok job) :
    ∃ directives, compileLine images options.imageOptional 1 line = .ok directives ∧
      job = directives ++ if options.cut then [.cut] else [] := by
  rw [compile_line_eq hbreak hne] at h
  obtain ⟨directives, hline, hjob⟩ := Outcome.map_ok h
  exact ⟨directives, hline, hjob.symm⟩

end Markup
end ThermalPrint
