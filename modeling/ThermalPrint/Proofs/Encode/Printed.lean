import ThermalPrint.Proofs.Encode.Framing
import ThermalPrint.Proofs.Encode.Layout
import ThermalPrint.Proofs.Encode.Reader

/-
Lines of text on paper.

A printer that obeys the instructions it reads keeps the two things that a line of text depends on,
the alignment and the emphasis, and puts down each letter as both stand at the time.  What it does
besides is put down as it was asked for.

The commands for a line switch emphasis only in front of runs that show, and leave it to the state
that the printer is in else.  The printer has each letter in its weight all the same, since the
state that the commands reckon with is the one that it is in.  The weight of white space does not
show, and both the blank runs and the spaces between columns have the one that is left over.
-/

namespace ThermalPrint

/-- A letter on paper: its byte and its weight. -/
structure Letter where
  byte : UInt8
  bold : Bool
deriving DecidableEq, Repr

/-- What a printer leaves on paper. -/
inductive Mark
  | letter (align : Align) (l : Letter)
  | lineEnd (align : Align)
  | other (i : Instruction)
deriving DecidableEq, Repr

structure Printer where
  align : Align
  emphasis : Bool
deriving DecidableEq, Repr

namespace Printer

def alignOf? (n : UInt8) : Option Align :=
  if n = 0 ∨ n = 48 then some .left
  else if n = 1 ∨ n = 49 then some .center
  else if n = 2 ∨ n = 50 then some .right
  else none

/-- The printer behind an instruction, and its marks.  The lowest bit switches emphasis. -/
def obey (p : Printer) : Instruction → Printer × List Mark
  | .reset => (⟨.left, false⟩, [])
  | .align n => ({ p with align := (alignOf? n).getD p.align }, [])
  | .emphasis n => ({ p with emphasis := n % 2 = 1 }, [])
  | .letter b => (p, [.letter p.align ⟨b, p.emphasis⟩])
  | .lineFeed => (p, [.lineEnd p.align])
  | i => (p, [.other i])

def run (p : Printer) : List Instruction → Printer × List Mark
  | [] => (p, [])
  | i :: more => (((p.obey i).1.run more).1, (p.obey i).2 ++ ((p.obey i).1.run more).2)

theorem run_append (p : Printer) (first second : List Instruction) :
    p.run (first ++ second) =
      (((p.run first).1.run second).1, (p.run first).2 ++ ((p.run first).1.run second).2) := by
  induction first generalizing p with
  | nil => rfl
  | cons i more ih =>
    rw [List.cons_append, run, run, ih]
    dsimp only
    rw [List.append_assoc]

theorem run_letters (p : Printer) (bytes : List UInt8) :
    p.run (bytes.map .letter) = (p, bytes.map fun b => .letter p.align ⟨b, p.emphasis⟩) := by
  induction bytes with
  | nil => rfl
  | cons b more ih =>
    rw [List.map_cons, run]
    show ((p.run (more.map .letter)).1, _ :: (p.run (more.map .letter)).2) = _
    rw [ih]
    rfl

end Printer

open Text.Charset (cp437)

/-- The letters of a run, in its weight if it shows. -/
def TextRun.Printed (r : TextRun) (letters : List Letter) : Prop :=
  List.Forall₂ (fun c (l : Letter) =>
    Text.Charset.Shows cp437 l.byte c ∧ (Text.isBlank r.text = false → l.bold = r.bold))
    r.text letters

def TextColumn.Printed (k : TextColumn) (letters : List Letter) : Prop :=
  ∃ parts, List.Forall₂ TextRun.Printed k.runs parts ∧ letters = parts.flatten

/-- Where a line stands: a single column as the line says, and several from the left margin. -/
def AlignedText.side (line : AlignedText) : Align :=
  if line.columns.length = 1 then line.align else .left

/-- The letters of columns, with spaces between one column and the next. -/
inductive ColumnsPrinted : List TextColumn → List Letter → Prop
  | nil : ColumnsPrinted [] []
  | cons {k : TextColumn} {own gap : List Letter} {rest : List TextColumn} {more : List Letter}
      (hown : k.Printed own) (hspaces : ∀ l ∈ gap, l.byte = 32) (hlast : rest = [] → gap = [])
      (hmore : ColumnsPrinted rest more) : ColumnsPrinted (k :: rest) (own ++ gap ++ more)

theorem ColumnsPrinted.single {k : TextColumn} {letters : List Letter} (h : k.Printed letters) :
    ColumnsPrinted [k] letters := by
  have hline := @ColumnsPrinted.cons k letters [] [] [] h nofun (fun _ => rfl) .nil
  rwa [List.append_nil, List.append_nil] at hline

namespace TextRun

theorem printed_encode (r : TextRun) {bold : Bool}
    (h : Text.isBlank r.text = false → bold = r.bold) :
    r.Printed (((Text.Charset.page cp437).encode r.text).map fun b => ⟨b, bold⟩) := by
  rw [TextRun.Printed, List.forall₂_map_right_iff]
  exact (Text.Charset.page_shows (Nat.le_of_eq Text.Charset.cp437_length) r.text).imp
    fun c b hshows => ⟨hshows, h⟩

theorem printed_empty {r : TextRun} (h : r.text = []) : r.Printed [] := by
  rw [TextRun.Printed, h]
  exact .nil

end TextRun

theorem TextColumn.printed_empty {k : TextColumn} (h : k.text = []) : k.Printed [] := by
  refine ⟨k.runs.map fun _ => [], ?_, ?_⟩
  · rw [List.forall₂_map_right_iff, List.forall₂_same]
    exact fun r hr => TextRun.printed_empty (List.flatMap_eq_nil_iff.1 h r hr)
  · simp

namespace Layout

theorem padding_printed {n : Nat} {letters : List Letter} (h : (padding n).Printed letters) :
    ∀ l ∈ letters, l.byte = 32 := by
  have hshows : List.Forall₂ (fun c (l : Letter) => Text.Charset.Shows cp437 l.byte c)
      (List.replicate n (.char ' ')) letters := h.imp fun _ _ hcl => hcl.1
  clear h
  induction n generalizing letters with
  | zero =>
    cases hshows
    exact nofun
  | succ n ih =>
    rw [List.replicate_succ] at hshows
    cases hshows with
    | cons hfirst hrest =>
      intro l hl
      rcases List.mem_cons.1 hl with rfl | hl
      · exact Text.Charset.shows_space Text.Charset.space_cp437 hfirst
      · exact ih hrest l hl

theorem filter_printed {runs : List TextRun} {parts : List (List Letter)}
    (h : List.Forall₂ TextRun.Printed (runs.filter fun r => !r.text.isEmpty) parts) :
    ∃ all, List.Forall₂ TextRun.Printed runs all ∧ all.flatten = parts.flatten := by
  induction runs generalizing parts with
  | nil =>
    cases h
    exact ⟨[], .nil, rfl⟩
  | cons r rest ih =>
    by_cases hempty : r.text = []
    · rw [List.filter_cons_of_neg (by simp [hempty])] at h
      obtain ⟨all, hall, hflat⟩ := ih h
      exact ⟨[] :: all, .cons (TextRun.printed_empty hempty) hall, hflat⟩
    · rw [List.filter_cons_of_pos (by simp [hempty])] at h
      cases h with
      | @cons _ own _ parts hown hparts =>
        obtain ⟨all, hall, hflat⟩ := ih hparts
        exact ⟨own :: all, .cons hown hall, by rw [List.flatten_cons, hflat, List.flatten_cons]⟩

theorem printed_append {runs more : List TextRun} {parts : List (List Letter)}
    (h : List.Forall₂ TextRun.Printed (runs ++ more) parts) :
    ∃ front back, parts = front ++ back ∧ List.Forall₂ TextRun.Printed runs front ∧
      List.Forall₂ TextRun.Printed more back := by
  have hfront := List.forall₂_take runs.length h
  have hback := List.forall₂_drop runs.length h
  rw [List.take_left] at hfront
  rw [List.drop_left] at hback
  exact ⟨_, _, (List.take_append_drop runs.length parts).symm, hfront, hback⟩

/-- What is printed of columns that are laid out from a position on: first the spaces that push
the first of them away from the column before it, if there is one. -/
theorem place_printed {width : Int} {columns : List TextColumn} :
    ∀ {position : Nat} {first : Bool} {parts : List (List Letter)},
      List.Forall₂ TextRun.Printed (place width position first columns) parts →
        ∃ gap more, parts.flatten = gap ++ more ∧ (∀ l ∈ gap, l.byte = 32) ∧
          (first = true ∨ columns = [] → gap = []) ∧ ColumnsPrinted columns more := by
  induction columns with
  | nil =>
    intro position first parts h
    cases h
    exact ⟨[], [], rfl, fun _ h => absurd h List.not_mem_nil, fun _ => rfl, .nil⟩
  | cons k rest ih =>
    intro position first parts h
    rw [place] at h
    generalize horigin : start width position k rest first = origin at h
    obtain ⟨front, behind, rfl, hfront, hbehind⟩ := printed_append h
    obtain ⟨pad, filtered, rfl, hpad, hfiltered⟩ := printed_append hfront
    obtain ⟨own, hown, hflat⟩ := filter_printed hfiltered
    -- The spaces that the rest begins with stand between this column and the next.
    obtain ⟨gap, more, hmore, hspaces, hlast, hrest⟩ := ih hbehind
    refine ⟨pad.flatten, own.flatten ++ gap ++ more, ?_, ?_, ?_,
      .cons ⟨own, hown, rfl⟩ hspaces (fun hend => hlast (.inr hend)) hrest⟩
    · rw [List.flatten_append, List.flatten_append, hflat, hmore, List.append_assoc,
        List.append_assoc]
    · split at hpad
      · cases hpad with
        | @cons _ letters _ _ hpadding hnone =>
          cases hnone
          rw [List.flatten_singleton]
          exact padding_printed hpadding
      · cases hpad
        exact fun _ h => absurd h List.not_mem_nil
    · rintro (hfirst | hnil)
      · rw [hfirst] at horigin
        have hstart : position = origin := horigin
        rw [if_neg (by omega)] at hpad
        cases hpad
        rfl
      · cases hnil

theorem printed_filter {columns : List TextColumn} {letters : List Letter}
    (h : ColumnsPrinted (columns.filter fun k => !k.text.isEmpty) letters) :
    ColumnsPrinted columns letters := by
  induction columns generalizing letters with
  | nil => exact h
  | cons k rest ih =>
    by_cases hempty : k.text = []
    · rw [List.filter_cons_of_neg (by simp [hempty])] at h
      exact @ColumnsPrinted.cons k [] [] rest letters (TextColumn.printed_empty hempty) nofun
        (fun _ => rfl) (ih h)
    · rw [List.filter_cons_of_pos (by simp [hempty])] at h
      cases h with
      | cons hown hspaces hlast hmore =>
        refine .cons hown hspaces (fun hrest => hlast ?_) (ih hmore)
        rw [hrest]
        rfl

/-- A line of columns prints the columns, with spaces between them. -/
theorem line_printed {width : Int} {columns : List TextColumn} {parts : List (List Letter)}
    (h : List.Forall₂ TextRun.Printed (line width columns) parts) :
    ColumnsPrinted columns parts.flatten := by
  obtain ⟨gap, more, hflat, -, hfirst, hmore⟩ := place_printed h
  rw [hflat, hfirst (.inl rfl), List.nil_append]
  exact printed_filter hmore

end Layout

namespace Encode

variable {config : SessionConfig}

theorem columnsOf_columns {line : AlignedText} (h : line.columns ≠ []) :
    columnsOf line = line.columns := if_neg (by simpa using h)

theorem textCommand_eq (hset : config.charset = "cp437") (t : Text) :
    textCommand config t = .ok (.text ((Text.Charset.page cp437).encode t)) := by
  rw [textCommand, hset, Text.Charset.ofName_cp437]

/-- A printer in the state that the commands for runs reckon with prints the runs, and ends without
emphasis. -/
theorem runCommands_printed (hset : config.charset = "cp437") (runs : List TextRun) :
    ∀ bold, ∃ commands parts, runCommands config bold runs = .ok commands ∧
      List.Forall₂ TextRun.Printed runs parts ∧
      ∀ a, Printer.run ⟨a, bold⟩ (commands.flatMap Command.instructions) =
        (⟨a, false⟩, parts.flatten.map (.letter a)) := by
  induction runs with
  | nil =>
    intro bold
    refine ⟨_, [], rfl, .nil, fun a => ?_⟩
    cases bold <;> rfl
  | cons r rest ih =>
    intro bold
    -- The state behind the switch in front of the run, if there is one.
    generalize hswitch : (r.bold != bold && !Text.isBlank r.text) = switches
    generalize hweight : (if switches then r.bold else bold) = weight
    obtain ⟨more, parts, hmore, hparts, hrun⟩ := ih weight
    have hown : Text.isBlank r.text = false → weight = r.bold := by
      intro hshows
      rw [hshows, Bool.not_false, Bool.and_true] at hswitch
      rw [← hweight, ← hswitch]
      cases r.bold <;> cases bold <;> rfl
    have hstate : ∀ a, Printer.run ⟨a, bold⟩
        ((if switches then [Command.emphasis r.bold] else []).flatMap Command.instructions) =
          (⟨a, weight⟩, []) := by
      intro a
      rw [← hweight]
      cases switches with
      | false => rfl
      | true => cases r.bold <;> rfl
    have hcommands : runCommands config bold (r :: rest) =
        .ok ((if switches then [.emphasis r.bold] else []) ++
          .text ((Text.Charset.page cp437).encode r.text) :: more) := by
      rw [runCommands, textCommand_eq hset]
      dsimp only
      rw [hswitch, hweight, hmore]
      rfl
    refine ⟨_, _, hcommands, .cons (r.printed_encode hown) hparts, fun a => ?_⟩
    rw [List.flatMap_append, Printer.run_append, hstate, List.flatMap_cons, Printer.run_append,
      Command.instructions, Printer.run_letters]
    dsimp only
    rw [hrun, List.flatten_cons, List.map_append, List.map_map]
    rfl

/-- The commands in front of a line and behind it, to a printer in any state. -/
theorem frame_printed {a : Align} {bold : Bool} {body : List Command} {letters : List Letter}
    (h : Printer.run ⟨a, bold⟩ (body.flatMap Command.instructions) =
      (⟨a, false⟩, letters.map (.letter a))) (p : Printer) :
    p.run ((Command.align a :: .emphasis bold :: body ++ [Command.lineFeed]).flatMap
        Command.instructions) = (⟨a, false⟩, letters.map (.letter a) ++ [.lineEnd a]) := by
  have hset : p.run (Command.instructions (.align a) ++ Command.instructions (.emphasis bold)) =
      (⟨a, bold⟩, []) := by
    cases a <;> cases bold <;> rfl
  rw [List.flatMap_append, List.flatMap_cons, List.flatMap_cons, ← List.append_assoc,
    Printer.run_append, Printer.run_append, hset]
  dsimp only
  rw [h]
  rfl

/-- The commands for a line with columns print them where it stands. -/
theorem textLine_printed (hset : config.charset = "cp437") {line : AlignedText}
    (hcolumns : line.columns ≠ []) {commands : List Command}
    (h : textLine config line = .ok commands) :
    ∃ letters, ColumnsPrinted line.columns letters ∧
      ∀ p : Printer, p.run (commands.flatMap Command.instructions) =
        (⟨line.side, false⟩, letters.map (.letter line.side) ++ [.lineEnd line.side]) := by
  unfold textLine at h
  unfold AlignedText.side
  rw [columnsOf_columns hcolumns] at h
  split at h
  · rename_i k heq
    obtain ⟨body, parts, hbody, hparts, hrun⟩ :=
      runCommands_printed hset k.runs (firstWeight k.runs)
    dsimp only at h
    rw [hbody] at h
    cases h
    rw [heq]
    exact ⟨parts.flatten, .single ⟨parts, hparts, rfl⟩, frame_printed (hrun _)⟩
  · rename_i hmany
    have hlength : line.columns.length ≠ 1 :=
      mt List.length_eq_one_iff.1 fun ⟨k, hk⟩ => hmany k hk
    obtain ⟨body, parts, hbody, hparts, hrun⟩ :=
      runCommands_printed hset (Layout.line config.charsPerLine line.columns) false
    split at h
    case h_1 => cases h
    rw [hbody] at h
    cases h
    rw [if_neg hlength]
    exact ⟨parts.flatten, Layout.line_printed hparts, frame_printed (hrun _)⟩

/-- A line has commands if there is room for the characters of a line, or it is one column, which is
not laid out. -/
theorem textLine_isOk (hset : config.charset = "cp437") {line : AlignedText}
    (hroom : config.charsPerLine ≤ Text.room ∨ (columnsOf line).length = 1) :
    ∃ commands, textLine config line = .ok commands := by
  have hruns : ∀ bold runs, ∃ commands, runCommands config bold runs = .ok commands := by
    intro bold runs
    obtain ⟨commands, parts, hcommands, -⟩ := runCommands_printed hset runs bold
    exact ⟨commands, hcommands⟩
  unfold textLine
  split
  · rename_i k _
    obtain ⟨commands, hcommands⟩ := hruns (firstWeight k.runs) k.runs
    dsimp only
    rw [hcommands]
    exact ⟨_, rfl⟩
  · rename_i hmany
    have hlength : (columnsOf line).length ≠ 1 :=
      mt List.length_eq_one_iff.1 fun ⟨k, hk⟩ => hmany k hk
    obtain ⟨commands, hcommands⟩ :=
      hruns false (Layout.line config.charsPerLine (columnsOf line))
    rw [Layout.gaps_short (hroom.resolve_right hlength), hcommands]
    exact ⟨_, rfl⟩

/-- A line of text is printed as it is meant to be, whatever state the printer is in: each
character of its columns as the code page has it, those of a run that shows in the weight of the
run, with nothing but spaces between the columns, in the alignment of the line if it is one column
and from the left margin if there are more.  One line feed ends it, with emphasis off.  There are
no bytes for it only where several columns are to be laid out on more characters than there is room
for. -/
theorem text_printed {config : SessionConfig} (hset : config.charset = "cp437")
    {line : AlignedText} (hcolumns : line.columns ≠ [])
    (hplain : ∀ k ∈ line.columns, ∀ r ∈ k.runs, ∀ c ∈ r.text, Text.InLine c) :
    (config.charsPerLine ≤ Text.room ∨ line.columns.length = 1 →
      ∃ commands, directive config (.text line) = .ok commands) ∧
    ∀ commands, directive config (.text line) = .ok commands →
      ∃ instructions letters, Instruction.read (streamOf commands) = some instructions ∧
        ColumnsPrinted line.columns letters ∧
        ∀ p : Printer, p.run instructions =
          (⟨line.side, false⟩, letters.map (.letter line.side) ++ [.lineEnd line.side]) := by
  rw [← columnsOf_columns hcolumns] at hplain
  refine ⟨fun hroom => textLine_isOk hset (columnsOf_columns hcolumns ▸ hroom),
    fun commands hcommands => ?_⟩
  obtain ⟨letters, hletters, hrun⟩ := textLine_printed hset hcolumns hcommands
  exact ⟨_, letters, Instruction.read_stream (textLine_framed hset hplain hcommands), hletters,
    hrun⟩

/-- A line of a bill: a word in bold type, a blank, a sign that the code page does not have, and a
price against the right margin. -/
def billLine : AlignedText :=
  .ofColumns
    ⟨.left, [⟨"Tea".toText, true⟩, ⟨" ".toText, false⟩, ⟨"in €".toText, false⟩]⟩
    [⟨.right, [⟨"4.20".toText, true⟩]⟩]

theorem text_printed_bill :
    SessionConfig.standard.charset = "cp437" ∧ billLine.columns ≠ [] ∧
      (∀ k ∈ billLine.columns, ∀ r ∈ k.runs, ∀ c ∈ r.text, Text.InLine c) ∧
      ∃ commands instructions letters,
        directive SessionConfig.standard (.text billLine) = .ok commands ∧
        Instruction.read (streamOf commands) = some instructions ∧
        ColumnsPrinted billLine.columns letters ∧
        ∀ p : Printer, p.run instructions =
          (⟨.left, false⟩, letters.map (.letter .left) ++ [.lineEnd .left]) := by
  have hset : SessionConfig.standard.charset = "cp437" := rfl
  have hcolumns : billLine.columns ≠ [] := List.cons_ne_nil _ _
  have hletters : (billLine.letters.all fun c => decide (Text.InLine c)) = true := by
    decide +kernel
  have hplain : ∀ k ∈ billLine.columns, ∀ r ∈ k.runs, ∀ c ∈ r.text, Text.InLine c :=
    fun k hk r hr c hc => of_decide_eq_true
      (List.all_eq_true.1 hletters c (columnsOf_letters (columnsOf_columns hcolumns ▸ hk) hr hc))
  obtain ⟨hprints, hprinted⟩ := text_printed hset hcolumns hplain
  obtain ⟨commands, hcommands⟩ := hprints (.inl (by decide))
  obtain ⟨instructions, letters, hread⟩ := hprinted commands hcommands
  exact ⟨hset, hcolumns, hplain, commands, instructions, letters, hcommands, hread⟩

end Encode

end ThermalPrint
