import ThermalPrint.Encode.Job
import ThermalPrint.Proofs.Bytes
import ThermalPrint.Proofs.Encode.Layout
import ThermalPrint.Proofs.Encode.Payload
import ThermalPrint.Proofs.Encode.Reader
import ThermalPrint.Proofs.Outcome
import ThermalPrint.Proofs.Text.Charset

/-
The commands for a job are framed.  What a directive puts on paper as it is has to be free of
control characters for that; whatever else it holds is counted by the command that carries it.
-/

namespace ThermalPrint

/-- A character within a line of text: no control character but the tab and the carriage return. -/
def Text.InLine (c : CodePoint) : Prop := c = '\t' ∨ c = '\r' ∨ (32 ≤ c.toNat ∧ c.toNat ≠ 127)

instance (c : CodePoint) : Decidable (Text.InLine c) := inferInstanceAs (Decidable (_ ∨ _))

namespace Layout

theorem line_letters {width : Int} {columns : List TextColumn} {r : TextRun} {c : CodePoint}
    (hr : r ∈ line width columns) (hc : c ∈ r.text) : c = ' ' ∨ ∃ k ∈ columns, c ∈ k.text := by
  rw [line_eq] at hr
  obtain ⟨p, hp, rfl⟩ := List.mem_map.1 hr
  cases p with
  | gap n => exact .inl (List.mem_replicate.1 hc).2
  | own r =>
    have hown : r ∈ (parts width columns).filterMap Part.own? :=
      List.mem_filterMap.2 ⟨_, hp, rfl⟩
    rw [own_parts] at hown
    obtain ⟨k, hk, hshown⟩ := List.mem_flatMap.1 hown
    exact .inr ⟨k, hk, TextColumn.mem_text.2 ⟨r, (List.mem_filter.1 hshown).1, hc⟩⟩

end Layout

namespace Raster

theorem padded_width (r : Raster) {width : Nat} (align : Align) (fits : r.width ≤ width) :
    (r.padded width align fits).width = width := by
  unfold padded
  split
  · assumption
  · rfl

theorem padded_height (r : Raster) {width : Nat} (align : Align) (fits : r.width ≤ width) :
    (r.padded width align fits).height = r.height := by
  unfold padded
  split
  · rfl
  · rfl

end Raster

theorem Gray.ink_length (g : Gray) : g.ink.toList.length = rowBytes g.width * g.height := by
  rw [Bytes.toList_eq]
  exact Bytes.generate_size _ _

namespace Encode

open Text (InLine)

variable {config : SessionConfig}

theorem letter_framed {t : Text} {b : UInt8} (ht : ∀ c ∈ t, InLine c)
    (h : b ∈ (Text.Charset.page Text.Charset.cp437).encode t) :
    Instruction.IsLetter b := by
  obtain ⟨c, hc, hb⟩ := Text.Charset.page_byte (Nat.le_of_eq Text.Charset.cp437_length) h
  by_cases hascii : c.toNat < 128
  · rw [if_pos hascii] at hb
    have hn : b.toNat = c.toNat := by
      rw [hb, UInt8.toNat_ofNat']
      omega
    rcases ht c hc with rfl | rfl | ⟨hlow, hdel⟩
    · exact .inl hb
    · exact .inr (.inl hb)
    · refine .inr (.inr ⟨?_, ?_⟩)
      · rw [UInt8.le_iff_toNat_le, hn]
        exact hlow
      · rintro rfl
        exact hdel hn.symm
  · rw [if_neg hascii] at hb
    refine .inr (.inr ?_)
    rcases hb with hb | rfl
    · rw [UInt8.le_iff_toNat_le] at hb ⊢
      have hhigh : 128 ≤ b.toNat := hb
      refine ⟨?_, ?_⟩
      · show 32 ≤ b.toNat
        omega
      · rintro rfl
        revert hhigh
        decide
    · decide

theorem textCommand_framed (hset : config.charset = "cp437") {t : Text} {command : Command}
    (ht : ∀ c ∈ t, InLine c) (h : textCommand config t = .ok command) : command.Framed := by
  rw [textCommand, hset, Text.Charset.ofName_cp437] at h
  cases h
  intro b hb
  exact letter_framed ht hb

theorem runCommands_framed (hset : config.charset = "cp437") {runs : List TextRun} :
    ∀ {bold : Bool} {commands : List Command}, (∀ r ∈ runs, ∀ c ∈ r.text, InLine c) →
      runCommands config bold runs = .ok commands → ∀ c ∈ commands, c.Framed := by
  induction runs with
  | nil =>
    intro bold commands _ h c hc
    cases h
    split at hc
    · rw [List.mem_singleton.1 hc]
      trivial
    · cases hc
  | cons run rest ih =>
    intro bold commands hruns h
    rw [runCommands] at h
    split at h
    · cases h
    · rename_i command hcommand
      have hown := textCommand_framed hset (hruns run List.mem_cons_self) hcommand
      obtain ⟨more, hmore, rfl⟩ := Outcome.map_ok h
      have hbehind := ih (fun r hr => hruns r (List.mem_cons_of_mem _ hr)) hmore
      intro c hc
      rw [List.mem_append, List.mem_cons] at hc
      rcases hc with hswitch | rfl | hc
      · split at hswitch
        · rw [List.mem_singleton.1 hswitch]
          trivial
        · cases hswitch
      · exact hown
      · exact hbehind c hc

theorem columnsOf_letters {line : AlignedText} {column : TextColumn} {r : TextRun} {c : CodePoint}
    (hcolumn : column ∈ columnsOf line) (hr : r ∈ column.runs) (hc : c ∈ r.text) :
    c ∈ line.letters := by
  rw [AlignedText.letters, List.mem_append]
  unfold columnsOf at hcolumn
  split at hcolumn
  · left
    rw [List.mem_singleton.1 hcolumn] at hr
    rw [List.mem_singleton.1 hr] at hc
    exact hc
  · right
    exact List.mem_flatMap.2 ⟨column, hcolumn, TextColumn.mem_text.2 ⟨r, hr, hc⟩⟩

theorem textLine_framed (hset : config.charset = "cp437") {line : AlignedText}
    {commands : List Command}
    (hline : ∀ k ∈ columnsOf line, ∀ r ∈ k.runs, ∀ c ∈ r.text, InLine c)
    (h : textLine config line = .ok commands) : ∀ c ∈ commands, c.Framed := by
  -- In front of the text and behind it there are commands without data.
  have hframe : ∀ {a : Align} {bold : Bool} {body : List Command}, (∀ c ∈ body, c.Framed) →
      ∀ c ∈ Command.align a :: .emphasis bold :: body ++ [.lineFeed], c.Framed := by
    intro a bold body hbody c hc
    rw [List.mem_append, List.mem_cons, List.mem_cons, List.mem_singleton] at hc
    rcases hc with (rfl | rfl | hc) | rfl
    · trivial
    · trivial
    · exact hbody c hc
    · trivial
  unfold textLine at h
  split at h
  · rename_i column heq
    obtain ⟨body, hbody, rfl⟩ := Outcome.map_ok h
    have hcolumn : column ∈ columnsOf line := by rw [heq]; exact List.mem_cons_self
    exact hframe (runCommands_framed hset (hline column hcolumn) hbody)
  · split at h
    case h_1 => cases h
    obtain ⟨body, hbody, rfl⟩ := Outcome.map_ok h
    refine hframe (runCommands_framed hset (fun r hr c hc => ?_) hbody)
    rcases Layout.line_letters hr hc with rfl | ⟨k, hk, hck⟩
    · exact .inr (.inr (by decide))
    · obtain ⟨run, hrun, hcrun⟩ := TextColumn.mem_text.1 hck
      exact hline k hk run hrun c hcrun

theorem rule_framed (hset : config.charset = "cp437") {mark : Text} {commands : List Command}
    (hmark : ∀ c ∈ mark, InLine c) (h : rule config mark = .ok commands) :
    ∀ c ∈ commands, c.Framed := by
  have hfirst : InLine (mark.head?.getD '-') := by
    cases mark with
    | nil => exact .inr (.inr (by decide))
    | cons c rest => exact hmark c List.mem_cons_self
  unfold rule at h
  split at h
  case h_1 => cases h
  obtain ⟨command, hcommand, rfl⟩ := Outcome.map_ok h
  have hown : command.Framed := by
    refine textCommand_framed hset (fun c hc => ?_) hcommand
    rw [(List.mem_replicate.1 hc).2]
    exact hfirst
  intro c hc
  simp only [List.mem_cons, List.not_mem_nil, or_false] at hc
  rcases hc with rfl | rfl | rfl | rfl
  · trivial
  · trivial
  · exact hown
  · trivial

theorem image_framed (hdots : config.dotsPerLine ≤ 524280) {raster : Raster} {align : Align}
    {commands : List Command} (h : image config raster align = .ok commands) :
    ∀ c ∈ commands, c.Framed := by
  unfold image at h
  split at h
  · rename_i fits
    cases h
    intro c hc
    rcases List.mem_cons.1 hc with rfl | hc
    · trivial
    · obtain ⟨top, -, rfl⟩ := List.mem_map.1 hc
      refine ⟨?_, ?_, Gray.ink_length _⟩
      · show rowBytes (raster.padded config.dotsPerLine align fits).width < 65536
        rw [Raster.padded_width, rowBytes]
        omega
      · show min _ (top + Raster.maxBlockRows) - top < 65536
        have hmax : Raster.maxBlockRows = 256 := rfl
        omega
  · cases h

theorem qrCode_ok {data : Text} {size : Int} {align : Align} {commands : List Command}
    (h : qrCode data size align = .ok commands) : ∃ bytes : List UInt8, bytes.length ≤ qrLimit ∧
      commands = [.align align, .symbol [0x31, 0x41, 0x32, 0x00],
        .symbol [0x31, 0x43, clamp 1 16 size], .symbol [0x31, 0x45, 0x31],
        .symbol (0x31 :: 0x50 :: 0x30 :: bytes), .symbol [0x31, 0x51, 0x30], .lineFeed] := by
  unfold qrCode at h
  obtain ⟨bytes, -, h⟩ := Outcome.bind_ok h
  split at h
  · cases h
  · split at h
    · cases h
    · rename_i hlimit
      exact ⟨bytes, Nat.le_of_not_gt hlimit, (Except.ok.inj h).symm⟩

theorem qrCode_framed {data : Text} {size : Int} {align : Align} {commands : List Command}
    (h : qrCode data size align = .ok commands) : ∀ c ∈ commands, c.Framed := by
  obtain ⟨bytes, hlimit, rfl⟩ := qrCode_ok h
  have hbody : (0x31 :: 0x50 :: 0x30 :: bytes).length < 65536 := by
    have hmax : qrLimit = 7089 := rfl
    simp only [List.length_cons]
    omega
  intro c hc
  simp only [List.mem_cons, List.not_mem_nil, or_false] at hc
  rcases hc with rfl | rfl | rfl | rfl | rfl | rfl | rfl
  case inr.inr.inr.inr.inl => exact hbody
  all_goals simp [Command.Framed]

theorem barcode_framed {symbology data : Text} {height : Int} {align : Align}
    {commands : List Command} (h : barcode symbology data height align = .ok commands) :
    ∀ c ∈ commands, c.Framed := by
  unfold barcode at h
  dsimp only at h
  split at h
  · exact qrCode_framed h
  · obtain ⟨⟨system, bytes⟩, hpayload, rfl⟩ := Outcome.map_ok h
    have hbytes := payload_length hpayload
    intro c hc
    simp only [List.mem_cons, List.not_mem_nil, or_false] at hc
    rcases hc with rfl | rfl | rfl | rfl | rfl | rfl | rfl
    case inr.inr.inr.inr.inr.inl => exact hbytes
    all_goals trivial

theorem directive_framed (hset : config.charset = "cp437") (hdots : config.dotsPerLine ≤ 524280)
    {d : Directive} {commands : List Command} (hd : ∀ c ∈ d.letters, InLine c)
    (h : directive config d = .ok commands) : ∀ c ∈ commands, c.Framed := by
  cases d with
  | text line =>
    exact textLine_framed hset (fun k hk r hr c hc => hd c (columnsOf_letters hk hr hc)) h
  | rule mark => exact rule_framed hset hd h
  | image raster align => exact image_framed hdots h
  | barcode symbology data height align => exact barcode_framed h
  | qrCode data size align => exact qrCode_framed h
  | lineFeed =>
    cases h
    intro c hc
    rw [List.mem_singleton.1 hc]
    trivial
  | cut =>
    cases h
    intro c hc
    rcases List.mem_cons.1 hc with rfl | hc
    · trivial
    · rw [List.mem_singleton.1 hc]
      trivial

/-- A job whose letters are fit for lines becomes framed commands. -/
theorem commands_framed (hset : config.charset = "cp437") (hdots : config.dotsPerLine ≤ 524280)
    {j : Job} {cs : List Command} (hj : ∀ d ∈ j, ∀ c ∈ d.letters, InLine c)
    (h : commands config j = .ok cs) : ∀ c ∈ cs, c.Framed := by
  obtain ⟨parts, hparts, rfl⟩ := Outcome.map_ok h
  intro c hc
  rcases List.mem_cons.1 hc with rfl | hc
  · trivial
  · obtain ⟨part, hpart, hc⟩ := List.mem_flatten.1 hc
    obtain ⟨d, hd, hdirective⟩ := Outcome.mem_of_mapM hparts hpart
    exact directive_framed hset hdots (hj d hd) hdirective c hc

end Encode
end ThermalPrint
