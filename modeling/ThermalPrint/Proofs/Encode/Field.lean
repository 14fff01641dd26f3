import ThermalPrint.Proofs.Encode.Framing
import ThermalPrint.Proofs.Image.Blocks
import ThermalPrint.Proofs.Image.Dots

/-
Images on their way to the printer.  An image is drawn black on white in a field of the whole line
and sent band by band.  What is sent are the blocks that the packed field is cut into.

Images alone are sent by raster commands.  Those of an image are as wide as the line, and have the
rows of the image between them.
-/

namespace ThermalPrint

namespace Encode

open Raster (blockTops blockRows maxBlockRows)

/-- A band of a drawn raster is sent as the block of its rows. -/
theorem band_bytes (p : Raster) {top : Nat} (h : top < p.height) :
    (Command.ofGray (p.toGray.rows top (min p.height (top + maxBlockRows)))).bytes =
      Raster.block p.bytesPerRow (min maxBlockRows (p.height - top))
        (Bytes.slice p.repack.data (top * p.bytesPerRow)
          ((top + min maxBlockRows (p.height - top)) * p.bytesPerRow)) := by
  have hrows : min p.height (top + maxBlockRows) - top = min maxBlockRows (p.height - top) := by
    omega
  have hbottom : min p.height (top + maxBlockRows) = top + min maxBlockRows (p.height - top) := by
    omega
  show Raster.block p.bytesPerRow (min p.height (top + maxBlockRows) - top) _ = _
  rw [Raster.ink_rows p (Nat.min_le_left _ _), hrows, hbottom]

theorem mem_blockTops {height top : Nat} (h : top ∈ blockTops height maxBlockRows) :
    top < height := by
  have hrows : (top, min maxBlockRows (height - top)) ∈ blockRows height maxBlockRows :=
    List.mem_map_of_mem h
  have hsome := (Raster.mem_blockRows (by decide) hrows).1
  omega

/-- The bands of a drawn raster are sent as the blocks of the packed one. -/
theorem bands_bytes (p : Raster) :
    (streamOf ((blockTops p.height maxBlockRows).map fun top =>
      .ofGray (p.toGray.rows top (min p.height (top + maxBlockRows))))) =
        (p.repack.blocks maxBlockRows).flatten := by
  have hbands : (blockTops p.height maxBlockRows).map
      (fun top => (Command.ofGray (p.toGray.rows top (min p.height (top + maxBlockRows)))).bytes) =
        p.repack.blocks maxBlockRows := by
    show _ = (blockRows p.height maxBlockRows).map _
    unfold blockRows
    rw [List.map_map]
    exact List.map_congr_left fun top htop => band_bytes p (mem_blockTops htop)
  rw [streamOf, List.flatMap_map, List.flatMap_def, hbands]

/-- An image is sent as the blocks of the field of the whole line that it stands in, behind the
command for the left margin, and these blocks are read as the dots of that field. -/
theorem image_blocks {config : SessionConfig} (r : Raster) (align : Align)
    (fits : r.width ≤ config.dotsPerLine) (hdots : config.dotsPerLine ≤ 524280) :
    ∃ p commands blocks q, r.paddedTo config.dotsPerLine align = .ok p ∧
      directive config (.image r align) = .ok commands ∧
      p.repack.blocksOf maxBlockRows = .ok blocks ∧
      streamOf commands = [0x1B, 0x61, 0x00] ++ blocks.flatten ∧
      (∀ payload : Text, payload.WritesHex blocks.flatten → Raster.ofHex payload = .ok q) ∧
      q.width = 8 * ((config.dotsPerLine + 7) / 8) ∧ q.height = r.height ∧
      q.data = p.repack.data ∧
      ∀ x < q.width, ∀ y < q.height,
        q.dot x y = (decide (x < config.dotsPerLine) && p.dot x y) := by
  let p := r.padded config.dotsPerLine align fits
  have hwidth : p.width = config.dotsPerLine := Raster.padded_width r align fits
  have hheight : p.height = r.height := Raster.padded_height r align fits
  have hbytes : p.repack.bytesPerRow ≤ 65535 := by
    show rowBytes p.width ≤ 65535
    rw [hwidth, rowBytes]
    omega
  have hcommands : directive config (.image r align) = .ok (.align .left ::
      (blockTops p.height maxBlockRows).map fun top =>
        .ofGray (p.toGray.rows top (min p.height (top + maxBlockRows)))) := dif_pos fits
  refine ⟨p, _, _, p.repack.filled, dif_pos fits, hcommands,
    Raster.blocksOf_eq hbytes (by decide) (by decide), ?_,
    fun payload hpayload => Raster.ofHex_blocks hbytes (by decide) (by decide) hpayload, ?_,
    hheight, rfl, ?_⟩
  · rw [streamOf, List.flatMap_cons]
    exact congrArg ([0x1B, 0x61, 0x00] ++ ·) (bands_bytes p)
  · show 8 * rowBytes p.width = _
    rw [hwidth]
    rfl
  · intro x hx y hy
    rw [Raster.dot_filled, ← hwidth]
    exact Raster.dot_ofDots hx hy

def narrow : SessionConfig :=
  { SessionConfig.standard with dotsPerLine := 12, dots_pos := by decide }

def slip : Raster :=
  ⟨12, 2, [0x80, 0x1F, 0x01, 0x0F].toByteArray, by decide, by decide, rfl⟩

theorem image_blocks_slip :
    slip.width ≤ narrow.dotsPerLine ∧ narrow.dotsPerLine ≤ 524280 ∧
      ∃ commands q, directive narrow (.image slip .right) = .ok commands ∧
        streamOf commands =
          [0x1B, 0x61, 0x00, 0x1D, 0x76, 0x30, 0, 2, 0, 2, 0, 0x80, 0x10, 0x01, 0x00] ∧
        Raster.ofHex "1d763000 02000200 80100100".toText = .ok q ∧ q.width = 16 ∧ q.height = 2 := by
  have fits : slip.width ≤ narrow.dotsPerLine := by decide
  have hdots : narrow.dotsPerLine ≤ 524280 := by decide
  obtain ⟨p, commands, blocks, q, hp, hcommands, hblocks, hstream, hread, hwidth, hheight, -, -⟩ :=
    image_blocks slip .right fits hdots
  have hself : slip.paddedTo narrow.dotsPerLine .right = .ok slip := rfl
  cases hp.symm.trans hself
  have hwritten : slip.repack.blocksOf maxBlockRows =
      .ok [[0x1D, 0x76, 0x30, 0, 2, 0, 2, 0, 0x80, 0x10, 0x01, 0x00]] := by decide +kernel
  cases hblocks.symm.trans hwritten
  exact ⟨fits, hdots, commands, q, hcommands, hstream, hread _ (by decide +kernel), hwidth, hheight⟩

end Encode

/-! ## Raster commands -/

namespace Command

def isRaster : Command → Bool
  | raster .. => true
  | _ => false

/-- The rows of dots that a command prints. -/
def rows : Command → Nat
  | raster _ rows _ => rows
  | _ => 0

/-- A raster command is read off its bytes as a block of a width, whatever follows it. -/
def Spans (width : Nat) : Command → Prop
  | raster w rows body => ∀ place rest,
    Raster.readBlock place none ((raster w rows body).bytes ++ rest) = .ok ⟨width, rows, body, rest⟩
  | _ => True

variable {c : Command}

theorem rows_eq_zero (h : c.isRaster = false) : c.rows = 0 := by
  cases c with
  | raster => cases h
  | _ => rfl

theorem spans_of_not_raster (h : c.isRaster = false) (width : Nat) : c.Spans width := by
  cases c with
  | raster => cases h
  | _ => trivial

end Command

def Directive.rows : Directive → Nat
  | .image r _ => r.height
  | _ => 0

/-- What a directive becomes on a line of so many dots. -/
structure Sent (dots : Nat) (d : Directive) (commands : List Command) : Prop where
  /-- Every raster command is as wide as the line, in whole bytes. -/
  spans : ∀ c ∈ commands, c.Spans ((dots + 7) / 8)
  /-- The rows of an image are those of its raster commands, and nothing else has any. -/
  rows : (commands.map Command.rows).sum = d.rows

namespace Encode

open Raster (blockTops blockRows maxBlockRows)

/-- Neither does a computation give a raster command, nor does it fail for the width of an image. -/
def Imageless : Except EncodeFault (List Command) → Prop
  | .ok commands => commands.any Command.isRaster = false
  | .error fault => ∀ dots room, fault ≠ .tooWide dots room

theorem Imageless.of_map {α : Type} {x : Except EncodeFault α} {f : α → List Command}
    (hok : ∀ a, x = .ok a → (f a).any Command.isRaster = false)
    (herror : ∀ dots room, x ≠ .error (.tooWide dots room)) : Imageless (x.map f) := by
  cases x with
  | ok a => exact hok a rfl
  | error fault => exact fun dots room h => herror dots room (congrArg _ h)

theorem Imageless.map {x : Except EncodeFault (List Command)} {f : List Command → List Command}
    (h : Imageless x) (hf : ∀ body, body.any Command.isRaster = false →
      (f body).any Command.isRaster = false) : Imageless (x.map f) := by
  cases x with
  | ok body => exact hf body h
  | error fault => exact h

section Imageless

variable {config : SessionConfig}

theorem textCommand_ok {t : Text} {c : Command} (h : textCommand config t = .ok c) :
    c.isRaster = false := by
  unfold textCommand at h
  split at h
  · cases h
    rfl
  · cases h

theorem textCommand_error (t : Text) (dots room : Nat) :
    textCommand config t ≠ .error (.tooWide dots room) := by
  unfold textCommand
  split <;> nofun

theorem runCommands_imageless (runs : List TextRun) :
    ∀ bold, Imageless (runCommands config bold runs) := by
  induction runs with
  | nil =>
    intro bold
    cases bold <;> exact rfl
  | cons run rest ih =>
    intro bold
    rw [runCommands]
    split
    · rename_i fault hfault
      rintro dots room rfl
      exact textCommand_error _ dots room hfault
    · rename_i command hcommand
      have hown := textCommand_ok hcommand
      refine (ih _).map fun more hmore => ?_
      have hrest : (command :: more).any Command.isRaster = false := by
        rw [List.any_cons, hown, hmore, Bool.or_self]
      split
      · exact hrest
      · exact hrest

theorem lengthFault_imageless {n : Nat} {fault : EncodeFault} (h : lengthFault? n = some fault) :
    Imageless (.error fault : Except EncodeFault (List Command)) := by
  rcases lengthFault?_cases h with rfl | rfl
  · exact nofun
  · exact nofun

theorem textLine_imageless (line : AlignedText) : Imageless (textLine config line) := by
  have hframe : ∀ {a : Align} {first bold : Bool} {runs : List TextRun}, Imageless
      ((runCommands config bold runs).map fun commands =>
        .align a :: .emphasis first :: commands ++ [.lineFeed]) := by
    intro a first bold runs
    refine (runCommands_imageless runs bold).map fun body hbody => ?_
    show (body ++ [Command.lineFeed]).any Command.isRaster = false
    rw [List.any_append, hbody]
    rfl
  unfold textLine
  split
  · exact hframe
  · split
    · rename_i fault hfault
      obtain ⟨n, -, hn⟩ := List.exists_of_findSome?_eq_some hfault
      exact lengthFault_imageless hn
    · exact hframe

theorem rule_imageless (mark : Text) : Imageless (rule config mark) := by
  unfold rule
  split
  · rename_i fault hfault
    exact lengthFault_imageless hfault
  · refine .of_map (fun c hc => ?_) (textCommand_error _)
    show (c.isRaster || false) = false
    rw [textCommand_ok hc, Bool.or_self]

theorem qrCode_imageless (data : Text) (size : Int) (align : Align) :
    Imageless (qrCode data size align) := by
  unfold qrCode
  cases Utf8.encode data with
  | error fault => exact nofun
  | ok bytes =>
    show Imageless (if _ then _ else _)
    split
    · exact nofun
    · split
      · exact nofun
      · exact rfl

theorem payload_error (symbology : Text) (given data : Text) (dots room : Nat) :
    payload symbology given data ≠ .error (.tooWide dots room) := by
  intro h
  have hsends := payload_sends symbology given data
  rw [h] at hsends
  cases hsends

theorem barcode_imageless (symbology data : Text) (height : Int) (align : Align) :
    Imageless (barcode symbology data height align) := by
  unfold barcode
  dsimp only
  split
  · exact qrCode_imageless data 6 align
  · exact .of_map (fun _ _ => rfl) (payload_error _ _ _)

theorem directive_imageless {d : Directive} (h : ∀ r align, d ≠ .image r align) :
    Imageless (directive config d) := by
  cases d with
  | text line => exact textLine_imageless line
  | rule mark => exact rule_imageless mark
  | image r align => exact absurd rfl (h r align)
  | barcode symbology data height align => exact barcode_imageless symbology data height align
  | qrCode data size align => exact qrCode_imageless data size align
  | lineFeed => exact rfl
  | cut => exact rfl

end Imageless

section Sent

variable {config : SessionConfig} {d : Directive} {commands : List Command}

/-- Only an image that is wider than the line is too wide. -/
theorem directive_tooWide {dots room : Nat} (h : directive config d = .error (.tooWide dots room)) :
    ∃ r align, d = .image r align ∧ config.dotsPerLine < r.width := by
  by_cases himage : ∃ r align, d = .image r align
  · obtain ⟨r, align, rfl⟩ := himage
    refine ⟨r, align, rfl, Nat.lt_of_not_le fun fits => ?_⟩
    rw [directive, image, dif_pos fits] at h
    cases h
  · have hnone : Imageless (directive config d) :=
      directive_imageless fun r align hd => himage ⟨r, align, hd⟩
    rw [h] at hnone
    exact absurd rfl (hnone dots room)

def bandOf (p : Raster) (top : Nat) : Command :=
  .ofGray (p.toGray.rows top (min p.height (top + maxBlockRows)))

theorem band_rows (p : Raster) (top : Nat) :
    (bandOf p top).rows = min maxBlockRows (p.height - top) := by
  show min p.height (top + maxBlockRows) - top = _
  omega

theorem band_spans {p : Raster} (hwidth : p.width ≤ 524280) {top : Nat} (h : top < p.height) :
    (bandOf p top).Spans (rowBytes p.width) := by
  intro place rest
  refine Raster.readBlock_block ?_ ?_ (Gray.ink_length _) (.inl rfl)
  · show 0 < rowBytes p.width ∧ rowBytes p.width < 65536
    have hpos := p.width_pos
    unfold rowBytes
    omega
  · show 0 < (bandOf p top).rows ∧ (bandOf p top).rows < 65536
    have hmax : maxBlockRows = 256 := rfl
    rw [band_rows]
    omega

theorem bands_rows (p : Raster) :
    (((blockTops p.height maxBlockRows).map (bandOf p)).map Command.rows).sum = p.height := by
  have heach : ∀ top ∈ blockTops p.height maxBlockRows,
      (bandOf p top).rows = min maxBlockRows (p.height - top) := fun top _ => band_rows p top
  calc (((blockTops p.height maxBlockRows).map (bandOf p)).map Command.rows).sum
      = ((blockTops p.height maxBlockRows).map
          fun top => min maxBlockRows (p.height - top)).sum := by
        rw [List.map_map]
        exact congrArg List.sum (List.map_congr_left heach)
    _ = ((blockRows p.height maxBlockRows).map Prod.snd).sum := by
        rw [blockRows, List.map_map]
        rfl
    _ = p.height := Raster.sum_blockRows (by decide)

theorem image_sent (hdots : config.dotsPerLine ≤ 524280) {r : Raster} {align : Align}
    (h : image config r align = .ok commands) :
    Sent config.dotsPerLine (.image r align) commands := by
  unfold image at h
  split at h
  · rename_i fits
    cases h
    have hwidth := r.padded_width align fits
    have hheight := r.padded_height align fits
    generalize r.padded config.dotsPerLine align fits = field at *
    constructor
    · intro c hc
      rcases List.mem_cons.1 hc with rfl | hc
      · trivial
      · obtain ⟨top, htop, rfl⟩ := List.mem_map.1 hc
        show (bandOf field top).Spans (rowBytes config.dotsPerLine)
        rw [← hwidth]
        exact band_spans (hwidth ▸ hdots) (mem_blockTops htop)
    · show 0 + (((blockTops field.height maxBlockRows).map (bandOf field)).map Command.rows).sum =
        r.height
      rw [bands_rows, Nat.zero_add, hheight]
  · cases h

theorem directive_sent (hdots : config.dotsPerLine ≤ 524280)
    (h : directive config d = .ok commands) : Sent config.dotsPerLine d commands := by
  by_cases himage : ∃ r align, d = .image r align
  · obtain ⟨r, align, rfl⟩ := himage
    exact image_sent hdots h
  · have hnone : Imageless (directive config d) :=
      directive_imageless fun r align hd => himage ⟨r, align, hd⟩
    rw [h] at hnone
    have hplain : ∀ c ∈ commands, c.isRaster = false := by
      intro c hc
      cases hraster : c.isRaster with
      | false => rfl
      | true => rw [Imageless, List.any_eq_true.2 ⟨c, hc, hraster⟩] at hnone; cases hnone
    have hrows : d.rows = 0 := by
      cases d with
      | image r align => exact absurd ⟨r, align, rfl⟩ himage
      | _ => rfl
    refine ⟨fun c hc => Command.spans_of_not_raster (hplain c hc) _, ?_⟩
    rw [hrows]
    refine List.sum_eq_zero_iff_forall_eq_nat.2 fun n hn => ?_
    obtain ⟨c, hc, rfl⟩ := List.mem_map.1 hn
    exact Command.rows_eq_zero (hplain c hc)

/-- The commands for a job are those for its directives, each sent within the line. -/
theorem commands_sent (hdots : config.dotsPerLine ≤ 524280) {job : Job}
    (h : Encode.commands config job = .ok commands) :
    ∃ parts, List.Forall₂ (Sent config.dotsPerLine) job parts ∧
      commands = .reset :: parts.flatten := by
  obtain ⟨parts, hparts, rfl⟩ := Outcome.map_ok h
  exact ⟨parts, (Outcome.mapM_ok hparts).imp fun _ _ hd => directive_sent hdots hd, rfl⟩

end Sent

end Encode
end ThermalPrint
