import ThermalPrint.Encode.Command
import ThermalPrint.Proofs.Bytes

/-
A printer's side of the stream.  The reader knows the commands by their first bytes and how much
belongs to each.  It takes every other byte for a letter if it can be one, and gives up else, as it
does where a command is cut short.
-/

namespace ThermalPrint

/-- What a printer is told by the bytes at hand.  Text comes letter by letter. -/
inductive Instruction
  | reset
  | align (n : UInt8)
  | emphasis (n : UInt8)
  | feed (n : UInt8)
  | cut (n : UInt8)
  | barcodeHeight (n : UInt8)
  | barcodeWidth (n : UInt8)
  | barcodeFont (n : UInt8)
  | barcodeCaption (n : UInt8)
  | raster (mode : UInt8) (width rows : Nat) (body : List UInt8)
  | barcode (system : UInt8) (data : List UInt8)
  | symbol (parameters : List UInt8)
  | lineFeed
  | letter (b : UInt8)
deriving DecidableEq, Repr

namespace Instruction

/-- A byte that may be a letter: no control but the tab and the carriage return. -/
def IsLetter (b : UInt8) : Prop := b = 9 ∨ b = 13 ∨ (32 ≤ b ∧ b ≠ 127)

instance (b : UInt8) : Decidable (IsLetter b) := inferInstanceAs (Decidable (_ ∨ _))

/-- An instruction with a body of `n` bytes. -/
def counted (n : Nat) (f : List UInt8 → Instruction) (bytes : List UInt8) :
    Option (Instruction × List UInt8) :=
  if n ≤ bytes.length then some (f (bytes.take n), bytes.drop n) else none

def readEscape : List UInt8 → Option (Instruction × List UInt8)
  | 0x40 :: rest => some (reset, rest)
  | 0x61 :: n :: rest => some (align n, rest)
  | 0x45 :: n :: rest => some (emphasis n, rest)
  | 0x64 :: n :: rest => some (feed n, rest)
  | _ => none

def readGroup : List UInt8 → Option (Instruction × List UInt8)
  | 0x56 :: n :: rest => some (cut n, rest)
  | 0x68 :: n :: rest => some (barcodeHeight n, rest)
  | 0x77 :: n :: rest => some (barcodeWidth n, rest)
  | 0x66 :: n :: rest => some (barcodeFont n, rest)
  | 0x48 :: n :: rest => some (barcodeCaption n, rest)
  | 0x76 :: 0x30 :: mode :: xl :: xh :: yl :: yh :: rest =>
    counted (Bytes.word xl xh * Bytes.word yl yh)
      (raster mode (Bytes.word xl xh) (Bytes.word yl yh)) rest
  | 0x6B :: system :: n :: rest => counted n.toNat (barcode system) rest
  | 0x28 :: 0x6B :: pl :: ph :: rest => counted (Bytes.word pl ph) symbol rest
  | _ => none

def readOne : List UInt8 → Option (Instruction × List UInt8)
  | [] => none
  | b :: rest =>
    if b = 0x1B then readEscape rest
    else if b = 0x1D then readGroup rest
    else if b = 0x0A then some (lineFeed, rest)
    else if IsLetter b then some (letter b, rest)
    else none

theorem counted_length {n : Nat} {f : List UInt8 → Instruction} {bytes rest : List UInt8}
    {i : Instruction} (h : counted n f bytes = some (i, rest)) : rest.length ≤ bytes.length := by
  unfold counted at h
  split at h
  · cases h
    rw [List.length_drop]
    omega
  · cases h

theorem readEscape_length {bytes rest : List UInt8} {i : Instruction}
    (h : readEscape bytes = some (i, rest)) : rest.length ≤ bytes.length := by
  unfold readEscape at h
  split at h
  all_goals
    cases h
    try
      simp only [List.length_cons]
      omega

theorem readGroup_length {bytes rest : List UInt8} {i : Instruction}
    (h : readGroup bytes = some (i, rest)) : rest.length ≤ bytes.length := by
  unfold readGroup at h
  split at h
  case h_6 | h_7 | h_8 =>
    have := counted_length h
    simp only [List.length_cons]
    omega
  all_goals
    cases h
    try
      simp only [List.length_cons]
      omega

theorem readOne_length {bytes rest : List UInt8} {i : Instruction}
    (h : readOne bytes = some (i, rest)) : rest.length < bytes.length := by
  cases bytes with
  | nil => cases h
  | cons b more =>
    rw [List.length_cons]
    rw [readOne] at h
    split at h
    · have := readEscape_length h
      omega
    · split at h
      · have := readGroup_length h
        omega
      · split at h
        · cases h
          omega
        · split at h
          · cases h
            omega
          · cases h

/-- The instructions that bytes spell, if they do to their end. -/
def read (bytes : List UInt8) : Option (List Instruction) :=
  if bytes.isEmpty then some []
  else
    match _h : readOne bytes with
    | none => none
    | some (i, rest) => (read rest).map (i :: ·)
termination_by bytes.length
decreasing_by exact readOne_length _h

theorem read_nil : read [] = some [] := by
  rw [read]
  rfl

theorem read_cons {bytes rest : List UInt8} {i : Instruction}
    (h : readOne bytes = some (i, rest)) : read bytes = (read rest).map (i :: ·) := by
  have hne : bytes.isEmpty = false := by
    cases bytes with
    | nil => cases h
    | cons b more => rfl
  rw [read, hne, if_neg (by decide)]
  split
  · rename_i hnone
    rw [h] at hnone
    cases hnone
  · rename_i j more hsome
    rw [h] at hsome
    cases hsome
    rfl

end Instruction

namespace Command

/-- The data of a command fit the fields that count them, and its text is made of letters. -/
def Framed : Command → Prop
  | text bytes => ∀ b ∈ bytes, Instruction.IsLetter b
  | raster width rows body => width < 65536 ∧ rows < 65536 ∧ body.length = width * rows
  | barcode _ data => data.length < 256
  | symbol parameters => parameters.length < 65536
  | _ => True

/-- What a command tells a printer. -/
def instructions : Command → List Instruction
  | reset => [.reset]
  | align a => [.align (alignCode a)]
  | emphasis on => [.emphasis (if on then 1 else 0)]
  | feed lines => [.feed lines]
  | cut mode => [.cut mode]
  | lineFeed => [.lineFeed]
  | text bytes => bytes.map .letter
  | raster width rows body => [.raster 0 width rows body]
  | barcodeHeight dots => [.barcodeHeight dots]
  | barcodeWidth dots => [.barcodeWidth dots]
  | barcodeFont font => [.barcodeFont font]
  | barcodeCaption place => [.barcodeCaption place]
  | barcode system data => [.barcode system data]
  | symbol parameters => [.symbol parameters]

end Command

namespace Instruction

theorem counted_append (f : List UInt8 → Instruction) {n : Nat} {body : List UInt8}
    (rest : List UInt8) (h : body.length = n) :
    counted n f (body ++ rest) = some (f body, rest) := by
  subst h
  unfold counted
  rw [if_pos (by rw [List.length_append]; omega), List.take_left, List.drop_left]

theorem readOne_letter {b : UInt8} (h : IsLetter b) (rest : List UInt8) :
    readOne (b :: rest) = some (letter b, rest) := by
  have hctl : b ≠ 0x1B ∧ b ≠ 0x1D ∧ b ≠ 0x0A := by
    refine ⟨?_, ?_, ?_⟩
    all_goals
      rintro rfl
      revert h
      decide
  rw [readOne, if_neg hctl.1, if_neg hctl.2.1, if_neg hctl.2.2, if_pos h]

theorem readOne_raster {width rows : Nat} {body : List UInt8} (hw : width < 65536)
    (hr : rows < 65536) (hb : body.length = width * rows) (rest : List UInt8) :
    readOne (Raster.block width rows body ++ rest) = some (raster 0 width rows body, rest) := by
  show counted (Bytes.word (UInt8.ofNat width) (UInt8.ofNat (width / 256)) *
      Bytes.word (UInt8.ofNat rows) (UInt8.ofNat (rows / 256)))
    (raster 0 (Bytes.word (UInt8.ofNat width) (UInt8.ofNat (width / 256)))
      (Bytes.word (UInt8.ofNat rows) (UInt8.ofNat (rows / 256)))) (body ++ rest) = _
  rw [Bytes.word_littleEndian hw, Bytes.word_littleEndian hr, counted_append _ rest hb]

theorem readOne_barcode {data : List UInt8} (h : data.length < 256) (system : UInt8)
    (rest : List UInt8) :
    readOne ((Command.barcode system data).bytes ++ rest) = some (barcode system data, rest) := by
  show counted (UInt8.ofNat data.length).toNat (barcode system) (data ++ rest) = _
  have hn : data.length = (UInt8.ofNat data.length).toNat := by
    rw [UInt8.toNat_ofNat']
    omega
  exact counted_append _ rest hn

theorem readOne_symbol {parameters : List UInt8} (h : parameters.length < 65536)
    (rest : List UInt8) :
    readOne ((Command.symbol parameters).bytes ++ rest) = some (symbol parameters, rest) := by
  show counted (Bytes.word (UInt8.ofNat parameters.length) (UInt8.ofNat (parameters.length / 256)))
    symbol (parameters ++ rest) = _
  rw [Bytes.word_littleEndian h, counted_append _ rest rfl]

theorem read_letters {bytes : List UInt8} (h : ∀ b ∈ bytes, IsLetter b) (rest : List UInt8) :
    read (bytes ++ rest) = (read rest).map (bytes.map letter ++ ·) := by
  induction bytes with
  | nil => cases hr : read rest <;> simp [hr]
  | cons b more ih =>
    have hmore := ih fun b' hb' => h b' (List.mem_cons_of_mem _ hb')
    rw [List.cons_append, read_cons (readOne_letter (h b List.mem_cons_self) _), hmore,
      Option.map_map]
    rfl

/-- A framed command is read for what it says, whatever follows it. -/
theorem read_command {c : Command} (h : c.Framed) (rest : List UInt8) :
    read (c.bytes ++ rest) = (read rest).map (c.instructions ++ ·) := by
  cases c with
  | text bytes => exact read_letters h rest
  | raster width rows body => exact read_cons (readOne_raster h.1 h.2.1 h.2.2 rest)
  | barcode system data => exact read_cons (readOne_barcode h system rest)
  | symbol parameters => exact read_cons (readOne_symbol h rest)
  | reset => exact read_cons rfl
  | align a => exact read_cons rfl
  | emphasis on => exact read_cons rfl
  | feed lines => exact read_cons rfl
  | cut mode => exact read_cons rfl
  | lineFeed => exact read_cons rfl
  | barcodeHeight dots => exact read_cons rfl
  | barcodeWidth dots => exact read_cons rfl
  | barcodeFont font => exact read_cons rfl
  | barcodeCaption place => exact read_cons rfl

/-- A stream of framed commands is read for what they say, to its end. -/
theorem read_stream {commands : List Command} (h : ∀ c ∈ commands, c.Framed) :
    read (streamOf commands) = some (commands.flatMap Command.instructions) := by
  induction commands with
  | nil => exact read_nil
  | cons c more ih =>
    have hmore := ih fun c' hc' => h c' (List.mem_cons_of_mem _ hc')
    rw [streamOf, List.flatMap_cons, ← streamOf, read_command (h c List.mem_cons_self), hmore]
    rfl

end Instruction
end ThermalPrint
