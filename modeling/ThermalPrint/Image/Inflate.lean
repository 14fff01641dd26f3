import ThermalPrint.Bytes

/-
Decompression of deflated data inside a zlib wrapper.  Compressed data may come in
portions, and it can be told when a byte of the output is known and when the end or a
fault is met; so the expansion notes for each how much of the data has been read.
Behind compressed data stands one of two checksums: the cyclic redundancy check of 32 bits belongs
to a chunk of a file, and the pair of sums modulo 65521 to the data.
-/

namespace ThermalPrint

namespace Checksum

private def cyclicBit (sum : UInt32) : UInt32 :=
  if sum &&& 1 = 1 then (sum >>> 1) ^^^ 0xEDB88320 else sum >>> 1

private def cyclicByte (sum : UInt32) (byte : UInt8) : UInt32 :=
  Nat.repeat cyclicBit 8 (sum ^^^ byte.toUInt32)

/-- The cyclic redundancy check. -/
def cyclic (bytes : ByteArray) : Nat :=
  (bytes.foldl cyclicByte 0xFFFFFFFF ^^^ 0xFFFFFFFF).toNat

/-- The sum of the bytes and the sum of these sums, both modulo the largest prime below
65536. -/
def paired (bytes : ByteArray) : Nat :=
  let (low, high) := bytes.foldl (fun ((low, high) : Nat × Nat) byte =>
    let low := (low + byte.toNat) % 65521
    (low, (high + low) % 65521)) (1, 0)
  65536 * high + low

end Checksum

namespace Inflate

/-- How an expansion ends: in good order, because the data stop, because they break the
rules, because they repeat bytes from before the output, because they need a dictionary,
or because there is no room for more output.  Bytes from before the output are noticed
when there is room for them, and other faults even if there is none. -/
inductive Ending
  | finished
  | starved
  | broken
  | farBack
  | dictionary
  | full
deriving DecidableEq, Repr

/-- The output so far and the bit at which reading goes on.  For each byte of the
output, `known` is the number of data bytes that had been read when it was written and
`ahead` the number that are read while there is no room for it. -/
structure Expansion where
  out : ByteArray := .empty
  known : Array Nat := #[]
  ahead : Array Nat := #[]
  bit : Nat := 0

/-- The data bytes that have been read. -/
def Expansion.spent (e : Expansion) : Nat := (e.bit + 7) / 8

abbrev Expand := EStateM Ending Expansion

private def readBits (data : ByteArray) (count : Nat) : Expand Nat := do
  let start := (← get).bit
  if start + count ≤ 8 * data.size then
    modify fun e => { e with bit := start + count }
    return count.fold (fun k _ n =>
      n + (((Bytes.get data ((start + k) / 8)).toNat >>> ((start + k) % 8)) % 2) <<< k) 0
  else throw .starved

private def align : Expand Unit :=
  modify fun e => { e with bit := 8 * e.spent }

/-- Writes a byte, for which no more than `ahead` bytes need to be read, if there is
room for it. -/
private def emit (room : Nat) (byte : UInt8) (ahead : Nat) : Expand Unit := do
  if (← get).out.size ≥ room then throw .full
  modify fun e =>
    let known := e.spent
    { e with out := e.out.push byte, known := e.known.push known, ahead := e.ahead.push ahead }

/-- A canonical prefix code: how many words there are of each length, the symbols in
the order of their words, and the length of the longest word. -/
structure Code where
  counts : Array Nat
  symbols : Array Nat
  longest : Nat

private def longestWord : Nat := 15

/-- The code in which the symbols 0, 1, … have words of these lengths; a length of
zero means no word. -/
def Code.ofLengths (lengths : List Nat) : Code where
  counts := (List.range (longestWord + 1)).toArray.map fun n =>
    if n = 0 then 0 else lengths.count n
  symbols :=
    ((List.range longestWord).flatMap fun n =>
      (lengths.zipIdx.filter fun (l, _) => l == n + 1).map (·.2)).toArray
  longest := lengths.foldl max 0

/-- The words of each length that are left over behind those of a code, for a length
beyond the longest; none if there are too many words. -/
private def Code.spare? (code : Code) : Option Nat :=
  (List.range longestWord).foldl (fun spare n => do
    let places := 2 * (← spare)
    let count := (code.counts[n + 1]?).getD 0
    if count ≤ places then some (places - count) else none) (some 1)

/-- Every sequence of bits begins with one word of the code. -/
def Code.isComplete (code : Code) : Bool := code.spare? == some 0

/-- The code of literals or distances can be used: it is complete, it has a single
word of one bit, or it has no word at all and must not be read. -/
def Code.isUsable (code : Code) : Bool :=
  code.longest == 0 || code.isComplete || (code.longest == 1 && code.spare?.isSome)

private def Code.read (code : Code) (data : ByteArray) : Expand Nat :=
  go (max 1 code.longest) 1 0 0 0
where
  /-- Looks for a word of `length` bits that begins with the bits in `word`; `first` is
  the first word of that length and `index` the place of its symbol. -/
  go : Nat → Nat → Nat → Nat → Nat → Expand Nat
    | 0, _, _, _, _ => throw .broken
    | fuel + 1, length, word, first, index => do
      let word := word + (← readBits data 1)
      let count := (code.counts[length]?).getD 0
      if word < first + count then return (code.symbols[index + (word - first)]?).getD 0
      else go fuel (length + 1) (2 * word) (2 * (first + count)) (index + count)

private def lengthBases : Array Nat :=
  #[3, 4, 5, 6, 7, 8, 9, 10, 11, 13, 15, 17, 19, 23, 27, 31, 35, 43, 51, 59, 67, 83, 99, 115, 131,
    163, 195, 227, 258]

private def lengthExtras : Array Nat :=
  #[0, 0, 0, 0, 0, 0, 0, 0, 1, 1, 1, 1, 2, 2, 2, 2, 3, 3, 3, 3, 4, 4, 4, 4, 5, 5, 5, 5, 0]

private def distanceBases : Array Nat :=
  #[1, 2, 3, 4, 5, 7, 9, 13, 17, 25, 33, 49, 65, 97, 129, 193, 257, 385, 513, 769, 1025, 1537, 2049,
    3073, 4097, 6145, 8193, 12289, 16385, 24577]

private def distanceExtras : Array Nat :=
  #[0, 0, 0, 0, 1, 1, 2, 2, 3, 3, 4, 4, 5, 5, 6, 6, 7, 7, 8, 8, 9, 9, 10, 10, 11, 11, 12, 12,
    13, 13]

private def readExtended (data : ByteArray) (i : Nat) (bases extras : Array Nat) : Expand Nat :=
  match bases[i]?, extras[i]? with
  | some base, some extra => do return base + (← readBits data extra)
  | _, _ => throw .broken

private def emitRead (room : Nat) (byte : UInt8) : Expand Unit := do
  emit room byte (← get).spent

/-- Writes `count` bytes that stand `distance` before the end of the output.  Only a
byte that has room is looked for. -/
private def emitAgain (room distance : Nat) : Nat → Expand Unit
  | 0 => pure ()
  | count + 1 => do
    let size := (← get).out.size
    if size ≥ room then throw .full
    if distance > size then throw .farBack
    let byte := Bytes.get (← get).out (size - distance)
    emitRead room byte
    emitAgain room distance count

private def expandSymbols (data : ByteArray) (room : Nat) (literals distances : Code) :
    Nat → Expand Unit
  | 0 => throw .starved
  | fuel + 1 => do
    let symbol ← literals.read data
    if symbol < 256 then
      emitRead room (UInt8.ofNat symbol)
      expandSymbols data room literals distances fuel
    else if symbol = 256 then pure ()
    else
      let count ← readExtended data (symbol - 257) lengthBases lengthExtras
      let distance ← readExtended data (← distances.read data) distanceBases distanceExtras
      emitAgain room distance count
      expandSymbols data room literals distances fuel

private def fixedLiterals : Code :=
  .ofLengths (List.replicate 144 8 ++ List.replicate 112 9 ++ List.replicate 24 7
    ++ List.replicate 8 8)

private def fixedDistances : Code := .ofLengths (List.replicate 32 5)

private def lengthOrder : List Nat :=
  [16, 17, 18, 0, 8, 7, 9, 6, 10, 5, 11, 4, 12, 3, 13, 2, 14, 1, 15]

/-- The word lengths of `count` symbols, written in a code of their own.  `done` holds
those read, reversed. -/
private def readLengths (data : ByteArray) (code : Code) (count : Nat) :
    Nat → List Nat → Expand (List Nat)
  | 0, _ => throw .broken
  | fuel + 1, done =>
    if done.length ≥ count then pure done.reverse
    else do
      let symbol ← code.read data
      if symbol < 16 then readLengths data code count fuel (symbol :: done)
      else
        let n ← readBits data (if symbol = 16 then 2 else if symbol = 17 then 3 else 7)
        let again := if symbol = 18 then 11 + n else 3 + n
        let length ←
          if symbol ≠ 16 then pure 0
          else match done with
            | [] => throw .broken
            | last :: _ => pure last
        if done.length + again > count then throw .broken
        readLengths data code count fuel (List.replicate again length ++ done)

/-- A code without words, for which each bit is taken as the symbol 0. -/
private def emptyLengthCode : Code := ⟨#[0, 2], #[0, 0], 1⟩

private def readCodes (data : ByteArray) : Expand (Code × Code) := do
  let counts ← readBits data 14
  let literalCount := 257 + counts % 32
  let distanceCount := 1 + counts / 32 % 32
  let orderCount := 4 + counts / 1024
  if literalCount > 286 || distanceCount > 30 then throw .broken
  let given ← (List.range orderCount).mapM fun _ => readBits data 3
  let orderOf (symbol : Nat) : Nat :=
    match lengthOrder.idxOf? symbol with
    | some i => (given[i]?).getD 0
    | none => 0
  let lengthCode := Code.ofLengths ((List.range 19).map orderOf)
  if lengthCode.longest > 0 && !lengthCode.isComplete then throw .broken
  let total := literalCount + distanceCount
  let lengths ← readLengths data (if lengthCode.longest = 0 then emptyLengthCode else lengthCode)
    total (total + 1) []
  let literals := Code.ofLengths (lengths.take literalCount)
  let distances := Code.ofLengths (lengths.drop literalCount)
  if lengths[256]? = some 0 || !literals.isUsable || !distances.isUsable then throw .broken
  return (literals, distances)

/-- So many bytes as they stand.  One is read only when there is room for it. -/
private def expandBytes (data : ByteArray) (room : Nat) : Nat → Expand Unit
  | 0 => pure ()
  | count + 1 => do
    if (← get).out.size ≥ room then throw .full
    let before := (← get).spent
    emit room (UInt8.ofNat (← readBits data 8)) before
    expandBytes data room count

/-- A block whose bytes stand as they are, behind their number and its complement. -/
private def expandStored (data : ByteArray) (room : Nat) : Expand Unit := do
  align
  let sizes ← readBits data 32
  if sizes % 65536 + sizes / 65536 ≠ 65535 then throw .broken
  expandBytes data room (sizes % 65536)

private def expandBlocks (data : ByteArray) (room : Nat) : Nat → Expand Unit
  | 0 => throw .starved
  | fuel + 1 => do
    let head ← readBits data 3
    let symbols := 8 * data.size + 1
    match head / 2 with
    | 0 => expandStored data room
    | 1 => expandSymbols data room fixedLiterals fixedDistances symbols
    | 2 => do
      let (literals, distances) ← readCodes data
      expandSymbols data room literals distances symbols
    | _ => throw .broken
    if head % 2 = 1 then pure () else expandBlocks data room fuel

private def readHead (data : ByteArray) : Expand Unit := do
  let head ← readBits data 16
  let method := head % 256
  let flags := head / 256
  if (256 * method + flags) % 31 ≠ 0 || method % 16 ≠ 8 || method / 16 > 7 then throw .broken
  if flags / 32 % 2 = 1 then
    let _ ← readBits data 32
    throw .dictionary

private def readChecksum (data : ByteArray) : Expand Unit := do
  align
  let sum ← (List.range 4).foldlM (fun n _ => do return 256 * n + (← readBits data 8)) 0
  if sum ≠ Checksum.paired (← get).out then throw .broken

/-- Expands wrapped data into no more than `room` bytes.  It goes on where no output is
written, so that a fault or the end right behind the last byte is seen. -/
def expand (data : ByteArray) (room : Nat) : Expansion × Ending :=
  let all : Expand Unit := do
    readHead data
    expandBlocks data room (8 * data.size + 1)
    readChecksum data
  match all.run {} with
  | .ok _ e => (e, .finished)
  | .error ending e => (e, ending)

end Inflate
end ThermalPrint
