/-
Arrays of bytes given by a rule, and numbers of two bytes.
-/

-- One meaning for powers and for zero in all of the project, that of the core library, also in
-- a module whose imports find them a second time through a monoid.
attribute [default_instance 10001, instance(1100)] instPowNat
attribute [instance(1100)] Zero.ofOfNat0

namespace ThermalPrint
namespace Bytes

def generate (n : Nat) (f : Nat → UInt8) : ByteArray :=
  n.fold (fun i _ bytes => bytes.push (f i)) (ByteArray.emptyWithCapacity n)

theorem generate_size (n : Nat) (f : Nat → UInt8) : (generate n f).size = n := by
  unfold generate
  suffices ∀ m, (n.fold (fun i _ bytes => bytes.push (f i))
      (ByteArray.emptyWithCapacity m)).size = n from this n
  intro m
  induction n with
  | zero => rfl
  | succ n ih => rw [Nat.fold_succ, ByteArray.size_push, ih]

/-- The byte at a place, and zero behind the end. -/
def get (bytes : ByteArray) (i : Nat) : UInt8 :=
  if h : i < bytes.size then bytes[i] else 0

def slice (bytes : ByteArray) (start stop : Nat) : List UInt8 :=
  (bytes.extract start stop).toList

def littleEndian (n : Nat) : List UInt8 := [UInt8.ofNat n, UInt8.ofNat (n / 256)]

def word (low high : UInt8) : Nat := low.toNat + 256 * high.toNat

end Bytes
end ThermalPrint
