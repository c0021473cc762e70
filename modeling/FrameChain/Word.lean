/-!
# Machine words

Addresses, register values and stored words are one type: 64 bits, little
endian, with sums and differences that wrap around the address space.  The
notions here are the ones a frame chain is judged by: alignment, rounding an
address down to its word, and the bytes a word occupies.
-/

namespace FrameChain

abbrev Word := UInt64

namespace Word

def size : Nat := 8

def Aligned (address : Word) : Prop :=
  address.toNat % size = 0

instance (address : Word) : Decidable address.Aligned :=
  inferInstanceAs (Decidable (_ = _))

/-- The start of the aligned word that holds the byte at an address. -/
def alignDown (address : Word) : Word :=
  address - address % 8

def offset (address : Word) (count : Nat) : Word :=
  address + UInt64.ofNat count

/-- The lower-case hexadecimal text of a number, without leading zeros. -/
def hexDigits (value : Nat) : String :=
  String.ofList (Nat.toDigits 16 value)

/-- The text of a word: `0x` and its hexadecimal digits. -/
def hex (word : Word) : String :=
  "0x" ++ hexDigits word.toNat

@[simp] theorem offset_zero (address : Word) : address.offset 0 = address := by
  simp [offset]

theorem offset_succ (address : Word) (count : Nat) :
    (address + 1).offset count = address.offset (count + 1) := by
  simp only [offset, UInt64.ofNat_add, UInt64.add_assoc]
  rw [UInt64.add_comm (UInt64.ofNat count)]
  rfl

theorem offset_offset (start : Word) (count more : Nat) :
    (start.offset count).offset more = start.offset (count + more) := by
  simp only [offset, UInt64.ofNat_add, UInt64.add_assoc]

theorem alignDown_toNat (address : Word) :
    address.alignDown.toNat = address.toNat - address.toNat % 8 := by
  have below : address % 8 ≤ address := by
    rw [UInt64.le_iff_toNat_le, UInt64.toNat_mod]
    exact Nat.mod_le _ _
  rw [alignDown, UInt64.toNat_sub_of_le _ _ below, UInt64.toNat_mod]
  rfl

theorem alignDown_of_aligned {address : Word} (aligned : address.Aligned) :
    address.alignDown = address := by
  apply UInt64.toNat_inj.mp
  have remainder : address.toNat % 8 = 0 := aligned
  rw [alignDown_toNat, remainder, Nat.sub_zero]

end Word

/-- The number that a list of bytes stands for, least significant first. -/
def littleEndian (bytes : List UInt8) : Nat :=
  bytes.foldr (fun byte rest => byte.toNat + 256 * rest) 0

/-- The lowest bytes of a number, least significant first. -/
def littleEndianBytes : Nat → Nat → List UInt8
  | 0, _ => []
  | count + 1, value => value.toUInt8 :: littleEndianBytes count (value / 256)

theorem littleEndianBytes_length (count value : Nat) :
    (littleEndianBytes count value).length = count := by
  induction count generalizing value with
  | zero => rfl
  | succ count ih => simp [littleEndianBytes, ih]

end FrameChain
