import FrameChain.Abort
/-!
# Memory

A memory gives each address a byte or says that it is not mapped.  A read of
several bytes is one record: it fails as a whole when any of its bytes is not
mapped, and its addresses wrap around the address space.  Whether a word can
be read is a question of its own, so that it can be asked before the read.
-/

namespace FrameChain

structure Memory where
  byte? : Word → Option UInt8

namespace Memory

def empty : Memory := ⟨fun _ => none⟩

/-- The bytes from an address upwards, all of them or a failed read. -/
def readBytes (memory : Memory) (address : Word) :
    Nat → Except Abort (List UInt8)
  | 0 => .ok []
  | count + 1 =>
      match memory.byte? address with
      | none => .error .unmappedRead
      | some byte =>
          match memory.readBytes (address + 1) count with
          | .error cause => .error cause
          | .ok rest => .ok (byte :: rest)

def readByte (memory : Memory) (address : Word) : Except Abort UInt8 :=
  match memory.byte? address with
  | none => .error .unmappedRead
  | some byte => .ok byte

def readNat (memory : Memory) (address : Word) (count : Nat) :
    Except Abort Nat :=
  (memory.readBytes address count).map littleEndian

def readWord (memory : Memory) (address : Word) : Except Abort Word :=
  (memory.readNat address Word.size).map UInt64.ofNat

/-- The word a number of words above an address, modulo the address space. -/
def wordAt (memory : Memory) (base index : Word) : Except Abort Word :=
  memory.readWord (base + index * 8)

def Mapped (memory : Memory) (address : Word) (count : Nat) : Prop :=
  ∀ index < count, (memory.byte? (address.offset index)).isSome

instance (memory : Memory) (address : Word) (count : Nat) :
    Decidable (memory.Mapped address count) :=
  inferInstanceAs (Decidable (∀ index < count, _))

/-- Whether the aligned word around an address can be read.  The word at
address 0 never can. -/
def readable (memory : Memory) (address : Word) : Bool :=
  decide (address.alignDown ≠ 0 ∧ memory.Mapped address.alignDown Word.size)

def zeroed (memory : Memory) (start : Word) (count : Nat) : Memory :=
  ⟨fun address =>
    if (address - start).toNat < count then some 0 else memory.byte? address⟩

/-- Put bytes at an address and above it, mapped or not. -/
def store (memory : Memory) (start : Word) (bytes : List UInt8) : Memory :=
  ⟨fun address =>
    match bytes[(address - start).toNat]? with
    | some byte => some byte
    | none => memory.byte? address⟩

def storeWord (memory : Memory) (start value : Word) : Memory :=
  memory.store start (littleEndianBytes Word.size value.toNat)

/-- One page, filled with zeros, with words stored in it. -/
def page (start : Word) (words : List (Word × Word)) : Memory :=
  words.foldl (fun memory word => memory.storeWord word.1 word.2)
    (empty.zeroed start 4096)

theorem store_byte?_of_lt {memory : Memory} {start address : Word}
    {bytes : List UInt8} (inside : (address - start).toNat < bytes.length) :
    (memory.store start bytes).byte? address =
      bytes[(address - start).toNat]? := by
  simp [store, List.getElem?_eq_getElem inside]

theorem store_byte?_of_le {memory : Memory} {start address : Word}
    {bytes : List UInt8} (outside : bytes.length ≤ (address - start).toNat) :
    (memory.store start bytes).byte? address = memory.byte? address := by
  simp [store, List.getElem?_eq_none outside]

theorem storeWord_isSome {memory : Memory} {start : Word} (value : Word)
    (mapped : memory.Mapped start Word.size) (address : Word) :
    ((memory.storeWord start value).byte? address).isSome =
      (memory.byte? address).isSome := by
  have length := littleEndianBytes_length Word.size value.toNat
  by_cases inside : (address - start).toNat < Word.size
  · have below : (address - start).toNat <
        (littleEndianBytes Word.size value.toNat).length := by
      rw [length]
      exact inside
    have place : start.offset (address - start).toNat = address := by
      rw [Word.offset, UInt64.ofNat_toNat, UInt64.add_comm,
        UInt64.sub_add_cancel]
    have held := mapped _ inside
    rw [place] at held
    rw [storeWord, store_byte?_of_lt below, List.getElem?_eq_getElem below,
      held]
    rfl
  · rw [storeWord, store_byte?_of_le (by omega)]

theorem readBytes_length {memory : Memory} {address : Word} {count : Nat}
    {bytes : List UInt8}
    (returned : memory.readBytes address count = .ok bytes) :
    bytes.length = count := by
  induction count generalizing address bytes with
  | zero =>
      have nothing : [] = bytes := Except.ok.inj returned
      simp [← nothing]
  | succ count ih =>
      simp only [readBytes] at returned
      split at returned
      · cases returned
      · split at returned
        · cases returned
        next rest readRest =>
          have whole := Except.ok.inj returned
          simp [← whole, ih readRest]

theorem mapped_succ_iff {memory : Memory} {address : Word} {count : Nat} :
    memory.Mapped address (count + 1) ↔
      (memory.byte? address).isSome ∧ memory.Mapped (address + 1) count := by
  constructor
  · intro mapped
    constructor
    · simpa using mapped 0 (Nat.succ_pos count)
    · intro index inside
      rw [Word.offset_succ]
      exact mapped (index + 1) (Nat.succ_lt_succ inside)
  · intro ⟨first, rest⟩ index inside
    cases index with
    | zero => simpa using first
    | succ index =>
        rw [← Word.offset_succ]
        exact rest index (Nat.lt_of_succ_lt_succ inside)

theorem readBytes_of_mapped {memory : Memory} {address : Word} {count : Nat}
    (mapped : memory.Mapped address count) :
    ∃ bytes, memory.readBytes address count = .ok bytes := by
  induction count generalizing address with
  | zero => exact ⟨[], rfl⟩
  | succ count ih =>
      obtain ⟨first, rest⟩ := mapped_succ_iff.mp mapped
      obtain ⟨byte, present⟩ := Option.isSome_iff_exists.mp first
      obtain ⟨bytes, restRead⟩ := ih rest
      exact ⟨byte :: bytes, by simp [readBytes, present, restRead]⟩

theorem readBytes_of_not_mapped {memory : Memory} {address : Word}
    {count : Nat} (unmapped : ¬ memory.Mapped address count) :
    memory.readBytes address count = .error .unmappedRead := by
  induction count generalizing address with
  | zero => exact absurd (fun index inside => by omega) unmapped
  | succ count ih =>
      cases present : memory.byte? address with
      | none => simp [readBytes, present]
      | some byte =>
          have rest : ¬ memory.Mapped (address + 1) count := fun mapped =>
            unmapped (mapped_succ_iff.mpr ⟨by simp [present], mapped⟩)
          simp [readBytes, present, ih rest]

theorem readWord_of_mapped {memory : Memory} {address : Word}
    (mapped : memory.Mapped address Word.size) :
    ∃ word, memory.readWord address = .ok word := by
  obtain ⟨bytes, bytesRead⟩ := readBytes_of_mapped mapped
  exact ⟨UInt64.ofNat (littleEndian bytes),
    by simp [readWord, readNat, bytesRead, Except.map]⟩

theorem readWord_of_not_mapped {memory : Memory} {address : Word}
    (unmapped : ¬ memory.Mapped address Word.size) :
    memory.readWord address = .error .unmappedRead := by
  simp [readWord, readNat, readBytes_of_not_mapped unmapped, Except.map]

theorem readWord_isOk_iff {memory : Memory} {address : Word} :
    (∃ word, memory.readWord address = .ok word) ↔
      memory.Mapped address Word.size := by
  constructor
  · intro ⟨word, wordRead⟩
    apply Decidable.byContradiction
    intro unmapped
    rw [readWord_of_not_mapped unmapped] at wordRead
    cases wordRead
  · exact readWord_of_mapped

/-- Unmapped memory is all that a read can fail at. -/
theorem readWord_error {memory : Memory} {address : Word} {cause : Abort}
    (failed : memory.readWord address = .error cause) :
    cause = .unmappedRead := by
  by_cases mapped : memory.Mapped address Word.size
  · obtain ⟨word, wordRead⟩ := readWord_of_mapped mapped
    rw [wordRead] at failed
    cases failed
  · rw [readWord_of_not_mapped mapped] at failed
    exact (Except.error.inj failed).symm

end Memory

end FrameChain
