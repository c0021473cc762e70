import FrameChain.Proofs.Unchecked

/-!
# Records and what they say

The reader of a mapped object adds to addresses and reads records.  What it
finds is put here in terms of the bytes of a memory: which bytes a record is
made of, what a record says, and which definitions a list of versions links to
one another.  A run that is not stopped by one of its sums or reads returns.
-/

namespace FrameChain

namespace Memory

variable {memory : Memory} {address : Word} {count : Nat}

theorem readBytes_eq_ok_iff {bytes : List UInt8} :
    memory.readBytes address count = .ok bytes ↔
      bytes.length = count ∧
        ∀ index < count,
          memory.byte? (address.offset index) = bytes[index]? := by
  induction count generalizing address bytes with
  | zero =>
      simp only [readBytes, Except.ok.injEq, List.length_eq_zero_iff,
        Nat.not_lt_zero, false_implies, implies_true, and_true]
      exact eq_comm
  | succ count ih =>
      cases bytes with
      | nil =>
          constructor
          · intro returned
            cases readBytes_length returned
          · intro read
            cases read.1
      | cons byte rest =>
          have follows : memory.readBytes address (count + 1) =
                .ok (byte :: rest) ↔
              memory.byte? address = some byte ∧
                memory.readBytes (address + 1) count = .ok rest := by
            simp only [readBytes]
            cases memory.byte? address with
            | none => simp
            | some first =>
                cases memory.readBytes (address + 1) count <;> simp
          rw [follows, ih]
          constructor
          · rintro ⟨first, length, others⟩
            refine ⟨congrArg (· + 1) length, ?_⟩
            intro index inside
            cases index with
            | zero => simpa using first
            | succ index =>
                rw [← Word.offset_succ]
                exact others index (Nat.lt_of_succ_lt_succ inside)
          · rintro ⟨length, all⟩
            refine ⟨by simpa using all 0 (Nat.succ_pos count),
              Nat.succ.inj length, ?_⟩
            intro index inside
            rw [Word.offset_succ]
            exact all (index + 1) (Nat.succ_lt_succ inside)

/-- The record of a size at an address is mapped, and says something. -/
def Decodes (memory : Memory) (size : Nat) (decode : List UInt8 → α)
    (address : Word) (value : α) : Prop :=
  ∃ record, memory.readBytes address size = .ok record ∧ decode record = value

theorem decodes_iff {decode : List UInt8 → α} {value : α} :
    memory.Decodes count decode address value ↔
      (memory.readBytes address count).map decode = .ok value := by
  unfold Decodes
  cases memory.readBytes address count <;> simp [Except.map]

theorem Decodes.unique {decode : List UInt8 → α} {value other : α}
    (decodes : memory.Decodes count decode address value)
    (also : memory.Decodes count decode address other) : value = other := by
  obtain ⟨record, recordRead, rfl⟩ := decodes
  obtain ⟨_, again, rfl⟩ := also
  cases recordRead.symm.trans again
  rfl

theorem Decodes.of_mapped (decode : List UInt8 → α)
    (mapped : memory.Mapped address count) :
    ∃ value, memory.Decodes count decode address value := by
  obtain ⟨record, recordRead⟩ := readBytes_of_mapped mapped
  exact ⟨decode record, record, recordRead, rfl⟩

theorem readNat_eq_ok_iff {value : Nat} :
    memory.readNat address count = .ok value ↔
      memory.Decodes count littleEndian address value :=
  decodes_iff.symm

end Memory

theorem littleEndian_lt (bytes : List UInt8) :
    littleEndian bytes < Nat.pow 256 bytes.length := by
  induction bytes with
  | nil => exact Nat.one_pos
  | cons byte rest ih =>
      have low := byte.toNat_lt
      have more : Nat.pow 256 (byte :: rest).length =
          Nat.pow 256 rest.length * 256 :=
        rfl
      rw [littleEndian] at ih ⊢
      rw [List.foldr_cons, more]
      omega

namespace Image

/-- The address of the version definition that a number of links lead to. -/
inductive Listed (memory : Memory) : Word → Nat → Word → Prop where
  | here (first : Word) : Listed memory first 0 first
  | linked {first address : Word} {links : Nat}
      {definition : VersionDefinition} :
      memory.Decodes VersionDefinition.size .ofBytes first definition →
      definition.next ≠ 0 →
      Listed memory (first.offset definition.next) links address →
      Listed memory first (links + 1) address

theorem Listed.unique {memory : Memory} {first address other : Word}
    {links : Nat} (listed : Listed memory first links address)
    (also : Listed memory first links other) : address = other := by
  induction listed with
  | here =>
      cases also
      rfl
  | linked decoded _ _ ih =>
      cases also with
      | linked again _ rest =>
          cases decoded.unique again
          exact ih rest

end Image

/-- Sums and reads are all that can stop the reader. -/
def Comparison.breaksOff : Comparison where
  Holds run _ :=
    ∀ cause, run = .error cause →
      cause = .unmappedRead ∨ cause = .additionOverflow
  value _ _ failed := nomatch failed
  bind := by
    intro α β first second next otherNext begun continued cause failed
    rcases bind_eq_error_iff.mp failed with stopped | ⟨value, _, stopped⟩
    · exact begun cause stopped
    · exact continued value cause stopped

theorem Comparison.breaksOff_covers (build : Build) (memory : Memory) :
    Comparison.breaksOff.Covers build build memory memory where
  add _ _ _ failed := .inr (Build.add_eq_error failed)
  readBytes _ _ _ failed := .inl (Memory.readBytes_error failed)

/-- A run that neither a sum nor a read stops returns. -/
theorem Comparison.returns_of_breaksOff {run : Except Abort α}
    (stops : breaksOff.Holds run run) (reads : run ≠ .error .unmappedRead)
    (fits : run ≠ .error .additionOverflow) :
    ∃ result, run = .ok result := by
  cases ended : run with
  | ok result => exact ⟨result, rfl⟩
  | error cause =>
      rcases stops cause ended with rfl | rfl
      · exact absurd ended reads
      · exact absurd ended fits

end FrameChain
