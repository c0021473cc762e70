import FrameChain.Memory
/-!
# Frame records

A function that keeps a frame pointer leaves two words at it: the frame
pointer of its caller, and above that the address at which the caller goes
on.  A chain of frames is these records linked through their first words.
-/

namespace FrameChain

/-- The largest distance, in bytes, that a caller's frame may have from its
callee's.  A link that goes further is not taken for a frame. -/
def maxFrameBytes : Nat := 100000

structure FrameRecord where
  framePointer : Word
  link : Word
  returnAddress : Word
deriving DecidableEq, Repr

namespace FrameRecord

/-- The address of the return address, one word above the link. -/
def returnSlot (framePointer : Word) : Word :=
  framePointer + 8

def read (memory : Memory) (framePointer : Word) :
    Except Abort FrameRecord := do
  let link ← memory.readWord framePointer
  let returnAddress ← memory.readWord (returnSlot framePointer)
  pure ⟨framePointer, link, returnAddress⟩

/-- The distance to the caller's frame, or 0 for unknown when that frame does
not lie above this one. -/
def sizeTo (record : FrameRecord) (caller : Word) : Word :=
  if record.framePointer < caller then caller - record.framePointer else 0

theorem read_eq_ok_iff {memory : Memory} {framePointer : Word}
    {record : FrameRecord} :
    read memory framePointer = .ok record ↔
      record.framePointer = framePointer ∧
      memory.readWord framePointer = .ok record.link ∧
      memory.readWord (returnSlot framePointer) =
        .ok record.returnAddress := by
  obtain ⟨own, link, returnAddress⟩ := record
  simp only [read, bind_eq_ok_iff, pure, Except.pure, Except.ok.injEq,
    mk.injEq]
  constructor
  · rintro ⟨first, firstRead, second, secondRead, rfl, rfl, rfl⟩
    exact ⟨rfl, firstRead, secondRead⟩
  · rintro ⟨rfl, linkRead, returnRead⟩
    exact ⟨link, linkRead, returnAddress, returnRead, rfl, rfl, rfl⟩

theorem read_framePointer {memory : Memory} {framePointer : Word}
    {record : FrameRecord}
    (returned : read memory framePointer = .ok record) :
    record.framePointer = framePointer :=
  (read_eq_ok_iff.mp returned).1

theorem read_of_mapped {memory : Memory} {framePointer : Word}
    (link : memory.Mapped framePointer Word.size)
    (returnAddress : memory.Mapped (returnSlot framePointer) Word.size) :
    ∃ record, read memory framePointer = .ok record := by
  obtain ⟨first, firstRead⟩ := Memory.readWord_of_mapped link
  obtain ⟨second, secondRead⟩ := Memory.readWord_of_mapped returnAddress
  exact ⟨⟨framePointer, first, second⟩,
    read_eq_ok_iff.mpr ⟨rfl, firstRead, secondRead⟩⟩

theorem read_error {memory : Memory} {framePointer : Word} {cause : Abort}
    (failed : read memory framePointer = .error cause) :
    cause = .unmappedRead := by
  simp only [read, bind_eq_error_iff, pure, Except.pure, reduceCtorEq,
    and_false, exists_false, or_false] at failed
  rcases failed with linkFailed | ⟨_, _, returnFailed⟩
  · exact Memory.readWord_error linkFailed
  · exact Memory.readWord_error returnFailed

end FrameRecord

end FrameChain
