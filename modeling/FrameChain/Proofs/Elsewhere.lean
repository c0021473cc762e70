import Mathlib.Control.Monad.Basic
import FrameChain.Proofs.Relocation
import FrameChain.Trampoline.Analysis

/-!
# An object that is mapped elsewhere

Where the kernel maps its object is of no account.  At two bases that hold the
same bytes, the object is malformed in the same way or located with the same
tables; each symbol is missing at both or found the distance of the bases
apart; and the trampolines are analysed alike, also where a checked assertion
stops the analysis.

What is excluded is that a checked sum leaves the word range at one of the
bases, and that a pointer or a trampoline is relocated to 0.  Unmapped reads
need no exclusion, as they stop both runs.
-/

namespace FrameChain

namespace Trampoline

variable {build : Build} {distance : Word} {memory moved : Memory}
  {image other : Image}

/-- Nothing is known at either place, or the same at places a distance
apart. -/
inductive Analysis.Moved (distance : Word) : Analysis → Analysis → Prop where
  | unknown : Moved distance .unknown .unknown
  | known {entry signalReturn otherEntry otherReturn : Word} (pushes : Word)
      (entries : Word.Above distance entry otherEntry)
      (returns : Word.Above distance signalReturn otherReturn) :
      Moved distance ⟨entry, signalReturn, pushes⟩
        ⟨otherEntry, otherReturn, pushes⟩

/-- Resolving the two trampolines of an image stays within the word range and
relocates neither to 0. -/
structure Analysis.Placed (build : Build) (memory : Memory) (image : Image) :
    Prop where
  fits : resolve build memory (Image.lookup build memory image) ≠
    .error .additionOverflow
  signalReturn :
    Image.lookup build memory image signalReturnQuery ≠ .ok (.ok 0)
  entry : Image.lookup build memory image entryQuery ≠ .ok (.ok 0)

theorem Code.ofMemory_moved (copied : Memory.Moved distance memory moved)
    {entry other : Word} (entries : Word.Above distance entry other) :
    Code.ofMemory moved other = Code.ofMemory memory entry := by
  funext offset
  unfold Code.ofMemory
  rw [entries.offset offset, copied.readByte]

theorem refuse_alike (build : Build) (assertion : Assertion) :
    Alike (Analysis.Moved distance)
      (build.refuse assertion Analysis.unknown)
      (build.refuse assertion Analysis.unknown) := by
  unfold Build.refuse
  split
  · exact .error _
  · exact .ok .unknown

theorem ofAnswers_alike (copied : Memory.Moved distance memory moved)
    {signalReturn otherReturn entry otherEntry : SymbolAnswer}
    (returns : Alike (Word.Above distance) signalReturn otherReturn)
    (entries : Alike (Word.Above distance) entry otherEntry)
    (kept : signalReturn ≠ .ok 0 ∧ entry ≠ .ok 0)
    (otherKept : otherReturn ≠ .ok 0 ∧ otherEntry ≠ .ok 0) :
    Alike (Analysis.Moved distance)
      (Analysis.ofAnswers build memory signalReturn entry)
      (Analysis.ofAnswers build moved otherReturn otherEntry) := by
  -- A missing address has one cause at both places, and the causes alone
  -- decide between nothing known and a failed assertion.
  cases returns with
  | error cause =>
      cases entries with
      | error other =>
          cases cause <;> cases other <;>
            first | exact .ok .unknown | exact refuse_alike build _
      | ok =>
          cases cause <;> first | exact .ok .unknown | exact refuse_alike build _
  | @ok signalReturn otherReturn returns =>
      cases entries with
      | error cause =>
          cases cause <;> first | exact .ok .unknown | exact refuse_alike build _
      | @ok entry otherEntry entries =>
          rw [Analysis.ofAnswers_of_ne kept.1 kept.2,
            Analysis.ofAnswers_of_ne otherKept.1 otherKept.2,
            Code.ofMemory_moved copied entries]
          cases countPushes build (.ofMemory memory entry) with
          | error cause => exact .error cause
          | ok pushes => exact .ok (.known _ entries returns)

theorem resolve_inStep (copied : Memory.Moved distance memory moved)
    (images : Image.Moved distance image other)
    (placed : Analysis.Placed build memory image)
    (otherPlaced : Analysis.Placed build moved other) :
    InStep (Analysis.Moved distance)
      (Analysis.resolve build memory (Image.lookup build memory image))
      (Analysis.resolve build moved (Image.lookup build moved other)) := by
  apply (Image.lookup_inStep copied images _).returned.bind
  rintro signalReturn otherReturn ⟨returns, returned, otherReturned⟩
  apply (Image.lookup_inStep copied images _).returned.bind
  rintro entry otherEntry ⟨entries, entered, otherEntered⟩
  apply InStep.alike
  apply ofAnswers_alike copied returns entries
  · constructor
    · rintro rfl
      exact placed.signalReturn returned
    · rintro rfl
      exact placed.entry entered
  · constructor
    · rintro rfl
      exact otherPlaced.signalReturn otherReturned
    · rintro rfl
      exact otherPlaced.entry otherEntered

end Trampoline

/-- The object, its symbols and its trampolines are found alike wherever the
same bytes are mapped. -/
theorem image_position_independent (build : Build) {distance base : Word}
    {memory moved : Memory} (copied : Memory.Moved distance memory moved)
    (placed : Image.Placed build memory base)
    (otherPlaced : Image.Placed build moved (base + distance)) :
    Alike (Alike (Image.Moved distance)) (Image.locate build memory base)
        (Image.locate build moved (base + distance)) ∧
      ∀ image other,
        Image.locate build memory base = .ok (.ok image) →
        Image.locate build moved (base + distance) = .ok (.ok other) →
        (∀ query,
          Image.lookup build memory image query ≠ .error .additionOverflow →
          Image.lookup build moved other query ≠ .error .additionOverflow →
          Alike (Alike (Word.Above distance))
            (Image.lookup build memory image query)
            (Image.lookup build moved other query)) ∧
        (Trampoline.Analysis.Placed build memory image →
          Trampoline.Analysis.Placed build moved other →
          Alike (Trampoline.Analysis.Moved distance)
            (Trampoline.Analysis.resolve build memory
              (Image.lookup build memory image))
            (Trampoline.Analysis.resolve build moved
              (Image.lookup build moved other))) := by
  have inStep := Image.locate_inStep copied rfl placed.pointers
    otherPlaced.pointers
  have located := inStep.ends_alike placed.fits otherPlaced.fits
  refine ⟨located, ?_⟩
  intro image other found otherFound
  rw [found, otherFound] at located
  have images : Image.Moved distance image other := by
    cases located with
    | ok images =>
        cases images with
        | ok images => exact images
  constructor
  · intro query fits otherFits
    exact (Image.lookup_inStep copied images query).ends_alike fits otherFits
  · intro reached otherReached
    have resolved :=
      Trampoline.resolve_inStep copied images reached otherReached
    exact resolved.ends_alike reached.fits otherReached.fits

namespace SharedObject

/-- The headers and tables of a small object, by their offset: two segments,
eight dynamic entries, and two functions of one version. -/
def tables : List (Word × Word) :=
  [(0x00, 0x2464C457F), (0x20, 0x40), (0x30, 0x38000000000000), (0x38, 2),
    (0x40, 1), (0x78, 2), (0x88, 0x100),
    (0x100, 4), (0x108, 0x180), (0x110, 5), (0x118, 0x200),
    (0x120, 6), (0x128, 0x190), (0x130, 10), (0x138, 51),
    (0x140, 0x6FFFFFF0), (0x148, 0x1D0), (0x150, 0x6FFFFFFC), (0x158, 0x1E0),
    (0x180, 0x200000000),
    (0x190, 0x1200000001), (0x198, 0x300),
    (0x1A8, 0x1200000017), (0x1B0, 0x310),
    (0x1D0, 0x20002),
    (0x1E0, 0x1000200000000), (0x1E8, 0x1400000000), (0x1F0, 0x2900000000)]

def names : String :=
  "\x00__kernel_rt_sigreturn\x00__kernel_vsyscall\x00LINUX_2.5\x00"

def code : List UInt8 :=
  [0x58, 0xB8, 0x77, 0, 0, 0, 0xCD, 0x80, 0, 0, 0, 0, 0, 0, 0, 0,
    0x51, 0x52, 0x55, 0x0F, 0x34, 0xC3, 0, 0, 0, 0, 0]

/-- The object, mapped at one page. -/
def memory : Memory where
  byte? address :=
    let place := address - 0x1000
    if place < 0x200 then
      let word := (tables.lookup place.alignDown).getD 0
      some (word >>> (8 * (place % 8))).toUInt8
    else if place < 0x300 then
      names.toUTF8.toList[(place - 0x200).toNat]?
    else
      code[(place - 0x300).toNat]?

def image (base : Word) : Image :=
  { base
    bias := base
    symbolTable := base + 0x190
    symbolCount := 2
    stringTable := base + 0x200
    stringSize := 51
    symbolVersions := base + 0x1D0
    versionDefinitions := base + 0x1E0 }

end SharedObject

theorem image_position_independent_seven_pages_up :
    let memory := SharedObject.memory
    let moved := memory.move 0x7000
    let image := SharedObject.image 0x1000
    let other := SharedObject.image 0x8000
    let resolved := Trampoline.Analysis.resolve .development memory
      (Image.lookup .development memory image)
    let otherResolved := Trampoline.Analysis.resolve .development moved
      (Image.lookup .development moved other)
    (Memory.Moved 0x7000 memory moved ∧
      Image.Placed .development memory 0x1000 ∧
      Image.Placed .development moved 0x8000 ∧
      Image.locate .development memory 0x1000 = .ok (.ok image) ∧
      Image.locate .development moved 0x8000 = .ok (.ok other) ∧
      Trampoline.Analysis.Placed .development memory image ∧
      Trampoline.Analysis.Placed .development moved other) ∧
    resolved = .ok ⟨0x1310, 0x1300, 3⟩ ∧
    otherResolved = .ok ⟨0x8310, 0x8300, 3⟩ ∧
    Alike (Trampoline.Analysis.Moved 0x7000) resolved otherResolved := by
  intro memory moved image other resolved otherResolved
  have copied : Memory.Moved 0x7000 memory moved := Memory.moved_move _ _
  have located : Image.locate .development memory 0x1000 = .ok (.ok image) := by
    decide +kernel
  have otherLocated :
      Image.locate .development moved 0x8000 = .ok (.ok other) := by
    decide +kernel
  have analyzed : resolved = .ok ⟨0x1310, 0x1300, 3⟩ := by decide +kernel
  have otherAnalyzed : otherResolved = .ok ⟨0x8310, 0x8300, 3⟩ := by
    decide +kernel
  have placed : Image.Placed .development memory 0x1000 :=
    { fits := located.trans_ne nofun
      pointers := by decide +kernel }
  have otherPlaced : Image.Placed .development moved 0x8000 :=
    { fits := otherLocated.trans_ne nofun
      pointers := by decide +kernel }
  have reached : Trampoline.Analysis.Placed .development memory image :=
    { fits := analyzed.trans_ne nofun
      signalReturn := by decide +kernel
      entry := by decide +kernel }
  have otherReached : Trampoline.Analysis.Placed .development moved other :=
    { fits := otherAnalyzed.trans_ne nofun
      signalReturn := by decide +kernel
      entry := by decide +kernel }
  obtain ⟨_, answers⟩ := image_position_independent .development copied placed
    otherPlaced
  obtain ⟨_, analyses⟩ := answers image other located otherLocated
  exact ⟨⟨copied, placed, otherPlaced, located, otherLocated, reached,
    otherReached⟩, analyzed, otherAnalyzed, analyses reached otherReached⟩

end FrameChain
