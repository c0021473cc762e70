import FrameChain.Memory
/-!
# Readability probes

A probe says of an address whether it can be read, without reading it.  A
walk is judged over every probe; the one that runs on a real stack asks the
memory about the aligned word around the address.
-/

namespace FrameChain

abbrev Probe := Word → Bool

namespace Probe

def always : Probe := fun _ => true

def never : Probe := fun _ => false

def only (addresses : List Word) : Probe :=
  fun address => addresses.contains address

def except (addresses : List Word) : Probe :=
  fun address => !addresses.contains address

/-- An address is readable when the memory holds the word around it. -/
def ofMemory (memory : Memory) : Probe :=
  memory.readable

theorem ofMemory_eq_true_iff {memory : Memory} {address : Word} :
    ofMemory memory address = true ↔
      address.alignDown ≠ 0 ∧
        memory.Mapped address.alignDown Word.size := by
  simp [ofMemory, Memory.readable]

theorem ofMemory_storeWord {memory : Memory} {start : Word} (value : Word)
    (mapped : memory.Mapped start Word.size) :
    ofMemory (memory.storeWord start value) = ofMemory memory := by
  funext address
  have same : (memory.storeWord start value).Mapped address.alignDown
      Word.size ↔ memory.Mapped address.alignDown Word.size := by
    simp only [Memory.Mapped, Memory.storeWord_isSome value mapped]
  exact decide_eq_decide.mpr (and_congr_right fun _ => same)

end Probe

end FrameChain
