import FrameChain.Capture
/-!
# A live stack

A stack that grows down from an address, with two frames on it: the entry
point that captures, and the function that called it.  The caller's frame
links to a start that lies in other memory, or to no frame.  The words around
the two frames are readable, and their return addresses are not null.
-/

namespace FrameChain

structure LiveStack where
  top : Word
  /-- The frame pointer of the caller's caller, 0 for none. -/
  start : Word
deriving DecidableEq, Repr

namespace LiveStack

def extent : Nat := 0x20000

def callerFrame (stack : LiveStack) : Word := stack.top - 16

def entryFrame (stack : LiveStack) : Word := stack.top - 80

def stackPointer (stack : LiveStack) : Word := stack.top - 144

def entryReturn : Word := 0x1000

def callerReturn : Word := 0x2000

/-- Whether a frame is one of the two on this stack. -/
def owns (stack : LiveStack) (framePointer : Word) : Bool :=
  framePointer == stack.entryFrame || framePointer == stack.callerFrame

def within (stack : LiveStack) (memory : Memory) : Memory :=
  (memory.zeroed (stack.top - UInt64.ofNat extent) extent)
    |>.storeWord stack.callerFrame stack.start
    |>.storeWord (FrameRecord.returnSlot stack.callerFrame) callerReturn
    |>.storeWord stack.entryFrame stack.callerFrame
    |>.storeWord (FrameRecord.returnSlot stack.entryFrame) entryReturn

def site (stack : LiveStack) (memory : Memory) : CaptureSite :=
  { memory := stack.within memory
    framePointer := stack.entryFrame
    stackPointer := stack.stackPointer }

end LiveStack

end FrameChain
