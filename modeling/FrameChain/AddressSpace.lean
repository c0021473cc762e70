import Std.Data.HashMap
import FrameChain.Memory
/-!
# Address spaces

An address space is built page by page: pages are mapped filled with zeros,
unmapped again, and written to.  Its content is a memory.  A mapped page that
is mapped again is zero again.
-/

namespace FrameChain

structure AddressSpace where
  pages : Std.HashMap Nat ByteArray

namespace AddressSpace

def pageSize : Nat := 4096

def empty : AddressSpace := ⟨∅⟩

def zeroPage : ByteArray := ⟨Array.replicate pageSize 0⟩

/-- The numbers of the pages that a range of addresses consists of. -/
def pagesOf (start : Word) (length : Nat) : List Nat :=
  (List.range (length / pageSize)).map (start.toNat / pageSize + ·)

def map (space : AddressSpace) (start : Word) (length : Nat) : AddressSpace :=
  ⟨(pagesOf start length).foldl (fun pages page => pages.insert page zeroPage)
    space.pages⟩

def unmap (space : AddressSpace) (start : Word) (length : Nat) :
    AddressSpace :=
  ⟨(pagesOf start length).foldl (fun pages page => pages.erase page)
    space.pages⟩

def memory (space : AddressSpace) : Memory :=
  ⟨fun address =>
    match space.pages[address.toNat / pageSize]? with
    | none => none
    | some page =>
        let place := address.toNat % pageSize
        if inside : place < page.size then some page[place] else none⟩

def putByte (page : ByteArray) (place : Nat) (byte : UInt8) : ByteArray :=
  if inside : place < page.size then page.set place byte inside else page

/-- Write one byte, which fails when its page is not mapped. -/
def writeByte (space : AddressSpace) (address : Word) (byte : UInt8) :
    Except Abort AddressSpace :=
  let number := address.toNat / pageSize
  if space.pages.contains number then
    .ok ⟨space.pages.modify number
      (putByte · (address.toNat % pageSize) byte)⟩
  else
    .error .unmappedRead

def write (space : AddressSpace) (address : Word) :
    List UInt8 → Except Abort AddressSpace
  | [] => .ok space
  | byte :: rest => do
      let written ← space.writeByte address byte
      written.write (address + 1) rest

def writeWord (space : AddressSpace) (address value : Word) :
    Except Abort AddressSpace :=
  space.write address (littleEndianBytes Word.size value.toNat)

/-- The words of a chain of frames, evenly spaced, whose return addresses
count up; the last frame links to none. -/
def chainWords (first : Word) (frames : Nat) (stride returnAddress : Word) :
    List (Word × Word) :=
  (List.range frames).flatMap fun index =>
    let frame (number : Nat) : Word :=
      first + UInt64.ofNat number * stride * 8
    let link := if index + 1 < frames then frame (index + 1) else 0
    [(frame index, link),
      (frame index + 8, returnAddress + UInt64.ofNat index)]

end AddressSpace

end FrameChain
