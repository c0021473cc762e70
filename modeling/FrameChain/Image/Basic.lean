import FrameChain.Build
import FrameChain.Image.Record
import FrameChain.Symbol
/-!
# The mapped image and its tables

The kernel maps a small shared object into every process.  Its tables are
located once from the mapping itself: the segment table gives the distance
between link-time and mapped addresses, the dynamic table gives the rest.
Sums that walk a table are checked by the builds that check; relocation is
modulo the address space in every build.
-/

namespace FrameChain

structure Image where
  base : Word
  /-- The distance from link-time to mapped addresses. -/
  bias : Word
  symbolTable : Word
  symbolCount : Word
  stringTable : Word
  stringSize : Word
  /-- The version of each symbol, 0 when the image has no versions. -/
  symbolVersions : Word
  versionDefinitions : Word
deriving DecidableEq, Repr

namespace Image

def fileMagic : List UInt8 := [0x7F, 0x45, 0x4C, 0x46]

def nativeClass : Nat := 2

/-- The most entries of a dynamic table that are looked at. -/
def maxDynamicEntries : Nat := 256

/-- The largest word, which marks that no segment is loaded. -/
def noAddress : Word := 0xFFFFFFFFFFFFFFFF

def Header.malformation? (header : Header) : Option Malformation :=
  if header.magic ≠ fileMagic then some .badMagic
  else if header.fileClass ≠ nativeClass then some .foreignClass
  else if header.segmentSize ≠ Segment.size then some .headerSize
  else none

/-- The segments from an index on, all of which have to be read. -/
def readSegments (build : Build) (memory : Memory) (base : Word)
    (header : Header) (index : Nat) : Nat → Except Abort (List Segment)
  | 0 => .ok []
  | count + 1 => do
      let table ← build.add base header.segments
      let place ← build.add table (UInt64.ofNat (index * Segment.size))
      let record ← memory.readBytes place Segment.size
      let rest ← readSegments build memory base header (index + 1) count
      pure (Segment.ofBytes record :: rest)

def lowestLoad (segments : List Segment) : Word :=
  segments.foldl
    (fun lowest segment =>
      if segment.kind = Segment.loadKind then min lowest segment.linkAddress
      else lowest)
    noAddress

def dynamicAddress? (segments : List Segment) : Option Word :=
  (segments.reverse.find? (·.kind = Segment.dynamicKind)).map (·.linkAddress)

namespace Tag

def null : Word := 0
def hash : Word := 4
def stringTable : Word := 5
def symbolTable : Word := 6
def stringSize : Word := 10
def symbolVersions : Word := 0x6FFFFFF0
def versionDefinitions : Word := 0x6FFFFFFC

end Tag

/-- The dynamic entries from an index on, up to the null entry or as many as
are looked at. -/
def readDynamic (build : Build) (memory : Memory) (table : Word)
    (index : Nat) : Nat → Except Abort (List DynamicEntry)
  | 0 => .ok []
  | count + 1 => do
      let place ← build.add table (UInt64.ofNat (index * DynamicEntry.size))
      let record ← memory.readBytes place DynamicEntry.size
      let entry := DynamicEntry.ofBytes record
      if entry.tag = Tag.null then
        pure []
      else do
        let rest ← readDynamic build memory table (index + 1) count
        pure (entry :: rest)

def lastValue? (entries : List DynamicEntry) (tag : Word) : Option Word :=
  (entries.reverse.find? (·.tag = tag)).map (·.value)

/-- The mapped address that the last entry with a tag names, or 0. -/
def relocated (entries : List DynamicEntry) (bias tag : Word) : Word :=
  match lastValue? entries tag with
  | none => 0
  | some value => value + bias

/-- The image that the dynamic entries describe.  The number of symbols is
the second field of the hash table, which has one chain link per symbol. -/
def ofDynamic (build : Build) (memory : Memory) (base bias : Word)
    (entries : List DynamicEntry) :
    Except Abort (Except SymbolError Image) :=
  let symbolTable := relocated entries bias Tag.symbolTable
  let stringTable := relocated entries bias Tag.stringTable
  let stringSize := (lastValue? entries Tag.stringSize).getD 0
  let hash := relocated entries bias Tag.hash
  let symbolVersions := relocated entries bias Tag.symbolVersions
  let versionDefinitions := relocated entries bias Tag.versionDefinitions
  if symbolTable = 0 ∨ stringTable = 0 ∨ stringSize = 0 ∨ hash = 0 then
    .ok (.error (.malformed .incompleteTables))
  else do
    let place ← build.add hash 4
    let symbolCount ← memory.readNat place 4
    let versioned : Bool := decide (symbolVersions ≠ 0 ∧ versionDefinitions ≠ 0)
    pure (.ok
      { base
        bias
        symbolTable
        symbolCount := UInt64.ofNat symbolCount
        stringTable
        stringSize
        symbolVersions := if versioned then symbolVersions else 0
        versionDefinitions := if versioned then versionDefinitions else 0 })

def locate (build : Build) (memory : Memory) (base : Word) :
    Except Abort (Except SymbolError Image) := do
  let record ← memory.readBytes base Header.size
  let header := Header.ofBytes record
  match header.malformation? with
  | some reason => pure (.error (.malformed reason))
  | none => do
      let segments ← readSegments build memory base header 0 header.segmentCount
      let lowest := lowestLoad segments
      match dynamicAddress? segments with
      | none => pure (.error (.malformed .noDynamicSegment))
      | some dynamic =>
          if lowest = noAddress then
            pure (.error (.malformed .noDynamicSegment))
          else do
            let bias := base - lowest
            let entries ←
              readDynamic build memory (dynamic + bias) 0 maxDynamicEntries
            ofDynamic build memory base bias entries

/-- Locate the object that the process was told of at its start; the address
0 says that there is none. -/
def locatePresent (build : Build) (memory : Memory) (base : Word) :
    Except Abort (Except SymbolError Image) :=
  if base = 0 then .ok (.error .objectNotPresent)
  else locate build memory base

end Image

end FrameChain
