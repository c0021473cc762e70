import FrameChain.Memory
/-!
# Records of a mapped object

The tables of a shared object are made of fixed-size records with
little-endian fields.  A record is read whole, so a read fails when any byte
of it is not mapped, also one that no field here uses.
-/

namespace FrameChain.Image

def fieldAt (record : List UInt8) (start size : Nat) : Nat :=
  littleEndian ((record.drop start).take size)

def wordFieldAt (record : List UInt8) (start : Nat) : Word :=
  UInt64.ofNat (fieldAt record start 8)

/-- The file header, at the base of the object. -/
structure Header where
  magic : List UInt8
  fileClass : Nat
  /-- Where the segment table starts, from the base on. -/
  segments : Word
  segmentSize : Nat
  segmentCount : Nat
deriving DecidableEq, Repr

def Header.size : Nat := 64

def Header.ofBytes (record : List UInt8) : Header :=
  { magic := record.take 4
    fileClass := fieldAt record 4 1
    segments := wordFieldAt record 32
    segmentSize := fieldAt record 54 2
    segmentCount := fieldAt record 56 2 }

structure Segment where
  kind : Nat
  linkAddress : Word
deriving DecidableEq, Repr

def Segment.size : Nat := 56

def Segment.loadKind : Nat := 1

def Segment.dynamicKind : Nat := 2

def Segment.ofBytes (record : List UInt8) : Segment :=
  { kind := fieldAt record 0 4
    linkAddress := wordFieldAt record 16 }

structure DynamicEntry where
  tag : Word
  value : Word
deriving DecidableEq, Repr

def DynamicEntry.size : Nat := 16

def DynamicEntry.ofBytes (record : List UInt8) : DynamicEntry :=
  { tag := wordFieldAt record 0
    value := wordFieldAt record 8 }

structure Symbol where
  name : Nat
  info : UInt8
  value : Word
deriving DecidableEq, Repr

def Symbol.size : Nat := 24

def Symbol.ofBytes (record : List UInt8) : Symbol :=
  { name := fieldAt record 0 4
    info := UInt8.ofNat (fieldAt record 4 1)
    value := wordFieldAt record 8 }

/-- The type of a symbol is in the low half of its info byte. -/
def Symbol.kind (symbol : Symbol) : UInt8 :=
  symbol.info &&& 0xF

structure VersionDefinition where
  index : Nat
  nameCount : Nat
  /-- Where the first name record starts, from this entry on. -/
  names : Nat
  /-- Where the next entry starts, from this one on; 0 ends the list. -/
  next : Nat
deriving DecidableEq, Repr

def VersionDefinition.size : Nat := 20

def VersionDefinition.ofBytes (record : List UInt8) : VersionDefinition :=
  { index := fieldAt record 4 2
    nameCount := fieldAt record 6 2
    names := fieldAt record 12 4
    next := fieldAt record 16 4 }

/-- The size of a version's name record, whose first field is the place of
the name in the string table. -/
def versionNameSize : Nat := 8

/-- The place of the name that a version's name record gives. -/
def versionNameOfBytes (record : List UInt8) : Nat :=
  fieldAt record 0 4

end FrameChain.Image
