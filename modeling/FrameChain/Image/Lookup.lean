import FrameChain.Image.Basic
/-!
# Versioned symbol lookup

A lookup takes the first symbol of the table that has the type asked for, a
value, the name and the version.  Names are compared inside the string table
only, terminator included.  A symbol's version is a number; the list of
version definitions says which name the number stands for, and is followed
for a bounded number of steps, so a cyclic list is a mismatch.
-/

namespace FrameChain.Image

def maxVersionDefinitions : Nat := 64

/-- The bytes of a text in the string table, terminator included. -/
def terminated (text : String) : List UInt8 :=
  text.toUTF8.toList ++ [0]

/-- Whether the terminated string at a place in the string table is a text.  A
place from which the text would not fit into the table is a mismatch. -/
def nameIs (build : Build) (memory : Memory) (image : Image) (place : Nat)
    (text : String) : Except Abort Bool :=
  if place + text.utf8ByteSize < image.stringSize.toNat then do
    let address ← build.add image.stringTable (UInt64.ofNat place)
    let bytes ← memory.readBytes address (text.utf8ByteSize + 1)
    pure (bytes == terminated text)
  else
    .ok false

/-- Whether the first definition of a version number, in the list from an
address on, carries a name. -/
def definesVersion (build : Build) (memory : Memory) (image : Image)
    (number : Nat) (version : String) (address : Word) :
    Nat → Except Abort Bool
  | 0 => .ok false
  | steps + 1 => do
      let record ← memory.readBytes address VersionDefinition.size
      let definition := VersionDefinition.ofBytes record
      if definition.index = number ∧ 0 < definition.nameCount then do
        let name ← memory.readBytes
          (address.offset definition.names) versionNameSize
        nameIs build memory image (versionNameOfBytes name) version
      else if definition.next = 0 then
        pure false
      else
        definesVersion build memory image number version
          (address.offset definition.next) steps

/-- A version entry with this bit set hides its symbol. -/
def hiddenVersion : Nat := 0x8000

/-- Whether the symbol at an index has a version.  Without a version table
every symbol has every version. -/
def hasVersion (build : Build) (memory : Memory) (image : Image)
    (index : Nat) (version : String) : Except Abort Bool :=
  if image.symbolVersions = 0 then
    .ok true
  else do
    let place ← build.add image.symbolVersions (UInt64.ofNat (index * 2))
    let entry ← memory.readNat place 2
    if hiddenVersion ≤ entry then
      pure false
    else
      definesVersion build memory image entry version
        image.versionDefinitions maxVersionDefinitions

def answers (build : Build) (memory : Memory) (image : Image)
    (query : SymbolQuery) (index : Nat) (symbol : Symbol) :
    Except Abort Bool :=
  if symbol.kind ≠ query.kind ∨ symbol.value = 0 then
    .ok false
  else do
    let named ← nameIs build memory image symbol.name query.name
    if named then hasVersion build memory image index query.version
    else pure false

def readSymbol (build : Build) (memory : Memory) (image : Image)
    (index : Nat) : Except Abort Symbol := do
  let place ← build.add image.symbolTable (UInt64.ofNat (index * Symbol.size))
  let record ← memory.readBytes place Symbol.size
  pure (Symbol.ofBytes record)

def findFrom (build : Build) (memory : Memory) (image : Image)
    (query : SymbolQuery) (index : Nat) : Nat → Except Abort (Option Symbol)
  | 0 => .ok none
  | count + 1 => do
      let symbol ← readSymbol build memory image index
      let found ← answers build memory image query index symbol
      if found then pure (some symbol)
      else findFrom build memory image query (index + 1) count

/-- The mapped address of the first symbol that answers a query. -/
def lookup (build : Build) (memory : Memory) (image : Image)
    (query : SymbolQuery) : Except Abort SymbolAnswer := do
  let found ← findFrom build memory image query 0 image.symbolCount.toNat
  match found with
  | none => pure (.error (.notFound query.name query.version))
  | some symbol => pure (.ok (symbol.value + image.bias))

end FrameChain.Image
