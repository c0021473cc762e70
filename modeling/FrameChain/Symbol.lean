import FrameChain.Abort
/-!
# Symbols of the kernel's shared object

A symbol is asked for by name, version and type.  The answer is its address,
or one of three causes: no object is mapped, the object is malformed, or it
holds no such symbol.  An answer may also not come about at all, where the
lookup itself reads memory and stops.
-/

namespace FrameChain

structure SymbolQuery where
  name : String
  version : String
  kind : UInt8
deriving DecidableEq, Repr

def SymbolQuery.functionKind : UInt8 := 2

/-- What makes an image unusable, in the order in which it is checked. -/
inductive Malformation where
  | badMagic
  | foreignClass
  | headerSize
  | noDynamicSegment
  | incompleteTables
deriving DecidableEq, Repr

def Malformation.message : Malformation → String
  | .badMagic => "bad ELF magic"
  | .foreignClass => "foreign ELF class"
  | .headerSize => "unexpected program header size"
  | .noDynamicSegment => "no dynamic segment"
  | .incompleteTables => "incomplete dynamic symbol table"

inductive SymbolError where
  | objectNotPresent
  | notFound (name version : String)
  | malformed (reason : Malformation)
deriving DecidableEq, Repr

def SymbolError.message : SymbolError → String
  | .objectNotPresent => "No VDSO is mapped into this process"
  | .notFound name version => "Symbol " ++ name ++ "@" ++ version ++ " not found"
  | .malformed reason => "Malformed VDSO image: " ++ reason.message

abbrev SymbolAnswer := Except SymbolError Word

end FrameChain
