import FrameChain.Proofs.Elsewhere
import FrameChain.Proofs.Records

/-!
# Lookups that stay inside the image

A lookup computes each address from a field that it read: an offset of a name,
a distance to the next definition, an index of a version.  None of these is
checked against the tables but the offset of a name.  What makes a lookup safe
is that the tables are mapped as far as their sizes say, and the list of
version definitions as far as it is followed.
-/

namespace FrameChain

/-- A range ends within the address space. -/
def Word.Fits (start : Word) (count : Nat) : Prop :=
  start.toNat + count ≤ UInt64.size

instance (start : Word) (count : Nat) : Decidable (start.Fits count) :=
  inferInstanceAs (Decidable (_ ≤ _))

/-- The version definition at an address is mapped, and so is its first name
record if it has one. -/
structure Image.HoldsDefinition (memory : Memory) (address : Word) : Prop where
  record : memory.Mapped address VersionDefinition.size
  names : ∀ definition : VersionDefinition,
    memory.Decodes VersionDefinition.size .ofBytes address definition →
    0 < definition.nameCount →
    memory.Mapped (address.offset definition.names) versionNameSize

/-- The tables of an image are mapped, and none of them wraps around the
address space. -/
structure Image.Mapped (memory : Memory) (image : Image) : Prop where
  symbols : memory.Mapped image.symbolTable
    (image.symbolCount.toNat * Symbol.size)
  symbolsFit : image.symbolTable.Fits (image.symbolCount.toNat * Symbol.size)
  strings : memory.Mapped image.stringTable image.stringSize.toNat
  stringsFit : image.stringTable.Fits image.stringSize.toNat
  versions : image.symbolVersions ≠ 0 →
    memory.Mapped image.symbolVersions (image.symbolCount.toNat * 2)
  versionsFit : image.symbolVersions ≠ 0 →
    image.symbolVersions.Fits (image.symbolCount.toNat * 2)
  /-- Every definition that is followed. -/
  definitions : image.symbolVersions ≠ 0 →
    ∀ links < Image.maxVersionDefinitions, ∀ address,
      Image.Listed memory image.versionDefinitions links address →
        Image.HoldsDefinition memory address

theorem Memory.Mapped.part {memory : Memory} {start : Word}
    {count before size : Nat} (mapped : memory.Mapped start count)
    (inside : before + size ≤ count) :
    memory.Mapped (start.offset before) size := by
  intro index below
  rw [Word.offset_offset]
  exact mapped (before + index) (by omega)

/-- A place in a range that ends within the address space is reached by every
build. -/
theorem Word.Fits.add {start : Word} {count before : Nat}
    (fits : start.Fits count) (inside : before < count) (build : Build) :
    build.add start (UInt64.ofNat before) = .ok (start.offset before) := by
  unfold Fits at fits
  have small : (UInt64.ofNat before).toNat = before :=
    UInt64.toNat_ofNat_of_lt' (by omega)
  apply Build.add_of_fits
  rw [small]
  omega

theorem bind_returns {first : Except ε α} {next : α → Except ε β}
    (begun : ∃ value, first = .ok value)
    (continued : ∀ value, first = .ok value →
      ∃ result, next value = .ok result) :
    ∃ result, (first >>= next) = .ok result := by
  obtain ⟨value, returned⟩ := begun
  obtain ⟨result, concluded⟩ := continued value returned
  exact ⟨result, bind_eq_ok_iff.mpr ⟨value, returned, concluded⟩⟩

namespace Image

variable {memory : Memory} {image : Image}

theorem nameIs_of_mapped (mapped : image.Mapped memory) (build : Build)
    (place : Nat) (text : String) :
    ∃ named, nameIs build memory image place text = .ok named := by
  unfold nameIs
  split
  next inside =>
    rw [mapped.stringsFit.add (Nat.lt_of_le_of_lt (Nat.le_add_right _ _) inside)]
    have part : memory.Mapped (image.stringTable.offset place)
        (text.utf8ByteSize + 1) :=
      mapped.strings.part inside
    apply bind_returns (Memory.readBytes_of_mapped part)
    intro bytes _
    exact ⟨_, rfl⟩
  next => exact ⟨false, rfl⟩

theorem definesVersion_of_listed (mapped : image.Mapped memory) (build : Build)
    (number : Nat) (version : String) {first : Word} {limit : Nat}
    (listed : ∀ links < limit, ∀ address,
      Listed memory first links address → HoldsDefinition memory address) :
    ∃ defined, definesVersion build memory image number version first limit =
      .ok defined := by
  induction limit generalizing first with
  | zero => exact ⟨false, rfl⟩
  | succ limit ih =>
      have holds := listed 0 (Nat.succ_pos limit) first (.here first)
      apply bind_returns (Memory.readBytes_of_mapped holds.record)
      intro record recordRead
      have decoded : memory.Decodes VersionDefinition.size
          VersionDefinition.ofBytes first (.ofBytes record) :=
        ⟨record, recordRead, rfl⟩
      dsimp only
      split
      next stands =>
        have names := holds.names _ decoded stands.2
        apply bind_returns (Memory.readBytes_of_mapped names)
        intro name _
        exact nameIs_of_mapped mapped build _ version
      next =>
        split
        next => exact ⟨false, rfl⟩
        next more =>
          apply ih
          intro links below address further
          exact listed (links + 1) (Nat.succ_lt_succ below) address
            (.linked decoded more further)

theorem hasVersion_of_mapped (mapped : image.Mapped memory) (build : Build)
    {index : Nat} (inside : index < image.symbolCount.toNat)
    (version : String) :
    ∃ versioned, hasVersion build memory image index version =
      .ok versioned := by
  unfold hasVersion
  split
  next => exact ⟨true, rfl⟩
  next present =>
    rw [(mapped.versionsFit present).add (by omega)]
    have part : memory.Mapped (image.symbolVersions.offset (index * 2)) 2 :=
      (mapped.versions present).part (by omega)
    obtain ⟨entry, decoded⟩ := Memory.Decodes.of_mapped littleEndian part
    apply bind_returns ⟨entry, Memory.readNat_eq_ok_iff.mpr decoded⟩
    intro number _
    split
    · exact ⟨false, rfl⟩
    · exact definesVersion_of_listed mapped build number version
        (mapped.definitions present)

theorem answers_of_mapped (mapped : image.Mapped memory) (build : Build)
    (query : SymbolQuery) {index : Nat}
    (inside : index < image.symbolCount.toNat) (symbol : Symbol) :
    ∃ answered, answers build memory image query index symbol =
      .ok answered := by
  unfold answers
  split
  · exact ⟨false, rfl⟩
  · apply bind_returns (nameIs_of_mapped mapped build symbol.name query.name)
    intro named _
    split
    · exact hasVersion_of_mapped mapped build inside query.version
    · exact ⟨false, rfl⟩

theorem readSymbol_of_mapped (mapped : image.Mapped memory) (build : Build)
    {index : Nat} (inside : index < image.symbolCount.toNat) :
    ∃ symbol, readSymbol build memory image index = .ok symbol := by
  have whole : index * Symbol.size + Symbol.size ≤
      image.symbolCount.toNat * Symbol.size := by
    rw [← Nat.succ_mul]
    exact Nat.mul_le_mul_right _ inside
  have first : index * Symbol.size < image.symbolCount.toNat * Symbol.size :=
    Nat.mul_lt_mul_of_pos_right inside (by decide)
  unfold readSymbol
  rw [mapped.symbolsFit.add first]
  apply bind_returns
    (Memory.readBytes_of_mapped (mapped.symbols.part whole))
  intro record _
  exact ⟨_, rfl⟩

theorem findFrom_of_mapped (mapped : image.Mapped memory) (build : Build)
    (query : SymbolQuery) {index count : Nat}
    (inside : index + count ≤ image.symbolCount.toNat) :
    ∃ found, findFrom build memory image query index count = .ok found := by
  induction count generalizing index with
  | zero => exact ⟨none, rfl⟩
  | succ count ih =>
      have here : index < image.symbolCount.toNat := by omega
      apply bind_returns (readSymbol_of_mapped mapped build here)
      intro symbol _
      apply bind_returns (answers_of_mapped mapped build query here symbol)
      intro answered _
      split
      · exact ⟨some symbol, rfl⟩
      · exact ih (by omega)

/-- A lookup in an image whose tables are mapped returns, in every build and
whatever the tables hold. -/
theorem lookup_of_mapped (build : Build) (mapped : image.Mapped memory)
    (query : SymbolQuery) :
    ∃ answer, lookup build memory image query = .ok answer := by
  have all : 0 + image.symbolCount.toNat ≤ image.symbolCount.toNat :=
    Nat.le_of_eq (Nat.zero_add _)
  apply bind_returns (findFrom_of_mapped mapped build query all)
  intro found _
  cases found with
  | none => exact ⟨_, rfl⟩
  | some symbol => exact ⟨_, rfl⟩

end Image

namespace SharedObject

theorem definition_decodes :
    memory.Decodes Image.VersionDefinition.size Image.VersionDefinition.ofBytes
      0x11E0 ⟨2, 1, 20, 0⟩ :=
  Memory.decodes_iff.mpr (by decide +kernel)

theorem image_mapped : (image 0x1000).Mapped memory where
  symbols := by decide +kernel
  symbolsFit := by decide +kernel
  strings := by decide +kernel
  stringsFit := by decide +kernel
  versions _ := by decide +kernel
  versionsFit _ := by decide +kernel
  definitions := by
    intro _ links _ address listed
    cases listed with
    | here =>
        refine ⟨by decide +kernel, ?_⟩
        intro definition decoded _
        cases decoded.unique definition_decodes
        decide +kernel
    | linked decoded more _ =>
        cases decoded.unique definition_decodes
        exact absurd rfl more

end SharedObject

/-- Every symbol of the object is looked at, and its version is not the one
asked for. -/
theorem Image.lookup_of_mapped_shared_object :
    let image := SharedObject.image 0x1000
    let query : SymbolQuery := ⟨"__kernel_vsyscall", "LINUX_2.6", 2⟩
    image.Mapped SharedObject.memory ∧
    ∃ answer, lookup .development SharedObject.memory image query =
      .ok answer := by
  intro image query
  have mapped : image.Mapped SharedObject.memory := SharedObject.image_mapped
  exact ⟨mapped, lookup_of_mapped .development mapped query⟩

end FrameChain
