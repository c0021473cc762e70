import FrameChain.Image.Lookup
import FrameChain.Proofs.Lockstep

/-!
# The tables of a moved object

An object does not say where it is mapped.  Each of its tables is entered
through the base or through the bias, once, and what is read there is compared
or followed by offsets.  So reading the same bytes a fixed distance further up
takes the same steps, and every mapped address that results is that distance
further up.

The address 0 is the exception.  It stands for a table that is not there, so a
pointer that the relocation takes to 0 is lost at one of the two places.
-/

namespace FrameChain

namespace Image

/-- The tags whose values are relocated. -/
def Tag.pointers : List Word :=
  [hash, stringTable, symbolTable, symbolVersions, versionDefinitions]

/-- The bias of the object at a base, and its dynamic entries. -/
def dynamicTable (build : Build) (memory : Memory) (base : Word) :
    Except Abort (Except SymbolError (Word × List DynamicEntry)) := do
  let record ← memory.readBytes base Header.size
  let header := Header.ofBytes record
  match header.malformation? with
  | some reason => pure (.error (.malformed reason))
  | none => do
      let segments ← readSegments build memory base header 0 header.segmentCount
      let lowest := lowestLoad segments
      match dynamicAddress? segments with
      | none => pure (.error (.malformed .noDynamicSegment))
      | some dynamic =>
          if lowest = noAddress then
            pure (.error (.malformed .noDynamicSegment))
          else do
            let bias := base - lowest
            let entries ←
              readDynamic build memory (dynamic + bias) 0 maxDynamicEntries
            pure (.ok (bias, entries))

theorem locate_eq (build : Build) (memory : Memory) (base : Word) :
    locate build memory base =
      dynamicTable build memory base >>= fun
        | .error reason => pure (.error reason)
        | .ok (bias, entries) => ofDynamic build memory base bias entries := by
  simp only [locate, dynamicTable, bind_assoc]
  congr 1
  funext record
  cases (Header.ofBytes record).malformation? with
  | some reason => rfl
  | none =>
      simp only [bind_assoc]
      congr 1
      funext segments
      cases dynamicAddress? segments with
      | none => rfl
      | some dynamic =>
          by_cases unloaded : lowestLoad segments = noAddress
          · simp [unloaded]
          · simp [unloaded]

/-- A pointer of a dynamic table is there, and relocated to 0. -/
def LosesPointer :
    Except Abort (Except SymbolError (Word × List DynamicEntry)) → Prop
  | .ok (.ok (bias, entries)) =>
      ∃ tag ∈ Tag.pointers,
        (lastValue? entries tag).map (· + bias) = some 0
  | _ => False

instance : DecidablePred LosesPointer
  | .ok (.ok (_, _)) => inferInstanceAs (Decidable (∃ tag ∈ Tag.pointers, _))
  | .ok (.error _) => inferInstanceAs (Decidable False)
  | .error _ => inferInstanceAs (Decidable False)

/-- Locating the object at a base stays within the word range and relocates no
pointer of it to 0. -/
structure Placed (build : Build) (memory : Memory) (base : Word) : Prop where
  fits : locate build memory base ≠ .error .additionOverflow
  pointers : ¬ LosesPointer (dynamicTable build memory base)

/-- A mapped address that 0 stands for when there is none. -/
structure PointerMoved (distance pointer other : Word) : Prop where
  absent : pointer = 0 ↔ other = 0
  above : pointer ≠ 0 → Word.Above distance pointer other

/-- Two images of one object that is mapped a distance further up. -/
structure Moved (distance : Word) (image moved : Image) : Prop where
  base : Word.Above distance image.base moved.base
  bias : Word.Above distance image.bias moved.bias
  symbolTable : Word.Above distance image.symbolTable moved.symbolTable
  symbolCount : moved.symbolCount = image.symbolCount
  stringTable : Word.Above distance image.stringTable moved.stringTable
  stringSize : moved.stringSize = image.stringSize
  symbolVersions :
    PointerMoved distance image.symbolVersions moved.symbolVersions
  versionDefinitions :
    PointerMoved distance image.versionDefinitions moved.versionDefinitions
  versioned : image.symbolVersions = 0 ↔ image.versionDefinitions = 0

variable {build : Build} {distance : Word} {memory moved : Memory}

theorem readSegments_inStep (copied : Memory.Moved distance memory moved)
    {base other : Word} (bases : Word.Above distance base other)
    (header : Header) (index count : Nat) :
    InStep Eq (readSegments build memory base header index count)
      (readSegments build moved other header index count) := by
  induction count generalizing index with
  | zero => exact .value rfl
  | succ count ih =>
      apply (build.add_inStep header.segments bases).bind
      intro table otherTable tables
      apply (build.add_inStep _ tables).bind
      intro place otherPlace places
      apply (copied.record_inStep places Segment.size).bind_eq
      intro record
      apply (ih (index + 1)).bind_eq
      intro rest
      exact .value rfl

theorem readDynamic_inStep (copied : Memory.Moved distance memory moved)
    {table other : Word} (tables : Word.Above distance table other)
    (index count : Nat) :
    InStep Eq (readDynamic build memory table index count)
      (readDynamic build moved other index count) := by
  induction count generalizing index with
  | zero => exact .value rfl
  | succ count ih =>
      apply (build.add_inStep _ tables).bind
      intro place otherPlace places
      apply (copied.record_inStep places DynamicEntry.size).bind_eq
      intro record
      dsimp only
      split
      · exact .value rfl
      · apply (ih (index + 1)).bind_eq
        intro rest
        exact .value rfl

theorem bias_above {base other : Word}
    (bases : Word.Above distance base other) (lowest : Word) :
    Word.Above distance (base - lowest) (other - lowest) := by
  rw [Word.Above, bases, UInt64.sub_eq_add_neg, UInt64.sub_eq_add_neg,
    Word.add_right_comm]

theorem relocated_above {bias other : Word}
    (biases : Word.Above distance bias other) (address : Word) :
    Word.Above distance (address + bias) (address + other) := by
  rw [Word.Above, biases, UInt64.add_assoc]

/-- The bias moves, the entries stay as they are. -/
theorem dynamicTable_inStep (copied : Memory.Moved distance memory moved)
    {base other : Word} (bases : Word.Above distance base other) :
    InStep (Alike fun table otherTable =>
        Word.Above distance table.1 otherTable.1 ∧ table.2 = otherTable.2)
      (dynamicTable build memory base) (dynamicTable build moved other) := by
  apply (copied.record_inStep bases Header.size).bind_eq
  intro record
  dsimp only
  cases (Header.ofBytes record).malformation? with
  | some reason => exact .value (.error _)
  | none =>
      apply (readSegments_inStep copied bases _ 0 _).bind_eq
      intro segments
      cases dynamicAddress? segments with
      | none => exact .value (.error _)
      | some dynamic =>
          dsimp only
          split
          · exact .value (.error _)
          · have biases := bias_above bases (lowestLoad segments)
            have tables := relocated_above biases dynamic
            apply (readDynamic_inStep copied tables 0 _).bind_eq
            intro entries
            exact .value (.ok ⟨biases, rfl⟩)

theorem relocated_moved {entries : List DynamicEntry} {bias other tag : Word}
    (biases : Word.Above distance bias other)
    (kept : (lastValue? entries tag).map (· + bias) ≠ some 0)
    (otherKept : (lastValue? entries tag).map (· + other) ≠ some 0) :
    PointerMoved distance (relocated entries bias tag)
      (relocated entries other tag) := by
  unfold relocated
  cases found : lastValue? entries tag with
  | none => exact ⟨Iff.rfl, absurd rfl⟩
  | some value =>
      simp only [found, Option.map_some, ne_eq, Option.some.injEq]
        at kept otherKept
      exact ⟨iff_of_false kept otherKept,
        fun _ => relocated_above biases value⟩

theorem PointerMoved.when {pointer other : Word}
    (pointers : PointerMoved distance pointer other) (present : Bool) :
    PointerMoved distance (if present then pointer else 0)
      (if present then other else 0) := by
  cases present with
  | false => exact ⟨Iff.rfl, absurd rfl⟩
  | true => exact pointers

theorem ofDynamic_inStep (copied : Memory.Moved distance memory moved)
    {base otherBase bias otherBias : Word}
    (bases : Word.Above distance base otherBase)
    (biases : Word.Above distance bias otherBias)
    {entries : List DynamicEntry}
    (pointers : ∀ tag ∈ Tag.pointers,
      PointerMoved distance (relocated entries bias tag)
        (relocated entries otherBias tag)) :
    InStep (Alike (Moved distance))
      (ofDynamic build memory base bias entries)
      (ofDynamic build moved otherBase otherBias entries) := by
  have hashes := pointers Tag.hash (by decide)
  have symbols := pointers Tag.symbolTable (by decide)
  have strings := pointers Tag.stringTable (by decide)
  have versions := pointers Tag.symbolVersions (by decide)
  have definitions := pointers Tag.versionDefinitions (by decide)
  unfold ofDynamic
  dsimp only
  apply InStep.ite
  · rw [symbols.absent, strings.absent, hashes.absent]
  · intro incomplete
    exact .value (.error _)
  · intro complete
    rw [not_or, not_or, not_or] at complete
    obtain ⟨symbolsThere, stringsThere, _, hashThere⟩ := complete
    apply (build.add_inStep 4 (hashes.above hashThere)).bind
    intro place otherPlace places
    apply (copied.number_inStep places 4).bind_eq
    intro symbolCount
    -- The two version tables are dropped together, and so at both places.
    have versioned :
        decide (relocated entries otherBias Tag.symbolVersions ≠ 0 ∧
            relocated entries otherBias Tag.versionDefinitions ≠ 0) =
          decide (relocated entries bias Tag.symbolVersions ≠ 0 ∧
            relocated entries bias Tag.versionDefinitions ≠ 0) := by
      apply decide_eq_decide.mpr
      rw [ne_eq, ne_eq, ne_eq, ne_eq, versions.absent, definitions.absent]
    rw [versioned]
    apply InStep.value
    apply Alike.ok
    refine
      { base := bases
        bias := biases
        symbolTable := symbols.above symbolsThere
        symbolCount := rfl
        stringTable := strings.above stringsThere
        stringSize := rfl
        symbolVersions := versions.when _
        versionDefinitions := definitions.when _
        versioned := ?_ }
    dsimp only
    split
    next both =>
      have there := of_decide_eq_true both
      exact iff_of_false there.1 there.2
    next => exact Iff.rfl

theorem locate_inStep (copied : Memory.Moved distance memory moved)
    {base other : Word} (bases : Word.Above distance base other)
    (kept : ¬ LosesPointer (dynamicTable build memory base))
    (otherKept : ¬ LosesPointer (dynamicTable build moved other)) :
    InStep (Alike (Moved distance)) (locate build memory base)
      (locate build moved other) := by
  rw [locate_eq, locate_eq]
  -- What the two tables do not lose is said of the tables as returned.
  apply (dynamicTable_inStep copied bases).returned.bind
  rintro table otherTable ⟨tables, found, otherFound⟩
  cases tables with
  | error reason => exact .value (.error _)
  | @ok result other tables =>
      obtain ⟨bias, entries⟩ := result
      obtain ⟨otherBias, _⟩ := other
      obtain ⟨biases, rfl⟩ := tables
      rw [found] at kept
      rw [otherFound] at otherKept
      apply ofDynamic_inStep copied bases biases
      intro tag listed
      apply relocated_moved biases
      · exact fun lost => kept ⟨tag, listed, lost⟩
      · exact fun lost => otherKept ⟨tag, listed, lost⟩

variable {image other : Image}

theorem nameIs_inStep (copied : Memory.Moved distance memory moved)
    (images : Moved distance image other) (place : Nat) (text : String) :
    InStep Eq (nameIs build memory image place text)
      (nameIs build moved other place text) := by
  unfold nameIs
  rw [images.stringSize]
  split
  · apply (build.add_inStep _ images.stringTable).bind
    intro address otherAddress addresses
    apply (copied.record_inStep addresses _).bind_eq
    intro bytes
    exact .value rfl
  · exact .value rfl

theorem definesVersion_inStep (copied : Memory.Moved distance memory moved)
    (images : Moved distance image other) (number : Nat) (version : String)
    {address otherAddress : Word}
    (addresses : Word.Above distance address otherAddress) (steps : Nat) :
    InStep Eq (definesVersion build memory image number version address steps)
      (definesVersion build moved other number version otherAddress
        steps) := by
  induction steps generalizing address otherAddress with
  | zero => exact .value rfl
  | succ steps ih =>
      apply (copied.record_inStep addresses _).bind_eq
      intro record
      dsimp only
      split
      · apply (copied.record_inStep (addresses.offset _) _).bind_eq
        intro name
        exact nameIs_inStep copied images _ version
      · split
        · exact .value rfl
        · exact ih (addresses.offset _)

theorem hasVersion_inStep (copied : Memory.Moved distance memory moved)
    (images : Moved distance image other) (index : Nat) (version : String) :
    InStep Eq (hasVersion build memory image index version)
      (hasVersion build moved other index version) := by
  apply InStep.ite images.symbolVersions.absent
  · intro unversioned
    exact .value rfl
  · intro versioned
    -- An image with symbol versions has their definitions too.
    have defined := versioned ∘ images.versioned.mpr
    apply (build.add_inStep _ (images.symbolVersions.above versioned)).bind
    intro place otherPlace places
    apply (copied.number_inStep places 2).bind_eq
    intro entry
    split
    · exact .value rfl
    · exact definesVersion_inStep copied images entry version
        (images.versionDefinitions.above defined) maxVersionDefinitions

theorem answers_inStep (copied : Memory.Moved distance memory moved)
    (images : Moved distance image other) (query : SymbolQuery) (index : Nat)
    (symbol : Symbol) :
    InStep Eq (answers build memory image query index symbol)
      (answers build moved other query index symbol) := by
  unfold answers
  split
  · exact .value rfl
  · apply (nameIs_inStep copied images symbol.name query.name).bind_eq
    intro named
    split
    · exact hasVersion_inStep copied images index query.version
    · exact .value rfl

theorem readSymbol_inStep (copied : Memory.Moved distance memory moved)
    (images : Moved distance image other) (index : Nat) :
    InStep Eq (readSymbol build memory image index)
      (readSymbol build moved other index) := by
  apply (build.add_inStep _ images.symbolTable).bind
  intro place otherPlace places
  apply (copied.record_inStep places Symbol.size).bind_eq
  intro record
  exact .value rfl

theorem findFrom_inStep (copied : Memory.Moved distance memory moved)
    (images : Moved distance image other) (query : SymbolQuery)
    (index count : Nat) :
    InStep Eq (findFrom build memory image query index count)
      (findFrom build moved other query index count) := by
  induction count generalizing index with
  | zero => exact .value rfl
  | succ count ih =>
      apply (readSymbol_inStep copied images index).bind_eq
      intro symbol
      apply (answers_inStep copied images query index symbol).bind_eq
      intro found
      split
      · exact .value rfl
      · exact ih (index + 1)

theorem lookup_inStep (copied : Memory.Moved distance memory moved)
    (images : Moved distance image other) (query : SymbolQuery) :
    InStep (Alike (Word.Above distance)) (lookup build memory image query)
      (lookup build moved other query) := by
  unfold lookup
  rw [images.symbolCount]
  apply (findFrom_inStep copied images query 0 _).bind_eq
  intro found
  cases found with
  | none => exact .value (.error _)
  | some symbol =>
      exact .value (.ok (relocated_above images.bias symbol.value))

end Image

end FrameChain
