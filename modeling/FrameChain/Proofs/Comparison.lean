import FrameChain.Image.Lookup
import FrameChain.Trampoline.Code

/-!
# Two runs of the reader compared

The reader of the mapped object does two things that may fail: it adds to an
address, as its build adds, and it reads a record.  All else is plain
computation on what was read.  So two runs of it, by two builds or over two
memories, end in any relation that their sums and reads are in, as long as
that relation is kept when runs that returned the same go on alike.

The relations that matter say what one run may do that the other does not:
stop at a sum, or lack a byte.
-/

namespace FrameChain

/-- A relation between two runs of one computation. -/
structure Comparison where
  Holds : {α : Type} → Except Abort α → Except Abort α → Prop
  value : ∀ {α : Type} (result : α), Holds (.ok result) (.ok result)
  bind : ∀ {α β : Type} {first second : Except Abort α}
    {next otherNext : α → Except Abort β},
    Holds first second →
    (∀ result, Holds (next result) (otherNext result)) →
    Holds (first >>= next) (second >>= otherNext)

namespace Comparison

/-- The sums and the reads of two runs are related. -/
structure Covers (relation : Comparison) (build other : Build)
    (memory part : Memory) : Prop where
  add : ∀ left right,
    relation.Holds (build.add left right) (other.add left right)
  readBytes : ∀ address count,
    relation.Holds (memory.readBytes address count)
      (part.readBytes address count)

variable {relation : Comparison} {build other : Build} {memory part : Memory}

theorem map {first second : Except Abort α} (function : α → β)
    (begun : relation.Holds first second) :
    relation.Holds (first.map function) (second.map function) := by
  have mapped := relation.bind begun
    fun result => relation.value (function result)
  cases first <;> cases second <;> exact mapped

theorem Covers.readByte (covers : relation.Covers build other memory part)
    (address : Word) :
    relation.Holds (memory.readByte address) (part.readByte address) := by
  have single (memory : Memory) : memory.readByte address =
      (memory.readBytes address 1).map (·.headD 0) := by
    unfold Memory.readByte Memory.readBytes
    cases memory.byte? address <;> rfl
  rw [single memory, single part]
  exact relation.map _ (covers.readBytes address 1)

theorem Covers.readNat (covers : relation.Covers build other memory part)
    (address : Word) (count : Nat) :
    relation.Holds (memory.readNat address count)
      (part.readNat address count) :=
  relation.map littleEndian (covers.readBytes address count)

end Comparison

namespace Image

variable {relation : Comparison} {build other : Build} {memory part : Memory}

theorem readSegments_compared
    (covers : relation.Covers build other memory part) (base : Word)
    (header : Header) (index count : Nat) :
    relation.Holds (readSegments build memory base header index count)
      (readSegments other part base header index count) := by
  induction count generalizing index with
  | zero => exact relation.value []
  | succ count ih =>
      apply relation.bind (covers.add base header.segments)
      intro table
      apply relation.bind (covers.add table _)
      intro place
      apply relation.bind (covers.readBytes place Segment.size)
      intro record
      apply relation.bind (ih (index + 1))
      intro rest
      exact relation.value _

theorem readDynamic_compared
    (covers : relation.Covers build other memory part) (table : Word)
    (index count : Nat) :
    relation.Holds (readDynamic build memory table index count)
      (readDynamic other part table index count) := by
  induction count generalizing index with
  | zero => exact relation.value []
  | succ count ih =>
      apply relation.bind (covers.add table _)
      intro place
      apply relation.bind (covers.readBytes place DynamicEntry.size)
      intro record
      dsimp only
      split
      · exact relation.value []
      · apply relation.bind (ih (index + 1))
        intro rest
        exact relation.value _

theorem ofDynamic_compared
    (covers : relation.Covers build other memory part) (base bias : Word)
    (entries : List DynamicEntry) :
    relation.Holds (ofDynamic build memory base bias entries)
      (ofDynamic other part base bias entries) := by
  unfold ofDynamic
  dsimp only
  split
  · exact relation.value _
  · apply relation.bind (covers.add _ 4)
    intro place
    apply relation.bind (covers.readNat place 4)
    intro symbolCount
    exact relation.value _

theorem locate_compared (covers : relation.Covers build other memory part)
    (base : Word) :
    relation.Holds (locate build memory base) (locate other part base) := by
  apply relation.bind (covers.readBytes base Header.size)
  intro record
  dsimp only
  cases (Header.ofBytes record).malformation? with
  | some reason => exact relation.value _
  | none =>
      apply relation.bind (readSegments_compared covers base _ 0 _)
      intro segments
      cases dynamicAddress? segments with
      | none => exact relation.value _
      | some dynamic =>
          dsimp only
          split
          · exact relation.value _
          · apply relation.bind (readDynamic_compared covers _ 0 _)
            intro entries
            exact ofDynamic_compared covers base _ entries

variable {image : Image}

theorem nameIs_compared (covers : relation.Covers build other memory part)
    (place : Nat) (text : String) :
    relation.Holds (nameIs build memory image place text)
      (nameIs other part image place text) := by
  unfold nameIs
  split
  · apply relation.bind (covers.add image.stringTable _)
    intro address
    apply relation.bind (covers.readBytes address _)
    intro bytes
    exact relation.value _
  · exact relation.value false

theorem definesVersion_compared
    (covers : relation.Covers build other memory part) (number : Nat)
    (version : String) (address : Word) (steps : Nat) :
    relation.Holds
      (definesVersion build memory image number version address steps)
      (definesVersion other part image number version address steps) := by
  induction steps generalizing address with
  | zero => exact relation.value false
  | succ steps ih =>
      apply relation.bind (covers.readBytes address _)
      intro record
      dsimp only
      split
      · apply relation.bind (covers.readBytes _ _)
        intro name
        exact nameIs_compared covers _ version
      · split
        · exact relation.value false
        · exact ih _

theorem hasVersion_compared
    (covers : relation.Covers build other memory part) (index : Nat)
    (version : String) :
    relation.Holds (hasVersion build memory image index version)
      (hasVersion other part image index version) := by
  unfold hasVersion
  split
  · exact relation.value true
  · apply relation.bind (covers.add image.symbolVersions _)
    intro place
    apply relation.bind (covers.readNat place 2)
    intro entry
    split
    · exact relation.value false
    · exact definesVersion_compared covers entry version _ _

theorem answers_compared (covers : relation.Covers build other memory part)
    (query : SymbolQuery) (index : Nat) (symbol : Symbol) :
    relation.Holds (answers build memory image query index symbol)
      (answers other part image query index symbol) := by
  unfold answers
  split
  · exact relation.value false
  · apply relation.bind (nameIs_compared covers symbol.name query.name)
    intro named
    split
    · exact hasVersion_compared covers index query.version
    · exact relation.value false

theorem readSymbol_compared (covers : relation.Covers build other memory part)
    (index : Nat) :
    relation.Holds (readSymbol build memory image index)
      (readSymbol other part image index) := by
  apply relation.bind (covers.add image.symbolTable _)
  intro place
  apply relation.bind (covers.readBytes place Symbol.size)
  intro record
  exact relation.value _

theorem findFrom_compared (covers : relation.Covers build other memory part)
    (query : SymbolQuery) (index count : Nat) :
    relation.Holds (findFrom build memory image query index count)
      (findFrom other part image query index count) := by
  induction count generalizing index with
  | zero => exact relation.value none
  | succ count ih =>
      apply relation.bind (readSymbol_compared covers index)
      intro symbol
      apply relation.bind (answers_compared covers query index symbol)
      intro found
      split
      · exact relation.value (some symbol)
      · exact ih (index + 1)

theorem lookup_compared (covers : relation.Covers build other memory part)
    (image : Image) (query : SymbolQuery) :
    relation.Holds (lookup build memory image query)
      (lookup other part image query) := by
  apply relation.bind (findFrom_compared covers query 0 _)
  intro found
  cases found with
  | none => exact relation.value _
  | some symbol => exact relation.value _

end Image

namespace Trampoline

/-- One instruction is read, and the scan goes on behind it. -/
theorem scan_eq_bind (code : Code) (offset pushes : Nat) :
    scan code offset pushes =
      if offset < scanWindow then
        code offset >>= fun
          | none => .ok .exhausted
          | some opcode =>
              code (offset + 1) >>= fun operand =>
                match Instruction.decode opcode operand with
                | .push => scan code (offset + 1) (pushes + 1)
                | .move => scan code (offset + 2) pushes
                | .keepFrame => .ok .framed
                | .enterKernel => .ok (.kernelEntry pushes)
                | .interrupt => .ok (.interrupt pushes)
                | .unknown opcode => .ok (.unknown opcode)
      else .ok .exhausted := by
  rw [scan]
  split
  · cases code offset with
    | error cause => rfl
    | ok found =>
        cases found with
        | none => rfl
        | some opcode =>
            cases code (offset + 1) <;> rfl
  · rfl

theorem scan_compared (relation : Comparison) {code other : Code}
    (bytes : ∀ offset, relation.Holds (code offset) (other offset))
    (offset pushes : Nat) :
    relation.Holds (scan code offset pushes) (scan other offset pushes) := by
  -- The scan moves towards the end of the window, by one byte or by two.
  induction remaining : scanWindow - offset using Nat.strongRecOn
    generalizing offset pushes with
  | _ remaining ih =>
    rw [scan_eq_bind code, scan_eq_bind other]
    split
    next inside =>
      apply relation.bind (bytes offset)
      intro found
      cases found with
      | none => exact relation.value _
      | some opcode =>
          apply relation.bind (bytes (offset + 1))
          intro operand
          split
          · exact ih _ (by omega) (offset + 1) (pushes + 1) rfl
          · exact ih _ (by omega) (offset + 2) pushes rfl
          · exact relation.value _
          · exact relation.value _
          · exact relation.value _
          · exact relation.value _
    next => exact relation.value _

end Trampoline

end FrameChain
