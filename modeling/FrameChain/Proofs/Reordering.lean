import Mathlib.Data.List.FinRange
import FrameChain.Proofs.Acceptance
import FrameChain.Proofs.Elsewhere
import FrameChain.Proofs.Located

/-!
# Tables in another order

The object is located by the least address of its loaded segments, its last
dynamic segment and the last dynamic entry of each tag.  The order of the rows
of the two tables matters no further: an object with its segments or its
dynamic entries in another order is located as before, as long as the last ones
of a kind stay the last.  What is changed must not be read as a part of
something else, so the rows must not overlap any other part of the object that
is read.
-/

namespace FrameChain

/-- Two ranges share no byte. -/
def Word.Apart (start : Word) (count : Nat) (other : Word) (size : Nat) :
    Prop :=
  ∀ place < count, ∀ index < size, start.offset place ≠ other.offset index

theorem Word.toNat_offset {start : Word} {count : Nat}
    (fits : start.toNat + count < UInt64.size) :
    (start.offset count).toNat = start.toNat + count := by
  rw [offset, UInt64.toNat_add, UInt64.toNat_ofNat_of_lt' (by omega)]
  exact Nat.mod_eq_of_lt fits

theorem Word.Apart.symm {start other : Word} {count size : Nat}
    (apart : start.Apart count other size) : other.Apart size start count := by
  intro index within place inside same
  exact apart place inside index within same.symm

theorem Word.Apart.of_le {start other : Word} {count size : Nat}
    (below : start.toNat + count ≤ other.toNat)
    (fits : other.toNat + size ≤ UInt64.size) :
    start.Apart count other size := by
  intro place inside index within same
  have places := congrArg UInt64.toNat same
  rw [toNat_offset (by omega), toNat_offset (by omega)] at places
  omega

theorem Word.Apart.part {start other : Word} {count size before length : Nat}
    (apart : start.Apart count other size) (inside : before + length ≤ size) :
    start.Apart count (other.offset before) length := by
  intro place within index below
  rw [Word.offset_offset]
  exact apart place within (before + index) (by omega)

/-- The elements of a list in another order. -/
def reordered (list : List α) (order : Equiv.Perm (Fin list.length)) :
    List α :=
  List.ofFn fun index => list[order index]

/-- Another memory has the rows of a table in another order, and is the same
elsewhere. -/
structure Memory.Reordered (memory other : Memory) (table : Word)
    (size : Nat) {count : Nat} (order : Equiv.Perm (Fin count)) : Prop where
  rows : ∀ (row : Fin count), ∀ place < size,
    other.byte? ((table.offset (row * size)).offset place) =
      memory.byte? ((table.offset (order row * size)).offset place)
  elsewhere : ∀ address,
    (∀ place < count * size, table.offset place ≠ address) →
    other.byte? address = memory.byte? address

/-- Exchange the rows of a table. -/
def Memory.reorder (memory : Memory) (table : Word) (size : Nat)
    {count : Nat} (order : Equiv.Perm (Fin count)) : Memory :=
  ⟨fun address =>
    let place := (address - table).toNat
    if inside : place / size < count then
      memory.byte? ((table.offset (order ⟨place / size, inside⟩ * size)).offset
        (place % size))
    else memory.byte? address⟩

namespace Image

/-- What is read of an object while it is located. -/
inductive Part where
  | header
  | segments
  | entries
  | nullEntry
  | symbolCount
deriving DecidableEq, Repr

/-- Where a part of the object at a base is, and how many bytes it has. -/
inductive Occupies (memory : Memory) (base : Word) :
    Part → Word → Nat → Prop where
  | header : Occupies memory base .header base Header.size
  | segments {header : Header} {segments : List Segment} :
      Lists memory base header segments →
      Occupies memory base .segments (base + header.segments)
        (segments.length * Segment.size)
  | entries {bias table : Word} {entries : List DynamicEntry} :
      HasDynamic memory base bias table entries →
      Occupies memory base .entries table
        (entries.length * DynamicEntry.size)
  | nullEntry {bias table : Word} {entries : List DynamicEntry} :
      HasDynamic memory base bias table entries →
      entries.length < maxDynamicEntries →
      Occupies memory base .nullEntry
        (table.offset (entries.length * DynamicEntry.size)) DynamicEntry.size
  | symbolCount {bias table symbolTable stringTable stringSize hash : Word}
      {entries : List DynamicEntry} :
      HasDynamic memory base bias table entries →
      Complete entries bias symbolTable stringTable stringSize hash →
      Occupies memory base .symbolCount (hash + 4) 4

/-- A part of the object shares no byte with any other part. -/
def StandsAlone (memory : Memory) (base : Word) (part : Part) : Prop :=
  ∀ table count other address size,
    Occupies memory base part table count →
    Occupies memory base other address size →
    other ≠ part → table.Apart count address size

/-- The same object with the rows of one table in another order, of which the
last ones of a kind are those of before. -/
inductive Rearranged (memory other : Memory) (base : Word) : Prop where
  | segments {header : Header} {segments : List Segment}
      (order : Equiv.Perm (Fin segments.length)) :
      Lists memory base header segments →
      StandsAlone memory base .segments →
      memory.Reordered other (base + header.segments) Segment.size order →
      (∀ address, DynamicAt (reordered segments order) address ↔
        DynamicAt segments address) →
      Rearranged memory other base
  | entries {bias table : Word} {entries : List DynamicEntry}
      (order : Equiv.Perm (Fin entries.length)) :
      HasDynamic memory base bias table entries →
      StandsAlone memory base .entries →
      memory.Reordered other table DynamicEntry.size order →
      (∀ tag value, Gives (reordered entries order) tag value ↔
        Gives entries tag value) →
      Rearranged memory other base

end Image

theorem reordered_perm (list : List α) (order : Equiv.Perm (Fin list.length)) :
    (reordered list order).Perm list := by
  have permuted := order.ofFn_comp_perm list.get
  rw [List.ofFn_get] at permuted
  exact permuted

namespace Memory

variable {memory other : Memory} {size : Nat}

theorem reordered_reorder (memory : Memory) (table : Word) (size : Nat)
    {count : Nat} (order : Equiv.Perm (Fin count)) (nonempty : 0 < size)
    (fits : count * size ≤ UInt64.size) :
    memory.Reordered (memory.reorder table size order) table size order where
  rows := by
    intro row place inside
    have within : row * size + place < count * size := by
      have below := Nat.mul_le_mul_right size row.isLt
      rw [Nat.succ_mul] at below
      omega
    have distance : ((table.offset (row * size)).offset place - table).toNat =
        row * size + place := by
      rw [Word.offset_offset, Word.offset, UInt64.add_comm,
        UInt64.add_sub_cancel]
      exact UInt64.toNat_ofNat_of_lt' (Nat.lt_of_lt_of_le within fits)
    have quotient : (row * size + place) / size = row := by
      rw [Nat.add_comm, Nat.add_mul_div_right place row nonempty,
        Nat.div_eq_of_lt inside, Nat.zero_add]
    have remainder : (row * size + place) % size = place := by
      rw [Nat.add_comm, Nat.add_mul_mod_self_right, Nat.mod_eq_of_lt inside]
    simp only [reorder, distance, quotient, remainder, row.isLt, dite_true,
      Fin.eta]
  elsewhere := by
    intro address outside
    apply dif_neg
    rw [Nat.div_lt_iff_lt_mul nonempty]
    intro inside
    apply outside _ inside
    rw [Word.offset, UInt64.ofNat_toNat, UInt64.add_comm,
      UInt64.sub_add_cancel]

namespace Reordered

variable {table : Word} {count : Nat} {order : Equiv.Perm (Fin count)}

theorem readBytes (rearranged : memory.Reordered other table size order)
    {address : Word} {length : Nat}
    (apart : table.Apart (count * size) address length) :
    other.readBytes address length = memory.readBytes address length := by
  apply SameWord.readBytes
  intro index inside
  apply rearranged.elsewhere
  intro place within
  exact apart place within index inside

theorem readNat (rearranged : memory.Reordered other table size order)
    {address : Word} {length : Nat}
    (apart : table.Apart (count * size) address length) :
    other.readNat address length = memory.readNat address length := by
  rw [Memory.readNat, rearranged.readBytes apart, Memory.readNat]

theorem decodes_of_apart {decode : List UInt8 → α} {value : α}
    (rearranged : memory.Reordered other table size order)
    {address : Word} {length : Nat}
    (apart : table.Apart (count * size) address length)
    (decoded : memory.Decodes length decode address value) :
    other.Decodes length decode address value := by
  obtain ⟨record, recordRead, rfl⟩ := decoded
  exact ⟨record, (rearranged.readBytes apart).trans recordRead, rfl⟩

theorem rows_of_apart {decode : List UInt8 → α} {address : Word}
    {length : Nat} {rows : List α}
    (rearranged : memory.Reordered other table size order)
    (apart : table.Apart (count * size) address (rows.length * length))
    (held : memory.Rows length decode address rows) :
    other.Rows length decode address rows := by
  intro index row found
  have inside : (index + 1) * length ≤ rows.length * length :=
    Nat.mul_le_mul_right length (List.getElem?_eq_some_iff.mp found).1
  rw [Nat.add_one_mul] at inside
  exact rearranged.decodes_of_apart (apart.part inside) (held index row found)

theorem decodes {decode : List UInt8 → α} {value : α}
    (rearranged : memory.Reordered other table size order) (row : Fin count)
    (decoded : memory.Decodes size decode
      (table.offset (order row * size)) value) :
    other.Decodes size decode (table.offset (row * size)) value := by
  obtain ⟨record, recordRead, rfl⟩ := decoded
  obtain ⟨length, bytes⟩ := readBytes_eq_ok_iff.mp recordRead
  refine ⟨record, readBytes_eq_ok_iff.mpr ⟨length, ?_⟩, rfl⟩
  intro place inside
  rw [rearranged.rows row place inside]
  exact bytes place inside

end Reordered

theorem Rows.reordered {decode : List UInt8 → α} {table : Word}
    {rows : List α} {order : Equiv.Perm (Fin rows.length)}
    (held : memory.Rows size decode table rows)
    (rearranged : memory.Reordered other table size order) :
    other.Rows size decode table (reordered rows order) := by
  intro index row found
  rw [FrameChain.reordered, List.getElem?_ofFn] at found
  split at found
  next inside =>
    cases found
    apply rearranged.decodes ⟨index, inside⟩
    exact held _ _ (List.getElem?_eq_getElem (order ⟨index, inside⟩).isLt)
  next => cases found

end Memory

namespace Image

variable {memory other : Memory} {build : Build} {base : Word}

/-- What locating an object depends on is alike in another memory. -/
structure Agrees (memory other : Memory) (base : Word) : Prop where
  header : other.readBytes base Header.size =
    memory.readBytes base Header.size
  segments : ∀ {header : Header} {segments : List Segment},
    Lists memory base header segments →
    ∃ others, others.length = segments.length ∧
      other.Rows Segment.size .ofBytes (base + header.segments) others ∧
      ∀ lowest dynamic, Loads others lowest dynamic ↔
        Loads segments lowest dynamic
  entries : ∀ {bias table : Word} {entries : List DynamicEntry},
    HasDynamic memory base bias table entries →
    ∃ others, others.length = entries.length ∧ Entries other table others ∧
      ∀ tag value, Gives others tag value ↔ Gives entries tag value
  symbolCount : ∀ {bias table symbolTable stringTable stringSize hash : Word}
      {entries : List DynamicEntry},
    HasDynamic memory base bias table entries →
    Complete entries bias symbolTable stringTable stringSize hash →
    other.readNat (hash + 4) 4 = memory.readNat (hash + 4) 4

theorem lastValue?_congr {entries others : List DynamicEntry}
    (gives : ∀ tag value, Gives others tag value ↔ Gives entries tag value)
    (tag : Word) : lastValue? others tag = lastValue? entries tag := by
  apply Option.ext
  intro value
  rw [lastValue?_eq_some_iff, lastValue?_eq_some_iff]
  exact gives tag value

/-- The image depends on the last entry of each tag, and on the number of
symbols. -/
theorem ofDynamic_congr {bias : Word} {entries others : List DynamicEntry}
    (gives : ∀ tag value, Gives others tag value ↔ Gives entries tag value)
    (symbolCount : ∀ symbolTable stringTable stringSize hash,
      Complete entries bias symbolTable stringTable stringSize hash →
      other.readNat (hash + 4) 4 = memory.readNat (hash + 4) 4) :
    ofDynamic build other base bias others =
      ofDynamic build memory base bias entries := by
  have points : ∀ tag,
      relocated others bias tag = relocated entries bias tag := by
    intro tag
    rw [relocated, relocated, lastValue?_congr gives]
  unfold ofDynamic
  simp only [points, lastValue?_congr gives]
  split
  next => rfl
  next present =>
    have counts := symbolCount _ _ _ _
      (complete_iff.mpr ⟨⟨rfl, rfl, rfl, rfl⟩, present⟩)
    cases sum : build.add (relocated entries bias Tag.hash) 4 with
    | error => rfl
    | ok place =>
        cases Build.add_eq_ok sum
        simp only [bind, Except.bind, counts]

theorem readSegments_of_rows {header : Header} {count : Nat}
    {segments others : List Segment}
    (segmentsRead : readSegments build memory base header 0 count =
      .ok segments)
    (length : others.length = count)
    (held : other.Rows Segment.size .ofBytes (base + header.segments)
      others) :
    readSegments build other base header 0 count = .ok others := by
  apply readSegments_other segmentsRead length
  simp only [Nat.zero_add]
  exact held

theorem readDynamic_of_entries {table : Word}
    {entries others : List DynamicEntry}
    (entriesRead : readDynamic build memory table 0 maxDynamicEntries =
      .ok entries)
    (length : others.length = entries.length)
    (held : Entries other table others) :
    readDynamic build other table 0 maxDynamicEntries = .ok others := by
  apply readDynamic_other entriesRead length
  · simp only [Nat.zero_add]
    exact held.rows
  · exact held.proper
  · intro fewer
    rw [Nat.zero_add, ← length]
    rw [← length] at fewer
    exact (held.ends.resolve_left (Nat.ne_of_lt fewer)).2

theorem locate_of_agrees {answer : Except SymbolError Image}
    (returned : locate build memory base = .ok answer)
    (agrees : Agrees memory other base) :
    locate build other base = .ok answer := by
  cases course_of_locate returned with
  | malformed headerRead malformed =>
      exact locate_of_malformed (agrees.header.trans headerRead) malformed
  | unloaded headerRead lists segmentsRead unloaded =>
      obtain ⟨others, length, rows, loadsAlike⟩ := agrees.segments lists
      have othersRead := readSegments_of_rows segmentsRead
        (length.trans lists.count) rows
      apply locate_of_unloaded (agrees.header.trans headerRead) lists.native
        othersRead
      intro lowest dynamic loads
      exact unloaded _ _ ((loadsAlike lowest dynamic).mp loads)
  | loaded headerRead lists segmentsRead loads entriesRead described =>
      have dynamic := hasDynamic_of_readDynamic lists loads entriesRead
      obtain ⟨others, length, rows, loadsAlike⟩ := agrees.segments lists
      obtain ⟨entries, entriesLength, held, gives⟩ := agrees.entries dynamic
      have othersRead := readSegments_of_rows segmentsRead
        (length.trans lists.count) rows
      rw [locate_of_loads (agrees.header.trans headerRead) lists.native
        othersRead ((loadsAlike _ _).mpr loads)]
      refine bind_eq_ok_iff.mpr ⟨entries,
        readDynamic_of_entries entriesRead entriesLength held, ?_⟩
      rw [ofDynamic_congr gives]
      · exact described
      · intro symbolTable stringTable stringSize hash complete
        exact agrees.symbolCount dynamic complete

theorem Lowest.perm {segments others : List Segment} {lowest : Word}
    (permuted : segments.Perm others) (least : Lowest segments lowest) :
    Lowest others lowest := by
  obtain ⟨segment, member, loaded, found⟩ := least.attained
  refine ⟨⟨segment, permuted.mem_iff.mp member, loaded, found⟩, ?_⟩
  intro another also
  exact least.least another (permuted.mem_iff.mpr also)

/-- The order of the segments decides about the last dynamic one only. -/
theorem loads_reordered_iff {segments : List Segment}
    {order : Equiv.Perm (Fin segments.length)}
    (last : ∀ address, DynamicAt (reordered segments order) address ↔
      DynamicAt segments address)
    (lowest dynamic : Word) :
    Loads (reordered segments order) lowest dynamic ↔
      Loads segments lowest dynamic := by
  have permuted := reordered_perm segments order
  constructor
  · intro ⟨least, present, found⟩
    exact ⟨least.perm permuted, present, (last dynamic).mp found⟩
  · intro ⟨least, present, found⟩
    exact ⟨least.perm permuted.symm, present, (last dynamic).mpr found⟩

theorem Entries.of_rows {table address : Word}
    {entries others : List DynamicEntry} {size count : Nat}
    {order : Equiv.Perm (Fin count)}
    (held : Entries memory address entries)
    (rearranged : memory.Reordered other table size order)
    (permuted : others.Perm entries)
    (rows : other.Rows DynamicEntry.size .ofBytes address others)
    (null : entries.length < maxDynamicEntries →
      table.Apart (count * size)
        (address.offset (entries.length * DynamicEntry.size))
        DynamicEntry.size) :
    Entries other address others where
  rows := rows
  proper := by
    intro entry member
    exact held.proper entry (permuted.mem_iff.mp member)
  ends := by
    rw [permuted.length_eq]
    rcases held.ends with all | ⟨fewer, last, stored, isNull⟩
    · exact .inl all
    · exact .inr ⟨fewer, last,
        rearranged.decodes_of_apart (null fewer) stored, isNull⟩

theorem Rearranged.agrees (rearranged : Rearranged memory other base) :
    Agrees memory other base := by
  cases rearranged with
  | @segments header segments order lists alone moved last =>
      -- Each other part is read from bytes that no segment occupies.
      have apart := fun {part address size} =>
        alone _ _ part address size (.segments lists)
      refine ⟨?_, ?_, ?_, ?_⟩
      · exact moved.readBytes (apart .header nofun)
      · intro _ _ found
        obtain ⟨rfl, rfl⟩ := found.unique lists
        exact ⟨_, (reordered_perm _ order).length_eq,
          found.rows.reordered moved, loads_reordered_iff last⟩
      · intro _ _ entries dynamic
        refine ⟨entries, rfl, ?_, fun _ _ => .rfl⟩
        apply dynamic.entries.of_rows moved (.refl entries)
        · exact moved.rows_of_apart (apart (.entries dynamic) nofun)
            dynamic.entries.rows
        · intro fewer
          exact apart (.nullEntry dynamic fewer) nofun
      · intro _ _ _ _ _ _ _ dynamic complete
        exact moved.readNat (apart (.symbolCount dynamic complete) nofun)
  | @entries bias table entries order dynamic alone moved gives =>
      have apart := fun {part address size} =>
        alone _ _ part address size (.entries dynamic)
      refine ⟨?_, ?_, ?_, ?_⟩
      · exact moved.readBytes (apart .header nofun)
      · intro _ segments lists
        refine ⟨segments, rfl, ?_, fun _ _ => .rfl⟩
        exact moved.rows_of_apart (apart (.segments lists) nofun) lists.rows
      · intro _ _ _ found
        obtain ⟨rfl, rfl, rfl⟩ := found.unique dynamic
        have permuted := reordered_perm _ order
        refine ⟨_, permuted.length_eq, ?_, gives⟩
        apply found.entries.of_rows moved permuted
          (found.entries.rows.reordered moved)
        intro fewer
        exact apart (.nullEntry found fewer) nofun
      · intro _ _ _ _ _ _ _ found complete
        exact moved.readNat (apart (.symbolCount found complete) nofun)

/-- Locating an object is exact: unless a read or a sum stops it, it succeeds
precisely for an object that has all its tables, with the one image that its
bytes describe, and it fails with the first check that the object does not
pass.  The order of the segments and of the dynamic entries does not show. -/
theorem locate_exact (build : Build) (memory : Memory) (base : Word)
    (reads : locate build memory base ≠ .error .unmappedRead)
    (fits : locate build memory base ≠ .error .additionOverflow) :
    ∃ answer, locate build memory base = .ok answer ∧
      ((∃ image, answer = .ok image) ↔ Locatable memory base) ∧
      (∀ image, answer = .ok image ↔ Located memory base image) ∧
      (∀ error, answer = .error error ↔
        ∃ reason, error = .malformed reason ∧ Fails memory base reason) ∧
      ∀ other, Rearranged memory other base →
        locate build other base = .ok answer := by
  have stops := locate_compared
    (Comparison.breaksOff_covers build memory) base
  obtain ⟨answer, returned⟩ := Comparison.returns_of_breaksOff stops reads fits
  refine ⟨answer, returned, ?_, locate_image_iff returned, ?_, ?_⟩
  · constructor
    · rintro ⟨image, found⟩
      exact ((locate_image_iff returned image).mp found).locatable
    · intro locatable
      rcases locate_eq_ok returned with
        ⟨image, found, _⟩ | ⟨reason, _, fails⟩
      · exact ⟨image, found⟩
      · exact absurd locatable fails.not_locatable
  · intro error
    constructor
    · intro failed
      rcases locate_eq_ok returned with
        ⟨image, found, _⟩ | ⟨reason, found, fails⟩
      · cases failed.symm.trans found
      · cases failed.symm.trans found
        exact ⟨reason, rfl, fails⟩
    · rintro ⟨reason, rfl, fails⟩
      exact (locate_malformed_iff returned reason).mpr fails
  · intro other rearranged
    exact locate_of_agrees returned rearranged.agrees

end Image

namespace SharedObject

def header : Image.Header where
  magic := Image.fileMagic
  fileClass := Image.nativeClass
  segments := 0x40
  segmentSize := Image.Segment.size
  segmentCount := 2

def segments : List Image.Segment :=
  [⟨Image.Segment.loadKind, 0⟩, ⟨Image.Segment.dynamicKind, 0x100⟩]

def entries : List Image.DynamicEntry :=
  [⟨Image.Tag.hash, 0x180⟩, ⟨Image.Tag.stringTable, 0x200⟩,
    ⟨Image.Tag.symbolTable, 0x190⟩, ⟨Image.Tag.stringSize, 51⟩,
    ⟨Image.Tag.symbolVersions, 0x1D0⟩, ⟨Image.Tag.versionDefinitions, 0x1E0⟩]

theorem lists : Image.Lists memory 0x1000 header segments where
  stored := Memory.decodes_iff.mpr (by decide +kernel)
  native := ⟨rfl, rfl, rfl⟩
  count := rfl
  rows := by
    have segmentsRead : Image.readSegments .release memory 0x1000 header 0 2 =
        .ok segments := by
      decide +kernel
    have rows := (Image.readSegments_rows segmentsRead).2
    simp only [Nat.zero_add] at rows
    exact rows

theorem hasDynamic :
    Image.HasDynamic memory 0x1000 0x1000 0x1100 entries := by
  have loads : Image.Loads segments 0 0x100 :=
    Image.loads_iff.mpr (by decide)
  have entriesRead : Image.readDynamic .release memory (0x100 + (0x1000 - 0)) 0
      Image.maxDynamicEntries = .ok entries := by
    decide +kernel
  have dynamic := Image.hasDynamic_of_readDynamic lists loads entriesRead
  rw [UInt64.sub_zero] at dynamic
  exact dynamic

theorem segments_standAlone :
    Image.StandsAlone memory 0x1000 .segments := by
  intro table count other address size here there different
  cases here with
  | segments found =>
      obtain ⟨rfl, rfl⟩ := found.unique lists
      cases there with
      | header => exact (Word.Apart.of_le (by decide) (by decide)).symm
      | segments => exact absurd rfl different
      | entries dynamic =>
          obtain ⟨_, rfl, rfl⟩ := dynamic.unique hasDynamic
          exact Word.Apart.of_le (by decide) (by decide)
      | nullEntry dynamic =>
          obtain ⟨_, rfl, rfl⟩ := dynamic.unique hasDynamic
          exact Word.Apart.of_le (by decide) (by decide)
      | symbolCount dynamic complete =>
          obtain ⟨rfl, rfl, rfl⟩ := dynamic.unique hasDynamic
          have hashed : Image.PointsTo entries 0x1000 Image.Tag.hash 0x1180 :=
            Image.pointsTo_iff.mpr (by decide)
          cases complete.hashed.unique hashed
          exact Word.Apart.of_le (by decide) (by decide)

def exchange : Equiv.Perm (Fin segments.length) :=
  Equiv.swap ⟨0, by decide⟩ ⟨1, by decide⟩

/-- The object with its two segments exchanged. -/
def exchanged : Memory :=
  memory.reorder 0x1040 Image.Segment.size exchange

theorem exchanged_rearranged :
    Image.Rearranged memory exchanged 0x1000 := by
  apply Image.Rearranged.segments exchange lists segments_standAlone
  · exact Memory.reordered_reorder memory 0x1040 Image.Segment.size exchange
      (by decide) (by decide)
  · intro address
    rw [← Image.dynamicAddress?_eq_some_iff,
      ← Image.dynamicAddress?_eq_some_iff]
    rfl

end SharedObject

/-- The dynamic segment of the object may come before the loaded one. -/
theorem Image.locate_exact_exchanged_segments :
    let memory := SharedObject.memory
    let image := SharedObject.image 0x1000
    (locate .development memory 0x1000 ≠ .error .unmappedRead ∧
      locate .development memory 0x1000 ≠ .error .additionOverflow ∧
      Rearranged memory SharedObject.exchanged 0x1000) ∧
    Locatable memory 0x1000 ∧ Located memory 0x1000 image ∧
    locate .development SharedObject.exchanged 0x1000 = .ok (.ok image) := by
  intro memory image
  have found : locate .development memory 0x1000 = .ok (.ok image) := by
    decide +kernel
  have reads : locate .development memory 0x1000 ≠ .error .unmappedRead := by
    rw [found]
    nofun
  have fits : locate .development memory 0x1000 ≠ .error .additionOverflow := by
    rw [found]
    nofun
  obtain ⟨answer, returned, locatable, located, _, others⟩ :=
    locate_exact .development memory 0x1000 reads fits
  cases found.symm.trans returned
  exact ⟨⟨reads, fits, SharedObject.exchanged_rearranged⟩,
    locatable.mp ⟨image, rfl⟩, (located image).mp rfl,
    others _ SharedObject.exchanged_rearranged⟩

end FrameChain
