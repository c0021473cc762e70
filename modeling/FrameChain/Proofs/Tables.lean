import FrameChain.Proofs.Records

/-!
# Where the tables of an object are

Two tables of the object lead to all others.  The segments say how far the
object is from the addresses it was linked for, and where its dynamic table is;
the entries of that say where the rest is.  A segment or an entry can occur
more than once, and it is the least or the last occurrence that counts.

The least address and the last occurrence are described here by what the tables
contain.  The largest word and 0, which stand for an absent address in the
image, do not come up in the description of an object that is located.
-/

namespace FrameChain

/-- The rows of a table: records of one size, one behind the other. -/
def Memory.Rows (memory : Memory) (size : Nat) (decode : List UInt8 → α)
    (table : Word) (rows : List α) : Prop :=
  ∀ index row, rows[index]? = some row →
    memory.Decodes size decode (table.offset (index * size)) row

/-- The last element of a list that has a property. -/
def IsLast (list : List α) (has : α → Prop) (last : α) : Prop :=
  ∃ before after, list = before ++ last :: after ∧ has last ∧
    ∀ other ∈ after, ¬ has other

namespace Image

structure Header.Native (header : Header) : Prop where
  magic : header.magic = fileMagic
  fileClass : header.fileClass = nativeClass
  segmentSize : header.segmentSize = Segment.size

/-- The segments that the header of the object at a base lists. -/
structure Lists (memory : Memory) (base : Word) (header : Header)
    (segments : List Segment) : Prop where
  stored : memory.Decodes Header.size .ofBytes base header
  native : header.Native
  count : segments.length = header.segmentCount
  rows : memory.Rows Segment.size .ofBytes (base + header.segments) segments

/-- The least link address of a loaded segment. -/
structure Lowest (segments : List Segment) (lowest : Word) : Prop where
  attained : ∃ segment ∈ segments,
    segment.kind = Segment.loadKind ∧ segment.linkAddress = lowest
  least : ∀ segment ∈ segments, segment.kind = Segment.loadKind →
    lowest ≤ segment.linkAddress

/-- The link address of the last dynamic segment. -/
def DynamicAt (segments : List Segment) (address : Word) : Prop :=
  ∃ segment, IsLast segments (·.kind = Segment.dynamicKind) segment ∧
    segment.linkAddress = address

/-- The link addresses of the object and of its dynamic table, both of which
exist. -/
structure Loads (segments : List Segment) (lowest dynamic : Word) : Prop where
  least : Lowest segments lowest
  present : lowest ≠ noAddress
  last : DynamicAt segments dynamic

/-- The entries of a dynamic table before its first null entry, or as many as
are looked at. -/
structure Entries (memory : Memory) (table : Word)
    (entries : List DynamicEntry) : Prop where
  rows : memory.Rows DynamicEntry.size .ofBytes table entries
  proper : ∀ entry ∈ entries, entry.tag ≠ Tag.null
  ends : entries.length = maxDynamicEntries ∨
    entries.length < maxDynamicEntries ∧ ∃ last : DynamicEntry,
      memory.Decodes DynamicEntry.size .ofBytes
        (table.offset (entries.length * DynamicEntry.size)) last ∧
      last.tag = Tag.null

/-- The object at a base has a dynamic table at an address. -/
structure HasDynamic (memory : Memory) (base bias table : Word)
    (entries : List DynamicEntry) : Prop where
  located : ∃ header segments lowest dynamic,
    Lists memory base header segments ∧ Loads segments lowest dynamic ∧
      bias = base - lowest ∧ table = dynamic + bias
  entries : Entries memory table entries

/-- The value of the last entry with a tag. -/
def Gives (entries : List DynamicEntry) (tag value : Word) : Prop :=
  ∃ entry, IsLast entries (·.tag = tag) entry ∧ entry.value = value

/-- The last entry with a tag is the link address of a table that is mapped at
an address other than 0. -/
structure PointsTo (entries : List DynamicEntry) (bias tag address : Word) :
    Prop where
  given : ∃ value, Gives entries tag value ∧ address = value + bias
  nonzero : address ≠ 0

/-- The tables that no object is without. -/
structure Complete (entries : List DynamicEntry)
    (bias symbolTable stringTable stringSize hash : Word) : Prop where
  symbols : PointsTo entries bias Tag.symbolTable symbolTable
  strings : PointsTo entries bias Tag.stringTable stringTable
  sized : Gives entries Tag.stringSize stringSize
  nonempty : stringSize ≠ 0
  hashed : PointsTo entries bias Tag.hash hash

/-- The version tables of an image: both where the entries point, or none. -/
inductive Versions (entries : List DynamicEntry) (image : Image) : Prop where
  | present :
      PointsTo entries image.bias Tag.symbolVersions image.symbolVersions →
      PointsTo entries image.bias Tag.versionDefinitions
        image.versionDefinitions →
      Versions entries image
  | absent :
      (∀ versions definitions,
        PointsTo entries image.bias Tag.symbolVersions versions →
        ¬ PointsTo entries image.bias Tag.versionDefinitions definitions) →
      image.symbolVersions = 0 →
      image.versionDefinitions = 0 →
      Versions entries image

/-- An image is that of an object with certain dynamic entries. -/
structure Describes (memory : Memory) (entries : List DynamicEntry)
    (image : Image) : Prop where
  tables : ∃ hash,
    Complete entries image.bias image.symbolTable image.stringTable
        image.stringSize hash ∧
      memory.Decodes 4 littleEndian (hash + 4) image.symbolCount.toNat
  versions : Versions entries image

/-- All that it takes to locate the object at a base. -/
def Locatable (memory : Memory) (base : Word) : Prop :=
  ∃ bias table entries symbolTable stringTable stringSize hash,
    HasDynamic memory base bias table entries ∧
      Complete entries bias symbolTable stringTable stringSize hash

/-- An image is that of the object at a base. -/
structure Located (memory : Memory) (base : Word) (image : Image) : Prop where
  mapped : image.base = base
  dynamic : ∃ table entries,
    HasDynamic memory base image.bias table entries ∧
      Describes memory entries image

/-- The first check that the object at a base does not pass. -/
inductive Fails (memory : Memory) (base : Word) : Malformation → Prop where
  | badMagic {header : Header} :
      memory.Decodes Header.size .ofBytes base header →
      header.magic ≠ fileMagic →
      Fails memory base .badMagic
  | foreignClass {header : Header} :
      memory.Decodes Header.size .ofBytes base header →
      header.magic = fileMagic →
      header.fileClass ≠ nativeClass →
      Fails memory base .foreignClass
  | headerSize {header : Header} :
      memory.Decodes Header.size .ofBytes base header →
      header.magic = fileMagic →
      header.fileClass = nativeClass →
      header.segmentSize ≠ Segment.size →
      Fails memory base .headerSize
  | noDynamicSegment {header : Header} {segments : List Segment} :
      Lists memory base header segments →
      (∀ lowest dynamic, ¬ Loads segments lowest dynamic) →
      Fails memory base .noDynamicSegment
  | incompleteTables {bias table : Word} {entries : List DynamicEntry} :
      HasDynamic memory base bias table entries →
      (∀ symbolTable stringTable stringSize hash,
        ¬ Complete entries bias symbolTable stringTable stringSize hash) →
      Fails memory base .incompleteTables

end Image

theorem find?_reverse_eq_some_iff {list : List α} {test : α → Bool}
    {last : α} :
    list.reverse.find? test = some last ↔
      IsLast list (test · = true) last := by
  rw [List.find?_eq_some_iff_append]
  constructor
  · rintro ⟨passed, front, back, split, failed⟩
    refine ⟨back.reverse, front.reverse, ?_, passed, ?_⟩
    · have whole := congrArg List.reverse split
      simpa using whole
    · intro other member
      simpa using failed other (List.mem_reverse.mp member)
  · rintro ⟨before, after, rfl, passed, failed⟩
    refine ⟨passed, after.reverse, before.reverse, by simp, ?_⟩
    intro other member
    simpa using failed other (List.mem_reverse.mp member)

namespace Image

variable {build : Build} {memory : Memory} {base : Word}

theorem malformation?_eq_none_iff {header : Header} :
    header.malformation? = none ↔ header.Native := by
  unfold Header.malformation?
  constructor
  · intro passed
    split at passed
    · cases passed
    · split at passed
      · cases passed
      · split at passed
        · cases passed
        next magic fileClass segmentSize =>
          exact ⟨Decidable.not_not.mp magic, Decidable.not_not.mp fileClass,
            Decidable.not_not.mp segmentSize⟩
  · intro native
    rw [if_neg (not_not_intro native.magic),
      if_neg (not_not_intro native.fileClass),
      if_neg (not_not_intro native.segmentSize)]

theorem dynamicAddress?_eq_some_iff {segments : List Segment}
    {address : Word} :
    dynamicAddress? segments = some address ↔ DynamicAt segments address := by
  rw [dynamicAddress?, Option.map_eq_some_iff]
  simp only [find?_reverse_eq_some_iff, decide_eq_true_iff]
  rfl

theorem lastValue?_eq_some_iff {entries : List DynamicEntry}
    {tag value : Word} :
    lastValue? entries tag = some value ↔ Gives entries tag value := by
  rw [lastValue?, Option.map_eq_some_iff]
  simp only [find?_reverse_eq_some_iff, decide_eq_true_iff]
  rfl

theorem pointsTo_iff {entries : List DynamicEntry} {bias tag address : Word} :
    PointsTo entries bias tag address ↔
      relocated entries bias tag = address ∧ address ≠ 0 := by
  unfold relocated
  constructor
  · intro ⟨⟨value, gives, moved⟩, nonzero⟩
    rw [lastValue?_eq_some_iff.mpr gives]
    exact ⟨moved.symm, nonzero⟩
  · intro ⟨moved, nonzero⟩
    cases found : lastValue? entries tag with
    | none =>
        rw [found] at moved
        exact absurd moved.symm nonzero
    | some value =>
        rw [found] at moved
        exact ⟨⟨value, lastValue?_eq_some_iff.mp found, moved.symm⟩, nonzero⟩

/-- The lowest address so far, after one more segment. -/
def lower (lowest : Word) (segment : Segment) : Word :=
  if segment.kind = Segment.loadKind then min lowest segment.linkAddress
  else lowest

theorem lower_spec (lowest : Word) (segment : Segment) :
    lower lowest segment ≤ lowest ∧
      (segment.kind = Segment.loadKind →
        lower lowest segment ≤ segment.linkAddress) ∧
      (lower lowest segment = lowest ∨
        segment.kind = Segment.loadKind ∧
          segment.linkAddress = lower lowest segment) := by
  unfold lower
  split
  next loaded =>
    refine ⟨Std.min_le_left, fun _ => Std.min_le_right, ?_⟩
    rcases Std.MinEqOr.min_eq_or lowest segment.linkAddress with kept | taken
    · exact .inl kept
    · exact .inr ⟨loaded, taken.symm⟩
  next other =>
    exact ⟨UInt64.le_refl lowest, fun loaded => absurd loaded other, .inl rfl⟩

/-- The least of some link addresses and a bound is below all of them, and is
one of them. -/
theorem foldl_lower_spec (segments : List Segment) (bound : Word) :
    segments.foldl lower bound ≤ bound ∧
      (∀ segment ∈ segments, segment.kind = Segment.loadKind →
        segments.foldl lower bound ≤ segment.linkAddress) ∧
      (segments.foldl lower bound = bound ∨ ∃ segment ∈ segments,
        segment.kind = Segment.loadKind ∧
          segment.linkAddress = segments.foldl lower bound) := by
  induction segments generalizing bound with
  | nil =>
      exact ⟨UInt64.le_refl bound, nofun, .inl rfl⟩
  | cons first rest ih =>
      obtain ⟨below, here, taken⟩ := lower_spec bound first
      obtain ⟨lower, others, attained⟩ := ih _
      rw [List.foldl_cons]
      refine ⟨UInt64.le_trans lower below, ?_, ?_⟩
      · intro segment member loaded
        rcases List.mem_cons.mp member with rfl | later
        · exact UInt64.le_trans lower (here loaded)
        · exact others segment later loaded
      · rcases attained with same | ⟨segment, member, found⟩
        · rw [same]
          rcases taken with kept | attained
          · exact .inl kept
          · exact .inr ⟨first, List.mem_cons_self, attained⟩
        · exact .inr ⟨segment, List.mem_cons_of_mem first member, found⟩

theorem le_noAddress (address : Word) : address ≤ noAddress := by
  rw [UInt64.le_iff_toNat_le]
  exact Nat.le_of_lt_succ address.toNat_lt

theorem Lowest.unique {segments : List Segment} {lowest other : Word}
    (least : Lowest segments lowest) (also : Lowest segments other) :
    lowest = other := by
  obtain ⟨segment, member, loaded, rfl⟩ := least.attained
  obtain ⟨another, memberToo, loadedToo, rfl⟩ := also.attained
  exact UInt64.le_antisymm (least.least another memberToo loadedToo)
    (also.least segment member loaded)

/-- The largest word is not an address that the object can be linked at: it
stands for no loaded segment. -/
theorem lowestLoad_eq_iff {segments : List Segment} {lowest : Word}
    (present : lowest ≠ noAddress) :
    lowestLoad segments = lowest ↔ Lowest segments lowest := by
  obtain ⟨_, below, attained⟩ := foldl_lower_spec segments noAddress
  constructor
  · rintro rfl
    exact ⟨attained.resolve_left present, below⟩
  · intro least
    have there : lowestLoad segments ≠ noAddress := by
      obtain ⟨segment, member, loaded, rfl⟩ := least.attained
      intro absent
      apply present
      apply UInt64.le_antisymm (le_noAddress _)
      rw [← absent]
      exact below segment member loaded
    exact Lowest.unique ⟨attained.resolve_left there, below⟩ least

theorem loads_iff {segments : List Segment} {lowest dynamic : Word} :
    Loads segments lowest dynamic ↔
      dynamicAddress? segments = some dynamic ∧
        lowestLoad segments = lowest ∧ lowest ≠ noAddress := by
  constructor
  · intro ⟨least, present, last⟩
    exact ⟨dynamicAddress?_eq_some_iff.mpr last,
      (lowestLoad_eq_iff present).mpr least, present⟩
  · intro ⟨found, least, present⟩
    exact ⟨(lowestLoad_eq_iff present).mp least, present,
      dynamicAddress?_eq_some_iff.mp found⟩

theorem readSegments_rows {header : Header} {index count : Nat}
    {segments : List Segment}
    (returned : readSegments build memory base header index count =
      .ok segments) :
    segments.length = count ∧
      ∀ row segment, segments[row]? = some segment →
        memory.Decodes Segment.size Segment.ofBytes
          ((base + header.segments).offset ((index + row) * Segment.size))
          segment := by
  induction count generalizing index segments with
  | zero =>
      cases returned
      exact ⟨rfl, nofun⟩
  | succ count ih =>
      obtain ⟨table, tableSum, reading⟩ := bind_eq_ok_iff.mp returned
      cases Build.add_eq_ok tableSum
      obtain ⟨place, placeSum, reading⟩ := bind_eq_ok_iff.mp reading
      cases Build.add_eq_ok placeSum
      obtain ⟨record, recordRead, reading⟩ := bind_eq_ok_iff.mp reading
      obtain ⟨rest, restRead, whole⟩ := bind_eq_ok_iff.mp reading
      cases whole
      obtain ⟨length, rows⟩ := ih restRead
      refine ⟨congrArg (· + 1) length, ?_⟩
      intro row segment found
      cases row with
      | zero =>
          cases found
          exact ⟨record, recordRead, rfl⟩
      | succ row =>
          rw [← Nat.add_assoc, Nat.add_right_comm]
          exact rows row segment found

/-- The sums of a run over one memory are those over another.  If the rows are
there, too, it returns them. -/
theorem readSegments_other {other : Memory} {header : Header}
    {index count : Nat} {segments others : List Segment}
    (returned : readSegments build memory base header index count =
      .ok segments)
    (length : others.length = count)
    (rows : ∀ row segment, others[row]? = some segment →
      other.Decodes Segment.size Segment.ofBytes
        ((base + header.segments).offset ((index + row) * Segment.size))
        segment) :
    readSegments build other base header index count = .ok others := by
  induction count generalizing index segments others with
  | zero =>
      rw [List.eq_nil_of_length_eq_zero length]
      rfl
  | succ count ih =>
      obtain ⟨first, others, rfl⟩ := List.exists_cons_of_length_eq_add_one length
      obtain ⟨table, tableSum, reading⟩ := bind_eq_ok_iff.mp returned
      cases Build.add_eq_ok tableSum
      obtain ⟨place, placeSum, reading⟩ := bind_eq_ok_iff.mp reading
      cases Build.add_eq_ok placeSum
      obtain ⟨_, _, reading⟩ := bind_eq_ok_iff.mp reading
      obtain ⟨rest, restRead, _⟩ := bind_eq_ok_iff.mp reading
      obtain ⟨record, recordRead, rfl⟩ := rows 0 first rfl
      have follow : readSegments build other base header (index + 1) count =
          .ok others := by
        apply ih restRead (Nat.succ.inj length)
        intro row segment found
        rw [Nat.add_right_comm, Nat.add_assoc]
        exact rows (row + 1) segment found
      exact bind_eq_ok_iff.mpr ⟨_, tableSum, bind_eq_ok_iff.mpr ⟨_, placeSum,
        bind_eq_ok_iff.mpr ⟨record, recordRead,
          bind_eq_ok_iff.mpr ⟨others, follow, rfl⟩⟩⟩⟩

theorem readDynamic_rows {table : Word} {index count : Nat}
    {entries : List DynamicEntry}
    (returned : readDynamic build memory table index count = .ok entries) :
    (∀ row entry, entries[row]? = some entry →
      memory.Decodes DynamicEntry.size DynamicEntry.ofBytes
        (table.offset ((index + row) * DynamicEntry.size)) entry) ∧
      (∀ entry ∈ entries, entry.tag ≠ Tag.null) ∧
      (entries.length = count ∨
        entries.length < count ∧ ∃ last : DynamicEntry,
          memory.Decodes DynamicEntry.size DynamicEntry.ofBytes
            (table.offset ((index + entries.length) * DynamicEntry.size))
            last ∧
          last.tag = Tag.null) := by
  induction count generalizing index entries with
  | zero =>
      cases returned
      exact ⟨nofun, nofun, .inl rfl⟩
  | succ count ih =>
      obtain ⟨place, placeSum, reading⟩ := bind_eq_ok_iff.mp returned
      cases Build.add_eq_ok placeSum
      obtain ⟨record, recordRead, reading⟩ := bind_eq_ok_iff.mp reading
      dsimp only at reading
      split at reading
      next null =>
        cases reading
        exact ⟨nofun, nofun, .inr ⟨Nat.succ_pos count, _,
          ⟨record, recordRead, rfl⟩, null⟩⟩
      next proper =>
        obtain ⟨rest, restRead, whole⟩ := bind_eq_ok_iff.mp reading
        cases whole
        obtain ⟨rows, others, ends⟩ := ih restRead
        refine ⟨?_, ?_, ?_⟩
        · intro row entry found
          cases row with
          | zero =>
              cases found
              exact ⟨record, recordRead, rfl⟩
          | succ row =>
              rw [← Nat.add_assoc, Nat.add_right_comm]
              exact rows row entry found
        · intro entry member
          rcases List.mem_cons.mp member with rfl | later
          · exact proper
          · exact others entry later
        · rw [List.length_cons, ← Nat.add_assoc, Nat.add_right_comm]
          rcases ends with all | ⟨fewer, last⟩
          · exact .inl (congrArg (· + 1) all)
          · exact .inr ⟨Nat.succ_lt_succ fewer, last⟩

theorem readDynamic_other {other : Memory} {table : Word} {index count : Nat}
    {entries others : List DynamicEntry}
    (returned : readDynamic build memory table index count = .ok entries)
    (length : others.length = entries.length)
    (rows : ∀ row entry, others[row]? = some entry →
      other.Decodes DynamicEntry.size DynamicEntry.ofBytes
        (table.offset ((index + row) * DynamicEntry.size)) entry)
    (proper : ∀ entry ∈ others, entry.tag ≠ Tag.null)
    (ends : entries.length < count → ∃ last : DynamicEntry,
      other.Decodes DynamicEntry.size DynamicEntry.ofBytes
        (table.offset ((index + entries.length) * DynamicEntry.size)) last ∧
      last.tag = Tag.null) :
    readDynamic build other table index count = .ok others := by
  induction count generalizing index entries others with
  | zero =>
      cases returned
      rw [List.eq_nil_of_length_eq_zero length]
      rfl
  | succ count ih =>
      obtain ⟨place, placeSum, reading⟩ := bind_eq_ok_iff.mp returned
      cases Build.add_eq_ok placeSum
      obtain ⟨_, _, reading⟩ := bind_eq_ok_iff.mp reading
      dsimp only at reading
      split at reading
      next =>
        cases reading
        rw [List.eq_nil_of_length_eq_zero length]
        obtain ⟨_, ⟨record, recordRead, rfl⟩, null⟩ := ends (Nat.succ_pos count)
        exact bind_eq_ok_iff.mpr ⟨_, placeSum, bind_eq_ok_iff.mpr
          ⟨record, recordRead, if_pos null⟩⟩
      next =>
        obtain ⟨rest, restRead, whole⟩ := bind_eq_ok_iff.mp reading
        cases whole
        obtain ⟨first, others, rfl⟩ :=
          List.exists_cons_of_length_eq_add_one length
        obtain ⟨record, recordRead, rfl⟩ := rows 0 first rfl
        have follow : readDynamic build other table (index + 1) count =
            .ok others := by
          apply ih restRead (Nat.succ.inj length)
          · intro row entry found
            rw [Nat.add_right_comm, Nat.add_assoc]
            exact rows (row + 1) entry found
          · intro entry member
            exact proper entry (List.mem_cons_of_mem _ member)
          · intro fewer
            rw [Nat.add_right_comm, Nat.add_assoc]
            exact ends (Nat.succ_lt_succ fewer)
        have more := proper _ List.mem_cons_self
        have here : other.readBytes
            (table + UInt64.ofNat (index * DynamicEntry.size))
            DynamicEntry.size = .ok record :=
          recordRead
        rw [readDynamic, placeSum]
        simp only [bind, Except.bind, here, if_neg more, follow]
        rfl

end Image

end FrameChain
