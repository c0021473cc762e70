import FrameChain.Proofs.Tables

/-!
# What an object is answered with

The bytes at a base describe at most one object: one header, one list of
segments, one dynamic table and one list of its entries.  So they allow for at
most one image, and for at most one check that is the first to fail.  An object
that is read to the end is answered with one of the two.
-/

namespace FrameChain

theorem Memory.Rows.unique {memory : Memory} {size : Nat}
    {decode : List UInt8 → α} {table : Word} {rows others : List α}
    (held : memory.Rows size decode table rows)
    (also : memory.Rows size decode table others)
    (length : rows.length = others.length) : rows = others := by
  apply List.ext_getElem length
  intro index inside within
  exact (held index _ (List.getElem?_eq_getElem inside)).unique
    (also index _ (List.getElem?_eq_getElem within))

namespace Image

variable {build : Build} {memory : Memory} {base : Word}

/-- Locating an object goes through its header, its segments and its dynamic
entries, and stops at the first of them that is not right. -/
theorem locate_of_malformed {record : List UInt8} {reason : Malformation}
    (headerRead : memory.readBytes base Header.size = .ok record)
    (malformed : (Header.ofBytes record).malformation? = some reason) :
    locate build memory base = .ok (.error (.malformed reason)) := by
  unfold locate
  rw [headerRead]
  simp only [bind, Except.bind, malformed]
  rfl

theorem locate_of_unloaded {record : List UInt8} {segments : List Segment}
    (headerRead : memory.readBytes base Header.size = .ok record)
    (native : (Header.ofBytes record).Native)
    (segmentsRead : readSegments build memory base (.ofBytes record) 0
      (Header.ofBytes record).segmentCount = .ok segments)
    (unloaded : ∀ lowest dynamic, ¬ Loads segments lowest dynamic) :
    locate build memory base =
      .ok (.error (.malformed .noDynamicSegment)) := by
  unfold locate
  rw [headerRead]
  simp only [bind, Except.bind, malformation?_eq_none_iff.mpr native,
    segmentsRead]
  cases found : dynamicAddress? segments with
  | none => rfl
  | some dynamic =>
      dsimp only
      rw [if_pos]
      · rfl
      · apply Decidable.byContradiction
        intro present
        exact unloaded _ dynamic (loads_iff.mpr ⟨found, rfl, present⟩)

theorem locate_of_loads {record : List UInt8} {segments : List Segment}
    {lowest dynamic : Word}
    (headerRead : memory.readBytes base Header.size = .ok record)
    (native : (Header.ofBytes record).Native)
    (segmentsRead : readSegments build memory base (.ofBytes record) 0
      (Header.ofBytes record).segmentCount = .ok segments)
    (loads : Loads segments lowest dynamic) :
    locate build memory base =
      readDynamic build memory (dynamic + (base - lowest)) 0
        maxDynamicEntries >>= ofDynamic build memory base (base - lowest) := by
  obtain ⟨found, rfl, present⟩ := loads_iff.mp loads
  unfold locate
  rw [headerRead]
  simp only [bind, Except.bind, malformation?_eq_none_iff.mpr native,
    segmentsRead, found, if_neg present]

theorem gives_iff {entries : List DynamicEntry} {tag value : Word} :
    Gives entries tag value ∧ value ≠ 0 ↔
      (lastValue? entries tag).getD 0 = value ∧ value ≠ 0 := by
  rw [← lastValue?_eq_some_iff]
  cases lastValue? entries tag with
  | none => simp [eq_comm]
  | some found => simp

theorem complete_iff {entries : List DynamicEntry}
    {bias symbolTable stringTable stringSize hash : Word} :
    Complete entries bias symbolTable stringTable stringSize hash ↔
      (relocated entries bias Tag.symbolTable = symbolTable ∧
        relocated entries bias Tag.stringTable = stringTable ∧
        (lastValue? entries Tag.stringSize).getD 0 = stringSize ∧
        relocated entries bias Tag.hash = hash) ∧
      ¬ (symbolTable = 0 ∨ stringTable = 0 ∨ stringSize = 0 ∨ hash = 0) := by
  constructor
  · intro complete
    have sized := gives_iff.mp ⟨complete.sized, complete.nonempty⟩
    refine ⟨⟨(pointsTo_iff.mp complete.symbols).1,
      (pointsTo_iff.mp complete.strings).1, sized.1,
      (pointsTo_iff.mp complete.hashed).1⟩, ?_⟩
    rintro (absent | absent | absent | absent)
    · exact complete.symbols.nonzero absent
    · exact complete.strings.nonzero absent
    · exact complete.nonempty absent
    · exact complete.hashed.nonzero absent
  · rintro ⟨⟨symbols, strings, size, hash⟩, present⟩
    simp only [not_or] at present
    obtain ⟨symbolsThere, stringsThere, sizeThere, hashThere⟩ := present
    have sized := gives_iff.mpr ⟨size, sizeThere⟩
    exact ⟨pointsTo_iff.mpr ⟨symbols, symbolsThere⟩,
      pointsTo_iff.mpr ⟨strings, stringsThere⟩, sized.1, sized.2,
      pointsTo_iff.mpr ⟨hash, hashThere⟩⟩

/-- The two version tables of an image as it is put together. -/
theorem versions_of_relocated {entries : List DynamicEntry} {image : Image}
    {versioned : Bool}
    (both : versioned = decide
      (relocated entries image.bias Tag.symbolVersions ≠ 0 ∧
        relocated entries image.bias Tag.versionDefinitions ≠ 0))
    (symbols : image.symbolVersions =
      if versioned then relocated entries image.bias Tag.symbolVersions else 0)
    (definitions : image.versionDefinitions =
      if versioned then relocated entries image.bias Tag.versionDefinitions
      else 0) :
    Versions entries image := by
  cases versioned with
  | true =>
      obtain ⟨symbolsThere, definitionsThere⟩ := of_decide_eq_true both.symm
      apply Versions.present
      · exact pointsTo_iff.mpr ⟨symbols.symm, symbols ▸ symbolsThere⟩
      · exact pointsTo_iff.mpr ⟨definitions.symm, definitions ▸ definitionsThere⟩
  | false =>
      have missing := of_decide_eq_false both.symm
      apply Versions.absent _ symbols definitions
      intro versions first pointsVersions pointsFirst
      obtain ⟨rfl, versionsThere⟩ := pointsTo_iff.mp pointsVersions
      obtain ⟨rfl, firstThere⟩ := pointsTo_iff.mp pointsFirst
      exact missing ⟨versionsThere, firstThere⟩

/-- From the dynamic entries, an image is described or its tables are found to
be incomplete. -/
theorem ofDynamic_eq_ok {bias : Word} {entries : List DynamicEntry}
    {answer : Except SymbolError Image}
    (returned : ofDynamic build memory base bias entries = .ok answer) :
    (∃ image, answer = .ok image ∧ image.base = base ∧ image.bias = bias ∧
        Describes memory entries image) ∨
      answer = .error (.malformed .incompleteTables) ∧
        ∀ symbolTable stringTable stringSize hash,
          ¬ Complete entries bias symbolTable stringTable stringSize hash := by
  unfold ofDynamic at returned
  dsimp only at returned
  split at returned
  next incomplete =>
    cases returned
    apply Or.inr
    refine ⟨rfl, ?_⟩
    intro symbolTable stringTable stringSize hash complete
    obtain ⟨⟨rfl, rfl, rfl, rfl⟩, present⟩ := complete_iff.mp complete
    exact present incomplete
  next present =>
    obtain ⟨place, sum, reading⟩ := bind_eq_ok_iff.mp returned
    cases Build.add_eq_ok sum
    obtain ⟨count, countRead, whole⟩ := bind_eq_ok_iff.mp reading
    cases whole
    have decoded := Memory.readNat_eq_ok_iff.mp countRead
    have small : count < UInt64.size := by
      obtain ⟨record, recordRead, rfl⟩ := decoded
      have below := littleEndian_lt record
      rw [Memory.readBytes_length recordRead] at below
      exact Nat.lt_trans below (by decide)
    refine .inl ⟨_, rfl, rfl, rfl, ?_, ?_⟩
    · refine ⟨_, complete_iff.mpr ⟨⟨rfl, rfl, rfl, rfl⟩, present⟩, ?_⟩
      dsimp only
      rw [UInt64.toNat_ofNat_of_lt' small]
      exact decoded
    · exact versions_of_relocated rfl rfl rfl

theorem fails_of_malformation {record : List UInt8} {reason : Malformation}
    (headerRead : memory.readBytes base Header.size = .ok record)
    (malformed : (Header.ofBytes record).malformation? = some reason) :
    Fails memory base reason := by
  have stored : memory.Decodes Header.size Header.ofBytes base
      (.ofBytes record) :=
    ⟨record, headerRead, rfl⟩
  unfold Header.malformation? at malformed
  split at malformed
  next magic =>
    cases malformed
    exact .badMagic stored magic
  next magic =>
    have magic := Decidable.not_not.mp magic
    split at malformed
    next fileClass =>
      cases malformed
      exact .foreignClass stored magic fileClass
    next fileClass =>
      have fileClass := Decidable.not_not.mp fileClass
      split at malformed
      next segmentSize =>
        cases malformed
        exact .headerSize stored magic fileClass segmentSize
      next => cases malformed

theorem lists_of_readSegments {record : List UInt8} {segments : List Segment}
    (headerRead : memory.readBytes base Header.size = .ok record)
    (native : (Header.ofBytes record).Native)
    (segmentsRead : readSegments build memory base (.ofBytes record) 0
      (Header.ofBytes record).segmentCount = .ok segments) :
    Lists memory base (.ofBytes record) segments := by
  obtain ⟨length, rows⟩ := readSegments_rows segmentsRead
  simp only [Nat.zero_add] at rows
  exact ⟨⟨record, headerRead, rfl⟩, native, length, rows⟩

theorem hasDynamic_of_readDynamic {header : Header} {segments : List Segment}
    {lowest dynamic : Word} {entries : List DynamicEntry}
    (lists : Lists memory base header segments)
    (loads : Loads segments lowest dynamic)
    (entriesRead : readDynamic build memory (dynamic + (base - lowest)) 0
      maxDynamicEntries = .ok entries) :
    HasDynamic memory base (base - lowest) (dynamic + (base - lowest))
      entries := by
  obtain ⟨rows, proper, ends⟩ := readDynamic_rows entriesRead
  simp only [Nat.zero_add] at rows ends
  exact ⟨⟨header, segments, lowest, dynamic, lists, loads, rfl, rfl⟩,
    rows, proper, ends⟩

/-- What has been read of an object when it is answered. -/
inductive Course (build : Build) (memory : Memory) (base : Word) :
    Except SymbolError Image → Prop where
  | malformed {record : List UInt8} {reason : Malformation} :
      memory.readBytes base Header.size = .ok record →
      (Header.ofBytes record).malformation? = some reason →
      Course build memory base (.error (.malformed reason))
  | unloaded {record : List UInt8} {segments : List Segment} :
      memory.readBytes base Header.size = .ok record →
      Lists memory base (.ofBytes record) segments →
      readSegments build memory base (.ofBytes record) 0
        (Header.ofBytes record).segmentCount = .ok segments →
      (∀ lowest dynamic, ¬ Loads segments lowest dynamic) →
      Course build memory base (.error (.malformed .noDynamicSegment))
  | loaded {record : List UInt8} {segments : List Segment}
      {lowest dynamic : Word} {entries : List DynamicEntry}
      {answer : Except SymbolError Image} :
      memory.readBytes base Header.size = .ok record →
      Lists memory base (.ofBytes record) segments →
      readSegments build memory base (.ofBytes record) 0
        (Header.ofBytes record).segmentCount = .ok segments →
      Loads segments lowest dynamic →
      readDynamic build memory (dynamic + (base - lowest)) 0
        maxDynamicEntries = .ok entries →
      ofDynamic build memory base (base - lowest) entries = .ok answer →
      Course build memory base answer

theorem course_of_locate {answer : Except SymbolError Image}
    (returned : locate build memory base = .ok answer) :
    Course build memory base answer := by
  obtain ⟨record, headerRead, reading⟩ := bind_eq_ok_iff.mp returned
  cases malformed : (Header.ofBytes record).malformation? with
  | some reason =>
      rw [locate_of_malformed headerRead malformed] at returned
      cases returned
      exact .malformed headerRead malformed
  | none =>
      have native := malformation?_eq_none_iff.mp malformed
      simp only [malformed] at reading
      obtain ⟨segments, segmentsRead, _⟩ := bind_eq_ok_iff.mp reading
      have lists := lists_of_readSegments headerRead native segmentsRead
      by_cases loaded : ∃ lowest dynamic, Loads segments lowest dynamic
      · obtain ⟨lowest, dynamic, loads⟩ := loaded
        rw [locate_of_loads headerRead native segmentsRead loads] at returned
        obtain ⟨entries, entriesRead, described⟩ := bind_eq_ok_iff.mp returned
        exact .loaded headerRead lists segmentsRead loads entriesRead described
      · have unloaded : ∀ lowest dynamic, ¬ Loads segments lowest dynamic :=
          fun lowest dynamic loads => loaded ⟨lowest, dynamic, loads⟩
        rw [locate_of_unloaded headerRead native segmentsRead unloaded]
          at returned
        cases returned
        exact .unloaded headerRead lists segmentsRead unloaded

/-- What an object is answered with: its image, or the first check that it does
not pass. -/
theorem locate_eq_ok {answer : Except SymbolError Image}
    (returned : locate build memory base = .ok answer) :
    (∃ image, answer = .ok image ∧ Located memory base image) ∨
      ∃ reason, answer = .error (.malformed reason) ∧
        Fails memory base reason := by
  cases course_of_locate returned with
  | malformed headerRead malformed =>
      exact .inr ⟨_, rfl, fails_of_malformation headerRead malformed⟩
  | unloaded _ lists _ unloaded =>
      exact .inr ⟨_, rfl, .noDynamicSegment lists unloaded⟩
  | loaded _ lists _ loads entriesRead described =>
      have dynamic := hasDynamic_of_readDynamic lists loads entriesRead
      rcases ofDynamic_eq_ok described with
        ⟨image, rfl, mapped, biased, describes⟩ | ⟨rfl, incomplete⟩
      · rw [← biased] at dynamic
        exact .inl ⟨image, rfl, mapped, _, _, dynamic, describes⟩
      · exact .inr ⟨_, rfl, .incompleteTables dynamic incomplete⟩

theorem Lists.unique {header otherHeader : Header}
    {segments others : List Segment}
    (lists : Lists memory base header segments)
    (also : Lists memory base otherHeader others) :
    header = otherHeader ∧ segments = others := by
  cases lists.stored.unique also.stored
  exact ⟨rfl, lists.rows.unique also.rows (lists.count.trans also.count.symm)⟩

theorem DynamicAt.unique {segments : List Segment} {address another : Word}
    (last : DynamicAt segments address) (also : DynamicAt segments another) :
    address = another := by
  rw [← dynamicAddress?_eq_some_iff] at last also
  exact Option.some.inj (last.symm.trans also)

theorem Gives.unique {entries : List DynamicEntry} {tag value other : Word}
    (gives : Gives entries tag value) (also : Gives entries tag other) :
    value = other := by
  rw [← lastValue?_eq_some_iff] at gives also
  exact Option.some.inj (gives.symm.trans also)

theorem Entries.length_le {table : Word} {entries others : List DynamicEntry}
    (held : Entries memory table entries)
    (also : Entries memory table others) :
    entries.length ≤ others.length := by
  apply Nat.le_of_not_lt
  intro shorter
  rcases also.ends with all | ⟨_, last, stored, null⟩
  · rcases held.ends with whole | ⟨fewer, _⟩ <;> omega
  · -- The null entry behind the shorter list is an entry of the longer one.
    have entry := held.rows _ _ (List.getElem?_eq_getElem shorter)
    cases entry.unique stored
    exact held.proper _ (List.getElem_mem shorter) null

theorem Entries.unique {table : Word} {entries others : List DynamicEntry}
    (held : Entries memory table entries)
    (also : Entries memory table others) : entries = others :=
  held.rows.unique also.rows
    (Nat.le_antisymm (held.length_le also) (also.length_le held))

theorem HasDynamic.unique {bias another table place : Word}
    {entries others : List DynamicEntry}
    (dynamic : HasDynamic memory base bias table entries)
    (also : HasDynamic memory base another place others) :
    bias = another ∧ table = place ∧ entries = others := by
  obtain ⟨_, _, _, _, lists, loads, rfl, rfl⟩ := dynamic.located
  obtain ⟨_, _, _, _, listsToo, loadsToo, rfl, rfl⟩ := also.located
  obtain ⟨rfl, rfl⟩ := lists.unique listsToo
  cases loads.least.unique loadsToo.least
  cases loads.last.unique loadsToo.last
  exact ⟨rfl, rfl, dynamic.entries.unique also.entries⟩

theorem Located.locatable {image : Image}
    (located : Located memory base image) : Locatable memory base := by
  obtain ⟨table, entries, dynamic, describes⟩ := located.dynamic
  obtain ⟨hash, complete, _⟩ := describes.tables
  exact ⟨_, table, entries, _, _, _, hash, dynamic, complete⟩

theorem PointsTo.unique {entries : List DynamicEntry}
    {bias tag address other : Word}
    (points : PointsTo entries bias tag address)
    (also : PointsTo entries bias tag other) : address = other :=
  (pointsTo_iff.mp points).1.symm.trans (pointsTo_iff.mp also).1

theorem Versions.unique {entries : List DynamicEntry} {image other : Image}
    (versions : Versions entries image) (also : Versions entries other)
    (biases : image.bias = other.bias) :
    image.symbolVersions = other.symbolVersions ∧
      image.versionDefinitions = other.versionDefinitions := by
  cases versions with
  | present symbols definitions =>
      rw [biases] at symbols definitions
      cases also with
      | present symbolsToo definitionsToo =>
          exact ⟨symbols.unique symbolsToo, definitions.unique definitionsToo⟩
      | absent missing =>
          exact absurd definitions (missing _ _ symbols)
  | absent missing noSymbols noDefinitions =>
      cases also with
      | present symbols definitions =>
          rw [← biases] at symbols definitions
          exact absurd definitions (missing _ _ symbols)
      | absent _ symbols definitions =>
          exact ⟨noSymbols.trans symbols.symm,
            noDefinitions.trans definitions.symm⟩

theorem Located.unique {image other : Image}
    (located : Located memory base image)
    (also : Located memory base other) : image = other := by
  obtain ⟨table, entries, dynamic, described⟩ := located.dynamic
  obtain ⟨_, _, dynamicToo, describedToo⟩ := also.dynamic
  obtain ⟨biases, rfl, rfl⟩ := dynamic.unique dynamicToo
  obtain ⟨hash, complete, counted⟩ := described.tables
  obtain ⟨_, completeToo, countedToo⟩ := describedToo.tables
  obtain ⟨versions, definitions⟩ :=
    described.versions.unique describedToo.versions biases
  rw [← biases] at completeToo
  cases complete.hashed.unique completeToo.hashed
  have symbols := complete.symbols.unique completeToo.symbols
  have strings := complete.strings.unique completeToo.strings
  have sizes := complete.sized.unique completeToo.sized
  have counts := UInt64.toNat_inj.mp (counted.unique countedToo)
  have bases := located.mapped.trans also.mapped.symm
  cases image
  cases other
  rw [Image.mk.injEq]
  exact ⟨bases, biases, symbols, counts, strings, sizes, versions, definitions⟩

/-- The first check that fails is one of the header, or one of what comes
after a header that is right. -/
theorem Fails.stored {reason : Malformation}
    (fails : Fails memory base reason) :
    ∃ header : Header,
      memory.Decodes Header.size .ofBytes base header ∧
      (header.malformation? = some reason ∨
        ∃ segments, Lists memory base header segments ∧
          (reason = .noDynamicSegment ∧
              (∀ lowest dynamic, ¬ Loads segments lowest dynamic) ∨
            reason = .incompleteTables ∧
              ∃ lowest dynamic, Loads segments lowest dynamic)) := by
  cases fails with
  | badMagic stored magic =>
      exact ⟨_, stored, .inl (if_pos magic)⟩
  | foreignClass stored magic fileClass =>
      refine ⟨_, stored, .inl ?_⟩
      rw [Header.malformation?, if_neg (not_not_intro magic),
        if_pos fileClass]
  | headerSize stored magic fileClass segmentSize =>
      refine ⟨_, stored, .inl ?_⟩
      rw [Header.malformation?, if_neg (not_not_intro magic),
        if_neg (not_not_intro fileClass), if_pos segmentSize]
  | noDynamicSegment lists unloaded =>
      exact ⟨_, lists.stored, .inr ⟨_, lists, .inl ⟨rfl, unloaded⟩⟩⟩
  | incompleteTables dynamic _ =>
      obtain ⟨_, _, _, _, lists, loads, _⟩ := dynamic.located
      exact ⟨_, lists.stored, .inr ⟨_, lists, .inr ⟨rfl, _, _, loads⟩⟩⟩

theorem Fails.unique {reason other : Malformation}
    (fails : Fails memory base reason) (also : Fails memory base other) :
    reason = other := by
  obtain ⟨header, stored, failed⟩ := fails.stored
  obtain ⟨_, again, failedToo⟩ := also.stored
  cases stored.unique again
  rcases failed with malformed | ⟨segments, lists, failed⟩
  · rcases failedToo with malformedToo | ⟨_, listsToo, _⟩
    · exact Option.some.inj (malformed.symm.trans malformedToo)
    · cases malformed.symm.trans (malformation?_eq_none_iff.mpr listsToo.native)
  · rcases failedToo with malformed | ⟨_, listsToo, failedToo⟩
    · cases malformed.symm.trans (malformation?_eq_none_iff.mpr lists.native)
    · obtain ⟨_, rfl⟩ := lists.unique listsToo
      rcases failed with ⟨rfl, unloaded⟩ | ⟨rfl, _, _, loads⟩
      · rcases failedToo with ⟨rfl, _⟩ | ⟨_, _, _, loads⟩
        · rfl
        · exact absurd loads (unloaded _ _)
      · rcases failedToo with ⟨_, unloaded⟩ | ⟨rfl, _⟩
        · exact absurd loads (unloaded _ _)
        · rfl

theorem Fails.not_locatable {reason : Malformation}
    (fails : Fails memory base reason) : ¬ Locatable memory base := by
  rintro ⟨_, _, _, _, _, _, _, dynamic, complete⟩
  obtain ⟨_, _, _, _, lists, loads, _⟩ := dynamic.located
  cases fails with
  | badMagic stored magic =>
      cases stored.unique lists.stored
      exact magic lists.native.magic
  | foreignClass stored _ fileClass =>
      cases stored.unique lists.stored
      exact fileClass lists.native.fileClass
  | headerSize stored _ _ segmentSize =>
      cases stored.unique lists.stored
      exact segmentSize lists.native.segmentSize
  | noDynamicSegment found unloaded =>
      obtain ⟨rfl, rfl⟩ := found.unique lists
      exact unloaded _ _ loads
  | incompleteTables found incomplete =>
      obtain ⟨rfl, rfl, rfl⟩ := found.unique dynamic
      exact incomplete _ _ _ _ complete

theorem locate_image_iff {answer : Except SymbolError Image}
    (returned : locate build memory base = .ok answer) (image : Image) :
    answer = .ok image ↔ Located memory base image := by
  rcases locate_eq_ok returned with
    ⟨found, rfl, located⟩ | ⟨reason, rfl, fails⟩
  · constructor
    · intro same
      cases same
      exact located
    · intro also
      rw [located.unique also]
  · constructor
    · nofun
    · intro located
      exact absurd located.locatable fails.not_locatable

theorem locate_malformed_iff {answer : Except SymbolError Image}
    (returned : locate build memory base = .ok answer)
    (reason : Malformation) :
    answer = .error (.malformed reason) ↔ Fails memory base reason := by
  rcases locate_eq_ok returned with
    ⟨image, rfl, located⟩ | ⟨found, rfl, fails⟩
  · constructor
    · nofun
    · intro fails
      exact absurd located.locatable fails.not_locatable
  · constructor
    · intro same
      cases same
      exact fails
    · intro also
      rw [fails.unique also]

end Image

end FrameChain
