import FrameChain.Proofs.Records

/-!
# The symbol that a lookup finds

A lookup is two searches, one inside the other.  The outer one goes through the
symbols, the inner one along the list of version definitions, for the first
definition of a number; both look at a bounded number of places and take the
first that fits.  What fits is a matter of the bytes of the memory: a name is
the string at its place, up to the first zero, and that zero has to lie in the
string table, too.

A comparison with a text takes the zero behind it for the end of the string.
That is so as long as the text itself has none.
-/

namespace FrameChain

/-- The first of a number of places that something holds of, or none. -/
inductive Searched (holds : Nat → α → Prop) (limit : Nat) :
    Option α → Prop where
  | found {place : Nat} {value : α} :
      place < limit →
      holds place value →
      (∀ earlier < place, ∀ other, ¬ holds earlier other) →
      Searched holds limit (some value)
  | absent :
      (∀ place < limit, ∀ value, ¬ holds place value) →
      Searched holds limit none

/-- The string at an address: the bytes before the first zero. -/
structure Memory.HoldsString (memory : Memory) (address : Word)
    (string : List UInt8) : Prop where
  bytes : ∀ index < string.length,
    memory.byte? (address.offset index) = string[index]?
  terminator : memory.byte? (address.offset string.length) = some 0
  unbroken : 0 ∉ string

/-- A text is its own string: no byte of it is zero. -/
def Unbroken (text : String) : Prop :=
  0 ∉ text.toUTF8.toList

instance (text : String) : Decidable (Unbroken text) :=
  inferInstanceAs (Decidable (¬ _))

namespace Image

/-- The string at a place of the string table lies in the table, its
terminator included, and is a text. -/
def Names (memory : Memory) (image : Image) (place : Nat) (text : String) :
    Prop :=
  ∃ string, memory.HoldsString (image.stringTable.offset place) string ∧
    place + string.length < image.stringSize.toNat ∧
    string = text.toUTF8.toList

/-- The definition that a number of links lead to is one of a version number,
and its first name record is at an address. -/
def StandsFor (memory : Memory) (first : Word) (number links : Nat)
    (names : Word) : Prop :=
  ∃ (address : Word) (definition : VersionDefinition),
    Listed memory first links address ∧
    memory.Decodes VersionDefinition.size .ofBytes address definition ∧
    definition.index = number ∧
    0 < definition.nameCount ∧
    names = address.offset definition.names

/-- The first definition of a version number, among as many as are looked at,
has a name. -/
def Defines (memory : Memory) (image : Image) (first : Word) (number : Nat)
    (version : String) (limit : Nat) : Prop :=
  ∃ names, Searched (StandsFor memory first number) limit (some names) ∧
    ∃ place, memory.Decodes versionNameSize versionNameOfBytes names place ∧
      Names memory image place version

/-- The symbol at an index has a version. -/
inductive HasVersion (memory : Memory) (image : Image) (index : Nat)
    (version : String) : Prop where
  | unversioned :
      image.symbolVersions = 0 →
      HasVersion memory image index version
  | visible {entry : Nat} :
      image.symbolVersions ≠ 0 →
      memory.Decodes 2 littleEndian
        (image.symbolVersions.offset (index * 2)) entry →
      entry.testBit 15 = false →
      Defines memory image image.versionDefinitions entry version
        maxVersionDefinitions →
      HasVersion memory image index version

/-- The symbol at an index is one that a query asks for. -/
structure Answers (memory : Memory) (image : Image) (query : SymbolQuery)
    (index : Nat) (symbol : Symbol) : Prop where
  stored : memory.Decodes Symbol.size .ofBytes
    (image.symbolTable.offset (index * Symbol.size)) symbol
  kind : symbol.info.toNat % 16 = query.kind.toNat
  valued : symbol.value ≠ 0
  named : Names memory image symbol.name query.name
  versioned : HasVersion memory image index query.version

end Image

namespace Searched

variable {holds : Nat → α → Prop} {limit : Nat}

theorem here {value : α} (first : holds 0 value) :
    Searched holds (limit + 1) (some value) :=
  .found (Nat.succ_pos limit) first (fun _ before => nomatch before)

theorem later {result : Option α} (passed : ∀ value, ¬ holds 0 value)
    (searched : Searched (fun place => holds (place + 1)) limit result) :
    Searched holds (limit + 1) result := by
  cases searched with
  | found inside found earlier =>
      apply Searched.found (Nat.succ_lt_succ inside) found
      intro before above
      cases before with
      | zero => exact passed
      | succ before => exact earlier before (Nat.lt_of_succ_lt_succ above)
  | absent absent =>
      apply Searched.absent
      intro place inside
      cases place with
      | zero => exact passed
      | succ place => exact absent place (Nat.lt_of_succ_lt_succ inside)

theorem unique {result other : Option α}
    (functional : ∀ place value another,
      holds place value → holds place another → value = another)
    (searched : Searched holds limit result)
    (also : Searched holds limit other) : result = other := by
  cases searched with
  | @found place value inside found earlier =>
      cases also with
      | @found another further _ again before =>
          rcases Nat.lt_trichotomy place another with less | rfl | greater
          · exact absurd found (before place less value)
          · rw [functional place value further found again]
          · exact absurd again (earlier another greater further)
      | absent absent => exact absurd found (absent place inside value)
  | absent absent =>
      cases also with
      | @found another further within again =>
          exact absurd again (absent another within further)
      | absent => rfl

end Searched

private theorem length_toList_loop (bytes : ByteArray) (index : Nat)
    (taken : List UInt8) :
    (ByteArray.toList.loop bytes index taken).length =
      taken.length + (bytes.size - index) := by
  fun_induction ByteArray.toList.loop bytes index taken with
  | case1 index taken inside ih =>
      rw [ih, List.length_cons]
      omega
  | case2 index taken outside =>
      rw [List.length_reverse]
      omega

theorem length_toUTF8 (text : String) :
    text.toUTF8.toList.length = text.utf8ByteSize := by
  rw [ByteArray.toList, length_toList_loop]
  exact Nat.zero_add _

variable {memory : Memory}

theorem Memory.holdsString_iff {address : Word} {string : List UInt8}
    (unbroken : 0 ∉ string) :
    memory.HoldsString address string ↔
      memory.readBytes address (string.length + 1) =
        .ok (string ++ [0]) := by
  rw [readBytes_eq_ok_iff]
  constructor
  · intro held
    refine ⟨List.length_append, ?_⟩
    intro index inside
    rcases Nat.lt_succ_iff_lt_or_eq.mp inside with before | rfl
    · rw [held.bytes index before, List.getElem?_append_left before]
    · rw [held.terminator, List.getElem?_concat_length]
  · intro ⟨_, all⟩
    refine ⟨?_, ?_, unbroken⟩
    · intro index before
      rw [all index (Nat.lt_succ_of_lt before),
        List.getElem?_append_left before]
    · rw [all string.length (Nat.lt_succ_self _), List.getElem?_concat_length]

namespace Image

variable {build : Build} {image : Image}

theorem nameIs_eq_ok {place : Nat} {text : String} {named : Bool}
    (unbroken : Unbroken text)
    (returned : nameIs build memory image place text = .ok named) :
    named = true ↔ Names memory image place text := by
  have length := length_toUTF8 text
  unfold nameIs at returned
  split at returned
  next fits =>
    obtain ⟨address, sum, rest⟩ := bind_eq_ok_iff.mp returned
    obtain ⟨bytes, bytesRead, whole⟩ := bind_eq_ok_iff.mp rest
    cases Build.add_eq_ok sum
    cases whole
    rw [beq_iff_eq]
    constructor
    · rintro rfl
      refine ⟨text.toUTF8.toList, ?_, by rwa [length], rfl⟩
      apply (Memory.holdsString_iff unbroken).mpr
      rw [length]
      exact bytesRead
    · rintro ⟨string, held, _, rfl⟩
      have again := (Memory.holdsString_iff unbroken).mp held
      rw [length] at again
      exact Except.ok.inj (bytesRead.symm.trans again)
  next outside =>
    cases returned
    constructor
    · intro absurdly
      cases absurdly
    · rintro ⟨string, _, inside, rfl⟩
      rw [length] at inside
      exact absurd inside outside

theorem StandsFor.unique {first names other : Word} {number links : Nat}
    (stands : StandsFor memory first number links names)
    (also : StandsFor memory first number links other) : names = other := by
  obtain ⟨address, definition, listed, decoded, _, _, rfl⟩ := stands
  obtain ⟨_, _, listedToo, decodedToo, _, _, rfl⟩ := also
  cases listed.unique listedToo
  cases decoded.unique decodedToo
  rfl

/-- Past the first definition of a list, another one begins. -/
theorem standsFor_succ_iff {first names : Word} {number links : Nat}
    {definition : VersionDefinition}
    (decoded :
      memory.Decodes VersionDefinition.size .ofBytes first definition) :
    StandsFor memory first number (links + 1) names ↔
      definition.next ≠ 0 ∧
        StandsFor memory (first.offset definition.next) number links
          names := by
  constructor
  · rintro ⟨address, last, listed, rest⟩
    cases listed with
    | linked again more listed =>
        cases decoded.unique again
        exact ⟨more, address, last, listed, rest⟩
  · rintro ⟨more, address, last, listed, rest⟩
    exact ⟨address, last, .linked decoded more listed, rest⟩

/-- The walk along the list is the search for the first definition of a
number, and its answer is whether that one has the name. -/
theorem definesVersion_searched {number : Nat} {version : String}
    {first : Word} {limit : Nat} {defined : Bool}
    (unbroken : Unbroken version)
    (returned : definesVersion build memory image number version first limit =
      .ok defined) :
    ∃ found, Searched (StandsFor memory first number) limit found ∧
      (defined = true ↔ ∃ names, found = some names ∧
        ∃ place, memory.Decodes versionNameSize versionNameOfBytes names place ∧
          Names memory image place version) := by
  induction limit generalizing first with
  | zero =>
      cases returned
      exact ⟨none, .absent (fun _ inside => nomatch inside), by simp⟩
  | succ limit ih =>
      obtain ⟨record, recordRead, rest⟩ := bind_eq_ok_iff.mp returned
      have decoded : memory.Decodes VersionDefinition.size
          VersionDefinition.ofBytes first (.ofBytes record) :=
        ⟨record, recordRead, rfl⟩
      dsimp only at rest
      split at rest
      next stands =>
        obtain ⟨name, nameRead, compared⟩ := bind_eq_ok_iff.mp rest
        refine ⟨_, .here ⟨first, _, .here first, decoded, stands.1, stands.2,
          rfl⟩, ?_⟩
        rw [nameIs_eq_ok unbroken compared]
        constructor
        · intro named
          exact ⟨_, rfl, _, ⟨name, nameRead, rfl⟩, named⟩
        · rintro ⟨names, same, _, ⟨again, readAgain, rfl⟩, named⟩
          cases same
          cases nameRead.symm.trans readAgain
          exact named
      next other =>
        have passed : ∀ names, ¬ StandsFor memory first number 0 names := by
          rintro names ⟨_, definition, listed, also, index, more, _⟩
          cases listed
          cases decoded.unique also
          exact other ⟨index, more⟩
        split at rest
        next last =>
          cases rest
          refine ⟨none, .later passed (.absent ?_), by simp⟩
          intro links _ names stands
          exact ((standsFor_succ_iff decoded).mp stands).1 last
        next more =>
          -- What is left of the list begins where the first link leads.
          obtain ⟨found, searched, same⟩ := ih rest
          have shifted : (fun links => StandsFor memory first number
              (links + 1)) =
              StandsFor memory
                (first.offset (VersionDefinition.ofBytes record).next)
                number := by
            funext links names
            rw [standsFor_succ_iff decoded]
            exact propext (and_iff_right more)
          refine ⟨found, .later passed ?_, same⟩
          rw [shifted]
          exact searched

theorem definesVersion_eq_ok {number : Nat} {version : String}
    {first : Word} {limit : Nat} {defined : Bool}
    (unbroken : Unbroken version)
    (returned : definesVersion build memory image number version first limit =
      .ok defined) :
    defined = true ↔ Defines memory image first number version limit := by
  obtain ⟨found, searched, same⟩ := definesVersion_searched unbroken returned
  rw [same]
  constructor
  · rintro ⟨names, rfl, named⟩
    exact ⟨names, searched, named⟩
  · rintro ⟨names, also, named⟩
    have functional (links : Nat) (value other : Word) :
        StandsFor memory first number links value →
          StandsFor memory first number links other → value = other :=
      StandsFor.unique
    exact ⟨names, searched.unique functional also, named⟩

theorem hiddenVersion_le_iff {entry : Nat} (small : entry < 0x10000) :
    hiddenVersion ≤ entry ↔ entry.testBit 15 = true := by
  rw [Nat.testBit_eq_decide_div_mod_eq, decide_eq_true_iff, hiddenVersion]
  omega

theorem hasVersion_eq_ok {index : Nat} {version : String} {versioned : Bool}
    (unbroken : Unbroken version)
    (returned : hasVersion build memory image index version =
      .ok versioned) :
    versioned = true ↔ HasVersion memory image index version := by
  unfold hasVersion at returned
  split at returned
  next unversioned =>
    cases returned
    exact iff_of_true rfl (.unversioned unversioned)
  next present =>
    obtain ⟨place, sum, reading⟩ := bind_eq_ok_iff.mp returned
    cases Build.add_eq_ok sum
    obtain ⟨entry, entryRead, rest⟩ := bind_eq_ok_iff.mp reading
    have decoded := Memory.readNat_eq_ok_iff.mp entryRead
    have small : entry < 0x10000 := by
      obtain ⟨record, recordRead, rfl⟩ := decoded
      have below := littleEndian_lt record
      rw [Memory.readBytes_length recordRead] at below
      exact below
    have visible (has : HasVersion memory image index version) :
        entry.testBit 15 = false ∧
          Defines memory image image.versionDefinitions entry version
            maxVersionDefinitions := by
      cases has with
      | unversioned absent => exact absurd absent present
      | visible _ also clear defines =>
          cases decoded.unique also
          exact ⟨clear, defines⟩
    split at rest
    next hidden =>
      cases rest
      constructor
      · intro absurdly
        cases absurdly
      · intro has
        have set := (hiddenVersion_le_iff small).mp hidden
        cases set.symm.trans (visible has).1
    next shown =>
      have clear : entry.testBit 15 = false := by
        rw [← Bool.not_eq_true, ← hiddenVersion_le_iff small]
        exact shown
      rw [definesVersion_eq_ok unbroken rest]
      constructor
      · exact HasVersion.visible present decoded clear
      · exact fun has => (visible has).2

theorem kind_eq_iff {symbol : Symbol} {kind : UInt8} :
    symbol.kind = kind ↔ symbol.info.toNat % 16 = kind.toNat := by
  have low : symbol.kind.toNat = symbol.info.toNat % 16 := by
    rw [Symbol.kind, UInt8.toNat_and]
    exact Nat.and_two_pow_sub_one_eq_mod _ 4
  rw [← low, UInt8.toNat_inj]

theorem answers_eq_ok {query : SymbolQuery} {index : Nat} {symbol : Symbol}
    {answered : Bool} (name : Unbroken query.name)
    (version : Unbroken query.version)
    (stored : memory.Decodes Symbol.size Symbol.ofBytes
      (image.symbolTable.offset (index * Symbol.size)) symbol)
    (returned : answers build memory image query index symbol =
      .ok answered) :
    answered = true ↔ Answers memory image query index symbol := by
  unfold answers at returned
  split at returned
  next unlike =>
    cases returned
    constructor
    · intro absurdly
      cases absurdly
    · intro fits
      exact (unlike.elim (· (kind_eq_iff.mpr fits.kind)) fits.valued).elim
  next alike =>
    obtain ⟨kind, valued⟩ := not_or.mp alike
    obtain ⟨named, compared, rest⟩ := bind_eq_ok_iff.mp returned
    have names := nameIs_eq_ok name compared
    cases named with
    | false =>
        cases rest
        constructor
        · intro absurdly
          cases absurdly
        · intro fits
          cases names.mpr fits.named
    | true =>
        rw [hasVersion_eq_ok version rest]
        constructor
        · intro has
          exact
            { stored
              kind := kind_eq_iff.mp (Decidable.not_not.mp kind)
              valued
              named := names.mp rfl
              versioned := has }
        · exact Answers.versioned

theorem findFrom_searched {query : SymbolQuery} {index count : Nat}
    {found : Option Symbol} (name : Unbroken query.name)
    (version : Unbroken query.version)
    (returned : findFrom build memory image query index count = .ok found) :
    Searched (fun place => Answers memory image query (index + place)) count
      found := by
  induction count generalizing index with
  | zero =>
      cases returned
      exact .absent fun _ inside => nomatch inside
  | succ count ih =>
      obtain ⟨symbol, symbolRead, rest⟩ := bind_eq_ok_iff.mp returned
      obtain ⟨answered, judged, rest⟩ := bind_eq_ok_iff.mp rest
      have stored : memory.Decodes Symbol.size Symbol.ofBytes
          (image.symbolTable.offset (index * Symbol.size)) symbol := by
        obtain ⟨place, sum, rest⟩ := bind_eq_ok_iff.mp symbolRead
        obtain ⟨record, recordRead, whole⟩ := bind_eq_ok_iff.mp rest
        cases Build.add_eq_ok sum
        exact ⟨record, recordRead, Except.ok.inj whole⟩
      have same := answers_eq_ok name version stored judged
      cases answered with
      | true =>
          cases rest
          exact .here (same.mp rfl)
      | false =>
          apply Searched.later
          · intro other fits
            cases stored.unique fits.stored
            cases same.mpr fits
          · have searched := ih rest
            simp only [Nat.add_right_comm index 1] at searched
            exact searched

/-- A lookup that neither a read nor a sum stops finds the first symbol with
the type, the name and the version asked for, and a value.  If there is none it
says so, with the name and the version.  An answer is the symbol's value moved
by the bias. -/
theorem lookup_exact {query : SymbolQuery} (name : Unbroken query.name)
    (version : Unbroken query.version)
    (reads : lookup build memory image query ≠ .error .unmappedRead)
    (fits : lookup build memory image query ≠ .error .additionOverflow) :
    ∃ found,
      Searched (Answers memory image query) image.symbolCount.toNat found ∧
      lookup build memory image query = .ok (match found with
        | some symbol => .ok (symbol.value + image.bias)
        | none => .error (.notFound query.name query.version)) := by
  have covers := Comparison.breaksOff_covers build memory
  obtain ⟨answer, returned⟩ := Comparison.returns_of_breaksOff
    (lookup_compared covers image query) reads fits
  obtain ⟨found, searchedAll, rest⟩ := bind_eq_ok_iff.mp returned
  have searched := findFrom_searched name version searchedAll
  simp only [Nat.zero_add] at searched
  refine ⟨found, searched, ?_⟩
  rw [returned, ← rest]
  cases found with
  | none => rfl
  | some symbol => rfl

end Image

/-- Three symbols of one name.  The first is hidden, the second has version 1,
the third version 2.  The first definition of version 2 has no names. -/
def Memory.threeVersions : Memory :=
  .page 0x1000
    [(0x1000, 0x1200000001), (0x1008, 0x300), (0x1018, 0x1200000001),
      (0x1020, 0x310), (0x1030, 0x1200000001), (0x1038, 0x320),
      (0x1060, 0x200018002), (0x1080, 0x56007972746E6500),
      (0x1088, 0x32560031), (0x10C0, 0x200000001), (0x10C8, 0x1400000000),
      (0x10D0, 0xA0000001C), (0x10DC, 0x1000100000001),
      (0x10E4, 0x1400000000), (0x10EC, 0x70000001C),
      (0x10F8, 0x1000200000001), (0x1100, 0x1400000000),
      (0x1108, 0xA00000000)]

namespace Image

def threeVersions : Image :=
  { base := 0x1000
    bias := 0x7000
    symbolTable := 0x1000
    symbolCount := 3
    stringTable := 0x1080
    stringSize := 13
    symbolVersions := 0x1060
    versionDefinitions := 0x10C0 }

theorem lookup_exact_three_versions :
    let query : SymbolQuery := ⟨"entry", "V2", 2⟩
    let run := lookup .development .threeVersions threeVersions query
    (Unbroken query.name ∧ Unbroken query.version ∧
      run ≠ .error .unmappedRead ∧ run ≠ .error .additionOverflow) ∧
    ∃ symbol, Searched (Answers .threeVersions threeVersions query) 3
        (some symbol) ∧
      symbol.value = 0x320 ∧ run = .ok (.ok 0x7320) := by
  intro query run
  have name : Unbroken query.name := by decide +kernel
  have version : Unbroken query.version := by decide +kernel
  have returned : run = .ok (.ok 0x7320) := by decide +kernel
  have reads : run ≠ .error .unmappedRead := returned.trans_ne nofun
  have fits : run ≠ .error .additionOverflow := returned.trans_ne nofun
  obtain ⟨found, searched, answered⟩ :=
    lookup_exact name version reads fits
  cases found with
  | none => cases returned.symm.trans answered
  | some symbol =>
      have moved : symbol.value + 0x7000 = 0x7320 :=
        (Except.ok.inj (Except.ok.inj (returned.symm.trans answered))).symm
      have value : symbol.value = 0x7320 - 0x7000 := by
        rw [← moved, UInt64.add_sub_cancel]
      exact ⟨⟨name, version, reads, fits⟩, symbol, searched, value, returned⟩

end Image

end FrameChain
