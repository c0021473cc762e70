import FrameChain.Configuration.Overrides
import Mathlib.Data.List.DropRight
import Mathlib.Data.List.Forall2
import Mathlib.Data.Nat.Digits.Defs

/-!
# What the environment can override

A variable that is set to a text either replaces one setting of a configuration
or leaves one notice, by what stands between the blanks at the ends of the
text: the name of a mode, whatever the case of its letters, or a numeral for a
depth within the limits.  Numerals are read as mathematical numbers, so a long
one is never taken for a small one.

Neither variable touches what the other one sets, and applying both a second
time changes nothing.
-/

namespace FrameChain

namespace Text

/-- What a text has between the blanks at its two ends. -/
structure Stripped (characters core : List Char) : Prop where
  surrounded : ∃ before after, characters = before ++ (core ++ after) ∧
    (∀ character ∈ before, IsBlank character) ∧
    ∀ character ∈ after, IsBlank character
  first : ∀ character rest, core = character :: rest → ¬ IsBlank character
  last : ∀ character rest, core = rest ++ [character] → ¬ IsBlank character

/-- The same letter in either case, or the same character. -/
def SameButCase (left right : Char) : Prop :=
  left = right ∨ ∃ index < 26,
    left.toNat = 'A'.toNat + index ∧ right.toNat = 'a'.toNat + index ∨
    left.toNat = 'a'.toNat + index ∧ right.toNat = 'A'.toNat + index

def isBlank (character : Char) : Bool :=
  decide (IsBlank character)

theorem isBlank_iff {character : Char} :
    isBlank character = true ↔ IsBlank character :=
  decide_eq_true_iff

theorem trim_eq_rdropWhile (characters : List Char) :
    trim characters = (characters.dropWhile isBlank).rdropWhile isBlank :=
  rfl

theorem stripped_trim (characters : List Char) :
    Stripped characters (trim characters) := by
  rw [trim_eq_rdropWhile]
  refine ⟨⟨characters.takeWhile isBlank,
    (characters.dropWhile isBlank).rtakeWhile isBlank, ?_, ?_, ?_⟩, ?_, ?_⟩
  · rw [List.rdropWhile_append_rtakeWhile, List.takeWhile_append_dropWhile]
  · intro character member
    exact isBlank_iff.mp (List.mem_takeWhile_imp member)
  · intro character member
    exact isBlank_iff.mp (List.mem_rtakeWhile_imp member)
  · intro character rest split blank
    obtain ⟨after, whole⟩ :=
      List.rdropWhile_prefix isBlank (characters.dropWhile isBlank)
    have head := List.head?_dropWhile_not isBlank characters
    rw [← whole, split] at head
    cases head.symm.trans (isBlank_iff.mpr blank)
  · intro character rest split blank
    have nonempty :
        (characters.dropWhile isBlank).rdropWhile isBlank ≠ [] := by
      rw [split]
      exact List.concat_ne_nil character rest
    have ending := List.rdropWhile_last_not _ _ nonempty
    simp only [split, List.getLast_append_singleton] at ending
    exact ending (isBlank_iff.mpr blank)

/-- Trimming finds what is between the blanks, and there is only one such
text. -/
theorem trim_eq_iff {characters core : List Char} :
    trim characters = core ↔ Stripped characters core := by
  constructor
  · rintro rfl
    exact stripped_trim characters
  · intro stripped
    obtain ⟨before, after, rfl, blanksBefore, blanksAfter⟩ :=
      stripped.surrounded
    have dropsBefore : ∀ character ∈ before, isBlank character = true :=
      fun character member => isBlank_iff.mpr (blanksBefore character member)
    have dropsAfter : ∀ character ∈ after, isBlank character = true :=
      fun character member => isBlank_iff.mpr (blanksAfter character member)
    rw [trim_eq_rdropWhile, List.dropWhile_append_of_pos dropsBefore]
    cases core with
    | nil =>
        rw [List.nil_append, List.dropWhile_eq_nil_iff.mpr dropsAfter,
          List.rdropWhile_nil]
    | cons character rest =>
        have head : ¬ isBlank character = true :=
          mt isBlank_iff.mp (stripped.first character rest rfl)
        obtain ⟨front, ending, split⟩ :=
          (List.eq_nil_or_concat' (character :: rest)).resolve_left
            (List.cons_ne_nil _ _)
        have foot : ¬ isBlank ending = true :=
          mt isBlank_iff.mp (stripped.last ending front split)
        rw [List.cons_append, List.dropWhile_cons_of_neg head,
          ← List.cons_append, List.rdropWhile, List.reverse_append,
          List.dropWhile_append_of_pos (by simpa using dropsAfter), split,
          List.reverse_concat, List.dropWhile_cons_of_neg foot,
          ← List.reverse_concat, List.reverse_reverse]

theorem toNat_toLower (character : Char) :
    character.toLower.toNat =
      if 65 ≤ character.toNat ∧ character.toNat ≤ 90 then
        character.toNat + 32
      else character.toNat := by
  have letters : (character.val ≥ 'A'.val ∧ character.val ≤ 'Z'.val) ↔
      65 ≤ character.toNat ∧ character.toNat ≤ 90 := by
    simp only [ge_iff_le, UInt32.le_iff_toNat_le]
    rfl
  unfold Char.toLower
  split
  next capital =>
    have range := letters.mp capital
    rw [if_pos range]
    change (character.val + 32).toNat = character.val.toNat + 32
    have small : character.val.toNat ≤ 90 := range.2
    rw [UInt32.toNat_add]
    exact Nat.mod_eq_of_lt (Nat.lt_of_le_of_lt
      (Nat.add_le_add_right small 32) (by decide))
  next other => rw [if_neg (mt letters.mpr other)]

def IsLowerLetter (character : Char) : Prop :=
  'a'.toNat ≤ character.toNat ∧ character.toNat ≤ 'z'.toNat

theorem toLower_eq_iff {left right : Char} (letter : IsLowerLetter right) :
    left.toLower = right ↔ SameButCase left right := by
  have capitals : 'A'.toNat = 65 := rfl
  have first : 'a'.toNat = 97 := rfl
  have last : 'z'.toNat = 122 := rfl
  rw [IsLowerLetter, first, last] at letter
  rw [← Char.toNat_inj, toNat_toLower, SameButCase, ← Char.toNat_inj,
    capitals, first]
  constructor
  · intro same
    split at same
    next capital =>
      exact .inr ⟨left.toNat - 65, by omega, .inl (by omega)⟩
    next => exact .inl same
  · rintro (same | ⟨index, below, ⟨leftPlace, rightPlace⟩ | ⟨_, rightPlace⟩⟩)
    · rw [if_neg (by omega), same]
    · rw [if_pos (by omega)]
      omega
    · omega

theorem lowerAscii_eq_iff {characters letters : List Char}
    (lower : ∀ letter ∈ letters, IsLowerLetter letter) :
    lowerAscii characters = letters ↔
      List.Forall₂ SameButCase characters letters := by
  induction letters generalizing characters with
  | nil => simp [lowerAscii, List.forall₂_nil_right_iff]
  | cons letter letters ih =>
      obtain ⟨first, rest⟩ := List.forall_mem_cons.mp lower
      cases characters with
      | nil => simp [lowerAscii, List.forall₂_nil_left_iff]
      | cons character characters =>
          have remaining : lowerAscii characters = letters ↔ _ := ih rest
          rw [lowerAscii] at remaining ⊢
          rw [List.map_cons, List.cons.injEq, List.forall₂_cons,
            toLower_eq_iff first, remaining]

end Text

namespace Decimal

def IsDigit (character : Char) : Prop :=
  '0' ≤ character ∧ character ≤ '9'

/-- The number that digits stand for in base ten, the last one for units. -/
def digitsValue (digits : List Char) : Nat :=
  Nat.ofDigits 10
    (digits.reverse.map fun character => character.toNat - '0'.toNat)

/-- A text that stands for a natural number: one digit or more, as many zeros
in front as there may be, and perhaps a plus sign before them. -/
inductive Numeral : List Char → Nat → Prop where
  | plain {digits : List Char} : digits ≠ [] →
      (∀ character ∈ digits, IsDigit character) →
      Numeral digits (digitsValue digits)
  | signed {digits : List Char} : digits ≠ [] →
      (∀ character ∈ digits, IsDigit character) →
      Numeral ('+' :: digits) (digitsValue digits)

theorem digit?_of_isDigit {character : Char} (digit : IsDigit character) :
    digit? character = some (character.toNat - '0'.toNat) :=
  if_pos digit

theorem digit?_of_not_isDigit {character : Char}
    (other : ¬ IsDigit character) : digit? character = none :=
  if_neg other

theorem digitsValue_cons (character : Char) (rest : List Char) :
    digitsValue (character :: rest) =
      (character.toNat - '0'.toNat) * 10 ^ rest.length + digitsValue rest := by
  rw [digitsValue, List.reverse_cons, List.map_append, Nat.ofDigits_append,
    List.length_map, List.length_reverse, List.map_singleton,
    Nat.ofDigits_singleton, digitsValue]
  ring

/-- Digit by digit, the number read so far moves up one place. -/
theorem digitsFrom_eq_some_iff {characters : List Char} {value result : Nat} :
    digitsFrom value characters = some result ↔
      (∀ character ∈ characters, IsDigit character) ∧
        result = value * 10 ^ characters.length + digitsValue characters := by
  induction characters generalizing value with
  | nil => simp [digitsFrom, digitsValue, eq_comm]
  | cons character rest ih =>
      rw [digitsFrom]
      by_cases digit : IsDigit character
      · rw [digit?_of_isDigit digit]
        dsimp only
        rw [ih, List.forall_mem_cons, digitsValue_cons, List.length_cons,
          Nat.pow_succ]
        simp only [digit, true_and]
        apply and_congr_right
        intro _
        apply Eq.congr_right
        ring
      · simp [digit?_of_not_isDigit digit, digit]

theorem digits?_eq_some_iff {characters : List Char} {result : Nat} :
    digits? characters = some result ↔
      characters ≠ [] ∧ (∀ character ∈ characters, IsDigit character) ∧
        result = digitsValue characters := by
  rw [digits?]
  split
  next empty => simp [empty]
  next nonempty => simp [nonempty, digitsFrom_eq_some_iff]

theorem natural?_eq_some_iff {characters : List Char} {value : Nat} :
    natural? characters = some value ↔ Numeral characters value := by
  constructor
  · intro read
    unfold natural? at read
    split at read
    · obtain ⟨nonempty, digits, rfl⟩ := digits?_eq_some_iff.mp read
      exact .signed nonempty digits
    · obtain ⟨nonempty, digits, rfl⟩ := digits?_eq_some_iff.mp read
      exact .plain nonempty digits
  · intro numeral
    cases numeral with
    | signed nonempty digits =>
        exact digits?_eq_some_iff.mpr ⟨nonempty, digits, rfl⟩
    | plain nonempty digits =>
        unfold natural?
        split
        next rest =>
          have sign := digits '+' List.mem_cons_self
          exact absurd sign (by unfold IsDigit; decide)
        next => exact digits?_eq_some_iff.mpr ⟨nonempty, digits, rfl⟩

end Decimal

/-- A text names a mode: between the blanks at its ends it is the name of the
mode but for the case of letters. -/
def Mode.NamedBy (text : String) (mode : Mode) : Prop :=
  ∃ core, Text.Stripped text.toList core ∧
    List.Forall₂ Text.SameButCase core mode.name.toList

theorem Mode.isLowerLetter_of_mem_name {mode : Mode} {letter : Char}
    (member : letter ∈ mode.name.toList) : Text.IsLowerLetter letter := by
  revert letter
  cases mode <;> simp [name, Text.IsLowerLetter]

theorem Mode.parse?_eq_some_iff {text : String} {mode : Mode} :
    parse? text = some mode ↔ NamedBy text mode := by
  rw [parse?, ofName?_eq_some_iff, normalize, ← String.toList_inj,
    String.toList_ofList,
    Text.lowerAscii_eq_iff fun _ => isLowerLetter_of_mem_name]
  constructor
  · intro named
    exact ⟨_, Text.stripped_trim text.toList, named⟩
  · rintro ⟨core, stripped, named⟩
    rwa [Text.trim_eq_iff.mpr stripped]

namespace Configuration

/-- A text gives a depth: between the blanks at its ends it is a numeral for
it, and the limits allow it. -/
def GivesDepth (text : String) (depth : Word) : Prop :=
  ∃ core, Text.Stripped text.toList core ∧
    Decimal.Numeral core depth.toNat ∧ 1 ≤ depth.toNat ∧ depth.toNat ≤ 4096

/-- What a variable does to a setting, and the notices that it leaves. -/
inductive Overrides (Accepts : String → α → Prop) (notice : String → Notice)
    (bytes : Option ByteArray) (old : α) : α → List Notice → Prop where
  /-- The variable is not set, or not to a text. -/
  | unset : (∀ text : String, bytes ≠ some text.toUTF8) →
      Overrides Accepts notice bytes old old []
  | replaced {text : String} {new : α} :
      bytes = some text.toUTF8 → Accepts text new →
      Overrides Accepts notice bytes old new []
  | rejected {text : String} :
      bytes = some text.toUTF8 → (∀ new, ¬ Accepts text new) →
      Overrides Accepts notice bytes old old [notice text]

theorem parseDepth?_eq_some_iff {text : String} {depth : Word} :
    parseDepth? text = some depth ↔ GivesDepth text depth := by
  constructor
  · intro parsed
    obtain ⟨least, most⟩ := parseDepth?_bounds parsed
    refine ⟨_, Text.stripped_trim text.toList, ?_, least, most⟩
    rw [← Decimal.natural?_eq_some_iff]
    unfold parseDepth? at parsed
    split at parsed
    · cases parsed
    next value read =>
      split at parsed
      next bounds =>
        cases parsed
        rw [read, UInt64.toNat_ofNat_of_lt'
          (Nat.lt_of_le_of_lt bounds.2 (by decide))]
      next => cases parsed
  · rintro ⟨core, stripped, numeral, least, most⟩
    have bounds : 1 ≤ depth.toNat ∧ depth.toNat ≤ depthLimit.toNat :=
      ⟨least, most⟩
    rw [parseDepth?, Text.trim_eq_iff.mpr stripped,
      Decimal.natural?_eq_some_iff.mpr numeral]
    dsimp only
    rw [if_pos bounds, UInt64.ofNat_toNat]

-- The second number is 1 modulo 2 ^ 64.
example : parseDepth? " +0016\t" = some 16 ∧
    parseDepth? "18446744073709551617" = none := by
  decide +kernel

theorem variableText_eq_some_iff {bytes : Option ByteArray} {text : String} :
    variableText bytes = some text ↔ bytes = some text.toUTF8 := by
  cases bytes with
  | none => simp [variableText]
  | some bytes =>
      rw [variableText, Option.bind_some, String.fromUTF8?, Option.some.injEq]
      split
      next valid =>
        rw [Option.some.injEq]
        constructor
        · rintro rfl
          rfl
        · rintro rfl
          rfl
      next invalid =>
        constructor
        · nofun
        · rintro rfl
          exact absurd text.isValidUTF8 invalid

/-- The setting that is left by a parser of texts. -/
def chosen (parse : String → Option α) (text : Option String) (old : α) : α :=
  (text.bind parse).getD old

/-- The notices that are left by a parser of texts. -/
def remarks (parse : String → Option α) (notice : String → Notice) :
    Option String → List Notice
  | none => []
  | some text => if (parse text).isSome then [] else [notice text]

theorem chosen_chosen (parse : String → Option α) (text : Option String)
    (old : α) : chosen parse text (chosen parse text old) =
      chosen parse text old := by
  unfold chosen
  cases text.bind parse <;> rfl

theorem overrides_iff {parse : String → Option α}
    {Accepts : String → α → Prop} {notice : String → Notice}
    (accepts : ∀ {text new}, parse text = some new ↔ Accepts text new)
    {bytes : Option ByteArray} {old new : α} {notices : List Notice} :
    Overrides Accepts notice bytes old new notices ↔
      new = chosen parse (variableText bytes) old ∧
        notices = remarks parse notice (variableText bytes) := by
  constructor
  · intro overrides
    cases overrides with
    | unset unset =>
        have silent : variableText bytes = none := by
          rw [Option.eq_none_iff_forall_ne_some]
          exact fun text set => unset text (variableText_eq_some_iff.mp set)
        rw [silent]
        exact ⟨rfl, rfl⟩
    | replaced set accepted =>
        rw [variableText_eq_some_iff.mpr set, chosen, remarks,
          Option.bind_some, accepts.mpr accepted]
        exact ⟨rfl, rfl⟩
    | @rejected text set refused =>
        have unread : parse text = none := by
          rw [Option.eq_none_iff_forall_ne_some]
          exact fun new read => refused new (accepts.mp read)
        rw [variableText_eq_some_iff.mpr set, chosen, remarks,
          Option.bind_some, unread]
        exact ⟨rfl, rfl⟩
  · rintro ⟨rfl, rfl⟩
    cases set : variableText bytes with
    | none =>
        apply Overrides.unset
        intro text present
        cases set.symm.trans (variableText_eq_some_iff.mpr present)
    | some text =>
        have present := variableText_eq_some_iff.mp set
        cases read : parse text with
        | none =>
            simp only [chosen, remarks, Option.bind_some, read]
            apply Overrides.rejected present
            intro new accepted
            cases read.symm.trans (accepts.mpr accepted)
        | some new =>
            simp only [chosen, remarks, Option.bind_some, read]
            exact .replaced present (accepts.mp read)

theorem overrideMode_eq (configuration : Configuration)
    (text : Option String) :
    configuration.overrideMode text =
      ({ configuration with
          mode := chosen Mode.parse? text configuration.mode },
        remarks Mode.parse? .mode text) := by
  cases text with
  | none => rfl
  | some text =>
      rw [overrideMode, chosen, remarks, Option.bind_some]
      cases Mode.parse? text <;> rfl

theorem overrideDepth_eq (configuration : Configuration)
    (text : Option String) :
    configuration.overrideDepth text =
      ({ configuration with
          maxDepth := chosen parseDepth? text configuration.maxDepth },
        remarks parseDepth? .depth text) := by
  cases text with
  | none => rfl
  | some text =>
      rw [overrideDepth, chosen, remarks, Option.bind_some]
      cases parseDepth? text <;> rfl

theorem withOverrides_eq (configuration : Configuration)
    (environment : Environment) :
    configuration.withOverrides environment =
      ({ configuration with
          mode := chosen Mode.parse? (variableText environment.mode)
            configuration.mode
          maxDepth := chosen parseDepth? (variableText environment.depth)
            configuration.maxDepth },
        remarks Mode.parse? .mode (variableText environment.mode) ++
          remarks parseDepth? .depth (variableText environment.depth)) := by
  rw [withOverrides, overrideMode_eq]
  dsimp only
  rw [overrideDepth_eq]

/-- Each variable sets its own setting, to what its text names or gives, and
leaves all others alone; a text that names or gives nothing leaves one notice,
the mode's before the depth's.  One after the other, in either order, the
variables do what they do together, and a second time they change nothing. -/
theorem withOverrides_exact (configuration : Configuration)
    (environment : Environment) :
    let changed := configuration.withOverrides environment
    let moded := configuration.withOverrides ⟨environment.mode, none⟩
    let deepened := configuration.withOverrides ⟨none, environment.depth⟩
    (∀ mode notices,
      Overrides Mode.NamedBy .mode environment.mode configuration.mode mode
          notices ↔
        mode = changed.1.mode ∧ notices = moded.2) ∧
    (∀ depth notices,
      Overrides GivesDepth .depth environment.depth configuration.maxDepth
          depth notices ↔
        depth = changed.1.maxDepth ∧ notices = deepened.2) ∧
    changed.2 = moded.2 ++ deepened.2 ∧
    changed.1.countDropped = configuration.countDropped ∧
    changed.1.collectSizes = configuration.collectSizes ∧
    changed.1.skipCount = configuration.skipCount ∧
    (moded.1.withOverrides ⟨none, environment.depth⟩).1 = changed.1 ∧
    (deepened.1.withOverrides ⟨environment.mode, none⟩).1 = changed.1 ∧
    (changed.1.withOverrides environment).1 = changed.1 := by
  intro changed moded deepened
  have whole : changed = _ := withOverrides_eq configuration environment
  have modeOnly : moded = _ :=
    withOverrides_eq configuration ⟨environment.mode, none⟩
  have depthOnly : deepened = _ :=
    withOverrides_eq configuration ⟨none, environment.depth⟩
  have modeNotices : moded.2 =
      remarks Mode.parse? .mode (variableText environment.mode) := by
    rw [modeOnly]
    exact List.append_nil _
  have depthNotices : deepened.2 =
      remarks parseDepth? .depth (variableText environment.depth) := by
    rw [depthOnly]
    rfl
  rw [modeNotices, depthNotices, whole, modeOnly, depthOnly]
  refine ⟨fun _ _ => overrides_iff Mode.parse?_eq_some_iff,
    fun _ _ => overrides_iff parseDepth?_eq_some_iff, rfl, rfl, rfl, rfl,
    ?_, ?_, ?_⟩
  · rw [withOverrides_eq]
    rfl
  · rw [withOverrides_eq]
    rfl
  · rw [withOverrides_eq]
    simp only [chosen_chosen]

end Configuration

end FrameChain
