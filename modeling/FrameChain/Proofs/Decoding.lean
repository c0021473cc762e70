import FrameChain.Configuration.Json
import FrameChain.Proofs.Members
import Mathlib.Data.List.Forall2

/-!
# Which values decode

A JSON value represents a configuration when it is an object that has the right
value for each of the five keys, or an array of these five values in order.
Exactly such values are read, and as the configuration that they represent.
What is written is one of them, so it is read back; so is any other object with
the same five members among others, in any order.
-/

namespace FrameChain.Configuration

/-- A value that stands for a mode: its name, or an object whose only key is
the name, with null. -/
inductive ModeValue (mode : Mode) : Json → Prop where
  | name : ModeValue mode (.string mode.name)
  | object {members : List (String × Json)} :
      (∀ member ∈ members, member.1 = mode.name) →
      Json.Holds members mode.name .null →
      ModeValue mode (.object members)

/-- A value that stands for a field of a configuration. -/
inductive FieldValue (configuration : Configuration) : Field → Json → Prop where
  | countDropped :
      FieldValue configuration .countDropped (.bool configuration.countDropped)
  | collectSizes :
      FieldValue configuration .collectSizes (.bool configuration.collectSizes)
  | maxDepth :
      FieldValue configuration .maxDepth (.natural configuration.maxDepth)
  | skipCount :
      FieldValue configuration .skipCount (.natural configuration.skipCount)
  | mode {value : Json} : ModeValue configuration.mode value →
      FieldValue configuration .mode value

/-- A value that stands for a configuration. -/
inductive Represents (configuration : Configuration) : Json → Prop where
  | object {members : List (String × Json)} :
      (∀ field : Field, ∃ value, Json.Holds members field.name value ∧
        FieldValue configuration field value) →
      Represents configuration (.object members)
  | array {items : List Json} :
      List.Forall₂ (FieldValue configuration) Field.all items →
      Represents configuration (.array items)

namespace Field

theorem mem_all (field : Field) : field ∈ all := by
  cases field <;> decide

theorem name_injective {first second : Field}
    (same : first.name = second.name) : first = second := by
  cases first <;> cases second <;> first | rfl | exact absurd same (by decide)

theorem ofName?_name (field : Field) : ofName? field.name = some field := by
  cases field <;> decide

theorem ofName?_eq_some_iff {name : String} {field : Field} :
    ofName? name = some field ↔ name = field.name := by
  constructor
  · intro found
    rw [ofName?, List.find?_eq_some_iff_append] at found
    exact (of_decide_eq_true found.1).symm
  · rintro rfl
    exact ofName?_name field

theorem ofName?_eq_none_iff {name : String} :
    ofName? name = none ↔ ∀ field : Field, name ≠ field.name := by
  rw [Option.eq_none_iff_forall_ne_some]
  exact forall_congr' fun field => not_congr ofName?_eq_some_iff

end Field

theorem readBool_eq_ok_iff {value : Json} {read : Bool} :
    readBool value = .ok read ↔ value = .bool read := by
  cases value <;> simp [readBool]

theorem readWord_eq_ok_iff {value : Json} {read : Word} :
    readWord value = .ok read ↔ value = .natural read := by
  cases value <;> simp [readWord]

theorem readModeName_eq_ok_iff {name : String} {mode : Mode} :
    readModeName name = .ok mode ↔ name = mode.name := by
  rw [← Mode.ofName?_eq_some_iff, readModeName]
  cases Mode.ofName? name <;> simp

theorem readUnit_eq_ok_iff {value : Json} :
    readUnit value = .ok () ↔ value = .null := by
  cases value <;> simp [readUnit]

theorem readMode_eq_ok_iff {value : Json} {mode : Mode} :
    readMode value = .ok mode ↔ ModeValue mode value := by
  constructor
  · intro read
    cases value with
    | string name =>
        cases readModeName_eq_ok_iff.mp read
        exact .name
    | object members =>
        unfold readMode at read
        dsimp only at read
        split at read
        next name payload single =>
          obtain ⟨found, nameRead, rest⟩ := bind_eq_ok_iff.mp read
          obtain ⟨_, payloadRead, whole⟩ := bind_eq_ok_iff.mp rest
          cases whole
          cases readModeName_eq_ok_iff.mp nameRead
          cases readUnit_eq_ok_iff.mp payloadRead
          obtain ⟨same, holds⟩ := Json.sortMembers_eq_singleton_iff.mp single
          exact .object same holds
        next => cases read
    | _ => cases read
  · intro stands
    cases stands with
    | name => exact readModeName_eq_ok_iff.mpr rfl
    | object same holds =>
        have single := Json.sortMembers_eq_singleton_iff.mpr ⟨same, holds⟩
        have named : readModeName mode.name = .ok mode :=
          readModeName_eq_ok_iff.mpr rfl
        simp [readMode, single, named, readUnit, bind, Except.bind, pure,
          Except.pure]

/-- The reader of a field returns what the configuration has there. -/
def Reads (configuration : Configuration) (value : Json) : Field → Prop
  | .countDropped => readBool value = .ok configuration.countDropped
  | .collectSizes => readBool value = .ok configuration.collectSizes
  | .maxDepth => readWord value = .ok configuration.maxDepth
  | .skipCount => readWord value = .ok configuration.skipCount
  | .mode => readMode value = .ok configuration.mode

theorem reads_iff {configuration : Configuration} {value : Json}
    {field : Field} :
    configuration.Reads value field ↔ FieldValue configuration field value := by
  constructor
  · intro reads
    cases field with
    | countDropped =>
        cases readBool_eq_ok_iff.mp reads
        exact .countDropped
    | collectSizes =>
        cases readBool_eq_ok_iff.mp reads
        exact .collectSizes
    | maxDepth =>
        cases readWord_eq_ok_iff.mp reads
        exact .maxDepth
    | skipCount =>
        cases readWord_eq_ok_iff.mp reads
        exact .skipCount
    | mode => exact .mode (readMode_eq_ok_iff.mp reads)
  · intro stands
    cases stands with
    | mode stands => exact readMode_eq_ok_iff.mpr stands
    | _ => rfl

namespace Draft

/-- A draft has the value of a configuration for a field. -/
def Agrees (draft : Draft) (configuration : Configuration) : Field → Prop
  | .countDropped => draft.countDropped = some configuration.countDropped
  | .collectSizes => draft.collectSizes = some configuration.collectSizes
  | .maxDepth => draft.maxDepth = some configuration.maxDepth
  | .skipCount => draft.skipCount = some configuration.skipCount
  | .mode => draft.mode = some configuration.mode

variable {draft next : Draft} {configuration : Configuration} {field : Field}
  {value : Json}

theorem not_agrees_blank : ¬ blank.Agrees configuration field := by
  cases field <;> nofun

theorem require_eq_ok_iff {held : Option α} {result : α} :
    require field held = .ok result ↔ held = some result := by
  cases held <;> simp [require]

theorem complete_eq_ok_iff :
    draft.complete = .ok configuration ↔
      ∀ field, draft.Agrees configuration field := by
  constructor
  · intro completed
    obtain ⟨_, counted, rest⟩ := bind_eq_ok_iff.mp completed
    obtain ⟨_, sized, rest⟩ := bind_eq_ok_iff.mp rest
    obtain ⟨_, deep, rest⟩ := bind_eq_ok_iff.mp rest
    obtain ⟨_, skipped, rest⟩ := bind_eq_ok_iff.mp rest
    obtain ⟨_, strict, whole⟩ := bind_eq_ok_iff.mp rest
    cases whole
    intro field
    cases field with
    | countDropped => exact require_eq_ok_iff.mp counted
    | collectSizes => exact require_eq_ok_iff.mp sized
    | maxDepth => exact require_eq_ok_iff.mp deep
    | skipCount => exact require_eq_ok_iff.mp skipped
    | mode => exact require_eq_ok_iff.mp strict
  · intro agrees
    unfold complete
    rw [show draft.countDropped = _ from agrees .countDropped,
      show draft.collectSizes = _ from agrees .collectSizes,
      show draft.maxDepth = _ from agrees .maxDepth,
      show draft.skipCount = _ from agrees .skipCount,
      show draft.mode = _ from agrees .mode]
    rfl

theorem exists_set (stands : FieldValue configuration field value)
    (draft : Draft) : ∃ next, draft.set field value = .ok next := by
  have reads := reads_iff.mpr stands
  cases field <;>
    (simp only [Reads] at reads
     simp only [set, reads]
     exact ⟨_, rfl⟩)

theorem some_eq_iff_of_ok {run : Except ReadError α} {read expected : α}
    (returned : run = .ok read) :
    some read = some expected ↔ run = .ok expected := by
  rw [returned, Option.some.injEq, Except.ok.injEq]

theorem agrees_set_iff (returned : draft.set field value = .ok next) :
    next.Agrees configuration field ↔
      FieldValue configuration field value := by
  rw [← reads_iff]
  cases field <;>
    (obtain ⟨read, valueRead, whole⟩ := bind_eq_ok_iff.mp returned
     cases whole
     exact some_eq_iff_of_ok valueRead)

theorem agrees_set_of_ne {other : Field} (different : other ≠ field)
    (returned : draft.set field value = .ok next) :
    next.Agrees configuration other ↔ draft.Agrees configuration other := by
  cases field <;>
    (obtain ⟨read, _, whole⟩ := bind_eq_ok_iff.mp returned
     cases whole
     cases other <;> first | rfl | exact absurd rfl different)

/-- A field of a draft is that of a configuration once the members are set:
those with its key stand for it, and where there are none the draft has it. -/
def Settles (draft : Draft) (members : List (String × Json))
    (configuration : Configuration) (field : Field) : Prop :=
  (∀ value, (field.name, value) ∈ members →
    FieldValue configuration field value) ∧
  ((∀ value, (field.name, value) ∉ members) →
    draft.Agrees configuration field)

variable {members : List (String × Json)}

theorem settles_iff_of_absent
    (absent : ∀ held, (field.name, held) ∉ members) :
    draft.Settles members configuration field ↔
      draft.Agrees configuration field := by
  constructor
  · intro settles
    exact settles.2 absent
  · intro agrees
    exact ⟨fun held inside => absurd inside (absent held), fun _ => agrees⟩

theorem settles_cons_iff_of_absent
    (absent : ∀ held, (field.name, held) ∉ members) :
    draft.Settles ((field.name, value) :: members) configuration field ↔
      FieldValue configuration field value := by
  constructor
  · intro settles
    exact settles.1 value List.mem_cons_self
  · intro stands
    constructor
    · intro held inside
      rcases List.mem_cons.mp inside with here | later
      · cases here
        exact stands
      · exact absurd later (absent held)
    · intro none
      exact absurd List.mem_cons_self (none value)

theorem settles_cons_iff_of_ne {key : String}
    (different : field.name ≠ key) :
    draft.Settles ((key, value) :: members) configuration field ↔
      draft.Settles members configuration field := by
  have inside : ∀ held, (field.name, held) ∈ (key, value) :: members ↔
      (field.name, held) ∈ members := by
    intro held
    rw [List.mem_cons, Prod.mk.injEq]
    exact or_iff_right fun here => different here.1
  simp only [Settles, inside]

theorem settles_set_iff_of_ne {other : Field} (different : other ≠ field)
    (returned : draft.set field value = .ok next) :
    next.Settles members configuration other ↔
      draft.Settles members configuration other := by
  rw [Settles, Settles, agrees_set_of_ne different returned]

/-- Setting a value for a field settles what a member with it settles. -/
theorem settles_set_iff (absent : ∀ held, (field.name, held) ∉ members)
    (returned : draft.set field value = .ok next) (other : Field) :
    next.Settles members configuration other ↔
      draft.Settles ((field.name, value) :: members) configuration other := by
  by_cases same : other = field
  · subst same
    rw [settles_iff_of_absent absent, agrees_set_iff returned,
      settles_cons_iff_of_absent absent]
  · have different : other.name ≠ field.name := mt Field.name_injective same
    rw [settles_cons_iff_of_ne different, settles_set_iff_of_ne same returned]

/-- Members with distinct keys make a draft a configuration when they settle
all its fields. -/
theorem complete_setMembers_iff
    (distinct : (members.map Prod.fst).Nodup) :
    (draft.setMembers members >>= complete) = .ok configuration ↔
      ∀ field, draft.Settles members configuration field := by
  induction members generalizing draft with
  | nil =>
      have start : (draft.setMembers [] >>= complete) = draft.complete := rfl
      rw [start, complete_eq_ok_iff]
      exact forall_congr' fun field =>
        (settles_iff_of_absent fun _ => List.not_mem_nil).symm
  | cons member rest ih =>
      obtain ⟨key, value⟩ := member
      obtain ⟨fresh, restDistinct⟩ := List.nodup_cons.mp distinct
      cases named : Field.ofName? key with
      | none =>
          have unknown := Field.ofName?_eq_none_iff.mp named
          have skipped : draft.setMembers ((key, value) :: rest) =
              draft.setMembers rest := by
            simp only [setMembers, named]
          rw [skipped, ih restDistinct]
          exact forall_congr' fun field =>
            (settles_cons_iff_of_ne (unknown field).symm).symm
      | some field =>
          obtain rfl := Field.ofName?_eq_some_iff.mp named
          -- No member that follows is for the same field.
          have absent : ∀ held, (field.name, held) ∉ rest := by
            intro held inside
            exact fresh (List.mem_map.mpr ⟨_, inside, rfl⟩)
          have first : draft.setMembers ((field.name, value) :: rest) =
              (draft.set field value >>= fun next => next.setMembers rest) := by
            simp only [setMembers, named]
          rw [first, bind_assoc]
          constructor
          · intro completed
            obtain ⟨next, returned, restSet⟩ := bind_eq_ok_iff.mp completed
            intro other
            apply (settles_set_iff absent returned other).mp
            exact (ih restDistinct).mp restSet other
          · intro settles
            have stands := (settles_cons_iff_of_absent absent).mp
              (settles field)
            obtain ⟨next, returned⟩ := exists_set stands draft
            refine bind_eq_ok_iff.mpr ⟨next, returned, ?_⟩
            apply (ih restDistinct).mpr
            intro other
            exact (settles_set_iff absent returned other).mpr (settles other)

theorem setFields_eq (fields : List Field) (values : List Json) :
    draft.setFields fields values =
      draft.setMembers ((fields.map Field.name).zip values) := by
  induction fields generalizing draft values with
  | nil => rfl
  | cons field fields ih =>
      cases values with
      | nil => rfl
      | cons value values =>
          simp only [setFields, List.map_cons, List.zip_cons_cons, setMembers,
            Field.ofName?_name, ih]

end Draft

variable {configuration : Configuration} {value : Json}

theorem ofJson_object_eq_ok_iff {members : List (String × Json)} :
    ofJson (.object members) = .ok configuration ↔
      Represents configuration (.object members) := by
  have distinct := (Json.sorted_sortMembers members).nodup
  have read : ofJson (.object members) =
      (Draft.blank.setMembers (Json.sortMembers members) >>=
        Draft.complete) := rfl
  rw [read, Draft.complete_setMembers_iff distinct]
  simp only [Draft.Settles, Json.mem_sortMembers_iff, Draft.not_agrees_blank,
    imp_false, not_forall, not_not]
  constructor
  · intro settles
    refine .object fun field => ?_
    obtain ⟨stands, value, holds⟩ := settles field
    exact ⟨value, holds, stands value holds⟩
  · rintro ⟨stand⟩ field
    obtain ⟨value, holds, stands⟩ := stand field
    refine ⟨fun held also => ?_, value, holds⟩
    rwa [also.unique holds]

/-- The items of an array are for the fields what members with their names
are. -/
theorem mem_zip_names_iff {items : List Json} {field : Field} :
    (field.name, value) ∈ (Field.all.map Field.name).zip items ↔
      (field, value) ∈ Field.all.zip items := by
  have injective : Function.Injective (Prod.map Field.name (id (α := Json))) :=
    Function.Injective.prodMap (fun _ _ => Field.name_injective)
      Function.injective_id
  rw [List.zip_map_left]
  exact List.mem_map_of_injective (a := (field, value)) injective

theorem exists_mem_zip {items : List Json}
    (sized : Field.all.length = items.length) (field : Field) :
    ∃ value, (field, value) ∈ Field.all.zip items := by
  have every := List.map_fst_zip (Nat.le_of_eq sized)
  have inside : field ∈ (Field.all.zip items).map Prod.fst := by
    rw [every]
    exact Field.mem_all field
  obtain ⟨⟨_, value⟩, member, rfl⟩ := List.mem_map.mp inside
  exact ⟨value, member⟩

theorem ofJson_array_eq_ok_iff {items : List Json} :
    ofJson (.array items) = .ok configuration ↔
      Represents configuration (.array items) := by
  by_cases sized : Field.all.length = items.length
  · have read : ofJson (.array items) =
        (Draft.blank.setMembers ((Field.all.map Field.name).zip items) >>=
          Draft.complete) := by
      simp only [ofJson, Draft.setFields_eq, sized, lt_irrefl, if_false]
    have names : (((Field.all.map Field.name).zip items).map Prod.fst) =
        Field.all.map Field.name :=
      List.map_fst_zip (by rw [List.length_map, sized])
    have distinct : (Field.all.map Field.name).Nodup := by decide
    rw [read, Draft.complete_setMembers_iff (by rwa [names])]
    simp only [Draft.Settles, mem_zip_names_iff, Draft.not_agrees_blank,
      imp_false, not_forall, not_not]
    constructor
    · intro settles
      refine .array (List.forall₂_iff_zip.mpr ⟨sized, ?_⟩)
      intro field value member
      exact (settles field).1 value member
    · intro represented field
      cases represented with
      | array stand =>
          exact ⟨fun value => (List.forall₂_iff_zip.mp stand).2,
            exists_mem_zip sized field⟩
  · constructor
    · intro read
      obtain ⟨draft, _, whole⟩ := bind_eq_ok_iff.mp read
      split at whole
      · cases whole
      next notShort =>
        split at whole
        · cases whole
        next notLong => omega
    · intro represented
      cases represented with
      | array stand => exact absurd stand.length_eq sized

/-- A value decodes as a configuration exactly when it represents it. -/
theorem ofJson_eq_ok_iff :
    ofJson value = .ok configuration ↔ Represents configuration value := by
  cases value with
  | object members => exact ofJson_object_eq_ok_iff
  | array items => exact ofJson_array_eq_ok_iff
  | _ => exact ⟨nofun, nofun⟩

theorem fieldValue_stands (configuration : Configuration) (field : Field) :
    FieldValue configuration field (configuration.fieldValue field) := by
  cases field with
  | mode => exact .mode .name
  | _ => constructor

theorem represents_object {members others : List (String × Json)}
    (unknown : ∀ member ∈ others, ∀ field : Field, member.1 ≠ field.name)
    (same : members.Perm (Field.all.map (fun field =>
      (field.name, configuration.fieldValue field)) ++ others)) :
    Represents configuration (.object members) := by
  refine .object fun field => ⟨configuration.fieldValue field, ?_,
    fieldValue_stands configuration field⟩
  have inside : ∀ held, (field.name, held) ∈ members ↔
      held = configuration.fieldValue field := by
    intro held
    rw [same.mem_iff, List.mem_append, or_iff_left
      fun other => unknown _ other field rfl, List.mem_map]
    constructor
    · rintro ⟨written, _, sameMember⟩
      obtain ⟨sameName, rfl⟩ := Prod.mk.inj sameMember
      rw [Field.name_injective sameName]
    · rintro rfl
      exact ⟨field, Field.mem_all field, rfl⟩
  exact Json.holds_of_only ((inside _).mpr rfl) fun held => (inside held).mp

/-- A configuration is read back from the object that is written, from the
array of its values, and from its members in any order among any others.  The
values that decode are those that represent a configuration, and every other
value is refused. -/
theorem decode_exact :
    (∀ configuration : Configuration,
      ofJson configuration.toJson = .ok configuration ∧
      ofJson (.array (Field.all.map configuration.fieldValue)) =
        .ok configuration ∧
      ∀ members others : List (String × Json),
        (∀ member ∈ others, ∀ field : Field, member.1 ≠ field.name) →
        members.Perm (Field.all.map (fun field =>
          (field.name, configuration.fieldValue field)) ++ others) →
        ofJson (.object members) = .ok configuration) ∧
    (∀ (value : Json) (configuration : Configuration),
      ofJson value = .ok configuration ↔ Represents configuration value) ∧
    ∀ value : Json, (∀ configuration, ¬ Represents configuration value) →
      ∃ mistake, ofJson value = .error mistake := by
  refine ⟨fun configuration => ⟨?_, ?_, ?_⟩, ?_, ?_⟩
  · have none : ∀ member ∈ ([] : List (String × Json)),
        ∀ field : Field, member.1 ≠ field.name := nofun
    apply ofJson_eq_ok_iff.mpr
    exact represents_object none (by rw [List.append_nil])
  · apply ofJson_eq_ok_iff.mpr
    refine .array ?_
    rw [List.forall₂_map_right_iff, List.forall₂_same]
    exact fun field _ => fieldValue_stands configuration field
  · intro members others unknown same
    exact ofJson_eq_ok_iff.mpr (represents_object unknown same)
  · intro value configuration
    exact ofJson_eq_ok_iff
  · intro value unrepresented
    cases read : ofJson value with
    | ok configuration =>
        exact absurd (ofJson_eq_ok_iff.mp read) (unrepresented configuration)
    | error mistake => exact ⟨mistake, rfl⟩

/-- Behind another member the order may be the reverse, and an array of one
value is none. -/
theorem decode_exact_reversed :
    ofJson (.object (("comment", .null) ::
      (Field.all.map fun field =>
        (field.name, Configuration.initial.fieldValue field)).reverse)) =
      .ok Configuration.initial ∧
    ∃ mistake, ofJson (.array [.null]) = .error mistake := by
  constructor
  · refine (decode_exact.1 .initial).2.2 _ [("comment", .null)] ?_ ?_
    · intro member only field
      cases List.mem_singleton.mp only
      cases field <;> decide
    · exact ((List.reverse_perm _).cons _).trans
        (List.perm_append_singleton _ _).symm
  · apply decode_exact.2.2
    intro configuration represented
    cases represented with
    | array stand => exact absurd stand.length_eq (by decide)

end FrameChain.Configuration
