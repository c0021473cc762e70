import FrameChain.Json
import Mathlib.Data.List.Induction
import Mathlib.Data.List.Nodup
import Mathlib.Data.String.Basic

/-!
# Members of an object

An object is written as a list of members in which a key may come again, and
read by key.  What is read is the value of the last member with that key, and
every key is read once, so neither the order of the members nor a value that is
written over makes a difference.
-/

namespace FrameChain.Json

/-- The value that an object has for a key: that of the last member with it. -/
def Holds (members : List (String × Json)) (key : String) (value : Json) :
    Prop :=
  ∃ earlier later, members = earlier ++ (key, value) :: later ∧
    ∀ member ∈ later, member.1 ≠ key

/-- Members in the order of their keys, each key once. -/
def Sorted (members : List (String × Json)) : Prop :=
  members.Pairwise fun first second => first.1 < second.1

variable {members : List (String × Json)} {key other : String}
  {value held : Json}

theorem Sorted.nodup (sorted : Sorted members) :
    (members.map Prod.fst).Nodup := by
  rw [List.Nodup, List.pairwise_map]
  exact sorted.imp ne_of_lt

theorem Sorted.value_unique (sorted : Sorted members)
    (member : (key, value) ∈ members) (also : (key, held) ∈ members) :
    value = held :=
  congrArg Prod.snd (List.inj_on_of_nodup_map sorted.nodup member also rfl)

/-- Insertion puts the new member in place of one with the same key, and keeps
all others. -/
theorem mem_insertMember_iff (sorted : Sorted members) :
    (key, held) ∈ insertMember other value members ↔
      key = other ∧ held = value ∨ key ≠ other ∧ (key, held) ∈ members := by
  induction members with
  | nil => simp [insertMember]
  | cons member rest ih =>
      obtain ⟨first, present⟩ := member
      obtain ⟨above, restSorted⟩ := List.pairwise_cons.mp sorted
      unfold insertMember
      split
      next before =>
        have apart : (key, held) ∈ (first, present) :: rest → key ≠ other := by
          intro member same
          rcases List.mem_cons.mp member with here | later
          · cases here
            exact absurd before (same ▸ lt_irrefl _)
          · exact absurd (before.trans (above _ later)) (same ▸ lt_irrefl _)
        rw [List.mem_cons, Prod.mk.injEq, and_iff_right_of_imp apart]
      next notBefore =>
        split
        next here =>
          subst here
          have apart : (key, held) ∈ rest → key ≠ other :=
            fun later => (ne_of_lt (above _ later)).symm
          rw [List.mem_cons, List.mem_cons, Prod.mk.injEq, Prod.mk.injEq]
          constructor
          · rintro (new | later)
            · exact .inl new
            · exact .inr ⟨apart later, .inr later⟩
          · rintro (new | ⟨different, old | later⟩)
            · exact .inl new
            · exact absurd old.1 different
            · exact .inr later
        next notHere =>
          rw [List.mem_cons, List.mem_cons, Prod.mk.injEq, ih restSorted]
          constructor
          · rintro (first | new | ⟨different, later⟩)
            · exact .inr ⟨fun same => notHere (same.symm.trans first.1),
                .inl first⟩
            · exact .inl new
            · exact .inr ⟨different, .inr later⟩
          · rintro (new | ⟨different, first | later⟩)
            · exact .inr (.inl new)
            · exact .inl first
            · exact .inr (.inr ⟨different, later⟩)

theorem Sorted.insertMember (sorted : Sorted members) :
    Sorted (insertMember other value members) := by
  induction members with
  | nil => exact List.pairwise_singleton _ _
  | cons member rest ih =>
      obtain ⟨first, present⟩ := member
      obtain ⟨above, restSorted⟩ := List.pairwise_cons.mp sorted
      unfold Json.insertMember
      split
      next before =>
        apply List.pairwise_cons.mpr
        refine ⟨?_, sorted⟩
        intro member inside
        rcases List.mem_cons.mp inside with rfl | later
        · exact before
        · exact before.trans (above member later)
      next notBefore =>
        split
        next here =>
          subst here
          exact List.pairwise_cons.mpr ⟨above, restSorted⟩
        next notHere =>
          apply List.pairwise_cons.mpr
          refine ⟨?_, ih restSorted⟩
          rintro ⟨key, held⟩ inside
          rcases (mem_insertMember_iff restSorted).mp inside with
            ⟨rfl, _⟩ | ⟨_, later⟩
          · exact (lt_trichotomy _ _).resolve_left notBefore
              |>.resolve_left notHere
          · exact above _ later

theorem sortMembers_concat (members : List (String × Json))
    (member : String × Json) :
    sortMembers (members ++ [member]) =
      insertMember member.1 member.2 (sortMembers members) := by
  rw [sortMembers, List.foldl_concat, sortMembers]

theorem sorted_sortMembers (members : List (String × Json)) :
    Sorted (sortMembers members) := by
  induction members using List.reverseRecOn with
  | nil => exact List.Pairwise.nil
  | append_singleton members member ih =>
      rw [sortMembers_concat]
      exact ih.insertMember

theorem holds_concat_iff :
    Holds (members ++ [(other, value)]) key held ↔
      key = other ∧ held = value ∨ key ≠ other ∧ Holds members key held := by
  constructor
  · rintro ⟨earlier, later, split, last⟩
    rcases List.eq_nil_or_concat' later with rfl | ⟨between, ending, rfl⟩
    · obtain ⟨_, same⟩ := List.append_inj' split rfl
      cases same
      exact .inl ⟨rfl, rfl⟩
    · rw [← List.cons_append, ← List.append_assoc] at split
      obtain ⟨rfl, same⟩ := List.append_inj' split rfl
      cases same
      refine .inr ⟨?_, earlier, between, rfl, ?_⟩
      · exact (last (other, value) (by simp)).symm
      · intro member inside
        exact last member (List.mem_append_left _ inside)
  · rintro (⟨rfl, rfl⟩ | ⟨different, earlier, later, rfl, last⟩)
    · exact ⟨members, [], rfl, by simp⟩
    · refine ⟨earlier, later ++ [(other, value)], by simp, ?_⟩
      intro member inside
      rcases List.mem_append.mp inside with before | ending
      · exact last member before
      · rw [List.mem_singleton.mp ending]
        exact different.symm

/-- The members by key are what the object has for its keys. -/
theorem mem_sortMembers_iff :
    (key, held) ∈ sortMembers members ↔ Holds members key held := by
  induction members using List.reverseRecOn with
  | nil =>
      constructor
      · nofun
      · rintro ⟨earlier, later, split, _⟩
        cases earlier <;> cases split
  | append_singleton members member ih =>
      rw [sortMembers_concat, mem_insertMember_iff (sorted_sortMembers members),
        ih, ← holds_concat_iff]

theorem Holds.unique (holds : Holds members key value)
    (also : Holds members key held) : value = held :=
  (sorted_sortMembers members).value_unique (mem_sortMembers_iff.mpr holds)
    (mem_sortMembers_iff.mpr also)

theorem Holds.mem (holds : Holds members key value) :
    (key, value) ∈ members := by
  obtain ⟨earlier, later, rfl, _⟩ := holds
  simp

theorem exists_holds (member : (key, value) ∈ members) :
    ∃ held, Holds members key held := by
  induction members using List.reverseRecOn with
  | nil => cases member
  | append_singleton members last ih =>
      obtain ⟨other, ending⟩ := last
      by_cases same : key = other
      · exact ⟨ending, holds_concat_iff.mpr (.inl ⟨same, rfl⟩)⟩
      · have before : (key, value) ∈ members := by
          rcases List.mem_append.mp member with before | here
          · exact before
          · cases List.mem_singleton.mp here
            exact absurd rfl same
        obtain ⟨held, holds⟩ := ih before
        exact ⟨held, holds_concat_iff.mpr (.inr ⟨same, holds⟩)⟩

theorem holds_of_only (member : (key, value) ∈ members)
    (only : ∀ held, (key, held) ∈ members → held = value) :
    Holds members key value := by
  obtain ⟨held, holds⟩ := exists_holds member
  rwa [only held holds.mem] at holds

theorem sortMembers_eq_singleton_iff :
    sortMembers members = [(key, value)] ↔
      (∀ member ∈ members, member.1 = key) ∧ Holds members key value := by
  constructor
  · intro single
    constructor
    · rintro ⟨other, present⟩ member
      obtain ⟨held, holds⟩ := exists_holds member
      have sorted := mem_sortMembers_iff.mpr holds
      rw [single] at sorted
      cases List.mem_singleton.mp sorted
      rfl
    · rw [← mem_sortMembers_iff, single]
      exact List.mem_singleton_self _
  · intro ⟨same, holds⟩
    have all : ∀ member ∈ sortMembers members, member = (key, value) := by
      rintro ⟨other, present⟩ inside
      have present := mem_sortMembers_iff.mp inside
      cases same _ present.mem
      rw [present.unique holds]
    have distinct := (sorted_sortMembers members).nodup.of_map
    have inside := mem_sortMembers_iff.mpr holds
    rw [List.eq_replicate_of_mem all] at distinct inside ⊢
    have few := List.nodup_replicate.mp distinct
    have some := List.length_pos_of_mem inside
    rw [List.length_replicate] at some
    rw [Nat.le_antisymm few some]
    rfl

end FrameChain.Json
