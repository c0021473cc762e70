import FrameChain.Proofs.Acceptance
import FrameChain.Proofs.Prologue

/-!
# What two answers lead to

Both trampolines are asked for, whatever the first answer is.  Unless both
answers are addresses, nothing is known and no memory is looked at.  With two
addresses the code at the entry is scanned, and a scan that is not broken off
gives an analysis with all of its parts.  So a correction is never made with
some of them missing, and it looks for the saved frame pointer at most 8 words
above the interrupted stack pointer, because no scan counts more than 9 pushes.
-/

namespace FrameChain

/-- Beyond the record of its frame, a transition looks at no more than so many
words above the interrupted stack pointer, and the one there. -/
def Validator.LooksUpTo (validator : Validator) (count : Nat) : Prop :=
  ∀ (memory other : Memory) (options : WalkOptions) (current : Word),
    memory.SameWord other current →
    memory.SameWord other (FrameRecord.returnSlot current) →
    (∀ registers, validator.context = some registers → ∀ index ≤ count,
      memory.SameWord other (registers.stackPointer.offset (8 * index))) →
    validator.nextFrame other current options =
      validator.nextFrame memory current options

namespace Trampoline

/-- The bytes of a stretch as long as the scan can reach, with zeros where none
are mapped. -/
def window (memory : Memory) (entry : Word) : List UInt8 :=
  (List.range (scanWindow + 1)).map fun offset =>
    (memory.byte? (entry.offset offset)).getD 0

namespace Analysis

/-- A lookup that keeps a record of what it was asked. -/
def recorded (lookup : SymbolQuery → SymbolAnswer) (query : SymbolQuery) :
    ExceptT Abort (StateM (List SymbolQuery)) SymbolAnswer := do
  modify (· ++ [query])
  pure (lookup query)

/-- How a resolution ends, and what its lookup was asked, in order. -/
def transcript (build : Build) (memory : Memory)
    (lookup : SymbolQuery → SymbolAnswer) :
    Except Abort Analysis × List SymbolQuery :=
  (resolve build memory (recorded lookup)).run.run []

/-- An answer that is no address of code. -/
inductive Missing : SymbolAnswer → Prop where
  | error (cause : SymbolError) : Missing (.error cause)
  | null : Missing (.ok 0)

/-- An analysis with all of its parts: both addresses, and the push count of
any bytes that are like those that the scan looks at. -/
structure Complete (build : Build) (memory : Memory)
    (signalReturn entry : Word) (analysis : Analysis) : Prop where
  entry_eq : analysis.entry = entry
  signalReturn_eq : analysis.signalReturn = signalReturn
  pushes : ∀ bytes : List UInt8,
    (∀ offset, (Code.ofMemory memory entry).Examines offset →
      bytes[offset]? = memory.byte? (entry.offset offset)) →
    countPushes build (.ofList bytes) = .ok analysis.pushes.toNat

end Analysis

section Memory

variable {memory other : Memory} {entry : Word} {offset : Nat}

theorem Code.ofMemory_of_mapped {byte : UInt8} (within : offset ≤ scanWindow)
    (mapped : memory.byte? (entry.offset offset) = some byte) :
    Code.ofMemory memory entry offset = .ok (some byte) := by
  rw [ofMemory, if_pos within, Memory.readByte, mapped]
  rfl

theorem Code.ofMemory_of_unmapped (within : offset ≤ scanWindow)
    (unmapped : memory.byte? (entry.offset offset) = none) :
    Code.ofMemory memory entry offset = .error .unmappedRead := by
  rw [ofMemory, if_pos within, Memory.readByte, unmapped]
  rfl

theorem Code.ofMemory_ne_none (within : offset ≤ scanWindow) :
    Code.ofMemory memory entry offset ≠ .ok none := by
  cases mapped : memory.byte? (entry.offset offset) with
  | none =>
      rw [ofMemory_of_unmapped within mapped]
      nofun
  | some byte =>
      rw [ofMemory_of_mapped within mapped]
      nofun

theorem countPushes_congr (build : Build) {code : Code}
    (same : ∀ offset, (Code.ofMemory memory entry).Examines offset →
      code offset = Code.ofMemory memory entry offset) :
    countPushes build code = countPushes build (.ofMemory memory entry) := by
  have scanned : scan code 0 0 = scan (.ofMemory memory entry) 0 0 :=
    scan_congr same (fun _ => Code.ofMemory_ne_none) .nil (Code.shows_nil _)
  rw [countPushes, countPushes, scanned]

theorem countPushes_ofMemory_congr (build : Build)
    (same : ∀ offset, (Code.ofMemory memory entry).Examines offset →
      other.byte? (entry.offset offset) =
        memory.byte? (entry.offset offset)) :
    countPushes build (.ofMemory other entry) =
      countPushes build (.ofMemory memory entry) := by
  apply countPushes_congr
  intro offset examined
  unfold Code.ofMemory Memory.readByte
  rw [same offset examined]

theorem countPushes_ofList_of_same (build : Build) {bytes : List UInt8}
    (mapped : ∀ offset, (Code.ofMemory memory entry).Examines offset →
      memory.byte? (entry.offset offset) ≠ none)
    (same : ∀ offset, (Code.ofMemory memory entry).Examines offset →
      bytes[offset]? = memory.byte? (entry.offset offset)) :
    countPushes build (.ofList bytes) =
      countPushes build (.ofMemory memory entry) := by
  apply countPushes_congr
  intro offset examined
  obtain ⟨byte, present⟩ :=
    Option.ne_none_iff_exists'.mp (mapped offset examined)
  rw [Code.ofList, same offset examined, present,
    Code.ofMemory_of_mapped examined.le present]

theorem window_getElem? (within : offset ≤ scanWindow)
    (mapped : memory.byte? (entry.offset offset) ≠ none) :
    (window memory entry)[offset]? = memory.byte? (entry.offset offset) := by
  obtain ⟨byte, present⟩ := Option.ne_none_iff_exists'.mp mapped
  rw [window, List.getElem?_map,
    List.getElem?_range (Nat.lt_succ_of_le within), Option.map_some, present,
    Option.getD_some]

theorem countPushes_ofList_ne_unread (build : Build) (bytes : List UInt8) :
    countPushes build (.ofList bytes) ≠ .error .unmappedRead := by
  obtain ⟨ending, ends⟩ := exists_ends bytes
  rw [countPushes_of_ends ends]
  cases checked : build.assertions with
  | true =>
      intro unread
      obtain ⟨assertion, _, cause⟩ :=
        (Ending.pushes_eq_error_iff checked).mp unread
      cases cause
  | false =>
      cases ending <;> simp [Ending.pushes, Build.refuse, checked]

theorem countPushes_eq_window (build : Build)
    (mapped : ∀ offset, (Code.ofMemory memory entry).Examines offset →
      memory.byte? (entry.offset offset) ≠ none) :
    countPushes build (.ofMemory memory entry) =
      countPushes build (.ofList (window memory entry)) :=
  (countPushes_ofList_of_same build mapped fun offset examined =>
    window_getElem? examined.le (mapped offset examined)).symm

/-- The scan fails to read exactly where it looks at a byte that is not
mapped. -/
theorem countPushes_unread_iff (build : Build) :
    countPushes build (.ofMemory memory entry) = .error .unmappedRead ↔
      ∃ offset, (Code.ofMemory memory entry).Examines offset ∧
        memory.byte? (entry.offset offset) = none := by
  constructor
  · intro unread
    by_contra all
    have mapped : ∀ offset, (Code.ofMemory memory entry).Examines offset →
        memory.byte? (entry.offset offset) ≠ none :=
      fun offset examined unmapped => all ⟨offset, examined, unmapped⟩
    rw [countPushes_eq_window build mapped] at unread
    exact countPushes_ofList_ne_unread build _ unread
  · intro ⟨offset, examined, unmapped⟩
    rw [countPushes, scan_of_unread examined
      (Code.ofMemory_of_unmapped examined.le unmapped)]

end Memory

namespace Analysis

variable {build : Build} {memory : Memory}

theorem transcript_eq (build : Build) (memory : Memory)
    (lookup : SymbolQuery → SymbolAnswer) :
    transcript build memory lookup =
      (ofAnswers build memory (lookup signalReturnQuery) (lookup entryQuery),
        [signalReturnQuery, entryQuery]) := by
  rfl

/-- Without two addresses the memory is of no account.  A missing object is
taken for a system without trampolines, anything else for a mistake. -/
theorem ofAnswers_of_missing {signalReturn entry : SymbolAnswer}
    (missing : Missing signalReturn ∨ Missing entry) :
    ofAnswers build memory signalReturn entry =
      if signalReturn = .error .objectNotPresent ∨
          entry = .error .objectNotPresent then .ok unknown
      else build.refuse .missingSymbols unknown := by
  unfold ofAnswers
  split
  next => simp
  next => simp
  next signalReturn entry =>
    have null : signalReturn = 0 ∨ entry = 0 := by
      rcases missing with missing | missing
      · cases missing
        exact .inl rfl
      · cases missing
        exact .inr rfl
    simp [null]
  next absentReturn absentEntry _ =>
    have present : ¬ (signalReturn = .error .objectNotPresent ∨
        entry = .error .objectNotPresent) := by
      rintro (rfl | rfl)
      · exact absentReturn rfl
      · exact absentEntry rfl
    rw [if_neg present]

theorem missing_or_address (answer : SymbolAnswer) :
    Missing answer ∨ ∃ address, answer = .ok address ∧ address ≠ 0 := by
  cases answer with
  | error cause => exact .inl (.error cause)
  | ok address =>
      by_cases null : address = 0
      · subst null
        exact .inl .null
      · exact .inr ⟨address, rfl, null⟩

section Addresses

variable {signalReturn entry : Word}

theorem ofAnswers_of_addresses (returns : signalReturn ≠ 0)
    (enters : entry ≠ 0) :
    ofAnswers build memory (.ok signalReturn) (.ok entry) =
      (countPushes build (.ofMemory memory entry)).map fun pushes =>
        ⟨entry, signalReturn, UInt64.ofNat pushes⟩ :=
  ofAnswers_of_ne (mt Except.ok.inj returns) (mt Except.ok.inj enters)

theorem ofAnswers_unread_iff (returns : signalReturn ≠ 0)
    (enters : entry ≠ 0) :
    ofAnswers build memory (.ok signalReturn) (.ok entry) =
        .error .unmappedRead ↔
      ∃ offset, (Code.ofMemory memory entry).Examines offset ∧
        memory.byte? (entry.offset offset) = none := by
  rw [ofAnswers_of_addresses returns enters, ← countPushes_unread_iff build]
  cases countPushes build (.ofMemory memory entry) <;> simp [Except.map]

theorem complete_of_ofAnswers (returns : signalReturn ≠ 0)
    (enters : entry ≠ 0) {analysis : Analysis}
    (returned : ofAnswers build memory (.ok signalReturn) (.ok entry) =
      .ok analysis) :
    Complete build memory signalReturn entry analysis ∧
      analysis.pushes.toNat ≤ 9 := by
  have mapped : ∀ offset, (Code.ofMemory memory entry).Examines offset →
      memory.byte? (entry.offset offset) ≠ none := by
    intro offset examined unmapped
    have unread : ofAnswers build memory (.ok signalReturn) (.ok entry) =
        .error .unmappedRead :=
      (ofAnswers_unread_iff returns enters).mpr ⟨offset, examined, unmapped⟩
    cases returned.symm.trans unread
  rw [ofAnswers_of_addresses returns enters] at returned
  cases counted : countPushes build (.ofMemory memory entry) with
  | error cause =>
      rw [counted] at returned
      cases returned
  | ok pushes =>
      rw [counted] at returned
      cases returned
      have small : pushes ≤ 9 :=
        countPushes_le ((countPushes_eq_window build mapped).symm.trans counted)
      have kept : (UInt64.ofNat pushes).toNat = pushes :=
        UInt64.toNat_ofNat_of_lt' (Nat.lt_of_le_of_lt small (by decide))
      refine ⟨⟨rfl, rfl, ?_⟩, kept.symm ▸ small⟩
      intro bytes same
      rw [kept, countPushes_ofList_of_same build mapped same, counted]

end Addresses

theorem pushes_of_ofAnswers {signalReturn entry : SymbolAnswer}
    {analysis : Analysis}
    (returned : ofAnswers build memory signalReturn entry = .ok analysis)
    (pushed : analysis.pushes ≠ 0) :
    analysis.entry ≠ 0 ∧ analysis.signalReturn ≠ 0 ∧
      analysis.pushes.toNat ≤ 9 := by
  have known : ¬ (Missing signalReturn ∨ Missing entry) := by
    intro missing
    have nothing : analysis = unknown := by
      rw [ofAnswers_of_missing missing, Build.refuse] at returned
      split at returned
      · exact (Except.ok.inj returned).symm
      · split at returned
        · cases returned
        · exact (Except.ok.inj returned).symm
    rw [nothing] at pushed
    exact pushed rfl
  obtain ⟨haveReturn, haveEntry⟩ := not_or.mp known
  obtain ⟨signalReturn, rfl, returns⟩ :=
    (missing_or_address _).resolve_left haveReturn
  obtain ⟨entry, rfl, enters⟩ :=
    (missing_or_address _).resolve_left haveEntry
  obtain ⟨complete, small⟩ := complete_of_ofAnswers returns enters returned
  rw [complete.entry_eq, complete.signalReturn_eq]
  exact ⟨enters, returns, small⟩

end Analysis

end Trampoline

theorem Validator.looksUpTo_of_pushes_le {validator : Validator} {count : Nat}
    (small : validator.analysis.pushes.toNat ≤ count + 1) :
    validator.LooksUpTo count := by
  intro memory other options current linkSame returnSame stackSame
  apply nextFrame_congr linkSame returnSame
  intro registers here
  have positive : 1 ≤ validator.analysis.pushes.toNat :=
    Nat.pos_of_ne_zero fun zero => here.pushes (UInt64.toNat_inj.mp zero)
  have index : (validator.analysis.pushes - 1).toNat =
      validator.analysis.pushes.toNat - 1 :=
    UInt64.toNat_sub_of_le _ _ (UInt64.le_iff_toNat_le.mpr positive)
  have slot : validator.savedSlot registers =
      registers.stackPointer.offset
        (8 * (validator.analysis.pushes - 1).toNat) := by
    rw [savedSlot, Word.offset, UInt64.ofNat_mul, UInt64.ofNat_toNat,
      UInt64.mul_comm]
    rfl
  rw [slot, index]
  exact stackSame registers here.context _ (Nat.sub_le_of_le_add small)

namespace Trampoline.Analysis

/-- Both symbols are asked for once, in a fixed order.  Unless both answers are
addresses, nothing is known, or a checked assertion fails, and no memory is
read.  With two addresses the bytes that the scan looks at are read, all within
11 bytes of the entry, and what is returned has all of its parts.  Whatever is
returned, pushes are known only together with both addresses, and no correction
looks further than 8 words above the interrupted stack pointer. -/
theorem resolve_all_or_nothing (build : Build) (memory : Memory)
    (lookup : SymbolQuery → SymbolAnswer) :
    let run := transcript build memory lookup
    run.2 = [signalReturnQuery, entryQuery] ∧
    (Missing (lookup signalReturnQuery) ∨ Missing (lookup entryQuery) →
      (∀ other, transcript build other lookup = run) ∧
      (build.assertions = false → run.1 = .ok unknown) ∧
      (build.assertions = true → run.1 =
        if lookup signalReturnQuery = .error .objectNotPresent ∨
            lookup entryQuery = .error .objectNotPresent then .ok unknown
        else .error (.failed .missingSymbols))) ∧
    (∀ signalReturn entry, lookup signalReturnQuery = .ok signalReturn →
      lookup entryQuery = .ok entry → signalReturn ≠ 0 → entry ≠ 0 →
      let code := Code.ofMemory memory entry
      (∀ offset, code.Examines offset → offset < 11) ∧
      (run.1 = .error .unmappedRead ↔ ∃ offset, code.Examines offset ∧
        memory.byte? (entry.offset offset) = none) ∧
      (∀ other : Memory,
        (∀ offset, code.Examines offset →
          other.byte? (entry.offset offset) =
            memory.byte? (entry.offset offset)) →
        transcript build other lookup = run) ∧
      ∀ analysis, run.1 = .ok analysis →
        Complete build memory signalReturn entry analysis) ∧
    ∀ analysis, run.1 = .ok analysis →
      (analysis.pushes ≠ 0 → analysis.entry ≠ 0 ∧
        analysis.signalReturn ≠ 0 ∧ analysis.pushes.toNat ≤ 9) ∧
      ∀ validator : Validator, validator.analysis = analysis →
        validator.LooksUpTo 8 := by
  intro run
  refine ⟨rfl, ?_, ?_, ?_⟩
  · intro missing
    have ended : run.1 = _ := ofAnswers_of_missing missing
    refine ⟨?_, ?_, ?_⟩
    · intro other
      rw [transcript_eq, ofAnswers_of_missing missing, ← ended]
      rfl
    · intro unchecked
      rw [ended, Build.refuse, unchecked]
      split <;> rfl
    · intro checked
      rw [ended, Build.refuse, checked]
      rfl
  · intro signalReturn entry returned entered returns enters code
    have ended (memory : Memory) : transcript build memory lookup =
        (ofAnswers build memory (.ok signalReturn) (.ok entry),
          [signalReturnQuery, entryQuery]) := by
      rw [transcript_eq, returned, entered]
    have first : run.1 =
        ofAnswers build memory (.ok signalReturn) (.ok entry) :=
      congrArg Prod.fst (ended memory)
    rw [first]
    refine ⟨?_, ofAnswers_unread_iff returns enters, ?_, ?_⟩
    · exact fun offset examined => Nat.lt_succ_of_le examined.le
    · intro other same
      rw [show run = _ from ended memory, ended other,
        ofAnswers_of_addresses returns enters,
        ofAnswers_of_addresses returns enters,
        countPushes_ofMemory_congr build same]
    · intro analysis result
      exact (complete_of_ofAnswers returns enters result).1
  · intro analysis returned
    have pushes := pushes_of_ofAnswers (show ofAnswers build memory
      (lookup signalReturnQuery) (lookup entryQuery) = .ok analysis
      from returned)
    refine ⟨pushes, ?_⟩
    rintro validator rfl
    apply Validator.looksUpTo_of_pushes_le
    -- The topmost of 9 pushed words lies 8 words above the stack pointer.
    by_cases none : validator.analysis.pushes = 0
    · rw [none]
      decide
    · exact (pushes none).2.2

/-- Code in the last bytes that are mapped: a push, and the entry of the
kernel. -/
def codeAtPageEnd : Memory :=
  (Memory.empty.zeroed 0x1000 0x1000).store 0x1FFD [0x51, 0x0F, 0x34]

/-- The scan ends before the mapped memory does.  Without the second symbol,
empty memory does as well. -/
theorem resolve_all_or_nothing_at_page_end :
    let found : SymbolQuery → SymbolAnswer := fun query =>
      .ok (if query = signalReturnQuery then 0x7000 else 0x1FFD)
    let lacking : SymbolQuery → SymbolAnswer := fun query =>
      if query = signalReturnQuery then .ok 0x7000
      else .error (.notFound query.name query.version)
    let analysis : Analysis := ⟨0x1FFD, 0x7000, 1⟩
    transcript .development codeAtPageEnd found =
      (.ok analysis, [signalReturnQuery, entryQuery]) ∧
    Complete .development codeAtPageEnd 0x7000 0x1FFD analysis ∧
    Validator.LooksUpTo ⟨none, analysis, fun _ => true⟩ 8 ∧
    transcript .release .empty lacking =
      (.ok unknown, [signalReturnQuery, entryQuery]) ∧
    transcript .development .empty lacking =
      (.error (.failed .missingSymbols), [signalReturnQuery, entryQuery]) := by
  intro found lacking analysis
  obtain ⟨asked, _, reads, sound⟩ :=
    resolve_all_or_nothing .development codeAtPageEnd found
  have returned : (transcript .development codeAtPageEnd found).1 =
      .ok analysis := by
    decide +kernel
  obtain ⟨_, _, _, complete⟩ :=
    reads 0x7000 0x1FFD rfl rfl (by decide) (by decide)
  have missing : Missing (lacking entryQuery) := .error _
  obtain ⟨askedAgain, nothing, _⟩ :=
    resolve_all_or_nothing .release .empty lacking
  obtain ⟨_, silent, _⟩ := nothing (.inr missing)
  obtain ⟨askedOnce, refused, _⟩ :=
    resolve_all_or_nothing .development .empty lacking
  obtain ⟨_, _, failed⟩ := refused (.inr missing)
  exact ⟨Prod.ext returned asked, complete analysis returned,
    (sound analysis returned).2 _ rfl, Prod.ext (silent rfl) askedAgain,
    Prod.ext (failed rfl) askedOnce⟩

end Trampoline.Analysis

end FrameChain
