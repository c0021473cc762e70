import FrameChain.Trampoline.Code

/-!
# What the scan passes over

Code of the trampoline starts with a prologue, a string of pushes and of moves
between registers.  The scan passes over the prologue and stops at what comes
next: an instruction that enters the kernel, one that keeps a frame, an
interrupt, a byte that starts no known instruction, or nothing at all.  It also
stops where the prologue leaves the inspected window.

That is a grammar of byte strings.  The scan looks at one byte past each opcode
that it reads, so what it makes of some code depends on the bytes that it looks
at, and on no byte past the window and the one after it.
-/

namespace FrameChain.Trampoline

/-- The opcodes of the one-byte pushes. -/
def IsPush (opcode : UInt8) : Prop :=
  0x50 ≤ opcode ∧ opcode ≤ 0x5F

instance (opcode : UInt8) : Decidable (IsPush opcode) :=
  inferInstanceAs (Decidable (_ ∧ _))

/-- Instructions that are passed over, and the number of pushes among them. -/
inductive Prologue : List UInt8 → Nat → Prop where
  | nil : Prologue [] 0
  | push {opcode : UInt8} {rest : List UInt8} {pushes : Nat} :
      IsPush opcode → Prologue rest pushes →
      Prologue (opcode :: rest) (pushes + 1)
  | move {operand : UInt8} {rest : List UInt8} {pushes : Nat} :
      operand ≠ 0xE5 → Prologue rest pushes →
      Prologue (0x89 :: operand :: rest) pushes

/-- A byte that starts none of the known instructions, given what follows. -/
structure Unrecognized (opcode : UInt8) (rest : List UInt8) : Prop where
  push : ¬ IsPush opcode
  move : opcode ≠ 0x89
  entry : opcode = 0x0F → rest.head? ≠ some 0x34 ∧ rest.head? ≠ some 0x05
  interrupt : opcode = 0xCD → rest.head? ≠ some 0x80

/-- What ends a prologue, and how the scan ends there. -/
inductive Stops : List UInt8 → Nat → Ending → Prop where
  | kernelEntry {operand : UInt8} {rest : List UInt8} {pushes : Nat} :
      operand = 0x34 ∨ operand = 0x05 →
      Stops (0x0F :: operand :: rest) pushes (.kernelEntry pushes)
  | framed {rest : List UInt8} {pushes : Nat} :
      Stops (0x89 :: 0xE5 :: rest) pushes .framed
  | interrupt {rest : List UInt8} {pushes : Nat} :
      Stops (0xCD :: 0x80 :: rest) pushes (.interrupt pushes)
  | unknown {opcode : UInt8} {rest : List UInt8} {pushes : Nat} :
      Unrecognized opcode rest →
      Stops (opcode :: rest) pushes (.unknown opcode)
  | cutOff {pushes : Nat} : Stops [0x89] pushes .exhausted
  | nothing {pushes : Nat} : Stops [] pushes .exhausted

/-- How the scan of some bytes ends. -/
inductive Ends (bytes : List UInt8) : Ending → Prop where
  | inside {prologue tail : List UInt8} {pushes : Nat} {ending : Ending} :
      Prologue prologue pushes → bytes = prologue ++ tail →
      prologue.length < scanWindow → Stops tail pushes ending →
      Ends bytes ending
  | beyond {prologue tail : List UInt8} {pushes : Nat} :
      Prologue prologue pushes → bytes = prologue ++ tail →
      scanWindow ≤ prologue.length →
      Ends bytes .exhausted

/-- Some code starts with these bytes, and all of them can be read. -/
def Code.Shows (code : Code) (bytes : List UInt8) : Prop :=
  ∀ index byte, bytes[index]? = some byte → code index = .ok (some byte)

/-- The scan looks at the byte at an offset: it is the first one after a
prologue within the window, or the one after that. -/
inductive Code.Examines (code : Code) : Nat → Prop where
  | opcode {prologue : List UInt8} {pushes : Nat} :
      Prologue prologue pushes → code.Shows prologue →
      prologue.length < scanWindow →
      Examines code prologue.length
  | operand {prologue : List UInt8} {pushes : Nat} {opcode : UInt8} :
      Prologue prologue pushes → code.Shows (prologue ++ [opcode]) →
      prologue.length < scanWindow →
      Examines code (prologue.length + 1)

namespace Prologue

theorem append {first second : List UInt8} {pushes more : Nat}
    (passes : Prologue first pushes) (also : Prologue second more) :
    Prologue (first ++ second) (pushes + more) := by
  induction passes with
  | nil => simpa using also
  | push isPush _ ih =>
      rw [Nat.add_right_comm]
      exact .push isPush ih
  | move other _ ih => exact .move other ih

theorem pushes_le {bytes : List UInt8} {pushes : Nat}
    (passes : Prologue bytes pushes) : pushes ≤ bytes.length := by
  induction passes with
  | nil => exact Nat.le_refl 0
  | push _ _ ih => exact Nat.succ_le_succ ih
  | move _ _ ih => exact Nat.le_add_right_of_le (Nat.le_add_right_of_le ih)

end Prologue

namespace Instruction

theorem decode_push {opcode : UInt8} (isPush : IsPush opcode)
    (operand : Option UInt8) : decode opcode operand = .push := by
  have notMove : opcode ≠ 0x89 := by
    rintro rfl
    exact absurd isPush (by decide)
  have notEntry : opcode ≠ 0x0F := by
    rintro rfl
    exact absurd isPush (by decide)
  have range : 0x50 ≤ opcode ∧ opcode ≤ 0x5F := isPush
  simp [decode, notMove, notEntry, range]

theorem decode_move {operand : Option UInt8} (other : operand ≠ some 0xE5) :
    decode 0x89 operand = .move := by
  simp [decode, other]

theorem decode_unrecognized {opcode : UInt8} {rest : List UInt8}
    (unrecognized : Unrecognized opcode rest) :
    decode opcode rest.head? = .unknown opcode := by
  have notEntry : ¬ (opcode = 0x0F ∧
      (rest.head? = some 0x34 ∨ rest.head? = some 0x05)) := by
    rintro ⟨escape, enters⟩
    obtain ⟨notSysenter, notSyscall⟩ := unrecognized.entry escape
    exact enters.elim notSysenter notSyscall
  have notPush : ¬ (0x50 ≤ opcode ∧ opcode ≤ 0x5F) := unrecognized.push
  have notInterrupt : ¬ (opcode = 0xCD ∧ rest.head? = some 0x80) :=
    fun ⟨isInterrupt, vector⟩ => unrecognized.interrupt isInterrupt vector
  rw [decode, if_neg unrecognized.move, if_neg notEntry, if_neg notPush,
    if_neg notInterrupt]

theorem isPush_of_decode {opcode : UInt8} {operand : Option UInt8}
    (decoded : decode opcode operand = .push) : IsPush opcode := by
  unfold decode at decoded
  split at decoded
  · split at decoded <;> cases decoded
  · split at decoded
    · cases decoded
    · split at decoded
      next isPush => exact isPush
      next => split at decoded <;> cases decoded

theorem move_of_decode {opcode : UInt8} {operand : Option UInt8}
    (decoded : decode opcode operand = .move) :
    opcode = 0x89 ∧ operand ≠ some 0xE5 := by
  unfold decode at decoded
  split at decoded
  next isMove =>
    split at decoded
    · cases decoded
    next other => exact ⟨isMove, other⟩
  · split at decoded
    · cases decoded
    · split at decoded
      · cases decoded
      · split at decoded <;> cases decoded

end Instruction

section Scan

variable {code other : Code} {offset pushes : Nat}

theorem scan_beyond (beyond : scanWindow ≤ offset) :
    scan code offset pushes = .ok .exhausted := by
  rw [scan, if_neg (Nat.not_lt.mpr beyond)]

theorem scan_nothing (nothing : code offset = .ok none) :
    scan code offset pushes = .ok .exhausted := by
  rw [scan, nothing]
  split <;> rfl

theorem scan_unread {cause : Abort} (inside : offset < scanWindow)
    (unread : code offset = .error cause) :
    scan code offset pushes = .error cause := by
  rw [scan, if_pos inside, unread]

theorem scan_operand_unread {opcode : UInt8} {cause : Abort}
    (inside : offset < scanWindow)
    (opcodeRead : code offset = .ok (some opcode))
    (unread : code (offset + 1) = .error cause) :
    scan code offset pushes = .error cause := by
  rw [scan, if_pos inside, opcodeRead]
  simp only [unread]

/-- One instruction is read, and the scan goes on behind it or stops. -/
theorem scan_instruction {opcode : UInt8} {operand : Option UInt8}
    (inside : offset < scanWindow)
    (opcodeRead : code offset = .ok (some opcode))
    (operandRead : code (offset + 1) = .ok operand) :
    scan code offset pushes =
      match Instruction.decode opcode operand with
      | .push => scan code (offset + 1) (pushes + 1)
      | .move => scan code (offset + 2) pushes
      | .keepFrame => .ok .framed
      | .enterKernel => .ok (.kernelEntry pushes)
      | .interrupt => .ok (.interrupt pushes)
      | .unknown opcode => .ok (.unknown opcode) := by
  rw [scan, if_pos inside, opcodeRead]
  generalize code (offset + 1) = next at operandRead
  subst operandRead
  rfl

theorem scan_congr_step (opcodeSame : other offset = code offset)
    (operandSame : ∀ opcode, code offset = .ok (some opcode) →
      other (offset + 1) = code (offset + 1))
    (push : ∀ opcode, code offset = .ok (some opcode) → IsPush opcode →
      scan other (offset + 1) (pushes + 1) =
        scan code (offset + 1) (pushes + 1))
    (move : ∀ operand, code offset = .ok (some 0x89) →
      code (offset + 1) = .ok operand → operand ≠ some 0xE5 →
      scan other (offset + 2) pushes = scan code (offset + 2) pushes) :
    scan other offset pushes = scan code offset pushes := by
  by_cases inside : offset < scanWindow
  case neg =>
    have beyond := Nat.le_of_not_lt inside
    rw [scan_beyond beyond, scan_beyond beyond]
  rcases opcodeRead : code offset with cause | _ | opcode
  · rw [scan_unread inside opcodeRead,
      scan_unread inside (opcodeSame.trans opcodeRead)]
  · rw [scan_nothing opcodeRead, scan_nothing (opcodeSame.trans opcodeRead)]
  have operandSame := operandSame opcode opcodeRead
  have opcodeSame := opcodeSame.trans opcodeRead
  cases operandRead : code (offset + 1) with
  | error cause =>
      rw [scan_operand_unread inside opcodeRead operandRead,
        scan_operand_unread inside opcodeSame
          (operandSame.trans operandRead)]
  | ok operand =>
      rw [scan_instruction inside opcodeRead operandRead,
        scan_instruction inside opcodeSame (operandSame.trans operandRead)]
      cases decoded : Instruction.decode opcode operand with
      | push => exact push _ opcodeRead (Instruction.isPush_of_decode decoded)
      | move =>
          obtain ⟨rfl, notFrame⟩ := Instruction.move_of_decode decoded
          exact move _ opcodeRead operandRead notFrame
      | keepFrame => rfl
      | enterKernel => rfl
      | interrupt => rfl
      | unknown opcode => rfl

/-- A push is passed over.  The byte after it is looked at, too, and again by
the scan that goes on, unless that is at the end of the window. -/
theorem scan_push {opcode : UInt8} (isPush : IsPush opcode)
    (opcodeRead : code offset = .ok (some opcode))
    (follows : scanWindow ≤ offset + 1 → ∃ found, code (offset + 1) = .ok found) :
    scan code offset pushes = scan code (offset + 1) (pushes + 1) := by
  by_cases inside : offset < scanWindow
  · cases operandRead : code (offset + 1) with
    | ok operand =>
        rw [scan_instruction inside opcodeRead operandRead,
          Instruction.decode_push isPush]
    | error cause =>
        have within : offset + 1 < scanWindow := by
          apply Nat.lt_of_not_le
          intro beyond
          obtain ⟨found, foundRead⟩ := follows beyond
          cases operandRead.symm.trans foundRead
        rw [scan_operand_unread inside opcodeRead operandRead,
          scan_unread within operandRead]
  · rw [scan_beyond (Nat.le_of_not_lt inside), scan_beyond (by omega)]

theorem scan_move {operand : Option UInt8} (notFrame : operand ≠ some 0xE5)
    (opcodeRead : code offset = .ok (some 0x89))
    (operandRead : code (offset + 1) = .ok operand) :
    scan code offset pushes = scan code (offset + 2) pushes := by
  by_cases inside : offset < scanWindow
  · rw [scan_instruction inside opcodeRead operandRead,
      Instruction.decode_move notFrame]
  · rw [scan_beyond (Nat.le_of_not_lt inside), scan_beyond (by omega)]

theorem scan_prologue {prologue : List UInt8} {more : Nat}
    (passes : Prologue prologue more)
    (shown : ∀ index byte, prologue[index]? = some byte →
      code (offset + index) = .ok (some byte))
    (follows : scanWindow ≤ offset + prologue.length →
      ∃ found, code (offset + prologue.length) = .ok found) :
    scan code offset pushes =
      scan code (offset + prologue.length) (pushes + more) := by
  induction passes generalizing offset pushes with
  | nil => rfl
  | @push opcode rest more isPush _ ih =>
      have opcodeRead : code offset = .ok (some opcode) := shown 0 opcode rfl
      have place : offset + (rest.length + 1) = offset + 1 + rest.length := by
        omega
      -- The scan reads the byte behind an opcode before it knows of a push.
      have next : scanWindow ≤ offset + 1 →
          ∃ found, code (offset + 1) = .ok found := by
        intro beyond
        cases rest with
        | nil => exact follows beyond
        | cons byte rest => exact ⟨some byte, shown 1 byte rfl⟩
      rw [scan_push isPush opcodeRead next, List.length_cons, place,
        Nat.add_comm more 1, ← Nat.add_assoc]
      apply ih
      · intro index byte present
        rw [Nat.add_assoc, Nat.add_comm 1 index]
        exact shown (index + 1) byte present
      · rw [← place]
        exact follows
  | @move operand rest more notFrame _ ih =>
      have opcodeRead : code offset = .ok (some 0x89) := shown 0 0x89 rfl
      have operandRead : code (offset + 1) = .ok (some operand) :=
        shown 1 operand rfl
      have place : offset + (rest.length + 1 + 1) =
          offset + 2 + rest.length := by
        omega
      rw [scan_move (mt Option.some.inj notFrame) opcodeRead operandRead,
        List.length_cons, List.length_cons, place]
      apply ih
      · intro index byte present
        rw [Nat.add_assoc, Nat.add_comm 2 index]
        exact shown (index + 2) byte present
      · rw [← place]
        exact follows

theorem scan_passes {prologue : List UInt8} {more : Nat}
    (passes : Prologue prologue more) (shown : code.Shows prologue)
    (follows : scanWindow ≤ prologue.length →
      ∃ found, code prologue.length = .ok found) :
    scan code 0 0 = scan code prologue.length more := by
  have scanned : scan code 0 0 =
      scan code (0 + prologue.length) (0 + more) := by
    apply scan_prologue passes
    · intro index byte present
      rw [Nat.zero_add]
      exact shown index byte present
    · rwa [Nat.zero_add]
  rwa [Nat.zero_add, Nat.zero_add] at scanned

theorem scan_stops {tail : List UInt8} {ending : Ending}
    (stops : Stops tail pushes ending) (inside : offset < scanWindow)
    (shown : ∀ index, code (offset + index) = .ok tail[index]?) :
    scan code offset pushes = .ok ending := by
  have first : code offset = .ok tail[0]? := shown 0
  have second : code (offset + 1) = .ok tail[1]? := shown 1
  cases stops with
  | kernelEntry enters =>
      rw [scan_instruction inside first second]
      rcases enters with rfl | rfl <;> rfl
  | framed =>
      rw [scan_instruction inside first second]
      rfl
  | interrupt =>
      rw [scan_instruction inside first second]
      rfl
  | @unknown opcode rest _ unrecognized =>
      have operand : (opcode :: rest)[1]? = rest.head? :=
        List.head?_eq_getElem?.symm
      rw [scan_instruction inside first second, operand,
        Instruction.decode_unrecognized unrecognized]
  | cutOff =>
      rw [scan_move (by simp) first second]
      exact scan_nothing (shown 2)
  | nothing => exact scan_nothing first

end Scan

/-- Any bytes are a prologue and something that ends it. -/
theorem exists_stop : ∀ bytes : List UInt8, ∃ prologue tail pushes,
    Prologue prologue pushes ∧ bytes = prologue ++ tail ∧
      ∀ count, ∃ ending, Stops tail count ending
  | [] => ⟨[], [], 0, .nil, rfl, fun _ => ⟨_, .nothing⟩⟩
  | opcode :: rest => by
      by_cases isPush : IsPush opcode
      · obtain ⟨prologue, tail, pushes, passes, rfl, stops⟩ := exists_stop rest
        exact ⟨opcode :: prologue, tail, pushes + 1, .push isPush passes, rfl,
          stops⟩
      by_cases isMove : opcode = 0x89
      · subst isMove
        match rest with
        | [] => exact ⟨[], [0x89], 0, .nil, rfl, fun _ => ⟨_, .cutOff⟩⟩
        | operand :: rest =>
            by_cases keepsFrame : operand = 0xE5
            · subst keepsFrame
              exact ⟨[], _, 0, .nil, rfl, fun _ => ⟨_, .framed⟩⟩
            · obtain ⟨prologue, tail, pushes, passes, rfl, stops⟩ :=
                exists_stop rest
              exact ⟨0x89 :: operand :: prologue, tail, pushes,
                .move keepsFrame passes, rfl, stops⟩
      refine ⟨[], opcode :: rest, 0, .nil, rfl, fun count => ?_⟩
      by_cases enters : opcode = 0x0F ∧ ∃ operand tail,
          rest = operand :: tail ∧ (operand = 0x34 ∨ operand = 0x05)
      · obtain ⟨rfl, operand, tail, rfl, known⟩ := enters
        exact ⟨_, .kernelEntry known⟩
      by_cases interrupts : opcode = 0xCD ∧ ∃ tail, rest = 0x80 :: tail
      · obtain ⟨rfl, tail, rfl⟩ := interrupts
        exact ⟨_, .interrupt⟩
      refine ⟨_, .unknown ⟨isPush, isMove, ?_, ?_⟩⟩
      · rintro rfl
        constructor
        · intro sysenter
          obtain ⟨tail, split⟩ := List.head?_eq_some_iff.mp sysenter
          exact enters ⟨rfl, _, tail, split, .inl rfl⟩
        · intro syscall
          obtain ⟨tail, split⟩ := List.head?_eq_some_iff.mp syscall
          exact enters ⟨rfl, _, tail, split, .inr rfl⟩
      · rintro rfl vector
        exact interrupts ⟨rfl, List.head?_eq_some_iff.mp vector⟩

theorem exists_ends (bytes : List UInt8) : ∃ ending, Ends bytes ending := by
  obtain ⟨prologue, tail, pushes, passes, split, stops⟩ := exists_stop bytes
  by_cases within : prologue.length < scanWindow
  · obtain ⟨ending, stopped⟩ := stops pushes
    exact ⟨ending, .inside passes split within stopped⟩
  · exact ⟨.exhausted, .beyond passes split (Nat.le_of_not_lt within)⟩

theorem Code.ofList_append (first second : List UInt8) (index : Nat) :
    Code.ofList (first ++ second) (first.length + index) =
      .ok second[index]? := by
  rw [Code.ofList, List.getElem?_append_right (Nat.le_add_right _ _),
    Nat.add_sub_cancel_left]

theorem Code.ofList_shows {bytes prologue tail : List UInt8}
    (split : bytes = prologue ++ tail) : (Code.ofList bytes).Shows prologue := by
  intro index byte present
  have within : index < prologue.length :=
    (List.getElem?_eq_some_iff.mp present).1
  rw [Code.ofList, split, List.getElem?_append_left within, present]

theorem scan_of_ends {bytes : List UInt8} {ending : Ending}
    (ends : Ends bytes ending) : scan (.ofList bytes) 0 0 = .ok ending := by
  cases ends with
  | inside passes split within stops =>
      rw [scan_passes passes (Code.ofList_shows split) fun _ => ⟨_, rfl⟩]
      apply scan_stops stops within
      intro index
      rw [split, Code.ofList_append]
  | beyond passes split outside =>
      rw [scan_passes passes (Code.ofList_shows split) fun _ => ⟨_, rfl⟩,
        scan_beyond outside]

theorem Ends.unique {bytes : List UInt8} {first second : Ending}
    (ends : Ends bytes first) (also : Ends bytes second) : first = second :=
  Except.ok.inj ((scan_of_ends ends).symm.trans (scan_of_ends also))

theorem Code.Examines.le {code : Code} {offset : Nat}
    (examined : code.Examines offset) : offset ≤ scanWindow := by
  cases examined with
  | opcode _ _ within => exact Nat.le_of_lt within
  | operand _ _ within => exact within

theorem Code.shows_nil (code : Code) : code.Shows [] := by
  intro index byte present
  cases present

theorem Code.Shows.concat {code : Code} {bytes : List UInt8} {byte : UInt8}
    (shown : code.Shows bytes) (next : code bytes.length = .ok (some byte)) :
    code.Shows (bytes ++ [byte]) := by
  intro index found present
  rcases Nat.lt_trichotomy index bytes.length with before | rfl | after
  · rw [List.getElem?_append_left before] at present
    exact shown index found present
  · rw [List.getElem?_concat_length] at present
    cases present
    exact next
  · rw [List.getElem?_eq_none (by simp; omega)] at present
    cases present

/-- What the scan makes of some code depends on the bytes that it looks at.
None of them is past the end, as the code is as long as the scan can reach. -/
theorem scan_congr {code other : Code}
    (same : ∀ offset, code.Examines offset → other offset = code offset)
    (long : ∀ offset ≤ scanWindow, code offset ≠ .ok none)
    {prologue : List UInt8} {pushes : Nat} (passes : Prologue prologue pushes)
    (shown : code.Shows prologue) :
    scan other prologue.length pushes = scan code prologue.length pushes := by
  -- Each instruction that is passed over makes the prologue longer.
  induction remaining : scanWindow - prologue.length using Nat.strongRecOn
    generalizing prologue pushes with
  | _ remaining ih =>
    by_cases within : prologue.length < scanWindow
    case neg =>
      have beyond := Nat.le_of_not_lt within
      rw [scan_beyond beyond, scan_beyond beyond]
    apply scan_congr_step
    · exact same _ (.opcode passes shown within)
    · intro opcode opcodeRead
      exact same _ (.operand passes (shown.concat opcodeRead) within)
    · intro opcode opcodeRead isPush
      have further := ih _ (by simp; omega)
        (passes.append (.push isPush .nil)) (shown.concat opcodeRead) rfl
      simpa using further
    · intro operand opcodeRead operandRead notFrame
      cases operand with
      | none => exact absurd operandRead (long _ within)
      | some operand =>
          have next : code (prologue ++ [0x89]).length =
              .ok (some operand) := by
            simpa using operandRead
          have shownBoth := (shown.concat opcodeRead).concat next
          rw [List.append_assoc] at shownBoth
          have further := ih _ (by simp; omega)
            (passes.append (.move (mt (congrArg some) notFrame) .nil))
            shownBoth rfl
          simpa using further

theorem scan_of_unread {code : Code} {offset : Nat} {cause : Abort}
    (examined : code.Examines offset) (unread : code offset = .error cause) :
    scan code 0 0 = .error cause := by
  cases examined with
  | opcode passes shown within =>
      rw [scan_passes passes shown (absurd within <| Nat.not_lt.mpr ·),
        scan_unread within unread]
  | @operand prologue pushes opcode passes shown within =>
      have opcodeRead : code prologue.length = .ok (some opcode) :=
        shown _ _ List.getElem?_concat_length
      have shownBefore : code.Shows prologue := by
        intro index byte present
        apply shown
        rw [List.getElem?_append_left (List.getElem?_eq_some_iff.mp present).1,
          present]
      rw [scan_passes passes shownBefore (absurd within <| Nat.not_lt.mpr ·),
        scan_operand_unread within opcodeRead unread]

theorem scan_ofList_congr {bytes other : List UInt8}
    (same : other.take (scanWindow + 1) = bytes.take (scanWindow + 1)) :
    scan (.ofList other) 0 0 = scan (.ofList bytes) 0 0 := by
  by_cases long : scanWindow < bytes.length
  · apply scan_congr _ _ .nil (Code.shows_nil _)
    · intro offset examined
      have within : offset < scanWindow + 1 := Nat.lt_succ_of_le examined.le
      rw [Code.ofList, Code.ofList, ← List.getElem?_take_of_lt within, same,
        List.getElem?_take_of_lt within]
    · intro offset within
      have present : offset < bytes.length := Nat.lt_of_le_of_lt within long
      simp [Code.ofList, present]
  · have short := congrArg List.length same
    rw [List.length_take, List.length_take] at short
    rw [List.take_of_length_le (by omega), List.take_of_length_le (by omega)]
      at same
    rw [same]

/-- The assertion that fails after an ending, if it is checked. -/
inductive Ending.Fails : Ending → Assertion → Prop where
  | interrupt {pushes : Nat} : 0 < pushes →
      Fails (.interrupt pushes) (.pushesBeforeInterrupt pushes)
  | unknown {opcode : UInt8} :
      Fails (.unknown opcode) (.unexpectedInstruction opcode)
  | exhausted : Fails .exhausted .noKernelEntry

namespace Ending

variable {build : Build} {ending : Ending}

theorem pushes_eq_ok_iff {pushes : Nat} (positive : 0 < pushes) :
    ending.pushes build = .ok pushes ↔ ending = .kernelEntry pushes := by
  have nonzero : (0 : Nat) ≠ pushes := Nat.ne_of_lt positive
  cases ending with
  | kernelEntry counted => simp [Ending.pushes]
  | framed => simp [Ending.pushes, nonzero]
  | interrupt counted =>
      simp only [Ending.pushes, Build.refuse]
      split
      · simp [nonzero]
      · split <;> simp [nonzero]
  | unknown opcode =>
      simp only [Ending.pushes, Build.refuse]
      split <;> simp [nonzero]
  | exhausted =>
      simp only [Ending.pushes, Build.refuse]
      split <;> simp [nonzero]

theorem pushes_unchecked (unchecked : build.assertions = false)
    (noEntry : ∀ pushes, 0 < pushes → ending ≠ .kernelEntry pushes) :
    ending.pushes build = .ok 0 := by
  cases ending with
  | kernelEntry counted =>
      cases counted with
      | zero => rfl
      | succ counted => exact absurd rfl (noEntry _ (Nat.succ_pos counted))
  | framed => rfl
  | interrupt counted => simp [Ending.pushes, Build.refuse, unchecked]
  | unknown opcode => simp [Ending.pushes, Build.refuse, unchecked]
  | exhausted => simp [Ending.pushes, Build.refuse, unchecked]

theorem pushes_eq_error_iff (checked : build.assertions = true)
    {cause : Abort} :
    ending.pushes build = .error cause ↔
      ∃ assertion, ending.Fails assertion ∧ cause = .failed assertion := by
  constructor
  · intro stopped
    cases ending with
    | kernelEntry counted => cases stopped
    | framed => cases stopped
    | interrupt counted =>
        simp only [Ending.pushes, Build.refuse, checked] at stopped
        split at stopped
        · cases stopped
        next nonzero =>
          cases stopped
          exact ⟨_, .interrupt (Nat.pos_of_ne_zero nonzero), rfl⟩
    | unknown opcode =>
        simp only [Ending.pushes, Build.refuse, checked] at stopped
        cases stopped
        exact ⟨_, .unknown, rfl⟩
    | exhausted =>
        simp only [Ending.pushes, Build.refuse, checked] at stopped
        cases stopped
        exact ⟨_, .exhausted, rfl⟩
  · rintro ⟨assertion, fails, rfl⟩
    cases fails with
    | interrupt positive =>
        simp [Ending.pushes, Build.refuse, checked, Nat.ne_of_gt positive]
    | unknown => simp [Ending.pushes, Build.refuse, checked]
    | exhausted => simp [Ending.pushes, Build.refuse, checked]

end Ending

theorem Ends.pushes_le {bytes : List UInt8} {pushes : Nat}
    (ends : Ends bytes (.kernelEntry pushes)) : pushes < scanWindow := by
  cases ends with
  | inside passes _ within stops =>
      cases stops with
      | kernelEntry => exact Nat.lt_of_le_of_lt passes.pushes_le within

theorem countPushes_of_ends {bytes : List UInt8} {ending : Ending}
    (ends : Ends bytes ending) (build : Build) :
    countPushes build (.ofList bytes) = ending.pushes build := by
  rw [countPushes, scan_of_ends ends]

theorem countPushes_le {bytes : List UInt8} {build : Build} {pushes : Nat}
    (returned : countPushes build (.ofList bytes) = .ok pushes) :
    pushes ≤ 9 := by
  obtain ⟨ending, ends⟩ := exists_ends bytes
  rw [countPushes_of_ends ends] at returned
  rcases Nat.eq_zero_or_pos pushes with rfl | positive
  · exact Nat.zero_le 9
  · rw [(Ending.pushes_eq_ok_iff positive).mp returned] at ends
    exact Nat.le_of_lt_succ ends.pushes_le

/-- The push count is positive for exactly the bytes that enter the kernel after
a prologue with so many pushes, within the window.  It is 0 for all others, or
stops at an assertion, according to how the scan of these bytes ends.  It never
exceeds 9, and depends on the first 11 bytes. -/
theorem countPushes_exact (bytes : List UInt8) :
    (∀ build pushes, 0 < pushes →
      (countPushes build (.ofList bytes) = .ok pushes ↔
        Ends bytes (.kernelEntry pushes))) ∧
    (∀ build : Build, build.assertions = false →
      (∀ pushes, 0 < pushes → ¬ Ends bytes (.kernelEntry pushes)) →
      countPushes build (.ofList bytes) = .ok 0) ∧
    (∀ build pushes, countPushes build (.ofList bytes) = .ok pushes →
      pushes ≤ 9) ∧
    (∀ other : List UInt8, other.take 11 = bytes.take 11 → ∀ build,
      countPushes build (.ofList other) = countPushes build (.ofList bytes)) ∧
    ∀ build : Build, build.assertions = true → ∀ cause,
      (countPushes build (.ofList bytes) = .error cause ↔
        ∃ ending assertion, Ends bytes ending ∧ ending.Fails assertion ∧
          cause = .failed assertion) := by
  obtain ⟨ending, ends⟩ := exists_ends bytes
  have entry {pushes : Nat} :
      ending = .kernelEntry pushes ↔ Ends bytes (.kernelEntry pushes) := by
    constructor
    · rintro rfl
      exact ends
    · exact ends.unique
  have counted (build : Build) {pushes : Nat} (positive : 0 < pushes) :
      countPushes build (.ofList bytes) = .ok pushes ↔
        Ends bytes (.kernelEntry pushes) := by
    rw [countPushes_of_ends ends, Ending.pushes_eq_ok_iff positive, entry]
  refine ⟨fun build pushes => counted build, ?_,
    fun build pushes => countPushes_le, ?_, ?_⟩
  · intro build unchecked noEntry
    rw [countPushes_of_ends ends]
    apply Ending.pushes_unchecked unchecked
    intro pushes positive enters
    exact noEntry pushes positive (entry.mp enters)
  · intro other same build
    rw [countPushes, countPushes, scan_ofList_congr same]
  · intro build checked cause
    rw [countPushes_of_ends ends, Ending.pushes_eq_error_iff checked]
    constructor
    · rintro ⟨assertion, fails, stopped⟩
      exact ⟨ending, assertion, ends, fails, stopped⟩
    · rintro ⟨other, assertion, also, fails, stopped⟩
      rw [ends.unique also]
      exact ⟨assertion, fails, stopped⟩

/-- A push, a move and the entry of the kernel count as one push, whatever comes
after the first 11 bytes.  A push and an unknown byte count as none. -/
theorem countPushes_exact_one_push :
    let bytes : List UInt8 :=
      [0x55, 0x89, 0xCD, 0x0F, 0x05, 0xC3, 0, 0, 0, 0, 0]
    let unknown : List UInt8 := [0x51, 0x90]
    Ends bytes (.kernelEntry 1) ∧
    countPushes .release (.ofList bytes) = .ok 1 ∧
    countPushes .release (.ofList (bytes ++ [0x51, 0x0F])) = .ok 1 ∧
    Ends unknown (.unknown 0x90) ∧
    countPushes .release (.ofList unknown) = .ok 0 ∧
    countPushes .development (.ofList unknown) =
      .error (.failed (.unexpectedInstruction 0x90)) := by
  intro bytes unknown
  have ends : Ends bytes (.kernelEntry 1) :=
    .inside (.push (by decide) (.move (by decide) .nil)) rfl (by decide)
      (.kernelEntry (.inr rfl))
  have stops : Ends unknown (.unknown 0x90) :=
    .inside (.push (by decide) .nil) rfl (by decide)
      (.unknown ⟨by decide, by decide, by decide, by decide⟩)
  obtain ⟨counted, _, _, window, _⟩ := countPushes_exact bytes
  obtain ⟨_, none, _, _, failed⟩ := countPushes_exact unknown
  have one := (counted .release 1 (by decide)).mpr ends
  refine ⟨ends, one, ?_, stops, ?_, ?_⟩
  · exact (window (bytes ++ [0x51, 0x0F]) rfl .release).trans one
  · apply none .release rfl
    intro pushes _ also
    cases stops.unique also
  · exact (failed .development rfl _).mpr ⟨_, _, stops, .unknown, rfl⟩

end FrameChain.Trampoline
