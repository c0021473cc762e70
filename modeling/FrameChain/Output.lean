import FrameChain.Build
/-!
# Output buffers

A walk writes into buffers that its caller owns: one for return addresses
and, where sizes are wanted, one for frame sizes.  Both are written from the
front; what is not written keeps its old content.
-/

namespace FrameChain

def put (buffer : List Word) (index : Nat) (value : Word) :
    Except Abort (List Word) :=
  if index < buffer.length then
    .ok (buffer.set index value)
  else
    .error (.indexOutOfBounds buffer.length index)

/-- Write a list over the front of a buffer. -/
def overwrite (buffer written : List α) : List α :=
  written ++ buffer.drop written.length

theorem overwrite_length {buffer written : List α}
    (fits : written.length ≤ buffer.length) :
    (overwrite buffer written).length = buffer.length := by
  simp [overwrite]
  omega

theorem overwrite_getElem?_of_lt {buffer written : List α} {index : Nat}
    (early : index < written.length) :
    (overwrite buffer written)[index]? = written[index]? := by
  simp [overwrite, List.getElem?_append_left early]

theorem overwrite_getElem?_of_le {buffer written : List α} {index : Nat}
    (late : written.length ≤ index) :
    (overwrite buffer written)[index]? = buffer[index]? := by
  rw [overwrite, List.getElem?_append_right late, List.getElem?_drop]
  congr 1
  omega

theorem put_overwrite {buffer written : List Word} {value : Word}
    (fits : written.length < buffer.length) :
    put (overwrite buffer written) written.length value =
      .ok (overwrite buffer (written ++ [value])) := by
  have length : (overwrite buffer written).length = buffer.length :=
    overwrite_length (Nat.le_of_lt fits)
  rw [put, if_pos (by rw [length]; exact fits)]
  simp only [overwrite, List.length_append, List.length_singleton,
    List.append_assoc, List.singleton_append]
  rw [List.set_append_right _ _ (Nat.le_refl _), Nat.sub_self,
    List.drop_eq_getElem_cons fits, List.set_cons_zero]

theorem put_error {buffer : List Word} {index : Nat} {value : Word}
    {cause : Abort} (failed : put buffer index value = .error cause) :
    cause = .indexOutOfBounds buffer.length index := by
  unfold put at failed
  split at failed
  · cases failed
  · cases failed
    rfl

structure Output where
  addresses : List Word
  sizes : Option (List Word)
deriving DecidableEq, Repr

namespace Output

def addressesOnly (addresses : List Word) : Output := ⟨addresses, none⟩

/-- Addresses and sizes.  A build without frame sizes leaves the second
buffer alone. -/
def withSizes (build : Build) (addresses sizes : List Word) : Output :=
  ⟨addresses, if build.frameSizes then some sizes else none⟩

def capacity (output : Output) : Nat :=
  match output.sizes with
  | none => output.addresses.length
  | some sizes => min output.addresses.length sizes.length

/-- Write one entry, in both buffers where there are two. -/
def record (output : Output) (index : Nat) (address size : Word) :
    Except Abort Output := do
  let addresses ← put output.addresses index address
  match output.sizes with
  | none => pure { output with addresses }
  | some sizes => do
      let sizes ← put sizes index size
      pure { addresses, sizes := some sizes }

def write (output : Output) (addresses sizes : List Word) : Output :=
  { addresses := overwrite output.addresses addresses
    sizes := output.sizes.map (overwrite · sizes) }

theorem capacity_le_addresses (output : Output) :
    output.capacity ≤ output.addresses.length := by
  unfold capacity
  split
  · exact Nat.le_refl _
  · exact Nat.min_le_left _ _

theorem capacity_le_sizes {output : Output} {sizes : List Word}
    (present : output.sizes = some sizes) :
    output.capacity ≤ sizes.length := by
  simp only [capacity, present]
  exact Nat.min_le_right _ _

theorem record_error {output : Output} {index : Nat} {address size : Word}
    {cause : Abort}
    (failed : output.record index address size = .error cause) :
    ∃ length, cause = .indexOutOfBounds length index := by
  rcases bind_eq_error_iff.mp failed with past | ⟨addresses, _, rest⟩
  · exact ⟨_, put_error past⟩
  · split at rest
    · cases rest
    · rcases bind_eq_error_iff.mp rest with past | ⟨_, _, whole⟩
      · exact ⟨_, put_error past⟩
      · cases whole

/-- Entries are written one after the other, as long as there is room. -/
theorem record_write {output : Output} {addresses sizes : List Word}
    {address size : Word} (together : addresses.length = sizes.length)
    (fits : addresses.length < output.capacity) :
    (output.write addresses sizes).record addresses.length address size =
      .ok (output.write (addresses ++ [address]) (sizes ++ [size])) := by
  have addressPut :
      put (overwrite output.addresses addresses) addresses.length address =
        .ok (overwrite output.addresses (addresses ++ [address])) :=
    put_overwrite (Nat.lt_of_lt_of_le fits output.capacity_le_addresses)
  cases present : output.sizes with
  | none =>
      simp [record, write, present, addressPut, bind, Except.bind, pure,
        Except.pure]
  | some old =>
      have sizePut : put (overwrite old sizes) addresses.length size =
          .ok (overwrite old (sizes ++ [size])) := by
        rw [together]
        apply put_overwrite
        rw [← together]
        exact Nat.lt_of_lt_of_le fits (capacity_le_sizes present)
      simp [record, write, present, addressPut, sizePut, bind, Except.bind,
        pure, Except.pure]

end Output

end FrameChain
