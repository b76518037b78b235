import Mathlib.Logic.Function.Basic

/-! Memories as functions from addresses to values, and what a sequence of
writes leaves behind. -/

namespace Memory

section Restores

variable {α β : Type} {content : α → β} {read written : List α} {values : List β}

/-- The pairs written are those saved, and every value goes to the place it was read from. -/
structure Restores (saved writes : List (α × β)) : Prop where
  pairs : ∀ pair, pair ∈ writes ↔ pair ∈ saved
  places : writes.map Prod.fst <+: saved.map Prod.fst

theorem zip_content : read.zip (read.map content) = read.map fun address => (address, content address) := by
  calc read.zip (read.map content) = (read.map id).zip (read.map content) := by rw [List.map_id]
    _ = read.map fun address => (address, content address) := List.zip_map'

theorem map_fst_content : (read.map fun address => (address, content address)).map Prod.fst = read := by
  rw [List.map_map]
  exact List.map_id read

/-- Writing some values at some addresses restores what was read just when these are the first
of the values and of the addresses, and no address that was read is left out. -/
theorem restores_iff (length : values.length = written.length) :
    Restores (read.map fun address => (address, content address)) (written.zip values) ↔
      values <+: read.map content ∧ written = read.take values.length ∧ ∀ address ∈ read, address ∈ written := by
  have places : (written.zip values).map Prod.fst = written := List.map_fst_zip (Nat.le_of_eq length.symm)
  have all : (written.zip values).map Prod.snd = values := List.map_snd_zip (Nat.le_of_eq length)
  constructor
  · intro restores
    have first : written <+: read := by
      have first := restores.places
      rwa [places, map_fst_content] at first
    have same : ∀ pair ∈ written.zip values, pair.2 = content pair.1 := by
      intro pair member
      obtain ⟨address, -, rfl⟩ := List.mem_map.mp ((restores.pairs pair).mp member)
      rfl
    have mapped : values = written.map content := by
      calc values = (written.zip values).map Prod.snd := all.symm
        _ = (written.zip values).map fun pair => content pair.1 := List.map_congr_left same
        _ = written.map content := by rw [← Function.comp_def, ← List.map_map, places]
    refine ⟨?_, ?_, fun address member => ?_⟩
    · rw [mapped]
      exact first.map content
    · rw [length]
      exact List.prefix_iff_eq_take.mp first
    · have kept := (restores.pairs (address, content address)).mpr (List.mem_map.mpr ⟨address, member, rfl⟩)
      rw [← places]
      exact List.mem_map.mpr ⟨_, kept, rfl⟩
  · intro ⟨begins, taken, covered⟩
    have mapped : values = written.map content := by
      rw [taken, List.map_take]
      exact List.prefix_iff_eq_take.mp begins
    have pairs : written.zip values = written.map fun address => (address, content address) := by
      rw [mapped]
      exact zip_content
    refine ⟨fun pair => ?_, ?_⟩
    · rw [pairs]
      constructor
      · intro member
        obtain ⟨address, here, rfl⟩ := List.mem_map.mp member
        rw [taken] at here
        exact List.mem_map.mpr ⟨address, List.mem_of_mem_take here, rfl⟩
      · intro member
        obtain ⟨address, here, rfl⟩ := List.mem_map.mp member
        exact List.mem_map.mpr ⟨address, covered address here, rfl⟩
    · rw [places, map_fst_content, taken]
      exact List.take_prefix _ _

end Restores

variable {α : Type} {β : Type} [DecidableEq α]

def writeAll (memory : α → β) (writes : List (α × β)) : α → β :=
  writes.foldl (fun current write => Function.update current write.1 write.2) memory

@[simp] theorem writeAll_cons (memory : α → β) (write : α × β) (rest : List (α × β)) :
    writeAll memory (write :: rest) = writeAll (Function.update memory write.1 write.2) rest := rfl

theorem writeAll_apply (memory : α → β) (writes : List (α × β)) (address : α) :
    writeAll memory writes address =
      ((writes.reverse.find? (fun write => write.1 = address)).map Prod.snd).getD (memory address) := by
  induction writes generalizing memory with
  | nil => rfl
  | cons write rest ih =>
    rw [writeAll_cons, ih, List.reverse_cons, List.find?_append]
    cases found : rest.reverse.find? (fun write => write.1 = address) with
    | some last => simp
    | none =>
      by_cases same : write.1 = address
      · subst same
        simp
      · simp [same, Function.update_of_ne (Ne.symm same)]

theorem writeAll_outside (memory : α → β) (writes : List (α × β)) (address : α)
    (outside : address ∉ writes.map Prod.fst) : writeAll memory writes address = memory address := by
  have absent : writes.reverse.find? (fun write => write.1 = address) = none := by
    rw [List.find?_eq_none]
    intro write member
    simp only [decide_eq_true_eq]
    intro same
    exact outside (List.mem_map.mpr ⟨write, List.mem_reverse.mp member, same⟩)
  rw [writeAll_apply, absent]
  rfl

/-- What was there before matters only where nothing is written. -/
theorem writeAll_congr {memory other : α → β} {writes : List (α × β)} {address : α}
    (agree : address ∉ writes.map Prod.fst → memory address = other address) :
    writeAll memory writes address = writeAll other writes address := by
  by_cases written : address ∈ writes.map Prod.fst
  · obtain ⟨write, member, rfl⟩ := List.mem_map.mp written
    rw [writeAll_apply, writeAll_apply]
    cases found : writes.reverse.find? (fun last => last.1 = write.1) with
    | none =>
      have absent := List.find?_eq_none.mp found write (List.mem_reverse.mpr member)
      simp at absent
    | some last => rfl
  · rw [writeAll_outside memory writes address written, writeAll_outside other writes address written]
    exact agree written

/-- Writing back what another memory held restores those addresses, whatever
their order and however often an address occurs. -/
theorem writeAll_restore (memory saved : α → β) (addresses : List α) (address : α) :
    writeAll memory (addresses.map fun a => (a, saved a)) address =
      if address ∈ addresses then saved address else memory address := by
  split
  next inside =>
    rw [writeAll_apply]
    cases found : (addresses.map fun a => (a, saved a)).reverse.find? (fun write => write.1 = address) with
    | none =>
      have absent := List.find?_eq_none.mp found (address, saved address)
        (List.mem_reverse.mpr (List.mem_map.mpr ⟨address, inside, rfl⟩))
      simp at absent
    | some last =>
      have member := List.mem_of_find?_eq_some found
      have selected := List.find?_some found
      obtain ⟨a, _, rfl⟩ := List.mem_map.mp (List.mem_reverse.mp member)
      simp only [decide_eq_true_eq] at selected
      simp [selected]
  next outside =>
    apply writeAll_outside
    simpa [Function.comp_def] using outside

end Memory
