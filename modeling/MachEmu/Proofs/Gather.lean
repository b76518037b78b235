import MachEmu.Lib.ErrorState
import MachEmu.Machine.State
import MachEmu.Proofs.PlainRam

/-! The loops that read blocks of memory. The saving side counts addresses in
16 bits and ends exactly on the blocks that stop short of the top of the
address space; the loading side counts in an `int` and always ends. -/

namespace MachEmu.Proofs.Gather
open CountedLoop ErrorState

variable {ω : Type} {memory : IController ω} {w : ω} {content : Word → Byte}

/-- In the world `w` the controller reads `content` and has no other effect. -/
def Reads (memory : IController ω) (w : ω) (content : Word → Byte) : Prop :=
  ∀ addr, memory.read addr w = .ok (content addr) w

/-- The block ends before the last address. -/
def Block.Fits (m : Block) : Prop := m.1.toNat + m.2.toNat < 2 ^ 16

instance (m : Block) : Decidable (Block.Fits m) := by unfold Block.Fits; infer_instance

def AllFit (metadata : List Block) : Prop := ∀ m ∈ metadata, Block.Fits m

instance (metadata : List Block) : Decidable (AllFit metadata) := List.decidableBAll Block.Fits metadata

def blockAddresses (m : Block) : List Word := counters m.2.toNat m.1

def addresses (metadata : List Block) : List Word := metadata.flatMap blockAddresses

@[simp] theorem addresses_nil : addresses [] = [] := rfl

@[simp] theorem addresses_cons (m : Block) (metadata : List Block) :
    addresses (m :: metadata) = blockAddresses m ++ addresses metadata := rfl

@[simp] theorem length_blockAddresses (m : Block) : (blockAddresses m).length = m.2.toNat := by
  simp [blockAddresses]

theorem length_addresses (metadata : List Block) :
    (addresses metadata).length = (metadata.map fun m => m.2.toNat).sum := by
  induction metadata with
  | nil => rfl
  | cons m metadata ih => simp [ih]

theorem foldlM_reads (reads : Reads memory w content) (addrs : List Word) (mem : List Byte) :
    addrs.foldlM (pushBack memory) mem w = .ok (mem ++ addrs.map content) w := by
  induction addrs generalizing mem with
  | nil => simp [pure, EStateM.pure]
  | cons addr addrs ih =>
    have pushed : pushBack memory mem addr w = .ok (mem ++ [content addr]) w := by
      rw [pushBack, bind_ok (reads addr)]
      rfl
    rw [List.foldlM_cons, bind_ok pushed, ih]
    simp

theorem gather_cons_fits (reads : Reads memory w content) (m : Block) (metadata : List Block) (mem : List Byte)
    (fits : Block.Fits m) (fuel : Nat) (enough : m.2.toNat < fuel) :
    gather memory fuel (m :: metadata) mem w =
      gather memory fuel metadata (mem ++ (blockAddresses m).map content) w := by
  rw [gather, run_ends _ _ _ _ fits fuel enough, bind_map_left, bind_ok (foldlM_reads reads _ mem)]
  rfl

/-- A block that is not finished within `fuel` leaves the whole list unfinished. -/
theorem gather_cons_unfinished (reads : Reads memory w content) (m : Block) (metadata : List Block) (mem : List Byte)
    (fuel : Nat) (unfinished : ¬ Block.Fits m ∨ fuel ≤ m.2.toNat) :
    gather memory fuel (m :: metadata) mem w = .ok none w := by
  have busy := unfinished.elim
    (fun wraps => run_wraps (pushBack memory) _ (Nat.le_of_not_lt wraps) fuel m.1 mem)
    (fun short => run_unfinished (pushBack memory) _ fuel m.1 mem (Nat.add_le_add_left short m.1.toNat))
  rw [gather, busy, bind_assoc, bind_ok (foldlM_reads reads _ mem)]
  rfl

theorem gather_ends (reads : Reads memory w content) (metadata : List Block) (mem : List Byte)
    (fits : ∀ m ∈ metadata, Block.Fits m) (fuel : Nat) (enough : 2 ^ 16 ≤ fuel) :
    gather memory fuel metadata mem w = .ok (some (mem ++ (addresses metadata).map content)) w := by
  induction metadata generalizing mem with
  | nil => simp [gather, pure, EStateM.pure]
  | cons m metadata ih =>
    have first : m.2.toNat < fuel := Nat.lt_of_lt_of_le m.2.isLt enough
    rw [gather_cons_fits reads m metadata mem (fits m List.mem_cons_self) fuel first,
      ih _ fun other member => fits other (List.mem_cons_of_mem m member)]
    simp

/-- With a block that reaches the top of the address space no amount of fuel is enough. -/
theorem gather_stuck (reads : Reads memory w content) (metadata : List Block) (mem : List Byte)
    (wraps : ∃ m ∈ metadata, ¬ Block.Fits m) (fuel : Nat) : gather memory fuel metadata mem w = .ok none w := by
  induction metadata generalizing mem with
  | nil => simp at wraps
  | cons m metadata ih =>
    by_cases finishes : Block.Fits m ∧ m.2.toNat < fuel
    · have later : ∃ m ∈ metadata, ¬ Block.Fits m := by
        obtain ⟨other, member, wraps⟩ := wraps
        rcases List.mem_cons.mp member with rfl | member
        · exact absurd finishes.1 wraps
        · exact ⟨other, member, wraps⟩
      rw [gather_cons_fits reads m metadata mem finishes.1 fuel finishes.2, ih _ later]
    · refine gather_cons_unfinished reads m metadata mem fuel ?_
      by_cases fits : Block.Fits m
      · exact .inr (Nat.le_of_not_lt fun enough => finishes ⟨fits, enough⟩)
      · exact .inl fits

theorem gather_halts_iff (reads : Reads memory w content) (metadata : List Block) :
    (∃ fuel, gather memory fuel metadata [] w = .ok (some ((addresses metadata).map content)) w) ↔
      ∀ m ∈ metadata, Block.Fits m := by
  constructor
  · rintro ⟨fuel, ended⟩ m member
    by_contra wraps
    rw [gather_stuck reads metadata [] ⟨m, member, wraps⟩ fuel] at ended
    simp at ended
  · intro fits
    exact ⟨2 ^ 16, by simpa using gather_ends reads metadata [] fits _ le_rfl⟩

section Load

theorem counters_eq_range (m : Block) :
    blockAddresses m = (List.range' m.1.toNat m.2.toNat).map (BitVec.ofNat 16) := by
  rw [List.range'_eq_map_range, List.map_map]
  refine List.map_congr_left fun i _ => ?_
  simp [BitVec.ofNat_add]

theorem forBlock_eq {σ α : Type} (m : Block) (body : α → Word → EStateM Fault σ α) (acc : α) :
    forBlock m body acc = (blockAddresses m).foldlM body acc := by
  rw [forBlock, counters_eq_range, List.foldlM_map]

theorem readRom_reads (reads : Reads memory w content) (metadata : List Block) :
    readRom memory metadata w = .ok ((addresses metadata).map content) w := by
  have collects (rom : List Byte) : (metadata.foldlM (fun rom rm => forBlock rm (pushBack memory) rom) rom) w =
      .ok (rom ++ (addresses metadata).map content) w := by
    induction metadata generalizing rom with
    | nil => simp [pure, EStateM.pure]
    | cons m metadata ih =>
      have first : forBlock m (pushBack memory) rom w = .ok (rom ++ (blockAddresses m).map content) w := by
        rw [forBlock_eq]
        exact foldlM_reads reads _ rom
      rw [List.foldlM_cons, bind_ok first, ih]
      simp
  simpa [readRom] using collects []

end Load

/-- Both gathering loops return every block byte for byte, as the load path reads
them, exactly when no block reaches the top of the address space. -/
theorem gathering_exact_iff (reads : Reads memory w content) (metadata : List Block) :
    ((∃ fuel, Machine.Run.rm memory fuel metadata w = .ok (some ((addresses metadata).map content)) w) ∧
      (∃ fuel, Machine.Save.rm memory fuel metadata w = .ok (some ((addresses metadata).map content)) w) ∧
      readRom memory metadata w = .ok ((addresses metadata).map content) w) ↔
    ∀ m ∈ metadata, m.1.toNat + m.2.toNat < 2 ^ 16 := by
  constructor
  · rintro ⟨ended, -, -⟩
    exact (gather_halts_iff reads metadata).mp ended
  · intro fits
    have ends := (gather_halts_iff reads metadata).mpr fits
    exact ⟨ends, ends, readRom_reads reads metadata⟩

theorem ram_reads {δ : Type} (uuid : Uuid) (ram : PlainRam.Ram δ) : Reads (PlainRam.ramController uuid) ram ram.mem :=
  fun _ => rfl

theorem gathering_exact_two_blocks :
    ((∃ fuel, Machine.Run.rm (PlainRam.ramController default) fuel [(0xFF00, 0xFF), (0, 0)] ⟨fun a => a.setWidth 8, ()⟩ =
        .ok (some ((addresses [(0xFF00, 0xFF), (0, 0)]).map fun a => a.setWidth 8)) ⟨fun a => a.setWidth 8, ()⟩) ∧
      (∃ fuel, Machine.Save.rm (PlainRam.ramController default) fuel [(0xFF00, 0xFF), (0, 0)] ⟨fun a => a.setWidth 8, ()⟩ =
        .ok (some ((addresses [(0xFF00, 0xFF), (0, 0)]).map fun a => a.setWidth 8)) ⟨fun a => a.setWidth 8, ()⟩) ∧
      readRom (PlainRam.ramController default) [(0xFF00, 0xFF), (0, 0)] ⟨fun a => a.setWidth 8, ()⟩ =
        .ok ((addresses [(0xFF00, 0xFF), (0, 0)]).map fun a => a.setWidth 8) ⟨fun a => a.setWidth 8, ()⟩) ↔
    ∀ m ∈ ([(0xFF00, 0xFF), (0, 0)] : List Block), m.1.toNat + m.2.toNat < 2 ^ 16 :=
  gathering_exact_iff (ram_reads default ⟨fun a => a.setWidth 8, ()⟩) _

/-- The last page of memory: neither gathering loop ever returns, whatever it reads. -/
theorem gathering_last_page :
    ¬ ∃ fuel bytes after,
      Machine.Run.rm (PlainRam.ramController default) fuel [(0xFF00, 0x100)] ⟨fun _ => 0, ()⟩ = .ok (some bytes) after ∨
      Machine.Save.rm (PlainRam.ramController default) fuel [(0xFF00, 0x100)] ⟨fun _ => 0, ()⟩ =
        .ok (some bytes) (after : PlainRam.Ram Unit) := by
  rintro ⟨fuel, bytes, after, ended⟩
  have stuck := gather_stuck (ram_reads default (⟨fun _ => 0, ()⟩ : PlainRam.Ram Unit)) [(0xFF00, 0x100)] []
    ⟨_, List.mem_singleton_self _, by decide⟩ fuel
  rcases ended with ended | ended <;> exact absurd (stuck.symm.trans ended) (by simp)

end MachEmu.Proofs.Gather
