import MachEmu.Machine.Save
import MachEmu.Proofs.SavedLayouts

/-! The state of an idle machine against the one that is captured while it runs, and
what becomes of it when it is loaded. -/

namespace MachEmu.Proofs.IdleSave
open ErrorState Machine Gather StateChecks LoadState SaveLoad SavedLayouts

variable {ω : Type} {lib : Libraries} {build : Build} {opt : Opt} {memory : IController ω} {w : ω} {content : Word → Byte}
  {cpu : Intel8080} {romMetadata ramMetadata : List Block}

section Terminator

theorem printable_int (n : Int) : Printable (toString n) := by
  cases n with
  | ofNat n => exact printable_digits n
  | negSucc n =>
    have sign : Printable "-" := by
      rw [Printable]
      decide
    exact printable_append sign (printable_digits (n + 1))

theorem printable_pieces (pieces : Pieces) (cpu : Intel8080) (ram : List Byte) : Printable (pieces.printed cpu ram) := by
  unfold Pieces.printed Machine.print
  repeat' with_reducible apply printable_append
  all_goals first
    | with_reducible exact printable_cpu _ _
    | with_reducible exact printable_cStr _
    | with_reducible exact printable_int _
    | (rw [Printable]; decide)

theorem printable_written {rom ram : List Byte} {text : String}
    (written : writeState lib build opt memory cpu rom ram = .ok text) : Printable text := by
  by_cases empty : text = ""
  · rw [empty, Printable]
    decide
  · obtain ⟨pieces, -, rfl⟩ := writeState_printed written empty
    exact printable_pieces pieces cpu ram

end Terminator

section Saves

theorem saveRm_run (reads : Reads memory w content) (metadata : List Block) : Save.rm memory loopFuel metadata w =
    .ok (if AllFit metadata then some ((addresses metadata).map content) else none) w :=
  rm_run reads metadata

theorem save_run (reads : Reads memory w content) (romLayout : opt.rom = .ok romMetadata)
    (ramLayout : opt.ram = .ok ramMetadata) : save lib build opt memory cpu w =
      if AllFit (ramMetadata ++ romMetadata) then
        match writeState lib build opt memory cpu ((addresses romMetadata).map content)
        ((addresses ramMetadata).map content) with
        | .ok text => .ok (some (text.push (Char.ofNat 0))) w
        | .error fault => .error fault w
      else .ok none w := by
  unfold save
  rw [romLayout, ramLayout, bind_ok (ofExcept_ok _ _), bind_ok (saveRm_run reads romMetadata)]
  by_cases romFits : AllFit romMetadata
  · rw [if_pos romFits]
    dsimp only
    rw [bind_ok (ofExcept_ok _ _), bind_ok (saveRm_run reads ramMetadata)]
    by_cases ramFits : AllFit ramMetadata
    · have fits : AllFit (ramMetadata ++ romMetadata) :=
        fun m member => (List.mem_append.mp member).elim (ramFits m) (romFits m)
      rw [if_pos ramFits, if_pos fits]
      dsimp only
      cases writeState lib build opt memory cpu ((addresses romMetadata).map content)
        ((addresses ramMetadata).map content) with
      | ok text => rfl
      | error fault => exact bind_error rfl
    · rw [if_neg ramFits, if_neg fun fits => ramFits fun m member => fits m (List.mem_append_left _ member)]
      rfl
  · rw [if_neg romFits, if_neg fun fits => romFits fun m member => fits m (List.mem_append_right _ member)]
    rfl

theorem load_unchecked {ν : Type} {other : IController ν} {loadOpt : Opt} {str : String} {s : System ν}
    (refused : ∃ what, checkState lib build loadOpt other str s.world = .error (.exception what) s.world) :
    loadMachineState lib build loadOpt other str s = .ok () s := by
  obtain ⟨what, refused⟩ := refused
  unfold loadMachineState
  split
  next => rfl
  next => exact catch_exception (bind_error (onWorld_error refused)) ⟨what, rfl⟩

/-- A controller without an identity can be saved, but nothing is ever loaded into it, and what was saved from it is
loaded into no other. -/
theorem load_unidentified {ν : Type} {rom ram : List Byte} {text : String}
    (rereads : Rereads lib build opt memory.uuid cpu rom ram)
    (unidentified : memory.uuid = Vector.replicate 16 0) (written : writeState lib build opt memory cpu rom ram = .ok text)
    (other : IController ν) (loadOpt : Opt) (s : System ν) :
      loadMachineState lib build loadOpt other text s = .ok () s := by
  by_cases empty : text = ""
  · rw [empty, loadMachineState, if_pos rfl]
    rfl
  obtain ⟨pieces, of, rfl⟩ := writeState_printed written empty
  refine load_unchecked ?_
  unfold checkState
  by_cases identified : other.uuid = Vector.replicate 16 0
  · rw [if_pos identified]
    exact ⟨_, rfl⟩
  · have read : Machine.digest lib build (pieces.document cpu ram) "uuid" = .ok memory.uuid.toList := by
      have undone := undoes_sixteen rereads.memUuid (Vector.length_toList ..) pieces.memUuid of.memUuid
      rwa [Vector.length_toList] at undone
    have apart : memory.uuid.toList ≠ other.uuid.toList := by
      rw [unidentified]
      exact fun same => identified (Vector.toList_inj.mp same).symm
    rw [if_neg identified]
    dsimp only
    rw [rereads.state pieces of, bind_ok (ofExcept_ok _ _), read, bind_ok (ofExcept_ok _ _), if_pos apart]
    exact ⟨_, rfl⟩

end Saves

section Machines
variable {m after : Machine ω} {state : String}

theorem onMachine_ok {α : Type} {call : EStateM Fault ω α} {value : α} :
    onMachine call m = .ok value after ↔ ∃ world, call m.sys.world = .ok value world ∧
      after = { m with sys := { m.sys with world } } := by
  unfold onMachine
  cases call m.sys.world with
  | ok other world =>
    constructor
    · rintro ⟨⟩
      exact ⟨world, rfl, rfl⟩
    · rintro ⟨_, ⟨⟩, rfl⟩
      rfl
  | error fault world => simp

/-- Only an idle machine with a memory controller is saved. -/
theorem saveMachine_ok_iff (installed : m.memoryController = some memory) {text : Option String} :
    saveMachine lib build m = .ok text after ↔ m.running = false ∧
      ∃ world, save lib build m.opt memory m.sys.cpu m.sys.world = .ok text world ∧
      after = { m with sys := { m.sys with world } } := by
  unfold saveMachine
  rw [bind_ok (get_run m), guard_ok_iff]
  dsimp only
  rw [bind_ok (get_run m), installed]
  dsimp only
  rw [bind_ok (get_run m), bind_ok (get_run m), onMachine_ok, Bool.not_eq_true, ← installed]

/-- The state that is asked for is made of the registers and of the memory, which are left as they are. -/
theorem saveMachine_ok (reads : Reads memory m.sys.world content) (installed : m.memoryController = some memory)
    (romLayout : m.opt.rom = .ok romMetadata) (ramLayout : m.opt.ram = .ok ramMetadata)
    (saved : saveMachine lib build m = .ok (some state) after) : after = m ∧ AllFit (ramMetadata ++ romMetadata) ∧ ∃ text,
      writeState lib build m.opt memory m.sys.cpu ((addresses romMetadata).map content)
      ((addresses ramMetadata).map content) =
        .ok text ∧ state = text.push (Char.ofNat 0) := by
  obtain ⟨-, world, ran, rfl⟩ := (saveMachine_ok_iff installed).mp saved
  rw [save_run reads romLayout ramLayout] at ran
  split at ran
  next fits =>
    split at ran
    next text written =>
      cases ran
      exact ⟨rfl, fits, text, written, rfl⟩
    next => cases ran
  next => cases ran

/-- The state of an idle machine is the one that would be captured while it runs. Loaded
into a machine with the same layout, controller and rom, it brings back the registers and
the ram and changes nothing else, where it spells the ram. -/
theorem saveMachine_loads {read : ω → Word → Byte} {write : Word → Byte → ω → ω} (steady : Steady memory read write)
    (stores : Stores read write) (installed : m.memoryController = some memory)
    (romLayout : m.opt.rom = .ok romMetadata) (ramLayout : m.opt.ram = .ok ramMetadata)
    (rereads : Rereads lib build m.opt memory.uuid m.sys.cpu ((addresses romMetadata).map (read m.sys.world))
      ((addresses ramMetadata).map (read m.sys.world)))
    (saved : saveMachine lib build m = .ok (some state) after) :
    after = m ∧
    (memory.uuid = Vector.replicate 16 0 → ∀ {ν : Type} (other : IController ν) (loadOpt : Opt) (s : System ν),
      loadMachineState lib build loadOpt other (cStr state) s = .ok () s) ∧
    (memory.uuid ≠ Vector.replicate 16 0 →
      saveState lib build m.opt memory m.sys.cpu m.sys.world = .ok (some (cStr state)) m.sys.world ∧
      ∀ (loadOpt : Opt) (s : System ω), loadOpt.rom = .ok romMetadata → loadOpt.ram = .ok ramMetadata →
        (∀ addr ∈ addresses romMetadata, read s.world addr = read m.sys.world addr) →
        (ramMetadata.map fun rm => rm.2.toNat).sum < 2 ^ 31 →
        Spells lib build m.opt ((addresses ramMetadata).map (read m.sys.world)) ramMetadata (cStr state)
          ((addresses ramMetadata).map (read m.sys.world)) →
        ∃ loaded, loadMachineState lib build loadOpt memory (cStr state) s = .ok () loaded ∧
          loaded.cpu = { m.sys.cpu with iff := s.cpu.iff, opcode := s.cpu.opcode } ∧ loaded.bus = s.bus ∧
          ∀ addr, read loaded.world addr = if addr ∈ addresses ramMetadata then read m.sys.world addr else read
            s.world addr) := by
  obtain ⟨same, fits, text, written, rfl⟩ := saveMachine_ok (steady.reads _) installed romLayout ramLayout saved
  rw [cStr_push (printable_written written)]
  refine ⟨same, fun unidentified => ?_, fun identified => ⟨?_, ?_⟩⟩
  · intro ν other loadOpt s
    exact load_unidentified rereads unidentified written other loadOpt s
  · rw [saveState_run (steady.reads _) romLayout ramLayout, if_neg identified, if_pos fits, written]
  · intro loadOpt s sameRomLayout sameRamLayout sameRom bounded spells
    have printed : Printed lib build m.opt loadOpt memory read m.sys.cpu ((addresses romMetadata).map (read m.sys.world))
        ((addresses ramMetadata).map (read m.sys.world)) romMetadata ramMetadata text s :=
      ⟨rereads, identified, written, sameRomLayout, sameRamLayout, List.map_congr_left sameRom⟩
    refine ⟨_, printed.load_spells steady spells bounded, rfl, rfl, fun addr => ?_⟩
    rw [writeBack_reads stores, Memory.zip_content]
    exact Memory.writeAll_restore (read s.world) (read m.sys.world) (addresses ramMetadata) addr

end Machines

section Zeros

def zeroMachine : Machine (PlainRam.Ram Unit) where
  sys := { world := ⟨fun _ => 0, ()⟩ }
  clock := CpuClock.make 2000000 1
  opt := optWith [zeroBlock]
  memoryController := some (PlainRam.ramController sampleUuid)

theorem zero_layouts : zeroMachine.opt.rom = .ok [(0, 0)] ∧ zeroMachine.opt.ram = .ok [(0x2000, 768)] := ⟨by rfl, by rfl⟩

theorem zeroMachine_saved : saveMachine (zeroLibraries 256) ⟨true, false⟩ zeroMachine =
    .ok (some ((zeroState 256).push (Char.ofNat 0))) zeroMachine := by
  obtain ⟨romLayout, ramLayout⟩ := zero_layouts
  have reads : Reads (PlainRam.ramController sampleUuid) zeroMachine.sys.world fun _ => 0 := (ram_steady sampleUuid).reads _
  have fits : AllFit ([(0x2000, 768)] ++ [(0, 0)]) := zeroBlock_fits
  have saved : saveState (zeroLibraries 256) ⟨true, false⟩ zeroMachine.opt
      (PlainRam.ramController sampleUuid) zeroMachine.sys.cpu
      zeroMachine.sys.world = .ok (some (zeroState 256)) zeroMachine.sys.world := zeros_saved
  have written := (saveState_ok reads romLayout ramLayout saved).2.2
  refine (saveMachine_ok_iff rfl).mpr ⟨rfl, zeroMachine.sys.world, ?_, rfl⟩
  rw [save_run reads romLayout ramLayout, if_pos fits, written]

/-- An idle machine is saved, and its state is loaded into one that has run. -/
theorem zeroMachine_loads : ∃ loaded, loadMachineState (zeroLibraries 256) ⟨true, false⟩ (optWith [zeroBlock])
    (PlainRam.ramController (δ := Unit) sampleUuid) (cStr ((zeroState 256).push (Char.ofNat 0)))
      ⟨{ a := 7, pc := 9, iff := true }, {}, fun _ => 0xEE, ()⟩ = .ok () loaded ∧ loaded.cpu.a = 0 ∧
        ∀ addr, loaded.world.mem addr = if addr ∈ addresses [(0x2000, 768)] then 0 else 0xEE := by
  obtain ⟨romLayout, ramLayout⟩ := zero_layouts
  have zeros : (addresses [(0x2000, 768)]).map (fun _ => (0 : Byte)) = zeroRam 256 := read_zeros _ (by decide)
  have rereads : Rereads (zeroLibraries 256) ⟨true, false⟩ zeroMachine.opt sampleUuid zeroMachine.sys.cpu
      ((addresses [(0, 0)]).map zeroMachine.sys.world.mem) ((addresses [(0x2000, 768)]).map zeroMachine.sys.world.mem) := by
    have made := zero_rereads [zeroBlock]
    rw [← zeros] at made
    exact made
  have spells : Spells (zeroLibraries 256) ⟨true, false⟩ zeroMachine.opt
      ((addresses [(0x2000, 768)]).map zeroMachine.sys.world.mem)
      [(0x2000, 768)] (cStr ((zeroState 256).push (Char.ofNat 0)))
        ((addresses [(0x2000, 768)]).map zeroMachine.sys.world.mem) := by
    have printable : cStr ((zeroState 256).push (Char.ofNat 0)) = zeroState 256 := by
      rw [← zeroPieces_printed (by decide)]
      exact cStr_push (printable_pieces _ _ _)
    have made := zero_spells
    rw [← zeros, ← printable] at made
    exact made
  obtain ⟨-, -, loads⟩ :=
    saveMachine_loads (ram_steady sampleUuid) ram_stores rfl romLayout ramLayout rereads zeroMachine_saved
  obtain ⟨loaded, ran, cpu, -, mem⟩ :=
    (loads (by decide)).2 (optWith [zeroBlock]) ⟨{ a := 7, pc := 9, iff := true }, {}, fun _ => 0xEE, ()⟩
    romLayout ramLayout (by intro addr member; cases member) (by decide) spells
  exact ⟨loaded, ran, by rw [cpu]; rfl, mem⟩

end Zeros
end MachEmu.Proofs.IdleSave
