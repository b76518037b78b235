import MachEmu.Proofs.Interrupts
import MachEmu.Proofs.SaveLoad

/-! The form of the status byte over every sequence of calls on a cpu. Each
helper keeps it, whatever the wiring; only `POP PSW` breaks it for a while. -/

namespace MachEmu.Proofs.StatusInvariant
open Intel8080 StatusByte BusTransactions BusDiscipline Instructions InstructionSet Interrupts

variable {ω α β : Type}

/-- A register that is not the status byte. -/
class Plain (r : Register) : Prop where
  apart : r ≠ .status

instance : Plain .a := ⟨nofun⟩
instance : Plain .b := ⟨nofun⟩
instance : Plain .c := ⟨nofun⟩
instance : Plain .d := ⟨nofun⟩
instance : Plain .e := ⟨nofun⟩
instance : Plain .h := ⟨nofun⟩
instance : Plain .l := ⟨nofun⟩

instance (r : Isa8080.Operand) : Plain (register r) := by
  cases r <;> exact ⟨nofun⟩

/-- A change of the registers that keeps the form of the status byte. -/
class Formed (f : Intel8080 → Intel8080) : Prop where
  formed : ∀ {self}, StatusForm self.status → StatusForm (f self).status

section Changes

instance formed_set (r : Register) [plain : Plain r] (value : Byte) : Formed (set r value) := by
  constructor
  intro self form
  cases r with
  | status => exact absurd rfl plain.apart
  | _ => exact form

instance formed_assign (flag : Condition) (value : Intel8080 → Bool) : Formed fun self =>
    assign flag (value self) self := by
  constructor
  intro self form
  exact (form_assign self.status flag (value self)).mpr form

instance formed_flag (flag : Condition) (value : Bool) : Formed (assign flag value) :=
  formed_assign flag fun _ => value

instance formed_update (a b c d e h l : Intel8080 → Byte) (pc sp : Intel8080 → Word) (iff : Intel8080 → Bool)
    (opcode : Intel8080 → Byte) :
    Formed fun self => ⟨a self, b self, c self, d self, e self, h self, l self, pc self, sp self, self.status, iff self,
      opcode self⟩ := by
  constructor
  intro self form
  exact form

end Changes

/-- A computation that returns keeps the form. -/
class Forms (w : Wiring ω) (x : CpuM ω α) : Prop where
  forms : ∀ {s value after}, StatusForm s.cpu.status → x w s = .ok value after → StatusForm after.cpu.status

variable (w : Wiring ω)

section Combinators

instance forms_bind (x : CpuM ω α) (f : α → CpuM ω β) [first : Forms w x] [rest : ∀ value, Forms w (f value)] :
    Forms w (x >>= f) := by
  constructor
  intro s result after form ran
  obtain ⟨value, mid, begun, finished⟩ := ErrorState.bind_ok_iff.mp ran
  exact (rest value).forms (first.forms form begun) finished

instance forms_ite (c : Prop) [Decidable c] (x y : CpuM ω α) [first : Forms w x] [second : Forms w y] :
    Forms w (if c then x else y) := by
  split
  · exact first
  · exact second

instance forms_pure (value : α) : Forms w (pure value) := by
  constructor
  intro s result after form ran
  cases ran
  exact form

instance forms_cpu : Forms w cpu := by
  constructor
  intro s result after form ran
  cases ran
  exact form

instance forms_modifyCpu (f : Intel8080 → Intel8080) [change : Formed f] : Forms w (modifyCpu f) := by
  constructor
  intro s result after form ran
  cases ran
  exact change.formed form

instance forms_onBus (f : SystemBus → α × SystemBus) : Forms w (onBus f) := by
  constructor
  intro s result after form ran
  cases ran
  exact form

theorem process_cpu {s after : System ω} (ran : process w s = .ok () after) : after.cpu = s.cpu := by
  unfold process at ran
  split at ran
  next =>
    cases ran
    rfl
  next => cases ran

instance forms_process : Forms w process := by
  constructor
  intro s result after form ran
  rw [process_cpu w ran]
  exact form

instance forms_assert0 : Forms w assert0 := by
  constructor
  intro s result after form ran
  have wiring : (read : CpuM ω (Wiring ω)) w s = .ok w s := rfl
  unfold assert0 at ran
  rw [bind_run, wiring] at ran
  dsimp only at ran
  rw [ite_run] at ran
  split at ran
  next => cases ran
  next =>
    cases ran
    exact form

end Combinators

section Helpers
set_option synthInstance.maxSize 1024

instance : Forms w receive := by simp only [receive]; infer_instance
instance (lane addr) : Forms w (readFromAddress lane addr) := by simp only [readFromAddress]; infer_instance
instance (lane addr value) : Forms w (writeToAddress lane addr value) := by simp only [writeToAddress]; infer_instance
instance : Forms w incPc := by simp only [incPc]; infer_instance
instance : Forms w nextPc := by simp only [nextPc]; infer_instance
instance : Forms w postIncSp := by simp only [postIncSp]; infer_instance
instance : Forms w decSp := by simp only [decSp]; infer_instance
instance (r value) [Plain r] : Forms w (setReg r value) := by simp only [setReg]; infer_instance
instance (lhs rhs carry setCarryFlag) : Forms w (add lhs rhs carry setCarryFlag) := by simp only [add]; infer_instance
instance (r withCarry) : Forms w (sub r withCarry) := by simp only [sub]; infer_instance
instance : Forms w logicFlags := by simp only [logicFlags]; infer_instance
instance (r) : Forms w (ana r) := by simp only [ana]; infer_instance
instance (r) : Forms w (xra r) := by simp only [xra]; infer_instance
instance (r) : Forms w (ora r) := by simp only [ora]; infer_instance
instance : Forms w operandAddress := by simp only [operandAddress]; infer_instance
instance (addr) : Forms w (pushPcAndJump addr) := by simp only [pushPcAndJump]; infer_instance
instance (restart) : Forms w (rstInterrupt restart) := by simp only [rstInterrupt]; infer_instance
instance : Forms w fetch := by simp only [fetch]; infer_instance
instance : Forms w notImplemented := by simp only [notImplemented]; infer_instance

/-- Whatever a computation leaves behind, the mask after it restores the form. -/
theorem forms_masked (x : CpuM ω Byte) :
    Forms w (x >>= fun timePeriods => modifyCpu (fun self => { self with status := self.status &&& 0xD7 ||| 0x02 }) >>=
      fun _ => pure timePeriods) := by
  constructor
  intro s result after form ran
  obtain ⟨timePeriods, mid, popped, ran⟩ := ErrorState.bind_ok_iff.mp ran
  cases ran
  exact masked_form mid.cpu.status

instance perform_forms (self : Intel8080) (instr : Isa8080.Instr) : Forms w (perform self instr) := by
  unfold perform
  split
  all_goals first
    | exact forms_masked w _
    | (simp only [nop, lxi, lxiSp, dad, dadSp, stax, ldax, shld, lhld, sta, lda, inx, inxSp, dcx, dcxSp, inr, inrM, dcr,
        dcrM, mvi, mviM, rlc, rrc, ral, rar, daa, cma, stc, cmc, mov, movToM, movFromM, hlt, addR, addM, adcR, adcM,
        subR, subM, sbbR, sbbM, anaR, anaM, xraR, xraM, oraR, oraM, cmpR, cmpM, retOnFlag, jmpOnFlag, callOnFlag, push,
        pop, rst, out, in_, xthl, pchl, sphl, xchg, di, ei]
       infer_instance)

instance switch_forms (self : Intel8080) : Forms w (switch self) := by
  rw [switch_eq]
  split
  · infer_instance
  · infer_instance

instance dispatch_forms (isr : Option Byte) : Forms w (dispatch isr) := by
  cases isr with
  | none => simp only [dispatch]; infer_instance
  | some isr => simp only [dispatch]; infer_instance

end Helpers

/-- Clearing the flip-flop and taking the number off the buses leaves the status byte alone. -/
theorem execute_forms {s after : System ω} {ticks : Byte} (form : StatusForm s.cpu.status)
    (ran : execute w s = .ok ticks after) : StatusForm after.cpu.status := by
  rw [execute_run] at ran
  split at ran
  next =>
    split at ran
    next =>
      refine (dispatch_forms w _).forms ?_ ran
      exact form
    next =>
      refine (dispatch_forms w none).forms ?_ ran
      exact form
  next =>
    refine (dispatch_forms w none).forms ?_ ran
    exact form

section Histories
variable (lib : Libraries) (build : Build)

/-- The calls that change a cpu. A load is given the text of a save of another cpu. -/
inductive Call where
  | reset (pc : Word)
  | execute
  | load (saved : Intel8080)

/-- What a call makes of the cpu. An execution may meet any memory, ports, buses and
interrupts, and a load that throws changes nothing. -/
inductive Operates : Call → Intel8080 → Intel8080 → Prop
  | reset (pc : Word) (self : Intel8080) : Operates (.reset pc) self (self.reset pc)
  | execute {ω : Type} {w : Wiring ω} {s after : System ω} {ticks : Byte} (ran : execute w s = .ok ticks after) :
      Operates .execute s.cpu after.cpu
  | load {saved self after : Intel8080} {text : String} (form : StatusForm saved.status)
      (written : saved.save lib build = .ok text) (loaded : self.load lib build text = .ok after) :
      Operates (.load saved) self after
  | refused {saved self : Intel8080} {text : String} {fault : Fault} (written : saved.save lib build = .ok text)
      (refused : self.load lib build text = .error fault) : Operates (.load saved) self self

/-- A sequence of calls on a new cpu. -/
inductive History : List Call → Intel8080 → Prop
  | constructed : History [] {}
  | call {calls : List Call} {call : Call} {self after : Intel8080} (history : History calls self)
      (operates : Operates lib build call self after) : History (calls ++ [call]) after

def Readable (saved : Intel8080) : Prop :=
  ∀ uuid, Utils.binToTxt lib build "base64" "none" Intel8080.uuid = .ok uuid →
    parse lib ((print (cStr uuid) saved).push (Char.ofNat 0)) = .ok (SaveLoad.cpuDocument (cStr uuid) saved)

variable {lib : Libraries} {build : Build} {calls : List Call} {call : Call} {saved self cpu after : Intel8080}
  {text : String}

theorem load_status (readable : Readable lib build saved) (written : saved.save lib build = .ok text)
    (loaded : self.load lib build text = .ok after) : after.status = saved.status := by
  obtain ⟨uuid, encoded, printed⟩ := ErrorState.except_bind_ok_iff.mp written
  obtain rfl := ErrorState.except_pure_ok_iff.mp printed
  obtain ⟨json, parsed, -, taken, -, -⟩ := StateChecks.load_ok_iff.mp loaded
  obtain rfl := Except.ok.inj (parsed.symm.trans (readable uuid encoded))
  have carried := (SaveLoad.cpuDocument_carries (cStr uuid) saved).status
  exact Except.ok.inj (taken.status.symm.trans carried)

theorem operates_form (readable : ∀ saved, call = .load saved → Readable lib build saved)
    (operates : Operates lib build call self after) (form : StatusForm self.status) : StatusForm after.status := by
  cases operates with
  | reset pc => exact (by decide : StatusForm 0b00000010)
  | execute ran => exact execute_forms _ form ran
  | load saved written loaded =>
    rw [load_status (readable _ rfl) written loaded]
    exact saved
  | refused written refused => exact form

theorem history_form (readable : ∀ saved, .load saved ∈ calls → Readable lib build saved)
    (history : History lib build calls cpu) : StatusForm cpu.status := by
  induction history with
  | constructed => exact (by decide : StatusForm 0b00000010)
  | call history operates ih =>
    have form := ih fun saved member => readable saved (List.mem_append_left _ member)
    refine operates_form ?_ operates form
    rintro saved rfl
    exact readable saved (List.mem_append_right _ (List.mem_singleton_self _))

end Histories

section Reports
variable {build : Build} {memory io : IController ω} {self : Intel8080} {addr : Word} {data : Byte}
  {world fetched popped : ω}
  {ticks byte : Byte} {after : System ω}

theorem push_ok {hi low : Register}
    (ran : push hi low (wiring build memory io) ⟨self, ⟨addr, data, 0#8⟩, world⟩ = .ok ticks after) :
    ∃ stored, memory.write (self.sp - 1) (self.get hi) world = .ok () stored ∧
      memory.write (self.sp - 2) (self.get low) stored = .ok () after.world := by
  have same (r : Register) (sp : Word) : { self with sp }.get r = self.get r := by cases r <;> rfl
  have below : self.sp - 1 - 1 = self.sp - 2 := pred_pred self.sp
  unfold push at ran
  rw [bind_run, decSp_eq] at ran
  dsimp only at ran
  rw [bind_run, cpu_run] at ran
  dsimp only at ran
  rw [bind_run, writeToAddress_memory, same] at ran
  cases high : memory.write (self.sp - 1) (self.get hi) world with
  | error fault stored =>
    rw [high] at ran
    cases ran
  | ok _ stored =>
    rw [high] at ran
    dsimp only at ran
    rw [bind_run, decSp_eq] at ran
    dsimp only at ran
    rw [bind_run, cpu_run] at ran
    dsimp only at ran
    rw [bind_run, writeToAddress_memory, same, below] at ran
    refine ⟨stored, rfl, ?_⟩
    cases low' : memory.write (self.sp - 2) (self.get low) stored with
    | error fault last =>
      rw [low'] at ran
      cases ran
    | ok _ last =>
      rw [low'] at ran
      cases ran
      rfl

theorem switch_performs {instr : Isa8080.Instr} (decoded : Isa8080.decode self.opcode = some instr) :
    (switch self : CpuM ω Byte) = perform self instr := by
  rw [switch_eq, decoded]

theorem popPsw_ok (read : memory.read self.sp world = .ok byte popped)
    (ran : switch { self with opcode := 0xF1 } (wiring build memory io)
      ⟨{ self with opcode := 0xF1 }, ⟨addr, data, 0#8⟩, world⟩ = .ok ticks after) :
    after.cpu.status = byte &&& 0xD7 ||| 0x02 := by
  have performs : (switch { self with opcode := 0xF1 } : CpuM ω Byte) = perform { self with opcode := 0xF1 }
      (.pop .fourth) :=
    switch_performs (by decide : Isa8080.decode 0xF1 = some (.pop .fourth))
  rw [performs] at ran
  simp only [perform, pop, bind_run, postIncSp_run, readFromAddress_memory, read, receive_run, setReg_run,
    Intel8080.set] at ran
  cases second : memory.read (self.sp + 1) popped with
  | error fault last =>
    rw [second] at ran
    cases ran
  | ok high last =>
    rw [second] at ran
    cases ran
    rfl

variable {isr : ISR} {bus : SystemBus} {opcode : Byte}

/-- Unless it is acknowledged, what a service routine asks for makes no difference to the next instruction. -/
theorem execute_fetched (quiet : Quiet bus) (ignored : acknowledged isr self.iff = none)
    (read : memory.read self.pc world = .ok opcode fetched) :
    execute (wiring build memory io) (interrupted isr ⟨self, bus, world⟩) =
      switch { self with opcode } (wiring build memory io) ⟨{ self with opcode }, {}, fetched⟩ := by
  obtain ⟨⟨addr, data, control⟩, clear, ran⟩ :=
    execute_interrupted (wiring build memory io) isr (s := ⟨self, bus, world⟩) quiet
  obtain rfl : control = 0#8 := clear
  have kept : (self.iff && isr.cpuLevel.isNone) = self.iff := by
    unfold acknowledged at ignored
    cases enabled : self.iff with
    | false => rfl
    | true =>
      rw [enabled, if_pos rfl] at ignored
      rw [ignored]
      rfl
  rw [ran, ignored, kept, dispatch_none_run, read]

theorem form_masked : ∀ byte : Byte, StatusForm byte → byte &&& 0xD7#8 ||| 0x02#8 = byte := by
  decide

/-- Where the status byte of a cpu shows, and what `POP PSW` makes of it. -/
structure Shows (lib : Libraries) (build : Build) (self : Intel8080) : Prop where
  pushPsw : ∀ {ω : Type} {memory io : IController ω} {isr : ISR} {bus : SystemBus} {world fetched : ω} {ticks : Byte}
    {after : System ω}, Quiet bus → acknowledged isr self.iff = none → memory.read self.pc world = .ok 0xF5 fetched →
    execute (wiring build memory io) (interrupted isr ⟨self, bus, world⟩) = .ok ticks after →
    ∃ stored, memory.write (self.sp - 1) self.a fetched = .ok () stored ∧
      memory.write (self.sp - 2) self.status stored = .ok () after.world
  save : ∀ {text}, self.save lib build = .ok text →
    ∃ before after, text = before ++ ",\"s\":" ++ toString self.status.toNat ++ "\x7d,\"pc\":" ++ after
  getState : self.getState[7]? = some self.status
  popPsw : ∀ {ω : Type} {memory io : IController ω} {isr : ISR} {bus : SystemBus} {world fetched popped : ω}
    {byte ticks : Byte}
    {after : System ω}, Quiet bus → acknowledged isr self.iff = none → memory.read self.pc world = .ok 0xF1 fetched →
    memory.read self.sp fetched = .ok byte popped →
    execute (wiring build memory io) (interrupted isr ⟨self, bus, world⟩) = .ok ticks after →
    StatusForm after.cpu.status ∧ after.cpu.status = byte &&& 0xD7 ||| 0x02 ∧ (StatusForm byte → after.cpu.status = byte)

theorem shows_status (lib : Libraries) (build : Build) (self : Intel8080) : Shows lib build self := by
  constructor
  · intro ω memory io isr bus world fetched ticks after quiet ignored read ran
    have pushes : (switch { self with opcode := 0xF5 } : CpuM ω Byte) = perform { self with opcode := 0xF5 }
        (.push .fourth) :=
      switch_performs (by decide : Isa8080.decode 0xF5 = some (.push .fourth))
    rw [execute_fetched quiet ignored read, pushes] at ran
    exact push_ok ran
  · intro text written
    obtain ⟨uuid, -, printed⟩ := ErrorState.except_bind_ok_iff.mp written
    obtain rfl := ErrorState.except_pure_ok_iff.mp printed
    unfold print
    rw [String.push_eq_append, String.append_assoc, String.append_assoc, String.append_assoc, String.append_assoc]
    exact ⟨_, _, rfl⟩
  · rfl
  · intro ω memory io isr bus world fetched popped byte ticks after quiet ignored read stored ran
    rw [execute_fetched quiet ignored read] at ran
    have masked : after.cpu.status = byte &&& 0xD7 ||| 0x02 := popPsw_ok stored ran
    refine ⟨?_, masked, ?_⟩
    · rw [masked]
      exact masked_form byte
    · intro form
      rw [masked]
      exact form_masked byte form

/-- After any sequence of calls the status byte has the form, and so does all that shows it. -/
theorem status_form {lib : Libraries} {calls : List Call} {cpu : Intel8080}
    (readable : ∀ saved, .load saved ∈ calls → Readable lib build saved) (history : History lib build calls cpu) :
    StatusForm cpu.status ∧ Shows lib build cpu :=
  ⟨history_form readable history, shows_status lib build cpu⟩

end Reports

section Session

/-- A new cpu after `POP PSW`, with the opcode of that instruction in all of its memory. -/
def poppedCpu : Intel8080 := { a := 0xF1, status := 0xD3, pc := 1, sp := 2, opcode := 0xF1 }

def pswLibraries : Libraries :=
  { LoadState.zeroLibraries 256 with
    parse := fun text =>
      if text = (print "O+hPH516S3ClRdnzSRL8rQ==" poppedCpu).push (Char.ofNat 0) then
        some (SaveLoad.cpuDocument "O+hPH516S3ClRdnzSRL8rQ==" poppedCpu)
      else none }

theorem uuid_encoded (build : Build) :
    Utils.binToTxt pswLibraries build "base64" "none" Intel8080.uuid = .ok "O+hPH516S3ClRdnzSRL8rQ==" :=
  Codec.binToTxt_none (by decide) rfl (by decide : "O+hPH516S3ClRdnzSRL8rQ==".length ≤ Utils.bufferSize 16)

theorem popped_readable : Readable pswLibraries ⟨true, false⟩ poppedCpu := by
  intro uuid encoded
  obtain rfl := Except.ok.inj ((uuid_encoded _).symm.trans encoded)
  have whole : cStr "O+hPH516S3ClRdnzSRL8rQ==" = "O+hPH516S3ClRdnzSRL8rQ==" := by decide
  rw [whole, parse]
  simp only [pswLibraries, if_true]

theorem popped_history : History pswLibraries ⟨true, false⟩ [.execute, .load poppedCpu] poppedCpu := by
  have executed : execute (PlainRam.ramWiring ⟨true, false⟩ default ⟨fun _ n => (0#8, n), fun _ _ n => n⟩)
      ⟨{}, {}, ⟨fun _ => 0xF1, ()⟩⟩ = .ok 10 ⟨poppedCpu, {}, ⟨fun _ => 0xF1, ()⟩⟩ := by
    with_unfolding_all rfl
  have written : poppedCpu.save pswLibraries ⟨true, false⟩ =
      .ok ((print (cStr "O+hPH516S3ClRdnzSRL8rQ==") poppedCpu).push (Char.ofNat 0)) :=
    ErrorState.except_bind_ok_iff.mpr ⟨_, uuid_encoded _, rfl⟩
  have decoded : Utils.txtToBin pswLibraries ⟨true, false⟩ "base64" "none" 16 (cStr "O+hPH516S3ClRdnzSRL8rQ==") =
      .ok Intel8080.uuid := by rfl
  have carries : StateChecks.Carries (SaveLoad.cpuDocument (cStr "O+hPH516S3ClRdnzSRL8rQ==") poppedCpu) poppedCpu :=
    SaveLoad.cpuDocument_carries _ _
  have loaded : poppedCpu.load pswLibraries ⟨true, false⟩
      ((print (cStr "O+hPH516S3ClRdnzSRL8rQ==") poppedCpu).push (Char.ofNat 0)) = .ok poppedCpu :=
    StateChecks.load_ok_iff.mpr ⟨_, popped_readable _ (uuid_encoded _), decoded, carries, rfl, rfl⟩
  exact .call (.call .constructed (.execute executed)) (.load (by decide) written loaded)

theorem status_form_popped : StatusForm poppedCpu.status ∧ Shows pswLibraries ⟨true, false⟩ poppedCpu := by
  refine status_form ?_ popped_history
  intro saved member
  have same : saved = poppedCpu := by simpa using member
  rw [same]
  exact popped_readable

end Session
end MachEmu.Proofs.StatusInvariant
