import MachEmu.Proofs.Survival

/-! Handlers that run in the loop thread. With `loadAsync` and `saveAsync` off every
request is served from beginning to end before the loop goes on. -/

namespace MachEmu.Proofs.Synchronous
open Machine Loop Traces

variable {ω : Type} {setup : Setup ω} {loop after start : Loop ω} {events trace : List (Event ω)}

/-- One thing that happens: an instruction, or a request with all that it leads to. A request
is ignored only if there is no handler for it. -/
inductive Block (setup : Setup ω) : List (Event ω) → Prop
  | executed : Block setup [.executed]
  | ignoredLoad (none : setup.onLoad = false) : Block setup [.ignored .load]
  | ignoredSave (none : setup.onSave = false) : Block setup [.ignored .save]
  | refused : Block setup [.refusedSave]
  | saved (sys : System ω) (state : String) : Block setup [.startedSave sys state, .called state]
  | loaded (str : String) : Block setup [.startedLoad, .returned (.ok str), .applied str]
  | threw (fault : Fault) : Block setup [.startedLoad, .returned (.error fault)]

/-- The trace of requests that are all served. -/
def Served (setup : Setup ω) (trace : List (Event ω)) : Prop :=
  ∃ blocks : List (List (Event ω)), (∀ block ∈ blocks, Block setup block) ∧ trace = blocks.flatten

theorem Served.nil : Served setup ([] : List (Event ω)) := ⟨[], List.forall_mem_nil _, rfl⟩

theorem Served.block (served : Served setup trace) (block : Block setup events) : Served setup (trace ++ events) := by
  obtain ⟨blocks, all, rfl⟩ := served
  refine ⟨blocks ++ [events], List.forall_mem_append.mpr ⟨all, List.forall_mem_singleton.mpr block⟩, ?_⟩
  rw [List.flatten_append, List.flatten_singleton]

theorem Served.quiet (served : Served setup trace) : Served setup (trace ++ []) := by
  rw [List.append_nil]
  exact served

/-- No future is left from an earlier request. -/
structure Clear (loop : Loop ω) : Prop where
  onLoad : loop.onLoad = .invalid
  onSave : loop.onSave = .invalid

/-- A request has been started just now, or all requests are served. -/
inductive Serial (setup : Setup ω) (trace : List (Event ω)) (loop : Loop ω) : Prop
  | between (away : loop.point ≠ .startedLoad ∧ loop.point ≠ .startedSave) (clear : Clear loop)
    (served : Served setup trace)
  | loading {earlier : List (Event ω)} (here : loop.point = .startedLoad) (onLoad : loop.onLoad = .deferred ())
      (onSave : loop.onSave = .invalid) (served : Served setup earlier) (same : trace = earlier ++ [.startedLoad])
  | saving {earlier : List (Event ω)} {sys : System ω} {state : String} (here : loop.point = .startedSave)
      (onLoad : loop.onLoad = .invalid) (onSave : loop.onSave = .deferred state) (served : Served setup earlier)
      (same : trace = earlier ++ [.startedSave sys state])

section Futures
variable {next : Loop ω → Loop ω}

end Futures

section Steps

theorem Clear.between (clear : Clear loop) (load : after.onLoad = loop.onLoad) (save : after.onSave = loop.onSave)
    (away : after.point ≠ .startedLoad ∧ after.point ≠ .startedSave) (served : Served setup trace) :
      Serial setup trace after :=
  .between away ⟨load.trans clear.onLoad, save.trans clear.onSave⟩ served

end Steps

section Runs
variable {lib : Libraries} {build : Build}

end Runs

section Session
open Lifecycle Deliveries Survival

end Session
end MachEmu.Proofs.Synchronous
