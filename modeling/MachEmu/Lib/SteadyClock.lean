/-! A steady clock seen by one thread. The readings are given in advance, so
whatever the thread waits for shows in the next one. A computation is `none`
while it still looks for a reading that the list does not have. -/

namespace SteadyClock

/-- The latest reading, the ones to come, and the sleeps that were asked for. -/
structure Host where
  last : Int
  upcoming : List Int
  requests : List Int := []
deriving DecidableEq, Repr

abbrev ClockM := StateT Host Option

def Host.Steady (host : Host) : Prop := (host.last :: host.upcoming).Pairwise (· ≤ ·)

def now : ClockM Int := fun host =>
  match host.upcoming with
  | [] => none
  | last :: upcoming => some (last, { host with last, upcoming })

def sleep (request : Int) : ClockM Unit := fun host =>
  some ((), { host with requests := host.requests ++ [request] })

/-- Look again for as long as the latest reading is before `finish`. -/
def spin (finish : Int) : Int → List Int → Option (Int × List Int)
  | last, [] => if last < finish then none else some (last, [])
  | last, reading :: upcoming =>
    if last < finish then spin finish reading upcoming else some (last, reading :: upcoming)

def spinUntil (finish : Int) : ClockM Int := fun host => do
  let (last, upcoming) ← spin finish host.last host.upcoming
  return (last, { host with last, upcoming })

section Rules
variable {α β : Type} {host after : Host} {reading finish : Int}

theorem bind_some {x : ClockM α} {f : α → ClockM β} {value : α} {mid : Host} (ran : x host = some (value, mid)) :
    (x >>= f) host = f value mid := by
  simp [bind, StateT.bind, ran]

theorem bind_none {x : ClockM α} {f : α → ClockM β} (waits : x host = none) : (x >>= f) host = none := by
  simp [bind, StateT.bind, waits]

theorem bind_some_iff {x : ClockM α} {f : α → ClockM β} {result : β} :
    (x >>= f) host = some (result, after) ↔ ∃ value mid, x host = some (value, mid) ∧
      f value mid = some (result, after) := by
  cases ran : x host with
  | none => simp [bind, StateT.bind, ran]
  | some out =>
    obtain ⟨value, mid⟩ := out
    rw [bind_some ran]
    constructor
    · intro finished
      exact ⟨value, mid, rfl, finished⟩
    · rintro ⟨_, _, ⟨⟩, finished⟩
      exact finished

@[simp] theorem pure_some_iff {value result : α} :
    (pure value : ClockM α) host = some (result, after) ↔ value = result ∧ host = after := by
  constructor
  · intro same
    cases same
    exact ⟨rfl, rfl⟩
  · intro ⟨same, still⟩
    rw [← same, ← still]
    rfl

/-- A look moves on to a reading that is not before the last one. -/
theorem now_some (steady : host.Steady) (looked : now host = some (reading, after)) :
    host.last ≤ reading ∧ after.last = reading ∧ after.Steady := by
  obtain ⟨last, upcoming, requests⟩ := host
  cases upcoming with
  | nil => cases looked
  | cons next upcoming =>
    cases looked
    obtain ⟨later, rest⟩ := List.pairwise_cons.mp steady
    exact ⟨later _ (List.mem_cons_self ..), rfl, rest⟩

theorem sleep_some {request : Int} {done : Unit} (slept : sleep request host = some (done, after)) :
    after.last = host.last ∧ (host.Steady → after.Steady) := by
  cases slept
  exact ⟨rfl, id⟩

theorem now_takes (looked : now host = some (reading, after)) :
    host.upcoming = reading :: after.upcoming ∧ after.requests = host.requests := by
  obtain ⟨last, upcoming, requests⟩ := host
  cases upcoming with
  | nil => cases looked
  | cons next upcoming =>
    cases looked
    exact ⟨rfl, rfl⟩

theorem sleep_asks {request : Int} {done : Unit} (slept : sleep request host = some (done, after)) :
    after.requests = host.requests ++ [request] := by
  cases slept
  rfl

theorem spin_late {last : Int} {upcoming rest : List Int} (spun : spin finish last upcoming = some (reading, rest)) :
    finish ≤ reading := by
  induction upcoming generalizing last with
  | nil =>
    unfold spin at spun
    split at spun
    next => cases spun
    next reached =>
      cases spun
      exact Int.not_lt.mp reached
  | cons next upcoming ih =>
    unfold spin at spun
    split at spun
    next => exact ih spun
    next reached =>
      cases spun
      exact Int.not_lt.mp reached

/-- On any host a spin ends late, and asks for no sleep. -/
theorem spinUntil_late (spun : spinUntil finish host = some (reading, after)) :
    finish ≤ reading ∧ after.requests = host.requests := by
  obtain ⟨⟨last, upcoming⟩, spins, finished⟩ := Option.bind_eq_some_iff.mp spun
  cases finished
  exact ⟨spin_late spins, rfl⟩

theorem spin_some {last : Int} {upcoming rest : List Int} (steady : (last :: upcoming).Pairwise (· ≤ ·))
    (spun : spin finish last upcoming = some (reading, rest)) : last ≤ reading ∧ (reading :: rest).Pairwise (· ≤ ·) := by
  induction upcoming generalizing last with
  | nil =>
    unfold spin at spun
    split at spun
    next => cases spun
    next =>
      cases spun
      exact ⟨Int.le_refl _, steady⟩
  | cons next upcoming ih =>
    obtain ⟨later, remaining⟩ := List.pairwise_cons.mp steady
    unfold spin at spun
    split at spun
    next =>
      obtain ⟨forward, steady⟩ := ih remaining spun
      exact ⟨Int.le_trans (later next (List.mem_cons_self ..)) forward, steady⟩
    next =>
      cases spun
      exact ⟨Int.le_refl _, steady⟩

theorem spinUntil_some (steady : host.Steady) (spun : spinUntil finish host = some (reading, after)) :
    host.last ≤ reading ∧ finish ≤ reading ∧ after.last = reading ∧ after.Steady := by
  obtain ⟨⟨last, upcoming⟩, spins, finished⟩ := Option.bind_eq_some_iff.mp spun
  cases finished
  obtain ⟨forward, steady⟩ := spin_some steady spins
  exact ⟨forward, spin_late spins, rfl, steady⟩

theorem now_returns (more : host.upcoming ≠ []) :
    ∃ after, now host = some (after.last, after) ∧ host.upcoming = after.last :: after.upcoming := by
  obtain ⟨last, upcoming, requests⟩ := host
  cases upcoming with
  | nil => exact absurd rfl more
  | cons reading upcoming => exact ⟨⟨reading, upcoming, requests⟩, rfl, rfl⟩

/-- Spinning ends once a reading is late enough, and leaves the ones after it. -/
theorem spinUntil_returns {before rest : List Int} (readings : host.upcoming = before ++ reading :: rest)
    (late : finish ≤ reading) :
    ∃ after, spinUntil finish host = some (after.last, after) ∧ ∃ skipped, after.upcoming = skipped ++ rest := by
  obtain ⟨last, upcoming, requests⟩ := host
  have spins : ∃ stop skipped, spin finish last upcoming = some (stop, skipped ++ rest) := by
    dsimp only at readings
    induction before generalizing last upcoming with
    | nil =>
      subst readings
      rw [List.nil_append, spin]
      split
      next =>
        refine ⟨reading, [], ?_⟩
        cases rest with
        | nil => simp [spin, Int.not_lt.mpr late]
        | cons => simp [spin, Int.not_lt.mpr late]
      next => exact ⟨last, [reading], rfl⟩
    | cons next before ih =>
      subst readings
      rw [List.cons_append, spin]
      split
      next => exact ih next _ rfl
      next => exact ⟨last, next :: (before ++ [reading]), by simp⟩
  obtain ⟨stop, skipped, spins⟩ := spins
  exact ⟨⟨stop, skipped ++ rest, requests⟩, by simp [spinUntil, spins], skipped, rfl⟩

end Rules
end SteadyClock
