import Mathlib.Logic.Basic

/-! Rules for computations that carry a state and can fail: how a run splits at
a bind, and computations that fail only in expected ways and leave the state alone. -/

namespace ErrorState

variable {ε σ α β : Type}

section Runs
variable {x : EStateM ε σ α} {f : α → EStateM ε σ β} {s mid after : σ} {value : α} {result : β} {error : ε}

theorem bind_ok (ran : x s = .ok value mid) : (x >>= f) s = f value mid := by
  simp [bind, EStateM.bind, ran]

theorem bind_error (failed : x s = .error error mid) : (x >>= f) s = .error error mid := by
  simp [bind, EStateM.bind, failed]

theorem bind_ok_iff : (x >>= f) s = .ok result after ↔ ∃ value mid, x s = .ok value mid ∧
    f value mid = .ok result after := by
  cases ran : x s with
  | ok value mid =>
    rw [bind_ok ran]
    constructor
    · intro finished
      exact ⟨value, mid, rfl, finished⟩
    · rintro ⟨_, _, ⟨⟩, finished⟩
      exact finished
  | error error mid => simp [bind_error ran]

theorem bind_error_iff : (x >>= f) s = .error error after ↔
    x s = .error error after ∨ ∃ value mid, x s = .ok value mid ∧ f value mid = .error error after := by
  cases ran : x s with
  | ok value mid =>
    rw [bind_ok ran]
    constructor
    · intro failed
      exact .inr ⟨value, mid, rfl, failed⟩
    · rintro (impossible | ⟨_, _, ⟨⟩, failed⟩)
      · cases impossible
      · exact failed
  | error error mid => simp [bind_error ran]

@[simp] theorem throw_run (error : ε) (s : σ) : (throw error : EStateM ε σ α) s = .error error s := rfl

@[simp] theorem get_run (s : σ) : (get : EStateM ε σ σ) s = .ok s s := rfl

@[simp] theorem modify_run (g : σ → σ) (s : σ) : (modify g : EStateM ε σ PUnit) s = .ok ⟨⟩ (g s) := rfl

@[simp] theorem ofExcept_ok (value : α) (s : σ) : (ofExcept (.ok value) : EStateM ε σ α) s = .ok value s := rfl

@[simp] theorem ofExcept_error (error : ε) (s : σ) : (ofExcept (.error error) : EStateM ε σ α) s = .error error s := rfl

theorem ofExcept_ok_iff {e : Except ε α} : (ofExcept e : EStateM ε σ α) s = .ok value after ↔ e = .ok value ∧
    s = after := by
  cases e <;> simp

theorem guard_ok_iff {c : Prop} [Decidable c] {rest : EStateM ε σ β} :
    (if c then throw error >>= f else rest) s = .ok result after ↔ ¬ c ∧ rest s = .ok result after := by
  by_cases violated : c
  · simp [violated, bind_error (throw_run error s)]
  · simp [violated]

end Runs

section Pure
variable {allowed : ε → Prop}

/-- `e` fails only with errors that are allowed. -/
def OnlyThrows (allowed : ε → Prop) (e : Except ε α) : Prop := ∀ error, e = .error error → allowed error

theorem except_bind_ok_iff {e : Except ε α} {f : α → Except ε β} {result : β} :
    (e >>= f) = .ok result ↔ ∃ value, e = .ok value ∧ f value = .ok result := by
  cases e <;> simp [bind, Except.bind]

theorem except_pure_ok_iff {value result : α} : (pure value : Except ε α) = .ok result ↔ value = result := by
  simp [pure, Except.pure]

theorem except_guard_ok_iff {c : Prop} [Decidable c] {error : ε} {f : α → Except ε β} {rest : Except ε β} {result : β} :
    (if c then throw error >>= f else rest) = .ok result ↔ ¬ c ∧ rest = .ok result := by
  by_cases violated : c
  · simp [violated, throw, throwThe, MonadExceptOf.throw, bind, Except.bind]
  · simp [violated]

theorem OnlyThrows.ok (value : α) : OnlyThrows allowed (.ok value) := by
  intro error impossible
  cases impossible

theorem OnlyThrows.error {error : ε} (permitted : allowed error) : OnlyThrows allowed (.error error : Except ε α) := by
  rintro _ ⟨⟩
  exact permitted

theorem OnlyThrows.bind {e : Except ε α} {f : α → Except ε β} (first : OnlyThrows allowed e)
    (rest : ∀ value, OnlyThrows allowed (f value)) : OnlyThrows allowed (e >>= f) := by
  cases e with
  | ok value => exact rest value
  | error error => exact .error (first error rfl)

theorem OnlyThrows.ite {c : Prop} [Decidable c] {e rest : Except ε α} (first : OnlyThrows allowed e)
    (second : OnlyThrows allowed rest) : OnlyThrows allowed (if c then e else rest) := by
  split
  · exact first
  · exact second

theorem OnlyThrows.guard {c : Prop} [Decidable c] {error : ε} {f : α → Except ε β} {rest : Except ε β}
    (permitted : allowed error) (remaining : OnlyThrows allowed rest) :
    OnlyThrows allowed (if c then throw error >>= f else rest) :=
  OnlyThrows.ite (OnlyThrows.error permitted) remaining

theorem OnlyThrows.mono {wider : ε → Prop} {e : Except ε α} (throws : OnlyThrows allowed e)
    (implies : ∀ error, allowed error → wider error) : OnlyThrows wider e :=
  fun error failed => implies error (throws error failed)

theorem OnlyThrows.mapM {f : β → Except ε α} (throws : ∀ item, OnlyThrows allowed (f item)) (items : List β) :
    OnlyThrows allowed (items.mapM f) := by
  induction items with
  | nil => exact .ok []
  | cons item items ih =>
    rw [List.mapM_cons]
    exact (throws item).bind fun _ => ih.bind fun _ => .ok _

end Pure

section Neutral
variable {allowed : ε → Prop} {s : σ}

/-- From `s` the computation leaves the state alone, and if it fails then with an allowed error. -/
def Neutral (allowed : ε → Prop) (x : EStateM ε σ α) (s : σ) : Prop :=
  match x s with
  | .ok _ after => after = s
  | .error error after => allowed error ∧ after = s

theorem Neutral.pure (value : α) : Neutral allowed (pure value) s := rfl

theorem Neutral.throw {error : ε} (permitted : allowed error) : Neutral allowed (throw error : EStateM ε σ α) s :=
  ⟨permitted, rfl⟩

theorem Neutral.ofExcept {e : Except ε α} (throws : OnlyThrows allowed e) : Neutral allowed (ofExcept e) s := by
  cases e with
  | ok value => exact Neutral.pure value
  | error error => exact Neutral.throw (throws error rfl)

theorem Neutral.of_run {x : EStateM ε σ α} {value : α} (ran : x s = .ok value s) : Neutral allowed x s := by
  simp [Neutral, ran]

theorem Neutral.bind {x : EStateM ε σ α} {f : α → EStateM ε σ β} (first : Neutral allowed x s)
    (rest : ∀ value, Neutral allowed (f value) s) : Neutral allowed (x >>= f) s := by
  cases ran : x s with
  | ok value after =>
    have same : after = s := by simpa [Neutral, ran] using first
    have next := rest value
    rw [Neutral, bind_ok ran, same]
    exact next
  | error error after =>
    rw [Neutral, bind_error ran]
    simpa [Neutral, ran] using first

end Neutral

section Raises
variable {allowed : ε → Prop} {x : EStateM ε σ α} {f : α → EStateM ε σ β} {s : σ} {error : ε}

/-- From `s` the computation fails only with an allowed error. -/
def Raises (allowed : ε → Prop) (x : EStateM ε σ α) (s : σ) : Prop :=
  ∀ error after, x s = .error error after → allowed error

theorem Raises.pure (value : α) : Raises allowed (pure value : EStateM ε σ α) s := by
  rintro _ _ ⟨⟩

theorem Raises.modify (g : σ → σ) : Raises allowed (modify g : EStateM ε σ PUnit) s := by
  rintro _ _ ⟨⟩

theorem Raises.ofExcept {e : Except ε α} (throws : OnlyThrows allowed e) : Raises allowed (ofExcept e) s := by
  cases e with
  | ok value => rintro _ _ ⟨⟩
  | error error =>
    rintro _ _ ⟨⟩
    exact throws error rfl

theorem Raises.bind (first : Raises allowed x s) (rest : ∀ value mid, x s = .ok value mid → Raises allowed (f value) mid) :
    Raises allowed (x >>= f) s := by
  intro error after failed
  rcases bind_error_iff.mp failed with failed | ⟨value, mid, ran, failed⟩
  · exact first error after failed
  · exact rest value mid ran error after failed

theorem Raises.get_bind {f : σ → EStateM ε σ β} (rest : Raises allowed (f s) s) : Raises allowed (get >>= f) s := by
  intro error after failed
  rw [bind_ok (get_run s)] at failed
  exact rest error after failed

theorem Raises.guard {c : Prop} [Decidable c] {rest : EStateM ε σ β} (permitted : c → allowed error)
    (remaining : ¬ c → Raises allowed rest s) : Raises allowed (if c then throw error >>= f else rest) s := by
  split
  next violated =>
    rintro _ _ ⟨⟩
    exact permitted violated
  next passed => exact remaining passed

theorem Raises.mono {wider : ε → Prop} (raises : Raises allowed x s) (implies : ∀ error, allowed error → wider error) :
    Raises wider x s :=
  fun error after failed => implies error (raises error after failed)

theorem Raises.throw (permitted : allowed error) : Raises allowed (throw error : EStateM ε σ α) s := by
  rintro _ _ ⟨⟩
  exact permitted

theorem Raises.ite {c : Prop} [Decidable c] {y : EStateM ε σ α} (first : Raises allowed x s) (second : Raises allowed y s) :
    Raises allowed (if c then x else y) s := by
  split
  · exact first
  · exact second

theorem Raises.foldlM {γ : Type} {f : β → γ → EStateM ε σ β} (body : ∀ acc item s, Raises allowed (f acc item) s)
    (items : List γ) (acc : β) : Raises allowed (items.foldlM f acc) s := by
  induction items generalizing acc s with
  | nil => exact Raises.pure acc
  | cons item items ih => exact (body acc item s).bind fun acc _ _ => ih acc

end Raises

section Frames
variable {τ : Type} {π : σ → τ} {x : EStateM ε σ α} {f : α → EStateM ε σ β} {error : ε}

def final : EStateM.Result ε σ α → σ
  | .ok _ s => s
  | .error _ s => s

/-- However the computation ends, what `π` sees of the state is unchanged. -/
def Frames (π : σ → τ) (x : EStateM ε σ α) : Prop := ∀ s, π (final (x s)) = π s

theorem Frames.pure (value : α) : Frames π (pure value : EStateM ε σ α) := fun _ => rfl

theorem Frames.get : Frames π (get : EStateM ε σ σ) := fun _ => rfl

theorem Frames.modify {g : σ → σ} (same : ∀ s, π (g s) = π s) : Frames π (modify g : EStateM ε σ PUnit) := same

theorem Frames.ofExcept (e : Except ε α) : Frames π (ofExcept e : EStateM ε σ α) := by
  cases e with
  | ok value => exact fun _ => rfl
  | error error => exact fun _ => rfl

theorem Frames.bind (first : Frames π x) (rest : ∀ value, Frames π (f value)) : Frames π (x >>= f) := by
  intro s
  have begun := first s
  cases ran : x s with
  | ok value mid =>
    rw [ran] at begun
    rw [bind_ok ran, rest value mid]
    exact begun
  | error error mid =>
    rw [ran] at begun
    rw [bind_error ran]
    exact begun

theorem Frames.guard {c : Prop} [Decidable c] {rest : EStateM ε σ β} (frames : Frames π rest) :
    Frames π (if c then throw error >>= f else rest) := by
  split
  · exact fun _ => rfl
  · exact frames

end Frames

section Preserves
variable {P : σ → Prop} {x : EStateM ε σ α} {f : α → EStateM ε σ β} {error : ε}

/-- However the computation ends, `P` still holds. -/
def Preserves (P : σ → Prop) (x : EStateM ε σ α) : Prop := ∀ s, P s → P (final (x s))

theorem Preserves.pure (value : α) : Preserves P (pure value : EStateM ε σ α) := fun _ => id

theorem Preserves.throw (error : ε) : Preserves P (throw error : EStateM ε σ α) := fun _ => id

theorem Preserves.ofExcept (e : Except ε α) : Preserves P (ofExcept e : EStateM ε σ α) := by
  cases e with
  | ok value => exact fun _ => id
  | error error => exact fun _ => id

theorem Preserves.bind (first : Preserves P x) (rest : ∀ value, Preserves P (f value)) : Preserves P (x >>= f) := by
  intro s holds
  have begun := first s holds
  cases ran : x s with
  | ok value mid =>
    rw [ran] at begun
    rw [bind_ok ran]
    exact rest value mid begun
  | error error mid =>
    rw [ran] at begun
    rw [bind_error ran]
    exact begun

theorem Preserves.guard {c : Prop} [Decidable c] {rest : EStateM ε σ β} (preserves : Preserves P rest) :
    Preserves P (if c then MonadExcept.throw error >>= f else rest) := by
  split
  · exact fun _ => id
  · exact preserves

theorem Preserves.foldlM {γ : Type} {f : β → γ → EStateM ε σ β} (body : ∀ acc item, Preserves P (f acc item))
    (items : List γ) (acc : β) : Preserves P (items.foldlM f acc) := by
  induction items generalizing acc with
  | nil => exact Preserves.pure acc
  | cons item items ih => exact (body acc item).bind ih

end Preserves

section Ends
variable {Q : σ → Prop} {x : EStateM ε σ α} {f : α → EStateM ε σ β} {s : σ} {error : ε}

/-- From `s` the computation ends, in either way, in a state with `Q`. -/
def Ends (Q : σ → Prop) (x : EStateM ε σ α) (s : σ) : Prop := Q (final (x s))

theorem Ends.pure (holds : Q s) (value : α) : Ends Q (pure value : EStateM ε σ α) s := holds

theorem Ends.bind (first : Ends Q x s) (rest : ∀ value mid, x s = .ok value mid → Ends Q (f value) mid) :
    Ends Q (x >>= f) s := by
  unfold Ends at first ⊢
  cases ran : x s with
  | ok value mid =>
    rw [bind_ok ran]
    exact rest value mid ran
  | error error mid =>
    rw [bind_error ran]
    rw [ran] at first
    exact first

theorem Ends.get_bind {f : σ → EStateM ε σ β} (rest : Ends Q (f s) s) : Ends Q (get >>= f) s := by
  unfold Ends
  rw [bind_ok (get_run s)]
  exact rest

theorem Ends.modify_bind {g : σ → σ} {f : PUnit → EStateM ε σ β} (rest : Ends Q (f ⟨⟩) (g s)) :
    Ends Q (modify g >>= f) s := by
  unfold Ends
  rw [bind_ok (modify_run g s)]
  exact rest

theorem Ends.ofExcept_bind {e : Except ε α} (holds : Q s) (rest : ∀ value, e = .ok value → Ends Q (f value) s) :
    Ends Q (ofExcept e >>= f) s := by
  unfold Ends
  cases e with
  | ok value =>
    rw [bind_ok (ofExcept_ok value s)]
    exact rest value rfl
  | error error =>
    rw [bind_error (ofExcept_error error s)]
    exact holds

theorem Ends.guard {c : Prop} [Decidable c] {rest : EStateM ε σ β} (holds : Q s) (remaining : Ends Q rest s) :
    Ends Q (if c then throw error >>= f else rest) s := by
  split
  · exact holds
  · exact remaining

end Ends

section Simulations
variable {τ : Type} {R : σ → τ → Prop} {x : EStateM ε σ α} {y : EStateM ε τ α}

/-- From related states the computations end in the same way, in related states. -/
def Simulates (R : σ → τ → Prop) (x : EStateM ε σ α) (y : EStateM ε τ α) : Prop :=
  ∀ s t, R s t → match x s, y t with
    | .ok value s, .ok other t => value = other ∧ R s t
    | .error error s, .error other t => error = other ∧ R s t
    | _, _ => False

/-- A computation that keeps `P` simulates itself where it holds. -/
theorem Preserves.simulates {P : σ → Prop} (preserves : Preserves P x) : Simulates (fun s t => s = t ∧ P s) x x := by
  rintro s _ ⟨rfl, holds⟩
  have kept := preserves s holds
  cases ran : x s with
  | ok value after =>
    rw [ran] at kept
    exact ⟨rfl, rfl, kept⟩
  | error error after =>
    rw [ran] at kept
    exact ⟨rfl, rfl, kept⟩

theorem Simulates.pure (value : α) : Simulates R (pure value : EStateM ε σ α) (pure value) :=
  fun _ _ related => ⟨rfl, related⟩

protected theorem Simulates.throw (error : ε) : Simulates R (throw error : EStateM ε σ α) (throw error : EStateM ε τ α) :=
  fun _ _ related => ⟨rfl, related⟩

theorem Simulates.of_eq {x y : EStateM ε σ α} (same : x = y) : Simulates (· = ·) x y := by
  rintro s _ rfl
  rw [same]
  cases y s with
  | ok value after => exact ⟨rfl, rfl⟩
  | error error after => exact ⟨rfl, rfl⟩

theorem Simulates.ofExcept (e : Except ε α) :
    Simulates R (ofExcept e : EStateM ε σ α) (ofExcept e : EStateM ε τ α) := by
  cases e with
  | ok value => exact Simulates.pure value
  | error error => exact Simulates.throw error

theorem Simulates.bind {f : α → EStateM ε σ β} {g : α → EStateM ε τ β} (first : Simulates R x y)
    (rest : ∀ value, Simulates R (f value) (g value)) : Simulates R (x >>= f) (y >>= g) := by
  intro s t related
  have begun := first s t related
  cases ran : x s with
  | ok value mid =>
    cases other : y t with
    | ok same last =>
      rw [ran, other] at begun
      obtain ⟨rfl, related⟩ := begun
      rw [bind_ok ran, bind_ok other]
      exact rest value mid last related
    | error error last =>
      rw [ran, other] at begun
      exact begun.elim
  | error error mid =>
    cases other : y t with
    | ok same last =>
      rw [ran, other] at begun
      exact begun.elim
    | error same last =>
      rw [ran, other] at begun
      rw [bind_error ran, bind_error other]
      exact begun

theorem Simulates.ite {c : Prop} [Decidable c] {x' : EStateM ε σ α} {y' : EStateM ε τ α} (first : Simulates R x y)
    (second : Simulates R x' y') : Simulates R (if c then x else x') (if c then y else y') := by
  split
  · exact first
  · exact second

theorem Simulates.guard {c : Prop} [Decidable c] {error : ε} {f : β → EStateM ε σ α} {g : β → EStateM ε τ α}
    (rest : Simulates R x y) : Simulates R (if c then throw error >>= f else x) (if c then throw error >>= g else y) :=
  Simulates.ite (fun _ _ related => ⟨rfl, related⟩) rest

theorem Simulates.get_bind {f : σ → EStateM ε σ α} {g : τ → EStateM ε τ α}
    (rest : ∀ s t, R s t → Simulates R (f s) (g t)) : Simulates R (get >>= f) (get >>= g) :=
  fun s t related => rest s t related s t related

protected theorem Simulates.modify {f : σ → σ} {g : τ → τ} (keeps : ∀ s t, R s t → R (f s) (g t)) :
    Simulates R (modify f : EStateM ε σ PUnit) (modify g) :=
  fun s t related => ⟨rfl, keeps s t related⟩

theorem Simulates.foldlM {γ : Type} {f : β → γ → EStateM ε σ β} {g : β → γ → EStateM ε τ β}
    (body : ∀ acc item, Simulates R (f acc item) (g acc item)) (items : List γ) (acc : β) :
    Simulates R (items.foldlM f acc) (items.foldlM g acc) := by
  induction items generalizing acc with
  | nil => exact Simulates.pure acc
  | cons item items ih => exact (body acc item).bind fun acc => ih acc

protected theorem Simulates.symm (simulates : Simulates R x y) : Simulates (fun t s => R s t) y x := by
  intro t s related
  have ends := simulates s t related
  cases first : x s with
  | ok value after =>
    cases second : y t with
    | ok other last =>
      rw [first, second] at ends
      exact ⟨ends.1.symm, ends.2⟩
    | error error last =>
      rw [first, second] at ends
      exact ends.elim
  | error error after =>
    cases second : y t with
    | ok other last =>
      rw [first, second] at ends
      exact ends.elim
    | error other last =>
      rw [first, second] at ends
      exact ⟨ends.1.symm, ends.2⟩

theorem Simulates.ok {s : σ} {t : τ} (simulates : Simulates R x y) (related : R s t) {value : α} {after : σ}
    (ran : x s = .ok value after) : ∃ last, y t = .ok value last ∧ R after last := by
  have ends := simulates s t related
  rw [ran] at ends
  cases other : y t with
  | ok same last =>
    rw [other] at ends
    obtain ⟨rfl, related⟩ := ends
    exact ⟨last, rfl, related⟩
  | error error last =>
    rw [other] at ends
    exact ends.elim

theorem Simulates.error {s : σ} {t : τ} (simulates : Simulates R x y) (related : R s t) {error : ε} {after : σ}
    (failed : x s = .error error after) : ∃ last, y t = .error error last ∧ R after last := by
  have ends := simulates s t related
  rw [failed] at ends
  cases other : y t with
  | ok value last =>
    rw [other] at ends
    exact ends.elim
  | error same last =>
    rw [other] at ends
    obtain ⟨rfl, related⟩ := ends
    exact ⟨last, rfl, related⟩

protected theorem Simulates.final {s : σ} {t : τ} (simulates : Simulates R x y) (related : R s t) :
    R (final (x s)) (final (y t)) := by
  cases ran : x s with
  | ok value after =>
    obtain ⟨last, again, related⟩ := simulates.ok related ran
    rw [again]
    exact related
  | error error after =>
    obtain ⟨last, again, related⟩ := simulates.error related ran
    rw [again]
    exact related

/-- Through a computation in between. -/
protected theorem Simulates.trans {υ : Type} {S : τ → υ → Prop} {z : EStateM ε υ α} (first : Simulates R x y)
    (second : Simulates S y z) : Simulates (fun s u => ∃ t, R s t ∧ S t u) x z := by
  rintro s u ⟨t, related, related'⟩
  cases ran : x s with
  | ok value after =>
    obtain ⟨mid, again, related⟩ := first.ok related ran
    obtain ⟨last, again, related'⟩ := second.ok related' again
    rw [again]
    exact ⟨rfl, mid, related, related'⟩
  | error error after =>
    obtain ⟨mid, again, related⟩ := first.error related ran
    obtain ⟨last, again, related'⟩ := second.error related' again
    rw [again]
    exact ⟨rfl, mid, related, related'⟩

theorem Simulates.congr {S : σ → τ → Prop} (simulates : Simulates R x y) (same : ∀ s t, S s t ↔ R s t) :
    Simulates S x y := by
  intro s t related
  cases ran : x s with
  | ok value after =>
    obtain ⟨last, again, related⟩ := simulates.ok ((same s t).mp related) ran
    rw [again]
    exact ⟨rfl, (same _ _).mpr related⟩
  | error error after =>
    obtain ⟨last, again, related⟩ := simulates.error ((same s t).mp related) ran
    rw [again]
    exact ⟨rfl, (same _ _).mpr related⟩

end Simulations
end ErrorState
