import Mathlib.Logic.Basic

namespace Libfluid.Library

universe u v w
variable {φ : Type u} {α β : Type v}

theorem bind_eq_ok {x : Except φ α} {f : α → Except φ β} {b : β} :
    x >>= f = .ok b ↔ ∃ a, x = .ok a ∧ f a = .ok b := by
  cases x <;> simp [bind, Except.bind]

theorem ok_bind (a : α) (f : α → Except φ β) : (.ok a : Except φ α) >>= f = f a := rfl

theorem pure_eq_ok {a b : α} : (pure a : Except φ α) = .ok b ↔ a = b := by
  simp [pure, Except.pure]

theorem map_eq_ok {γ : Type w} {x : Except φ α} {f : α → γ} {c : γ} : x.map f = .ok c ↔ ∃ a, x = .ok a ∧ f a = c := by
  cases x <;> simp [Except.map]

theorem map_eq_error {γ : Type w} {x : Except φ α} {f : α → γ} {e : φ} : x.map f = .error e ↔ x = .error e := by
  cases x <;> simp [Except.map]

theorem bind_total {x : Except φ α} {f : α → Except φ β} (first : ∃ a, x = .ok a)
    (then_ : ∀ a, ∃ b, f a = .ok b) : ∃ b, x >>= f = .ok b := by
  obtain ⟨a, rfl⟩ := first
  exact then_ a

theorem pure_total (a : α) : ∃ b, (pure a : Except φ α) = .ok b := ⟨a, rfl⟩

theorem ite_total {c : Prop} [Decidable c] {x y : Except φ α} (pos : c → ∃ a, x = .ok a)
    (neg : ¬ c → ∃ a, y = .ok a) : ∃ a, (if c then x else y) = .ok a := by
  split
  · exact pos ‹_›
  · exact neg ‹_›

theorem mapError_eq_ok {ψ : Type w} {x : Except φ α} {f : φ → ψ} {a : α} :
    x.mapError f = .ok a ↔ x = .ok a := by
  cases x with
  | error fault =>
      show Except.error (f fault) = Except.ok a ↔ _
      simp
  | ok b =>
      show Except.ok b = Except.ok a ↔ _
      simp

/-! ## Runs that write a log -/

section Log

variable {ψ : Type u} {σ ω : Type v} {ε : Type w} (step : σ → ε → Except ψ (σ × List ω))

def runLog : σ → List ε → Except ψ (σ × List ω)
  | state, [] => .ok (state, [])
  | state, event :: rest => do
      let (next, log) ← step state event
      let (last, later) ← runLog next rest
      return (last, log ++ later)

theorem runLog_append (state : σ) (before after : List ε) :
    runLog step state (before ++ after) = (runLog step state before).bind fun (next, log) =>
      (runLog step next after).bind fun (last, later) => .ok (last, log ++ later) := by
  induction before generalizing state with
  | nil =>
      show runLog step state after = (runLog step state after).bind _
      cases runLog step state after <;> rfl
  | cons first rest ih =>
      show (step state first).bind _ = ((step state first).bind _).bind _
      cases step state first with
      | error fault => rfl
      | ok result =>
          show (runLog step result.1 (rest ++ after)).bind _ = ((runLog step result.1 rest).bind _).bind _
          rw [ih]
          cases runLog step result.1 rest with
          | error fault => rfl
          | ok last =>
              show ((runLog step last.1 after).bind _).bind _ = (runLog step last.1 after).bind _
              cases runLog step last.1 after with
              | error fault => rfl
              | ok final => exact congrArg (fun log => Except.ok (final.1, log)) (List.append_assoc _ _ _).symm

theorem runLog_snoc (state : σ) (events : List ε) (event : ε) :
    runLog step state (events ++ [event]) = (runLog step state events).bind fun (next, log) =>
      (step next event).bind fun (last, later) => .ok (last, log ++ later) := by
  have single (next : σ) : runLog step next [event] = step next event := by
    show (step next event).bind _ = _
    cases step next event with
    | error fault => rfl
    | ok result => exact congrArg (fun log => Except.ok (result.1, log)) (List.append_nil _)
  simp only [runLog_append, single]

end Log

section Agreement

variable {ψ : Type u} {σ τ ω : Type v} {ε : Type w}

theorem runLog_map {step : σ → ε → Except ψ (σ × List ω)} {step' : τ → ε → Except ψ (τ × List ω)} {f : σ → τ}
    (commutes : ∀ state event, step' (f state) event = (step state event).map (Prod.map f id))
    (state : σ) (events : List ε) :
    runLog step' (f state) events = (runLog step state events).map (Prod.map f id) := by
  induction events generalizing state with
  | nil => rfl
  | cons event rest ih =>
      show (step' (f state) event).bind _ = ((step state event).bind _).map _
      rw [commutes]
      cases step state event with
      | error fault => rfl
      | ok result =>
          show (runLog step' (f result.1) rest).bind _ = ((runLog step result.1 rest).bind _).map _
          rw [ih]
          cases runLog step result.1 rest <;> rfl

/-- Steps that agree where an invariant of the state and of the events to come holds make the same runs. -/
theorem runLog_congr {step step' : σ → ε → Except ψ (σ × List ω)} {inv : List ε → σ → Prop}
    (agree : ∀ event rest state, inv (event :: rest) state → step state event = step' state event)
    (kept : ∀ event rest state next log, inv (event :: rest) state → step state event = .ok (next, log) →
      inv rest next)
    {events : List ε} {state : σ} (start : inv events state) :
    runLog step state events = runLog step' state events := by
  induction events generalizing state with
  | nil => rfl
  | cons event rest ih =>
      show (step state event).bind _ = (step' state event).bind _
      rw [← agree event rest state start]
      cases ran : step state event with
      | error fault => rfl
      | ok result =>
          show (runLog step result.1 rest).bind _ = (runLog step' result.1 rest).bind _
          rw [ih (kept event rest state result.1 result.2 start ran)]

end Agreement

/-! ## Errors that do not occur -/

def Avoids (bad : φ → Prop) (x : Except φ α) : Prop := ∀ e, bad e → x ≠ .error e

variable {bad : φ → Prop}

theorem avoids_ok (a : α) : Avoids bad (.ok a : Except φ α) := fun _ _ same => by cases same

theorem avoids_error {e : φ} (good : ¬ bad e) : Avoids bad (.error e : Except φ α) := by
  rintro e' isBad same
  cases same
  exact good isBad

theorem avoids_bind {x : Except φ α} {f : α → Except φ β} (first : Avoids bad x)
    (then_ : ∀ a, x = .ok a → Avoids bad (f a)) : Avoids bad (x >>= f) := by
  cases x with
  | ok a => exact then_ a rfl
  | error e =>
      intro e' isBad same
      cases same
      exact first e isBad rfl

theorem avoids_of_total {x : Except φ α} (total : ∃ a, x = .ok a) : Avoids bad x := by
  obtain ⟨a, rfl⟩ := total
  exact avoids_ok a

end Libfluid.Library
