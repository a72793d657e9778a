import Libfluid.Library.Except
import Mathlib.Data.List.Infix

/-!
# Runs of a transition system

Runs under a step relation labelled by events, and the rules that carry a fact about one step to
every state of a run.
-/

namespace Libfluid.Library

variable {σ ε : Type*} {Step : σ → ε → σ → Prop}

inductive Run (Step : σ → ε → σ → Prop) (first : σ) : List ε → σ → Prop
  | start : Run Step first [] first
  | step {events : List ε} {event : ε} {state next : σ} :
      Run Step first events state → Step state event next → Run Step first (events ++ [event]) next

/-- A state the events reach, all of them or a prefix of them. -/
def Visits (Step : σ → ε → σ → Prop) (first : σ) (events : List ε) (state : σ) : Prop :=
  ∃ past, past <+: events ∧ Run Step first past state

def Takes (Step : σ → ε → σ → Prop) (first : σ) (events : List ε) (state : σ) (event : ε) (next : σ) :
    Prop :=
  ∃ past, past ++ [event] <+: events ∧ Run Step first past state ∧ Step state event next

/-- The state in which the events reach one of them, whether or not a step follows. -/
def Meets (Step : σ → ε → σ → Prop) (first : σ) (events : List ε) (state : σ) (event : ε) : Prop :=
  ∃ past, past ++ [event] <+: events ∧ Run Step first past state

namespace Run

theorem invariant {P : σ → Prop} (preserved : ∀ state event next, P state → Step state event next → P next)
    {first state : σ} {events : List ε} (initial : P first) (run : Run Step first events state) :
    P state := by
  induction run with
  | start => exact initial
  | step _ advance ih => exact preserved _ _ _ ih advance

theorem nil_iff {first state : σ} : Run Step first [] state ↔ state = first := by
  constructor
  · intro run
    generalize none : ([] : List ε) = events at run
    cases run with
    | start => rfl
    | step _ _ => simp at none
  · rintro rfl
    exact .start

theorem snoc_iff {first next : σ} {events : List ε} {event : ε} :
    Run Step first (events ++ [event]) next ↔ ∃ state, Run Step first events state ∧ Step state event next := by
  constructor
  · intro run
    generalize all : events ++ [event] = past at run
    cases run with
    | start => simp at all
    | step before advance =>
        obtain ⟨rfl, last⟩ := List.append_inj' all rfl
        obtain rfl := List.singleton_inj.mp last
        exact ⟨_, before, advance⟩
  · rintro ⟨state, before, advance⟩
    exact before.step advance

theorem unique (outcome : ∀ state event next next', Step state event next → Step state event next' →
      next = next') {first state state' : σ} {events : List ε} (run : Run Step first events state)
    (run' : Run Step first events state') : state = state' := by
  induction run generalizing state' with
  | start => exact (nil_iff.mp run').symm
  | step before advance ih =>
      obtain ⟨middle, before', advance'⟩ := snoc_iff.mp run'
      obtain rfl := ih before'
      exact outcome _ _ _ _ advance advance'

theorem visits {first state : σ} {events : List ε} (run : Run Step first events state) :
    Visits Step first events state :=
  ⟨events, List.prefix_rfl, run⟩

theorem of_append {first last : σ} {before after : List ε} (run : Run Step first (before ++ after) last) :
    ∃ state, Run Step first before state := by
  induction after using List.reverseRecOn generalizing last with
  | nil =>
      rw [List.append_nil] at run
      exact ⟨last, run⟩
  | append_singleton after event ih =>
      rw [← List.append_assoc] at run
      obtain ⟨state, earlier, -⟩ := snoc_iff.mp run
      exact ih earlier

theorem advances (outcome : ∀ state event next next', Step state event next → Step state event next' →
      next = next') {first last state : σ} {events : List ε} {event : ε} (run : Run Step first events last)
    (meets : Meets Step first events state event) : ∃ next, Step state event next := by
  obtain ⟨past, ⟨rest, rfl⟩, before⟩ := meets
  obtain ⟨next, until_⟩ := of_append run
  obtain ⟨state', before', advance⟩ := snoc_iff.mp until_
  obtain rfl := unique outcome before before'
  exact ⟨next, advance⟩

theorem completes_iff (outcome : ∀ state event next next', Step state event next → Step state event next' →
      next = next') {first : σ} {events : List ε} :
    (∃ last, Run Step first events last) ↔
      ∀ state event, Meets Step first events state event → ∃ next, Step state event next := by
  constructor
  · rintro ⟨last, run⟩ state event meets
    exact run.advances outcome meets
  · intro advances
    induction events using List.reverseRecOn with
    | nil => exact ⟨first, .start⟩
    | append_singleton events event ih =>
        obtain ⟨state, run⟩ := ih fun state earlier ⟨past, inside, run⟩ =>
          advances state earlier ⟨past, inside.trans (List.prefix_append _ _), run⟩
        obtain ⟨next, advance⟩ := advances state event ⟨events, List.prefix_rfl, run⟩
        exact ⟨next, run.step advance⟩

theorem iff_foldlM {φ : Type*} {advance : σ → ε → Except φ σ} {first last : σ} {events : List ε} :
    Run (fun state event next => advance state event = .ok next) first events last ↔
      events.foldlM advance first = .ok last := by
  induction events using List.reverseRecOn generalizing last with
  | nil =>
      rw [nil_iff, List.foldlM_nil, pure_eq_ok]
      exact eq_comm
  | append_singleton events event ih =>
      rw [snoc_iff, List.foldlM_append, bind_eq_ok]
      simp only [ih, List.foldlM_cons, List.foldlM_nil, bind_pure]

end Run

variable {first : σ} {events : List ε}

theorem Takes.visits {state next : σ} {event : ε} (takes : Takes Step first events state event next) :
    Visits Step first events state := by
  obtain ⟨past, inside, run, -⟩ := takes
  exact ⟨past, (List.prefix_append past [event]).trans inside, run⟩

theorem Takes.visits_next {state next : σ} {event : ε} (takes : Takes Step first events state event next) :
    Visits Step first events next := by
  obtain ⟨past, inside, run, advance⟩ := takes
  exact ⟨past ++ [event], inside, run.step advance⟩

theorem Takes.meets {state next : σ} {event : ε} (takes : Takes Step first events state event next) :
    Meets Step first events state event := by
  obtain ⟨past, inside, run, -⟩ := takes
  exact ⟨past, inside, run⟩

theorem Meets.takes {state next : σ} {event : ε} (meets : Meets Step first events state event)
    (advance : Step state event next) : Takes Step first events state event next := by
  obtain ⟨past, inside, run⟩ := meets
  exact ⟨past, inside, run, advance⟩

theorem Meets.visits {state : σ} {event : ε} (meets : Meets Step first events state event) :
    Visits Step first events state := by
  obtain ⟨past, inside, run⟩ := meets
  exact ⟨past, (List.prefix_append past [event]).trans inside, run⟩

theorem Meets.mem {state : σ} {event : ε} (meets : Meets Step first events state event) : event ∈ events := by
  obtain ⟨past, inside, -⟩ := meets
  exact inside.subset (by simp)

theorem Takes.mem {state next : σ} {event : ε} (takes : Takes Step first events state event next) :
    event ∈ events := by
  obtain ⟨past, inside, -, -⟩ := takes
  exact inside.subset (by simp)

theorem Takes.mono {state next : σ} {event : ε} {later : List ε} (takes : Takes Step first events state event next)
    (inside : events <+: later) : Takes Step first later state event next := by
  obtain ⟨past, before, run, advance⟩ := takes
  exact ⟨past, before.trans inside, run, advance⟩

theorem takes_single {state next : σ} {event only : ε} :
    Takes Step first [only] state event next ↔ state = first ∧ event = only ∧ Step first only next := by
  constructor
  · rintro ⟨past, inside, run, advance⟩
    have short : past = [] ∧ event = only := by
      cases past <;> simp_all
    obtain ⟨rfl, rfl⟩ := short
    obtain rfl := Run.nil_iff.mp run
    exact ⟨rfl, rfl, advance⟩
  · rintro ⟨rfl, rfl, advance⟩
    exact ⟨[], List.prefix_rfl, .start, advance⟩

theorem takes_snoc_iff {state next : σ} {event last : ε} :
    Takes Step first (events ++ [last]) state event next ↔
      Takes Step first events state event next ∨ event = last ∧ Run Step first events state ∧ Step state last next := by
  constructor
  · rintro ⟨past, inside, run, advance⟩
    rcases List.prefix_concat_iff.mp inside with same | inside
    · obtain ⟨rfl, ends⟩ := List.append_inj' same rfl
      obtain rfl := List.singleton_inj.mp ends
      exact Or.inr ⟨rfl, run, advance⟩
    · exact Or.inl ⟨past, inside, run, advance⟩
  · rintro (takes | ⟨rfl, run, advance⟩)
    · exact takes.mono (List.prefix_append _ _)
    · exact ⟨events, List.prefix_rfl, run, advance⟩

theorem snoc_prefix_cons_iff {past rest : List ε} {event first : ε} :
    past ++ [event] <+: first :: rest ↔
      past = [] ∧ event = first ∨ ∃ later, past = first :: later ∧ later ++ [event] <+: rest := by
  cases past with
  | nil => simp
  | cons head later =>
      rw [List.cons_append, List.cons_prefix_cons]
      constructor
      · rintro ⟨rfl, inside⟩
        exact Or.inr ⟨later, rfl, inside⟩
      · rintro (⟨empty, -⟩ | ⟨tail, same, inside⟩)
        · cases empty
        · obtain ⟨rfl, rfl⟩ := List.cons_eq_cons.mp same
          exact ⟨rfl, inside⟩

theorem snoc_prefix_nil_iff {past : List ε} {event : ε} : past ++ [event] <+: [] ↔ False := by
  simp

def Throughout (P : List ε → ε → Prop) (events : List ε) : Prop :=
  ∀ past event, past ++ [event] <+: events → P past event

theorem throughout_nil {P : List ε → ε → Prop} : Throughout P [] := fun _ _ inside =>
    (snoc_prefix_nil_iff.mp inside).elim

theorem Throughout.of_prefix {P : List ε → ε → Prop} {before : List ε} (holds : Throughout P events)
    (inside : before <+: events) : Throughout P before :=
  fun past event earlier => holds past event (earlier.trans inside)

theorem throughout_snoc_iff {P : List ε → ε → Prop} {event : ε} :
    Throughout P (events ++ [event]) ↔ Throughout P events ∧ P events event := by
  constructor
  · intro holds
    exact ⟨fun past earlier inside => holds past earlier (inside.trans (List.prefix_append _ _)),
      holds events event List.prefix_rfl⟩
  · rintro ⟨holds, last⟩ past earlier inside
    rcases List.prefix_concat_iff.mp inside with same | inside
    · obtain ⟨rfl, ends⟩ := List.append_inj' same rfl
      obtain rfl := List.singleton_inj.mp ends
      exact last
    · exact holds past earlier inside

theorem throughout_append_iff {P : List ε → ε → Prop} {more : List ε} (quiet : ∀ event ∈ more, ∀ past, P past event) :
    Throughout P (events ++ more) ↔ Throughout P events := by
  induction more using List.reverseRecOn with
  | nil => rw [List.append_nil]
  | append_singleton more event ih =>
      rw [← List.append_assoc, throughout_snoc_iff, ih fun event member => quiet event (by simp [member])]
      exact and_iff_left (quiet event (by simp) _)

theorem Visits.invariant {P : σ → Prop}
    (preserved : ∀ state event next, P state → Takes Step first events state event next → P next)
    (initial : P first) {state : σ} (visits : Visits Step first events state) : P state := by
  obtain ⟨past, inside, run⟩ := visits
  induction run with
  | start => exact initial
  | step before advance ih =>
      exact preserved _ _ _ (ih ((List.prefix_append _ _).trans inside)) ⟨_, inside, before, advance⟩

theorem Takes.steps {state next : σ} {event : ε} (takes : Takes Step first events state event next) :
    Step state event next := by
  obtain ⟨-, -, -, advance⟩ := takes
  exact advance

/-- Where a guard decides each step from a good state, the guard of every step decides the whole run. -/
theorem visits_iff_takes {P : σ → Prop} {Q : σ → ε → σ → Prop} {Guard : σ → ε → Prop}
    (decides : ∀ state event next, P state → Takes Step first events state event next →
      (P next ∧ Q state event next ↔ Guard state event)) (initial : P first) :
    ((∀ state, Visits Step first events state → P state) ∧
      ∀ state event next, Takes Step first events state event next → Q state event next) ↔
    ∀ state event next, Takes Step first events state event next → Guard state event := by
  constructor
  · rintro ⟨good, steps⟩ state event next takes
    exact (decides state event next (good state takes.visits) takes).mp
      ⟨good next takes.visits_next, steps state event next takes⟩
  · intro guarded
    have good : ∀ state, Visits Step first events state → P state := fun state visits =>
      visits.invariant (fun s e n previous takes =>
        ((decides s e n previous takes).mpr (guarded s e n takes)).1) initial
    exact ⟨good, fun state event next takes =>
      ((decides state event next (good state takes.visits) takes).mpr (guarded state event next takes)).2⟩

/-- Where the guard of a step decides whether `Q` holds after it, and the guarded steps keep an invariant
that the decision rests on, the guards decide whether the run visits states of `Q` only. -/
theorem visits_iff_guarded_of_invariant {P Q : σ → Prop} {Guard : σ → ε → Prop}
    (decides : ∀ state event next, P state → Q state → Takes Step first events state event next →
      (Q next ↔ Guard state event))
    (keeps : ∀ state event next, P state → Q state → Takes Step first events state event next →
      Guard state event → P next) (initial : P first) (start : Q first) :
    (∀ state, Visits Step first events state → Q state) ↔
      ∀ state event next, Takes Step first events state event next → Guard state event := by
  constructor
  · intro good
    have invariant : ∀ state, Visits Step first events state → P state := fun state visits =>
      visits.invariant (fun s e n previous takes =>
        keeps s e n previous (good s takes.visits) takes
          ((decides s e n previous (good s takes.visits) takes).mp (good n takes.visits_next))) initial
    intro state event next takes
    exact (decides state event next (invariant state takes.visits) (good state takes.visits) takes).mp
      (good next takes.visits_next)
  · intro guarded state visits
    have both : P state ∧ Q state := visits.invariant (P := fun s => P s ∧ Q s) (fun s e n previous takes =>
      ⟨keeps s e n previous.1 previous.2 takes (guarded s e n takes),
        (decides s e n previous.1 previous.2 takes).mpr (guarded s e n takes)⟩) ⟨initial, start⟩
    exact both.2

theorem visits_iff_guarded {P : σ → Prop} {Guard : σ → ε → Prop}
    (decides : ∀ state event next, P state → Takes Step first events state event next →
      (P next ↔ Guard state event)) (initial : P first) :
    (∀ state, Visits Step first events state → P state) ↔
      ∀ state event next, Takes Step first events state event next → Guard state event := by
  apply visits_iff_guarded_of_invariant (P := P)
  · exact fun state event next _ good takes => decides state event next good takes
  · exact fun state event next _ good takes guarded => (decides state event next good takes).mpr guarded
  · exact initial
  · exact initial

end Libfluid.Library
