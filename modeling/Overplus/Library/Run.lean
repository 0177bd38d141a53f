import Mathlib

/-!
# Runs of a transition system

A transition system is a step function on states and events that answers nothing where the
event is not enabled. A run takes events one after another. The rules here turn what one
step keeps into what every run keeps, with or without a condition on each step taken, and a
simulation of single steps into one of runs; they say what it is for a loop to end, and when every
request in a trace of effects comes after an effect that grants it, or is followed by its answer.
-/
namespace Overplus

section Runs

variable {σ ε : Type}

/-- Take events one after another; nothing when one of them is not enabled. -/
def run (step : σ → ε → Option σ) : σ → List ε → Option σ
  | state, [] => some state
  | state, event :: events => (step state event).bind fun next => run step next events

/-- Every step of the run meets a condition on the state it is taken in and its event. -/
def Meets (step : σ → ε → Option σ) (condition : σ → ε → Prop) : σ → List ε → Prop
  | _, [] => True
  | state, event :: events =>
    condition state event ∧ ∀ next, step state event = some next → Meets step condition next events

/-- Whether a run meets a condition can be checked where each step's condition can. -/
instance Meets.decidable (step : σ → ε → Option σ) (condition : σ → ε → Prop)
    [∀ state event, Decidable (condition state event)] :
    (state : σ) → (events : List ε) → Decidable (Meets step condition state events)
  | _, [] => .isTrue trivial
  | state, event :: events =>
    haveI := fun next => Meets.decidable step condition next events
    inferInstanceAs (Decidable
      (condition state event ∧ ∀ next ∈ step state event, Meets step condition next events))

variable {step : σ → ε → Option σ} {condition : σ → ε → Prop} {invariant : σ → Prop}
  {start final next : σ} {event : ε} {events : List ε}

/-- An invariant kept by every step that meets a condition holds after every run whose steps
meet it. -/
theorem run_invariant_of_meets
    (keeps : ∀ state event next, invariant state → condition state event →
      step state event = some next → invariant next)
    (holds : invariant start) (meets : Meets step condition start events)
    (ran : run step start events = some final) : invariant final := by
  induction events generalizing start with
  | nil =>
    obtain rfl := Option.some.inj ran
    exact holds
  | cons event events ih =>
    obtain ⟨next, stepped, rest⟩ := Option.bind_eq_some_iff.mp ran
    exact ih (keeps start event next holds meets.1 stepped) (meets.2 next stepped) rest

/-- A condition that every event of a run meets in every state is met by the run. -/
theorem meets_of_mem (each : ∀ event ∈ events, ∀ state, condition state event) :
    Meets step condition start events := by
  induction events generalizing start with
  | nil => trivial
  | cons event events ih =>
    have first := each event List.mem_cons_self start
    have rest : ∀ other ∈ events, ∀ state, condition state other :=
      fun other member => each other (List.mem_cons_of_mem _ member)
    exact ⟨first, fun _ _ => ih rest⟩

/-- A condition that holds of every step is met by every run. -/
theorem meets_of_forall (always : ∀ state event, condition state event) :
    Meets step condition start events :=
  meets_of_mem fun event _ state => always state event

/-- A run that meets two conditions meets both at once. -/
theorem Meets.and {other : σ → ε → Prop} (one : Meets step condition start events)
    (two : Meets step other start events) :
    Meets step (fun state event => condition state event ∧ other state event) start events := by
  induction events generalizing start with
  | nil => trivial
  | cons event events ih =>
    exact ⟨⟨one.1, two.1⟩, fun next stepped => ih (one.2 next stepped) (two.2 next stepped)⟩

/-- An invariant kept by every step holds after every run. -/
theorem run_invariant
    (keeps : ∀ state event next, invariant state → step state event = some next → invariant next)
    (holds : invariant start) (ran : run step start events = some final) : invariant final := by
  have meets : Meets step (fun _ _ => True) start events := meets_of_forall fun _ _ => trivial
  refine run_invariant_of_meets ?_ holds meets ran
  intro state event next held _ stepped
  exact keeps state event next held stepped

/-- A relation between the events so far and the state, kept by every step, holds after every
run. -/
theorem run_history {relates : List ε → σ → Prop} {past : List ε}
    (keeps : ∀ past state event next, relates past state → step state event = some next →
      relates (past ++ [event]) next)
    (holds : relates past start) (ran : run step start events = some final) :
    relates (past ++ events) final := by
  induction events generalizing start past with
  | nil =>
    obtain rfl := Option.some.inj ran
    rwa [List.append_nil]
  | cons event events ih =>
    obtain ⟨next, stepped, rest⟩ := Option.bind_eq_some_iff.mp ran
    have later := ih (keeps past start event next holds stepped) rest
    rwa [List.append_assoc] at later

/-- What no step lowers, no run lowers. -/
theorem run_monotone {β : Type} [Preorder β] (measure : σ → β)
    (rises : ∀ state event next, step state event = some next → measure state ≤ measure next)
    (ran : run step start events = some final) : measure start ≤ measure final := by
  induction events generalizing start with
  | nil =>
    obtain rfl := Option.some.inj ran
    exact le_rfl
  | cons event events ih =>
    obtain ⟨next, stepped, rest⟩ := Option.bind_eq_some_iff.mp ran
    exact (rises start event next stepped).trans (ih rest)

/-- A run of one step. -/
theorem run_single (stepped : step start event = some next) :
    run step start [event] = some next := by
  rw [run, stepped, Option.bind_some, run]

/-- A run and another one from where it ended are one run. -/
theorem run_append {middle : σ} {more : List ε} (ran : run step start events = some middle) :
    run step start (events ++ more) = run step middle more := by
  induction events generalizing start with
  | nil =>
    obtain rfl := Option.some.inj ran
    rfl
  | cons event rest ih =>
    obtain ⟨next, stepped, later⟩ := Option.bind_eq_some_iff.mp ran
    rw [List.cons_append, run, stepped]
    exact ih later

/-- A run that goes on has reached a state before. -/
theorem exists_of_run_append {more : List ε} (ran : run step start (events ++ more) = some final) :
    ∃ middle, run step start events = some middle ∧ run step middle more = some final := by
  induction events generalizing start with
  | nil => exact ⟨start, rfl, ran⟩
  | cons event rest ih =>
    obtain ⟨next, stepped, later⟩ := Option.bind_eq_some_iff.mp ran
    obtain ⟨middle, first, last⟩ := ih later
    refine ⟨middle, ?_, last⟩
    rw [run, stepped]
    exact first

/-- A check that a run ends in a state with a property gives that state. -/
theorem exists_of_run {property : σ → Bool}
    (checked : (run step start events).any property = true) :
    ∃ state, run step start events = some state ∧ property state = true := by
  cases ran : run step start events with
  | none => simp [ran] at checked
  | some state => exact ⟨state, rfl, by simpa [ran] using checked⟩

end Runs

section Simulation

variable {σ τ ε κ : Type}

/-- What the steps of a run stand for in another system. -/
def labels (step : σ → ε → Option σ) (label : σ → ε → κ) : σ → List ε → List κ
  | _, [] => []
  | state, event :: events =>
    label state event :: (step state event).elim [] fun next => labels step label next events

/-- A system in which every step is followed by the step it stands for in another one is followed
by it along every run. -/
theorem run_simulates {step : σ → ε → Option σ} {other : τ → κ → Option τ} {label : σ → ε → κ}
    {relates : σ → τ → Prop} {start final : σ} {first : τ} {events : List ε}
    (follows : ∀ state event next view, relates state view → step state event = some next →
      ∃ after, other view (label state event) = some after ∧ relates next after)
    (related : relates start first) (ran : run step start events = some final) :
    ∃ last, run other first (labels step label start events) = some last ∧ relates final last := by
  induction events generalizing start first with
  | nil =>
    obtain rfl := Option.some.inj ran
    exact ⟨first, rfl, related⟩
  | cons event events ih =>
    obtain ⟨next, stepped, rest⟩ := Option.bind_eq_some_iff.mp ran
    obtain ⟨after, moved, still⟩ := follows start event next first related stepped
    obtain ⟨last, ranOn, reached⟩ := ih still rest
    refine ⟨last, ?_, reached⟩
    rw [labels, stepped, Option.elim_some, run, moved, Option.bind_some]
    exact ranOn

end Simulation

section Loops

/-- Rounds of a loop, one after another, lead from a state to the one in which it is left. -/
inductive Ends {σ : Type} (round : σ → Option σ) : σ → σ → Prop
  /-- The loop is left. -/
  | left {state : σ} (done : round state = none) : Ends round state state
  /-- The loop goes round once more. -/
  | again {state next final : σ} (taken : round state = some next) (rest : Ends round next final) :
    Ends round state final

end Loops

section Traces

variable {ε : Type}

/-- Every request in a trace comes after an effect that grants it. -/
def Preceded (grants : ε → ε → Prop) (request : ε → Prop) (trace : List ε) : Prop :=
  ∀ before effect after, trace = before ++ effect :: after → request effect →
    ∃ earlier ∈ before, grants earlier effect

variable {grants : ε → ε → Prop} {request : ε → Prop} {trace suffix : List ε}

/-- An empty trace makes no request. -/
theorem preceded_nil : Preceded grants request [] := by
  intro before effect after split
  simp at split

/-- A trace stays good when each request appended to it is already granted in it. -/
theorem Preceded.append (good : Preceded grants request trace)
    (granted : ∀ effect ∈ suffix, request effect → ∃ earlier ∈ trace, grants earlier effect) :
    Preceded grants request (trace ++ suffix) := by
  intro before effect after split requested
  rcases List.append_eq_append_iff.mp split with ⟨middle, inSuffix, rest⟩ | ⟨middle, inTrace, rest⟩
  · have member : effect ∈ suffix := by simp [rest]
    obtain ⟨earlier, found, grant⟩ := granted effect member requested
    exact ⟨earlier, by simp [inSuffix, found], grant⟩
  · cases middle with
    | nil =>
      have member : effect ∈ suffix := by
        rw [List.nil_append] at rest
        simp [← rest]
      obtain ⟨earlier, found, grant⟩ := granted effect member requested
      exact ⟨earlier, by simpa [inTrace] using found, grant⟩
    | cons head middle =>
      obtain ⟨rfl, rfl⟩ := List.cons.inj rest
      exact good before effect middle inTrace requested

/-- Every effect in a trace that has an answer is directly followed by it. -/
def Followed (answer : ε → Option ε) (trace : List ε) : Prop :=
  ∀ before effect after reply, trace = before ++ effect :: after → answer effect = some reply →
    ∃ rest, after = reply :: rest

variable {answer : ε → Option ε} {effect reply : ε}

/-- A trace without effects that have an answer. -/
theorem followed_of_quiet (quiet : ∀ effect ∈ trace, answer effect = none) :
    Followed answer trace := by
  intro before effect after reply split answered
  have member : effect ∈ trace := by simp [split]
  rw [quiet effect member] at answered
  cases answered

/-- An effect and its answer. -/
theorem followed_pair (answers : answer effect = some reply) (quiet : answer reply = none) :
    Followed answer [effect, reply] := by
  intro before other after response split answered
  match before, split with
  | [], split =>
    obtain ⟨rfl, rfl⟩ := List.cons.inj split
    rw [answers] at answered
    exact ⟨[], by rw [Option.some.inj answered]⟩
  | [first], split =>
    obtain ⟨-, same⟩ := List.cons.inj split
    obtain ⟨rfl, -⟩ := List.cons.inj same
    rw [quiet] at answered
    cases answered
  | first :: second :: more, split => simp at split

/-- Answers stay where they are when a trace goes on. -/
theorem Followed.append (good : Followed answer trace) (more : Followed answer suffix) :
    Followed answer (trace ++ suffix) := by
  intro before effect after reply split answered
  rcases List.append_eq_append_iff.mp split with ⟨middle, inSuffix, rest⟩ | ⟨middle, inTrace, rest⟩
  · exact more middle effect after reply rest answered
  · cases middle with
    | nil => exact more [] effect after reply rest.symm answered
    | cons head middle =>
      obtain ⟨rfl, rfl⟩ := List.cons.inj rest
      obtain ⟨left, rfl⟩ := good before effect middle reply inTrace answered
      exact ⟨left ++ suffix, rfl⟩

end Traces

end Overplus
