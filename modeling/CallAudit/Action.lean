import CallAudit.Event
import CallAudit.Failure

/-!
# Answers and actions

What comes out of an operation: a value or a failure, and the events on the way to it. An action also
changes a state, and keeps the changes and events of its parts up to the one that fails.
-/

namespace CallAudit

/-- The outcome of an operation that changes nothing. -/
structure Answer (α : Type) where
  events : List Event
  outcome : Except Failure α

def Answer.ok {α : Type} (a : α) : Answer α := ⟨[], .ok a⟩

def Answer.ofExcept {α : Type} (outcome : Except Failure α) : Answer α := ⟨[], outcome⟩

/-- The outcome of an operation on a state. -/
structure Change (σ α : Type) where
  state : σ
  events : List Event
  outcome : Except Failure α

/-- An operation on a state. -/
def Action (σ α : Type) : Type := σ → Change σ α

namespace Action

variable {σ τ α β : Type}

def run (action : Action σ α) (state : σ) : Change σ α := action state

def ok (a : α) : Action σ α := fun state => ⟨state, [], .ok a⟩

/-- The second action takes place if the first does not fail. -/
def andThen (first : Action σ α) (second : α → Action σ β) : Action σ β := fun state =>
  let change := first state
  match change.outcome with
  | .ok a =>
    let next := second a change.state
    ⟨next.state, change.events ++ next.events, next.outcome⟩
  | .error failure => ⟨change.state, change.events, .error failure⟩

instance : Monad (Action σ) where
  pure := ok
  bind := andThen

def fail (failure : Failure) : Action σ α := fun state => ⟨state, [], .error failure⟩

def report (event : Event) : Action σ Unit := fun state => ⟨state, [event], .ok ()⟩

def read : Action σ σ := fun state => ⟨state, [], .ok state⟩

def write (state : σ) : Action σ Unit := fun _ => ⟨state, [], .ok ()⟩

def ofAnswer (answer : Answer α) : Action σ α := fun state => ⟨state, answer.events, answer.outcome⟩

def ofExcept (outcome : Except Failure α) : Action σ α := fun state => ⟨state, [], outcome⟩

/-- An action on a part of a state, given how to replace that part. -/
def onPart (part : σ → τ) (replace : σ → τ → σ) (action : Action τ α) : Action σ α := fun state =>
  let change := action (part state)
  ⟨replace state change.state, change.events, change.outcome⟩

@[simp] theorem run_pure (a : α) (state : σ) :
    (pure a : Action σ α).run state = ⟨state, [], .ok a⟩ := rfl

@[simp] theorem run_ofExcept_ok_bind (a : α) (second : α → Action σ β) (state : σ) :
    (ofExcept (.ok a) >>= second).run state = (second a).run state := rfl

theorem run_bind_of_error {first : Action σ α} {second : α → Action σ β} {state : σ}
    {failure : Failure} (h : (first.run state).outcome = .error failure) :
    (first >>= second).run state =
      ⟨(first.run state).state, (first.run state).events, .error failure⟩ := by
  unfold run at h
  simp only [run, bind, andThen, h]

theorem run_bind_of_ok {first : Action σ α} {second : α → Action σ β} {state : σ} {a : α}
    (h : (first.run state).outcome = .ok a) :
    (first >>= second).run state =
      let next := (second a).run (first.run state).state
      ⟨next.state, (first.run state).events ++ next.events, next.outcome⟩ := by
  unfold run at h
  simp only [run, bind, andThen, h]

theorem outcome_bind (first : Action σ α) (second : α → Action σ β) (state : σ) :
    ((first >>= second).run state).outcome =
      (first.run state).outcome >>= fun a => ((second a).run (first.run state).state).outcome := by
  cases houtcome : (first.run state).outcome with
  | error failure =>
    rw [run_bind_of_error houtcome]
    rfl
  | ok a =>
    rw [run_bind_of_ok houtcome]
    rfl

theorem run_read_bind (second : σ → Action σ β) (state : σ) :
    (read >>= second).run state = (second state).run state := rfl

end Action

end CallAudit
