import ClusterHarness.Error

/-!
# Bounded waits

What comes of a call that takes time, with and without a bound on the wait for it, and activities that
are made of such calls. All times are in milliseconds. A pause that is asked for is cut at thirty years,
a bound is not. A state stands for everything that a call can change.
-/

namespace ClusterHarness

/-- The longest time that a single pause takes: thirty years of 365 days. -/
def longestWait : Nat := 30 * 365 * 24 * 60 * 60 * 1000

/-- How long a pause takes that is to last for some time. -/
def waitTime (asked : Nat) : Nat := min asked longestWait

/-- What has come of an activity that ended. -/
structure Finish (σ α : Type) where
  result : Except Error α
  /-- How long it took. -/
  elapsed : Nat
  state : σ

/-- How a call goes. -/
structure Course (σ α : Type) where
  /-- What comes of the call when it is left alone. There is nothing when it never ends. -/
  finish : Option (Finish σ α)
  /-- The state that the call leaves when it is given up after some time. -/
  abandoned : Nat → σ
  /-- Whether the call ends only after everything else that happens at its last moment, so that a bound
  that is reached at that moment runs out first. -/
  late : Bool := false

namespace Course

/-- A call that ends at once. -/
def now (result : Except Error α) (state : σ) : Course σ α where
  finish := some ⟨result, 0, state⟩
  abandoned _ := state

/-- A call that takes some time and leaves the state as it is. No delay at all stands for a call that
never ends. -/
def after (delay : Option Nat) (result : Except Error α) (state : σ) : Course σ α where
  finish := delay.map fun d => ⟨result, waitTime d, state⟩
  abandoned _ := state

/-- The same course on other states. -/
def mapState (f : σ → τ) (c : Course σ α) : Course τ α where
  finish := c.finish.map fun x => ⟨x.result, x.elapsed, f x.state⟩
  abandoned t := f (c.abandoned t)
  late := c.late

/-- Whether the call ends before a bound runs out. -/
def endsWithin (limit : Nat) (c : Course σ α) : Bool :=
  match c.finish with
  | none => false
  | some x => x.elapsed < limit || (x.elapsed == limit && !c.late)

/-- What comes of waiting for the call until a bound runs out. However long it is, the bound counts in
full. -/
def within (operation : String) (limit : Nat) (c : Course σ α) : Finish σ α :=
  let timedOut : Finish σ α := ⟨.error (.timeout operation limit), limit, c.abandoned limit⟩
  match c.finish with
  | some x => if c.endsWithin limit then x else timedOut
  | none => timedOut

end Course

/-- Something that is done to a state and takes time. There is no finish when it goes on for ever. -/
def Activity (σ α : Type) : Type := σ → Option (Finish σ α)

namespace Activity

/-- Nothing is done. -/
def pure (a : α) : Activity σ α := fun s => some ⟨.ok a, 0, s⟩

def fail (e : Error) : Activity σ α := fun s => some ⟨.error e, 0, s⟩

/-- One activity, and then another unless the first fails. -/
def bind (x : Activity σ α) (next : α → Activity σ β) : Activity σ β := fun s =>
  match x s with
  | none => none
  | some ⟨.error e, elapsed, s⟩ => some ⟨.error e, elapsed, s⟩
  | some ⟨.ok a, elapsed, s⟩ =>
    match next a s with
    | none => none
    | some y => some ⟨y.result, elapsed + y.elapsed, y.state⟩

instance : Monad (Activity σ) where
  pure := Activity.pure
  bind := Activity.bind

/-- Reads something off the state, which takes no time. -/
def read (look : σ → α × σ) : Activity σ α := fun s =>
  let (a, s) := look s
  some ⟨.ok a, 0, s⟩

/-- Waits for a call as long as it takes. -/
def call (c : σ → Course σ α) : Activity σ α := fun s => (c s).finish

/-- Waits for a call until a bound runs out. -/
def bounded (operation : String) (limit : Nat) (c : σ → Course σ α) : Activity σ α := fun s =>
  some ((c s).within operation limit)

/-- Does one activity and then another, whatever comes of the first. The error of the first counts
before that of the second. -/
def andFinally (x y : Activity σ Unit) : Activity σ Unit := fun s =>
  match x s with
  | none => none
  | some first =>
    match y first.state with
    | none => none
    | some last =>
      let result := match first.result with
        | .error e => .error e
        | .ok () => last.result
      some ⟨result, first.elapsed + last.elapsed, last.state⟩

end Activity

end ClusterHarness
