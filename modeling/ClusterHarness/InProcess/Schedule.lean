import ClusterHarness.InProcess.Client
import ClusterHarness.InProcess.Start

/-!
# The schedule

Which task runs when. While something can be done the clock stands still, and all tasks take turns:
first those of applications, each until it waits for an answer, and then those of members. When nothing
is left to do, the clock goes on to the next time at which something is due.
-/

namespace ClusterHarness.InProcess

namespace State

/-- Whether the task of an application stops here to let others run. -/
def pauses (s : State) (r : RunId) : Bool :=
  match s.runs[r]? with
  | some x => (x.stage matches .sent .. | .ended _)
  | none => true

/-- Lets the task of an application go on until it pauses, for some steps at most. -/
def continueRun (r : RunId) : (steps : Nat) → State → State
  | 0, s => s
  | steps + 1, s =>
    if s.pauses r then s
    else
      match s.stepRun? r with
      | some s => continueRun r steps s
      | none => s

/-- The turn of the task of an application. -/
def turnOfRun (s : State) (r : RunId) : State :=
  match s.stepRun? r with
  | some s => continueRun r (ExceptionGeneration.trials.length + 2) s
  | none => s

/-- The turn of the task of a member. -/
def turnOfSeat (s : State) (l : LaunchId) (i : Nat) : State :=
  ((s.leaveSeat? l i).orElse fun _ => s.joinSeat? l i).getD s

def turnOfLaunch (s : State) (l : LaunchId) : State :=
  match s.launches[l]? with
  | some x => (List.range x.seats.length).foldl (fun s i => s.turnOfSeat l i) s
  | none => s

/-- One turn for each task. -/
def round (s : State) : State :=
  let s := (List.range s.runs.length).foldl turnOfRun s
  (List.range s.launches.length).foldl turnOfLaunch s

/-- Whether the task of a member can do something now. -/
def seatIsReady (s : State) (x : Launch) (seat : Seat) : Bool :=
  match seat.stage with
  | .due time => x.shutdown || time ≤ s.now
  | .joined => x.shutdown
  | _ => false

/-- Whether some task can do something now. -/
def isBusy (s : State) : Bool :=
  s.runs.any (fun x => !(x.stage matches .ended _))
    || s.launches.any fun x => x.seats.any (s.seatIsReady x)

/-- Rounds until nothing can be done any more, so many at most. -/
def rounds : (limit : Nat) → State → State
  | 0, s => s
  | limit + 1, s => if s.isBusy then rounds limit s.round else s

/-- How many rounds there can be at most: a run pauses once in each trial, and a member joins and leaves
once. -/
def roundLimit : Nat := ExceptionGeneration.trials.length + 3

/-- Lets all tasks do what they can do now. -/
def settle (s : State) : State := s.rounds roundLimit

/-- The time at which a task of a member goes on by itself. -/
def dueTime? (seat : Seat) : Option Nat :=
  match seat.stage with
  | .due time => some time
  | _ => none

def dueTimes (s : State) : List Nat := s.launches.flatMap fun x => x.seats.filterMap dueTime?

def nextDue? (s : State) : Option Nat := s.dueTimes.min?

/-- Lets time pass up to a moment, in so many leaps at most. What is due at that very moment has not
happened yet. -/
def passUntil (target : Nat) : (leaps : Nat) → State → State
  | 0, s => { s with now := target }
  | leaps + 1, s =>
    let s := s.settle
    match s.nextDue? with
    | some time =>
      if time < target then passUntil target leaps { s with now := time } else { s with now := target }
    | none => { s with now := target }

/-- Lets some time pass. With no time at all, nothing else runs. -/
def pass (duration : Nat) (s : State) : State :=
  if duration = 0 then s else passUntil (s.now + duration) (s.dueTimes.length + 1) s

/-- Lets time pass until something holds, in so many leaps at most. There is no result when it never
will. -/
def waitUntil (holds : State → Bool) : (leaps : Nat) → State → Option State
  | 0, _ => none
  | leaps + 1, s =>
    let s := s.settle
    if holds s then some s
    else
      match s.nextDue? with
      | some time => waitUntil holds leaps { s with now := time }
      | none => none

/-- Lets time pass until something holds. -/
def await (holds : State → Bool) (s : State) : Option State :=
  s.waitUntil holds (s.dueTimes.length + 1)

end State

end ClusterHarness.InProcess
