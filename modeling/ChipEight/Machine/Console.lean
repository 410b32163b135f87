import ChipEight.Machine.Cycle

/-!
# Console

A machine together with the clock that it reads. Everything that happens to a running machine is
one of four events: the clock is set, the clock is moved on, a key is pressed or let go, or a cycle
is due.
-/

namespace ChipEight

/-- A machine and the reading of its clock. -/
structure Console where
  machine : Machine
  now : Seconds

/-- What can happen to a running machine. -/
inductive Event where
  /-- The clock is set to a reading. -/
  | setClock (reading : Seconds)
  /-- The clock moves on by a number of seconds. -/
  | advanceClock (seconds : Seconds)
  /-- A key is pressed or let go. -/
  | key (key : Key) (down : Bool)
  /-- A cycle is due. -/
  | step

/-- What a cycle answered and printed. -/
structure CycleReport where
  result : Except MachineError (Option Flow)
  trace : String

namespace Console

/-- One cycle at the reading of the clock. -/
def step (tracing : Bool) (console : Console) : Console × CycleReport :=
  let attempt := console.machine.step tracing console.now
  ({ console with machine := attempt.machine }, ⟨attempt.result, attempt.trace⟩)

/-- The clock moves on. -/
def advanceClock (console : Console) (seconds : Seconds) : Console :=
  { console with now := console.now + seconds }

/-- A key is pressed or let go. -/
def pressKey (console : Console) (key : Key) (down : Bool) : Console :=
  { console with
    machine := { console.machine with keypad := console.machine.keypad.assign key down } }

/-- One event. There is a report exactly when a cycle was due. -/
def react (tracing : Bool) (console : Console) : Event → Console × Option CycleReport
  | .setClock reading => ({ console with now := reading }, none)
  | .advanceClock seconds => (console.advanceClock seconds, none)
  | .key key down => (console.pressKey key down, none)
  | .step => let (after, report) := console.step tracing; (after, some report)

/-- Events in order, with the reports of the cycles among them. -/
def run (tracing : Bool) (console : Console) : List Event → Console × List CycleReport
  | [] => (console, [])
  | event :: rest =>
    let (after, report) := console.react tracing event
    let (final, reports) := after.run tracing rest
    (final, report.toList ++ reports)

/-- A machine and a cycle report of a series of cycles. -/
structure Recorded where
  machine : Machine
  report : CycleReport

/-- A series of cycles, each after the clock has moved on by the same time. It ends after `count`
cycles or after the first one that fails. -/
def runCycles (tracing : Bool) (console : Console) (seconds : Seconds) :
    Nat → Console × List Recorded
  | 0 => (console, [])
  | count + 1 =>
    let (after, report) := (console.advanceClock seconds).step tracing
    match report.result with
    | .error _ => (after, [⟨after.machine, report⟩])
    | .ok _ =>
      let (final, later) := after.runCycles tracing seconds count
      (final, ⟨after.machine, report⟩ :: later)

end Console

end ChipEight
