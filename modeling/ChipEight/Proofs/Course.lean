import ChipEight.Host.Session
import ChipEight.Proofs.Reachability
import Mathlib.Data.List.Basic

/-!
# The course of a session

For the machine a frame is nothing but a few events: the clock moves on, keys change, and a cycle is
due. Running frames leads a console through these events and through nothing else. Which keys change
is told by the keyboard laid over the keypad. How a session reads its events does not enter into
this, and is shown to come to the same.

A session plays its frames one after the other until a frame ends it. Its course lists the frames
that it played, each with the console whose cycle was due and with the session that the frame left.
The last of them is the session that the run leaves. As long as no frame closes the window and no
cycle fails, a session passes through its frames, and its console is where running them leads.
-/

namespace ChipEight

/-- The keys of the keyboard that lie over the keys of the keypad, from the key zero on. -/
def keyboardOverlay : Vector String 16 :=
  #v["x", "1", "2", "3", "q", "w", "e", "a", "s", "d", "z", "c", "4", "r", "f", "v"]

/-- The keys of the keypad that lie under a key of the keyboard. There is at most one. -/
def keysUnder (name : String) : List Key :=
  (List.finRange 16).filter fun key => keyboardOverlay.get key = name

/-- What an event of the window means for the machine. The key under a key of the keyboard goes down
and up with it. To the machine nothing else means anything, not even that the window is to be
closed. -/
def HostEvent.meaning : HostEvent → List Event
  | keyDown name => (keysUnder name).map (.key · true)
  | keyUp name => (keysUnder name).map (.key · false)
  | quit => []
  | other => []

/-- Whether a frame closes the window. It does if the window is to be closed or the escape key goes
down, be it first or last among the events of the frame. -/
def closesWindow (events : List HostEvent) : Bool :=
  decide (.quit ∈ events ∨ .keyDown "ESCAPE" ∈ events)

/-- What a frame means for the machine: the clock moves on, the keys change as the window's events
say, one after the other, and a cycle is due. -/
def frameEvents (seconds : Seconds) (events : List HostEvent) : List Event :=
  .advanceClock seconds :: events.flatMap HostEvent.meaning ++ [.step]

/-- A session finds the key under a key of the keyboard.

Proof: the layout lists the names of the overlay and no others, and for these both find the same. -/
theorem toList_keypadKey? (name : String) : (keypadKey? name).toList = keysUnder name := by
  have found : ∀ name ∈ keyboardLayout.map Prod.fst,
      (keypadKey? name).toList = keysUnder name := by decide +kernel
  have covered : ∀ key, keyboardOverlay.get key ∈ keyboardLayout.map Prod.fst := by decide +kernel
  by_cases listed : name ∈ keyboardLayout.map Prod.fst
  · exact found name listed
  · have unknown : keypadKey? name = none := by
      rw [keypadKey?, List.lookup_eq_none_iff]
      intro place member
      exact bne_iff_ne.mpr fun same => listed (same ▸ List.mem_map_of_mem member)
    have none : keysUnder name = [] := by
      rw [keysUnder, List.filter_eq_nil_iff]
      intro key _ under
      exact listed (of_decide_eq_true under ▸ covered key)
    rw [unknown, none, Option.toList_none]

/-- A session changes the keys as its events mean. -/
theorem flatMap_meaning (events : List HostEvent) :
    events.flatMap HostEvent.meaning =
      (events.filterMap HostEvent.keyChange?).map fun (key, down) => .key key down := by
  have one (event : HostEvent) :
      event.meaning = event.keyChange?.toList.map fun (key, down) => .key key down := by
    cases event with
    | keyDown name | keyUp name =>
      rw [HostEvent.meaning, ← toList_keypadKey?, HostEvent.keyChange?]
      cases keypadKey? name <;> rfl
    | quit | other => rfl
  rw [List.filterMap_eq_flatMap_toList, List.map_flatMap]
  exact congrArg (events.flatMap ·) (funext one)

/-- A session ends after a frame that closes the window. -/
theorem any_closes (events : List HostEvent) :
    events.any HostEvent.closes = closesWindow events := by
  have one (event : HostEvent) :
      event.closes = true ↔ event = .quit ∨ event = .keyDown "ESCAPE" := by
    cases event <;> simp [HostEvent.closes, escapeKey]
  rw [Bool.eq_iff_iff, List.any_eq_true, closesWindow, decide_eq_true_eq]
  simp only [one, and_or_left, exists_or, exists_eq_right]

namespace Console

variable (tracing : Bool) (seconds : Seconds) (console : Console)

/-- The console when the cycle of a frame is due. -/
def due (events : List HostEvent) : Console :=
  Session.handleKeys (console.advanceClock seconds) events

/-- Where frames lead a console, with the reports of their cycles. Nothing ends this: a frame that
closes the window is a frame like any other here, and so is one whose cycle fails. -/
def runFrames (frames : List (List HostEvent)) : Console × List CycleReport :=
  console.run tracing (frames.flatMap (frameEvents seconds))

/-- Events are run one part after the other. -/
theorem run_append (first second : List Event) :
    console.run tracing (first ++ second) =
      (((console.run tracing first).1.run tracing second).1,
        (console.run tracing first).2 ++ ((console.run tracing first).1.run tracing second).2) := by
  induction first generalizing console with
  | nil => rfl
  | cons event rest inductionHypothesis =>
    simp only [List.cons_append, run, inductionHypothesis, List.append_assoc]

/-- Changing keys is running the events of the keypad, none of which runs a cycle. -/
theorem run_keys (changes : List (Key × Bool)) :
    console.run tracing (changes.map fun (key, down) => .key key down) =
      (changes.foldl (fun console (key, down) => console.pressKey key down) console, []) := by
  induction changes generalizing console with
  | nil => rfl
  | cons change rest inductionHypothesis =>
    rw [List.map_cons, run]
    exact Prod.ext (congrArg Prod.fst (inductionHypothesis _))
      (congrArg Prod.snd (inductionHypothesis _))

/-- Running the events of a frame up to its cycle leads to the console that is due. -/
theorem run_until_due (events : List HostEvent) :
    console.run tracing (.advanceClock seconds :: events.flatMap HostEvent.meaning) =
      (console.due seconds events, []) := by
  rw [run, flatMap_meaning]
  exact run_keys tracing (console.advanceClock seconds) _

/-- Until its cycle is due, a frame changes nothing of the machine but its keypad. -/
theorem due_machine (events : List HostEvent) :
    (console.due seconds events).machine =
      { console.machine with keypad := (console.due seconds events).machine.keypad } := by
  have keys (changes : List (Key × Bool)) (console : Console) :
      let after := changes.foldl (fun console (key, down) => console.pressKey key down) console
      after.machine = { console.machine with keypad := after.machine.keypad } := by
    induction changes generalizing console with
    | nil => rfl
    | cons change rest inductionHypothesis =>
      exact inductionHypothesis (console.pressKey change.1 change.2)
  exact keys (events.filterMap HostEvent.keyChange?) (console.advanceClock seconds)

/-- Frames are run one part after the other. -/
theorem runFrames_append (first second : List (List HostEvent)) :
    console.runFrames tracing seconds (first ++ second) =
      (((console.runFrames tracing seconds first).1.runFrames tracing seconds second).1,
        (console.runFrames tracing seconds first).2 ++
          ((console.runFrames tracing seconds first).1.runFrames tracing seconds second).2) := by
  rw [runFrames, List.flatMap_append, run_append]
  rfl

/-- Running one frame is running the cycle that is due. -/
theorem runFrames_singleton (events : List HostEvent) :
    console.runFrames tracing seconds [events] =
      (((console.due seconds events).step tracing).1,
        [((console.due seconds events).step tracing).2]) := by
  rw [runFrames, List.flatMap_singleton, frameEvents, run_append, run_until_due]
  rfl

/-- Running frames is running the cycle of the first one, and then the others. -/
theorem runFrames_cons (events : List HostEvent) (rest : List (List HostEvent)) :
    console.runFrames tracing seconds (events :: rest) =
      (((((console.due seconds events).step tracing).1).runFrames tracing seconds rest).1,
        ((console.due seconds events).step tracing).2 ::
          (((console.due seconds events).step tracing).1.runFrames tracing seconds rest).2) := by
  rw [← List.singleton_append, runFrames_append, runFrames_singleton]
  rfl

end Console

/-- The console of a reachable one when the cycle of a frame is due is reachable. -/
theorem Console.Reachable.due {console : Console} (reachable : Console.Reachable console)
    (seconds : Seconds) (events : List HostEvent) :
    Console.Reachable (console.due seconds events) := by
  have before := reachable.run false (.advanceClock seconds :: events.flatMap HostEvent.meaning)
  rw [Console.run_until_due] at before
  exact before

/-- A frame that a session has played. -/
structure Iteration where
  /-- The console when the cycle of the frame was due. -/
  due : Console
  /-- The session after the frame. -/
  after : Session

namespace Session

/-- The session after the cycle of a frame, before the window is painted. -/
def stepped (tracing : Bool) (seconds : Seconds) (session : Session) (events : List HostEvent) :
    Session :=
  { session with
    console := ((session.console.due seconds events).step tracing).1
    frames := session.frames + 1
    printed := session.printed ++ ((session.console.due seconds events).step tracing).2.trace }

/-- The frames that a session plays, up to the one that ends it. -/
def course (tracing : Bool) (seconds : Seconds) (session : Session) :
    List (List HostEvent) → List Iteration
  | [] => []
  | events :: rest =>
    match session.frame tracing seconds events with
    | (after, some _) => [⟨session.console.due seconds events, after⟩]
    | (after, none) =>
      ⟨session.console.due seconds events, after⟩ :: after.course tracing seconds rest

section Frame

variable {tracing : Bool} {seconds : Seconds} {session : Session} {events : List HostEvent}

/-- A frame whose cycle fails ends the session with the text of the crash, without painting. -/
theorem frame_of_error {error : MachineError}
    (failed : ((session.console.due seconds events).step tracing).2.result = .error error) :
    session.frame tracing seconds events =
      (session.stepped tracing seconds events,
        some (.message (crashText error
          (session.stepped tracing seconds events).console.machine))) := by
  unfold Console.due at failed
  simp only [frame, failed]
  rfl

/-- A frame whose cycle completes paints the window if the display counts as changed, and ends the
session if an event of it closes the window. -/
theorem frame_of_ok {answer : Option Flow}
    (completed : ((session.console.due seconds events).step tracing).2.result = .ok answer) :
    session.frame tracing seconds events =
      (if (session.stepped tracing seconds events).console.machine.redraw then
          (session.stepped tracing seconds events).paint
        else session.stepped tracing seconds events,
        if closesWindow events then some .finished else none) := by
  unfold Console.due at completed
  simp only [frame, completed, any_closes]
  rfl

variable (tracing seconds session events)

/-- A frame leaves the console that its cycle leaves, and is counted. Painting changes neither. -/
theorem frame_stepped :
    (session.frame tracing seconds events).1.console =
        ((session.console.due seconds events).step tracing).1 ∧
      (session.frame tracing seconds events).1.frames = session.frames + 1 := by
  cases outcome : ((session.console.due seconds events).step tracing).2.result with
  | error error =>
    rw [frame_of_error outcome]
    exact ⟨rfl, rfl⟩
  | ok answer =>
    rw [frame_of_ok outcome]
    split <;> exact ⟨rfl, rfl⟩

end Frame

variable (tracing : Bool) (seconds : Seconds)

/-- A frame that ends the session is the last one of the course. -/
theorem course_of_ends {session after : Session} {events : List HostEvent} {exit : Exit}
    (ends : session.frame tracing seconds events = (after, some exit))
    (rest : List (List HostEvent)) :
    session.play tracing seconds (events :: rest) = (after, exit) ∧
      session.course tracing seconds (events :: rest) =
        [⟨session.console.due seconds events, after⟩] := by
  simp only [play, course, ends, and_self]

/-- After a frame that does not end it the session goes on. -/
theorem course_of_goesOn {session after : Session} {events : List HostEvent}
    (goesOn : session.frame tracing seconds events = (after, none))
    (rest : List (List HostEvent)) :
    session.play tracing seconds (events :: rest) = after.play tracing seconds rest ∧
      session.course tracing seconds (events :: rest) =
        ⟨session.console.due seconds events, after⟩ :: after.course tracing seconds rest := by
  simp only [play, course, goesOn, and_self]

/-- Playing at least one frame leaves what the last frame of the course leaves. -/
theorem exists_last_of_course (session : Session) {frames : List (List HostEvent)}
    (played : frames ≠ []) :
    ∃ last, (session.course tracing seconds frames).getLast? = some last ∧
      (session.play tracing seconds frames).1 = last.after := by
  induction frames generalizing session with
  | nil => exact absurd rfl played
  | cons events rest inductionHypothesis =>
    rcases framed : session.frame tracing seconds events with ⟨after, _ | exit⟩
    · obtain ⟨playing, listing⟩ := course_of_goesOn tracing seconds framed rest
      rw [playing, listing]
      cases rest with
      | nil => exact ⟨_, rfl, rfl⟩
      | cons next later =>
        obtain ⟨last, listed, left⟩ := inductionHypothesis after (List.cons_ne_nil next later)
        refine ⟨last, ?_, left⟩
        rw [List.getLast?_cons, listed]
        rfl
    · obtain ⟨playing, listing⟩ := course_of_ends tracing seconds framed rest
      rw [playing, listing]
      exact ⟨_, rfl, rfl⟩

/-- The frames of a course are counted one after the other. -/
theorem frames_of_course (session : Session) (frames : List (List HostEvent)) :
    (session.course tracing seconds frames).map (·.after.frames) =
      List.range' (session.frames + 1) (session.course tracing seconds frames).length := by
  induction frames generalizing session with
  | nil => rfl
  | cons events rest inductionHypothesis =>
    have counted := (frame_stepped tracing seconds session events).2
    rcases framed : session.frame tracing seconds events with ⟨after, _ | exit⟩
    · rw [framed] at counted
      change after.frames = session.frames + 1 at counted
      rw [(course_of_goesOn tracing seconds framed rest).2, List.map_cons, inductionHypothesis,
        List.length_cons, List.range'_succ, counted]
    · rw [framed] at counted
      rw [(course_of_ends tracing seconds framed rest).2]
      exact congrArg (· :: []) counted

/-- The last frame of a course has its length for a number. -/
theorem frames_of_last {session : Session} {frames : List (List HostEvent)} {last : Iteration}
    (listed : (session.course tracing seconds frames).getLast? = some last) :
    last.after.frames = session.frames + (session.course tracing seconds frames).length := by
  have counted := congrArg List.getLast? (session.frames_of_course tracing seconds frames)
  rw [List.getLast?_map, listed, List.getLast?_range', Option.map_some] at counted
  split at counted
  · cases counted
  · have number := Option.some.inj counted
    omega

/-- After every frame of a course the console is where running the frames up to this one leads. -/
theorem console_of_course (session : Session) (frames : List (List HostEvent)) {position : Nat}
    {iteration : Iteration}
    (listed : (session.course tracing seconds frames)[position]? = some iteration) :
    iteration.after.console =
      (session.console.runFrames tracing seconds (frames.take (position + 1))).1 := by
  induction frames generalizing session position with
  | nil => cases listed
  | cons events rest inductionHypothesis =>
    rw [List.take_succ_cons, Console.runFrames_cons, ← (frame_stepped ..).1]
    rcases framed : session.frame tracing seconds events with ⟨after, _ | exit⟩
    · rw [(course_of_goesOn tracing seconds framed rest).2] at listed
      cases position with
      | zero =>
        obtain rfl := Option.some.inj listed
        rfl
      | succ position => exact inductionHypothesis after listed
    · rw [(course_of_ends tracing seconds framed rest).2] at listed
      cases position with
      | zero =>
        obtain rfl := Option.some.inj listed
        rfl
      | succ position => cases listed

/-- A session passes through frames that do not close the window and whose cycles complete. It then
plays what follows from where running these frames leads. -/
theorem passes (session : Session) {frames : List (List HostEvent)}
    (stayOpen : ∀ events ∈ frames, closesWindow events = false)
    (complete : ∀ report ∈ (session.console.runFrames tracing seconds frames).2,
      report.result.isOk = true) :
    ∃ (passed : Session) (iterations : List Iteration),
      passed.console = (session.console.runFrames tracing seconds frames).1 ∧
      iterations.length = frames.length ∧
      ∀ rest, session.play tracing seconds (frames ++ rest) = passed.play tracing seconds rest ∧
        session.course tracing seconds (frames ++ rest) =
          iterations ++ passed.course tracing seconds rest := by
  induction frames generalizing session with
  | nil => exact ⟨session, [], rfl, rfl, fun _ => ⟨rfl, rfl⟩⟩
  | cons events later inductionHypothesis =>
    rw [Console.runFrames_cons] at complete ⊢
    rw [← (frame_stepped ..).1] at complete ⊢
    obtain ⟨now, afterwards⟩ := List.forall_mem_cons.mp complete
    obtain ⟨first, others⟩ := List.forall_mem_cons.mp stayOpen
    cases outcome : ((session.console.due seconds events).step tracing).2.result with
    | error error => simp [outcome, Except.isOk, Except.toBool] at now
    | ok answer =>
      have goesOn : (session.frame tracing seconds events).2 = none := by
        rw [frame_of_ok outcome, first]
        rfl
      obtain ⟨passed, iterations, console, length, continues⟩ :=
        inductionHypothesis (session.frame tracing seconds events).1 others afterwards
      refine ⟨passed, ⟨session.console.due seconds events,
        (session.frame tracing seconds events).1⟩ :: iterations, console,
        congrArg Nat.succ length, ?_⟩
      intro rest
      obtain ⟨playing, listing⟩ := course_of_goesOn tracing seconds (Prod.ext rfl goesOn)
        (later ++ rest)
      obtain ⟨laterPlaying, laterListing⟩ := continues rest
      rw [List.cons_append, playing, listing, laterPlaying, laterListing, List.cons_append]
      exact ⟨rfl, rfl⟩

end Session

/-- A program file that starts a machine is played in a session of this machine, and the window is
closed after the last frame at the latest. -/
theorem Program.runFile_of_started {program : List UInt8} {random : RandomSource}
    {shiftInPlace : Bool} {machine : Machine}
    (started : Machine.boot program 0 random shiftInPlace = .ok machine) (file : String)
    (frames : List (List HostEvent)) (seconds : Seconds) (tracing : Bool) :
    let opening := Session.start machine 0 file (reportWhen tracing (Memory.loadNotice program))
    let played := opening.play tracing seconds (frames ++ [[.quit]])
    Program.runFile file (.ok program) shiftInPlace frames seconds random tracing =
      ⟨played.2, played.1.printed, "", some played.1⟩ := by
  simp only [runFile, started]

end ChipEight
