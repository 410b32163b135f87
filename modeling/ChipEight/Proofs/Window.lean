import ChipEight.Proofs.Bitmap
import ChipEight.Proofs.Course
import ChipEight.Proofs.Painting

/-!
# The window shows the display

The display counts as changed after a cycle exactly if the cycle completed an instruction that
clears it or draws on it. Any other cycle leaves the display alone, whether it comes too early,
looks at the keypad, executes something else or fails. A session therefore loses nothing when it
paints the window only after the cycles that count: after every frame each square of the window is
read back as the pixel of the display that it stands for.
-/

namespace ChipEight

namespace Execution

/-- Whether an execution completes an instruction that clears the display or draws on it. -/
def shows (execution : Execution) : Bool :=
  execution.isCompleted && match execution.instruction with
    | .clearDisplay => true
    | .draw _ _ _ => true
    | _ => false

/-- An execution that shows something marks the display as changed. Any other one leaves the display
and its mark alone. -/
theorem shows_cases (execution : Execution) (valid : execution.found.InRange) :
    (execution.shows = true ∧ execution.outcome.1.redraw = true) ∨
      (execution.shows = false ∧ execution.outcome.1.redraw = execution.found.redraw ∧
        execution.outcome.1.display = execution.found.display) := by
  obtain ⟨found, instruction⟩ := execution
  by_cases clear : instruction = .clearDisplay
  · subst clear
    exact Or.inl ⟨rfl, rfl⟩
  by_cases draws : ∃ x y height, instruction = .draw x y height
  · obtain ⟨x, y, height, rfl⟩ := draws
    rcases draw_cases valid x y height with ⟨sprite, display, hit, _, _, left⟩ | ⟨fault, left⟩
    · refine Or.inl ⟨?_, ?_⟩
      · rw [shows, isCompleted, left]
        rfl
      · rw [left]
    · refine Or.inr ⟨?_, ?_, ?_⟩
      · rw [shows, isCompleted, left]
        rfl
      · rw [left]
      · rw [left]
  · have notDraw : ∀ x y height, instruction ≠ .draw x y height := fun x y height same =>
      draws ⟨x, y, height, same⟩
    refine Or.inr ⟨?_, found.execute_redraw clear notDraw, found.execute_display clear notDraw⟩
    cases instruction with
    | clearDisplay => exact absurd rfl clear
    | draw x y height => exact absurd rfl (notDraw x y height)
    | _ => exact Bool.and_false _

end Execution

namespace Console

variable {console : Console}

/-- After a cycle of a reachable console the display counts as changed exactly if the cycle showed
something, and without that it is as it was. A cycle that shows something does not fail. -/
theorem Reachable.step_shows (reachable : Reachable console) (tracing : Bool) :
    (console.step tracing).1.machine.redraw = (console.execution? .step).any Execution.shows ∧
      ((console.execution? .step).any Execution.shows = false →
        (console.step tracing).1.machine.display = console.machine.display) ∧
      ((console.execution? .step).any Execution.shows = true →
        ∃ answer, (console.step tracing).2.result = .ok answer) := by
  have cycle := console.step_cycle tracing
  have mark := cycle.part_begun Machine.redraw fun _ _ _ _ _ _ => rfl
  have display := cycle.part_begun Machine.display fun _ _ _ _ _ _ => rfl
  change _ = ((console.machine.execution? console.now).any Execution.shows) ∧
    ((console.machine.execution? console.now).any Execution.shows = false → _) ∧
    ((console.machine.execution? console.now).any Execution.shows = true → _)
  cases executes : console.machine.execution? console.now with
  | none =>
    rw [executes] at mark display
    exact ⟨mark, fun _ => display, nofun⟩
  | some execution =>
    rw [executes] at mark display
    obtain ⟨_, _, found, _⟩ := Machine.Cycle.of_execution? executes
    have valid : execution.found.InRange := by
      rw [found]
      exact { reachable.inRange with }
    have unmarked : execution.found.redraw = false := by
      rw [found]
      rfl
    have before : execution.found.display = console.machine.display := by
      rw [found]
      rfl
    rw [Option.any_some]
    rcases execution.shows_cases valid with ⟨shows, marked⟩ | ⟨hidden, kept, same⟩
    · rw [shows]
      have completed : execution.isCompleted = true := (Bool.and_eq_true_iff.mp shows).1
      obtain ⟨flow, _, answered, _⟩ := cycle.of_isCompleted executes completed
      exact ⟨mark.trans marked, nofun, fun _ => ⟨_, answered⟩⟩
    · rw [hidden]
      exact ⟨mark.trans (kept.trans unmarked), fun _ => display.trans (same.trans before), nofun⟩

end Console

namespace Screen

variable (pixels : Mosaic Color)

/-- The machine's window is as large as its squares are together, whatever is painted on it. -/
theorem standard_fitted : (standard.withPixels pixels).Fitted :=
  ⟨show (0 : Int) < 64 by decide, show (0 : Int) < 15 by decide, rfl, rfl⟩

/-- The two colours of the machine's window can be told apart. -/
theorem standard_colors : lightBlue ≠ blue := by decide

/-- The coordinates of the machine's window and of its squares are small. -/
theorem standard_takes {place : Int} (least : 0 ≤ place) (greatest : place < 64) :
    (standard.withPixels pixels).surface.coordinates.Takes
      (place * (standard.withPixels pixels).scale) := by
  have scale : (standard.withPixels pixels).scale = 15 := rfl
  rw [scale]
  exact Or.inr (by omega)

/-- The entries of the display can be placed on the machine's window. -/
theorem standard_places {number : Nat} (entry : number < 2048) :
    (standard.withPixels pixels).Places number := by
  obtain ⟨column, row⟩ : (standard.withPixels pixels).columnOf number = number % 64 ∧
      (standard.withPixels pixels).rowOf number = number / 64 :=
    columnOf_rowOf (standard_fitted pixels).columns number
  have size : (standard.withPixels pixels).scale = 15 := rfl
  refine ⟨?_, ?_, Or.inr (by omega)⟩
  · rw [column]
    exact standard_takes pixels (by omega) (by omega)
  · rw [row]
    exact standard_takes pixels (by omega) (by omega)

/-- Painting the display on the machine's window is not refused, and every square is read back as
the pixel that it stands for. -/
theorem render_display (display : Display 64 32) :
    ∃ painted, (standard.withPixels pixels).render display.pixels.toList =
        (standard.withPixels painted, .ok ()) ∧
      ∀ column row, Display.Inside 64 32 column row →
        ∃ lit, (standard.withPixels painted).readSquare column row = .ok lit ∧
          display.query column row = .ok lit := by
  have places : ∀ number : Nat, number < display.pixels.toList.length →
      (standard.withPixels pixels).Places number := by
    intro number entry
    rw [Vector.length_toList] at entry
    exact standard_places pixels entry
  obtain ⟨painted, rendered, -⟩ := render_eq (standard_fitted pixels) places
  refine ⟨painted, rendered, ?_⟩
  intro column row inside
  obtain ⟨pixel, named, number⟩ := Display.cellAt_of_inside inside
  have readBack := readSquare_render (standard_fitted pixels) standard_colors places inside
    (standard_takes pixels inside.1.1 inside.1.2)
    (standard_takes pixels inside.2.1 (by have := inside.2.2; omega))
  rw [rendered] at readBack
  refine ⟨_, readBack, (Display.query_of_cellAt named).trans ?_⟩
  have entry : (row * (standard.withPixels pixels).columns + column).toNat = pixel.val := by
    change (Display.pixelNumber 64 column row).toNat = _
    rw [← number]
    rfl
  rw [entry, Vector.getElem?_toList, Vector.getElem?_eq_getElem pixel.isLt, Display.isLit]
  cases display.pixels[pixel.val] <;> rfl

end Screen

/-- Whether the cycle of a frame completed an instruction that clears the display or draws on it. -/
def Iteration.shows (iteration : Iteration) : Bool :=
  (iteration.due.execution? .step).any Execution.shows

namespace Session

/-- The window shows the display: every square is read back as the pixel that it stands for. -/
def ShowsDisplay (session : Session) : Prop :=
  ∀ column row, Display.Inside 64 32 column row →
    ∃ lit, session.screen.readSquare column row = .ok lit ∧
      session.console.machine.display.query column row = .ok lit

/-- What holds of a session between its frames: its console is reachable, its window is the
machine's, and the window shows the display. -/
structure UpToDate (session : Session) : Prop where
  reachable : session.console.Reachable
  window : ∃ pixels, session.screen = Screen.standard.withPixels pixels
  shows : session.ShowsDisplay

/-- Before the first frame the window and the display are both dark. -/
theorem upToDate_start {program : List UInt8} {now : Seconds} {random : RandomSource}
    {shiftInPlace : Bool} {machine : Machine}
    (started : Machine.boot program now random shiftInPlace = .ok machine) (file printed : String) :
    (start machine now file printed).UpToDate := by
  refine ⟨.booted started, ⟨.plain Screen.blue, rfl⟩, ?_⟩
  intro column row inside
  obtain ⟨_, rfl⟩ := (Machine.boot_eq_ok_iff ..).mp started
  refine ⟨false, ?_, Display.query_dark inside⟩
  exact (Screen.readSquare_eq (Screen.standard_fitted (.plain Screen.blue)) inside
    (Screen.standard_takes _ inside.1.1 inside.1.2)
    (Screen.standard_takes _ inside.2.1 (Int.lt_trans inside.2.2 (by decide)))).2.2

/-- After painting, the window shows the display. -/
theorem upToDate_paint {session : Session} (reachable : session.console.Reachable)
    (window : ∃ pixels, session.screen = Screen.standard.withPixels pixels) :
    session.paint.UpToDate := by
  obtain ⟨pixels, same⟩ := window
  obtain ⟨painted, rendered, squares⟩ :=
    Screen.render_display pixels session.console.machine.display
  have left : session.paint.screen = Screen.standard.withPixels painted := by
    rw [paint, same, rendered]
  refine ⟨reachable, ⟨painted, left⟩, ?_⟩
  unfold ShowsDisplay
  rw [left]
  exact squares

variable {session : Session} (tracing : Bool) (seconds : Seconds)

/-- A frame leaves the window up to date, and paints it exactly if its cycle shows something. -/
theorem UpToDate.frame (before : session.UpToDate) (events : List HostEvent) :
    (session.frame tracing seconds events).1.UpToDate ∧
      (session.frame tracing seconds events).1.renders = session.renders ++
        if ((session.console.due seconds events).execution? .step).any Execution.shows then
          [session.frames + 1]
        else [] := by
  have reachable := before.reachable.due seconds events
  have after : ((session.console.due seconds events).step tracing).1.Reachable :=
    reachable.react tracing .step
  obtain ⟨marked, kept, completed⟩ := reachable.step_shows tracing
  cases shown : ((session.console.due seconds events).execution? .step).any Execution.shows with
  | true =>
    rw [shown] at marked
    obtain ⟨answer, outcome⟩ := completed shown
    rw [frame_of_ok outcome]
    change (session.stepped tracing seconds events).console.machine.redraw = true at marked
    rw [if_pos marked]
    exact ⟨upToDate_paint after before.window, rfl⟩
  | false =>
    rw [shown] at marked
    have same : ((session.console.due seconds events).step tracing).1.machine.display =
        session.console.machine.display := by
      rw [kept shown, Console.due_machine]
    have unpainted : (session.frame tracing seconds events).1 =
        session.stepped tracing seconds events := by
      cases outcome : ((session.console.due seconds events).step tracing).2.result with
      | error error => rw [frame_of_error outcome]
      | ok answer =>
        rw [frame_of_ok outcome]
        change (session.stepped tracing seconds events).console.machine.redraw = false at marked
        exact if_neg (Bool.eq_false_iff.mp marked)
    rw [unpainted, if_neg Bool.false_ne_true, List.append_nil]
    refine ⟨⟨after, before.window, ?_⟩, rfl⟩
    intro column row inside
    obtain ⟨lit, readBack, queried⟩ := before.shows column row inside
    refine ⟨lit, readBack, ?_⟩
    change ((session.console.due seconds events).step tracing).1.machine.display.query _ _ = _
    rw [same]
    exact queried

/-- Each frame of a course leaves the window up to date, and the console that its cycle leaves. -/
theorem UpToDate.course (before : session.UpToDate) (frames : List (List HostEvent)) :
    ∀ iteration ∈ session.course tracing seconds frames, iteration.after.UpToDate ∧
      iteration.due.Reachable ∧ iteration.after.console = (iteration.due.step tracing).1 := by
  induction frames generalizing session with
  | nil => exact fun _ listed => absurd listed List.not_mem_nil
  | cons events rest inductionHypothesis =>
    have upToDate := (before.frame tracing seconds events).1
    have stepped := (frame_stepped tracing seconds session events).1
    have due := before.reachable.due seconds events
    rcases framed : session.frame tracing seconds events with ⟨after, _ | exit⟩
    · rw [framed] at upToDate stepped
      rw [(course_of_goesOn tracing seconds framed rest).2, List.forall_mem_cons]
      exact ⟨⟨upToDate, due, stepped⟩, inductionHypothesis upToDate⟩
    · rw [framed] at upToDate stepped
      rw [(course_of_ends tracing seconds framed rest).2, List.forall_mem_singleton]
      exact ⟨upToDate, due, stepped⟩

/-- The frames that paint the window are those whose cycles show something. -/
theorem UpToDate.renders_play (before : session.UpToDate) (frames : List (List HostEvent)) :
    (session.play tracing seconds frames).1.renders = session.renders ++
      ((session.course tracing seconds frames).filter Iteration.shows).map (·.after.frames) := by
  induction frames generalizing session with
  | nil => exact (List.append_nil _).symm
  | cons events rest inductionHypothesis =>
    obtain ⟨upToDate, painted⟩ := before.frame tracing seconds events
    have counted := (frame_stepped tracing seconds session events).2
    rw [← counted] at painted
    rcases framed : session.frame tracing seconds events with ⟨after, _ | exit⟩
    · rw [framed] at painted upToDate
      obtain ⟨playing, listing⟩ := course_of_goesOn tracing seconds framed rest
      rw [playing, listing, inductionHypothesis upToDate, painted, List.append_assoc,
        List.filter_cons, Iteration.shows]
      split <;> rfl
    · rw [framed] at painted
      obtain ⟨playing, listing⟩ := course_of_ends tracing seconds framed rest
      rw [playing, listing, painted, List.filter_cons, Iteration.shows]
      split <;> rfl

end Session

/-- In every session of a program the window shows the display after each frame, whether its cycle
came too early, looked at the keypad, executed something or failed. A cycle that changes the display
marks it as changed, and painting the window once more would show nothing else. The frames that
painted the window are those whose cycles completed an instruction that clears the display or draws
on it.

Proof: a frame whose cycle shows something paints the window, and every square is then read back as
its pixel. Any other frame leaves the window and the display as they were. -/
theorem Program.window_shows_display {program : List UInt8} {random : RandomSource}
    {shiftInPlace : Bool} {machine : Machine}
    (started : Machine.boot program 0 random shiftInPlace = .ok machine) (file : String)
    (frames : List (List HostEvent)) (seconds : Seconds) (tracing : Bool) :
    let transcript := runFile file (.ok program) shiftInPlace frames seconds random tracing
    let course := (Session.start machine 0 file (reportWhen tracing
      (Memory.loadNotice program))).course tracing seconds (frames ++ [[.quit]])
    (∃ last, course.getLast? = some last ∧ transcript.session = some last.after ∧
      course.map (·.after.frames) = List.range' 1 course.length ∧
      last.after.renders = (course.filter Iteration.shows).map (·.after.frames)) ∧
    ∀ iteration ∈ course, iteration.after.console = (iteration.due.step tracing).1 ∧
      iteration.after.ShowsDisplay ∧
      (iteration.after.console.machine.display ≠ iteration.due.machine.display →
        iteration.after.console.machine.redraw = true) ∧
      ∀ column row, Display.Inside 64 32 column row →
        iteration.after.paint.screen.readSquare column row =
          iteration.after.screen.readSquare column row := by
  intro transcript course
  have upToDate := Session.upToDate_start started file
    (reportWhen tracing (Memory.loadNotice program))
  have ran : transcript = _ := runFile_of_started started file frames seconds tracing
  constructor
  · obtain ⟨last, listed, left⟩ := Session.exists_last_of_course tracing seconds
      (Session.start machine 0 file (reportWhen tracing (Memory.loadNotice program)))
      (List.append_ne_nil_of_right_ne_nil frames (List.cons_ne_nil [HostEvent.quit] []))
    refine ⟨last, listed, ?_, Session.frames_of_course tracing seconds _ _, ?_⟩
    · rw [ran, left]
    · rw [← left, upToDate.renders_play]
      rfl
  · intro iteration listed
    obtain ⟨after, reachable, stepped⟩ := upToDate.course tracing seconds _ iteration listed
    obtain ⟨marked, kept, -⟩ := reachable.step_shows tracing
    refine ⟨stepped, after.shows, ?_, ?_⟩
    · intro changed
      rw [stepped] at changed ⊢
      rw [marked]
      exact (Bool.not_eq_false _).mp fun hidden => changed (kept hidden)
    · intro column row inside
      obtain ⟨lit, readBack, queried⟩ := after.shows column row inside
      obtain ⟨again, readAgain, queriedAgain⟩ :=
        (Session.upToDate_paint after.reachable after.window).shows column row inside
      obtain rfl : lit = again := Except.ok.inj (queried.symm.trans queriedAgain)
      rw [readAgain, readBack]

/-- A program that draws a glyph and returns without a call. Its second cycle comes too early and
its third one fails: the first frame alone paints the window, which shows the glyph in the end. -/
theorem Program.window_shows_display_of_draw_first :
    ∃ machine, Machine.boot [0xD0, 0x05, 0x00, 0xEE] 0 (.cycling #[]) false = .ok machine ∧
      let transcript := runFile "glyph" (.ok [0xD0, 0x05, 0x00, 0xEE]) false
        [[.keyDown "1"], [.other], [], [.other]] 0.0009 (.cycling #[]) false
      ∃ final, transcript.session = some final ∧ final.frames = 3 ∧ final.renders = [1] ∧
        final.screen.readSquare 0 0 = .ok true := by
  obtain ⟨machine, started, painted, number, lit⟩ :
      ∃ machine, Machine.boot [0xD0, 0x05, 0x00, 0xEE] 0 (.cycling #[]) false = .ok machine ∧
        let course := (Session.start machine 0 "glyph" "").course false 0.0009
          ([[.keyDown "1"], [.other], [], [.other]] ++ [[.quit]])
        (course.filter Iteration.shows).map (·.after.frames) = [1] ∧
        course.getLast?.map (·.after.frames) = some 3 ∧
        (course.getLast?.map fun last =>
          (last.after.console.machine.display.query 0 0).toOption) = some (some true) :=
    ⟨_, (Machine.boot_eq_ok_iff _ 0 (.cycling #[]) false _).mpr ⟨by decide, rfl⟩,
      by decide +kernel⟩
  obtain ⟨⟨last, listed, left, _, renders⟩, shown⟩ := window_shows_display started "glyph"
    [[.keyDown "1"], [.other], [], [.other]] 0.0009 false
  obtain ⟨other, otherListed, counted⟩ := Option.map_eq_some_iff.mp number
  obtain rfl : last = other := Option.some.inj (listed.symm.trans otherListed)
  obtain ⟨other, otherListed, queriedLit⟩ := Option.map_eq_some_iff.mp lit
  obtain rfl : last = other := Option.some.inj (listed.symm.trans otherListed)
  refine ⟨machine, started, last.after, left, counted, renders.trans painted, ?_⟩
  obtain ⟨_, shows, _⟩ := shown last (List.mem_of_getLast? listed)
  obtain ⟨square, readBack, queried⟩ := shows 0 0 ⟨by decide, by decide⟩
  rw [queried] at queriedLit
  obtain rfl : square = true := Option.some.inj queriedLit
  exact readBack

end ChipEight
