import ChipEight.Proofs.Course
import Mathlib.Control.Monad.Basic

/-!
# What a run of the program comes to

A program file that cannot be read or does not fit is reported, and nothing else happens. Any other
run is told by the console alone: its frames are run in order up to the first one that closes the
window, and the window is closed after the last frame at the latest. If all their cycles complete,
the run ends with the frame that closes the window. The first cycle that fails ends it before, with
the text of its error and the registers that it leaves.
-/

namespace ChipEight

/-- The number of the first frame that closes the window, counted from one. If none does, it is the
number of the frame after the last one. -/
def closingFrame (frames : List (List HostEvent)) : Nat :=
  frames.findIdx closesWindow + 1

section Frames

variable {frames : List (List HostEvent)}

/-- Frames are split at one of them, by its number. -/
theorem split_at_frame (position : Nat) (within : position < frames.length) :
    frames = frames.take position ++ frames[position] :: frames.drop (position + 1) ∧
      frames.take (position + 1) = frames.take position ++ [frames[position]] ∧
      (frames.take position).length = position := by
  refine ⟨?_, (List.take_append_getElem within).symm, List.length_take_of_le (Nat.le_of_lt within)⟩
  rw [← List.drop_eq_getElem_cons within, List.take_append_drop]

/-- No frame before the first one that closes the window closes it. -/
theorem stayOpen_before_closing {position : Nat} (before : position < closingFrame frames) :
    ∀ events ∈ frames.take position, closesWindow events = false := by
  intro events listed
  obtain ⟨index, bound, rfl⟩ := List.mem_take_iff_getElem.mp listed
  have earlier : index < frames.findIdx closesWindow := by
    unfold closingFrame at before
    omega
  exact List.not_of_lt_findIdx earlier

/-- The first frame that closes the window closes it. -/
theorem closes_at_closing {position : Nat} (within : position < frames.length)
    (closing : position + 1 = closingFrame frames) :
    closesWindow frames[position] = true := by
  obtain rfl : position = frames.findIdx closesWindow := Nat.succ.inj closing
  exact List.findIdx_getElem (w := within)

end Frames

namespace Session

variable (tracing : Bool) (seconds : Seconds) (session : Session)

/-- Frames that stay open and complete, and then one that ends any session whose console is where
running them leads: with this one the session ends. -/
theorem ends_after {frames : List (List HostEvent)} {events : List HostEvent} {exit : Exit}
    (stayOpen : ∀ events ∈ frames, closesWindow events = false)
    (complete : ∀ report ∈ (session.console.runFrames tracing seconds frames).2,
      report.result.isOk = true)
    (ends : ∀ passed : Session,
      passed.console = (session.console.runFrames tracing seconds frames).1 →
      (passed.frame tracing seconds events).2 = some exit)
    (rest : List (List HostEvent)) :
    (session.course tracing seconds (frames ++ events :: rest)).length = frames.length + 1 ∧
      (session.play tracing seconds (frames ++ events :: rest)).2 = exit := by
  obtain ⟨passed, iterations, console, length, continues⟩ :=
    session.passes tracing seconds stayOpen complete
  obtain ⟨playing, listing⟩ :=
    course_of_ends tracing seconds (Prod.ext rfl (ends passed console)) rest
  rw [(continues _).1, (continues _).2, playing, listing, List.length_append, length]
  exact ⟨rfl, rfl⟩

/-- Frames that stay open and complete, and then one that closes the window and completes: with this
one the session ends. -/
theorem finishes {frames : List (List HostEvent)} {events : List HostEvent}
    (stayOpen : ∀ events ∈ frames, closesWindow events = false)
    (closes : closesWindow events = true)
    (complete : ∀ report ∈ (session.console.runFrames tracing seconds (frames ++ [events])).2,
      report.result.isOk = true)
    (rest : List (List HostEvent)) :
    (session.course tracing seconds (frames ++ events :: rest)).length = frames.length + 1 ∧
      (session.play tracing seconds (frames ++ events :: rest)).2 = .finished := by
  rw [Console.runFrames_append, List.forall_mem_append] at complete
  refine session.ends_after tracing seconds stayOpen complete.1 ?_ rest
  intro passed console
  have last := complete.2
  rw [← console, Console.runFrames_singleton, List.forall_mem_singleton] at last
  cases outcome : ((passed.console.due seconds events).step tracing).2.result with
  | error error => simp [outcome, Except.isOk, Except.toBool] at last
  | ok answer =>
    rw [frame_of_ok outcome, closes]
    rfl

/-- Frames that stay open and complete, and then one whose cycle fails: with this one the session
ends. -/
theorem crashes {frames : List (List HostEvent)} {events : List HostEvent}
    (stayOpen : ∀ events ∈ frames, closesWindow events = false)
    {earlier : List CycleReport} {report : CycleReport} {error : MachineError}
    (reported : (session.console.runFrames tracing seconds (frames ++ [events])).2 =
      earlier ++ [report])
    (complete : ∀ report ∈ earlier, report.result.isOk = true)
    (failed : report.result = .error error) (rest : List (List HostEvent)) :
    (session.course tracing seconds (frames ++ events :: rest)).length = frames.length + 1 ∧
      (session.play tracing seconds (frames ++ events :: rest)).2 =
        .message (crashText error
          (session.console.runFrames tracing seconds (frames ++ [events])).1.machine) := by
  rw [Console.runFrames_append] at reported ⊢
  -- One frame has one report, so that the last report is that of the last frame.
  rw [Console.runFrames_singleton] at reported ⊢
  obtain ⟨rfl, single⟩ := List.append_inj' reported rfl
  refine session.ends_after tracing seconds stayOpen complete ?_ rest
  intro passed console
  rw [← console] at single ⊢
  obtain rfl := List.singleton_inj.mp single
  rw [frame_of_error failed]
  rfl

variable {frames : List (List HostEvent)}

/-- If all cycles up to the first frame that closes the window complete, the session ends with this
frame. -/
theorem ends_with_closing (within : closingFrame frames ≤ frames.length)
    (complete : ∀ report ∈
      (session.console.runFrames tracing seconds (frames.take (closingFrame frames))).2,
      report.result.isOk = true) :
    (session.course tracing seconds frames).length = closingFrame frames ∧
      (session.play tracing seconds frames).2 = .finished := by
  obtain ⟨position, closing⟩ : ∃ position, position + 1 = closingFrame frames := ⟨_, rfl⟩
  rw [← closing] at within complete ⊢
  obtain ⟨all, upTo, length⟩ := split_at_frame position within
  rw [upTo] at complete
  have law := session.finishes tracing seconds
    (stayOpen_before_closing (Nat.lt_of_succ_le (Nat.le_of_eq closing)))
    (closes_at_closing within closing) complete (frames.drop (position + 1))
  rw [← all, length] at law
  exact law

/-- The first cycle that fails, if it comes no later than the first frame that closes the window,
ends the session. -/
theorem ends_with_failure (within : closingFrame frames ≤ frames.length) {count : Nat}
    (early : count ≤ closingFrame frames)
    {earlier : List CycleReport} {report : CycleReport} {error : MachineError}
    (reported : (session.console.runFrames tracing seconds (frames.take count)).2 =
      earlier ++ [report])
    (complete : ∀ report ∈ earlier, report.result.isOk = true)
    (failed : report.result = .error error) :
    (session.course tracing seconds frames).length = count ∧
      (session.play tracing seconds frames).2 =
        .message (crashText error
          (session.console.runFrames tracing seconds (frames.take count)).1.machine) := by
  cases count with
  | zero => cases (List.nil_eq_append_iff.mp reported).2
  | succ position =>
    obtain ⟨all, upTo, length⟩ := split_at_frame position (Nat.le_trans early within)
    rw [upTo] at reported ⊢
    have law := session.crashes tracing seconds (stayOpen_before_closing early) reported complete
      failed (frames.drop (position + 1))
    rw [← all, length] at law
    exact law

end Session

namespace Program

/-- Closing the window after the last frame does not change which frame closes it first, and makes
sure that one of them does. -/
theorem closingFrame_append_quit (frames : List (List HostEvent)) :
    closingFrame (frames ++ [[.quit]]) = closingFrame frames ∧
      closingFrame frames ≤ (frames ++ [[HostEvent.quit]]).length := by
  unfold closingFrame
  have bounded : frames.findIdx closesWindow ≤ frames.length := List.findIdx_le_length
  constructor
  · rw [List.findIdx_append]
    split
    · rfl
    · rename_i none
      have ofQuit : [[HostEvent.quit]].findIdx closesWindow = 0 := rfl
      rw [ofQuit, Nat.zero_add, Nat.le_antisymm bounded (Nat.le_of_not_lt none)]
  · rw [List.length_append, List.length_singleton]
    omega

/-- A run of the program with a file is told by the console of the machine that the file starts.

A file that cannot be read or that has more than 3584 bytes is reported, and there is no session.
Otherwise the console is, after each frame that is played, where running the frames up to it leads.
If their cycles complete up to the frame that closes the window, the run ends with this frame. If a
cycle up to there is the first one to fail, the run ends with its frame, with its error and the
registers that it leaves. -/
theorem run_follows_console {arguments : List String} {file : String} {shiftInPlace : Bool}
    (parsed : CommandLine.parse arguments = .run file shiftInPlace)
    (openFile : String → Except OpenError (List UInt8)) (frames : List (List HostEvent))
    (seconds : Seconds) (random : RandomSource) (tracing : Bool) :
    let transcript := run arguments openFile frames seconds random tracing
    let refused (reason : String) := transcript.session = none ∧
      transcript.exit =
        .message ("Unable to load the ROM at path " ++ file ++ ": " ++ reason)
    (∀ error, openFile file = .error error → refused (error.message file)) ∧
    (∀ program, openFile file = .ok program → 3584 < program.length →
      refused (Fault.programTooLong program.length).message) ∧
    ∀ program, openFile file = .ok program → program.length ≤ 3584 →
      ∃ machine, Machine.boot program 0 random shiftInPlace = .ok machine ∧
        let played := frames ++ [[.quit]]
        let reached (count : Nat) :=
          (⟨machine, 0⟩ : Console).runFrames tracing seconds (played.take count)
        let course := (Session.start machine 0 file (reportWhen tracing
          (Memory.loadNotice program))).course tracing seconds played
        (∃ last, course.getLast? = some last ∧ transcript.session = some last.after ∧
          last.after.frames = course.length) ∧
        (∀ position iteration, course[position]? = some iteration →
          iteration.after.console = (reached (position + 1)).1) ∧
        ((∀ report ∈ (reached (closingFrame frames)).2, report.result.isOk = true) →
          course.length = closingFrame frames ∧ transcript.exit = .finished) ∧
        ∀ count ≤ closingFrame frames, ∀ earlier report error,
          (reached count).2 = earlier ++ [report] →
          (∀ report ∈ earlier, report.result.isOk = true) → report.result = .error error →
          course.length = count ∧ transcript.exit =
            .message ("********** THE EMULATOR CRASHED (" ++ error.message ++
              ") WITH THE FOLLOWING STATE\n" ++ (reached count).1.machine.dump) := by
  intro transcript refused
  have ran : transcript =
      runFile file (openFile file) shiftInPlace frames seconds random tracing := by
    simp only [transcript, run, parsed]
  refine ⟨?_, ?_, ?_⟩
  · intro error unopened
    rw [unopened] at ran
    change transcript.session = none ∧ transcript.exit = _
    rw [ran]
    exact ⟨rfl, rfl⟩
  · intro program opened tooLong
    have unloaded := Machine.boot_of_tooLong tooLong 0 random shiftInPlace
    simp only [opened, runFile, unloaded] at ran
    change transcript.session = none ∧ transcript.exit = _
    rw [ran]
    exact ⟨rfl, rfl⟩
  · intro program opened fits
    obtain ⟨machine, started⟩ : ∃ machine,
        Machine.boot program 0 random shiftInPlace = .ok machine :=
      ⟨_, (Machine.boot_eq_ok_iff ..).mpr ⟨fits, rfl⟩⟩
    refine ⟨machine, started, ?_⟩
    rw [opened, runFile_of_started started] at ran
    intro played reached course
    obtain ⟨same, within⟩ := closingFrame_append_quit frames
    rw [← same] at within
    refine ⟨?_, ?_, ?_, ?_⟩
    · obtain ⟨last, listed, left⟩ := Session.exists_last_of_course tracing seconds
        (Session.start machine 0 file (reportWhen tracing (Memory.loadNotice program)))
        (List.append_ne_nil_of_right_ne_nil frames (List.cons_ne_nil [HostEvent.quit] []))
      refine ⟨last, listed, ?_, ?_⟩
      · rw [ran, left]
      · exact (Session.frames_of_last tracing seconds listed).trans (Nat.zero_add _)
    · intro position iteration listed
      exact Session.console_of_course tracing seconds _ played listed
    · intro complete
      rw [ran, ← same]
      exact Session.ends_with_closing tracing seconds _ within (same.symm ▸ complete)
    · intro count early earlier report error reported complete failed
      rw [ran]
      exact Session.ends_with_failure tracing seconds _ within (same.symm ▸ early) reported complete
        failed

/-- The program `E09E 00EE E0A1` asks whether the key that lies under "x" is held down. If it is,
then the first cycle goes over the return, which would fail. In the next frame the key is let go
after the window is to be closed, and still in time for the cycle of this frame, which goes over an
instruction because the key is up. With it the run ends, so that two of three frames are played. If
the key is let go before the first cycle, then the second one fails, although the key is held down
again. -/
theorem run_follows_console_of_skips :
    ∃ machine, Machine.boot [0xE0, 0x9E, 0x00, 0xEE, 0xE0, 0xA1] 0 (.cycling #[]) false =
        .ok machine ∧
      let outcome (frames : List (List HostEvent)) := run ["-f", "skips"]
        (fun _ => .ok [0xE0, 0x9E, 0x00, 0xEE, 0xE0, 0xA1]) frames 0.002 (.cycling #[]) false
      let held := outcome [[.other, .keyDown "x"], [.quit, .keyUp "x"], [.keyDown "1"]]
      let letGo := outcome [[.keyDown "x", .keyUp "x"], [.quit, .keyDown "x"]]
      let reached := (⟨machine, 0⟩ : Console).runFrames false 0.002
        [[.keyDown "x", .keyUp "x"], [.quit, .keyDown "x"]]
      (held.exit = .finished ∧ held.session.map Session.frames = some 2 ∧
        held.session.map (·.console.machine.counter) = some 0x208) ∧
      letGo.session.map Session.frames = some 2 ∧
        letGo.exit = .message ("********** THE EMULATOR CRASHED (" ++
          (MachineError.execution (some 0xEE) 0x202 .stackEmpty).message ++
          ") WITH THE FOLLOWING STATE\n" ++ reached.1.machine.dump) := by
  have parsed : CommandLine.parse ["-f", "skips"] = .run "skips" false := by decide +kernel
  have law (frames : List (List HostEvent)) := (run_follows_console parsed
    (fun _ => .ok [0xE0, 0x9E, 0x00, 0xEE, 0xE0, 0xA1]) frames 0.002 (.cycling #[]) false).2.2 _ rfl
    (by decide)
  obtain ⟨machine, started, completed, counter, reports⟩ :
      ∃ machine, Machine.boot [0xE0, 0x9E, 0x00, 0xEE, 0xE0, 0xA1] 0 (.cycling #[]) false =
          .ok machine ∧
        let held := (⟨machine, 0⟩ : Console).runFrames false 0.002
          [[.other, .keyDown "x"], [.quit, .keyUp "x"]]
        (∀ report ∈ held.2, report.result.isOk = true) ∧ held.1.machine.counter = 0x208 ∧
        ((⟨machine, 0⟩ : Console).runFrames false 0.002
            [[.keyDown "x", .keyUp "x"], [.quit, .keyDown "x"]]).2.map CycleReport.result =
          [.ok (some .next), .error (.execution (some 0xEE) 0x202 .stackEmpty)] :=
    ⟨_, (Machine.boot_eq_ok_iff _ 0 (.cycling #[]) false _).mpr ⟨by decide, rfl⟩,
      by decide +kernel, by decide +kernel, by decide +kernel⟩
  refine ⟨machine, started, ?_, ?_⟩
  · obtain ⟨same, sameStarted, ⟨last, listed, session, counted⟩, consoles, finishing, -⟩ :=
      law [[.other, .keyDown "x"], [.quit, .keyUp "x"], [.keyDown "1"]]
    obtain rfl := Except.ok.inj (sameStarted.symm.trans started)
    obtain ⟨length, exit⟩ := finishing completed
    have second := consoles 1 last (by rw [← listed, List.getLast?_eq_getElem?, length]; rfl)
    refine ⟨exit, ?_, ?_⟩
    · rw [session, Option.map_some, counted, length]
      rfl
    · rw [session, Option.map_some, second]
      exact congrArg some counter
  · obtain ⟨same, sameStarted, ⟨last, -, session, counted⟩, -, -, failing⟩ :=
      law [[.keyDown "x", .keyUp "x"], [.quit, .keyDown "x"]]
    obtain rfl := Except.ok.inj (sameStarted.symm.trans started)
    obtain ⟨first, _, listed, completed, others⟩ := List.map_eq_cons_iff.mp reports
    obtain ⟨second, rfl, failed⟩ := List.map_eq_singleton_iff.mp others
    obtain ⟨length, exit⟩ := failing 2 (by decide) [first] second _ listed
      (by simp [completed, Except.isOk, Except.toBool]) failed
    refine ⟨?_, exit⟩
    rw [session, Option.map_some, counted, length]

end Program

end ChipEight
