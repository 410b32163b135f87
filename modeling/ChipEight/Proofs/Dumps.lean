import ChipEight.Host.Session
import ChipEight.Proofs.ErrorTexts
import ChipEight.Proofs.KeyEvents

/-!
# Reading dumps back

A dump is one text with parts of any length: numerals that may be wider than what they are padded
to, two lists, the keys and two truth values. It shows everything that it is made from. No part has
a line feed, so that the five lines of a dump can be told apart, even at the end of a longer text.
Within a line a numeral or a truth value ends before a blank, and a list is the last part.

So two machines have the same dump exactly if they agree in all that a dump shows. The text of a
crash, which ends with a dump, says the text of the error as well.
-/

namespace ChipEight

open Text

/-! ## Parts -/

/-- The registers are shown as a list in brackets, which says them. -/
theorem registersText_injective : Function.Injective registersText := by
  have told := bracketed_map_injective decimal_injective fun value =>
    ⟨decimal_ne_empty value, notMem_decimal value (by decide), notMem_decimal value (by decide)⟩
  intro one other same
  exact Vector.toList_inj.mp (told same)

/-- The registers are shown on one line. -/
theorem lineFeed_notMem_registersText (registers : Registers) :
    '\n' ∉ (registersText registers).toList := by
  apply lineFeed_notMem_bracketed
  rw [List.forall_mem_map]
  exact fun value _ => notMem_decimal value (by decide)

namespace CallStack

variable {limit : Int}

/-- A character that neither a numeral nor the frame around it has does not stand in the text of an
address. -/
theorem notMem_addressText (address : Int) {mark : Char}
    (ends : mark ≠ '-' ∧ mark.isAlphanum = false) (apart : mark ∉ "'0x".toList) :
    mark ∉ (addressText address).toList := by
  have numeral := notMem_hexadecimal 3 address ends
  have closing : mark ∉ "'".toList := by
    simp only [String.reduceToList, List.mem_cons, List.not_mem_nil, not_or] at apart ⊢
    exact ⟨apart.1, id⟩
  unfold addressText
  rw [String.toList_append, String.toList_append, List.mem_append, List.mem_append, not_or, not_or]
  exact ⟨⟨apart, numeral⟩, closing⟩

/-- Different addresses are shown differently. -/
theorem addressText_injective : Function.Injective addressText := by
  intro one other same
  have numerals := (String.append_right_inj _).mp ((String.append_left_inj _).mp same)
  exact hexadecimal_injective 3 numerals

/-- The text of an address is an entry of a list. -/
theorem isEntry_addressText (address : Int) : IsEntry (addressText address) := by
  refine ⟨?_, notMem_addressText address (by decide) (by decide),
    notMem_addressText address (by decide) (by decide)⟩
  intro empty
  have characters := congrArg String.toList empty
  simp [addressText] at characters

/-- A stack is shown as a list in brackets, which says it. -/
theorem text_injective : Function.Injective (text : CallStack limit → String) := by
  intro one other same
  have addresses := bracketed_map_injective addressText_injective isEntry_addressText same
  obtain ⟨frames⟩ := one
  obtain ⟨otherFrames⟩ := other
  exact congrArg mk (List.reverse_injective addresses)

/-- A stack is shown on one line. -/
theorem lineFeed_notMem_text (stack : CallStack limit) : '\n' ∉ stack.text.toList := by
  apply lineFeed_notMem_bracketed
  rw [List.forall_mem_map]
  exact fun address _ => notMem_addressText address (by decide) (by decide)

end CallStack

/-- A keypad is shown on one line. -/
theorem Keypad.lineFeed_notMem_text (keypad : Keypad) : '\n' ∉ keypad.text.toList := by
  rw [text_eq_glyphs, String.toList_ofList, glyphs]
  split
  · decide
  · rw [List.mem_map]
    rintro ⟨key, _, same⟩
    exact absurd (same ▸ isAlphanum_upperDigit key) (by decide)

/-- A truth value is shown as a word without a blank, and on one line. -/
theorem notMem_truthText (value : Bool) :
    ' ' ∉ (truthText value).toList ∧ '\n' ∉ (truthText value).toList := by
  cases value <;> decide

/-- The two truth values are shown differently. -/
theorem truthText_injective : Function.Injective truthText := by
  unfold Function.Injective
  decide

namespace Machine

/-! ## Lines -/

/-- The line of the program counter, the index and the other registers. -/
def registersLine (machine : Machine) : String :=
  "PC_REGISTER:0x" ++ hexadecimal 3 machine.counter
    ++ " | IDX_REGISTER:0x" ++ hexadecimal 4 machine.index
    ++ " | VARIABLE_REGISTERS:" ++ registersText machine.registers

/-- The line of the call stack. -/
def callsLine (machine : Machine) : String := "STACK:" ++ machine.calls.text

/-- The line of the timers. -/
def timersLine (machine : Machine) : String :=
  "DT:" ++ decimal machine.timers.delay ++ " | ST:" ++ decimal machine.timers.sound

/-- The line of the keypad. -/
def keypadLine (machine : Machine) : String := "KEYPAD:" ++ machine.keypad.text

/-- The line of the two flags. -/
def flagsLine (machine : Machine) : String :=
  "DRAW: " ++ truthText machine.redraw
    ++ " | WAITING_FOR_KEY: " ++ truthText machine.awaiting.isSome

/-- The lines of a dump. -/
def dumpLines (machine : Machine) : List String :=
  [machine.registersLine, machine.callsLine, machine.timersLine, machine.keypadLine,
    machine.flagsLine]

/-- A dump has its lines, and no other line feeds than those between them. -/
theorem cons_dump (machine : Machine) :
    '\n' :: machine.dump.toList = afterMarks '\n' (machine.dumpLines.map String.toList) := by
  unfold dump dumpLines registersLine callsLine timersLine keypadLine flagsLine afterMarks
  simp

/-- No line of a dump has a line feed. -/
theorem lineFeed_notMem_dumpLines (machine : Machine) :
    ∀ line ∈ machine.dumpLines.map String.toList, '\n' ∉ line := by
  have hexadecimals (width : Nat) (value : Int) : '\n' ∉ (hexadecimal width value).toList :=
    notMem_hexadecimal width value (by decide)
  have decimals (value : Int) : '\n' ∉ (decimal value).toList :=
    notMem_decimal value (by decide)
  have truths (value : Bool) : '\n' ∉ (truthText value).toList := (notMem_truthText value).2
  unfold dumpLines registersLine callsLine timersLine keypadLine flagsLine
  simp [hexadecimals, decimals, truths, lineFeed_notMem_registersText,
    CallStack.lineFeed_notMem_text, Keypad.lineFeed_notMem_text]

variable {one other : Machine}

/-- The first line says its parts. -/
theorem registersLine_inj (same : one.registersLine = other.registersLine) :
    one.counter = other.counter ∧ one.index = other.index ∧ one.registers = other.registers := by
  unfold registersLine at same
  simp only [String.append_assoc, String.append_right_inj] at same
  obtain ⟨counters, rest⟩ := append_separator_inj ' ' (by decide)
    (notMem_hexadecimal 3 _ (by decide)) (notMem_hexadecimal 3 _ (by decide)) same
  obtain ⟨indices, registers⟩ := append_separator_inj ' ' (by decide)
    (notMem_hexadecimal 4 _ (by decide)) (notMem_hexadecimal 4 _ (by decide)) rest
  exact ⟨hexadecimal_injective 3 counters, hexadecimal_injective 4 indices,
    registersText_injective registers⟩

/-- The line of the timers says both. -/
theorem timersLine_inj (same : one.timersLine = other.timersLine) :
    one.timers.delay = other.timers.delay ∧ one.timers.sound = other.timers.sound := by
  unfold timersLine at same
  simp only [String.append_assoc, String.append_right_inj] at same
  obtain ⟨delays, sounds⟩ := append_separator_inj ' ' (by decide)
    (notMem_decimal _ (by decide)) (notMem_decimal _ (by decide)) same
  exact ⟨decimal_injective delays, decimal_injective sounds⟩

/-- The last line says both flags. -/
theorem flagsLine_inj (same : one.flagsLine = other.flagsLine) :
    one.redraw = other.redraw ∧ one.awaiting.isSome = other.awaiting.isSome := by
  unfold flagsLine at same
  simp only [String.append_assoc, String.append_right_inj] at same
  obtain ⟨redraws, waits⟩ := append_separator_inj ' ' (by decide)
    (notMem_truthText _).1 (notMem_truthText _).1 same
  exact ⟨truthText_injective redraws, truthText_injective waits⟩

/-! ## Dumps -/

/-- Two machines agree in everything that a dump shows. -/
structure ShownAlike (one other : Machine) : Prop where
  counter : one.counter = other.counter
  index : one.index = other.index
  registers : one.registers = other.registers
  calls : one.calls = other.calls
  delay : one.timers.delay = other.timers.delay
  sound : one.timers.sound = other.timers.sound
  keypad : one.keypad = other.keypad
  redraw : one.redraw = other.redraw
  /-- Both wait for a key or neither does. Which register waits is not shown. -/
  waits : one.awaiting.isSome = other.awaiting.isSome

/-- A dump is made from what it shows, and from nothing else. -/
theorem ShownAlike.dump_eq (alike : one.ShownAlike other) : one.dump = other.dump := by
  unfold dump
  rw [alike.counter, alike.index, alike.registers, alike.calls, alike.delay, alike.sound,
    alike.keypad, alike.redraw, alike.waits]

/-- Machines with the same lines are shown alike. -/
theorem shownAlike_of_dumpLines (same : one.dumpLines = other.dumpLines) :
    one.ShownAlike other := by
  simp only [dumpLines, List.cons.injEq, and_true] at same
  obtain ⟨registersLines, callsLines, timersLines, keypadLines, flagsLines⟩ := same
  obtain ⟨counter, index, registers⟩ := registersLine_inj registersLines
  obtain ⟨delay, sound⟩ := timersLine_inj timersLines
  obtain ⟨redraw, waits⟩ := flagsLine_inj flagsLines
  have calls := CallStack.text_injective ((String.append_right_inj _).mp callsLines)
  have keypad := Keypad.eq_of_text ((String.append_right_inj _).mp keypadLines)
  exact { counter, index, registers, calls, delay, sound, keypad, redraw, waits }

/-- A text that ends with a dump says all that the dump shows, and what stands before it, whatever
that is. -/
theorem append_dump_inj {before after : List Char}
    (same : before ++ '\n' :: one.dump.toList = after ++ '\n' :: other.dump.toList) :
    before = after ∧ one.ShownAlike other := by
  rw [cons_dump, cons_dump] at same
  obtain ⟨fronts, lines⟩ := append_afterMarks_inj (by simp [dumpLines])
    one.lineFeed_notMem_dumpLines other.lineFeed_notMem_dumpLines same
  have texts := List.map_injective_iff.mpr (fun _ _ => String.toList_injective) lines
  exact ⟨fronts, shownAlike_of_dumpLines texts⟩

/-- What is shown of a failed cycle is one line with the text of the error, and a dump. -/
theorem toList_crashText (error : MachineError) (machine : Machine) :
    (crashText error machine).toList =
      ("********** THE EMULATOR CRASHED (" ++ error.message ++
        ") WITH THE FOLLOWING STATE").toList ++ '\n' :: machine.dump.toList := by
  unfold crashText
  simp

/-- Any two machines, whether a run leads to them or not, have the same dump exactly if they agree
in the program counter, the index, all registers, the whole call stack, both timers, the held keys,
the mark of a changed display, and in whether they wait for a key. The texts of two crashes are the
same exactly if the texts of the errors are and the machines agree in all this.

Proof: a dump is the last five lines of a text that ends with it. Each line is read part by part,
since a numeral or a truth value has no blank, and the entries of a list have neither a blank nor a
comma. -/
theorem dump_identifies (one other : Machine) (error failure : MachineError) :
    (one.dump = other.dump ↔ one.ShownAlike other) ∧
    (crashText error one = crashText failure other ↔
      error.message = failure.message ∧ one.ShownAlike other) := by
  constructor
  · constructor
    · intro same
      have characters : [] ++ '\n' :: one.dump.toList = [] ++ '\n' :: other.dump.toList := by
        rw [same]
      exact (append_dump_inj characters).2
    · exact ShownAlike.dump_eq
  · constructor
    · intro same
      have characters := congrArg String.toList same
      rw [toList_crashText, toList_crashText] at characters
      obtain ⟨headings, alike⟩ := append_dump_inj characters
      have messages := (String.append_left_inj _).mp (String.toList_injective headings)
      exact ⟨(String.append_right_inj _).mp messages, alike⟩
    · rintro ⟨messages, alike⟩
      unfold crashText
      rw [messages, alike.dump_eq]

end Machine

end ChipEight
