import ChipEight.Proofs.Numerals

/-!
# Reading composed texts back

A text that is put together from parts says its parts if one can see where each of them ends. There
are three ways to see this. A part ends before a character that it does not have. A text whose
beginning may be anything is split from its end: at the last place of a character that the rest does
not have, and so, line by line, into as many lines as are known to stand there. And a list has
brackets around it and a comma with a blank between its entries, whose own texts have neither.
-/

namespace ChipEight.Text

/-! ## Hexadecimal and decimal numerals -/

/-- A character that is no sign, no letter and no decimal digit does not stand in a hexadecimal
numeral. -/
theorem notMem_hexadecimal (width : Nat) (value : Int) {mark : Char}
    (ends : mark ≠ '-' ∧ mark.isAlphanum = false) : mark ∉ (hexadecimal width value).toList := by
  rw [hexadecimal, String.toList_ofList]
  exact notMem_padded isBase_sixteen width value ends

/-- Nor does it stand in one with a zero and the letter of the base in front. -/
theorem notMem_prefixedHexadecimal (width : Nat) (value : Int) {mark : Char}
    (ends : mark ≠ '-' ∧ mark.isAlphanum = false) :
    mark ∉ ("0x" ++ hexadecimal width value).toList := by
  rw [String.toList_append, List.mem_append, not_or]
  refine ⟨?_, notMem_hexadecimal width value ends⟩
  intro listed
  have shown : mark = '0' ∨ mark = 'x' := by simpa using listed
  obtain rfl | rfl := shown <;> exact absurd ends (by decide)

/-- It does not stand in a decimal numeral either. -/
theorem notMem_decimal (value : Int) {mark : Char}
    (ends : mark ≠ '-' ∧ mark.isAlphanum = false) : mark ∉ (decimal value).toList := by
  rw [decimal, String.toList_ofList]
  exact notMem_padded isBase_ten 0 value ends

/-- Different integers have different hexadecimal numerals of the same width. -/
theorem hexadecimal_injective (width : Nat) : Function.Injective (hexadecimal width) := by
  intro one other same
  exact padded_injective isBase_sixteen width (String.ofList_injective same)

/-- Different integers have different decimal numerals. -/
theorem decimal_injective : Function.Injective decimal := by
  intro one other same
  exact padded_injective isBase_ten 0 (String.ofList_injective same)

/-- A decimal numeral has a digit. -/
theorem decimal_ne_empty (value : Int) : decimal value ≠ "" := by
  have digit : digits 10 value.natAbs ≠ [] := Nat.toDigits_ne_nil
  rw [decimal, padded, Ne, ← String.toList_eq_nil_iff, String.toList_ofList]
  simp [digit]

/-! ## From the beginning -/

/-- A part ends before a separator if the separator begins with a character that the part does not
have. -/
theorem append_separator_inj {part other separator rest otherRest : String} (mark : Char)
    (begins : separator.toList.head? = some mark) (outside : mark ∉ part.toList)
    (outsideToo : mark ∉ other.toList)
    (same : part ++ (separator ++ rest) = other ++ (separator ++ otherRest)) :
    part = other ∧ rest = otherRest := by
  obtain ⟨tail, spelt⟩ := List.head?_eq_some_iff.mp begins
  have characters := congrArg String.toList same
  simp only [String.toList_append, spelt, List.cons_append] at characters
  obtain ⟨parts, rests⟩ := append_cons_inj_of_notMem outside outsideToo characters
  exact ⟨String.toList_injective parts,
    String.toList_injective (List.append_cancel_left rests)⟩

/-! ## From the end -/

/-- Where a character stands in neither of two ends, what ends with it is split there in one way
only. -/
theorem append_cons_inj_of_notMem_end {separator : Char} {first second rest other : List Char}
    (outside : separator ∉ rest) (outsideToo : separator ∉ other)
    (same : first ++ separator :: rest = second ++ separator :: other) :
    first = second ∧ rest = other := by
  have reversed := congrArg List.reverse same
  simp only [List.reverse_append, List.reverse_cons, List.append_assoc,
    List.singleton_append] at reversed
  obtain ⟨ends, beginnings⟩ := append_cons_inj_of_notMem (mt List.mem_reverse.mp outside)
    (mt List.mem_reverse.mp outsideToo) reversed
  exact ⟨List.reverse_injective beginnings, List.reverse_injective ends⟩

/-- Lines, each of them after the character that divides them. -/
def afterMarks (mark : Char) (lines : List (List Char)) : List Char :=
  lines.flatMap (mark :: ·)

/-- A text that ends with a number of lines says these lines and what stands before them, whatever
that is. -/
theorem append_afterMarks_inj {mark : Char} {before after : List Char}
    {lines others : List (List Char)} (asMany : lines.length = others.length)
    (unmarked : ∀ line ∈ lines, mark ∉ line) (unmarkedToo : ∀ line ∈ others, mark ∉ line)
    (same : before ++ afterMarks mark lines = after ++ afterMarks mark others) :
    before = after ∧ lines = others := by
  induction lines generalizing before after others with
  | nil =>
    obtain rfl := List.eq_nil_of_length_eq_zero asMany.symm
    exact ⟨List.append_cancel_right same, rfl⟩
  | cons line rest inductionHypothesis =>
    cases others with
    | nil => cases asMany
    | cons otherLine otherRest =>
      rw [List.forall_mem_cons] at unmarked unmarkedToo
      -- The first line counts as a part of what stands before the others.
      have regrouped : (before ++ mark :: line) ++ afterMarks mark rest =
          (after ++ mark :: otherLine) ++ afterMarks mark otherRest := by
        simpa only [afterMarks, List.flatMap_cons, List.append_assoc] using same
      obtain ⟨fronts, rfl⟩ := inductionHypothesis (Nat.succ.inj asMany) unmarked.2 unmarkedToo.2
        regrouped
      obtain ⟨rfl, rfl⟩ := append_cons_inj_of_notMem_end unmarked.1 unmarkedToo.1 fronts
      exact ⟨rfl, rfl⟩

/-! ## Lists -/

/-- Without the commas, parts with commas and blanks between them have blanks between them. -/
theorem filter_intercalate {parts : List (List Char)} (unmarked : ∀ part ∈ parts, ',' ∉ part) :
    ([',', ' '].intercalate parts).filter (· ≠ ',') = [' '].intercalate parts := by
  have kept {part : List Char} (listed : part ∈ parts) : part.filter (· ≠ ',') = part := by
    rw [List.filter_eq_self]
    intro character inside
    exact decide_eq_true fun same => unmarked part listed (same ▸ inside)
  induction parts with
  | nil => simp
  | cons first rest inductionHypothesis =>
    have firstKept := kept List.mem_cons_self
    have restKept := inductionHypothesis (fun part listed => unmarked part (.tail _ listed))
      (fun listed => kept (.tail _ listed))
    cases rest with
    | nil => simpa using firstKept
    | cons second others =>
      rw [List.intercalate_cons_cons, List.intercalate_cons_cons, List.filter_append,
        List.filter_append, firstKept, restKept]
      simp

/-- The entries of a list that are not empty. -/
def entries (characters : List Char) : List (List Char) :=
  ((characters.filter (· ≠ ',')).splitOn ' ').filter (· ≠ [])

/-- The text of an entry is not empty and has neither a comma nor a blank. -/
def IsEntry (text : String) : Prop := text ≠ "" ∧ ',' ∉ text.toList ∧ ' ' ∉ text.toList

/-- Entries are read off the text that has a comma and a blank between them. -/
theorem entries_intercalate {texts : List String} (proper : ∀ text ∈ texts, IsEntry text) :
    entries (", ".intercalate texts).toList = texts.map String.toList := by
  have commas : ∀ part ∈ texts.map String.toList, ',' ∉ part :=
    List.forall_mem_map.mpr fun text listed => (proper text listed).2.1
  have blanks : ∀ part ∈ texts.map String.toList, ' ' ∉ part :=
    List.forall_mem_map.mpr fun text listed => (proper text listed).2.2
  have kept : ∀ part ∈ texts.map String.toList, decide (part ≠ []) = true :=
    List.forall_mem_map.mpr fun text listed =>
      decide_eq_true (mt String.toList_eq_nil_iff.mp (proper text listed).1)
  have spread : (", ".intercalate texts).toList.filter (· ≠ ',') =
      [' '].intercalate (texts.map String.toList) := by
    rw [String.toList_intercalate]
    exact filter_intercalate commas
  rw [entries, spread]
  cases texts with
  | nil => decide
  | cons first rest =>
    rw [List.splitOn_intercalate ' ' blanks (List.cons_ne_nil _ _), List.filter_eq_self.mpr kept]

/-- Texts in brackets, with a comma and a blank between them. -/
def bracketed (texts : List String) : String := "[" ++ ", ".intercalate texts ++ "]"

/-- A list in brackets says its values if every value has an entry of its own. -/
theorem bracketed_map_injective {α : Type} {entry : α → String} (told : Function.Injective entry)
    (proper : ∀ value, IsEntry (entry value)) :
    Function.Injective fun values : List α => bracketed (values.map entry) := by
  have listed (values : List α) : ∀ text ∈ values.map entry, IsEntry text :=
    List.forall_mem_map.mpr fun value _ => proper value
  intro one other same
  have contents := (String.append_right_inj _).mp ((String.append_left_inj _).mp same)
  have read := congrArg (fun text : String => entries text.toList) contents
  simp only [entries_intercalate (listed one), entries_intercalate (listed other)] at read
  have texts := List.map_injective_iff.mpr (fun _ _ => String.toList_injective) read
  exact List.map_injective_iff.mpr told texts

/-- What is put between texts and the texts themselves bring all the characters. -/
theorem notMem_intercalate {separator : String} {texts : List String} {mark : Char}
    (apart : mark ∉ separator.toList) (unmarked : ∀ text ∈ texts, mark ∉ text.toList) :
    mark ∉ (separator.intercalate texts).toList := by
  induction texts with
  | nil => simp
  | cons first rest inductionHypothesis =>
    rw [List.forall_mem_cons] at unmarked
    cases rest with
    | nil => simpa using unmarked.1
    | cons second others =>
      rw [String.intercalate_cons_cons, String.toList_append, String.toList_append,
        List.mem_append, List.mem_append, not_or, not_or]
      exact ⟨⟨unmarked.1, apart⟩, inductionHypothesis unmarked.2⟩

/-- A list in brackets is one line if its entries are. -/
theorem lineFeed_notMem_bracketed {texts : List String}
    (unmarked : ∀ text ∈ texts, '\n' ∉ text.toList) : '\n' ∉ (bracketed texts).toList := by
  have inside : '\n' ∉ (", ".intercalate texts).toList := notMem_intercalate (by decide) unmarked
  simpa [bracketed] using inside

end ChipEight.Text
