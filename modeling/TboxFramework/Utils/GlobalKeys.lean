import TboxFramework.Library.SortedMap
import TboxFramework.Library.TextLines
import TboxFramework.Utils.Stoi
import Mathlib.Data.List.Induction

/-!
# The global key file

Each write reads the whole file into a map and writes the map as lines of a key, an
equals sign and the value, in the order of the keys. The value is not escaped. A file
that is absent is none; file operations succeed.
-/

namespace TboxFramework.Utils

open SortedMap (assign assignAll lookup Sorted)
open TextLines (before behind lines)

set_option autoImplicit false

abbrev Entries := List (Int32 × Bytes)

/-- `std::getline` until the end; a file that cannot be read has no line. -/
def fileLines (file : Option Bytes) : List Bytes := lines (file.getD [])

/-- What both functions make of a line: a line without an equals sign and a key that
`std::stoi` refuses are none. -/
def parseLine (line : Bytes) : Option (Int32 × Bytes) :=
  if 61 ∈ line then
    match stoi 10 (before 61 line) with
    | some key => some (key, behind 61 line)
    | none => none
  else none

/-- `pair.first << "=" << pair.second << std::endl` -/
def entryText (entry : Int32 × Bytes) : Bytes :=
  Decimal.signedNumeral entry.1.toInt ++ 61 :: entry.2 ++ [10]

def globalWriteString (file : Option Bytes) (key : Int32) (value : Bytes) : Option Bytes :=
  let data := assignAll ((fileLines file).filterMap parseLine) []
  some ((assign key value data).flatMap entryText)

/-- The loop over the lines: the first line of the key decides. -/
def readLines (key : Int32) : List Bytes → Bytes
  | [] => []
  | line :: rest =>
      match parseLine line with
      | some (found, value) => if found = key then value else readLines key rest
      | none => readLines key rest

def globalReadString (file : Option Bytes) (key : Int32) : Bytes := readLines key (fileLines file)

/-- The file after writes, in their order; it is absent at first. -/
def written (history : Entries) : Option Bytes :=
  history.foldl (fun file write => globalWriteString file write.1 write.2) none

/-- What a map holds after the writes: the last value, or the empty string. -/
def lastValue (history : Entries) (key : Int32) : Bytes :=
  ((history.reverse.find? fun write => write.1 = key).map Prod.snd).getD []

/-! ## One line -/

/-- A minus and digits: neither the mark nor the end of a line. -/
theorem key_text_free {byte : UInt8} (minus : byte ≠ 45) (other : ¬Decimal.IsDigit byte)
    (key : Int32) : byte ∉ Decimal.signedNumeral key.toInt := by
  intro member
  unfold Decimal.signedNumeral Decimal.minusText at member
  cases List.mem_append.mp member with
  | inl sign =>
      split at sign
      · exact minus (List.mem_singleton.mp sign)
      · cases sign
  | inr digits => exact other (Decimal.numeral_digits _ byte digits)

theorem parse_entry (key : Int32) (value : Bytes) :
    parseLine (Decimal.signedNumeral key.toInt ++ 61 :: value) = some (key, value) := by
  have free : (61 : UInt8) ∉ Decimal.signedNumeral key.toInt :=
    key_text_free (by decide) (by decide) key
  have member : (61 : UInt8) ∈ Decimal.signedNumeral key.toInt ++ 61 :: value := by simp
  unfold parseLine
  rw [if_pos member, TextLines.before_append, TextLines.before_free free,
    TextLines.behind_append free, stoi_signed_numeral]

/-- The line that is read back ends at the first line feed of the value. -/
theorem first_line (entry : Int32 × Bytes) (rest : Bytes) :
    ∃ later, lines (entryText entry ++ rest) =
      (Decimal.signedNumeral entry.1.toInt ++ 61 :: before 10 entry.2) :: later := by
  have free : (10 : UInt8) ∉ Decimal.signedNumeral entry.1.toInt ++ [61] := by
    rw [List.mem_append, List.mem_singleton, not_or]
    exact ⟨key_text_free (by decide) (by decide) _, by decide⟩
  have shape : entryText entry ++ rest =
      (Decimal.signedNumeral entry.1.toInt ++ [61] ++ entry.2) ++ 10 :: rest := by
    simp [entryText]
  rw [shape, TextLines.lines_first, TextLines.before_free_append free, List.append_assoc]
  exact ⟨_, rfl⟩

theorem lines_entry {entry : Int32 × Bytes} (clean : (10 : UInt8) ∉ entry.2) (rest : Bytes) :
    lines (entryText entry ++ rest) =
      (Decimal.signedNumeral entry.1.toInt ++ 61 :: entry.2) :: lines rest := by
  have free : (10 : UInt8) ∉ Decimal.signedNumeral entry.1.toInt ++ 61 :: entry.2 := by
    rw [List.mem_append, List.mem_cons, not_or, not_or]
    exact ⟨key_text_free (by decide) (by decide) _, by decide, clean⟩
  have shape : entryText entry ++ rest =
      (Decimal.signedNumeral entry.1.toInt ++ 61 :: entry.2) ++ 10 :: rest := by
    simp [entryText]
  rw [shape, TextLines.lines_append free]

/-! ## The file -/

/-- No value breaks its line. -/
def Clean (entries : Entries) : Prop := ∀ entry ∈ entries, (10 : UInt8) ∉ entry.2

theorem parse_lines (entries : Entries) (clean : Clean entries) (rest : Bytes) :
    (lines (entries.flatMap entryText ++ rest)).filterMap parseLine =
      entries ++ (lines rest).filterMap parseLine := by
  induction entries with
  | nil => rfl
  | cons entry entries induction =>
      unfold Clean at clean
      rw [List.forall_mem_cons] at clean
      rw [List.flatMap_cons, List.append_assoc, lines_entry clean.1, List.filterMap_cons,
        parse_entry, induction clean.2]
      rfl

theorem read_lines_eq (key : Int32) (text : List Bytes) :
    readLines key text = (lookup key (text.filterMap parseLine)).getD [] := by
  induction text with
  | nil => rfl
  | cons line rest induction =>
      unfold readLines
      rw [List.filterMap_cons]
      cases parseLine line with
      | none => exact induction
      | some entry =>
          simp only [SortedMap.lookup_cons]
          by_cases same : entry.1 = key
          · rw [if_pos same, if_pos same]
            rfl
          · rw [if_neg same, if_neg same]
            exact induction

/-- The file holds the values of the writes: its lines are the entries of a map. -/
def Holds (file : Option Bytes) (history : Entries) : Prop :=
  ∃ entries : Entries, file.getD [] = entries.flatMap entryText ∧ Sorted entries ∧
    Clean entries ∧ ∀ key, (lookup key entries).getD [] = lastValue history key

theorem parse_file {file : Option Bytes} {entries : Entries}
    (content : file.getD [] = entries.flatMap entryText) (clean : Clean entries) :
    (fileLines file).filterMap parseLine = entries := by
  have parsed := parse_lines entries clean []
  rw [List.append_nil, TextLines.lines_nil, List.filterMap_nil, List.append_nil] at parsed
  unfold fileLines
  rw [content]
  exact parsed

theorem holds_reads {file : Option Bytes} {history : Entries} (holds : Holds file history)
    (key : Int32) : globalReadString file key = lastValue history key := by
  obtain ⟨entries, content, _, clean, values⟩ := holds
  unfold globalReadString
  rw [read_lines_eq, parse_file content clean, values]

theorem last_value_append (history : Entries) (write : Int32 × Bytes) (key : Int32) :
    lastValue (history ++ [write]) key =
      if write.1 = key then write.2 else lastValue history key := by
  have first := SortedMap.lookup_cons key write history.reverse
  unfold lookup at first
  unfold lastValue
  rw [List.reverse_append, List.reverse_singleton, List.singleton_append, first]
  by_cases same : write.1 = key
  · rw [if_pos same, if_pos same]
    rfl
  · rw [if_neg same, if_neg same]

/-- What a write leaves behind where the file was in order. -/
theorem write_content {file : Option Bytes} {history : Entries} (holds : Holds file history)
    (key : Int32) (value : Bytes) :
    ∃ entries : Entries, Sorted entries ∧ Clean entries ∧
      (∀ other, (lookup other entries).getD [] = lastValue history other) ∧
      globalWriteString file key value = some ((assign key value entries).flatMap entryText) := by
  obtain ⟨entries, content, sorted, clean, values⟩ := holds
  refine ⟨entries, sorted, clean, values, ?_⟩
  unfold globalWriteString
  rw [parse_file content clean, SortedMap.assign_all_sorted sorted]

/-- A value without a line feed is kept apart from the others. -/
theorem write_holds {file : Option Bytes} {history : Entries} (holds : Holds file history)
    (key : Int32) {value : Bytes} (clean : (10 : UInt8) ∉ value) :
    Holds (globalWriteString file key value) (history ++ [(key, value)]) := by
  obtain ⟨entries, sorted, cleanEntries, values, content⟩ := write_content holds key value
  rw [content]
  refine ⟨assign key value entries, rfl, SortedMap.assign_sorted key value sorted, ?_, ?_⟩
  · intro entry member
    cases SortedMap.mem_assign member with
    | inl new =>
        rw [new]
        exact clean
    | inr old => exact cleanEntries entry old
  · intro other
    rw [SortedMap.lookup_assign, last_value_append]
    by_cases same : key = other
    · rw [if_pos same, if_pos same]
      rfl
    · rw [if_neg same, if_neg same]
      exact values other

/-- A value with a line feed is not read back. -/
theorem broken_read {file : Option Bytes} {history : Entries} (holds : Holds file history)
    (key : Int32) (value : Bytes) :
    globalReadString (globalWriteString file key value) key = before 10 value := by
  obtain ⟨entries, _, clean, _, content⟩ := write_content holds key value
  obtain ⟨front, back, shape, others, _⟩ := SortedMap.assign_split key value entries
  obtain ⟨later, first⟩ := first_line (key, value) (back.flatMap entryText)
  have cleanFront : Clean front := fun entry member => clean entry (others entry member).1
  have parsed := parse_lines front cleanFront (entryText (key, value) ++ back.flatMap entryText)
  unfold globalReadString fileLines
  rw [content, shape, read_lines_eq, Option.getD_some, List.flatMap_append, List.flatMap_cons,
    parsed, first, SortedMap.lookup_append fun entry member => (others entry member).2,
    List.filterMap_cons, parse_entry]
  simp only [SortedMap.lookup_cons, if_true, Option.getD_some]

theorem history_holds (history : Entries) (clean : Clean history) :
    Holds (written history) history := by
  induction history using List.reverseRecOn with
  | nil =>
      have nothing : Clean [] := List.forall_mem_nil _
      exact ⟨[], rfl, List.Pairwise.nil, nothing, fun _ => rfl⟩
  | append_singleton history write induction =>
      have before := induction fun entry member => clean entry (List.mem_append_left _ member)
      have last := clean write (List.mem_append_right _ List.mem_cons_self)
      unfold written
      rw [List.foldl_append]
      exact write_holds before write.1 last

/-- Every read gives the last write of its key, at every point of a history, if and only if
no value that is written holds a line feed. -/
theorem global_keys_iff (history : Entries) :
    (∀ front, front <+: history → ∀ key,
      globalReadString (written front) key = lastValue front key) ↔
    ∀ write ∈ history, (10 : UInt8) ∉ write.2 := by
  constructor
  · induction history using List.reverseRecOn with
    | nil =>
        intro _ write member
        cases member
    | append_singleton history write induction =>
        intro right
        have clean := induction fun front begins =>
          right front (begins.trans (List.prefix_append _ _))
        have last := right (history ++ [write]) (List.prefix_refl _) write.1
        have stored : written (history ++ [write]) =
            globalWriteString (written history) write.1 write.2 := List.foldl_append
        rw [stored, broken_read (history_holds history clean), last_value_append,
          if_pos rfl] at last
        intro earlier member
        rw [List.mem_append, List.mem_singleton] at member
        cases member with
        | inl old => exact clean earlier old
        | inr new =>
            rw [new, ← last]
            exact TextLines.mark_not_mem_before write.2
  · intro clean front begins key
    exact holds_reads (history_holds front fun write member => clean write (begins.subset member))
      key

theorem line_feed_forges :
    ¬ ∀ history key, globalReadString (written history) key = lastValue history key := by
  intro all
  have forged := all [(1, "A\n2=B".toUTF8.data.toList)] 2
  exact absurd forged (by decide +kernel)

end TboxFramework.Utils
