import TboxFramework.Utils.GlobalKeys

/-!
# Writes of the global key file that break off

The file is truncated before the first line is out, so a process that dies or a full disk
leaves the beginning of the new text. The keys are written in their order.
-/

namespace TboxFramework.Utils

open SortedMap (assign assignAll lookup Sorted)
open TextLines (before behind lines)

set_option autoImplicit false

structure Write where
  key : Int32
  value : Bytes
  /-- How many bytes are in the file when the write breaks off; none if it does not. -/
  reached : Option Nat

def Write.apply (file : Option Bytes) (write : Write) : Option Bytes :=
  match write.reached with
  | none => globalWriteString file write.key write.value
  | some size => (globalWriteString file write.key write.value).map fun text => text.take size

def fileAfter (writes : List Write) : Option Bytes := writes.foldl Write.apply none

/-- The key and the equals sign of an entry. -/
def keyText (key : Int32) : Bytes := Decimal.signedNumeral key.toInt ++ [61]

/-- The entries that a reader finds in the first bytes of their text. -/
def cut : Nat → Entries → Entries
  | _, [] => []
  | size, entry :: rest =>
      if (entryText entry).length ≤ size then entry :: cut (size - (entryText entry).length) rest
      else if (keyText entry.1).length ≤ size then
        [(entry.1, entry.2.take (size - (keyText entry.1).length))]
      else []

/-- The map that a write makes of another, as far as it gets. -/
def Write.leaves (map : Entries) (write : Write) : Entries :=
  match write.reached with
  | none => assign write.key write.value map
  | some size => cut size (assign write.key write.value map)

def mapAfter (writes : List Write) : Entries := writes.foldl Write.leaves []

/-! ## The beginning of a file -/

theorem entry_text_eq (entry : Int32 × Bytes) :
    entryText entry = keyText entry.1 ++ entry.2 ++ [10] := by
  simp [entryText, keyText]

theorem lines_free {text : Bytes} (free : (10 : UInt8) ∉ text) (some : text ≠ []) :
    lines text = [text] := by
  have nothing : behind 10 text = [] := by
    unfold behind
    rw [List.dropWhile_eq_nil_iff.mpr (TextLines.free_passes free)]
    rfl
  rw [lines, if_pos some, TextLines.before_free free, nothing, TextLines.lines_nil]

theorem key_text_no_feed (key : Int32) : (10 : UInt8) ∉ keyText key := by
  unfold keyText
  rw [List.mem_append, List.mem_singleton, not_or]
  exact ⟨key_text_free (by decide) (by decide) key, by decide⟩

/-- A line that ends within its key is none. -/
theorem parse_within_key (key : Int32) {size : Nat} (short : size < (keyText key).length) :
    (lines ((keyText key).take size)).filterMap parseLine = [] := by
  have part : (keyText key).take size = (Decimal.signedNumeral key.toInt).take size := by
    unfold keyText at short ⊢
    rw [List.length_append, List.length_singleton] at short
    exact List.take_append_of_le_length (Nat.le_of_lt_succ short)
  by_cases empty : (keyText key).take size = []
  · rw [empty, TextLines.lines_nil]
    rfl
  · have free : (10 : UInt8) ∉ (keyText key).take size := fun member =>
      key_text_no_feed key (List.mem_of_mem_take member)
    rw [lines_free free empty]
    have markless : (61 : UInt8) ∉ (keyText key).take size := by
      rw [part]
      exact fun member => key_text_free (by decide) (by decide) key (List.mem_of_mem_take member)
    have refused : parseLine ((keyText key).take size) = none := if_neg markless
    rw [List.filterMap_cons, refused]
    rfl

/-- A line that ends within its value holds the beginning of it. -/
theorem parse_within_value (key : Int32) {value : Bytes} (free : (10 : UInt8) ∉ value) :
    (lines (keyText key ++ value)).filterMap parseLine = [(key, value)] := by
  have clean : (10 : UInt8) ∉ keyText key ++ value := by
    rw [List.mem_append, not_or]
    exact ⟨key_text_no_feed key, free⟩
  have shape : keyText key ++ value = Decimal.signedNumeral key.toInt ++ 61 :: value := by
    simp [keyText]
  rw [lines_free clean (by simp [keyText]), List.filterMap_cons, shape, parse_entry]
  rfl

theorem parse_cut {entries : Entries} (clean : Clean entries) (size : Nat) :
    (lines ((entries.flatMap entryText).take size)).filterMap parseLine = cut size entries := by
  induction entries generalizing size with
  | nil =>
      rw [List.flatMap_nil, List.take_nil, TextLines.lines_nil]
      rfl
  | cons entry rest ih =>
      unfold Clean at clean
      rw [List.forall_mem_cons] at clean
      rw [List.flatMap_cons, List.take_append]
      unfold cut
      by_cases whole : (entryText entry).length ≤ size
      · rw [if_pos whole, List.take_of_length_le whole, lines_entry clean.1,
          List.filterMap_cons, parse_entry, ih clean.2]
      · have ended : size - (entryText entry).length = 0 :=
          Nat.sub_eq_zero_of_le (Nat.le_of_not_le whole)
        rw [if_neg whole, ended, List.take_zero, List.append_nil, entry_text_eq]
        rw [entry_text_eq, List.length_append, List.length_singleton] at whole
        have before_end : size ≤ (keyText entry.1 ++ entry.2).length :=
          Nat.le_of_lt_succ (Nat.lt_of_not_le whole)
        rw [List.take_append_of_le_length before_end]
        by_cases named : (keyText entry.1).length ≤ size
        · rw [if_pos named, List.take_append, List.take_of_length_le named]
          exact parse_within_value entry.1 fun member =>
            clean.1 (List.mem_of_mem_take member)
        · have short := Nat.lt_of_not_le named
          rw [if_neg named, List.take_append_of_le_length (Nat.le_of_lt short)]
          exact parse_within_key entry.1 short

/-! ## What a cut map holds -/

theorem mem_cut {entries : Entries} {size : Nat} {entry : Int32 × Bytes}
    (member : entry ∈ cut size entries) :
    ∃ whole ∈ entries, entry.1 = whole.1 ∧ entry.2 <+: whole.2 := by
  induction entries generalizing size with
  | nil => cases member
  | cons first rest ih =>
      unfold cut at member
      split at member
      · cases List.mem_cons.mp member with
        | inl same => exact ⟨first, List.mem_cons_self, congrArg Prod.fst same, same ▸ List.prefix_refl _⟩
        | inr later =>
            obtain ⟨whole, listed, found⟩ := ih later
            exact ⟨whole, List.mem_cons_of_mem _ listed, found⟩
      · split at member
        · rw [List.mem_singleton.mp member]
          exact ⟨first, List.mem_cons_self, rfl, List.take_prefix _ _⟩
        · cases member

theorem cut_sorted {entries : Entries} (sorted : Sorted entries) (size : Nat) :
    Sorted (cut size entries) := by
  induction entries generalizing size with
  | nil => exact List.Pairwise.nil
  | cons first rest ih =>
      rw [Sorted.cons_iff] at sorted
      unfold cut
      split
      · rw [Sorted.cons_iff]
        apply And.intro _ (ih sorted.2 _)
        intro entry member
        obtain ⟨whole, listed, same, _⟩ := mem_cut member
        rw [same]
        exact sorted.1 whole listed
      · split
        · exact List.pairwise_singleton _ _
        · exact List.Pairwise.nil

theorem cut_clean {entries : Entries} (clean : Clean entries) (size : Nat) :
    Clean (cut size entries) := by
  intro entry member feed
  obtain ⟨whole, listed, _, part⟩ := mem_cut member
  exact clean whole listed (part.subset feed)

/-- The value of a key, or the empty string. -/
def valueOf (key : Int32) (entries : Entries) : Bytes := (lookup key entries).getD []

theorem value_of_cons (key : Int32) (entry : Int32 × Bytes) (rest : Entries) :
    valueOf key (entry :: rest) = if entry.1 = key then entry.2 else valueOf key rest := by
  unfold valueOf
  rw [SortedMap.lookup_cons]
  split <;> rfl

theorem value_of_absent {key : Int32} {entries : Entries}
    (absent : ∀ entry ∈ entries, entry.1 ≠ key) : valueOf key entries = [] := by
  induction entries with
  | nil => rfl
  | cons entry rest ih =>
      rw [List.forall_mem_cons] at absent
      rw [value_of_cons, if_neg absent.1]
      exact ih absent.2

theorem value_of_cut_begins (key : Int32) (entries : Entries) (size : Nat) :
    valueOf key (cut size entries) <+: valueOf key entries := by
  induction entries generalizing size with
  | nil => exact List.prefix_refl _
  | cons entry rest ih =>
      unfold cut
      rw [value_of_cons]
      split
      · rw [value_of_cons]
        split
        · exact List.prefix_refl _
        · exact ih _
      · split
        · rw [value_of_cons]
          split
          · exact List.take_prefix _ _
          · exact List.nil_prefix
        · exact List.nil_prefix

/-- As long as anything is there of a key, the smaller keys are all there. -/
theorem value_of_cut_smaller {smaller larger : Int32} (before : smaller < larger)
    {entries : Entries} (sorted : Sorted entries) {size : Nat}
    (some : valueOf larger (cut size entries) ≠ []) :
    valueOf smaller (cut size entries) = valueOf smaller entries := by
  induction entries generalizing size with
  | nil => rfl
  | cons entry rest ih =>
      rw [Sorted.cons_iff] at sorted
      -- where the larger key is the first, the smaller one is nowhere
      have nowhere (same : entry.1 = larger) : ∀ other ∈ entry :: rest, other.1 ≠ smaller := by
        intro other member wanted
        rw [← same] at before
        cases List.mem_cons.mp member with
        | inl first =>
            rw [first] at wanted
            rw [wanted] at before
            exact Std.lt_irrefl before
        | inr later =>
            have above := sorted.1 other later
            rw [wanted] at above
            exact Std.lt_irrefl (Std.lt_trans before above)
      by_cases same : entry.1 = larger
      · rw [value_of_absent (nowhere same)]
        apply value_of_absent
        intro other member
        obtain ⟨whole, listed, key, _⟩ := mem_cut member
        rw [key]
        exact nowhere same whole listed
      · unfold cut at some ⊢
        split at some
        · next whole =>
            rw [if_pos whole, value_of_cons, value_of_cons]
            rw [value_of_cons, if_neg same] at some
            split
            · rfl
            · exact ih sorted.2 some
        · split at some
          · rw [value_of_cons, if_neg same] at some
            exact absurd rfl some
          · exact absurd rfl some

/-! ## Histories -/

/-- The file is read as this map. -/
structure ReadAs (file : Option Bytes) (map : Entries) : Prop where
  parsed : (fileLines file).filterMap parseLine = map
  sorted : Sorted map
  clean : Clean map

theorem read_as_value {file : Option Bytes} {map : Entries} (reads : ReadAs file map)
    (key : Int32) : globalReadString file key = valueOf key map := by
  unfold globalReadString
  rw [read_lines_eq, reads.parsed]
  rfl

theorem assign_clean {map : Entries} (clean : Clean map) {key : Int32} {value : Bytes}
    (free : (10 : UInt8) ∉ value) : Clean (assign key value map) := by
  intro entry member
  cases SortedMap.mem_assign member with
  | inl new =>
      rw [new]
      exact free
  | inr old => exact clean entry old

theorem read_as_apply {file : Option Bytes} {map : Entries} (reads : ReadAs file map)
    {write : Write} (free : (10 : UInt8) ∉ write.value) :
    ReadAs (write.apply file) (write.leaves map) := by
  have sorted := SortedMap.assign_sorted write.key write.value reads.sorted
  have clean : Clean (assign write.key write.value map) := assign_clean reads.clean free
  have content : globalWriteString file write.key write.value =
      some ((assign write.key write.value map).flatMap entryText) := by
    unfold globalWriteString
    rw [reads.parsed, SortedMap.assign_all_sorted reads.sorted]
  unfold Write.apply Write.leaves
  rw [content]
  cases write.reached with
  | none => exact ⟨parse_file rfl clean, sorted, clean⟩
  | some size => exact ⟨parse_cut clean size, cut_sorted sorted size, cut_clean clean size⟩

/-- No value that is written breaks its line. -/
def Unbroken (writes : List Write) : Prop := ∀ write ∈ writes, (10 : UInt8) ∉ write.value

theorem read_as_after {writes : List Write} (clean : Unbroken writes) :
    ReadAs (fileAfter writes) (mapAfter writes) := by
  induction writes using List.reverseRecOn with
  | nil => exact ⟨by simp [fileAfter, fileLines, TextLines.lines_nil, mapAfter],
      List.Pairwise.nil, List.forall_mem_nil _⟩
  | append_singleton writes write ih =>
      have earlier := ih fun other member => clean other (List.mem_append_left _ member)
      have free := clean write (List.mem_append_right _ List.mem_cons_self)
      unfold fileAfter mapAfter
      rw [List.foldl_append, List.foldl_append]
      exact read_as_apply earlier free

theorem value_of_assign (map : Entries) (write : Write) (key : Int32) :
    valueOf key (assign write.key write.value map) =
      if write.key = key then write.value else valueOf key map := by
  unfold valueOf
  rw [SortedMap.lookup_assign]
  split <;> rfl

theorem map_after_append (writes : List Write) (write : Write) :
    mapAfter (writes ++ [write]) = write.leaves (mapAfter writes) := by
  unfold mapAfter
  rw [List.foldl_append]
  rfl

theorem value_begins_last (writes : List Write) (key : Int32) :
    valueOf key (mapAfter writes) <+: lastValue (writes.map fun write => (write.key, write.value))
      key := by
  induction writes using List.reverseRecOn with
  | nil => exact List.nil_prefix
  | append_singleton writes write ih =>
      have whole : valueOf key (assign write.key write.value (mapAfter writes)) <+:
          lastValue ((writes ++ [write]).map fun write => (write.key, write.value)) key := by
        rw [List.map_append, List.map_singleton, last_value_append, value_of_assign]
        split
        · exact List.prefix_refl _
        · exact ih
      rw [map_after_append]
      unfold Write.leaves
      cases write.reached with
      | none => exact whole
      | some size => exact (value_of_cut_begins key _ size).trans whole

/-- A write that breaks off, after any others of which any have, leaves every key a beginning
of what it had left if it had finished, and all of it for the keys below one that is not
empty; whatever is read has been written as the beginning of the last value of its key. -/
theorem broken_write_loses_a_tail (writes : List Write) (write : Write)
    (clean : Unbroken (writes ++ [write])) (key : Int32) :
    globalReadString (fileAfter (writes ++ [write])) key <+:
        globalReadString (fileAfter (writes ++ [{ write with reached := none }])) key ∧
      (∀ larger, key < larger → globalReadString (fileAfter (writes ++ [write])) larger ≠ [] →
        globalReadString (fileAfter (writes ++ [write])) key =
          globalReadString (fileAfter (writes ++ [{ write with reached := none }])) key) ∧
      globalReadString (fileAfter (writes ++ [write])) key <+:
        lastValue ((writes ++ [write]).map fun write => (write.key, write.value)) key := by
  have cleanFinished : Unbroken (writes ++ [{ write with reached := none }]) := by
    intro other member
    cases List.mem_append.mp member with
    | inl earlier => exact clean other (List.mem_append_left _ earlier)
    | inr last =>
        rw [List.mem_singleton.mp last]
        exact clean write (List.mem_append_right _ List.mem_cons_self)
  have broken := read_as_after clean
  have finished := read_as_after cleanFinished
  have sorted := (read_as_after fun other member =>
    clean other (List.mem_append_left _ member)).sorted
  simp only [read_as_value broken, read_as_value finished]
  refine ⟨?_, ?_, value_begins_last _ key⟩
  · rw [map_after_append, map_after_append]
    unfold Write.leaves
    cases write.reached with
    | none => exact List.prefix_refl _
    | some size => exact value_of_cut_begins key _ size
  · intro larger before some
    rw [map_after_append] at some ⊢
    rw [map_after_append]
    unfold Write.leaves at some ⊢
    cases reached : write.reached with
    | none => rfl
    | some size =>
        rw [reached] at some
        exact value_of_cut_smaller before
          (SortedMap.assign_sorted write.key write.value sorted) some

/-- Keys 3 and 2 are in the file; of a write of key 1, eight bytes reach the disk. Key 1 is
whole, key 2 has lost a byte, and key 3 is gone. -/
theorem full_disk_loses_a_tail :
    let writes : List Write := [⟨3, [65], none⟩, ⟨2, [66, 67], none⟩]
    globalReadString (fileAfter (writes ++ [⟨1, [68, 69], some 8⟩])) 1 =
        globalReadString (fileAfter (writes ++ [⟨1, [68, 69], none⟩])) 1 ∧
      globalReadString (fileAfter (writes ++ [⟨1, [68, 69], some 8⟩])) 2 = [66] ∧
      globalReadString (fileAfter (writes ++ [⟨1, [68, 69], some 8⟩])) 3 = [] := by
  intro writes
  have clean : Unbroken (writes ++ [⟨1, [68, 69], some 8⟩]) := by
    unfold Unbroken
    decide
  have second : globalReadString (fileAfter (writes ++ [⟨1, [68, 69], some 8⟩])) 2 = [66] := by
    decide +kernel
  have some : globalReadString (fileAfter (writes ++ [⟨1, [68, 69], some 8⟩])) 2 ≠ [] := by
    rw [second]
    decide
  have told := broken_write_loses_a_tail writes ⟨1, [68, 69], Option.some 8⟩ clean 1
  exact ⟨told.2.1 2 (by decide) some, second, by decide +kernel⟩

end TboxFramework.Utils
