import TboxFramework.Log.SinkFallback

/-!
# Which lines fall back to stderr

The history of a service tells its sinks: the console is gone after a short write, the
file after a short write or a rotation without a next file. A line carries the mark of
the fallback exactly when both were gone, and carries it once, behind those of the
earlier calls.
-/

namespace TboxFramework.Log.Sinks

open Interleaving
open TboxFramework.Store (Bytes text)

set_option autoImplicit false

variable {manager : SinkManager} {outputs : Outputs} {number : Nat} {line : Bytes}
  {level : LogLevel} {choices : WriteOutcomes} {health : FileHealth}

/-- The console sink exists and calls itself available. -/
def SinkManager.ConsoleUsable (manager : SinkManager) : Prop :=
  ∃ sink, manager.consoleSink = some sink ∧ sink.available = true

/-- The number and the bytes of a print of the fallback. -/
def Printed.fallbackEntry : Printed → Option (Nat × Bytes)
  | .fallback number bytes => some (number, bytes)
  | .console _ _ _ => none

/-- The fallback entries of a list of prints, in the order of the prints. -/
def fallbackEntries (printed : List Printed) : List (Nat × Bytes) :=
  printed.filterMap Printed.fallbackEntry

/-- The console part of a write. -/
structure ConsoleEffect (manager : SinkManager) (outputs : Outputs) (choices : WriteOutcomes)
    (after : Bool × SinkManager × Outputs) : Prop where
  answer : after.1 = true ↔ manager.ConsoleUsable ∧ choices.console.shortWrite = none
  usable : after.2.1.ConsoleUsable ↔ manager.ConsoleUsable ∧ choices.console.shortWrite = none
  file : after.2.1.fileSink = manager.fileSink
  failures : after.2.1.consecutiveFailures = manager.consecutiveFailures
  fallback : after.2.1.stderrFallback = manager.stderrFallback
  directory : after.2.2.directory = outputs.directory
  printed : fallbackEntries after.2.2.printed = fallbackEntries outputs.printed

theorem console_effect : ConsoleEffect manager outputs choices
    (manager.writeConsole outputs number line level choices) := by
  cases found : manager.consoleSink with
  | none =>
      have unusable : ¬ manager.ConsoleUsable := by simp [SinkManager.ConsoleUsable, found]
      unfold SinkManager.writeConsole
      rw [found]
      constructor <;> simp [unusable]
  | some sink =>
      cases available : sink.available with
      | false =>
          have unusable : ¬ manager.ConsoleUsable := by
            simp [SinkManager.ConsoleUsable, found, available]
          unfold SinkManager.writeConsole
          rw [found]
          constructor <;> simp [available, unusable]
      | true =>
          unfold SinkManager.writeConsole ConsoleSink.write
          rw [found]
          cases short : choices.console.shortWrite with
          | none =>
              constructor <;>
                simp [available, found, short, SinkManager.ConsoleUsable, Outputs.print, fallbackEntries,
                  Printed.fallbackEntry]
          | some count =>
              constructor <;>
                simp [available, short, SinkManager.ConsoleUsable, Outputs.print, fallbackEntries,
                  Printed.fallbackEntry]

theorem FileHealth.Represents.transfer {other : SinkManager} (represents : health.Represents manager)
    (file : other.fileSink = manager.fileSink)
    (failures : other.consecutiveFailures = manager.consecutiveFailures)
    (fallback : other.stderrFallback = manager.stderrFallback) : health.Represents other := by
  cases health <;> simpa only [FileHealth.Represents, file, failures, fallback] using represents

theorem settle_keeps (after : Except StoulError Bool × RollingFileSink × LogDirectory) :
    (manager.settle outputs after).2.1.consoleSink = manager.consoleSink ∧
      (manager.settle outputs after).2.2.printed = outputs.printed := by
  unfold SinkManager.settle
  split
  · exact ⟨rfl, rfl⟩
  · exact ⟨rfl, rfl⟩
  · exact ⟨rfl, rfl⟩

theorem write_file_keeps :
    (manager.writeFile outputs number line choices).2.1.consoleSink = manager.consoleSink ∧
      (manager.writeFile outputs number line choices).2.2.printed = outputs.printed := by
  unfold SinkManager.writeFile
  split
  · split
    · exact settle_keeps _
    · exact ⟨rfl, rfl⟩
  · exact ⟨rfl, rfl⟩

/-- Neither the console nor the file takes the line. -/
def FallsBack (manager : SinkManager) (health : FileHealth) (choices : WriteOutcomes) : Prop :=
  ¬ (manager.ConsoleUsable ∧ choices.console.shortWrite = none) ∧ ¬ health.Takes choices.file

/-- The entry of a write that falls back. -/
def fallbackOf (number : Nat) (line : Bytes) (choices : WriteOutcomes) : Nat × Bytes :=
  (number, accepted (SinkManager.fallbackOutput line) choices.fallback)

/-- What one write does to the sinks and to the fallback entries. -/
structure WriteEffect (manager : SinkManager) (outputs : Outputs) (number : Nat) (line : Bytes)
    (choices : WriteOutcomes) (health next : FileHealth)
    (after : Except StoulError Bool × SinkManager × Outputs) : Prop where
  moves : FileHealth.Next (choices.file.shortWrite ≠ none)
    (manager.LosesFile outputs.directory line choices.file) health next
  represents : next.Represents after.2.1
  usable : after.2.1.ConsoleUsable ↔ manager.ConsoleUsable ∧ choices.console.shortWrite = none
  falls : FallsBack manager health choices →
    fallbackEntries after.2.2.printed =
      fallbackEntries outputs.printed ++ [fallbackOf number line choices]
  stays : ¬ FallsBack manager health choices →
    fallbackEntries after.2.2.printed = fallbackEntries outputs.printed

/-- The manager and the directory after the file part are those after the write. -/
theorem write_parts :
    (manager.write outputs number line level choices).2.1 =
        ((manager.writeConsole outputs number line level choices).2.1.writeFile
          (manager.writeConsole outputs number line level choices).2.2 number line choices).2.1 ∧
      (manager.write outputs number line level choices).2.2.directory =
        ((manager.writeConsole outputs number line level choices).2.1.writeFile
          (manager.writeConsole outputs number line level choices).2.2 number line
            choices).2.2.directory := by
  unfold SinkManager.write
  dsimp only
  split
  · exact ⟨rfl, rfl⟩
  · split
    · exact ⟨rfl, rfl⟩
    · exact ⟨rfl, rfl⟩

/-- The fallback entry is made when neither part has an answer of success. -/
theorem write_prints {console : Bool × SinkManager × Outputs}
    {file : Except StoulError Bool × SinkManager × Outputs}
    (first : manager.writeConsole outputs number line level choices = console)
    (second : console.2.1.writeFile console.2.2 number line choices = file) :
    (console.1 = false ∧ file.1 = .ok false →
      fallbackEntries (manager.write outputs number line level choices).2.2.printed =
        fallbackEntries file.2.2.printed ++ [fallbackOf number line choices]) ∧
      (¬ (console.1 = false ∧ file.1 = .ok false) →
        fallbackEntries (manager.write outputs number line level choices).2.2.printed =
          fallbackEntries file.2.2.printed) := by
  unfold SinkManager.write
  dsimp only
  rw [first, second]
  obtain ⟨answer, rest⟩ := file
  cases answer with
  | error problem => simp
  | ok stored =>
      cases console.1 <;> cases stored <;>
        simp [Outputs.print, fallbackEntries, Printed.fallbackEntry, fallbackOf]

theorem write_effect (represents : health.Represents manager) :
    ∃ next, WriteEffect manager outputs number line choices health next
      (manager.write outputs number line level choices) := by
  have console := @console_effect manager outputs number line level choices
  have kept := represents.transfer console.file console.failures console.fallback
  obtain ⟨next, moves, after, answer⟩ := @write_file_health number line
    (manager.writeConsole outputs number line level choices).2.1
    (manager.writeConsole outputs number line level choices).2.2 health choices kept
  have sinks := @write_file_keeps (manager.writeConsole outputs number line level choices).2.1
    (manager.writeConsole outputs number line level choices).2.2 number line choices
  have parts := @write_parts manager outputs number line level choices
  have prints := @write_prints manager outputs number line level choices _ _ rfl rfl
  rw [sinks.2, console.printed, answer, ← Bool.not_eq_true, console.answer] at prints
  refine ⟨next, ?_, ?_, ?_, prints.1, prints.2⟩
  · unfold SinkManager.LosesFile at moves
    rw [console.file, console.directory] at moves
    exact moves
  · rw [parts.1]
    exact after
  · rw [parts.1, ← console.usable]
    unfold SinkManager.ConsoleUsable
    rw [sinks.1]

/-! ## What the history tells -/

def LoggingEvent.isWrite : LoggingEvent → Bool
  | .write _ _ _ => true
  | .tools _ => false

/-- The number of writes. -/
def writesIn (events : List LoggingEvent) : Nat := events.countP LoggingEvent.isWrite

/-- A write to the console was short. -/
def ConsoleCut (events : List LoggingEvent) : Prop :=
  ∃ line level choices, .write line level choices ∈ events ∧ choices.console.shortWrite ≠ none

/-- A write to the file was short. -/
def FileCut (events : List LoggingEvent) : Prop :=
  ∃ line level choices, .write line level choices ∈ events ∧ choices.file.shortWrite ≠ none

/-- A write lost its file, and so many writes came after it. -/
def FileLost (begin : LoggingService) (events : List LoggingEvent) (writes : Nat) : Prop :=
  ∃ front line level choices back before, events = front ++ .write line level choices :: back ∧
    run LoggingService.step begin front = some before ∧
    before.manager.LosesFile before.outputs.directory line choices.file ∧ writesIn back = writes

def ConsoleGone (config : LogConfig) (events : List LoggingEvent) : Prop :=
  config.consoleConfig.enabled = false ∨ ConsoleCut events

def FileGone (config : LogConfig) (opening : FileOutcomes) (begin : LoggingService)
    (events : List LoggingEvent) : Prop :=
  config.fileConfig.enabled = false ∨ opening.opens = false ∨ FileCut events ∨
    ∃ writes, FileLost begin events writes

/-- The write with this number found no sink that took its line; these are the bytes that
stderr took instead. -/
def FellBack (config : LogConfig) (opening : FileOutcomes) (begin : LoggingService)
    (events : List LoggingEvent) (number : Nat) (bytes : Bytes) : Prop :=
  ∃ front line level choices back, events = front ++ .write line level choices :: back ∧
    writesIn front = number ∧
    bytes = accepted (SinkManager.fallbackOutput line) choices.fallback ∧
    (ConsoleGone config front ∨ choices.console.shortWrite ≠ none) ∧
    (FileGone config opening begin front ∨ choices.file.shortWrite ≠ none)

theorem writes_in_append (front back : List LoggingEvent) :
    writesIn (front ++ back) = writesIn front + writesIn back :=
  List.countP_append

theorem console_cut_append (events : List LoggingEvent) (event : LoggingEvent) :
    ConsoleCut (events ++ [event]) ↔ ConsoleCut events ∨ ConsoleCut [event] := by
  unfold ConsoleCut
  simp only [List.mem_append, or_and_right, exists_or]

theorem file_cut_append (events : List LoggingEvent) (event : LoggingEvent) :
    FileCut (events ++ [event]) ↔ FileCut events ∨ FileCut [event] := by
  unfold FileCut
  simp only [List.mem_append, or_and_right, exists_or]

theorem console_cut_write :
    ConsoleCut [.write line level choices] ↔ choices.console.shortWrite ≠ none := by
  constructor
  · intro cut
    obtain ⟨text, severity, outcomes, member, short⟩ := cut
    cases List.mem_singleton.mp member
    exact short
  · intro short
    exact ⟨line, level, choices, List.mem_singleton_self _, short⟩

theorem file_cut_write :
    FileCut [.write line level choices] ↔ choices.file.shortWrite ≠ none := by
  constructor
  · intro cut
    obtain ⟨text, severity, outcomes, member, short⟩ := cut
    cases List.mem_singleton.mp member
    exact short
  · intro short
    exact ⟨line, level, choices, List.mem_singleton_self _, short⟩

theorem tools_cut_nothing (directory : LogDirectory) :
    ¬ ConsoleCut [.tools directory] ∧ ¬ FileCut [.tools directory] := by
  constructor
  · intro cut
    obtain ⟨line, level, choices, member, short⟩ := cut
    cases List.mem_singleton.mp member
  · intro cut
    obtain ⟨line, level, choices, member, short⟩ := cut
    cases List.mem_singleton.mp member

/-- An event of a longer history is its last one or one of those before. -/
theorem snoc_split {Event : Type} {front back past : List Event} {event last : Event} :
    past ++ [last] = front ++ event :: back ↔
      (past = front ∧ last = event ∧ back = []) ∨
        ∃ rest, back = rest ++ [last] ∧ past = front ++ event :: rest := by
  cases List.eq_nil_or_concat' back with
  | inl empty =>
      rw [empty]
      simp
  | inr concat =>
      obtain ⟨rest, final, rfl⟩ := concat
      rw [← List.cons_append, ← List.append_assoc, List.append_singleton_inj]
      constructor
      · intro both
        exact .inr ⟨rest, by rw [both.2], both.1⟩
      · intro cases
        cases cases with
        | inl first => simp at first
        | inr later =>
            obtain ⟨other, same, split⟩ := later
            obtain ⟨rfl, rfl⟩ := List.append_singleton_inj.mp same
            exact ⟨split, rfl⟩

variable {config : LogConfig} {opening : FileOutcomes} {begin : LoggingService}
  {past : List LoggingEvent} {service : LoggingService}

theorem file_lost_tools (directory : LogDirectory) (writes : Nat) :
    FileLost begin (past ++ [.tools directory]) writes ↔ FileLost begin past writes := by
  constructor
  · intro lost
    obtain ⟨front, line, level, choices, back, before, split, reached, loses, count⟩ := lost
    cases snoc_split.mp split with
    | inl first => cases first.2.1
    | inr later =>
        obtain ⟨rest, rfl, shorter⟩ := later
        refine ⟨front, line, level, choices, rest, before, shorter, reached, loses, ?_⟩
        rw [← count, writes_in_append]
        rfl
  · intro lost
    obtain ⟨front, line, level, choices, back, before, split, reached, loses, count⟩ := lost
    refine ⟨front, line, level, choices, back ++ [.tools directory], before, ?_, reached, loses, ?_⟩
    · rw [split, List.append_assoc, List.cons_append]
    · rw [writes_in_append, count]
      rfl

theorem file_lost_write (reached : run LoggingService.step begin past = some service)
    (writes : Nat) :
    FileLost begin (past ++ [.write line level choices]) writes ↔
      (service.manager.LosesFile service.outputs.directory line choices.file ∧ writes = 0) ∨
        ∃ fewer, FileLost begin past fewer ∧ writes = fewer + 1 := by
  constructor
  · intro lost
    obtain ⟨front, other, severity, outcomes, back, before, split, arrived, loses, count⟩ := lost
    cases snoc_split.mp split with
    | inl first =>
        obtain ⟨rfl, same, rfl⟩ := first
        cases same
        cases reached.symm.trans arrived
        exact .inl ⟨loses, count.symm⟩
    | inr later =>
        obtain ⟨rest, rfl, shorter⟩ := later
        right
        refine ⟨writesIn rest, ⟨front, other, severity, outcomes, rest, before, shorter, arrived,
          loses, rfl⟩, ?_⟩
        rw [← count, writes_in_append]
        rfl
  · intro cases
    cases cases with
    | inl now =>
        exact ⟨past, line, level, choices, [], service, rfl, reached, now.1, now.2.symm⟩
    | inr before =>
        obtain ⟨fewer, lost, rfl⟩ := before
        obtain ⟨front, other, severity, outcomes, back, prior, split, arrived, loses, count⟩ := lost
        refine ⟨front, other, severity, outcomes, back ++ [.write line level choices], prior, ?_,
          arrived, loses, ?_⟩
        · rw [split, List.append_assoc, List.cons_append]
        · rw [writes_in_append, count]
          rfl

/-! ## The history and the state -/

/-- What the history says of a file sink of this health. -/
def FileHealth.ToldBy (config : LogConfig) (opening : FileOutcomes) (begin : LoggingService)
    (past : List LoggingEvent) : FileHealth → Prop
  | .absent => config.fileConfig.enabled = false
  | .closed => opening.opens = false
  | .working => ¬ FileGone config opening begin past
  | .cut => FileCut past
  | .lost writes => FileLost begin past writes

theorem FileHealth.ToldBy.working_iff {health : FileHealth}
    (told : health.ToldBy config opening begin past) :
    health = .working ↔ ¬ FileGone config opening begin past := by
  cases health with
  | absent => exact iff_of_false nofun fun present => present (.inl told)
  | closed => exact iff_of_false nofun fun present => present (.inr (.inl told))
  | working => exact iff_of_true rfl told
  | cut => exact iff_of_false nofun fun present => present (.inr (.inr (.inl told)))
  | lost writes =>
      exact iff_of_false nofun fun present => present (.inr (.inr (.inr ⟨writes, told⟩)))

theorem told_tools {directory : LogDirectory} (told : health.ToldBy config opening begin past) :
    health.ToldBy config opening begin (past ++ [.tools directory]) := by
  cases health with
  | absent | closed => exact told
  | cut => exact (file_cut_append _ _).mpr (.inl told)
  | lost writes => exact (file_lost_tools directory writes).mpr told
  | working =>
      have none_cut := (tools_cut_nothing directory).2
      unfold FileHealth.ToldBy FileGone at told ⊢
      simpa only [file_cut_append, none_cut, or_false, file_lost_tools] using told

theorem told_write {next : FileHealth}
    (reached : run LoggingService.step begin past = some service)
    (told : health.ToldBy config opening begin past)
    (moves : FileHealth.Next (choices.file.shortWrite ≠ none)
      (service.manager.LosesFile service.outputs.directory line choices.file) health next) :
    next.ToldBy config opening begin (past ++ [.write line level choices]) := by
  cases moves with
  | absent | closed => exact told
  | stays whole keeps =>
      unfold FileHealth.ToldBy FileGone at told ⊢
      simp only [file_cut_append, file_cut_write, whole, or_false, file_lost_write reached, keeps,
        false_and, false_or]
      intro gone
      apply told
      rcases gone with disabled | closed | cut | ⟨writes, fewer, lost, _⟩
      · exact .inl disabled
      · exact .inr (.inl closed)
      · exact .inr (.inr (.inl cut))
      · exact .inr (.inr (.inr ⟨fewer, lost⟩))
  | cuts cut => exact (file_cut_append _ _).mpr (.inr (file_cut_write.mpr cut))
  | loses whole lost => exact (file_lost_write reached 0).mpr (.inl ⟨lost, rfl⟩)
  | cut => exact (file_cut_append _ _).mpr (.inl told)
  | later writes => exact (file_lost_write reached (writes + 1)).mpr (.inr ⟨writes, told, rfl⟩)

/-- Only a sink that works has a file to lose. -/
theorem loses_working {directory : LogDirectory} (represents : health.Represents manager)
    (loses : manager.LosesFile directory line choices.file) : health = .working := by
  obtain ⟨sink, found, lost⟩ := loses
  cases health with
  | absent =>
      rw [represents.1] at found
      cases found
  | closed | cut =>
      obtain ⟨other, same, unavailable⟩ := represents.1
      rw [same] at found
      cases found
      rw [lost.available] at unavailable
      cases unavailable
  | working => rfl
  | lost writes =>
      obtain ⟨other, same, _, none⟩ := represents.1
      rw [same] at found
      cases found
      exact absurd none lost.opened

/-- The writes since the loss are the ones that the health counts. -/
theorem lost_count_write {next : FileHealth}
    (reached : run LoggingService.step begin past = some service)
    (represents : health.Represents service.manager)
    (counts : ∀ writes, FileLost begin past writes ↔ health = .lost writes)
    (moves : FileHealth.Next (choices.file.shortWrite ≠ none)
      (service.manager.LosesFile service.outputs.directory line choices.file) health next)
    (writes : Nat) :
    FileLost begin (past ++ [.write line level choices]) writes ↔ next = .lost writes := by
  have working := @loses_working service.manager line choices health service.outputs.directory
    represents
  rw [file_lost_write reached]
  simp only [counts]
  cases moves with
  | absent | closed | cut | later count =>
      have keeps : ¬ service.manager.LosesFile service.outputs.directory line choices.file :=
        fun loses => by cases working loses
      simp [keeps, eq_comm]
  | stays whole keeps => simp [keeps]
  | cuts short =>
      have keeps : ¬ service.manager.LosesFile service.outputs.directory line choices.file := by
        intro loses
        obtain ⟨sink, found, lost⟩ := loses
        exact short lost.whole
      simp [keeps]
  | loses whole lost => simp [lost, eq_comm]

/-- The state of a service is the one that its history tells. -/
structure Told (config : LogConfig) (opening : FileOutcomes) (begin : LoggingService)
    (past : List LoggingEvent) (service : LoggingService) : Prop where
  reached : run LoggingService.step begin past = some service
  health : ∃ health : FileHealth, health.Represents service.manager ∧
    health.ToldBy config opening begin past ∧
    ∀ writes, FileLost begin past writes ↔ health = .lost writes
  console : service.manager.ConsoleUsable ↔ ¬ ConsoleGone config past
  written : service.written = writesIn past
  fallen : ∀ number bytes, (number, bytes) ∈ fallbackEntries service.outputs.printed ↔
    FellBack config opening begin past number bytes
  ordered : ((fallbackEntries service.outputs.printed).map Prod.fst).Pairwise (· < ·)

theorem fell_back_tools (directory : LogDirectory) (number : Nat) (bytes : Bytes) :
    FellBack config opening begin (past ++ [.tools directory]) number bytes ↔
      FellBack config opening begin past number bytes := by
  constructor
  · intro fell
    obtain ⟨front, line, level, choices, back, split, rest⟩ := fell
    cases snoc_split.mp split with
    | inl first => cases first.2.1
    | inr later =>
        obtain ⟨between, rfl, shorter⟩ := later
        exact ⟨front, line, level, choices, between, shorter, rest⟩
  · intro fell
    obtain ⟨front, line, level, choices, back, split, rest⟩ := fell
    refine ⟨front, line, level, choices, back ++ [.tools directory], ?_, rest⟩
    rw [split, List.append_assoc, List.cons_append]

theorem fell_back_write (other : Nat) (bytes : Bytes) :
    FellBack config opening begin (past ++ [.write line level choices]) other bytes ↔
      FellBack config opening begin past other bytes ∨
        (other = writesIn past ∧
          bytes = accepted (SinkManager.fallbackOutput line) choices.fallback ∧
          (ConsoleGone config past ∨ choices.console.shortWrite ≠ none) ∧
          (FileGone config opening begin past ∨ choices.file.shortWrite ≠ none)) := by
  constructor
  · intro fell
    obtain ⟨front, text, severity, outcomes, back, split, counted, rest⟩ := fell
    cases snoc_split.mp split with
    | inl first =>
        obtain ⟨rfl, same, rfl⟩ := first
        cases same
        exact .inr ⟨counted.symm, rest⟩
    | inr later =>
        obtain ⟨between, rfl, shorter⟩ := later
        exact .inl ⟨front, text, severity, outcomes, between, shorter, counted, rest⟩
  · intro cases
    cases cases with
    | inl before =>
        obtain ⟨front, text, severity, outcomes, back, split, rest⟩ := before
        refine ⟨front, text, severity, outcomes, back ++ [.write line level choices], ?_, rest⟩
        rw [split, List.append_assoc, List.cons_append]
    | inr now => exact ⟨past, line, level, choices, [], rfl, now.1.symm, now.2⟩

theorem fell_back_number {number : Nat} {bytes : Bytes}
    (fell : FellBack config opening begin past number bytes) : number < writesIn past := by
  obtain ⟨front, line, level, choices, back, rfl, rfl, _⟩ := fell
  have write : writesIn (.write line level choices :: back) = writesIn back + 1 :=
    List.countP_cons_of_pos rfl
  rw [writes_in_append, write]
  omega

/-- The entry of a new write stands behind those of the earlier ones. -/
theorem entries_ordered {entries : List (Nat × Bytes)} {entry : Nat × Bytes}
    (ordered : (entries.map Prod.fst).Pairwise (· < ·))
    (earlier : ∀ number bytes, (number, bytes) ∈ entries → number < entry.1) :
    ((entries ++ [entry]).map Prod.fst).Pairwise (· < ·) := by
  rw [List.map_append, List.pairwise_append]
  refine ⟨ordered, List.pairwise_singleton _ _, ?_⟩
  intro number member later same
  obtain ⟨⟨first, bytes⟩, inside, rfl⟩ := List.mem_map.mp member
  rw [List.map_singleton, List.mem_singleton] at same
  rw [same]
  exact earlier first bytes inside

theorem told_step {event : LoggingEvent} {next : LoggingService}
    (told : Told config opening begin past service)
    (taken : service.step event = some next) :
    Told config opening begin (past ++ [event]) next := by
  have reached : run LoggingService.step begin (past ++ [event]) = some next := by
    rw [run_append, told.reached, Option.bind_some, run_cons, taken]
    rfl
  obtain ⟨health, represents, history, counts⟩ := told.health
  cases event with
  | tools directory =>
      cases taken
      refine ⟨reached, ⟨health, represents, told_tools history, ?_⟩, ?_, ?_, ?_, told.ordered⟩
      · intro writes
        rw [file_lost_tools, counts]
      · have none_cut := (tools_cut_nothing directory).1
        unfold ConsoleGone
        simp only [console_cut_append, none_cut, or_false]
        exact told.console
      · rw [writes_in_append]
        exact told.written
      · intro number bytes
        rw [fell_back_tools]
        exact told.fallen number bytes
  | write line level choices =>
      cases taken
      obtain ⟨after, moves, looks, usable, falls, stays⟩ := @write_effect service.manager
        service.outputs service.written line level choices health represents
      have decided : FallsBack service.manager health choices ↔
          (ConsoleGone config past ∨ choices.console.shortWrite ≠ none) ∧
            (FileGone config opening begin past ∨ choices.file.shortWrite ≠ none) := by
        unfold FallsBack FileHealth.Takes
        rw [told.console, history.working_iff]
        rw [not_and_or, not_and_or, not_not, not_not]
      have earlier : ∀ number bytes, (number, bytes) ∈ fallbackEntries service.outputs.printed →
          number < service.written := by
        intro number bytes member
        rw [told.written]
        exact fell_back_number ((told.fallen number bytes).mp member)
      refine ⟨reached, ⟨after, looks, told_write told.reached history moves,
        lost_count_write told.reached represents counts moves⟩, ?_, ?_, ?_, ?_⟩
      · refine usable.trans ?_
        unfold ConsoleGone
        rw [console_cut_append, console_cut_write, told.console]
        unfold ConsoleGone
        simp only [not_or, ne_eq, not_not, and_assoc]
      · rw [writes_in_append, ← told.written]
        rfl
      · intro other bytes
        rw [fell_back_write, ← told.fallen, ← decided, ← told.written]
        by_cases fell : FallsBack service.manager health choices
        · have printed := falls fell
          unfold fallbackOf at printed
          change _ ∈ fallbackEntries (service.manager.write _ _ _ _ _).2.2.printed ↔ _
          rw [printed, List.mem_append, List.mem_singleton, Prod.mk.injEq, and_iff_left fell]
        · change _ ∈ fallbackEntries (service.manager.write _ _ _ _ _).2.2.printed ↔ _
          rw [stays fell]
          simp [fell]
      · change ((fallbackEntries (service.manager.write _ _ _ _ _).2.2.printed).map _).Pairwise _
        by_cases fell : FallsBack service.manager health choices
        · rw [falls fell]
          exact entries_ordered told.ordered earlier
        · rw [stays fell]
          exact told.ordered

theorem nothing_yet {number : Nat} {bytes : Bytes} {writes : Nat} :
    ¬ ConsoleCut [] ∧ ¬ FileCut [] ∧ ¬ FileLost begin [] writes ∧
      ¬ FellBack config opening begin [] number bytes := by
  refine ⟨?_, ?_, ?_, ?_⟩
  · intro cut
    obtain ⟨line, level, choices, member, _⟩ := cut
    cases member
  · intro cut
    obtain ⟨line, level, choices, member, _⟩ := cut
    cases member
  · intro lost
    obtain ⟨front, line, level, choices, back, before, split, _⟩ := lost
    simp at split
  · intro fell
    obtain ⟨front, line, level, choices, back, split, _⟩ := fell
    simp at split

theorem start_told (config : LogConfig) (serviceName : Bytes) (directory : LogDirectory)
    (opening : FileOutcomes) :
    Told config opening (LoggingService.start config serviceName directory opening) []
      (LoggingService.start config serviceName directory opening) := by
  have empty := fun number bytes writes => @nothing_yet config opening
    (LoggingService.start config serviceName directory opening) number bytes writes
  refine ⟨rfl, ?_, ?_, rfl, ?_, List.Pairwise.nil⟩
  · have unlost : ∀ writes, ¬ FileLost
        (LoggingService.start config serviceName directory opening) [] writes :=
      fun writes => (empty 0 [] writes).2.2.1
    unfold LoggingService.start SinkManager.make at unlost ⊢
    cases enabled : config.fileConfig.enabled with
    | false =>
        refine ⟨.absent, ?_, enabled, ?_⟩
        · simp [FileHealth.Represents]
        · intro writes
          simpa [enabled] using unlost writes
    | true =>
        cases opens : opening.opens with
        | false =>
            refine ⟨.closed, ?_, opens, ?_⟩
            · simp [FileHealth.Represents, RollingFileSink.make, RollingFileSink.openNewFile, opens]
            · intro writes
              simpa [enabled] using unlost writes
        | true =>
            refine ⟨.working, ?_, ?_, ?_⟩
            · simp [FileHealth.Represents, RollingFileSink.make, RollingFileSink.openNewFile, opens]
            · intro gone
              rcases gone with disabled | closed | cut | ⟨writes, lost⟩
              · rw [enabled] at disabled
                cases disabled
              · rw [opens] at closed
                cases closed
              · exact (empty 0 [] 0).2.1 cut
              · apply unlost writes
                simpa [enabled] using lost
            · intro writes
              simpa [enabled] using unlost writes
  · unfold ConsoleGone LoggingService.start SinkManager.make SinkManager.ConsoleUsable
    have uncut := (empty 0 [] 0).1
    cases console : config.consoleConfig.enabled <;>
      cases file : config.fileConfig.enabled <;> simp [uncut, ConsoleSink.make]
  · intro number bytes
    refine iff_of_false ?_ (empty number bytes 0).2.2.2
    unfold fallbackEntries LoggingService.start
    simp

theorem reachable_told {serviceName : Bytes} {directory : LogDirectory} {events : List LoggingEvent}
    (completed : run LoggingService.step
      (LoggingService.start config serviceName directory opening) events = some service) :
    Told config opening (LoggingService.start config serviceName directory opening) events
      service := by
  refine traced_invariant
    (fun past service => Told config opening
      (LoggingService.start config serviceName directory opening) past service) ?_
    (start_told config serviceName directory opening)
    (along_of_forall (fun _ _ => trivial) _) completed
  intro past service event next told _ taken
  exact told_step told taken

/-- What the history says of the fallback entries on stderr. -/
structure FallbackStory (config : LogConfig) (opening : FileOutcomes) (begin : LoggingService)
    (events : List LoggingEvent) (entries : List (Nat × Bytes)) : Prop where
  /-- At most one for each call, in the order of the calls. -/
  ordered : (entries.map Prod.fst).Pairwise (· < ·)
  told : ∀ number bytes, (number, bytes) ∈ entries ↔
    FellBack config opening begin events number bytes

/-- Whatever the streams and the files do, a line goes to stderr under the mark of the
fallback exactly when the history and its own write leave no sink that takes it, once and
behind the lines of earlier calls. -/
theorem fallback_lines_told (config : LogConfig) (serviceName : Bytes) (directory : LogDirectory)
    (opening : FileOutcomes) (events : List LoggingEvent) (service : LoggingService)
    (completed : run LoggingService.step
      (LoggingService.start config serviceName directory opening) events = some service) :
    FallbackStory config opening (LoggingService.start config serviceName directory opening) events
      (fallbackEntries service.outputs.printed) :=
  ⟨(reachable_told completed).ordered, (reachable_told completed).fallen⟩

/-- A file for each line, and the console. -/
def lineFiles : LogConfig := { fileConfig := { enabled := true, maxFileSizeMb := 0 } }

/-- The console takes one byte of the second line, and the file after it does not open. -/
def failingSinks : List LoggingEvent :=
  let failing : WriteOutcomes :=
    { WriteOutcomes.success with
      console := ⟨false, some 1⟩
      file := { FileOutcomes.success with opens := false } }
  [.write (text "boot") .kInfo .success, .write (text "door") .kInfo failing,
    .write (text "fault") .kError .success, .write (text "park") .kInfo .success,
    .write (text "stop") .kInfo .success]

theorem fallback_lines_of_failing_sinks :
    ∃ service, run LoggingService.step (LoggingService.start lineFiles (text "tbox") [] .success)
        failingSinks = some service ∧
      fallbackEntries service.outputs.printed =
        [(2, text "[LOG_FALLBACK] fault\n"), (3, text "[LOG_FALLBACK] park\n"),
          (4, text "[LOG_FALLBACK] stop\n")] ∧
      FallbackStory lineFiles .success
        (LoggingService.start lineFiles (text "tbox") [] .success) failingSinks
        (fallbackEntries service.outputs.printed) :=
  ⟨_, rfl, rfl, fallback_lines_told lineFiles (text "tbox") [] .success failingSinks _ rfl⟩

theorem FileHealth.Represents.available_iff (represents : health.Represents manager) :
    (∃ sink, manager.fileSink = some sink ∧ sink.available = true) ↔
      health = .working ∨ ∃ writes, health = .lost writes := by
  cases health with
  | absent => simp [represents.1]
  | closed | cut =>
      obtain ⟨sink, found, unavailable⟩ := represents.1
      simp [found, unavailable]
  | working =>
      obtain ⟨sink, found, available, _⟩ := represents.1
      simp [found, available]
  | lost writes =>
      obtain ⟨sink, found, available, _⟩ := represents.1
      simp [found, available]

theorem FileHealth.Represents.fallback_iff (represents : health.Represents manager) :
    manager.stderrFallback = true ↔ ∃ writes, 3 ≤ writes ∧ health = .lost writes := by
  cases health with
  | absent | closed | working => simp [represents.2.2]
  | cut => simp [represents.2]
  | lost writes => simp [represents.2.2]

theorem has_available_sink_iff : manager.hasAvailableSink = true ↔
    manager.ConsoleUsable ∨ (∃ sink, manager.fileSink = some sink ∧ sink.available = true) ∨
      manager.stderrFallback = true := by
  unfold SinkManager.hasAvailableSink SinkManager.ConsoleUsable
  rw [Bool.or_eq_true, Bool.or_eq_true, or_assoc]
  cases manager.consoleSink <;> cases manager.fileSink <;> simp

/-- What the manager says of its sinks is not what they are: a file sink that lost its file
counts as available, and only its loss ever raises the flag of the fallback. -/
theorem sinks_report_themselves (config : LogConfig) (serviceName : Bytes)
    (directory : LogDirectory) (opening : FileOutcomes) (events : List LoggingEvent)
    (service : LoggingService)
    (completed : run LoggingService.step
      (LoggingService.start config serviceName directory opening) events = some service) :
    (service.manager.hasAvailableSink = true ↔
      ¬ ConsoleGone config events ∨
        ¬ FileGone config opening (LoggingService.start config serviceName directory opening)
          events ∨
        ∃ writes, FileLost (LoggingService.start config serviceName directory opening) events
          writes) ∧
      (service.manager.stderrFallback = true ↔
        ∃ writes, 3 ≤ writes ∧
          FileLost (LoggingService.start config serviceName directory opening) events writes) := by
  have told := reachable_told completed
  obtain ⟨health, represents, history, counts⟩ := told.health
  constructor
  · rw [has_available_sink_iff, told.console, represents.available_iff, represents.fallback_iff,
      history.working_iff]
    simp only [counts]
    constructor
    · intro available
      rcases available with console | (working | lost) | ⟨writes, _, lost⟩
      · exact .inl console
      · exact .inr (.inl working)
      · exact .inr (.inr lost)
      · exact .inr (.inr ⟨writes, lost⟩)
    · intro available
      rcases available with console | working | lost
      · exact .inl console
      · exact .inr (.inl (.inl working))
      · exact .inr (.inl (.inr lost))
  · rw [represents.fallback_iff]
    simp only [counts]

/-- Three lines after its loss the file sink still counts as available. -/
theorem lost_file_reported :
    ∃ service, run LoggingService.step (LoggingService.start lineFiles (text "tbox") [] .success)
        failingSinks = some service ∧
      service.manager.hasAvailableSink = true ∧ service.manager.stderrFallback = true ∧
      ConsoleGone lineFiles failingSinks ∧
      ∃ writes, 3 ≤ writes ∧
        FileLost (LoggingService.start lineFiles (text "tbox") [] .success) failingSinks writes := by
  refine ⟨_, rfl, rfl, rfl, ?_, ?_⟩
  · exact .inr ⟨text "door", .kInfo, _, .tail _ (.head _), nofun⟩
  · exact (sinks_report_themselves lineFiles (text "tbox") [] .success failingSinks _ rfl).2.mp rfl

end TboxFramework.Log.Sinks
