import TboxFramework.Library.Interleaving
import TboxFramework.Log.RotationRefinement

/-!
# Rotation and age

The sink takes the file of the least index for the oldest one. A process that is
started in a directory with larger indices begins again at index zero, and from then
on the file of the least index holds the newest lines.
-/

namespace TboxFramework.Log

open Interleaving (Along along_and along_of_invariant)
open TboxFramework.Store (Bytes text)
open RollingFileSink (output maxSizeBytes)

set_option autoImplicit false

/-- No line of a deleted file was written later than a line of a kept one. -/
def KeepsNewest (before after : LogDirectory) : Prop :=
  ∀ gone ∈ before, gone.name ∉ after.names → ∀ kept ∈ after,
    ∀ old ∈ gone.chunks, ∀ recent ∈ kept.chunks, old.number ≤ recent.number

namespace LogService

/-- The directory in which a write looks for the oldest file: its line is there. -/
def appended (service : LogService) (line : Bytes) : LogDirectory :=
  match service.sink.file with
  | some name => service.directory.append name (service.chunk line)
  | none => service.directory

/-- A write deletes no newer line than it keeps and leaves no more files than allowed. -/
def WriteRetainsNewest (service : LogService) : LogEvent → Prop
  | .write line =>
      KeepsNewest (service.appended line) (service.write line).directory ∧
        (service.write line).directory.length ≤ service.sink.config.maxFiles.toNat
  | .restart => True

/-- The 32 bits of the index are enough for the rotations so far. -/
def FewRotations (service : LogService) : LogEvent → Prop
  | .write line => (service.write line).rotations < UInt32.size
  | .restart => True

/-- A process is started while there is no file of an index above zero. -/
def RestartsUnrotated (service : LogService) : LogEvent → Prop
  | .write _ => True
  | .restart => ∀ name ∈ service.directory.names, name = fileName service.sink.serviceName 0

def Older (old recent : Chunk) : Prop := old.number < recent.number

/-- The directory is a rotating log whose lines stand in the order of their writes. -/
structure Aged (log : RotatingLog Chunk) (service : LogService) : Prop where
  tracks : Tracks log service
  sorted : log.entries.Pairwise Older
  past : ∀ chunk ∈ log.entries, chunk.number < service.written
  count : log.closed.length < service.sink.config.maxFiles.toNat

variable {service : LogService} {log : RotatingLog Chunk} {line : Bytes}

theorem Aged.sorted_next (line : Bytes) (aged : Aged log service) :
    (log.entries ++ [service.chunk line]).Pairwise Older := by
  rw [List.pairwise_append]
  refine ⟨aged.sorted, List.pairwise_singleton _ _, ?_⟩
  intro old member recent last
  rw [List.mem_singleton] at last
  rw [last]
  exact aged.past old member

theorem flatten_filled :
    (service.filled log line).flatten = log.entries ++ [service.chunk line] := by
  simp [filled, RotatingLog.entries, RotatingLog.files]

theorem keeps_all (directory : LogDirectory) : KeepsNewest directory directory := by
  intro gone member deleted
  exact absurd (List.mem_map_of_mem member) deleted

theorem chunks_of_mem {serviceName : Bytes} {base : Nat} {files : List (List Chunk)}
    {file : LogFile} (member : file ∈ consecutive serviceName base files) :
    file.chunks ∈ files := by
  induction files generalizing base with
  | nil => cases member
  | cons chunks rest induction =>
      rw [consecutive, List.mem_cons] at member
      cases member with
      | inl first =>
          rw [first]
          exact List.mem_cons_self
      | inr later => exact List.mem_cons_of_mem chunks (induction later)

theorem names_append (front back : LogDirectory) :
    LogDirectory.names (front ++ back) = front.names ++ back.names := List.map_append

/-- Dropping the first file of sorted ones keeps the newest lines. -/
theorem keeps_newest_of_retain {serviceName : Bytes} {limit first : Nat}
    {files : List (List Chunk)} (sorted : files.flatten.Pairwise Older) :
    KeepsNewest (consecutive serviceName first files)
      (consecutive serviceName (RotatingLog.retainedFirst limit first files)
        (RotatingLog.retain limit files ++ [[]])) := by
  intro gone member deleted kept remains old oldMember recent recentMember
  rw [consecutive_append, names_append, List.mem_append, not_or] at deleted
  have keptFile := chunks_of_mem remains
  unfold RotatingLog.retain RotatingLog.retainedFirst at deleted
  unfold RotatingLog.retain at keptFile
  by_cases full : limit ≤ files.length
  · rw [if_pos full, if_pos full] at deleted
    rw [if_pos full] at keptFile
    cases files with
    | nil => cases member
    | cons oldest rest =>
        rw [List.flatten_cons, List.pairwise_append] at sorted
        rw [List.drop_one, List.tail_cons] at deleted keptFile
        rw [consecutive, List.mem_cons] at member
        cases member with
        | inr later => exact absurd (List.mem_map_of_mem later) deleted.1
        | inl head =>
            rw [head] at oldMember
            rw [List.mem_append, List.mem_singleton] at keptFile
            cases keptFile with
            | inl among =>
                apply Nat.le_of_lt
                exact sorted.2.2 old oldMember recent
                  (List.mem_flatten.mpr ⟨kept.chunks, among, recentMember⟩)
            | inr empty =>
                rw [empty] at recentMember
                cases recentMember
  · rw [if_neg full, if_neg full] at deleted
    exact absurd (List.mem_map_of_mem member) deleted.1

theorem appended_eq (represents : Represents log service) :
    service.appended line =
      consecutive service.sink.serviceName log.first (service.filled log line) := by
  unfold appended
  rw [represents.file, represents.directory]
  exact append_consecutive _ represents.fits

theorem Aged.write (aged : Aged log service)
    (few : (service.write line).rotations < UInt32.size) :
    Aged (service.push log line) (service.write line) := by
  have sorted := aged.sorted_next line
  refine ⟨write_tracks aged.tracks few, RotatingLog.pairwise_push sorted, ?_, ?_⟩
  · intro chunk member
    obtain ⟨dropped, split⟩ : ∃ dropped, log.entries ++ [service.chunk line] =
        dropped ++ (service.push log line).entries := RotatingLog.entries_push _
    have among : chunk ∈ log.entries ++ [service.chunk line] := by
      rw [split]
      exact List.mem_append_right dropped member
    rw [List.mem_append, List.mem_singleton] at among
    cases among with
    | inl old => exact Nat.lt_succ_of_lt (aged.past chunk old)
    | inr last =>
        rw [last]
        exact Nat.lt_succ_self _
  · rw [config_of_write]
    exact RotatingLog.count_push aged.count

/-- Rotation of a log in order deletes the oldest lines. -/
theorem Aged.retains (aged : Aged log service)
    (few : (service.write line).rotations < UInt32.size) :
    WriteRetainsNewest service (.write line) := by
  have next := aged.write few
  have directory := next.tracks.represents.directory
  rw [name_of_write] at directory
  constructor
  · rw [appended_eq aged.tracks.represents, directory]
    have sorted := aged.sorted_next line
    rw [← flatten_filled] at sorted
    by_cases full : service.Rotates line
    · have pushed : service.push log line = _ :=
        RotatingLog.push_full ((rotates_iff aged.tracks.represents).mp full)
      rw [pushed]
      exact keeps_newest_of_retain sorted
    · have small := Nat.not_le.mp (mt (rotates_iff aged.tracks.represents).mpr full)
      have pushed : service.push log line = _ := RotatingLog.push_fits small
      rw [pushed]
      exact keeps_all _
  · have count := next.count
    rw [config_of_write] at count
    rw [directory, ← List.length_map LogFile.name]
    change (LogDirectory.names _).length ≤ _
    rw [names_consecutive_length, RotatingLog.files, List.length_append, List.length_singleton]
    exact count

/-- A directory without an index above zero holds the first file only. -/
theorem index_zero (represents : Represents log service)
    (unrotated : ∀ name ∈ service.directory.names,
      name = fileName service.sink.serviceName 0) : log.index = 0 := by
  have last : fileName service.sink.serviceName (UInt32.ofNat log.index) ∈
      service.directory.names := by
    rw [represents.directory, mem_names_consecutive]
    refine ⟨log.index, ?_, ?_, rfl⟩
    · exact Nat.le_add_right _ _
    · unfold RotatingLog.files RotatingLog.index
      rw [List.length_append, List.length_singleton]
      omega
  have same := file_name_injective _ (unrotated _ last)
  exact of_nat_injective represents.fits (by decide) same

/-- A process that is started takes the file of index zero that it finds, full or not. -/
theorem restart_first_file {service : LogService} {oldest : List Chunk} {rest : List (List Chunk)}
    (directory : service.directory = consecutive service.sink.serviceName 0 (oldest :: rest)) :
    service.restart = { service with
      sink := ⟨service.sink.config, service.sink.serviceName,
        some (fileName service.sink.serviceName 0), RotatingLog.load Chunk.size oldest, 0,
        true⟩ } := by
  have created : service.directory.create (fileName service.sink.serviceName 0) =
      service.directory := by
    unfold LogDirectory.create
    rw [if_pos]
    rw [directory]
    exact List.mem_cons_self
  have size : service.directory.sizeOf (fileName service.sink.serviceName 0) =
      RotatingLog.load Chunk.size oldest := by
    rw [directory]
    unfold LogDirectory.sizeOf
    rw [consecutive, List.find?_cons_of_pos (by simp)]
    rfl
  unfold restart RollingFileSink.make RollingFileSink.openNewFile
  simp only [created, size, FileOutcomes.success, if_true]

/-- The new process goes on with the file that it finds. -/
theorem restart_represents (represents : Represents log service)
    (unrotated : ∀ name ∈ service.directory.names,
      name = fileName service.sink.serviceName 0) : Represents log service.restart := by
  have zero := index_zero represents unrotated
  have directory := represents.directory
  obtain ⟨first, closed, current⟩ := log
  unfold RotatingLog.index at zero
  obtain ⟨rfl, none_closed⟩ := Nat.add_eq_zero_iff.mp zero
  rw [List.length_eq_zero_iff] at none_closed
  subst none_closed
  rw [restart_first_file directory]
  exact ⟨directory, rfl, rfl, rfl, rfl, represents.fits⟩

theorem Aged.restart (aged : Aged log service) (unrotated : RestartsUnrotated service .restart) :
    Aged log service.restart := by
  have settings := RollingFileSink.settings_open
    ⟨service.sink.config, service.sink.serviceName, none, 0, 0, false⟩ service.directory .success
  refine ⟨⟨restart_represents aged.tracks.represents unrotated, aged.tracks.rotations⟩,
    aged.sorted, aged.past, ?_⟩
  have config : service.restart.sink.config = service.sink.config := settings.1
  rw [config]
  exact aged.count

/-- A run of fewer events than indices makes few rotations. -/
theorem few_of_length (events : List LogEvent) :
    ∀ {service : LogService}, service.rotations + events.length < UInt32.size →
      Along step FewRotations service events := by
  induction events with
  | nil => exact fun _ => trivial
  | cons event rest induction =>
      intro service bound
      rw [List.length_cons] at bound
      cases event with
      | write line =>
          have counted : (service.write line).rotations ≤ service.rotations + 1 := by
            unfold write
            simp only
            split <;> omega
          refine ⟨Nat.lt_of_le_of_lt counted (by omega), ?_⟩
          intro next taken
          cases taken
          exact induction (by omega)
      | restart =>
          refine ⟨trivial, ?_⟩
          intro next taken
          cases taken
          exact induction (by change service.rotations + rest.length < _; omega)

/-- While processes are started only before the first rotation, every write keeps the
newest lines and no more files than allowed. -/
theorem unrotated_restarts_retain_newest (config : FileConfig) (serviceName : Bytes)
    (files : 0 < config.maxFiles.toNat) (events : List LogEvent)
    (few : Along step FewRotations (start config serviceName []) events)
    (unrotated : Along step RestartsUnrotated (start config serviceName []) events) :
    Along step WriteRetainsNewest (start config serviceName []) events := by
  apply along_of_invariant (fun service => ∃ log, Aged log service) ?_ ?_ ?_
    (along_and few unrotated)
  · intro service event next aged permitted taken
    obtain ⟨log, aged⟩ := aged
    cases event with
    | write line =>
        cases taken
        exact ⟨_, aged.write permitted.1⟩
    | restart =>
        cases taken
        exact ⟨log, aged.restart permitted.2⟩
  · intro service event aged permitted
    obtain ⟨log, aged⟩ := aged
    cases event with
    | write line => exact aged.retains permitted.1
    | restart => trivial
  · refine ⟨⟨0, [], []⟩, start_tracks config serviceName, List.Pairwise.nil, ?_, ?_⟩
    · intro chunk member
      cases member
    · rw [start_config]
      exact files

def quietRun : List LogEvent := [.write [97], .restart, .write [98]]

/-- A process that is started over the first file goes on with it. -/
theorem quiet_run_retains_newest :
    Along step WriteRetainsNewest (start {} (text "tbox") []) quietRun := by
  apply unrotated_restarts_retain_newest {} (text "tbox") (by decide) quietRun
    (few_of_length quietRun (by decide))
  refine ⟨trivial, ?_⟩
  intro first taken
  cases taken
  refine ⟨?_, fun second _ => ⟨trivial, fun _ _ => trivial⟩⟩
  unfold RestartsUnrotated
  decide

/-! ## A restart after a rotation -/

section Restarted

variable {config : FileConfig} {serviceName big small last : Bytes}

/-- A line that fills the first file, and one that leaves the second with room. -/
theorem two_files (files : config.maxFiles.toNat = 2)
    (full : maxSizeBytes config ≤ (output big).length)
    (fits : (output small).length < maxSizeBytes config) :
    (((start config serviceName []).write big).write small).directory =
        consecutive serviceName 0 [[⟨0, output big⟩], [⟨1, output small⟩]] ∧
      FewRotations (start config serviceName []) (.write big) ∧
      FewRotations ((start config serviceName []).write big) (.write small) := by
  have settings := start_config config serviceName []
  have filled : maxSizeBytes config ≤
      RotatingLog.load Chunk.size ([] ++ [(start config serviceName []).chunk big]) := by
    simpa [RotatingLog.load, Chunk.size, chunk] using full
  have pushed : (start config serviceName []).push ⟨0, [], []⟩ big =
      ⟨0, [[⟨0, output big⟩]], []⟩ := by
    unfold push
    rw [settings, RotatingLog.push_full filled, RotatingLog.retain, RotatingLog.retainedFirst,
      if_neg (by simp; omega), if_neg (by simp; omega)]
    rfl
  have first := start_tracks config serviceName
  have fewFirst : ((start config serviceName []).write big).rotations < UInt32.size := by
    rw [← index_push first, pushed]
    exact (by decide : 1 < UInt32.size)
  have second := write_tracks first fewFirst
  rw [pushed] at second
  have short : RotatingLog.load Chunk.size
      ([] ++ [((start config serviceName []).write big).chunk small]) < maxSizeBytes config := by
    simpa [RotatingLog.load, Chunk.size, chunk] using fits
  have next : ((start config serviceName []).write big).push ⟨0, [[⟨0, output big⟩]], []⟩ small =
      ⟨0, [[⟨0, output big⟩]], [⟨1, output small⟩]⟩ := by
    unfold push
    rw [config_of_write, settings, RotatingLog.push_fits short]
    rfl
  have fewSecond : (((start config serviceName []).write big).write small).rotations <
      UInt32.size := by
    rw [← index_push second, next]
    exact (by decide : 1 < UInt32.size)
  have third := write_tracks second fewSecond
  rw [next] at third
  refine ⟨?_, fewFirst, fewSecond⟩
  rw [third.represents.directory, name_of_write, name_of_write]
  rfl

theorem append_first {old recent : List Chunk} (added : Chunk) :
    (consecutive serviceName 0 [old, recent]).append (fileName serviceName 0) added =
      consecutive serviceName 0 [old ++ [added], recent] := by
  have absent := fresh_name serviceName 1 0 [recent] (by decide)
    (by change 2 ≤ UInt32.size; decide) (.inl Nat.zero_lt_one)
  have tail := LogDirectory.append_absent added absent
  have head : fileName serviceName (UInt32.ofNat 0) = fileName serviceName 0 := rfl
  unfold LogDirectory.append at tail ⊢
  rw [consecutive, List.map_cons]
  change _ :: (consecutive serviceName 1 [recent]).map _ = _
  exact congrArg₂ List.cons (if_pos head) tail

/-- With two files allowed, the least index is the current one. -/
theorem rotate_two_files {sink : RollingFileSink} {old recent : List Chunk}
    (files : sink.config.maxFiles.toNat = 2)
    (full : maxSizeBytes sink.config ≤ sink.currentSize) (index : sink.currentIndex = 0) :
    (sink.rotateIfNeeded (consecutive sink.serviceName 0 [old, recent]) .success).2.2 =
      consecutive sink.serviceName 1 [recent] := by
  have made := @RollingFileSink.make_room_consecutive 0 sink [old, recent] (by simp)
    (by change 2 < UInt32.size; decide)
  rw [files] at made
  have created : (consecutive sink.serviceName 1 [recent]).create (fileName sink.serviceName 1) =
      consecutive sink.serviceName 1 [recent] := by
    unfold LogDirectory.create
    rw [if_pos]
    exact List.mem_cons_self
  unfold RollingFileSink.rotateIfNeeded
  rw [if_neg (Nat.not_lt.mpr full), made, index]
  exact created

/-- The first write of that process deletes the first file, its own line included. -/
theorem write_two_files {service : LogService} {old recent : List Chunk} {line : Bytes}
    (directory : service.directory = consecutive service.sink.serviceName 0 [old, recent])
    (files : service.sink.config.maxFiles.toNat = 2)
    (full : maxSizeBytes service.sink.config ≤ RotatingLog.load Chunk.size old) :
    service.restart.appended line = consecutive service.sink.serviceName 0
        [old ++ [service.chunk line], recent] ∧
      (service.restart.write line).directory =
        consecutive service.sink.serviceName 1 [recent] := by
  have restarted := restart_first_file directory
  constructor
  · unfold appended
    rw [restarted, directory]
    exact append_first _
  · rw [directory_write, restarted, directory, RollingFileSink.write_success rfl rfl]
    have appended := @append_first service.sink.serviceName old recent
      ⟨service.written, output line⟩
    simp only [appended]
    exact rotate_two_files files (Nat.le_add_right_of_le full) rfl

/-- The line written last is gone while an older one is kept. -/
theorem restart_loses_newest (files : config.maxFiles.toNat = 2)
    (full : maxSizeBytes config ≤ (output big).length)
    (fits : (output small).length < maxSizeBytes config) :
    ¬ WriteRetainsNewest (((start config serviceName []).write big).write small).restart
      (.write last) := by
  have settings := start_config config serviceName []
  have name : (((start config serviceName []).write big).write small).sink.serviceName =
      serviceName := by
    rw [name_of_write, name_of_write]
    rfl
  have settings_kept :
      (((start config serviceName []).write big).write small).sink.config = config := by
    rw [config_of_write, config_of_write, settings]
  have directory : (((start config serviceName []).write big).write small).directory =
      consecutive (((start config serviceName []).write big).write small).sink.serviceName 0
        [[⟨0, output big⟩], [⟨1, output small⟩]] := by
    rw [name]
    exact (two_files files full fits).1
  have deleted := @write_two_files _ [⟨0, output big⟩] _ last directory
    (by rw [settings_kept]; exact files)
    (by rw [settings_kept]; simpa [RotatingLog.load, Chunk.size] using full)
  rw [name] at deleted
  intro retains
  have kept := retains.1
  rw [deleted.1, deleted.2] at kept
  have absent := fresh_name serviceName 1 0 [[⟨1, output small⟩]] (by decide)
    (by change 2 ≤ UInt32.size; decide) (.inl Nat.zero_lt_one)
  have newest := kept _ List.mem_cons_self absent _ List.mem_cons_self ⟨2, output last⟩
    (List.mem_append_right _ List.mem_cons_self) ⟨1, output small⟩ List.mem_cons_self
  exact absurd newest (Nat.not_succ_le_self 1)

end Restarted

def pairConfig : FileConfig :=
  { enabled := true, maxFileSizeMb := 1, maxFiles := 2, totalBudgetMb := 2 }

/-- A line of one megabyte, a short one, a new process and another short one. -/
def restartedRun : List LogEvent :=
  [.write (List.replicate 1048576 97), .write [98], .restart, .write [99]]

/-- The new process deletes the line that it has just written. -/
theorem restart_deletes_newest :
    2 ≤ pairConfig.maxFiles.toNat ∧ 1 ≤ pairConfig.maxFileSizeMb.toNat ∧
      Along step FewRotations (start pairConfig (text "tbox") []) restartedRun ∧
      ¬ Along step WriteRetainsNewest (start pairConfig (text "tbox") []) restartedRun := by
  refine ⟨by decide, by decide, few_of_length restartedRun (by decide), ?_⟩
  intro retained
  have full : maxSizeBytes pairConfig ≤ (output (List.replicate 1048576 97)).length := by
    unfold output
    rw [List.length_append, List.length_replicate]
    decide
  exact restart_loses_newest rfl full (by decide) (((retained.2 _ rfl).2 _ rfl).2 _ rfl).1

end LogService

end TboxFramework.Log
