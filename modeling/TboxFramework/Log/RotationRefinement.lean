import TboxFramework.Library.RotatingLog
import TboxFramework.Log.RollingFileSink

/-!
# The log directory of a service

Processes of one service write to one directory, one after the other, and every file
operation succeeds. As long as no index is used again, the directory is a rotating
log: its files carry consecutive indices, oldest first.
-/

namespace TboxFramework.Log

open TboxFramework.Store (Bytes text)
open RollingFileSink (output maxSizeBytes)

set_option autoImplicit false

/-- A directory with the process that writes to it. -/
structure LogService where
  sink : RollingFileSink
  directory : LogDirectory
  /-- The number of writes so far, of all processes. -/
  written : Nat
  rotations : Nat

inductive LogEvent
  | write (line : Bytes)
  | restart

namespace LogService

/-- Whether a write of this line closes the current file. -/
def Rotates (service : LogService) (line : Bytes) : Prop :=
  maxSizeBytes service.sink.config ≤ service.sink.currentSize + (output line).length

instance (service : LogService) (line : Bytes) : Decidable (service.Rotates line) :=
  inferInstanceAs (Decidable (_ ≤ _))

def start (config : FileConfig) (serviceName : Bytes) (directory : LogDirectory) : LogService :=
  let made := RollingFileSink.make config serviceName directory .success
  { sink := made.1, directory := made.2, written := 0, rotations := 0 }

def write (service : LogService) (line : Bytes) : LogService :=
  let after := service.sink.write service.directory service.written line .success
  { sink := after.2.1
    directory := after.2.2
    written := service.written + 1
    rotations := if service.Rotates line then service.rotations + 1 else service.rotations }

def restart (service : LogService) : LogService :=
  let made := RollingFileSink.make service.sink.config service.sink.serviceName service.directory
    .success
  { service with sink := made.1, directory := made.2 }

def step (service : LogService) : LogEvent → Option LogService
  | .write line => some (service.write line)
  | .restart => some service.restart

end LogService

/-- Files with consecutive indices. -/
def consecutive (serviceName : Bytes) : Nat → List (List Chunk) → LogDirectory
  | _, [] => []
  | index, chunks :: rest =>
      ⟨fileName serviceName (UInt32.ofNat index), chunks⟩ ::
        consecutive serviceName (index + 1) rest

variable {serviceName : Bytes} {base : Nat}

theorem consecutive_append (front back : List (List Chunk)) :
    consecutive serviceName base (front ++ back) =
      consecutive serviceName base front ++ consecutive serviceName (base + front.length) back := by
  induction front generalizing base with
  | nil => rfl
  | cons chunks rest induction =>
      rw [List.cons_append, consecutive, induction, List.length_cons, Nat.add_right_comm,
        Nat.add_assoc]
      rfl

theorem mem_names_consecutive {files : List (List Chunk)} {name : Bytes} :
    name ∈ (consecutive serviceName base files).names ↔
      ∃ index, base ≤ index ∧ index < base + files.length ∧
        name = fileName serviceName (UInt32.ofNat index) := by
  induction files generalizing base with
  | nil =>
      constructor
      · intro member
        cases member
      · intro within
        obtain ⟨index, low, high, _⟩ := within
        rw [List.length_nil] at high
        omega
  | cons chunks rest induction =>
      change name ∈ _ :: (consecutive serviceName (base + 1) rest).names ↔ _
      rw [List.mem_cons, induction, List.length_cons]
      constructor
      · intro member
        cases member with
        | inl first => exact ⟨base, Nat.le_refl base, by omega, first⟩
        | inr later =>
            obtain ⟨index, low, high, named⟩ := later
            exact ⟨index, by omega, by omega, named⟩
      · intro within
        obtain ⟨index, low, high, named⟩ := within
        by_cases first : index = base
        · rw [first] at named
          exact .inl named
        · exact .inr ⟨index, by omega, by omega, named⟩

theorem of_nat_injective {left right : Nat} (leftFits : left < UInt32.size)
    (rightFits : right < UInt32.size) (same : UInt32.ofNat left = UInt32.ofNat right) :
    left = right := by
  have numbers := congrArg UInt32.toNat same
  rwa [UInt32.toNat_ofNat_of_lt' leftFits, UInt32.toNat_ofNat_of_lt' rightFits] at numbers

theorem fresh_name (serviceName : Bytes) (base index : Nat) (files : List (List Chunk))
    (fits : index < UInt32.size) (bound : base + files.length ≤ UInt32.size)
    (outside : index < base ∨ base + files.length ≤ index) :
    fileName serviceName (UInt32.ofNat index) ∉ (consecutive serviceName base files).names := by
  intro member
  obtain ⟨other, low, high, named⟩ := mem_names_consecutive.mp member
  have same := of_nat_injective fits (by omega) (file_name_injective serviceName named)
  omega

namespace LogDirectory

theorem append_absent {directory : LogDirectory} {name : Bytes} (chunk : Chunk)
    (absent : name ∉ directory.names) : directory.append name chunk = directory := by
  unfold append
  induction directory with
  | nil => rfl
  | cons file rest induction =>
      unfold names at absent
      rw [List.map_cons, List.mem_cons, not_or] at absent
      rw [List.map_cons, if_neg (Ne.symm absent.1), induction absent.2]

theorem remove_absent {directory : LogDirectory} {name : Bytes}
    (absent : name ∉ directory.names) : directory.remove name = directory := by
  unfold remove
  rw [List.filter_eq_self]
  intro file member
  have other : file.name ≠ name := fun same =>
    absent (same ▸ List.mem_map_of_mem member)
  simpa using other

theorem size_of_append (front : LogDirectory) (file : LogFile) (absent : file.name ∉ front.names) :
    sizeOf (front ++ [file]) file.name = file.size := by
  unfold sizeOf
  rw [List.find?_append, List.find?_eq_none.mpr]
  · simp
  · intro other member
    have different : other.name ≠ file.name := fun same =>
      absent (same ▸ List.mem_map_of_mem member)
    simpa using different

end LogDirectory

/-- The chunk goes to the last of the files. -/
theorem append_consecutive {closed : List (List Chunk)} {current : List Chunk} (chunk : Chunk)
    (bound : base + closed.length < UInt32.size) :
    (consecutive serviceName base (closed ++ [current])).append
        (fileName serviceName (UInt32.ofNat (base + closed.length))) chunk =
      consecutive serviceName base (closed ++ [current ++ [chunk]]) := by
  have absent := fresh_name serviceName base (base + closed.length) closed bound (by omega)
    (.inr (Nat.le_refl _))
  have front := LogDirectory.append_absent chunk absent
  unfold LogDirectory.append at front ⊢
  rw [consecutive_append, consecutive_append, List.map_append, front]
  simp [consecutive]

theorem names_consecutive_cons (chunks : List Chunk) (rest : List (List Chunk)) :
    (consecutive serviceName base (chunks :: rest)).names =
      fileName serviceName (UInt32.ofNat base) :: (consecutive serviceName (base + 1) rest).names :=
  rfl

/-- The oldest file goes. -/
theorem remove_first {oldest : List Chunk} {rest : List (List Chunk)}
    (bound : base + rest.length < UInt32.size) :
    (consecutive serviceName base (oldest :: rest)).remove
        (fileName serviceName (UInt32.ofNat base)) =
      consecutive serviceName (base + 1) rest := by
  have absent := fresh_name serviceName (base + 1) base rest (by omega) (by omega)
    (.inl (by omega))
  have tail := LogDirectory.remove_absent absent
  unfold LogDirectory.remove at tail ⊢
  rw [consecutive, List.filter_cons_of_neg (by simp), tail]

theorem create_next {files : List (List Chunk)} (bound : base + files.length < UInt32.size) :
    (consecutive serviceName base files).create
        (fileName serviceName (UInt32.ofNat (base + files.length))) =
      consecutive serviceName base (files ++ [[]]) := by
  have absent := fresh_name serviceName base (base + files.length) files bound (by omega)
    (.inr (Nat.le_refl _))
  unfold LogDirectory.create
  rw [if_neg absent, consecutive_append]
  rfl

theorem all_log_names {files : List (List Chunk)} :
    ∀ name ∈ (consecutive serviceName base files).names, isLogName serviceName name = true := by
  intro name member
  obtain ⟨index, _, _, named⟩ := mem_names_consecutive.mp member
  rw [named]
  exact is_log_name_file_name serviceName _

theorem names_consecutive_length (files : List (List Chunk)) :
    (consecutive serviceName base files).names.length = files.length := by
  induction files generalizing base with
  | nil => rfl
  | cons chunks rest induction =>
      rw [names_consecutive_cons, List.length_cons, induction, List.length_cons]

namespace RollingFileSink

theorem scan_file_name (best : UInt32 × Option Bytes) (index : UInt32) :
    scanName serviceName best (fileName serviceName index) =
      .ok (if index < best.1 then (index, some (fileName serviceName index)) else best) := by
  unfold scanName
  rw [if_pos (is_log_name_file_name serviceName index), name_index_file_name]
  rfl

/-- Larger indices do not change what the search has found. -/
theorem scan_larger {files : List (List Chunk)} {best : UInt32 × Option Bytes}
    (bound : base + files.length ≤ UInt32.size) (found : best.1.toNat ≤ base) :
    (consecutive serviceName base files).names.foldlM (scanName serviceName) best = .ok best := by
  induction files generalizing base with
  | nil => rfl
  | cons chunks rest induction =>
      rw [List.length_cons] at bound
      rw [names_consecutive_cons, List.foldlM_cons, scan_file_name, if_neg]
      · exact induction (by omega) (by omega)
      · rw [UInt32.lt_iff_toNat_lt, UInt32.toNat_ofNat_of_lt' (by omega)]
        omega

theorem oldest_consecutive {oldest : List Chunk} {rest : List (List Chunk)}
    (bound : base + rest.length + 1 < UInt32.size) :
    oldestFile serviceName (consecutive serviceName base (oldest :: rest)).names =
      .ok (some (fileName serviceName (UInt32.ofNat base))) := by
  have size : UInt32.size = 4294967296 := rfl
  unfold oldestFile
  rw [names_consecutive_cons, List.foldlM_cons, scan_file_name, if_pos]
  · have small : (UInt32.ofNat base).toNat ≤ base + 1 := by
      rw [UInt32.toNat_ofNat_of_lt' (by omega)]
      omega
    exact congrArg (Except.map Prod.snd) (scan_larger (by omega) small)
  · rw [UInt32.lt_iff_toNat_lt, UInt32.toNat_ofNat_of_lt' (by omega)]
    change base < 4294967295
    omega

variable {sink : RollingFileSink}

theorem count_consecutive (files : List (List Chunk)) :
    sink.countFiles (consecutive sink.serviceName base files) .success = files.length := by
  unfold countFiles
  rw [List.filter_eq_self.mpr all_log_names, names_consecutive_length]
  rfl

/-- The sink makes room as the rotating log does; the indices go on. -/
theorem make_room_consecutive {files : List (List Chunk)} (nonempty : files ≠ [])
    (bound : base + files.length < UInt32.size) :
    sink.makeRoom (consecutive sink.serviceName base files) .success =
      .ok (consecutive sink.serviceName
        (RotatingLog.retainedFirst sink.config.maxFiles.toNat base files)
        (RotatingLog.retain sink.config.maxFiles.toNat files)) := by
  unfold makeRoom RotatingLog.retain RotatingLog.retainedFirst
  rw [count_consecutive]
  by_cases full : sink.config.maxFiles.toNat ≤ files.length
  · rw [if_pos full, if_pos full, if_pos full]
    cases files with
    | nil => exact absurd rfl nonempty
    | cons oldest rest =>
        rw [List.length_cons] at bound
        unfold removeOldestFile
        rw [oldest_consecutive (by omega)]
        exact congrArg Except.ok (remove_first (by omega))
  · rw [if_neg full, if_neg full, if_neg full]

theorem open_next {files : List (List Chunk)} (bound : base + files.length < UInt32.size)
    (index : sink.currentIndex = UInt32.ofNat (base + files.length)) :
    openNewFile sink (consecutive sink.serviceName base files) .success =
      (true,
        { sink with
          file := some (fileName sink.serviceName (UInt32.ofNat (base + files.length)))
          currentSize := 0 },
        consecutive sink.serviceName base (files ++ [[]])) := by
  have absent := fresh_name sink.serviceName base (base + files.length) files bound (by omega)
    (.inr (Nat.le_refl _))
  have empty : (consecutive sink.serviceName base (files ++ [[]])).sizeOf
      (fileName sink.serviceName (UInt32.ofNat (base + files.length))) = 0 := by
    rw [consecutive_append]
    exact LogDirectory.size_of_append _ ⟨_, []⟩ absent
  unfold openNewFile
  simp only [index, create_next bound, empty, FileOutcomes.success, if_true]

/-- A full file is closed, room is made and the next index is opened. -/
theorem rotate_consecutive {files : List (List Chunk)} (nonempty : files ≠ [])
    (full : maxSizeBytes sink.config ≤ sink.currentSize)
    (next : sink.currentIndex + 1 = UInt32.ofNat (base + files.length))
    (bound : base + files.length < UInt32.size) :
    (sink.rotateIfNeeded (consecutive sink.serviceName base files) .success).2 =
      ({ sink with
          file := some (fileName sink.serviceName (UInt32.ofNat (base + files.length)))
          currentSize := 0
          currentIndex := sink.currentIndex + 1 },
        consecutive sink.serviceName
          (RotatingLog.retainedFirst sink.config.maxFiles.toNat base files)
          (RotatingLog.retain sink.config.maxFiles.toNat files ++ [[]])) := by
  have same : RotatingLog.retainedFirst sink.config.maxFiles.toNat base files +
      (RotatingLog.retain sink.config.maxFiles.toNat files).length = base + files.length :=
    RotatingLog.retained_index nonempty
  have opened := @open_next (RotatingLog.retainedFirst sink.config.maxFiles.toNat base files)
    { sink with currentIndex := sink.currentIndex + 1 }
    (RotatingLog.retain sink.config.maxFiles.toNat files)
    (by rw [same]; exact bound) (by rw [same]; exact next)
  unfold rotateIfNeeded
  rw [if_neg (Nat.not_lt.mpr full), make_room_consecutive nonempty bound, ← same]
  exact congrArg Prod.snd opened

/-- No operation of the sink changes its configuration or its service. -/
def SameSettings (after before : RollingFileSink) : Prop :=
  after.config = before.config ∧ after.serviceName = before.serviceName

theorem settings_open (sink : RollingFileSink) (directory : LogDirectory)
    (outcomes : FileOutcomes) : SameSettings (openNewFile sink directory outcomes).2.1 sink := by
  unfold openNewFile
  split <;> exact ⟨rfl, rfl⟩

theorem settings_rotate (sink : RollingFileSink) (directory : LogDirectory)
    (outcomes : FileOutcomes) : SameSettings (sink.rotateIfNeeded directory outcomes).2.1 sink := by
  unfold rotateIfNeeded
  split
  · exact ⟨rfl, rfl⟩
  · split
    · exact ⟨rfl, rfl⟩
    · exact settings_open _ _ _

theorem settings_write (sink : RollingFileSink) (directory : LogDirectory) (number : Nat)
    (line : Bytes) (outcomes : FileOutcomes) :
    SameSettings (sink.write directory number line outcomes).2.1 sink := by
  unfold write
  split
  · split
    · exact ⟨rfl, rfl⟩
    · exact settings_rotate _ _ _
  · exact ⟨rfl, rfl⟩

/-- A write that succeeds appends its line and looks whether the file is full. -/
theorem write_success {name : Bytes} (available : sink.available = true)
    (file : sink.file = some name) (directory : LogDirectory) (number : Nat) (line : Bytes) :
    (sink.write directory number line .success).2 =
      (rotateIfNeeded { sink with currentSize := sink.currentSize + (output line).length }
        (directory.append name ⟨number, output line⟩) .success).2 := by
  cases sink
  simp only at available file
  subst available file
  rfl

end RollingFileSink

namespace LogService

/-- The directory is a rotating log: the indices are the numbers of its files. -/
structure Represents (log : RotatingLog Chunk) (service : LogService) : Prop where
  directory : service.directory = consecutive service.sink.serviceName log.first log.files
  file : service.sink.file = some (fileName service.sink.serviceName (UInt32.ofNat log.index))
  currentIndex : service.sink.currentIndex = UInt32.ofNat log.index
  currentSize : service.sink.currentSize = RotatingLog.load Chunk.size log.current
  available : service.sink.available = true
  fits : log.index < UInt32.size

/-- What the next write puts into a file. -/
def chunk (service : LogService) (line : Bytes) : Chunk := ⟨service.written, output line⟩

/-- The rotating log that the configuration asks for. -/
def push (service : LogService) (log : RotatingLog Chunk) (line : Bytes) : RotatingLog Chunk :=
  log.push Chunk.size (maxSizeBytes service.sink.config) service.sink.config.maxFiles.toNat
    (service.chunk line)

variable {service : LogService} {log : RotatingLog Chunk} {line : Bytes}

theorem sink_write (service : LogService) (line : Bytes) : (service.write line).sink =
    (service.sink.write service.directory service.written line .success).2.1 := rfl

theorem directory_write (service : LogService) (line : Bytes) : (service.write line).directory =
    (service.sink.write service.directory service.written line .success).2.2 := rfl

/-- The sink after its line was added to the file. -/
def grown (service : LogService) (line : Bytes) : RollingFileSink :=
  { service.sink with currentSize := service.sink.currentSize + (output line).length }

/-- The files after the line was added. -/
def filled (service : LogService) (log : RotatingLog Chunk) (line : Bytes) : List (List Chunk) :=
  log.closed ++ [log.current ++ [service.chunk line]]

theorem index_filled : log.first + (service.filled log line).length = log.index + 1 := by
  unfold filled RotatingLog.index
  rw [List.length_append, List.length_singleton, Nat.add_assoc]

theorem write_eq (line : Bytes) (represents : Represents log service) :
    (service.sink.write service.directory service.written line .success).2 =
      ((service.grown line).rotateIfNeeded
        (consecutive service.sink.serviceName log.first (service.filled log line)) .success).2 := by
  rw [RollingFileSink.write_success represents.available represents.file, represents.directory,
    RotatingLog.files, RotatingLog.index, append_consecutive _ represents.fits]
  rfl

theorem load_filled (represents : Represents log service) :
    RotatingLog.load Chunk.size (log.current ++ [service.chunk line]) =
      service.sink.currentSize + (output line).length := by
  rw [RotatingLog.load_append, represents.currentSize]
  simp [RotatingLog.load, chunk, Chunk.size]

/-- A line that leaves room goes to the current file. -/
theorem write_fits (represents : Represents log service) (stays : ¬ service.Rotates line) :
    Represents (service.push log line) (service.write line) := by
  have small := Nat.not_le.mp stays
  have written := write_eq line represents
  unfold RollingFileSink.rotateIfNeeded at written
  rw [if_pos (show (service.grown line).currentSize < maxSizeBytes (service.grown line).config
    from small)] at written
  have sink := (sink_write service line).trans (congrArg Prod.fst written)
  have fits : RotatingLog.load Chunk.size (log.current ++ [service.chunk line]) <
      maxSizeBytes service.sink.config := by
    rw [load_filled represents]
    exact small
  unfold push
  rw [RotatingLog.push_fits fits]
  constructor
  · rw [directory_write, written, sink]
    rfl
  · rw [sink]
    exact represents.file
  · rw [sink]
    exact represents.currentIndex
  · rw [sink]
    exact (load_filled represents).symm
  · rw [sink]
    exact represents.available
  · exact represents.fits

/-- A line that fills the file starts the next one. -/
theorem write_rotates (represents : Represents log service) (full : service.Rotates line)
    (room : log.index + 1 < UInt32.size) :
    Represents (service.push log line) (service.write line) := by
  have count : log.first + (service.filled log line).length = log.index + 1 := index_filled
  have next : (service.grown line).currentIndex + 1 =
      UInt32.ofNat (log.first + (service.filled log line).length) := by
    rw [count, UInt32.ofNat_add]
    exact congrArg (· + 1) represents.currentIndex
  have filledUp : maxSizeBytes (service.grown line).config ≤ (service.grown line).currentSize :=
    full
  have rotated := RollingFileSink.rotate_consecutive (by simp [filled]) filledUp next
    (by rw [count]; exact room)
  have written := (write_eq line represents).trans rotated
  have sink := (sink_write service line).trans (congrArg Prod.fst written)
  have full' : maxSizeBytes service.sink.config ≤
      RotatingLog.load Chunk.size (log.current ++ [service.chunk line]) := by
    rw [load_filled represents]
    exact full
  have index : (service.push log line).index = log.index + 1 := by
    unfold push
    rw [RotatingLog.index_push, if_pos full']
  have pushed : service.push log line =
      ⟨RotatingLog.retainedFirst service.sink.config.maxFiles.toNat log.first
          (service.filled log line),
        RotatingLog.retain service.sink.config.maxFiles.toNat (service.filled log line), []⟩ :=
    RotatingLog.push_full full'
  constructor
  · rw [directory_write, written, sink, pushed]
    rfl
  · rw [sink, index, ← count]
  · rw [sink, index, ← count, ← next]
  · rw [sink, pushed]
    rfl
  · rw [sink]
    exact represents.available
  · rw [index]
    exact room

/-- The directory is a rotating log and as many files were closed as rotations were made. -/
structure Tracks (log : RotatingLog Chunk) (service : LogService) : Prop where
  represents : Represents log service
  rotations : log.index = service.rotations

theorem rotates_iff (represents : Represents log service) : service.Rotates line ↔
    maxSizeBytes service.sink.config ≤
      RotatingLog.load Chunk.size (log.current ++ [service.chunk line]) := by
  rw [load_filled represents]
  rfl

theorem index_push (tracks : Tracks log service) :
    (service.push log line).index = (service.write line).rotations := by
  unfold push
  rw [RotatingLog.index_push, tracks.rotations]
  exact if_congr (rotates_iff tracks.represents).symm rfl rfl

theorem write_tracks (tracks : Tracks log service)
    (few : (service.write line).rotations < UInt32.size) :
    Tracks (service.push log line) (service.write line) := by
  refine ⟨?_, index_push tracks⟩
  by_cases full : service.Rotates line
  · apply write_rotates tracks.represents full
    have counted : (service.write line).rotations = service.rotations + 1 := if_pos full
    rw [tracks.rotations, ← counted]
    exact few
  · exact write_fits tracks.represents full

theorem start_config (config : FileConfig) (serviceName : Bytes) (directory : LogDirectory) :
    (start config serviceName directory).sink.config = config :=
  (RollingFileSink.settings_open _ _ _).1

theorem start_tracks (config : FileConfig) (serviceName : Bytes) :
    Tracks ⟨0, [], []⟩ (start config serviceName []) := by
  have opened := @RollingFileSink.open_next 0 ⟨config, serviceName, none, 0, 0, false⟩ []
    (by decide) rfl
  change RollingFileSink.openNewFile _ [] .success = _ at opened
  unfold start RollingFileSink.make
  rw [opened]
  exact ⟨⟨rfl, rfl, rfl, rfl, rfl, by decide⟩, rfl⟩

/-- The writes of one process. -/
def writes (service : LogService) (lines : List Bytes) : LogService := lines.foldl write service

/-- The chunks of successive writes. -/
def arriving : Nat → List Bytes → List Chunk
  | _, [] => []
  | number, line :: rest => ⟨number, output line⟩ :: arriving (number + 1) rest

def pushes (service : LogService) (log : RotatingLog Chunk) (lines : List Bytes) :
    RotatingLog Chunk :=
  log.pushes Chunk.size (maxSizeBytes service.sink.config) service.sink.config.maxFiles.toNat
    (arriving service.written lines)

theorem config_of_write (service : LogService) (line : Bytes) :
    (service.write line).sink.config = service.sink.config :=
  (RollingFileSink.settings_write _ _ _ _ _).1

theorem name_of_write (service : LogService) (line : Bytes) :
    (service.write line).sink.serviceName = service.sink.serviceName :=
  (RollingFileSink.settings_write _ _ _ _ _).2

theorem pushes_cons (rest : List Bytes) : service.pushes log (line :: rest) =
    (service.write line).pushes (service.push log line) rest := by
  unfold pushes
  rw [config_of_write]
  rfl

theorem rotations_le_write : service.rotations ≤ (service.write line).rotations := by
  unfold write
  simp only
  split <;> omega

theorem rotations_le_writes (lines : List Bytes) :
    service.rotations ≤ (service.writes lines).rotations := by
  induction lines generalizing service with
  | nil => exact Nat.le_refl _
  | cons line rest induction => exact Nat.le_trans rotations_le_write induction

/-- Until the index wraps, the directory is the rotating log of what was written. -/
theorem writes_track (lines : List Bytes) (tracks : Tracks log service)
    (few : (service.writes lines).rotations < UInt32.size ∨
      (service.pushes log lines).index < UInt32.size) :
    Tracks (service.pushes log lines) (service.writes lines) := by
  induction lines generalizing service log with
  | nil => exact tracks
  | cons line rest induction =>
      rw [pushes_cons] at few ⊢
      change ((service.write line).writes rest).rotations < UInt32.size ∨ _ at few
      have first : (service.write line).rotations < UInt32.size := by
        cases few with
        | inl counted => exact Nat.lt_of_le_of_lt (rotations_le_writes rest) counted
        | inr indexed =>
            rw [← index_push tracks]
            exact Nat.lt_of_le_of_lt (RotatingLog.index_le_pushes _) indexed
      exact induction (write_tracks tracks first) few

theorem size_consecutive (files : List (List Chunk)) :
    (consecutive serviceName base files).total = (files.map (RotatingLog.load Chunk.size)).sum := by
  induction files generalizing base with
  | nil => rfl
  | cons chunks rest induction =>
      have tail := @induction (base + 1)
      unfold LogDirectory.total at tail ⊢
      rw [consecutive, List.map_cons, List.sum_cons, tail, List.map_cons, List.sum_cons]
      rfl

theorem total_eq (represents : Represents log service) :
    service.directory.total = log.total Chunk.size := by
  rw [represents.directory]
  exact size_consecutive log.files

end LogService

end TboxFramework.Log
