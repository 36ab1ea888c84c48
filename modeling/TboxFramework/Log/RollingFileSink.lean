import TboxFramework.Log.LogFileNames
import Mathlib.Algebra.GroupWithZero.Nat

/-!
# The rolling file sink

A log directory is a list of files in the order in which `readdir` gives them. What
`fwrite` accepted is part of a file as a chunk that carries the number of its write.
The outcomes of the file operations are the caller's choice.
-/

namespace TboxFramework.Log

open TboxFramework.Store (Bytes text)

set_option autoImplicit false

structure Chunk where
  number : Nat
  bytes : Bytes

def Chunk.size (chunk : Chunk) : Nat := chunk.bytes.length

structure LogFile where
  name : Bytes
  chunks : List Chunk

def LogFile.size (file : LogFile) : Nat := (file.chunks.map Chunk.size).sum

abbrev LogDirectory := List LogFile

namespace LogDirectory

def names (directory : LogDirectory) : List Bytes := directory.map LogFile.name

def append (directory : LogDirectory) (name : Bytes) (chunk : Chunk) : LogDirectory :=
  directory.map fun file =>
    if file.name = name then { file with chunks := file.chunks ++ [chunk] } else file

/-- `fopen` with mode "a". -/
def create (directory : LogDirectory) (name : Bytes) : LogDirectory :=
  if name ∈ directory.names then directory else directory ++ [⟨name, []⟩]

def remove (directory : LogDirectory) (name : Bytes) : LogDirectory :=
  directory.filter fun file => file.name ≠ name

/-- `st_size`. -/
def sizeOf (directory : LogDirectory) (name : Bytes) : Nat :=
  ((directory.find? fun file => file.name = name).map LogFile.size).getD 0

def total (directory : LogDirectory) : Nat := (directory.map LogFile.size).sum

end LogDirectory

/-- What the file operations of one call do. -/
structure FileOutcomes where
  /-- The bytes that a short `fwrite` accepted. -/
  shortWrite : Option Nat
  /-- `opendir` in `countFiles`. -/
  counts : Bool
  /-- `opendir` in `removeOldestFile`. -/
  lists : Bool
  removes : Bool
  opens : Bool
  stats : Bool

def FileOutcomes.success : FileOutcomes where
  shortWrite := none
  counts := true
  lists := true
  removes := true
  opens := true
  stats := true

structure RollingFileSink where
  config : FileConfig
  serviceName : Bytes
  /-- The name of the open file. -/
  file : Option Bytes
  currentSize : Nat
  currentIndex : UInt32
  available : Bool

namespace RollingFileSink

def lineFeed : UInt8 := 10

/-- The text that `write` passes to `fwrite`. -/
def output (line : Bytes) : Bytes := line ++ [lineFeed]

def maxSizeBytes (config : FileConfig) : Nat := config.maxFileSizeMb.toNat * 1024 * 1024

def openNewFile (sink : RollingFileSink) (directory : LogDirectory) (outcomes : FileOutcomes) :
    Bool × RollingFileSink × LogDirectory :=
  let name := fileName sink.serviceName sink.currentIndex
  if outcomes.opens then
    let opened := directory.create name
    let size := if outcomes.stats then opened.sizeOf name else 0
    (true, { sink with file := some name, currentSize := size }, opened)
  else (false, { sink with file := none }, directory)

/-- The constructor. -/
def make (config : FileConfig) (serviceName : Bytes) (directory : LogDirectory)
    (outcomes : FileOutcomes) : RollingFileSink × LogDirectory :=
  let opened := openNewFile ⟨config, serviceName, none, 0, 0, false⟩ directory outcomes
  ({ opened.2.1 with available := opened.1 }, opened.2.2)

def countFiles (sink : RollingFileSink) (directory : LogDirectory) (outcomes : FileOutcomes) :
    Nat :=
  if outcomes.counts then (directory.names.filter (isLogName sink.serviceName)).length else 0

/-- One entry of the search for the least index: the least so far and its name. -/
def scanName (serviceName : Bytes) (best : UInt32 × Option Bytes) (name : Bytes) :
    Except StoulError (UInt32 × Option Bytes) :=
  if isLogName serviceName name then
    (nameIndex serviceName name).map fun index =>
      if index < best.1 then (index, some name) else best
  else .ok best

/-- The index `UINT32_MAX` is where the search starts, so that no file with it is found. -/
def oldestFile (serviceName : Bytes) (names : List Bytes) : Except StoulError (Option Bytes) :=
  (names.foldlM (scanName serviceName) (4294967295, none)).map Prod.snd

def removeOldestFile (sink : RollingFileSink) (directory : LogDirectory) (outcomes : FileOutcomes) :
    Except StoulError LogDirectory :=
  if outcomes.lists then
    (oldestFile sink.serviceName directory.names).map fun oldest =>
      match oldest with
      | some name => if outcomes.removes then directory.remove name else directory
      | none => directory
  else .ok directory

/-- What a full directory loses before the next file is opened. -/
def makeRoom (sink : RollingFileSink) (directory : LogDirectory) (outcomes : FileOutcomes) :
    Except StoulError LogDirectory :=
  if sink.config.maxFiles.toNat ≤ sink.countFiles directory outcomes then
    sink.removeOldestFile directory outcomes
  else .ok directory

/-- An exception of `std::stoul` leaves the index as it was. -/
def rotateIfNeeded (sink : RollingFileSink) (directory : LogDirectory) (outcomes : FileOutcomes) :
    Except StoulError Unit × RollingFileSink × LogDirectory :=
  if sink.currentSize < maxSizeBytes sink.config then (.ok (), sink, directory)
  else
    match sink.makeRoom directory outcomes with
    | .error error => (.error error, sink, directory)
    | .ok remaining =>
        (.ok (),
          (openNewFile { sink with currentIndex := sink.currentIndex + 1 } remaining outcomes).2)

def write (sink : RollingFileSink) (directory : LogDirectory) (number : Nat) (line : Bytes)
    (outcomes : FileOutcomes) : Except StoulError Bool × RollingFileSink × LogDirectory :=
  match sink.available, sink.file with
  | true, some name =>
      match outcomes.shortWrite with
      | some accepted =>
          (.ok false, { sink with available := false },
            directory.append name ⟨number, (output line).take accepted⟩)
      | none =>
          let size := sink.currentSize + (output line).length
          let rotated := rotateIfNeeded { sink with currentSize := size }
            (directory.append name ⟨number, output line⟩) outcomes
          (rotated.1.map fun _ => true, rotated.2)
  | _, _ => (.ok false, sink, directory)

end RollingFileSink

end TboxFramework.Log
