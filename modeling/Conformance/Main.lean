import Conformance.CommandLine.Program
import Conformance.Report.Terminal
import Conformance.Report.Timestamp
import Conformance.Shell.Program

/-!
# The program

Carries out the command line that it is given on the files below the current directory.  What is shown and
printed goes to the standard output, and what is noted to the error output.
-/

namespace Conformance.Main

open CommandLine

/-- What lies in a directory, with everything below it.  What cannot be read is left out, and so is a
directory that is only linked to. -/
partial def readEntries (found : Array IO.FS.DirEntry) : IO (List (Text × FileTree.Entry)) := do
  let mut entries : List (Text × FileTree.Entry) := []
  for e in found do
    try
      let entry : FileTree.Entry ←
        match (← e.path.symlinkMetadata).type with
        | .dir => FileTree.Entry.directory <$> (e.path.readDir >>= readEntries)
        | _ => FileTree.Entry.plain <$> IO.FS.readBinFile e.path
      entries := FileTree.insertEntry e.fileName entry entries
    catch _ => continue
  pure entries

/-- The files below the current directory. -/
def readTree : IO FileTree := do
  let here ← IO.currentDir
  let entries ← here.readDir >>= readEntries
  let path := Path.ofText here.toString
  pure (FileTree.put ⟨.directory [], path.names⟩ path (.directory entries))

/-- The variables that this program was given. -/
def readEnvironment : IO Environment := do
  let text ← try Text.decodeName <$> IO.FS.readBinFile "/proc/self/environ" catch _ => pure .empty
  pure ((text.splitOn '\x00').filterMap fun entry =>
    match entry.splitOn '=' with
    | name :: value :: more => some (name, Text.intercalate "=" (value :: more))
    | _ => none)

/-- The time at which this program was started, in nanoseconds since the start of 1970. -/
def readTime : IO Nat := do
  let time := (← (← IO.FS.realPath "/proc/self").metadata).modified
  pure (time.sec.toNat * 1000000000 + time.nsec.toNat)

/-- Write the files that a command line has left. -/
def writeFiles (files : List (Path × ByteArray)) : IO Unit :=
  files.forM fun (path, content) => do
    match path.parent.toText.string?, path.toText.string? with
    | some directory, some file =>
      IO.FS.createDirAll directory
      IO.FS.writeBinFile file content
    | _, _ => pure ()

/-- Print a text. -/
def printText (stream : IO.FS.Stream) (text : Text) : IO Unit :=
  stream.write (Text.nameBytes text)

/-- Print how a command line has ended. -/
def printEnding (ending : Ending) : IO Unit := do
  let output ← IO.getStdout
  let notes ← IO.getStderr
  ending.session.records.forM fun record =>
    printText notes (record.level.text ++ ": " ++ record.message ++ "\n")
  (ending.shown.flatMap (·.plainLines)).forM fun row => printText output (row ++ "\n")
  printText output ending.printed
  match ending.failure with
  | some failure => printText notes (failure.summary ++ "\n")
  | none => pure ()

end Conformance.Main

open Conformance in
/-- Carry out the command line and end with its status. -/
def main (arguments : List String) : IO UInt32 := do
  let setting : CommandLine.Setting :=
    { points := []
      surroundings := fun tree environment =>
        ⟨Shell.isOnPath tree environment, Shell.tool tree environment⟩
      substitute := none
      timestamp := Report.timestamp (← Main.readTime) }
  let host : CommandLine.Host :=
    { tree := ← Main.readTree
      environment := ← Main.readEnvironment
      clock := ← IO.monoNanosNow
      reporting := false
      table := none }
  let (ending, _) := CommandLine.execute setting host (arguments.map Text.ofString)
  Main.writeFiles ending.written
  Main.printEnding ending
  pure ending.status.toUInt32
