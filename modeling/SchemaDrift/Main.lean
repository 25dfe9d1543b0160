import SchemaDrift.Command.Run
import Std.Time.DateTime.Timestamp

/-
This file holds the program. The paths of the project's files stand on the standard input, one in a
line; the command that the arguments name is run on these files, and those that it changed are
written back.
-/

namespace SchemaDrift.Program

/-- A random identity made of 32 hexadecimal digits, with the marks of one that is random. -/
def identityOf (digits : List Char) : String :=
  let marked := digits.take 12 ++ '4' :: (digits.drop 13).take 3 ++ 'a' :: digits.drop 17
  String.ofList (Text.joinWith ['-']
    [marked.take 8, (marked.drop 8).take 4, (marked.drop 12).take 4,
    (marked.drop 16).take 4, marked.drop 20])

/-- The identity of a number under a random seed. -/
def identity (seed : Nat) (number : Nat) : String :=
  identityOf (Digest.shortHash 32 (toString seed ++ ":" ++ toString number).toList).toList

/-- The lines of a stream, each without its end. -/
partial def readLines (stream : IO.FS.Stream) (lines : List String) : IO (List String) := do
  let line ← stream.getLine
  if line.isEmpty then return lines.reverse
  readLines stream (String.ofList (Text.trim line.toList) :: lines)

/-- The tree of the files at some paths; a path that cannot be read adds nothing. -/
def readTree (paths : List String) : IO FileTree :=
  paths.foldlM (fun tree (path : String) => do
    try
      let bytes ← IO.FS.readBinFile path
      return tree.write path (bytes.toList.map (·.toNat))
    catch _ => return tree) FileTree.empty

/-- The files of a tree that another does not hold with the same bytes are written. -/
def writeTree (before after : FileTree) : IO Unit :=
  after.files.forM fun file => do
    if before.readAt? file.1 != some file.2 then
      if file.1.length > 1 then IO.FS.createDirAll (Path.ofComponents file.1.dropLast)
      IO.FS.writeBinFile (Path.ofComponents file.1)
        (ByteArray.mk (file.2.map UInt8.ofNat).toArray)

/-- The identities and the time of a call. -/
def occasion : IO Occasion := do
  let seed ← IO.rand 0 4611686018427387904
  let time ← Std.Time.Timestamp.now
  let millis := time.toMillisecondsSinceUnixEpoch.val.toNat
  return ⟨identity seed 0, fun number => identity seed (number + 1), .ofMillis millis⟩

/-- The command that the arguments name is run, and answers with its exit code. -/
def run (arguments : List String) : IO UInt32 := do
  let before ← readTree (← readLines (← IO.getStdin) [])
  let outcome := runArguments arguments (← occasion) before
  writeTree before outcome.tree
  IO.print outcome.output
  match outcome.complaint with
  | some complaint => IO.eprintln ("Error: " ++ complaint)
  | none => pure ()
  return outcome.code.toUInt32

end SchemaDrift.Program

def main (arguments : List String) : IO UInt32 := SchemaDrift.Program.run arguments
