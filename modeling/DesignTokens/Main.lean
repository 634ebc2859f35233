import DesignTokens.CommandLine
import DesignTokens.CommandLine.Help
import DesignTokens.FileTree.Changes

/-!
# The program

The outermost layer: it takes a picture of the current directory, runs the command
line on it, and writes what the run has changed back to the disk.
-/

namespace DesignTokens.Program

/-- The text of the characters of a string. -/
def stringOf (content : Text) : String :=
  String.ofList (content.map fun point => Char.ofNat point.val)

/-- The name by which the disk knows a location. -/
def diskName (location : Location) : String :=
  stringOf (Path.ofLocation location).toText

/-- Adds everything below a directory on the disk to a tree. -/
partial def picture (location : Location) (tree : FileTree) : IO FileTree := do
  let directory <- IO.FS.realPath (diskName location)
  let mut grown := tree.putWithParents location .directory
  for entry in <- directory.readDir do
    let place := location ++ [text entry.fileName]
    if <- entry.path.isDir then
      grown <- picture place grown
    else
      let content <- IO.FS.readBinFile entry.path
      grown := grown.putWithParents place (.file content.toList)
  return grown

/-- Brings the disk up to a tree, given what has changed. -/
def writeBack (changes : TreeChanges) : IO Unit := do
  for (location, item) in changes.written do
    match item with
    | .directory => IO.FS.createDirAll (diskName location)
    | .file content => IO.FS.writeBinFile (diskName location) ⟨content.toArray⟩
  for location in changes.removed do
    IO.FS.removeFile (diskName location)

/-- What a part of the output reads. -/
def shownText : Shown -> Text
  | .help none => CommandLine.helpText
  | .help (some command) => command.helpText
  | .plain content => content

/-- Shows a transcript and yields the exit code. -/
def present (transcript : Transcript) : IO UInt32 := do
  IO.print (stringOf (transcript.output.flatMap shownText))
  IO.eprint (stringOf transcript.errors)
  match transcript.ending with
  | .exit code => return UInt32.ofNat code
  | .usage fault =>
      IO.eprintln (stringOf (text "Error: " ++ fault.message))
      return 2
  | .failed failure =>
      IO.eprintln (stringOf (programName ++ text ": " ++ failure.message))
      return 1

/-- Runs the program in the current directory. -/
def start (words : List String) : IO UInt32 := do
  let current <- IO.currentDir
  let location := (Path.ofText (text current.toString)).parts
  let before <- picture location .empty
  let named <- IO.getEnv "STB_CONFIG"
  let surroundings : Surroundings := ⟨⟨location, none⟩, named.map text⟩
  let transcript := CommandLine.run surroundings (words.map text) before .escaping
  writeBack (before.changes transcript.tree)
  present transcript

end DesignTokens.Program

/-- The entry point of the program. -/
def main (words : List String) : IO UInt32 :=
  DesignTokens.Program.start words
