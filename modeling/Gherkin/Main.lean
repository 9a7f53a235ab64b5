import Gherkin.Command

namespace Gherkin

/-!
# The program

The files that the arguments name are read, the command is run on them, and
what it says is written to the two streams.
-/

namespace Command

/-- The file fault behind an error of the operating system. -/
def fileFault : IO.Error → FileFault
  | .noFileOrDirectory _ _ _ => .notFound
  | .inappropriateType _ code _ => if code = 21 then .isDirectory else .notDirectory
  | error => .other error.toString.toList

/-- The content of a file, or why it cannot be had. -/
def readFeatureFile (path : String) : IO (Except FileFault Text) := do
  try
    let bytes ← IO.FS.readBinFile path
    match String.fromUTF8? bytes with
    | some source => return .ok source.toList
    | none => return .error .notText
  catch error => return .error (fileFault error)

/-- Run the command on the files that its arguments name.  The result is the exit code. -/
def program (arguments : List String) : IO UInt32 := do
  let files ← (arguments.drop 1).mapM fun path => return (path.toList, ← readFeatureFile path)
  let read := fun path => (files.lookup path).getD (.error .notFound)
  let effect := run read (arguments.map String.toList)
  IO.print (String.ofList effect.output)
  IO.eprint (String.ofList effect.errors)
  return effect.code.toUInt32

end Command

end Gherkin

/-- The entry point. -/
def main (arguments : List String) : IO UInt32 :=
  Gherkin.Command.program arguments
