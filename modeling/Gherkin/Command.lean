import Gherkin.Document.Projection
import Gherkin.Layout.Document
import Gherkin.Parse

namespace Gherkin

/-!
# The command line

The first argument names an action and the others name files.  The action is
carried out for each file in turn; a file that fails does not stop it.  What is
decided here depends only on the arguments and on what reading the files
gives, so the files are given as a function of their paths.
-/

/-- Why a file could not be read. -/
inductive FileFault
  | notFound
  | notDirectory
  | isDirectory
  | notText
  /-- Anything else, in the words of the operating system. -/
  | other (text : Text)
deriving DecidableEq

/-- The wording of a file fault. -/
def FileFault.message : FileFault → Text
  | notFound => "No such file or directory (os error 2)".toList
  | notDirectory => "Not a directory (os error 20)".toList
  | isDirectory => "Is a directory (os error 21)".toList
  | notText => "stream did not contain valid UTF-8".toList
  | other text => text

/-- What can be done with a file. -/
inductive Action
  /-- Tell whether the file can be read as a document. -/
  | validate
  /-- Write the document in its canonical form. -/
  | format
  /-- Tell whether the file is in canonical form. -/
  | check
  /-- Write the document as JSON. -/
  | json
deriving DecidableEq

/-- The action with the given name. -/
def Action.ofName? (name : Text) : Option Action :=
  if name = "validate".toList then some .validate
  else if name = "fmt".toList then some .format
  else if name = "check".toList then some .check
  else if name = "json".toList then some .json
  else none

/-- What a run leaves behind: its exit code and what it wrote to the two streams. -/
structure Effect where
  code : Nat
  output : Text
  errors : Text
deriving DecidableEq

namespace Effect

/-- A run that did what it was asked for. -/
def success (output errors : Text) : Effect :=
  ⟨0, output, errors⟩

/-- A run on a file that could not be read or did not pass. -/
def failure (errors : Text) : Effect :=
  ⟨1, [], errors⟩

/-- A run that was not started because of its arguments. -/
def misuse (errors : Text) : Effect :=
  ⟨2, [], errors⟩

/-- One run after the other.  The whole fails if either part does. -/
def andThen (first second : Effect) : Effect :=
  ⟨max first.code second.code, first.output ++ second.output, first.errors ++ second.errors⟩

end Effect

namespace Command

/-- How the command is used. -/
def usage : List Text :=
  ["Usage: gherkin <command> [files...]", "", "Commands:",
    "  validate  Check if feature file(s) parse",
    "  fmt       Format feature file(s) and print to stdout",
    "  check     Check if feature file(s) are formatted",
    "  json      Print the parsed document(s) as JSON", "", "Examples:",
    "  gherkin validate features/*.feature", "  gherkin fmt login.feature",
    "  gherkin json login.feature"].map String.toList

/-- A message on a line of its own. -/
def message (text : Text) : Text :=
  text ++ ['\n']

/-- What a valid document holds, in numbers. -/
def summary (document : Document) : Text :=
  let scenarios := (document.feature.map fun feature => feature.scenarios.length).getD 0
  let steps := (document.feature.map fun feature => feature.steps.length).getD 0
  "valid (".toList ++ Text.ofNat scenarios ++ " scenario(s), ".toList ++ Text.ofNat steps ++
    " step(s))".toList

/-- Carry out an action on a document that was read from `source`. -/
def perform (action : Action) (path source : Text) (document : Document) : Effect :=
  match action with
  | .validate => .success [] (message (path ++ ": ".toList ++ summary document))
  | .format => .success document.format []
  | .check =>
    if document.format = source then .success [] (message (path ++ ": formatted".toList))
    else .failure (message (path ++ ": not formatted".toList))
  | .json => .success (message document.prettyJson) []

/-- Carry out an action on the file at `path`, whose content was read. -/
def performOn (action : Action) (path : Text) : Except FileFault Text → Effect
  | .error fault => .failure (message (path ++ ": ".toList ++ fault.message))
  | .ok source =>
    match parse .standard path source with
    | .error rejection => .failure (message rejection.message)
    | .ok document => perform action path source document

/-- Run the command with its arguments. -/
def run (read : Text → Except FileFault Text) : List Text → Effect
  | [] => .misuse (Text.endLines usage)
  | name :: paths =>
    if name = "--help".toList ∨ name = "-h".toList then .misuse (Text.endLines usage)
    else
      match Action.ofName? name with
      | none => .misuse (message ("Unknown command: ".toList ++ name))
      | some action =>
        if paths.isEmpty then .misuse (message "Error: no files specified".toList)
        else
          paths.foldr (fun path rest => (performOn action path (read path)).andThen rest)
            (.success [] [])

end Command

end Gherkin
