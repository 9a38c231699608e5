/-
Running a command: what is printed, the exit code, and the error if there is
one.
-/
import Replica.CommandLine.Arguments
import Replica.Inspection.Summary
import Replica.Inspection.Verification
import Replica.Inspection.Listing

namespace Replica.CommandLine

/-- The version of the library. -/
def libraryVersion : String := "0.3.0"

/-- What running the command line comes to. -/
structure Result where
  exit : Nat
  output : String
  /-- The failure of a command, as a structured value in text form. -/
  error : Option String
  deriving DecidableEq, Repr, Inhabited

/-- A command that succeeded. -/
def Result.success (output : String) : Result := ⟨0, output, none⟩

/-- A command that failed after it printed something. -/
def Result.failure (output : String) (error : InspectionError) : Result :=
  ⟨1, output, some error.debug⟩

/-- The result of a command that prints nothing before it fails. -/
def Result.ofExcept : Except InspectionError String → Result
  | .ok output => success output
  | .error error => failure "" error

/-- A list as a document or as text. -/
def listing (title format : String) (messages : List ListedMessage) : String :=
  if format = "json" then (ListedMessage.document messages).render 0 ++ "\n"
  else ListedMessage.text title messages

/-- Sums up a data directory. -/
def inspect (disk : FileSystem) (path format : String) : Result :=
  .ofExcept ((Summary.collect disk path).map fun summary =>
    if format = "json" then summary.document.render 0 ++ "\n" else summary.text)

/-- Checks a data directory. -/
def verify (disk : FileSystem) (path : String) : Result :=
  match Verification.collect disk path with
  | .error error => .failure (Verification.heading path) error
  | .ok found =>
    let output := Verification.heading path ++ found.text
    if found.isOk then .success output
    else .failure output (.plain "Data directory corruption detected")

/-- Runs a command that needs a data directory. -/
def runAt (disk : FileSystem) (invocation : Invocation) (path : String) : Result :=
  match invocation.command with
  | .inspect => inspect disk path invocation.format
  | .verify => verify disk path
  | .dumpQueue =>
    .ofExcept ((ListedMessage.ofQueue disk path invocation.limit).map
      (listing "Pending-sync queue (oldest first)" invocation.format))
  | .dumpHistory =>
    .ofExcept ((ListedMessage.ofHistory disk path invocation.limit).map
      (listing "History stack (most recent first)" invocation.format))
  | .version =>
    .success s!"Concordia CLI v{libraryVersion}\nConcordia Core v{libraryVersion}\n"

/-- Runs a command. -/
def runInvocation (disk : FileSystem) (invocation : Invocation) : Result :=
  match invocation.path with
  | some path => runAt disk invocation path
  | none =>
    if invocation.command = .version then runAt disk invocation ""
    else .failure "" (.plain s!"Data directory path required for {invocation.command.name}")

/-- What the commands do. -/
def helpText : String :=
  "Concordia data directory tools.\n\n"
    ++ "Usage: concordia [OPTIONS] <COMMAND>\n\n"
    ++ "Commands:\n"
    ++ "  inspect       Display file sizes, store counts and the digest\n"
    ++ "  verify        Check every store file for corruption\n"
    ++ "  dump-queue    List messages awaiting delivery, oldest first\n"
    ++ "  dump-history  List applied messages, most recent first\n"
    ++ "  version       Show version information\n"

/-- Runs the command line. -/
def run (disk : FileSystem) (args : List String) : Result :=
  match read args with
  | .ok invocation => runInvocation disk invocation
  | .error .usage => ⟨2, "", none⟩
  | .error .help => .success helpText
  | .error .version => .success s!"concordia {libraryVersion}\n"

end Replica.CommandLine
