/-
Why a call to the file system fails, and what is said about it.
-/
namespace Replica

/-- Why the file system refuses a call. -/
inductive OsError
  | notFound
  | busy
  | alreadyExists
  | notDirectory
  | isDirectory
  | invalidArgument
  | noSpace
  | nameTooLong
  | notEmpty
  /-- The path holds the character zero, which no name can hold; the call is not even made. -/
  | zeroInPath
  deriving DecidableEq, Repr, Inhabited

namespace OsError

/-- The number of the error; none if the call was not made. -/
def code? : OsError → Option Nat
  | notFound => some 2
  | busy => some 16
  | alreadyExists => some 17
  | notDirectory => some 20
  | isDirectory => some 21
  | invalidArgument => some 22
  | noSpace => some 28
  | nameTooLong => some 36
  | notEmpty => some 39
  | zeroInPath => none

/-- What the system says about the error. -/
def text : OsError → String
  | notFound => "No such file or directory"
  | busy => "Device or resource busy"
  | alreadyExists => "File exists"
  | notDirectory => "Not a directory"
  | isDirectory => "Is a directory"
  | invalidArgument => "Invalid argument"
  | noSpace => "No space left on device"
  | nameTooLong => "File name too long"
  | notEmpty => "Directory not empty"
  | zeroInPath => "file name contained an unexpected NUL byte"

/-- The name of the kind of failure. -/
def kind : OsError → String
  | notFound => "NotFound"
  | busy => "ResourceBusy"
  | alreadyExists => "AlreadyExists"
  | notDirectory => "NotADirectory"
  | isDirectory => "IsADirectory"
  | invalidArgument | zeroInPath => "InvalidInput"
  | noSpace => "StorageFull"
  | nameTooLong => "InvalidFilename"
  | notEmpty => "DirectoryNotEmpty"

/-- What is said about the error, with its number. -/
def message (error : OsError) : String :=
  match error.code? with
  | some code => s!"{error.text} (os error {code})"
  | none => error.text

end OsError

/-- Why reading or writing a file failed. -/
inductive IoError
  /-- The file system refused. -/
  | os (error : OsError)
  /-- The file ended before all the bytes asked for were read. -/
  | shortRead
  /-- The file at `path` was opened for reading only. -/
  | readOnly (path : String)
  /-- A failure known by its text only. -/
  | other (text : String)
  deriving DecidableEq, Repr, Inhabited

/-- What is said about the failure. -/
def IoError.message : IoError → String
  | os error => error.message
  | shortRead => "failed to fill whole buffer"
  | readOnly path => s!"{path} was opened read-only"
  | other text => text

end Replica
