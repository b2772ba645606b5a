/-!
# Answers of the operating system

What can go wrong with a file, as causes with their texts.  The last cause is the
simulated refusal of a node tree in memory.
-/

namespace KernelControls

/-- Why the operating system refused. -/
inductive OsError where
  | noEntry
  | busy
  | alreadyExists
  | notDirectory
  | isDirectory
  | invalidArgument
  | nameTooLong
  | nulInPath
  | notUtf8
  | permissionDenied
  | other (text : String)
  deriving DecidableEq, Repr

/-- The system's own text for a cause. -/
def OsError.message : OsError → String
  | noEntry => "No such file or directory (os error 2)"
  | busy => "Device or resource busy (os error 16)"
  | alreadyExists => "File exists (os error 17)"
  | notDirectory => "Not a directory (os error 20)"
  | isDirectory => "Is a directory (os error 21)"
  | invalidArgument => "Invalid argument (os error 22)"
  | nameTooLong => "File name too long (os error 36)"
  | nulInPath => "file name contained an unexpected NUL byte"
  | notUtf8 => "stream did not contain valid UTF-8"
  | permissionDenied => "permission denied"
  | other text => text

end KernelControls
