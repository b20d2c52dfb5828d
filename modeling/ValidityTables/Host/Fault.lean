/-!
# What the system refuses

The reasons for which the system refuses to open a file, to start a program or to pass on bytes.
Each has a number and a text.
-/

namespace ValidityTables

inductive SystemFault
  | notFound
  | noProcess
  | noDevice
  | argumentsTooLong
  | notExecutable
  | badDescriptor
  | permissionDenied
  | alreadyThere
  | notDirectory
  | isDirectory
  | noSpace
  | nameTooLong
  | tooManyLinks
  deriving DecidableEq, Repr

namespace SystemFault

def number : SystemFault → Nat
  | notFound => 2
  | noProcess => 3
  | noDevice => 6
  | argumentsTooLong => 7
  | notExecutable => 8
  | badDescriptor => 9
  | permissionDenied => 13
  | alreadyThere => 17
  | notDirectory => 20
  | isDirectory => 21
  | noSpace => 28
  | nameTooLong => 36
  | tooManyLinks => 40

def text : SystemFault → String
  | notFound => "No such file or directory"
  | noProcess => "No such process"
  | noDevice => "No such device or address"
  | argumentsTooLong => "Argument list too long"
  | notExecutable => "Exec format error"
  | badDescriptor => "Bad file descriptor"
  | permissionDenied => "Permission denied"
  | alreadyThere => "File exists"
  | notDirectory => "Not a directory"
  | isDirectory => "Is a directory"
  | noSpace => "No space left on device"
  | nameTooLong => "File name too long"
  | tooManyLinks => "Too many levels of symbolic links"

def message (fault : SystemFault) : String :=
  fault.text ++ " (os error " ++ toString fault.number ++ ")"

end SystemFault

end ValidityTables
