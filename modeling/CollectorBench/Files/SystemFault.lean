/-! Faults that the system names, and their texts. -/
namespace CollectorBench

inductive SystemFault where
  | notPermitted
  | notFound
  | noDevice
  | badFormat
  | badHandle
  | denied
  | exists
  | notDirectory
  | isDirectory
  | invalid
  | nameTooLong
  | notEmpty
  | linkLoop
  | nulByte
  | nulInArgument
  deriving DecidableEq, Repr

namespace SystemFault

/-- The reason of a fault, and the number that the system gives it; none for a fault that is found
before the system is asked. -/
def description : SystemFault → String × Option String
  | .notPermitted => ("Operation not permitted",some "1")
  | .notFound => ("No such file or directory",some "2")
  | .noDevice => ("No such device or address",some "6")
  | .badFormat => ("Exec format error",some "8")
  | .badHandle => ("Bad file descriptor",some "9")
  | .denied => ("Permission denied",some "13")
  | .exists => ("File exists",some "17")
  | .notDirectory => ("Not a directory",some "20")
  | .isDirectory => ("Is a directory",some "21")
  | .invalid => ("Invalid argument",some "22")
  | .nameTooLong => ("File name too long",some "36")
  | .notEmpty => ("Directory not empty",some "39")
  | .linkLoop => ("Too many levels of symbolic links",some "40")
  | .nulByte => ("file name contained an unexpected NUL byte",none)
  | .nulInArgument => ("nul byte found in provided data",none)

def reason (fault : SystemFault) : String :=
  fault.description.1

def message (fault : SystemFault) : String :=
  match fault.description with
  | (reason,some number) => reason ++ " (os error " ++ number ++ ")"
  | (reason,none) => reason

end SystemFault
end CollectorBench
