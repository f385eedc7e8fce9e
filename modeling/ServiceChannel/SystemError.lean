/-!
# System faults

What the operating system answers when it refuses a call.

- `Errno.message`: the text of a numbered fault, with its number.
-/

namespace ServiceChannel

/-- The numbered faults of the operating system that matter here. -/
inductive Errno where
  | notPermitted
  | noEntry
  | noDevice
  | argumentListTooLong
  | wouldBlock
  | accessDenied
  | exists
  | notDirectory
  | isDirectory
  | invalidArgument
  | tooManyFiles
  | brokenPipe
  | nameTooLong
  | addressInUse
  | connectionReset
  | connectionRefused
  deriving DecidableEq

namespace Errno

/-- The number. -/
def number : Errno → Nat
  | .notPermitted => 1
  | .noEntry => 2
  | .noDevice => 6
  | .argumentListTooLong => 7
  | .wouldBlock => 11
  | .accessDenied => 13
  | .exists => 17
  | .notDirectory => 20
  | .isDirectory => 21
  | .invalidArgument => 22
  | .tooManyFiles => 24
  | .brokenPipe => 32
  | .nameTooLong => 36
  | .addressInUse => 98
  | .connectionReset => 104
  | .connectionRefused => 111

/-- The fault in the system's words. -/
def description : Errno → String
  | .notPermitted => "Operation not permitted"
  | .noEntry => "No such file or directory"
  | .noDevice => "No such device or address"
  | .argumentListTooLong => "Argument list too long"
  | .wouldBlock => "Resource temporarily unavailable"
  | .accessDenied => "Permission denied"
  | .exists => "File exists"
  | .notDirectory => "Not a directory"
  | .isDirectory => "Is a directory"
  | .invalidArgument => "Invalid argument"
  | .tooManyFiles => "Too many open files"
  | .brokenPipe => "Broken pipe"
  | .nameTooLong => "File name too long"
  | .addressInUse => "Address already in use"
  | .connectionReset => "Connection reset by peer"
  | .connectionRefused => "Connection refused"

/-- The description with the number behind it. -/
def message (errno : Errno) : String := s!"{errno.description} (os error {errno.number})"

end Errno

/-- A failed input or output. -/
inductive SystemError where
  /-- The system refused the call. -/
  | os (errno : Errno)
  /-- The call was refused before it reached the system, or in words of its own. -/
  | other (text : String)
  deriving DecidableEq

namespace SystemError

/-- The failure in words. -/
def message : SystemError → String
  | .os errno => errno.message
  | .other text => text

/-- A path occupied by something that is not a socket. -/
def notSocket : SystemError := .other "path exists but is not a socket"

/-- A write that was accepted but took nothing. -/
def writeZero : SystemError := .other "write zero"

/-- A path with a zero byte, refused when its entry is looked up. -/
def zeroInFileName : SystemError := .other "file name contained an unexpected NUL byte"

/-- A path with a zero byte, refused when it is connected to. -/
def zeroInAddress : SystemError := .other "paths must not contain interior null bytes"

/-- A path too long to be connected to. -/
def addressTooLong : SystemError := .other "path must be shorter than SUN_LEN"

/-- A program or argument with a zero byte. -/
def zeroInArgument : SystemError := .other "nul byte found in provided data"

/-- A program log that is set up a second time. -/
def logInstalled : SystemError := .other "a global default trace dispatcher has already been set"

end SystemError

/-- The text has a zero byte, as no path and no argument can have. -/
def hasZero (text : String) : Bool := text.toList.contains '\x00'

end ServiceChannel
