import ServiceChannel.Error

/-!
# Configuration

Where a service socket stands and within which bounds it works. Every container has a socket of its
own at a well-known path.

- `Config.validate`: the bounds, checked before anything is acquired; the first fault wins.
- `Config.maxMessageSize_of_valid`: a size that passes fits a frame header.
- `Config.socketPath`: the path of the socket.
- `addressFault?`, `backlogFault?`: the bounds that binding and listening have of their own.
-/

namespace ServiceChannel

/-! ## Paths -/

/-- A path below a directory: one slash between the two unless the directory brings it or is empty.
An absolute path replaces the directory. -/
def joinPath (directory path : String) : String :=
  if path.toList.head? = some '/' then path
  else if directory = "" ∨ directory.toList.getLast? = some '/' then directory ++ path
  else directory ++ "/" ++ path

/-! ## Configurations -/

/-- The configuration of one service channel. -/
structure Config where
  /-- The directory of the socket. -/
  socketDir : String := "/run/socket"
  /-- The file name of the socket. -/
  socketName : String := "cml-service"
  /-- Connections that may wait to be accepted. -/
  backlog : Int32 := 16
  /-- The largest payload sent or accepted, in bytes. -/
  maxMessageSize : Nat := 1024 * 1024
  deriving DecidableEq

/-- A configured value out of bounds. -/
inductive ConfigFault where
  | socketName (name : String)
  | backlog (value : Int32)
  | maxMessageSize (value : Nat)
  | pathTooLong (path : String)
  deriving DecidableEq

/-- The fault in words. -/
def ConfigFault.message : ConfigFault → String
  | .socketName name => s!"invalid socket name '{name}'"
  | .backlog value => s!"listen backlog must be positive, got {value.toInt}"
  | .maxMessageSize value => s!"max message size out of range: {value}"
  | .pathTooLong path => s!"socket path too long: {path}"

/-- A path of a socket takes up to this many bytes, its closing zero included. -/
def addressCapacity : Nat := 108

namespace Config

/-- The default configuration; an environment that names a directory moves the socket there. -/
def ofEnvironment (socketDir : Option String) : Config :=
  match socketDir with
  | some directory => if directory = "" then {} else { socketDir := directory }
  | none => {}

/-- The path of the socket. -/
def socketPath (config : Config) : String := joinPath config.socketDir config.socketName

/-- Checks the values (`validate`): the name is one path component, the backlog is positive, the
size fits a frame header and is not zero, the path fits an address. -/
def validate (config : Config) : Except ConfigFault Unit :=
  if config.socketName = "" ∨ '/' ∈ config.socketName.toList then
    .error (.socketName config.socketName)
  else if config.backlog ≤ 0 then .error (.backlog config.backlog)
  else if config.maxMessageSize = 0 ∨ UInt32.size ≤ config.maxMessageSize then
    .error (.maxMessageSize config.maxMessageSize)
  else if addressCapacity ≤ config.socketPath.utf8ByteSize then
    .error (.pathTooLong config.socketPath)
  else .ok ()

theorem maxMessageSize_of_valid {config : Config} (valid : config.validate = .ok ()) :
    0 < config.maxMessageSize ∧ config.maxMessageSize < UInt32.size := by
  unfold validate at valid
  split at valid
  · cases valid
  · split at valid
    · cases valid
    · split at valid
      · cases valid
      · omega

/-- The default configuration passes its own check. -/
theorem validate_default : ({} : Config).validate = .ok () := by
  unfold validate
  rw [if_neg (by decide +kernel), if_neg (by decide +kernel), if_neg (by decide +kernel),
    if_neg (by decide +kernel)]

end Config

/-! ## Bounds of binding and listening -/

/-- Why a path is no address to bind to. -/
def addressFault? (path : String) : Option Errno :=
  if hasZero path then some .invalidArgument
  else if addressCapacity ≤ path.utf8ByteSize then some .nameTooLong
  else none

/-- The least backlog that listening refuses. -/
def backlogLimit : Int32 := 4096

/-- Why a number is no backlog. Minus one stands for the system's own limit. -/
def backlogFault? (backlog : Int32) : Option Errno :=
  if backlog < -1 ∨ backlogLimit ≤ backlog then some .invalidArgument else none

end ServiceChannel
