import ServiceChannel.SystemError
import ServiceChannel.Message.Error

/-!
# Channel errors

Why an operation of the service channel failed, and why a connection ended.

- `Error.isSetup`: the errors of bringing a channel up.
- `Error.isTeardown`: the errors that end a connection.
- `Teardown.toError`: the error that stands for the end of a connection.
-/

namespace ServiceChannel

/-! ## Errors -/

/-- Why an operation failed. -/
inductive Error where
  | io (error : SystemError)
  /-- No socket could be made. -/
  | channelCreate (error : SystemError)
  /-- The socket could not be bound to its path. -/
  | bind (path : String) (error : SystemError)
  /-- The socket could not be put to listening. -/
  | listen (error : SystemError)
  /-- A waiting connection could not be accepted. -/
  | accept (error : SystemError)
  /-- The container refused the connectivity observer. -/
  | observerRegistration (text : String)
  /-- Bytes are no message. -/
  | decode (text : String)
  /-- The other end closed the connection. -/
  | peerClosed
  /-- There is no connection. -/
  | notConnected
  /-- A message could not be sent. -/
  | send (text : String)
  /-- The operation does not fit the state. -/
  | invalidState (expected actual : String)
  /-- The container refused. -/
  | container (text : String)
  /-- A configured value is out of bounds. -/
  | config (text : String)
  deriving DecidableEq

namespace Error

/-- The error in words. -/
def message : Error → String
  | .io error => s!"I/O error: {error.message}"
  | .channelCreate error => s!"failed to create service channel: {error.message}"
  | .bind path error => s!"failed to bind service channel to {path}: {error.message}"
  | .listen error => s!"failed to listen on service channel: {error.message}"
  | .accept error => s!"failed to accept service connection: {error.message}"
  | .observerRegistration text => s!"failed to register connectivity observer: {text}"
  | .decode text => s!"decode error: {text}"
  | .peerClosed => "peer closed the connection"
  | .notConnected => "companion agent is not connected"
  | .send text => s!"send error: {text}"
  | .invalidState expected actual => s!"invalid state: expected {expected}, got {actual}"
  | .container text => s!"container error: {text}"
  | .config text => s!"configuration error: {text}"

/-- The system's failure behind the error, if there is one. -/
def source? : Error → Option SystemError
  | .io error | .channelCreate error | .bind _ error | .listen error | .accept error => some error
  | _ => none

/-- The channel could not be brought up. -/
def isSetup : Error → Bool
  | .channelCreate _ | .bind _ _ | .listen _ | .observerRegistration _ => true
  | _ => false

/-- The connection is at its end. -/
def isTeardown : Error → Bool
  | .decode _ | .peerClosed => true
  | _ => false

/-- The error of bytes that are no message. -/
def ofMessage (error : MessageError) : Error := .decode error.message

/-! ## Refusals of a container -/

/-- The container does not exist any more. -/
def containerGone : Error := .container "container is gone"

/-- The container takes no further observer. -/
def registrationRefused : Error := .container "observer registration refused"

/-- The container could not run a program. -/
def execFailed : Error := .container "exec failed"

/-- The container runs no programs. -/
def execDisabled : Error := .container "privileged exec is disabled (use --allow-exec)"

/-- There is no program to run. -/
def emptyArguments : Error := .container "empty argument vector"

end Error

/-! ## The end of a connection -/

/-- Why an open connection was closed from the reading side. -/
inductive Teardown where
  /-- The agent closed its end. -/
  | peerClosed
  /-- The agent sent what is no message. -/
  | decodeFailed (error : MessageError)
  /-- The socket failed. -/
  | exception (error : SystemError)
  deriving DecidableEq

namespace Teardown

/-- The reason in words. -/
def message : Teardown → String
  | .peerClosed => "peer closed the connection"
  | .decodeFailed error => s!"decode failed: {error.message}"
  | .exception error => s!"exception on connection: {error.message}"

/-- The error that stands for this end. -/
def toError : Teardown → Error
  | .peerClosed => .peerClosed
  | .decodeFailed error => .ofMessage error
  | .exception error => .io error

end Teardown
end ServiceChannel
