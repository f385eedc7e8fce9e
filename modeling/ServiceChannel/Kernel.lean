import ServiceChannel.Bytes
import ServiceChannel.SystemError

/-!
# Kernels

What the channel asks of an operating system: sockets, directory entries and programs. A kernel may
answer as it likes, within one bound: it does not interrupt a write for ever.

- `Kernel`: the calls, each with its answer and the kernel after it.
- `sendAll`: writes a buffer as far as the kernel takes it, without ever waiting for room.
-/

namespace ServiceChannel

/-- A socket as its owner holds it. -/
abbrev Handle := Nat

/-- What stands at a path. -/
inductive EntryKind where
  | file
  | directory
  | socket
  | link
  deriving DecidableEq

/-- The answer to a write. -/
inductive SendAnswer where
  /-- So many bytes from the front were taken. -/
  | wrote (count : Nat)
  /-- A signal came first, and nothing was taken. -/
  | interrupted
  /-- Nothing was taken, and this is why. -/
  | failed (error : SystemError)
  deriving DecidableEq

/-- What one read gives. -/
inductive ReadOutcome where
  /-- Bytes arrived. -/
  | data (bytes : Bytes)
  /-- The other end writes no more. -/
  | endOfStream
  /-- Nothing arrived yet. -/
  | wouldBlock
  /-- A signal came first. -/
  | interrupted
  /-- The socket failed. -/
  | failed (error : SystemError)
  deriving DecidableEq

/-- The read failed. -/
def ReadOutcome.isFailure : ReadOutcome → Bool
  | .failed _ => true
  | _ => false

/-- An operating system in the state `κ`. -/
class Kernel (κ : Type) where
  /-- Makes a stream socket. -/
  openSocket : κ → Except SystemError Handle × κ
  /-- Looks up what stands at a path, without following a link there. -/
  entry : κ → String → Except SystemError EntryKind × κ
  /-- Removes the entry at a path. -/
  remove : κ → String → Except SystemError Unit × κ
  /-- Gives a socket an entry at a path. -/
  bind : κ → Handle → String → Except SystemError Unit × κ
  /-- Lets connections come to a socket. -/
  listen : κ → Handle → Int32 → Except SystemError Unit × κ
  /-- Writes to a connected socket without waiting. -/
  send : κ → Handle → Bytes → SendAnswer × κ
  /-- Gives a socket back. -/
  close : κ → Handle → κ
  /-- Runs a program with its arguments. -/
  spawn : κ → List String → Except SystemError Unit × κ
  /-- How many interruptions may still come before a write is answered. -/
  patience : κ → Nat
  /-- An interruption uses patience up. -/
  patience_send : ∀ {kernel after : κ} {socket : Handle} {buffer : Bytes},
    send kernel socket buffer = (.interrupted, after) → patience after < patience kernel

/-- Writes a whole buffer, without waiting for room (`send_nonblocking`): a refusal in the middle
leaves the front written. An interrupted write is taken up again. -/
def sendAll {κ : Type} [Kernel κ] (kernel : κ) (socket : Handle) (buffer : Bytes) :
    Except SystemError Unit × κ :=
  match buffer with
  | [] => (.ok (), kernel)
  | byte :: rest =>
    match _sent : Kernel.send kernel socket (byte :: rest) with
    | (.wrote 0, kernel) => (.error .writeZero, kernel)
    | (.wrote (more + 1), kernel) => sendAll kernel socket (rest.drop more)
    | (.interrupted, kernel) => sendAll kernel socket (byte :: rest)
    | (.failed error, kernel) => (.error error, kernel)
termination_by (buffer.length, Kernel.patience kernel)
decreasing_by
  · exact Prod.Lex.left _ _ (by simp only [List.length_drop, List.length_cons]; omega)
  · exact Prod.Lex.right _ (Kernel.patience_send _sent)

end ServiceChannel
