import ServiceChannel.Error
import ServiceChannel.Frame
import ServiceChannel.Kernel
import ServiceChannel.Message.Host

/-!
# Clients

The companion agent's end of a channel: it frames what it sends, and keeps what arrived until a
message is complete.

- `Client.poll`: the next message, if it has arrived.
- `Client.receive`: the next message, read for as long as there is something to read.
-/

namespace ServiceChannel

/-- The agent's end: the bytes that arrived and belong to no message that was handed out. -/
structure Client where
  buffered : Bytes := []
  deriving DecidableEq

namespace Client

/-- The largest payload that an agent sends or accepts. -/
def maxMessageSize : Nat := 1024 * 1024

/-- The frame of a payload, as `send_raw` writes it. -/
def frame (payload : Bytes) : Except Error Bytes :=
  (Frame.encode maxMessageSize payload).mapError .ofMessage

/-- An agent may not send a payload that is too large. -/
theorem frame_of_large {payload : Bytes} (large : maxMessageSize < payload.length) :
    frame payload = .error (.ofMessage (.tooLarge payload.length maxMessageSize)) := by
  rw [frame, Frame.encode_of_oversized large]
  rfl

theorem frame_of_fits {payload : Bytes} (fits : payload.length ≤ maxMessageSize) :
    frame payload = .ok (Frame.frame payload) := by
  rw [frame, Frame.encode_of_fits fits]
  rfl

/-! ## Receiving -/

/-- What a client is given. -/
abbrev Result := Except Error HostMessage

/-- The message of a payload. -/
def decode (payload : Bytes) : Result := (HostMessage.decode payload).mapError .ofMessage

/-- The refusal of a header that announces too much. -/
def refuse (size : Nat) : Result := .error (.ofMessage (.tooLarge size maxMessageSize))

/-- Hands out the next message if it is complete, as `recv` does before it reads. A header that
announces too much stays where it is. -/
def poll (client : Client) : Option Result × Client :=
  match Frame.split maxMessageSize client.buffered with
  | .incomplete => (none, client)
  | .oversized size => (some (refuse size), client)
  | .complete payload rest => (some (decode payload), ⟨rest⟩)

/-- Hands out the next message, reading until it is complete (`recv`). None means that there is
nothing to read for now; the end of the stream can be read again and again. -/
def receive (client : Client) (reads : List ReadOutcome) :
    Option Result × Client × List ReadOutcome :=
  match client.poll with
  | (some result, client) => (some result, client, reads)
  | (none, client) =>
    match reads with
    | [] => (none, client, [])
    | .data bytes :: reads => receive ⟨client.buffered ++ bytes⟩ reads
    | .endOfStream :: reads => (some (.error .peerClosed), client, .endOfStream :: reads)
    | .failed error :: reads => (some (.error (.io error)), client, reads)
    | .wouldBlock :: reads | .interrupted :: reads => receive client reads

/-- The answer to a header that announces too much, which stays where it is: nothing behind it is
ever reached. -/
def isStuck (client : Client) (result : Result) : Bool :=
  match Frame.split maxMessageSize client.buffered, result with
  | .oversized size, .error error => error = .ofMessage (.tooLarge size maxMessageSize)
  | _, _ => false

end Client
end ServiceChannel
