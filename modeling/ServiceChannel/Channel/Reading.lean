import ServiceChannel.Channel.Dispatch

/-!
# Connections

Connections come and go while the rendezvous listens. A new connection takes the place of the open
one; a reader handles complete frames in order and keeps the rest for the next bytes.

Two loops are taken apart here into what each of their rounds does. `accept_task` waits at the
rendezvous, and `connection_task` reads one connection until it has a reason to close it. Whatever
they await is given by who runs them, so that a round is a function on the state.

- `Channel.accept`, `Channel.acceptFailed`: a round of `accept_task`.
- `Channel.receive`: a round of `connection_task`, one read and all that follows from it.
-/

namespace ServiceChannel

namespace Channel

variable {κ : Type} [Kernel κ]

/-! ## Arrivals -/

/-- A connection was accepted (`on_accept`). It takes the place of the open one, under the next
number. -/
def accept (channel : Channel κ) (socket : Handle) : Channel κ :=
  let channel := match channel.engine.connection with
    | some previous => (channel.record (.replacing previous.id)).disconnect previous
    | none => channel
  let id := channel.engine.accepted + 1
  (channel.onEngine fun engine =>
    { engine with
      connection := some ⟨id, socket⟩
      readers := engine.readers ++ [⟨id, socket, []⟩]
      accepted := id }).record (.connected id)

/-- A waiting connection could not be accepted, which ends `accept_task`: the rendezvous closes, and
nothing else does. -/
def acceptFailed (channel : Channel κ) (error : SystemError) : Channel κ :=
  (channel.record (.acceptFailed (.accept error))).closeRendezvous

/-! ## Reading -/

/-- Handles the complete frames at the front of a buffer, as long as the connection stays open: the
inner loop of `connection_task` around `try_decode_frame` and `handle_payload`. Gives the rest of
the buffer, or none when the connection is at its end. -/
def handleFrames (channel : Channel κ) (id : Nat) (buffer : Bytes) : Option Bytes × Channel κ :=
  let max := channel.engine.config.maxMessageSize
  match _split : Frame.split max buffer with
  | .incomplete => (some buffer, channel)
  | .oversized size => (none, channel.close id (.decodeFailed (.tooLarge size max)))
  | .complete payload rest =>
    match channel.handlePayload payload with
    | (.error error, channel) => (none, channel.close id (.decodeFailed error))
    | (.ok (), channel) =>
      -- What was handled may have closed or replaced this very connection.
      if channel.engine.isCurrent id then channel.handleFrames id rest else (none, channel)
termination_by buffer.length
decreasing_by exact Frame.split_length_lt _split

/-- Handles what is buffered together with bytes that arrived, and keeps the rest. The buffer is
empty meanwhile. -/
def handleBytes (channel : Channel κ) (reader : Reader) (bytes : Bytes) : Channel κ :=
  let emptied := channel.onEngine (·.setBuffered reader.connection [])
  match emptied.handleFrames reader.connection (reader.buffered ++ bytes) with
  | (none, channel) => channel
  | (some rest, channel) => channel.onEngine (·.setBuffered reader.connection rest)

/-- The agent writes no more: frames that are complete are still handled, part of one is lost. -/
def handleEnd (channel : Channel κ) (reader : Reader) : Channel κ :=
  match channel.handleFrames reader.connection reader.buffered with
  | (none, channel) => channel
  | (some rest, channel) =>
    let channel := if rest.isEmpty then channel
      else channel.record (.discardingPartial reader.connection rest.length)
    channel.close reader.connection .peerClosed

/-- One read on the connection `id`, as `connection_task` makes it. A connection whose reader has
stopped is not read. -/
def receive (channel : Channel κ) (id : Nat) (outcome : ReadOutcome) : Channel κ :=
  match channel.engine.reader? id with
  | none => channel
  | some reader =>
    match outcome with
    | .data bytes => channel.handleBytes reader bytes
    | .endOfStream => channel.handleEnd reader
    | .wouldBlock | .interrupted => channel
    | .failed error => channel.close id (.exception error)

end Channel
end ServiceChannel
