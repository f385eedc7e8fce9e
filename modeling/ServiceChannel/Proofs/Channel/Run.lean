import ServiceChannel.Proofs.Channel.Effects
import ServiceChannel.Proofs.Frame.Cut

/-!
# Runs

A channel from its beginning on, whatever happens to it and in whatever order: connections arrive,
reads give what they give, operations are called, the container changes and the kernel goes on.

- `Channel.step`, `Channel.run`: what the inputs make of a channel.
- `Channel.traceFrames`, `Channel.traceReceive`: reading, with the payloads that are handed over on
  the way; `traceFrames_snd` and `traceReceive_snd` say that nothing else differs.
- `History`: a run with all that was read and handed over in it.
-/

namespace ServiceChannel

/-! ## Inputs -/

/-- What can happen to a channel. The tasks of an engine and those who call it share one thread, so
that what they do happens in some order. -/
inductive Input (κ : Type) where
  /-- A waiting connection is accepted, at this socket: a round of `accept_task`. -/
  | accept (socket : Handle)
  /-- A waiting connection cannot be accepted, the last round of `accept_task`. -/
  | acceptFailed (error : SystemError)
  /-- One read on a connection gives this: a round of `connection_task`. -/
  | read (id : Nat) (outcome : ReadOutcome)
  /-- An operation on the engine is called. -/
  | call (call : EngineCall)
  /-- The container is stopped. -/
  | stop
  /-- The container changes, or goes away. -/
  | container (container : Option Container)
  | watch (name : String) (reaction : Reaction)
  | unwatch (name : String)
  /-- The sockets that were let go of are closed. -/
  | sweep
  /-- The kernel goes on. -/
  | elapse (kernel : κ)

namespace Channel

variable {κ : Type}

/-- A channel whose engine was just made. -/
def fresh (kernel : κ) (config : Config) (container : Option Container) : Channel κ where
  kernel := kernel
  engine := { config := config }
  container := container

variable [Kernel κ]

/-- What an input makes of a channel. -/
def step (channel : Channel κ) : Input κ → Channel κ
  | .accept socket => channel.accept socket
  | .acceptFailed error => channel.acceptFailed error
  | .read id outcome => channel.receive id outcome
  | .call call => (channel.call call).2
  | .stop => channel.stopContainer
  | .container container => { channel with container := container }
  | .watch name reaction => (channel.watch name reaction).2
  | .unwatch name => channel.unwatch name
  | .sweep => channel.closeRetired
  | .elapse kernel => { channel with kernel := kernel }

/-- What inputs make of a channel, one after the other. -/
def run (channel : Channel κ) (inputs : List (Input κ)) : Channel κ := inputs.foldl step channel

theorem run_append (channel : Channel κ) (first second : List (Input κ)) :
    channel.run (first ++ second) = (channel.run first).run second :=
  List.foldl_append

end Channel

/-! ## Handing payloads over -/

/-- A payload that is handed over, and the channel as it is at that moment. -/
structure Handover (κ : Type) where
  channel : Channel κ
  connection : Nat
  payload : Bytes

namespace Channel

variable {κ : Type} [Kernel κ]

theorem config_handlePayload (channel : Channel κ) (payload : Bytes) :
    (channel.handlePayload payload).2.engine.config = channel.engine.config := by
  have handled := handlePayload_handled channel payload
  have kept : (channel.handlePayload payload).2.occupancy.config = channel.occupancy.config := by
    generalize (channel.handlePayload payload).2.occupancy = after at handled
    cases handled with
    | kept => rfl
    | released => exact Occupancy.config_vacate _ _
  exact kept

theorem handleFrames_of_incomplete {channel : Channel κ} {buffer : Bytes} (id : Nat)
    (found : Frame.split channel.engine.config.maxMessageSize buffer = .incomplete) :
    channel.handleFrames id buffer = (some buffer, channel) := by
  rw [handleFrames]
  split <;> rename_i found' <;> rw [found] at found' <;> cases found'

theorem handleFrames_of_oversized {channel : Channel κ} {buffer : Bytes} {size : Nat} (id : Nat)
    (found : Frame.split channel.engine.config.maxMessageSize buffer = .oversized size) :
    channel.handleFrames id buffer =
      (none, channel.close id
        (.decodeFailed (.tooLarge size channel.engine.config.maxMessageSize))) := by
  rw [handleFrames]
  split <;> rename_i found' <;> rw [found] at found' <;> cases found'
  rfl

theorem handleFrames_of_complete {channel : Channel κ} {buffer payload rest : Bytes} (id : Nat)
    (found : Frame.split channel.engine.config.maxMessageSize buffer = .complete payload rest) :
    channel.handleFrames id buffer =
      match channel.handlePayload payload with
      | (.error error, after) => (none, after.close id (.decodeFailed error))
      | (.ok (), after) =>
        if after.engine.isCurrent id then after.handleFrames id rest else (none, after) := by
  rw [handleFrames]
  split <;> rename_i found' <;> rw [found] at found' <;> cases found'
  rfl

/-- Handles payloads that were cut off a buffer, and then how cutting ended. Gives the payloads
that were handed over, what is left of the buffer, if the connection stays open, and the channel. -/
def tracePayloads (channel : Channel κ) (id : Nat) (tail : Frame.Tail) (rest : Bytes) :
    (payloads : List Bytes) → List (Handover κ) × Option Bytes × Channel κ
  | [] =>
    match tail with
    | .incomplete => ([], some rest, channel)
    | .oversized size =>
      ([], none, channel.close id
        (.decodeFailed (.tooLarge size channel.engine.config.maxMessageSize)))
  | payload :: payloads =>
    let handover := ⟨channel, id, payload⟩
    match channel.handlePayload payload with
    | (.error error, after) => ([handover], none, after.close id (.decodeFailed error))
    | (.ok (), after) =>
      if after.engine.isCurrent id then
        let (later, result) := after.tracePayloads id tail rest payloads
        (handover :: later, result)
      else ([handover], none, after)

/-- Handles the complete frames at the front of a buffer, as `handleFrames` does, and gives the
payloads that were handed over besides. -/
def traceFrames (channel : Channel κ) (id : Nat) (buffer : Bytes) :
    List (Handover κ) × Option Bytes × Channel κ :=
  let cut := Frame.cut channel.engine.config.maxMessageSize buffer
  channel.tracePayloads id cut.tail cut.rest cut.payloads

theorem traceFrames_snd (channel : Channel κ) (id : Nat) (buffer : Bytes) :
    (channel.traceFrames id buffer).2 = channel.handleFrames id buffer := by
  unfold traceFrames
  generalize limit : channel.engine.config.maxMessageSize = max
  induction buffer using Frame.splitInduction max generalizing channel with
  | incomplete buffer found =>
    subst limit
    rw [handleFrames_of_incomplete id found, Frame.cut_of_incomplete found]
    rfl
  | oversized buffer size found =>
    subst limit
    rw [handleFrames_of_oversized id found, Frame.cut_of_oversized found]
    rfl
  | complete buffer payload rest found ih =>
    subst limit
    rw [handleFrames_of_complete id found, Frame.cut_of_complete found]
    have config := config_handlePayload channel payload
    dsimp only [tracePayloads]
    split
    · rfl
    · rename_i after handled
      rw [handled] at config
      split
      · exact ih after (by rw [config])
      · rfl

/-- One read on a connection, as `receive` takes it, and the payloads that were handed over. -/
def traceReceive (channel : Channel κ) (id : Nat) (outcome : ReadOutcome) :
    List (Handover κ) × Channel κ :=
  match channel.engine.reader? id, outcome with
  | some reader, .data bytes =>
    let emptied := channel.onEngine (·.setBuffered reader.connection [])
    match emptied.traceFrames reader.connection (reader.buffered ++ bytes) with
    | (handed, none, after) => (handed, after)
    | (handed, some rest, after) => (handed, after.onEngine (·.setBuffered reader.connection rest))
  | some reader, .endOfStream =>
    match channel.traceFrames reader.connection reader.buffered with
    | (handed, none, after) => (handed, after)
    | (handed, some rest, after) =>
      let after := if rest.isEmpty then after
        else after.record (.discardingPartial reader.connection rest.length)
      (handed, after.close reader.connection .peerClosed)
  | _, outcome => ([], channel.receive id outcome)

theorem traceReceive_snd (channel : Channel κ) (id : Nat) (outcome : ReadOutcome) :
    (channel.traceReceive id outcome).2 = channel.receive id outcome := by
  unfold traceReceive
  split
  · rename_i reader bytes found
    have same := traceFrames_snd (channel.onEngine (·.setBuffered reader.connection []))
      reader.connection (reader.buffered ++ bytes)
    rw [receive, found]
    dsimp only [handleBytes]
    rw [← same]
    split <;> rename_i traced <;> rw [traced]
  · rename_i reader found
    have same := traceFrames_snd channel reader.connection reader.buffered
    rw [receive, found]
    dsimp only [handleEnd]
    rw [← same]
    split <;> rename_i traced <;> rw [traced]
  · rfl

/-- The payloads that an input hands over. -/
def handovers (channel : Channel κ) : Input κ → List (Handover κ)
  | .read id outcome => (channel.traceReceive id outcome).1
  | _ => []

/-- The bytes that an input brings, and the connection on which they come. -/
def reads (channel : Channel κ) : Input κ → List (Nat × Bytes)
  | .read id (.data bytes) =>
    match channel.engine.reader? id with
    | some _ => [(id, bytes)]
    | none => []
  | _ => []

end Channel

/-! ## Histories -/

/-- A channel, and what came in and was handed over until now. -/
structure History (κ : Type) where
  channel : Channel κ
  /-- Bytes that were read, each with its connection. -/
  reads : List (Nat × Bytes) := []
  handovers : List (Handover κ) := []

namespace History

variable {κ : Type}

/-- The bytes that were read on a connection. -/
def bytes (history : History κ) (id : Nat) : Bytes :=
  (history.reads.filter (·.1 = id)).flatMap (·.2)

/-- The payloads that a connection handed over. -/
def payloads (history : History κ) (id : Nat) : List Bytes :=
  (history.handovers.filter (·.connection = id)).map (·.payload)

variable [Kernel κ]

/-- What an input makes of a history. -/
def step (history : History κ) (input : Input κ) : History κ where
  channel := history.channel.step input
  reads := history.reads ++ history.channel.reads input
  handovers := history.handovers ++ history.channel.handovers input

/-- What inputs make of a history. -/
def run (history : History κ) (inputs : List (Input κ)) : History κ := inputs.foldl step history

theorem run_append (history : History κ) (first second : List (Input κ)) :
    history.run (first ++ second) = (history.run first).run second :=
  List.foldl_append

@[simp] theorem channel_run (history : History κ) (inputs : List (Input κ)) :
    (history.run inputs).channel = history.channel.run inputs := by
  induction inputs generalizing history with
  | nil => rfl
  | cons input inputs ih => exact ih (history.step input)

/-- What every step keeps holds after a run. -/
theorem run_induction {motive : History κ → Prop}
    (step : ∀ history input, motive history → motive (history.step input)) {history : History κ}
    (start : motive history) (inputs : List (Input κ)) : motive (history.run inputs) := by
  induction inputs generalizing history with
  | nil => exact start
  | cons input inputs ih => exact ih (step history input start)

end History
end ServiceChannel
