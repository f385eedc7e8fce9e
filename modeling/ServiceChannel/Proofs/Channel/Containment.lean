import ServiceChannel.Proofs.Channel.Pieces
import ServiceChannel.Proofs.Message.Recognition

/-!
# Payloads that are contained

A payload ends its connection only when it spells no fields, or fields without a code, and then it
does nothing else. One that has a code and is not understood leaves a line in the log. Any other is
one message, and is handled once.

- `AgentFields.Coded`, `Channel.handlePayload_eq_error_iff`: the payloads that are refused.
- `Channel.LetsGo`, `Channel.occupancy_handle`: a message leaves all connections alone, unless the
  container lets go of them when it is stopped.
- `payload_containment`: every payload in every state.
-/

namespace ServiceChannel

/-! ## Payloads with a code -/

/-- The payload spells fields, and a code is one of them. -/
def AgentFields.Coded (payload : Bytes) : Prop :=
  ∃ fields : AgentFields, fields.SpelledBy payload ∧ fields.code ≠ none

/-- A payload ends its connection when it has no code. -/
theorem AgentMessage.fault?_eq_none_iff {payload : Bytes} :
    fault? payload = none ↔ AgentFields.Coded payload := by
  constructor
  · intro sound
    by_cases spells : ∃ fields : AgentFields, fields.SpelledBy payload
    · obtain ⟨fields, spelled⟩ := spells
      refine ⟨fields, spelled, fun absent => ?_⟩
      have failed : decode payload = .error .missingCode :=
        (decode_of_spelled spelled).trans (ofFields_eq_error_iff.2 (.inl ⟨absent, rfl⟩))
      simp [fault?, failed, MessageError.isUnrecognized] at sound
    · obtain ⟨error, failed⟩ := decode_of_not_spelled spells
      simp [fault?, failed, MessageError.isUnrecognized] at sound
  · rintro ⟨fields, spelled, coded⟩
    have read := decode_of_spelled spelled
    unfold fault?
    rw [read]
    split
    · rfl
    · rename_i error failed
      rcases ofFields_eq_error_iff.1 failed with ⟨absent, -⟩ | unrecognized
      · exact absurd absent coded
      · rw [if_pos unrecognized.isUnrecognized]

namespace Channel

variable {κ : Type} [Kernel κ]

/-! ## The three fates of a payload -/

theorem handlePayload_eq_error_iff {channel : Channel κ} {payload : Bytes} :
    (∃ error, (channel.handlePayload payload).1 = .error error) ↔ ¬ AgentFields.Coded payload := by
  rw [← AgentMessage.fault?_eq_none_iff]
  cases judged : AgentMessage.fault? payload with
  | none =>
    rw [handlePayload_of_sound channel judged]
    simp
  | some error =>
    rw [handlePayload_of_fault channel judged]
    simp

theorem handlePayload_of_unrecognized (channel : Channel κ) {payload : Bytes} {fields : AgentFields}
    {error : MessageError} (spelled : fields.SpelledBy payload)
    (unrecognized : fields.Unrecognized error) :
    channel.handlePayload payload = (.ok (), channel.record (.ignoring error)) := by
  have failed : AgentMessage.decode payload = .error error :=
    (AgentMessage.decode_of_spelled spelled).trans
      (AgentMessage.ofFields_eq_error_iff.2 (.inr unrecognized))
  rw [handlePayload, failed]
  exact if_pos unrecognized.isUnrecognized

theorem handlePayload_of_carried (channel : Channel κ) {payload : Bytes} {fields : AgentFields}
    {message : AgentMessage} (spelled : fields.SpelledBy payload)
    (carried : message.CarriedBy fields) :
    channel.handlePayload payload = (.ok (), channel.handle message) := by
  have read : AgentMessage.decode payload = .ok message :=
    (AgentMessage.decode_of_spelled spelled).trans (AgentMessage.ofFields_eq_ok_iff.2 carried)
  rw [handlePayload, read]

/-! ## Stops that let go -/

/-- The container runs an operation that lets go of the connection whenever it is stopped. -/
def LetsGo (channel : Channel κ) : Prop :=
  ∃ container recording, channel.container = some container ∧
    container.role = .recording recording ∧
      (.cleanup ∈ recording.hook ∨ .release ∈ recording.hook)

theorem occupancy_runHook {channel : Channel κ} {calls : List EngineCall}
    (keeps : ∀ call ∈ calls, call ≠ .cleanup ∧ call ≠ .release) :
    (channel.runHook calls).occupancy = channel.occupancy := by
  unfold runHook
  induction calls generalizing channel with
  | nil => rfl
  | cons call calls ih =>
    rw [List.foldl_cons, ih fun other mem => keeps other (by simp [mem])]
    split
    · rfl
    · obtain ⟨noCleanup, noRelease⟩ := keeps call (by simp)
      rw [occupancy_note, occupancy_call, if_neg (by simp [noCleanup, noRelease])]

theorem occupancy_stopContainer {channel : Channel κ} (keeps : ¬ channel.LetsGo) :
    channel.stopContainer.occupancy = channel.occupancy := by
  unfold stopContainer
  split
  · rfl
  · rename_i container found
    split
    · rename_i recording role
      refine occupancy_runHook fun call mem => ?_
      constructor
      · rintro rfl
        exact keeps ⟨container, recording, found, role, .inl mem⟩
      · rintro rfl
        exact keeps ⟨container, recording, found, role, .inr mem⟩
    · have kept := occupancy_requestShutdown channel
      split <;> rename_i asked <;> rw [asked] at kept <;> simpa using kept

theorem occupancy_handleShutdown {channel : Channel κ} (keeps : ¬ channel.LetsGo)
    (container : Container) :
    (channel.handleShutdown container).occupancy = channel.occupancy := by
  have still : ¬ (channel.record .shutdownRequested).LetsGo := keeps
  have stopped := occupancy_stopContainer still
  unfold handleShutdown
  split
  · simp
  · simp
  · simpa using stopped

theorem occupancy_handle_of_keeps {channel : Channel κ} {message : AgentMessage}
    (keeps : message = .shutdown → ¬ channel.LetsGo) :
    (channel.handle message).occupancy = channel.occupancy := by
  unfold handle
  split
  · simp
  · rename_i container _
    by_cases shutdown : message = .shutdown
    · subst shutdown
      have still : ¬ (channel.record (.received AgentMessage.shutdown.code)).LetsGo := keeps rfl
      have kept := occupancy_handleShutdown still container
      simpa [handleFor] using kept
    · simp [occupancy_handleFor _ _ shutdown]

/-- Handling a message leaves the connections alone, unless it has the container stop and the
container lets go of them then. -/
theorem occupancy_handle (channel : Channel κ) (message : AgentMessage) :
    (channel.handle message).occupancy = channel.occupancy ∨
      message = .shutdown ∧ channel.LetsGo ∧
        (channel.handle message).occupancy = channel.occupancy.vacate .released := by
  by_cases stops : message = .shutdown ∧ channel.LetsGo
  · obtain ⟨shutdown, letsGo⟩ := stops
    have handled := handle_handled channel message
    generalize (channel.handle message).occupancy = after at handled ⊢
    cases handled with
    | kept => exact .inl rfl
    | released => exact .inr ⟨shutdown, letsGo, rfl⟩
  · exact .inl (occupancy_handle_of_keeps fun shutdown letsGo => stops ⟨shutdown, letsGo⟩)

/-! ## Readers -/

/-- A payload with a code never ends the reading of its connection. -/
theorem handleFrames_of_coded {channel : Channel κ} {payload : Bytes}
    (coded : AgentFields.Coded payload) (id : Nat) {buffer rest : Bytes}
    (found : Frame.split channel.engine.config.maxMessageSize buffer = .complete payload rest) :
    let after := (channel.handlePayload payload).2
    channel.handleFrames id buffer =
      if after.engine.isCurrent id then after.handleFrames id rest else (none, after) := by
  have taken := channel.handlePayload_of_sound (AgentMessage.fault?_eq_none_iff.2 coded)
  rw [handleFrames_of_complete id found, taken]

/-- The frames behind a message are handled as long as the connection is the open one. -/
theorem handleFrames_of_carried {channel : Channel κ} {payload buffer rest : Bytes}
    {fields : AgentFields} {message : AgentMessage} (spelled : fields.SpelledBy payload)
    (carried : message.CarriedBy fields) {id : Nat}
    (found : Frame.split channel.engine.config.maxMessageSize buffer = .complete payload rest)
    (current : (channel.handle message).engine.isCurrent id = true) :
    channel.handleFrames id buffer = (channel.handle message).handleFrames id rest := by
  rw [handleFrames_of_complete id found, channel.handlePayload_of_carried spelled carried]
  exact if_pos current

end Channel

variable {κ : Type} [Kernel κ]

/-- A payload and its fate. It is refused if and only if it spells no fields, or fields without a
code, and then nothing changes. If it spells fields with a code that are not understood, nothing
changes but for one line in the log. Otherwise the fields carry one message, and the payload does
what handling this message does, once. Whatever has a code leaves the reader of its connection at
work, and all connections as they are, unless the container lets go of them in a stop of its own. -/
theorem payload_containment (channel : Channel κ) (payload : Bytes) :
    let handled := channel.handlePayload payload
    ((∃ error, handled.1 = .error error) ↔
      ¬ ∃ fields : AgentFields, fields.SpelledBy payload ∧ fields.code ≠ none) ∧
    (∀ error, handled.1 = .error error → handled.2 = channel) ∧
    (∀ (fields : AgentFields) (error : MessageError), fields.SpelledBy payload →
      fields.Unrecognized error →
      handled = (.ok (), { channel with log := channel.log.push (.ignoring error) })) ∧
    (∀ fields : AgentFields, fields.SpelledBy payload → fields.code ≠ none →
      (∀ error, ¬ fields.Unrecognized error) →
      ∃ message, (∀ other : AgentMessage, other.CarriedBy fields ↔ other = message) ∧
        handled = (.ok (), channel.handle message)) ∧
    (∀ fields : AgentFields, fields.SpelledBy payload → fields.code ≠ none →
      (∀ (id : Nat) (buffer rest : Bytes),
        Frame.split channel.engine.config.maxMessageSize buffer = .complete payload rest →
        channel.handleFrames id buffer =
          if handled.2.engine.isCurrent id then handled.2.handleFrames id rest
          else (none, handled.2)) ∧
      (handled.2.occupancy = channel.occupancy ∨
        AgentMessage.shutdown.CarriedBy fields ∧ channel.LetsGo ∧
          handled.2.occupancy = channel.occupancy.vacate .released)) := by
  dsimp only
  refine ⟨Channel.handlePayload_eq_error_iff, ?_, ?_, ?_, ?_⟩
  · intro error failed
    exact Channel.handlePayload_of_error (Prod.ext failed rfl)
  · intro fields error spelled unrecognized
    exact channel.handlePayload_of_unrecognized spelled unrecognized
  · intro fields spelled coded understood
    cases read : AgentMessage.ofFields fields with
    | error error =>
      rcases AgentMessage.ofFields_eq_error_iff.1 read with ⟨absent, -⟩ | unrecognized
      · exact absurd absent coded
      · exact absurd unrecognized (understood error)
    | ok message =>
      have carried := AgentMessage.ofFields_eq_ok_iff.1 read
      refine ⟨message, fun other => ?_, channel.handlePayload_of_carried spelled carried⟩
      rw [← AgentMessage.ofFields_eq_ok_iff, read, Except.ok.injEq, eq_comm]
  · intro fields spelled coded
    refine ⟨fun id buffer rest found =>
      Channel.handleFrames_of_coded ⟨fields, spelled, coded⟩ id found, ?_⟩
    cases read : AgentMessage.ofFields fields with
    | error error =>
      rcases AgentMessage.ofFields_eq_error_iff.1 read with ⟨absent, -⟩ | unrecognized
      · exact absurd absent coded
      · rw [channel.handlePayload_of_unrecognized spelled unrecognized]
        exact .inl (by simp)
    | ok message =>
      have carried := AgentMessage.ofFields_eq_ok_iff.1 read
      rw [channel.handlePayload_of_carried spelled carried]
      rcases channel.occupancy_handle message with kept | ⟨rfl, letsGo, released⟩
      · exact .inl kept
      · exact .inr ⟨carried, letsGo, released⟩

end ServiceChannel
