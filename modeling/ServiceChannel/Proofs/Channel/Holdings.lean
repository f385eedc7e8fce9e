import ServiceChannel.Channel.Standalone

/-!
# Holdings

What an engine, its container and its watchers hold. The kernel goes on, the log grows and notes are
taken without it: most operations of a channel, a send that fails among them, change nothing else.

- `sendConnectivity_cases`: the one send that is remembered, if it succeeds.
- `bridge_of_eq`, `bridge_of_ne`: comparing the connectivity comes to nothing, or to a send.
-/

namespace ServiceChannel

/-- What an engine, its container and its watchers hold. -/
structure Holdings where
  engine : Engine
  container : Option Container
  /-- Sockets that were let go of and wait to be closed. -/
  retired : List Handle
  watchers : List (String × ObserverId)

/-- The engine remembers a connectivity. -/
def Holdings.remember (holdings : Holdings) (connectivity : Connectivity) : Holdings :=
  { holdings with engine := { holdings.engine with connectivity := connectivity } }

/-- The attributes of the container are updated. -/
def Holdings.identify (holdings : Holdings) (update : Identity) : Holdings :=
  { holdings with
    container := holdings.container.map fun container =>
      { container with identity := container.identity.apply update } }

namespace Channel

variable {κ : Type}

/-- What the channel holds. -/
def holdings (channel : Channel κ) : Holdings where
  engine := channel.engine
  container := channel.container
  retired := channel.retired
  watchers := channel.watchers

/-! ## Leaving it alone -/

@[simp] theorem holdings_record (channel : Channel κ) (event : Event) :
    (channel.record event).holdings = channel.holdings := rfl

@[simp] theorem holdings_recordStandalone (channel : Channel κ) (event : Event) :
    (channel.recordStandalone event).holdings = channel.holdings := by
  unfold recordStandalone
  split <;> rfl

theorem holdings_storeConnectivity (channel : Channel κ) (connectivity : Connectivity) :
    (channel.storeConnectivity connectivity).holdings =
      { channel.holdings with
        container := channel.container.map fun container =>
          { container with connectivity := connectivity } } := by
  unfold storeConnectivity recordStandalone
  split <;> rfl

@[simp] theorem kernel_recordStandalone (channel : Channel κ) (event : Event) :
    (channel.recordStandalone event).kernel = channel.kernel := by
  unfold recordStandalone
  split <;> rfl

/-- What a line of a standalone container leaves alone, any number of them does. -/
theorem foldl_recordStandalone {Part : Type} {part : Channel κ → Part}
    (same : ∀ channel event, part (channel.recordStandalone event) = part channel)
    (events : List Event) (channel : Channel κ) :
    part (events.foldl recordStandalone channel) = part channel := by
  induction events generalizing channel with
  | nil => rfl
  | cons event events ih => exact (ih _).trans (same channel event)

theorem holdings_applyIdentity (channel : Channel κ) (update : Identity) :
    (channel.applyIdentity update).holdings = channel.holdings.identify update :=
  congrArg (·.identify update) (foldl_recordStandalone holdings_recordStandalone _ channel)

theorem kernel_storeConnectivity (channel : Channel κ) (connectivity : Connectivity) :
    (channel.storeConnectivity connectivity).kernel = channel.kernel :=
  channel.kernel_recordStandalone _

variable [Kernel κ]

/-! ## Sending -/

@[simp] theorem holdings_sendPayload (channel : Channel κ) (payload : Bytes) :
    (channel.sendPayload payload).2.holdings = channel.holdings := by
  unfold sendPayload
  split
  · rfl
  · split
    · rfl
    · split <;> rfl

@[simp] theorem holdings_sendMessage (channel : Channel κ) (message : HostMessage) :
    (channel.sendMessage message).2.holdings = channel.holdings :=
  holdings_sendPayload channel message.encode

@[simp] theorem holdings_sendCommand (channel : Channel κ) (command : Command) :
    (channel.sendCommand command).2.holdings = channel.holdings := by
  unfold sendCommand
  dsimp only
  split
  · split <;> rfl
  · split
    · rfl
    · rename_i message _
      have kept := holdings_sendMessage (channel.record (.sendingCommand command)) message
      split <;> rename_i sent <;> rw [sent] at kept <;> exact kept

@[simp] theorem holdings_sendName (channel : Channel κ) :
    channel.sendName.2.holdings = channel.holdings := by
  unfold sendName
  split <;> simp

@[simp] theorem holdings_sendDns (channel : Channel κ) :
    channel.sendDns.2.holdings = channel.holdings := by
  unfold sendDns
  split <;> simp

@[simp] theorem holdings_sendRecord (channel : Channel κ) (payload : Bytes) :
    (channel.sendRecord payload).2.holdings = channel.holdings := by
  unfold sendRecord
  have kept := holdings_sendPayload (channel.record (.sendingRecord payload.length)) payload
  split <;> rename_i sent <;> rw [sent] at kept <;> exact kept

@[simp] theorem holdings_notifyStorage (channel : Channel κ) (remaining : UInt64) :
    (channel.notifyStorage remaining).2.holdings = channel.holdings := by
  simp [notifyStorage]

@[simp] theorem holdings_requestShutdown (channel : Channel κ) :
    channel.requestShutdown.2.holdings = channel.holdings := by
  unfold requestShutdown
  split <;> simp

/-! ## Sending the connectivity -/

/-- A message is sent or its send fails; it is neither put off nor passed over. -/
theorem sendMessage_fst (channel : Channel κ) (message : HostMessage) :
    (channel.sendMessage message).1 = .ok .sent ∨
      ∃ error, (channel.sendMessage message).1 = .error error := by
  unfold sendMessage sendPayload
  split
  · exact .inr ⟨_, rfl⟩
  · split
    · exact .inr ⟨_, rfl⟩
    · split
      · exact .inr ⟨_, rfl⟩
      · exact .inl rfl

/-- A connectivity that was sent is remembered; one that was not leaves everything as it was. -/
theorem sendConnectivity_cases (channel : Channel κ) (connectivity : Connectivity) :
    ((channel.sendConnectivity connectivity).1 = .ok .sent ∧
      (channel.sendConnectivity connectivity).2.holdings =
        channel.holdings.remember connectivity) ∨
    ∃ error, (channel.sendConnectivity connectivity).1 = .error error ∧
      (channel.sendConnectivity connectivity).2.holdings = channel.holdings := by
  have outcome := sendMessage_fst (channel.record (.sendingConnectivity connectivity))
    (.connectivityChange connectivity)
  have kept := holdings_sendMessage (channel.record (.sendingConnectivity connectivity))
    (.connectivityChange connectivity)
  unfold sendConnectivity
  split <;> rename_i sent <;> rw [sent] at outcome kept
  · exact .inr ⟨_, rfl, kept⟩
  · obtain delivered | ⟨error, failed⟩ := outcome
    · exact .inl ⟨delivered, congrArg (·.remember connectivity) kept⟩
    · cases failed

/-! ## Comparing the connectivity -/

theorem bridge_of_eq {channel : Channel κ} {connectivity : Connectivity}
    (same : connectivity = channel.engine.connectivity) :
    channel.bridge connectivity =
      (.ok false, channel.record (.connectivityInSync connectivity)) :=
  if_pos same

theorem bridge_of_ne {channel : Channel κ} {connectivity : Connectivity}
    (differs : connectivity ≠ channel.engine.connectivity) :
    channel.bridge connectivity =
      ((channel.sendConnectivity connectivity).1.map fun _ => true,
        (channel.sendConnectivity connectivity).2) := by
  unfold bridge
  rw [if_neg differs]
  split <;> rename_i sent <;> rw [sent] <;> rfl

theorem kernel_notifyEngine (channel : Channel κ) (connectivity : Connectivity) :
    (channel.notifyEngine connectivity).kernel =
      if channel.engine.released then channel.kernel
      else (channel.bridge connectivity).2.kernel := by
  unfold notifyEngine
  split
  · rfl
  · split <;> rename_i bridged <;> rw [bridged]
    rfl

theorem holdings_notifyEngine (channel : Channel κ) (connectivity : Connectivity) :
    (channel.notifyEngine connectivity).holdings =
      if channel.engine.released then channel.holdings
      else (channel.bridge connectivity).2.holdings := by
  unfold notifyEngine
  split
  · rfl
  · split <;> rename_i bridged <;> rw [bridged]
    rfl

end Channel
end ServiceChannel
