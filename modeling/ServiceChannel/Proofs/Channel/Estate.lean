import ServiceChannel.Proofs.Channel.Acts
import ServiceChannel.Proofs.Channel.Phases

/-!
# Estates

What a container has of its own: everything but its connectivity and the observers of it. An engine
that is brought up, sends, is told or lets go does not touch the estate of its container, and what a
message from the agent does to it is a function of the estate alone, but for one thing: whether a
standalone container could ask its agent to shut down.

- `Container.estate`, `Channel.estate`: the estate.
- `Container.obey`: what a message makes of a container.
- `Channel.estate_call`, `Channel.estate_runHook`: operations on the engine leave the estate alone.
- `Channel.estate_handle`: messages from the agent.
-/

namespace ServiceChannel

/-! ## Containers -/

namespace Container

/-- The container as if it were offline and had never been observed. -/
def estate (container : Container) : Container :=
  { container with
    connectivity := .offline
    observers := {}
    role := match container.role with
      | .recording recording => .recording { recording with unregistered := 0 }
      | .standalone standalone => .standalone standalone }

/-- The container with a stop begun. One that stands on its own is forced down unless a shutdown
was delivered to its agent. -/
def halted (container : Container) (delivered : Bool) : Container :=
  match container.role with
  | .recording recording =>
    { container with
      state := .shuttingDown
      role := .recording { recording with stops := recording.stops + 1 } }
  | .standalone standalone =>
    { container with
      state := if delivered then .shuttingDown else .stopped
      role := .standalone { standalone with stopRequested := true } }

/-- The container, with a stop asked for if it stands on its own. -/
def requested (container : Container) : Container :=
  match container.role with
  | .standalone standalone =>
    { container with role := .standalone { standalone with stopRequested := true } }
  | .recording _ => container

/-- The container with its data wiped. -/
def wiped (container : Container) : Container :=
  match container.role with
  | .recording recording =>
    { container with role := .recording { recording with wipes := recording.wipes + 1 } }
  | .standalone _ => { container with identity := {} }

/-- The container after it was asked to run a program. -/
def asked (container : Container) (arguments : List String) : Container :=
  match container.role with
  | .recording recording =>
    { container with
      role := .recording { recording with execs := recording.execs ++ [arguments] } }
  | .standalone _ => container

/-- The container after it got an acknowledgement. -/
def acknowledged (container : Container) (ack : Bytes) : Container :=
  match container.role with
  | .recording recording =>
    { container with role := .recording { recording with acks := recording.acks ++ [ack] } }
  | .standalone _ => container

/-- What a message from the agent makes of a container, given whether a stop would deliver a
shutdown. -/
def obey (container : Container) (delivered : Bool) : AgentMessage → Container
  | .bootCompleted => { container with state := .running }
  | .suspendCompleted => { container with screenOn := false }
  | .resumeCompleted => { container with screenOn := true }
  | .shutdown => if container.state.isStopping then container else container.halted delivered
  | .masterClear => container.wiped
  | .identity update => { container with identity := container.identity.apply update }
  | .exec path params => container.asked (path :: params)
  | .auditAck ack => container.acknowledged ack
  | .audioSuspendCompleted | .audioResumeCompleted | .connectivityChange _ | .nameRequest
  | .dnsRequest => container

@[simp] theorem estate_unregister (container : Container) (id : ObserverId) :
    (container.unregister id).estate = container.estate := by
  obtain ⟨_, _, _, _, _, _, _, _ | _⟩ := container <;> rfl

@[simp] theorem estate_requested (container : Container) :
    container.requested.estate = container.estate.requested := by
  obtain ⟨_, _, _, _, _, _, _, _ | _⟩ := container <;> rfl

@[simp] theorem estate_wiped (container : Container) :
    container.wiped.estate = container.estate.wiped := by
  obtain ⟨_, _, _, _, _, _, _, _ | _⟩ := container <;> rfl

@[simp] theorem estate_acknowledged (container : Container) (ack : Bytes) :
    (container.acknowledged ack).estate = container.estate.acknowledged ack := by
  obtain ⟨_, _, _, _, _, _, _, _ | _⟩ := container <;> rfl

/-! ### The stage -/

/-- A container that stands on its own is on its way down when its agent was told, and down when
it was not. -/
theorem state_halted (container : Container) (standsAlone : container.isStandalone = true)
    (delivered : Bool) :
    (container.halted delivered).state = if delivered then .shuttingDown else .stopped := by
  obtain ⟨_, _, _, _, _, _, _, _ | _⟩ := container
  · cases standsAlone
  · rfl

@[simp] theorem state_wiped (container : Container) : container.wiped.state = container.state := by
  obtain ⟨_, _, _, _, _, _, _, _ | _⟩ := container <;> rfl

@[simp] theorem state_asked (container : Container) (arguments : List String) :
    (container.asked arguments).state = container.state := by
  obtain ⟨_, _, _, _, _, _, _, _ | _⟩ := container <;> rfl

@[simp] theorem state_acknowledged (container : Container) (ack : Bytes) :
    (container.acknowledged ack).state = container.state := by
  obtain ⟨_, _, _, _, _, _, _, _ | _⟩ := container <;> rfl

end Container

/-- The estate of the container, while it is there. -/
def Holdings.estate (holdings : Holdings) : Option Container :=
  holdings.container.map Container.estate

/-- Bringing up does not touch the estate. -/
theorem Holdings.Phased.estate {before after : Holdings} {call : EngineCall}
    {result : Except Error Unit} (phased : before.Phased call result after) :
    after.estate = before.estate := by
  cases phased with
  | listening socket turn container there =>
    unfold Holdings.estate
    rw [there]
    rfl
  | _ => rfl

namespace Channel

variable {κ : Type}

/-- The estate of the container, while it is there. -/
def estate (channel : Channel κ) : Option Container := channel.holdings.estate

theorem estate_of_holdings {before after : Channel κ} (same : after.holdings = before.holdings) :
    after.estate = before.estate :=
  congrArg Holdings.estate same

theorem estate_eq (channel : Channel κ) :
    channel.estate = channel.container.map Container.estate := rfl

@[simp] theorem isSome_estate (channel : Channel κ) :
    channel.estate.isSome = channel.container.isSome :=
  Option.isSome_map

/-! ## Parts of the state -/

@[simp] theorem estate_record (channel : Channel κ) (event : Event) :
    (channel.record event).estate = channel.estate := rfl

@[simp] theorem estate_recordStandalone (channel : Channel κ) (event : Event) :
    (channel.recordStandalone event).estate = channel.estate :=
  estate_of_holdings (channel.holdings_recordStandalone event)

@[simp] theorem estate_note (channel : Channel κ) (note : Note) :
    (channel.note note).estate = channel.estate := rfl

theorem estate_onContainer (channel : Channel κ) {change onEstate : Container → Container}
    (follows : ∀ container, (change container).estate = onEstate container.estate) :
    (channel.onContainer change).estate = channel.estate.map onEstate := by
  unfold estate holdings Holdings.estate onContainer
  cases channel.container with
  | none => rfl
  | some container => exact congrArg some (follows container)

/-- A change that is none to the estate. -/
theorem estate_onContainer_of_eq (channel : Channel κ) {change : Container → Container}
    (same : ∀ container, (change container).estate = container.estate) :
    (channel.onContainer change).estate = channel.estate := by
  have kept : (channel.onContainer change).estate = channel.estate.map id :=
    channel.estate_onContainer same
  rwa [Option.map_id] at kept

/-! ## Connections -/
@[simp] theorem estate_closeRendezvous (channel : Channel κ) :
    channel.closeRendezvous.estate = channel.estate :=
  (congrArg Holdings.estate channel.holdings_closeRendezvous).trans rfl

@[simp] theorem estate_close (channel : Channel κ) (id : Nat) (reason : Teardown) :
    (channel.close id reason).estate = channel.estate := by
  unfold close
  split
  · rfl
  · split <;> rfl

@[simp] theorem estate_accept (channel : Channel κ) (socket : Handle) :
    (channel.accept socket).estate = channel.estate := by
  unfold accept
  cases channel.engine.connection <;> rfl

@[simp] theorem estate_acceptFailed (channel : Channel κ) (error : SystemError) :
    (channel.acceptFailed error).estate = channel.estate :=
  estate_closeRendezvous _

@[simp] theorem estate_unregister (channel : Channel κ) (id : ObserverId) :
    (channel.unregister id).estate = channel.estate :=
  channel.estate_onContainer_of_eq (·.estate_unregister id)

@[simp] theorem estate_unsubscribe (channel : Channel κ) :
    channel.unsubscribe.estate = channel.estate := by
  unfold unsubscribe
  split
  · exact estate_unregister _ _
  · rfl

@[simp] theorem estate_cleanup (channel : Channel κ) : channel.cleanup.estate = channel.estate := by
  have released : channel.releaseConnection.estate = channel.estate := by
    unfold releaseConnection
    split <;> rfl
  rw [cleanup, estate_unsubscribe, estate_closeRendezvous, released]

@[simp] theorem estate_release (channel : Channel κ) : channel.release.estate = channel.estate :=
  channel.estate_cleanup

/-! ## Watchers -/

@[simp] theorem estate_watch (channel : Channel κ) (name : String) (reaction : Reaction) :
    (channel.watch name reaction).2.estate = channel.estate := by
  unfold watch
  obtain ⟨error, refused⟩ | ⟨container, there, registered⟩ :=
    channel.register_cases (.watcher name reaction)
  · rw [refused]
  · rw [registered, estate_eq, estate_eq, there]
    rfl

@[simp] theorem estate_unwatch (channel : Channel κ) (name : String) :
    (channel.unwatch name).estate = channel.estate := by
  unfold unwatch
  split
  · exact estate_unregister _ _
  · rfl

@[simp] theorem estate_hear (channel : Channel κ) (connectivity : Connectivity) (name : String)
    (reaction : Reaction) : (channel.hear connectivity name reaction).estate = channel.estate := by
  unfold hear
  dsimp only
  split <;> simp

@[simp] theorem estate_storeConnectivity (channel : Channel κ) (connectivity : Connectivity) :
    (channel.storeConnectivity connectivity).estate = channel.estate := by
  refine (estate_onContainer_of_eq _ fun container => ?_).trans (channel.estate_recordStandalone _)
  rfl

variable [Kernel κ]

/-! ## Setting the connectivity -/

@[simp] theorem estate_sendConnectivity (channel : Channel κ) (connectivity : Connectivity) :
    (channel.sendConnectivity connectivity).2.estate = channel.estate := by
  obtain ⟨-, held⟩ | ⟨error, -, held⟩ := channel.sendConnectivity_cases connectivity
  · exact (congrArg Holdings.estate held).trans rfl
  · exact estate_of_holdings held

@[simp] theorem estate_bridge (channel : Channel κ) (connectivity : Connectivity) :
    (channel.bridge connectivity).2.estate = channel.estate := by
  by_cases same : connectivity = channel.engine.connectivity
  · rw [bridge_of_eq same]
    rfl
  · rw [bridge_of_ne same]
    exact channel.estate_sendConnectivity connectivity

@[simp] theorem estate_notifyEngine (channel : Channel κ) (connectivity : Connectivity) :
    (channel.notifyEngine connectivity).estate = channel.estate := by
  refine (congrArg Holdings.estate (channel.holdings_notifyEngine connectivity)).trans ?_
  split
  · rfl
  · exact channel.estate_bridge connectivity

/-- Whoever is told and whatever watchers set inside, the estate stays. -/
theorem estate_setConnectivityWithin (depth : Nat) (channel : Channel κ)
    (connectivity : Connectivity) :
    (channel.setConnectivityWithin depth connectivity).estate = channel.estate :=
  setConnectivityWithin_induction (motive := fun after => after.estate = channel.estate)
    (fun after connectivity kept => (after.estate_storeConnectivity connectivity).trans kept)
    (fun after connectivity kept => (after.estate_notifyEngine connectivity).trans kept)
    (fun after connectivity name reaction kept =>
      (after.estate_hear connectivity name reaction).trans kept)
    (fun after name reaction kept => (after.estate_watch name reaction).trans kept) depth rfl
    connectivity

@[simp] theorem estate_setConnectivity (channel : Channel κ) (connectivity : Connectivity) :
    (channel.setConnectivity connectivity).estate = channel.estate :=
  channel.estate_setConnectivityWithin _ connectivity

/-! ## Calls -/

/-- No operation on the engine touches the estate. -/
@[simp] theorem estate_call (channel : Channel κ) (call : EngineCall) :
    (channel.call call).2.estate = channel.estate := by
  cases call with
  | create => exact channel.create_phased.estate
  | bind => exact channel.bind_phased.estate
  | listen => exact channel.listen_phased.estate
  | cleanup => exact channel.estate_cleanup
  | release => exact channel.estate_release
  | command command => exact estate_of_holdings (channel.holdings_sendCommand command)
  | sendName => exact estate_of_holdings channel.holdings_sendName
  | sendDns => exact estate_of_holdings channel.holdings_sendDns
  | sendConnectivity connectivity => exact channel.estate_sendConnectivity connectivity
  | sendRecord record => exact estate_of_holdings (channel.holdings_sendRecord record)
  | notifyStorage remaining => exact estate_of_holdings (channel.holdings_notifyStorage remaining)
  | reconcile =>
    simp only [call, reconcile]
    split
    · rfl
    · exact channel.estate_bridge _
  | setConnectivity connectivity => exact channel.estate_setConnectivity connectivity

@[simp] theorem estate_runHook (channel : Channel κ) (calls : List EngineCall) :
    (channel.runHook calls).estate = channel.estate := by
  rw [runHook_eq]
  induction calls generalizing channel with
  | nil => rfl
  | cons call calls ih =>
    refine (ih _).trans ?_
    unfold hookCall
    split
    · rfl
    · exact channel.estate_call call

/-! ## Acting on the container -/

/-- A stop would deliver a shutdown to the agent. -/
def delivers (channel : Channel κ) : Bool := channel.requestShutdown.1.isOk

/-- What is logged has no bearing on what is sent. -/
theorem sendPayload_record (channel : Channel κ) (event : Event) (payload : Bytes) :
    ((channel.record event).sendPayload payload).1 = (channel.sendPayload payload).1 := by
  have engine : (channel.record event).engine = channel.engine := rfl
  have kernel : (channel.record event).kernel = channel.kernel := rfl
  unfold sendPayload
  rw [engine, kernel]
  split
  · rfl
  · split
    · rfl
    · split <;> rfl

theorem kernel_sendPayload_record (channel : Channel κ) (event : Event) (payload : Bytes) :
    ((channel.record event).sendPayload payload).2.kernel =
      (channel.sendPayload payload).2.kernel := by
  have engine : (channel.record event).engine = channel.engine := rfl
  have kernel : (channel.record event).kernel = channel.kernel := rfl
  unfold sendPayload
  rw [engine, kernel]
  split
  · rfl
  · split
    · rfl
    · split <;> rfl

/-- A shutdown is sent if there is an engine with an agent. -/
theorem requestShutdown_fst (channel : Channel κ) :
    channel.requestShutdown.1 =
      if channel.engine.released = false ∧ channel.engine.isConnected = true then
        (channel.sendMessage .shutdown).1
      else .error .notConnected := by
  unfold requestShutdown
  cases channel.engine.released with
  | true => rfl
  | false =>
    have logged :=
      channel.sendPayload_record (.sendingCommand .shutdown) HostMessage.shutdown.encode
    unfold sendCommand
    cases current : channel.engine.connection with
    | none => simp [Engine.isConnected, record, current]
    | some connection =>
      have current : (channel.record (.sendingCommand .shutdown)).engine.connection =
        some connection := current
      have connected : channel.engine.isConnected = true := by
        rw [Engine.isConnected, show channel.engine.connection = some connection from current]
        rfl
      rw [if_neg nofun, if_pos ⟨rfl, connected⟩, sendMessage, ← logged]
      dsimp only
      rw [current]
      dsimp only [Command.message?]
      rw [← sendMessage]
      split <;> rename_i sent <;> exact (congrArg Prod.fst sent).symm

@[simp] theorem delivers_record (channel : Channel κ) (event : Event) :
    (channel.record event).delivers = channel.delivers := by
  unfold delivers
  rw [requestShutdown_fst, requestShutdown_fst, sendMessage, sendPayload_record]
  rfl

omit [Kernel κ] in
@[simp] theorem estate_setState (channel : Channel κ) (state : Lifecycle) :
    (channel.setState state).estate =
      channel.estate.map fun container => { container with state := state } := by
  unfold setState
  split
  · rename_i gone
    rw [estate_eq, gone]
    rfl
  · rename_i container _
    have recorded : (if container.state = state then channel
        else channel.recordStandalone (.stateChanged container.state state)).estate =
        channel.estate := by
      split <;> simp
    rw [← recorded]
    exact estate_onContainer _ fun _ => rfl

omit [Kernel κ] in
@[simp] theorem estate_setScreenOn (channel : Channel κ) (on : Bool) :
    (channel.setScreenOn on).estate =
      channel.estate.map fun container => { container with screenOn := on } := by
  rw [← channel.estate_recordStandalone (.screenChanged on)]
  exact estate_onContainer _ fun _ => rfl

omit [Kernel κ] in
@[simp] theorem estate_applyIdentity (channel : Channel κ) (update : Identity) :
    (channel.applyIdentity update).estate =
      channel.estate.map fun container =>
        { container with identity := container.identity.apply update } := by
  refine (estate_onContainer _ fun _ => ?_).trans
    (congrArg _ (foldl_recordStandalone estate_recordStandalone _ channel))
  rfl

omit [Kernel κ] in
@[simp] theorem estate_wipe (channel : Channel κ) :
    channel.wipe.estate = channel.estate.map Container.wiped := by
  rw [← channel.estate_recordStandalone .wiping]
  exact estate_onContainer _ Container.estate_wiped

omit [Kernel κ] in
@[simp] theorem estate_acknowledgeAudit (channel : Channel κ) (ack : Bytes) :
    (channel.acknowledgeAudit ack).estate = channel.estate.map (·.acknowledged ack) := by
  rw [← channel.estate_recordStandalone (.auditAckReceived ack.length)]
  exact estate_onContainer _ (·.estate_acknowledged ack)

@[simp] theorem estate_exec (channel : Channel κ) (arguments : List String) :
    (channel.exec arguments).2.estate = channel.estate.map (·.asked arguments) := by
  have spawned : (channel.spawn arguments).2.estate = channel.estate := by
    unfold spawn
    split
    · rfl
    · split
      · rfl
      · split <;> rfl
  unfold exec
  split
  · rename_i gone
    rw [estate_eq, gone]
    rfl
  · rename_i container there
    split
    · rename_i recording role
      simp [estate_eq, there, Container.estate, Container.asked, role]
    · rename_i standalone role
      have same : channel.estate = channel.estate.map (·.asked arguments) := by
        simp [estate_eq, there, Container.estate, Container.asked, role]
      split
      · exact spawned.trans same
      · exact same

omit [Kernel κ] in
@[simp] theorem estate_requestStop (channel : Channel κ) :
    channel.requestStop.estate = channel.estate.map Container.requested :=
  estate_onContainer _ Container.estate_requested

/-- A stop begins as the kind of the container says, whatever a hook does then. -/
@[simp] theorem estate_stopContainer (channel : Channel κ) :
    channel.stopContainer.estate = channel.estate.map (·.halted channel.delivers) := by
  unfold stopContainer
  split
  · rename_i gone
    rw [estate_eq, gone]
    rfl
  · rename_i container there
    split
    · rename_i recording role
      rw [estate_runHook]
      simp [estate_eq, there, Container.estate, Container.halted, role]
    · rename_i standalone role
      have kept : channel.requestShutdown.2.estate = channel.estate :=
        estate_of_holdings channel.holdings_requestShutdown
      have halts (delivered : Bool) :
          (channel.estate.map fun container =>
            { container with state := if delivered then .shuttingDown else .stopped }).map
              Container.requested =
            channel.estate.map (·.halted delivered) := by
        simp [estate_eq, there, Container.estate, Container.halted, Container.requested, role]
      unfold delivers
      rw [← halts]
      split <;> rename_i asked <;> rw [asked] at kept ⊢
      · rw [estate_requestStop, estate_setState, kept]
        rfl
      · rw [estate_requestStop, estate_setState, estate_record, kept]
        rfl

/-! ## Messages from the agent -/

/-- A container that is on its way down, or down, is left alone. -/
theorem estate_handleShutdown {channel : Channel κ} {container : Container}
    (there : channel.container = some container) :
    (channel.handleShutdown container).estate =
      channel.estate.map (·.obey channel.delivers .shutdown) := by
  have obeys : channel.estate.map (·.obey channel.delivers .shutdown) =
      if container.state.isStopping then channel.estate
      else channel.estate.map (·.halted channel.delivers) := by
    simp only [estate_eq, there, Option.map_some, Container.obey, Container.estate]
    split <;> rfl
  have stops := (channel.record .shutdownRequested).estate_stopContainer
  rw [estate_record, delivers_record] at stops
  rw [obeys]
  unfold handleShutdown
  cases container.state <;> first | rfl | exact stops

/-- What a message makes of the container depends on the estate, and on whether a stop would deliver
a shutdown. -/
theorem estate_handle (channel : Channel κ) (message : AgentMessage) :
    (channel.handle message).estate = channel.estate.map (·.obey channel.delivers message) := by
  unfold handle
  split
  · rename_i gone
    rw [estate_record, estate_eq, gone]
    rfl
  · rename_i container there
    generalize received : channel.record (.received message.code) = next
    have kept : next.estate = channel.estate := by rw [← received, estate_record]
    have delivers : next.delivers = channel.delivers := by rw [← received, delivers_record]
    -- Most messages do not concern the estate.
    have stays {after : Channel κ} (same : after.estate = next.estate) :
        after.estate = next.estate.map id := by rw [Option.map_id, same, id]
    rw [← kept, ← delivers]
    cases message with
    | bootCompleted => exact estate_setState _ _
    | audioSuspendCompleted => exact stays rfl
    | audioResumeCompleted => exact stays rfl
    | suspendCompleted => exact estate_setScreenOn _ _
    | resumeCompleted => exact estate_setScreenOn _ _
    | shutdown =>
      refine estate_handleShutdown ?_
      rw [← received]
      exact there
    | masterClear => exact estate_wipe _
    | connectivityChange connectivity => exact stays (estate_setConnectivity _ _)
    | identity update => exact estate_applyIdentity _ _
    | nameRequest =>
      have sent := estate_of_holdings next.holdings_sendName
      refine stays ?_
      dsimp only [handleFor]
      split <;> rename_i replied <;> rw [replied] at sent <;> exact sent
    | dnsRequest =>
      have sent := estate_of_holdings next.holdings_sendDns
      refine stays ?_
      dsimp only [handleFor]
      split <;> rename_i replied <;> rw [replied] at sent <;> exact sent
    | exec path params =>
      have ran := (next.record (.executing (path :: params))).estate_exec (path :: params)
      dsimp only [handleFor]
      split <;> rename_i answered <;> rw [answered] at ran <;> exact ran
    | auditAck ack => exact estate_acknowledgeAudit _ _

/-- A payload that is no message leaves the estate alone. -/
theorem estate_handlePayload (channel : Channel κ) (payload : Bytes) :
    (channel.handlePayload payload).2.estate =
      match AgentMessage.decode payload with
      | .ok message => channel.estate.map (·.obey channel.delivers message)
      | .error _ => channel.estate := by
  unfold handlePayload
  cases AgentMessage.decode payload with
  | ok message => exact channel.estate_handle message
  | error error =>
    dsimp only
    split <;> rfl

/-- No message brings the container back, or takes it away. -/
theorem isSome_handlePayload (channel : Channel κ) (payload : Bytes) :
    (channel.handlePayload payload).2.estate.isSome = channel.estate.isSome := by
  unfold handlePayload
  split
  · rw [estate_handle, Option.isSome_map]
  · split <;> rfl

end Channel
end ServiceChannel
