import ServiceChannel.Proofs.Channel.Occupancy

/-!
# Effects on the occupancy

What each operation of a channel does to its occupancy. Sending, bringing up, observing and acting
on the container keep it. Letting go takes the open connection out, and so can whatever runs a stop
hook, and with it the handling of a message.

- `call_handled`: an operation on the engine.
- `stopContainer_handled`: a stop of the container.
- `handlePayload_handled`: a payload from the agent.
-/

namespace ServiceChannel.Channel

variable {κ : Type}

/-! ## Parts of the state -/

@[simp] theorem occupancy_record (channel : Channel κ) (event : Event) :
    (channel.record event).occupancy = channel.occupancy.report event.passage? := by
  unfold occupancy record Occupancy.report
  simp only [Array.toList_push, List.filterMap_append, Occupancy.mk.injEq, true_and]
  cases reported : event.passage? <;> simp [-Event.passage?, reported]

theorem occupancy_recordStandalone {event : Event} (channel : Channel κ)
    (silent : event.passage? = none) :
    (channel.recordStandalone event).occupancy = channel.occupancy := by
  unfold recordStandalone
  split
  · rw [occupancy_record, silent, Occupancy.report_none]
  · rfl

@[simp] theorem occupancy_note (channel : Channel κ) (note : Note) :
    (channel.note note).occupancy = channel.occupancy := rfl

@[simp] theorem occupancy_onContainer (channel : Channel κ) (change : Container → Container) :
    (channel.onContainer change).occupancy = channel.occupancy := rfl

@[simp] theorem occupancy_withKernel (channel : Channel κ) (kernel : κ) :
    { channel with kernel := kernel }.occupancy = channel.occupancy := rfl

@[simp] theorem occupancy_withContainer (channel : Channel κ) (container : Option Container) :
    { channel with container := container }.occupancy = channel.occupancy := rfl

@[simp] theorem occupancy_withConnectivity (channel : Channel κ) (connectivity : Connectivity) :
    (channel.onEngine fun engine => { engine with connectivity := connectivity }).occupancy =
      channel.occupancy := rfl

@[simp] theorem occupancy_setRendezvous (channel : Channel κ) (rendezvous : Rendezvous) :
    (channel.setRendezvous rendezvous).occupancy = channel.occupancy := rfl

@[simp] theorem occupancy_unregister (channel : Channel κ) (id : ObserverId) :
    (channel.unregister id).occupancy = channel.occupancy := rfl

@[simp] theorem occupancy_setBuffered (channel : Channel κ) (id : Nat) (bytes : Bytes) :
    (channel.onEngine (·.setBuffered id bytes)).occupancy = channel.occupancy.buffer id bytes := rfl

/-! ## Letting go -/

theorem occupancy_disconnect {channel : Channel κ} {event : Event} {cause : Cause}
    {connection : Connection} (current : channel.engine.connection = some connection)
    (reported : event.passage? = some (.departure connection.id cause)) :
    ((channel.record event).disconnect connection).occupancy = channel.occupancy.vacate cause := by
  have recorded := occupancy_record channel event
  rw [reported] at recorded
  have passages := congrArg Occupancy.passages recorded
  simp only [occupancy, Occupancy.report, Option.toList_some] at passages
  unfold Occupancy.vacate
  simp only [occupancy, disconnect, retire, onEngine, current, passages]
  rfl

@[simp] theorem occupancy_closeRendezvous (channel : Channel κ) :
    channel.closeRendezvous.occupancy = channel.occupancy := by
  unfold closeRendezvous
  dsimp only
  split <;> rfl

theorem occupancy_close (channel : Channel κ) (id : Nat) (reason : Teardown) :
    (channel.close id reason).occupancy = channel.occupancy.close id reason := by
  unfold close
  cases current : channel.engine.connection with
  | none =>
    have stale : channel.occupancy.isCurrent id = false := by
      simp [Occupancy.isCurrent, occupancy, current]
    exact (Occupancy.close_of_not_current reason stale).symm
  | some connection =>
    have judged : channel.occupancy.isCurrent id = decide (connection.id = id) := by
      simp [Occupancy.isCurrent, occupancy, current]
    rw [Occupancy.close, judged]
    by_cases same : connection.id = id
    · subst same
      simp only [if_true, decide_true]
      refine occupancy_disconnect current ?_
      cases reason <;> rfl
    · simp [same]

theorem occupancy_releaseConnection (channel : Channel κ) :
    channel.releaseConnection.occupancy = channel.occupancy.vacate .released := by
  unfold releaseConnection
  split
  · rename_i connection current
    exact occupancy_disconnect current rfl
  · rename_i empty
    exact (Occupancy.vacate_of_none .released empty).symm

@[simp] theorem occupancy_unsubscribe (channel : Channel κ) :
    channel.unsubscribe.occupancy = channel.occupancy := by
  unfold unsubscribe
  split <;> rfl

theorem occupancy_cleanup (channel : Channel κ) :
    channel.cleanup.occupancy = channel.occupancy.vacate .released := by
  rw [cleanup, occupancy_unsubscribe, occupancy_closeRendezvous, occupancy_releaseConnection]

theorem occupancy_release (channel : Channel κ) :
    channel.release.occupancy = channel.occupancy.vacate .released :=
  occupancy_cleanup channel

variable [Kernel κ]

/-! ## Sending -/

@[simp] theorem occupancy_sendPayload (channel : Channel κ) (payload : Bytes) :
    (channel.sendPayload payload).2.occupancy = channel.occupancy := by
  unfold sendPayload
  split
  · rfl
  · split
    · rfl
    · split
      · rfl
      · simp

@[simp] theorem occupancy_sendMessage (channel : Channel κ) (message : HostMessage) :
    (channel.sendMessage message).2.occupancy = channel.occupancy :=
  occupancy_sendPayload channel message.encode

@[simp] theorem occupancy_sendCommand (channel : Channel κ) (command : Command) :
    (channel.sendCommand command).2.occupancy = channel.occupancy := by
  unfold sendCommand
  dsimp only
  split
  · split <;> simp
  · split
    · simp
    · rename_i message _
      have kept := occupancy_sendMessage (channel.record (.sendingCommand command)) message
      split <;> rename_i sent <;> rw [sent] at kept <;> simpa using kept

@[simp] theorem occupancy_sendName (channel : Channel κ) :
    channel.sendName.2.occupancy = channel.occupancy := by
  unfold sendName
  split <;> simp

@[simp] theorem occupancy_sendDns (channel : Channel κ) :
    channel.sendDns.2.occupancy = channel.occupancy := by
  unfold sendDns
  split <;> simp

@[simp] theorem occupancy_sendConnectivity (channel : Channel κ) (connectivity : Connectivity) :
    (channel.sendConnectivity connectivity).2.occupancy = channel.occupancy := by
  unfold sendConnectivity
  have kept := occupancy_sendMessage (channel.record (.sendingConnectivity connectivity))
    (.connectivityChange connectivity)
  split <;> rename_i sent <;> rw [sent] at kept <;> simpa using kept

@[simp] theorem occupancy_sendRecord (channel : Channel κ) (payload : Bytes) :
    (channel.sendRecord payload).2.occupancy = channel.occupancy := by
  unfold sendRecord
  have kept := occupancy_sendPayload (channel.record (.sendingRecord payload.length)) payload
  split <;> rename_i sent <;> rw [sent] at kept <;> simpa using kept

@[simp] theorem occupancy_notifyStorage (channel : Channel κ) (remaining : UInt64) :
    (channel.notifyStorage remaining).2.occupancy = channel.occupancy := by
  simp [notifyStorage]

/-! ## The connectivity bridge -/

@[simp] theorem occupancy_bridge (channel : Channel κ) (connectivity : Connectivity) :
    (channel.bridge connectivity).2.occupancy = channel.occupancy := by
  unfold bridge
  split
  · simp
  · have kept := occupancy_sendConnectivity channel connectivity
    split <;> rename_i sent <;> rw [sent] at kept <;> exact kept

@[simp] theorem occupancy_reconcile (channel : Channel κ) :
    channel.reconcile.2.occupancy = channel.occupancy := by
  unfold reconcile
  split <;> simp

@[simp] theorem occupancy_notifyEngine (channel : Channel κ) (connectivity : Connectivity) :
    (channel.notifyEngine connectivity).occupancy = channel.occupancy := by
  unfold notifyEngine
  split
  · rfl
  · have kept := occupancy_bridge channel connectivity
    split <;> rename_i sent <;> rw [sent] at kept <;> simpa using kept

omit [Kernel κ] in
@[simp] theorem occupancy_register (channel : Channel κ) (observer : Observer) :
    (channel.register observer).2.occupancy = channel.occupancy := by
  unfold register
  split <;> rfl

omit [Kernel κ] in
@[simp] theorem occupancy_watch (channel : Channel κ) (name : String) (reaction : Reaction) :
    (channel.watch name reaction).2.occupancy = channel.occupancy := by
  unfold watch
  have kept := occupancy_register channel (.watcher name reaction)
  split <;> rename_i registered <;> rw [registered] at kept <;> exact kept

omit [Kernel κ] in
@[simp] theorem occupancy_unwatch (channel : Channel κ) (name : String) :
    (channel.unwatch name).occupancy = channel.occupancy := by
  unfold unwatch
  split <;> rfl

omit [Kernel κ] in
@[simp] theorem occupancy_storeConnectivity (channel : Channel κ) (connectivity : Connectivity) :
    (channel.storeConnectivity connectivity).occupancy = channel.occupancy := by
  rw [storeConnectivity, occupancy_onContainer, occupancy_recordStandalone _ rfl]

omit [Kernel κ] in
theorem occupancy_foldl {Item : Type} {change : Channel κ → Item → Channel κ} {items : List Item}
    (keeps : ∀ item ∈ items, ∀ channel, (change channel item).occupancy = channel.occupancy)
    (channel : Channel κ) : (items.foldl change channel).occupancy = channel.occupancy := by
  induction items generalizing channel with
  | nil => rfl
  | cons item items ih =>
    rw [List.foldl_cons, ih fun other mem => keeps other (by simp [mem]), keeps item (by simp)]

theorem occupancy_setConnectivityWithin (depth : Nat) (channel : Channel κ)
    (connectivity : Connectivity) :
    (channel.setConnectivityWithin depth connectivity).occupancy = channel.occupancy := by
  induction depth generalizing channel connectivity with
  | zero => rfl
  | succ depth ih =>
    rw [setConnectivityWithin]
    refine (occupancy_foldl ?_ _).trans (occupancy_storeConnectivity channel connectivity)
    rintro ⟨id, observer⟩ - channel
    dsimp only
    split
    · rfl
    · split
      · simp
      · split <;> split <;> split <;> (try split) <;> simp [ih]

@[simp] theorem occupancy_setConnectivity (channel : Channel κ) (connectivity : Connectivity) :
    (channel.setConnectivity connectivity).occupancy = channel.occupancy :=
  occupancy_setConnectivityWithin _ channel connectivity

/-! ## Bringing up -/

@[simp] theorem occupancy_create (channel : Channel κ) :
    channel.create.2.occupancy = channel.occupancy := by
  unfold create
  split
  · rfl
  · split
    · split <;> simp
    · rfl

@[simp] theorem occupancy_removeStale (channel : Channel κ) (path : String) :
    (channel.removeStale path).2.occupancy = channel.occupancy := by
  unfold removeStale
  split
  · rfl
  · split <;> simp

@[simp] theorem occupancy_bindAt (channel : Channel κ) (socket : Handle) (path : String) :
    (channel.bindAt socket path).2.occupancy = channel.occupancy := by
  unfold bindAt
  have kept := occupancy_removeStale channel path
  split <;> rename_i removed <;> rw [removed] at kept
  · exact kept
  · split
    · exact kept
    · split <;> simpa using kept

@[simp] theorem occupancy_bind (channel : Channel κ) :
    channel.bind.2.occupancy = channel.occupancy := by
  unfold bind
  split
  · rename_i socket _
    have kept := occupancy_bindAt channel socket channel.engine.config.socketPath
    dsimp only
    split <;> rename_i bound <;> rw [bound] at kept <;> simpa using kept
  · rfl

@[simp] theorem occupancy_listenAt (channel : Channel κ) (socket : Handle) :
    (channel.listenAt socket).2.occupancy = channel.occupancy := by
  unfold listenAt
  split <;> rfl

omit [Kernel κ] in
@[simp] theorem occupancy_subscribe (channel : Channel κ) :
    channel.subscribe.2.occupancy = channel.occupancy := by
  unfold subscribe
  have kept := occupancy_register channel .bridge
  split <;> rename_i registered <;> rw [registered] at kept
  · exact kept
  · simp only [occupancy_record, Event.passage?, Occupancy.report_none]
    exact kept

@[simp] theorem occupancy_listen (channel : Channel κ) :
    channel.listen.2.occupancy = channel.occupancy := by
  unfold listen
  split
  · rename_i socket _
    have kept := occupancy_listenAt channel socket
    split <;> rename_i listening <;> rw [listening] at kept <;> simpa using kept
  · rfl

/-! ## Calls -/

/-- An operation on the engine keeps the occupancy, unless it is one that lets go. -/
theorem occupancy_call (channel : Channel κ) (call : EngineCall) :
    (channel.call call).2.occupancy =
      if call = .cleanup ∨ call = .release then channel.occupancy.vacate .released
      else channel.occupancy := by
  cases call with
  | cleanup => exact occupancy_cleanup channel
  | release => exact occupancy_release channel
  | _ => simp [Channel.call]

theorem call_handled (channel : Channel κ) (call : EngineCall) :
    channel.occupancy.Handled (channel.call call).2.occupancy := by
  rw [occupancy_call]
  split
  · exact .released
  · exact .kept

theorem runHook_handled (channel : Channel κ) (calls : List EngineCall) :
    channel.occupancy.Handled (channel.runHook calls).occupancy := by
  unfold runHook
  induction calls generalizing channel with
  | nil => exact .kept
  | cons call calls ih =>
    rw [List.foldl_cons]
    refine Occupancy.Handled.trans ?_ (ih _)
    split
    · exact .kept
    · exact call_handled channel call

/-! ## Acting on the container -/

omit [Kernel κ] in
@[simp] theorem occupancy_setState (channel : Channel κ) (state : Lifecycle) :
    (channel.setState state).occupancy = channel.occupancy := by
  unfold setState
  split
  · rfl
  · dsimp only
    rw [occupancy_onContainer]
    split
    · rfl
    · exact occupancy_recordStandalone channel rfl

omit [Kernel κ] in
@[simp] theorem occupancy_setScreenOn (channel : Channel κ) (on : Bool) :
    (channel.setScreenOn on).occupancy = channel.occupancy :=
  occupancy_recordStandalone channel rfl

omit [Kernel κ] in
@[simp] theorem occupancy_applyIdentity (channel : Channel κ) (update : Identity) :
    (channel.applyIdentity update).occupancy = channel.occupancy := by
  rw [applyIdentity, occupancy_onContainer]
  refine occupancy_foldl (fun event mem channel => occupancy_recordStandalone channel ?_) channel
  simp only [List.mem_append, Option.mem_toList, Option.map_eq_some_iff] at mem
  obtain (⟨text, -, rfl⟩ | ⟨text, -, rfl⟩) | ⟨text, -, rfl⟩ := mem <;> rfl

@[simp] theorem occupancy_requestShutdown (channel : Channel κ) :
    channel.requestShutdown.2.occupancy = channel.occupancy := by
  unfold requestShutdown
  split <;> simp

omit [Kernel κ] in
@[simp] theorem occupancy_requestStop (channel : Channel κ) :
    channel.requestStop.occupancy = channel.occupancy := rfl

omit [Kernel κ] in
@[simp] theorem occupancy_wipe (channel : Channel κ) :
    channel.wipe.occupancy = channel.occupancy :=
  occupancy_recordStandalone channel rfl

@[simp] theorem occupancy_spawn (channel : Channel κ) (arguments : List String) :
    (channel.spawn arguments).2.occupancy = channel.occupancy := by
  unfold spawn
  split
  · rfl
  · split
    · rfl
    · split <;> rfl

@[simp] theorem occupancy_exec (channel : Channel κ) (arguments : List String) :
    (channel.exec arguments).2.occupancy = channel.occupancy := by
  unfold exec
  split
  · rfl
  · split
    · rfl
    · split <;> simp

omit [Kernel κ] in
@[simp] theorem occupancy_acknowledgeAudit (channel : Channel κ) (ack : Bytes) :
    (channel.acknowledgeAudit ack).occupancy = channel.occupancy :=
  occupancy_recordStandalone channel rfl

theorem stopContainer_handled (channel : Channel κ) :
    channel.occupancy.Handled channel.stopContainer.occupancy := by
  unfold stopContainer
  split
  · exact .kept
  · rename_i container _
    split
    · rename_i recording _
      exact runHook_handled { channel with container := some _ } recording.hook
    · have kept := occupancy_requestShutdown channel
      split <;> rename_i asked <;> rw [asked] at kept <;>
        exact .of_eq (by simpa using kept)

/-! ## Messages from the agent -/

theorem handleShutdown_handled (channel : Channel κ) (container : Container) :
    channel.occupancy.Handled (channel.handleShutdown container).occupancy := by
  unfold handleShutdown
  split
  · simpa using Occupancy.Handled.kept
  · simpa using Occupancy.Handled.kept
  · simpa using stopContainer_handled (channel.record .shutdownRequested)

/-- Only a request to shut down can take the connection out. -/
theorem occupancy_handleFor (channel : Channel κ) (container : Container) {message : AgentMessage}
    (other : message ≠ .shutdown) :
    (channel.handleFor container message).occupancy = channel.occupancy := by
  cases message with
  | shutdown => exact absurd rfl other
  | nameRequest =>
    have kept := occupancy_sendName channel
    unfold handleFor
    dsimp only
    split <;> rename_i sent <;> rw [sent] at kept <;> simpa using kept
  | dnsRequest =>
    have kept := occupancy_sendDns channel
    unfold handleFor
    dsimp only
    split <;> rename_i sent <;> rw [sent] at kept <;> simpa using kept
  | exec path params =>
    have kept := occupancy_exec (channel.record (.executing (path :: params))) (path :: params)
    unfold handleFor
    dsimp only
    split <;> rename_i ran <;> rw [ran] at kept <;> simpa using kept
  | _ => simp [handleFor]

theorem handleFor_handled (channel : Channel κ) (container : Container) (message : AgentMessage) :
    channel.occupancy.Handled (channel.handleFor container message).occupancy := by
  by_cases shutdown : message = .shutdown
  · rw [shutdown]
    exact handleShutdown_handled channel container
  · exact .of_eq (occupancy_handleFor channel container shutdown)

theorem handle_handled (channel : Channel κ) (message : AgentMessage) :
    channel.occupancy.Handled (channel.handle message).occupancy := by
  unfold handle
  split
  · simpa using Occupancy.Handled.kept
  · rename_i container _
    simpa using handleFor_handled (channel.record (.received message.code)) container message

theorem handlePayload_handled (channel : Channel κ) (payload : Bytes) :
    channel.occupancy.Handled (channel.handlePayload payload).2.occupancy := by
  unfold handlePayload
  split
  · rename_i message _
    exact handle_handled channel message
  · split
    · simpa using Occupancy.Handled.kept
    · exact .kept

/-! ## Arrivals -/

omit [Kernel κ] in
theorem occupancy_accept (channel : Channel κ) (socket : Handle) :
    (channel.accept socket).occupancy = channel.occupancy.enter socket := by
  unfold accept Occupancy.enter
  cases current : channel.engine.connection with
  | none =>
    rw [Occupancy.vacate_of_none .replaced current]
    simp only [occupancy_record]
    rfl
  | some previous =>
    have replaced : ((channel.record (.replacing previous.id)).disconnect previous).occupancy =
        channel.occupancy.vacate .replaced := occupancy_disconnect current rfl
    rw [← replaced]
    simp only [occupancy_record]
    rfl

omit [Kernel κ] in
@[simp] theorem occupancy_acceptFailed (channel : Channel κ) (error : SystemError) :
    (channel.acceptFailed error).occupancy = channel.occupancy := by
  simp [acceptFailed]

end ServiceChannel.Channel
