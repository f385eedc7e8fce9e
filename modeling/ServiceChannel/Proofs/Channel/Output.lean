import ServiceChannel.Proofs.Channel.Traffic
import ServiceChannel.Proofs.Channel.Untouched
import ServiceChannel.Proofs.Kernel.Offering

/-!
# What an engine writes

Whatever is done with an engine, it writes in one way only: a payload within its bound is put in a
frame, and the socket of the open connection is offered that frame until it is taken or refused.
Everything else that it does to what it writes with is to raise or close its rendezvous, and to let
go of its connection.

- `Frame.Within`: the frames of payloads within a bound.
- `Channel.Proceeds`: how an engine gets from one moment to a later one, between two arrivals.
- `sendPayload_proceeds`: `send_payload`, through which everything is written.
- `call_proceeds`, `handlePayload_proceeds`, `receive_proceeds`: whatever is called or read.
- `step_proceeds`, `conduct_proceeds`: what happens in a run, and in a life that stands alone.
-/

namespace ServiceChannel

/-- The buffer is the frame of a payload within the bound. -/
def Frame.Within (max : Nat) (buffer : Bytes) : Prop :=
  ∃ payload : Bytes, payload.length ≤ max ∧ buffer = frame payload

/-! ## Proceeding -/

/-- What an engine writes with: the kernel, what bounds it, and where it can write. -/
structure Outlet (κ : Type) where
  kernel : Offering κ
  config : Config
  rendezvous : Rendezvous
  connection : Option Connection

/-- The socket is that of the open connection. -/
def Outlet.Reaches {κ : Type} (outlet : Outlet κ) (socket : Handle) : Prop :=
  outlet.connection.map (·.socket) = some socket

/-- An outlet gets from one moment to a later one, and no connection arrives. -/
structure Outlet.Proceeds {κ : Type} (before after : Outlet κ) : Prop where
  config : after.config = before.config
  /-- The open connection stays, or is let go of. -/
  connection : after.connection = before.connection ∨ after.connection = none
  /-- The rendezvous leaves the ground with a valid configuration only. -/
  raised : after.rendezvous ≠ .closed →
    before.rendezvous ≠ .closed ∨ before.config.validate = .ok ()
  /-- The open connection is offered whole frames within the bound. -/
  offered : Offering.Offered before.Reaches (Frame.Within before.config.maxMessageSize) []
    before.kernel after.kernel

namespace Channel

variable {κ : Type}

/-- What the engine writes with. -/
def outlet (channel : Channel (Offering κ)) : Outlet κ where
  kernel := channel.kernel
  config := channel.engine.config
  rendezvous := channel.engine.rendezvous
  connection := channel.engine.connection

/-- The engine gets from one moment to a later one, and no connection arrives. -/
def Proceeds (before after : Channel (Offering κ)) : Prop := before.outlet.Proceeds after.outlet

namespace Proceeds

variable {before middle after : Channel (Offering κ)}

/-- Nothing is written. -/
theorem of_offers (config : after.engine.config = before.engine.config)
    (connection : after.engine.connection = before.engine.connection ∨
      after.engine.connection = none)
    (raised : after.engine.rendezvous ≠ .closed →
      before.engine.rendezvous ≠ .closed ∨ before.engine.config.validate = .ok ())
    (offers : after.kernel.offers = before.kernel.offers) : before.Proceeds after where
  config := config
  connection := connection
  raised := raised
  offered := .of_eq offers

/-- Nothing is written, and the ties stay. -/
theorem of_ties (ties : after.ties = before.ties)
    (offers : after.kernel.offers = before.kernel.offers) : before.Proceeds after :=
  .of_offers (congrArg Ties.config ties) (.inl (congrArg Ties.connection ties))
    (fun raised => .inl fun closed => raised ((congrArg Ties.rendezvous ties).trans closed)) offers

/-- Nothing is written, and the engine stays. -/
theorem of_sameEngine (same : before.ties.SameEngine after.ties)
    (offers : after.kernel.offers = before.kernel.offers) : before.Proceeds after :=
  .of_offers same.config (.inl same.connection)
    (fun raised => .inl fun closed => raised (same.rendezvous.trans closed)) offers

theorem refl (channel : Channel (Offering κ)) : channel.Proceeds channel := .of_ties rfl rfl

theorem trans (first : before.Proceeds middle) (second : middle.Proceeds after) :
    before.Proceeds after where
  config := second.config.trans first.config
  connection := by
    obtain same | gone := second.connection
    · rw [same]
      exact first.connection
    · exact .inr gone
  raised raised := by
    obtain higher | valid := second.raised raised
    · exact first.raised higher
    · rw [first.config] at valid
      exact .inr valid
  offered := by
    refine first.offered.trans (second.offered.mono fun socket reached => ⟨?reaches, ?within⟩)
    case reaches =>
      obtain same | gone := first.connection
      · rw [Outlet.Reaches, same] at reached
        exact reached
      · rw [Outlet.Reaches, gone] at reached
        cases reached
    case within =>
      rw [first.config]
      exact fun _ => id

end Proceeds

variable [Kernel κ]

/-! ## Sending -/

/-- A payload that fits is put in its frame, which the open connection is offered. -/
theorem sendPayload_proceeds (channel : Channel (Offering κ)) (payload : Bytes) :
    channel.Proceeds (channel.sendPayload payload).2 := by
  by_cases fits : payload.length ≤ channel.engine.config.maxMessageSize
  · cases current : channel.engine.connection with
    | none =>
      rw [sendPayload_of_unconnected fits current]
      exact .refl channel
    | some connection =>
      rw [sendPayload_of_connected fits current]
      have offered := (sendAll_offered channel.kernel connection.socket (Frame.frame payload)
        (· = Frame.frame payload)).begun rfl
      generalize sendAll channel.kernel connection.socket (Frame.frame payload) = sent at *
      obtain ⟨result, kernel⟩ := sent
      have proceeds : channel.Proceeds { channel with kernel := kernel } := by
        refine ⟨rfl, .inl rfl, .inl, offered.mono ?_⟩
        rintro socket rfl
        have reached := congrArg (Option.map Connection.socket) current
        exact ⟨reached, fun _ whole => ⟨payload, fits, whole⟩⟩
      cases result with
      | ok _ => exact proceeds
      | error error => exact proceeds
  · rw [sendPayload_of_oversized (Nat.lt_of_not_le fits)]
    exact .refl channel

theorem sendMessage_proceeds (channel : Channel (Offering κ)) (message : HostMessage) :
    channel.Proceeds (channel.sendMessage message).2 :=
  channel.sendPayload_proceeds message.encode

theorem sendCommand_proceeds (channel : Channel (Offering κ)) (command : Command) :
    channel.Proceeds (channel.sendCommand command).2 := by
  unfold sendCommand
  dsimp only
  split
  · split <;> exact .of_ties rfl rfl
  · split
    · exact .of_ties rfl rfl
    · rename_i message _
      have sends := (channel.record (.sendingCommand command)).sendMessage_proceeds message
      split <;> rename_i sent <;> rw [sent] at sends <;> exact sends

theorem sendName_proceeds (channel : Channel (Offering κ)) :
    channel.Proceeds channel.sendName.2 := by
  unfold sendName
  split
  · exact .refl channel
  · exact (channel.record _).sendMessage_proceeds _

theorem sendDns_proceeds (channel : Channel (Offering κ)) : channel.Proceeds channel.sendDns.2 := by
  unfold sendDns
  split
  · exact .refl channel
  · exact (channel.record _).sendMessage_proceeds _

theorem sendConnectivity_proceeds (channel : Channel (Offering κ)) (connectivity : Connectivity) :
    channel.Proceeds (channel.sendConnectivity connectivity).2 := by
  have sends := (channel.record (.sendingConnectivity connectivity)).sendMessage_proceeds
    (.connectivityChange connectivity)
  unfold sendConnectivity
  split <;> rename_i sent <;> rw [sent] at sends <;> exact sends

theorem sendRecord_proceeds (channel : Channel (Offering κ)) (payload : Bytes) :
    channel.Proceeds (channel.sendRecord payload).2 := by
  have sends := (channel.record (.sendingRecord payload.length)).sendPayload_proceeds payload
  unfold sendRecord
  split <;> rename_i sent <;> rw [sent] at sends <;> exact sends

theorem notifyStorage_proceeds (channel : Channel (Offering κ)) (remaining : UInt64) :
    channel.Proceeds (channel.notifyStorage remaining).2 :=
  (channel.record (.notifyingStorage remaining)).sendMessage_proceeds _

/-! ## Setting the connectivity -/

theorem bridge_proceeds (channel : Channel (Offering κ)) (connectivity : Connectivity) :
    channel.Proceeds (channel.bridge connectivity).2 := by
  by_cases same : connectivity = channel.engine.connectivity
  · rw [bridge_of_eq same]
    exact .of_ties rfl rfl
  · rw [bridge_of_ne same]
    exact channel.sendConnectivity_proceeds connectivity

theorem reconcile_proceeds (channel : Channel (Offering κ)) :
    channel.Proceeds channel.reconcile.2 := by
  unfold reconcile
  split
  · exact .refl channel
  · exact channel.bridge_proceeds _

theorem notifyEngine_proceeds (channel : Channel (Offering κ)) (connectivity : Connectivity) :
    channel.Proceeds (channel.notifyEngine connectivity) := by
  have bridges := channel.bridge_proceeds connectivity
  unfold notifyEngine
  split
  · exact .refl channel
  · split <;> rename_i bridged <;> rw [bridged] at bridges <;> exact bridges

omit [Kernel κ] in
theorem watch_proceeds (channel : Channel (Offering κ)) (name : String) (reaction : Reaction) :
    channel.Proceeds (channel.watch name reaction).2 :=
  .of_sameEngine (channel.sameEngine_watch name reaction)
    (congrArg Offering.offers (channel.kernel_watch name reaction))

omit [Kernel κ] in
theorem unwatch_proceeds (channel : Channel (Offering κ)) (name : String) :
    channel.Proceeds (channel.unwatch name) :=
  .of_sameEngine (channel.sameEngine_unwatch name)
    (congrArg Offering.offers (channel.kernel_unwatch name))

omit [Kernel κ] in
theorem hear_proceeds (channel : Channel (Offering κ)) (connectivity : Connectivity) (name : String)
    (reaction : Reaction) : channel.Proceeds (channel.hear connectivity name reaction) := by
  unfold hear
  dsimp only
  split
  · exact unwatch_proceeds (channel.note (.notified name connectivity)) _
  · exact .of_ties rfl rfl

omit [Kernel κ] in
theorem storeConnectivity_proceeds (channel : Channel (Offering κ)) (connectivity : Connectivity) :
    channel.Proceeds (channel.storeConnectivity connectivity) :=
  .of_ties (channel.ties_storeConnectivity connectivity)
    (congrArg Offering.offers (channel.kernel_storeConnectivity connectivity))

theorem setConnectivityWithin_proceeds (depth : Nat) (channel : Channel (Offering κ))
    (connectivity : Connectivity) :
    channel.Proceeds (channel.setConnectivityWithin depth connectivity) :=
  setConnectivityWithin_induction (motive := channel.Proceeds)
    (fun after connectivity so_far => so_far.trans (after.storeConnectivity_proceeds connectivity))
    (fun after connectivity so_far => so_far.trans (after.notifyEngine_proceeds connectivity))
    (fun after connectivity name reaction so_far =>
      so_far.trans (after.hear_proceeds connectivity name reaction))
    (fun after name reaction so_far => so_far.trans (after.watch_proceeds name reaction)) depth
    (.refl channel) connectivity

theorem setConnectivity_proceeds (channel : Channel (Offering κ)) (connectivity : Connectivity) :
    channel.Proceeds (channel.setConnectivity connectivity) :=
  channel.setConnectivityWithin_proceeds _ connectivity

/-! ## Bringing up and letting go -/

/-- What was offered is no business of what makes sockets and lets go of them. -/
theorem untouched_offers : Untouched (Offering.offers : Offering κ → List Offer) where
  openSocket _ := rfl
  entry _ _ := rfl
  remove _ _ := rfl
  bind _ _ _ := rfl
  listen _ _ _ := rfl
  close _ _ := rfl

omit [Kernel κ] in
theorem Proceeds.of_phased {before after : Channel (Offering κ)} {call : EngineCall}
    {result : Except Error Unit} (phased : before.holdings.Phased call result after.holdings)
    (checked : call = .create → result = .ok () → before.engine.config.validate = .ok ())
    (offers : after.kernel.offers = before.kernel.offers) : before.Proceeds after := by
  have above {rendezvous source : Rendezvous} (turn : before.engine.rendezvous = source)
      (higher : source ≠ .closed) : rendezvous ≠ .closed →
        before.engine.rendezvous ≠ .closed ∨ before.engine.config.validate = .ok () :=
    fun _ => .inl fun closed => higher (turn.symm.trans closed)
  generalize held : after.holdings = holdings at phased
  have engine : after.engine = holdings.engine := congrArg Holdings.engine held
  refine .of_offers ?config ?connection ?raised offers
  case config => rw [engine]; cases phased <;> rfl
  case connection => rw [engine]; cases phased <;> exact .inl rfl
  case raised =>
    rw [engine]
    cases phased with
    | refused _ => exact .inl
    | failed _ _ => exact fun raised => absurd rfl raised
    | created socket _ => exact fun _ => .inr (checked rfl rfl)
    | bound socket turn => exact above turn nofun
    | unobserved socket turn _ => exact above turn nofun
    | listening socket turn _ _ => exact above turn nofun

theorem create_proceeds (channel : Channel (Offering κ)) : channel.Proceeds channel.create.2 := by
  refine .of_phased channel.create_phased (fun _ created => ?_)
    (untouched_offers.after_create channel)
  unfold create at created
  split at created
  · cases created
  · assumption

theorem bind_proceeds (channel : Channel (Offering κ)) : channel.Proceeds channel.bind.2 :=
  .of_phased channel.bind_phased nofun (untouched_offers.after_bind channel)

theorem listen_proceeds (channel : Channel (Offering κ)) : channel.Proceeds channel.listen.2 :=
  .of_phased channel.listen_phased nofun (untouched_offers.after_listen channel)

omit [Kernel κ] in
theorem cleanup_proceeds (channel : Channel (Offering κ)) : channel.Proceeds channel.cleanup := by
  have ties := channel.ties_cleanup
  refine .of_offers (congrArg Ties.config ties) (.inr (congrArg Ties.connection ties)) ?_
    (congrArg Offering.offers channel.kernel_cleanup)
  exact fun raised => absurd (congrArg Ties.rendezvous ties) raised

omit [Kernel κ] in
theorem release_proceeds (channel : Channel (Offering κ)) : channel.Proceeds channel.release :=
  channel.cleanup_proceeds

/-! ## Calls and stops -/

theorem call_proceeds (channel : Channel (Offering κ)) (call : EngineCall) :
    channel.Proceeds (channel.call call).2 := by
  cases call with
  | create => exact channel.create_proceeds
  | bind => exact channel.bind_proceeds
  | listen => exact channel.listen_proceeds
  | cleanup => exact channel.cleanup_proceeds
  | release => exact channel.release_proceeds
  | command command => exact channel.sendCommand_proceeds command
  | sendName => exact channel.sendName_proceeds
  | sendDns => exact channel.sendDns_proceeds
  | sendConnectivity connectivity => exact channel.sendConnectivity_proceeds connectivity
  | sendRecord record => exact channel.sendRecord_proceeds record
  | notifyStorage remaining => exact channel.notifyStorage_proceeds remaining
  | reconcile => exact channel.reconcile_proceeds
  | setConnectivity connectivity => exact channel.setConnectivity_proceeds connectivity

theorem runHook_proceeds (channel : Channel (Offering κ)) (calls : List EngineCall) :
    channel.Proceeds (channel.runHook calls) := by
  rw [runHook_eq]
  refine List.foldlRecOn calls hookCall (.refl channel) fun after so_far call _ => so_far.trans ?_
  unfold hookCall
  split
  · exact .refl after
  · exact after.call_proceeds call

omit [Kernel κ] in
theorem setState_proceeds (channel : Channel (Offering κ)) (state : Lifecycle) :
    channel.Proceeds (channel.setState state) :=
  .of_ties (channel.ties_setState state) (congrArg Offering.offers (channel.kernel_setState state))

theorem stopContainer_proceeds (channel : Channel (Offering κ)) :
    channel.Proceeds channel.stopContainer := by
  have asks : channel.Proceeds channel.requestShutdown.2 := by
    unfold requestShutdown
    split
    · exact .refl channel
    · exact channel.sendCommand_proceeds .shutdown
  have ends (after : Channel (Offering κ)) (stage : Lifecycle) :
      after.Proceeds (after.setState stage).requestStop :=
    (after.setState_proceeds stage).trans
      (.of_ties (after.setState stage).ties_requestStop rfl)
  unfold stopContainer
  split
  · exact .refl channel
  · rename_i container there
    split
    · rename_i recording _
      exact runHook_proceeds (channel.halt container recording) recording.hook
    · split <;> rename_i after answered <;> rw [answered] at asks
      · exact asks.trans (ends after _)
      · exact asks.trans (ends (after.record _) _)

/-! ## Messages and reads -/

theorem exec_proceeds (channel : Channel (Offering κ)) (arguments : List String) :
    channel.Proceeds (channel.exec arguments).2 := by
  refine .of_ties (channel.ties_exec arguments) ?_
  unfold exec
  split
  · rfl
  · split
    · rfl
    · split
      · unfold spawn
        split
        · rfl
        · split
          · rfl
          · split <;> rename_i ran <;> obtain ⟨-, rfl⟩ := Prod.mk.inj ran <;> rfl
      · rfl

theorem handleFor_proceeds (channel : Channel (Offering κ)) (container : Container)
    (message : AgentMessage) : channel.Proceeds (channel.handleFor container message) := by
  cases message with
  | bootCompleted => exact setState_proceeds (channel.record .bootReported) .running
  | audioSuspendCompleted => exact .refl channel
  | audioResumeCompleted => exact .refl channel
  | suspendCompleted =>
    exact .of_ties (channel.ties_setScreenOn false)
      (congrArg Offering.offers (channel.kernel_setScreenOn false))
  | resumeCompleted =>
    exact .of_ties (channel.ties_setScreenOn true)
      (congrArg Offering.offers (channel.kernel_setScreenOn true))
  | shutdown =>
    dsimp only [handleFor, handleShutdown]
    split
    · exact .of_ties rfl rfl
    · exact .of_ties rfl rfl
    · exact stopContainer_proceeds (channel.record .shutdownRequested)
  | masterClear =>
    exact .of_ties (ties_wipe _) (congrArg Offering.offers (kernel_wipe _))
  | connectivityChange connectivity =>
    -- The connectivity that is remembered is no part of the outlet.
    refine Proceeds.trans ?_ (setConnectivity_proceeds _ connectivity)
    exact .of_offers rfl (.inl rfl) .inl rfl
  | identity update =>
    exact .of_ties (ties_applyIdentity _ update)
      (congrArg Offering.offers (kernel_applyIdentity _ update))
  | nameRequest =>
    have sends := channel.sendName_proceeds
    dsimp only [handleFor]
    split <;> rename_i sent <;> rw [sent] at sends <;> exact sends
  | dnsRequest =>
    have sends := channel.sendDns_proceeds
    dsimp only [handleFor]
    split <;> rename_i sent <;> rw [sent] at sends <;> exact sends
  | exec path params =>
    have runs := (channel.record (.executing (path :: params))).exec_proceeds (path :: params)
    dsimp only [handleFor]
    split <;> rename_i ran <;> rw [ran] at runs <;> exact runs
  | auditAck ack =>
    exact .of_ties (channel.ties_acknowledgeAudit ack)
      (congrArg Offering.offers (channel.kernel_acknowledgeAudit ack))

theorem handlePayload_proceeds (channel : Channel (Offering κ)) (payload : Bytes) :
    channel.Proceeds (channel.handlePayload payload).2 := by
  unfold handlePayload
  split
  · rename_i message _
    unfold handle
    split
    · exact .of_ties rfl rfl
    · exact handleFor_proceeds (channel.record (.received message.code)) _ message
  · split <;> exact .of_ties rfl rfl

omit [Kernel κ] in
theorem close_proceeds (channel : Channel (Offering κ)) (id : Nat) (reason : Teardown) :
    channel.Proceeds (channel.close id reason) := by
  have offers := congrArg Offering.offers (channel.kernel_close id reason)
  obtain same | vacated := Quiet.close channel id reason
  · exact .of_ties same offers
  · refine .of_offers ?_ (.inr ?_) ?_ offers
    · exact (congrArg Ties.config vacated).trans rfl
    · exact (congrArg Ties.connection vacated).trans rfl
    · have same : (channel.close id reason).engine.rendezvous = channel.engine.rendezvous :=
        (congrArg Ties.rendezvous vacated).trans rfl
      rw [same]
      exact .inl

theorem receive_proceeds (channel : Channel (Offering κ)) (id : Nat) (outcome : ReadOutcome) :
    channel.Proceeds (channel.receive id outcome) :=
  receive_induction (motive := channel.Proceeds)
    (fun _ payload so_far => so_far.trans (handlePayload_proceeds _ payload))
    (fun _ id reason so_far => so_far.trans (close_proceeds _ id reason))
    (fun _ _ _ so_far => so_far.trans (.of_ties rfl rfl))
    (fun _ _ so_far => so_far.trans (.of_ties rfl rfl)) (.refl channel) id outcome

/-! ## Runs and lives -/

omit [Kernel κ] in
theorem acceptFailed_proceeds (channel : Channel (Offering κ)) (error : SystemError) :
    channel.Proceeds (channel.acceptFailed error) := by
  have ties := channel.ties_acceptFailed error
  refine .of_offers ((congrArg Ties.config ties).trans rfl)
    (.inl ((congrArg Ties.connection ties).trans rfl)) ?_
    (congrArg Offering.offers (kernel_closeRendezvous _))
  exact fun raised => absurd ((congrArg Ties.rendezvous ties).trans rfl) raised

/-- Whatever happens, unless a connection arrives or the kernel goes on by itself. -/
theorem step_proceeds (channel : Channel (Offering κ)) {input : Input (Offering κ)}
    (arrives : ∀ socket, input ≠ .accept socket) (goes : ∀ kernel, input ≠ .elapse kernel) :
    channel.Proceeds (channel.step input) := by
  cases input with
  | accept socket => exact absurd rfl (arrives socket)
  | acceptFailed error => exact channel.acceptFailed_proceeds error
  | read id outcome => exact channel.receive_proceeds id outcome
  | call call => exact channel.call_proceeds call
  | stop => exact channel.stopContainer_proceeds
  | container container => exact .of_offers rfl (.inl rfl) .inl rfl
  | watch name reaction => exact channel.watch_proceeds name reaction
  | unwatch name => exact channel.unwatch_proceeds name
  | sweep => exact .of_ties channel.ties_closeRetired (untouched_offers.after_closeRetired channel)
  | elapse kernel => exact absurd rfl (goes kernel)

theorem bringUp_proceeds (channel : Channel (Offering κ)) :
    channel.Proceeds channel.bringUp.2 := by
  have creates := channel.create_proceeds
  unfold bringUp
  split <;> rename_i created result <;> rw [result] at creates
  · exact creates
  · have binds := created.bind_proceeds
    split <;> rename_i bound result <;> rw [result] at binds
    · exact creates.trans binds
    · exact (creates.trans binds).trans bound.listen_proceeds

omit [Kernel κ] in
theorem endFinish_proceeds (channel : Channel (Offering κ)) :
    channel.Proceeds channel.endFinish := by
  unfold endFinish
  dsimp only
  split
  · exact channel.setState_proceeds .stopped
  · exact channel.release_proceeds.trans (setState_proceeds _ .stopped)

end Channel

/-- A connection arrives, the kernel goes on by itself, or an engine is made. -/
def Affair.isTurn {κ : Type} : Affair κ → Bool
  | .chore (.start _) | .chore (.traffic (.arrival _)) | .chore (.traffic (.elapse _)) => true
  | _ => false

namespace Channel

variable {κ : Type} [Kernel κ]

/-- Whatever else is done in a life that stands alone, or comes. -/
theorem conduct_proceeds (channel : Channel (Offering κ)) {affair : Affair (Offering κ)}
    (same : affair.isTurn = false) : channel.Proceeds (channel.conduct affair) := by
  cases affair with
  | chore chore =>
    cases chore with
    | start config => cases same
    | stop => exact channel.stopContainer_proceeds
    | setConnectivity connectivity => exact channel.setConnectivity_proceeds connectivity
    | wipe => exact .of_ties channel.ties_wipe (congrArg Offering.offers channel.kernel_wipe)
    | beginFinish =>
      dsimp only [conduct, undertake, beginFinish]
      split <;> exact .of_ties rfl rfl
    | endFinish => exact channel.endFinish_proceeds
    | traffic traffic =>
      cases traffic with
      | arrival socket => cases same
      | refusal error =>
        dsimp only [conduct, undertake, attend]
        split
        · exact channel.acceptFailed_proceeds error
        · exact .refl channel
      | read id outcome => exact channel.receive_proceeds id outcome
      | sweep =>
        exact .of_ties channel.ties_closeRetired (untouched_offers.after_closeRetired channel)
      | elapse kernel => cases same
  | setState state => exact channel.setState_proceeds state
  | setScreenOn on =>
    exact .of_ties (channel.ties_setScreenOn on)
      (congrArg Offering.offers (channel.kernel_setScreenOn on))
  | identify update =>
    exact .of_ties (channel.ties_applyIdentity update)
      (congrArg Offering.offers (channel.kernel_applyIdentity update))
  | exec arguments => exact channel.exec_proceeds arguments
  | acknowledge ack =>
    exact .of_ties (channel.ties_acknowledgeAudit ack)
      (congrArg Offering.offers (channel.kernel_acknowledgeAudit ack))
  | watch name reaction => exact channel.watch_proceeds name reaction
  | unwatch name => exact channel.unwatch_proceeds name
  | takeStopRequest =>
    dsimp only [conduct, takeStopRequest]
    split
    · exact .refl channel
    · split <;> exact .of_offers rfl (.inl rfl) .inl rfl

end Channel
end ServiceChannel
