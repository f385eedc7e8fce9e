import ServiceChannel.Proofs.Channel.Acts
import ServiceChannel.Proofs.Channel.Moorings
import ServiceChannel.Proofs.Channel.Traffic

/-!
# Bonds

What binds an engine to the container that hosts it: the number under which it observes it, among
the container's observers, until it is given up. While nobody but engines observes a container that
stands on its own, nothing that its agents do and nothing that is asked of it loosens the bond.

- `Bond`, `Bond.Private`: the bond, and that nobody else observes the container.
- `Channel.bond_release`: the engine is given up.
- `Channel.bond_handle`: messages from the agent.
- `Channel.bond_attend`: all that comes by itself.
-/

namespace ServiceChannel

/-- What binds an engine to its container. -/
structure Bond where
  /-- The engine was given up. -/
  released : Bool
  subscription : Option ObserverId
  /-- The container, while it is there. -/
  home : Option Home

/-- The bond of moorings. -/
def Moorings.bond (moorings : Moorings) : Bond where
  released := moorings.engine.released
  subscription := moorings.engine.subscription
  home := moorings.home

/-- The container stands on its own, and nobody but engines observes it. -/
def Bond.Private (bond : Bond) : Prop :=
  ∃ home, bond.home = some home ∧ home.isStandalone = true ∧
    ∀ entry ∈ home.observers.entries, entry.2 = .bridge

/-- The engine no longer observes its container. -/
def Bond.loosen (bond : Bond) : Bond :=
  { bond with
    subscription := none
    home := match bond.subscription with
      | some id => bond.home.map (·.unregister id)
      | none => bond.home }

namespace Channel

variable {κ : Type}

/-- What binds the engine to its container. -/
def bond (channel : Channel κ) : Bond := channel.moorings.bond

theorem bond_of_moorings {before after : Channel κ} (same : after.moorings = before.moorings) :
    after.bond = before.bond :=
  congrArg Moorings.bond same

theorem bond_of_holdings {before after : Channel κ} (same : after.holdings = before.holdings) :
    after.bond = before.bond :=
  bond_of_moorings (moorings_of_holdings same)

/-- The container that a private bond binds to. -/
theorem container_of_private {channel : Channel κ} (bound : channel.bond.Private) :
    ∃ container standalone, channel.container = some container ∧
      container.role = .standalone standalone ∧ ∀ entry ∈ channel.audience, entry.2 = .bridge := by
  obtain ⟨home, bonded, standsAlone, bridges⟩ := bound
  obtain ⟨container, there, rfl⟩ := Option.map_eq_some_iff.1 bonded
  change channel.container = some container at there
  cases role : container.role with
  | recording recording => simp [Container.home, Container.isStandalone, role] at standsAlone
  | standalone standalone =>
    refine ⟨container, standalone, there, role, ?_⟩
    unfold audience
    rw [there]
    exact bridges

/-! ## Letting go of a connection -/

theorem bond_closeRendezvous (channel : Channel κ) :
    channel.closeRendezvous.bond = channel.bond := by
  unfold closeRendezvous
  dsimp only
  split <;> rfl

theorem bond_close (channel : Channel κ) (id : Nat) (reason : Teardown) :
    (channel.close id reason).bond = channel.bond := by
  unfold close
  split
  · rfl
  · split <;> rfl

theorem bond_accept (channel : Channel κ) (socket : Handle) :
    (channel.accept socket).bond = channel.bond := by
  unfold accept
  cases channel.engine.connection <;> rfl

/-! ## Letting go of everything -/

theorem bond_releaseConnection (channel : Channel κ) :
    channel.releaseConnection.bond = channel.bond := by
  unfold releaseConnection
  split <;> rfl

theorem bond_unregister (channel : Channel κ) (id : ObserverId) :
    (channel.unregister id).bond =
      { channel.bond with home := channel.bond.home.map (·.unregister id) } := by
  unfold bond moorings holdings Holdings.moorings Moorings.bond unregister onContainer
  simp only [Option.map_map, Bond.mk.injEq, true_and]
  exact congrArg (channel.container.map ·) (funext fun container => container.home_unregister id)

theorem bond_unsubscribe (channel : Channel κ) :
    channel.unsubscribe.bond = channel.bond.loosen := by
  have subscription : channel.bond.subscription = channel.engine.subscription := rfl
  unfold unsubscribe Bond.loosen
  rw [subscription]
  cases subscribed : channel.engine.subscription with
  | some id => exact bond_unregister _ _
  | none =>
    dsimp only
    rw [← subscribed]
    rfl

/-- An engine that is given up lets its container go. -/
theorem bond_release (channel : Channel κ) :
    channel.release.bond = { channel.bond.loosen with released := true } := by
  have loosened : channel.cleanup.bond = channel.bond.loosen := by
    unfold cleanup
    rw [bond_unsubscribe, bond_closeRendezvous, bond_releaseConnection]
  rw [← loosened]
  rfl

variable [Kernel κ]

/-! ## Setting the connectivity -/

theorem bond_sendConnectivity (channel : Channel κ) (connectivity : Connectivity) :
    (channel.sendConnectivity connectivity).2.bond = channel.bond := by
  obtain ⟨-, held⟩ | ⟨error, -, held⟩ := channel.sendConnectivity_cases connectivity
  · exact (congrArg (·.moorings.bond) held).trans rfl
  · exact bond_of_holdings held

theorem bond_bridge (channel : Channel κ) (connectivity : Connectivity) :
    (channel.bridge connectivity).2.bond = channel.bond := by
  by_cases same : connectivity = channel.engine.connectivity
  · rw [bridge_of_eq same]
    rfl
  · rw [bridge_of_ne same]
    exact channel.bond_sendConnectivity connectivity

theorem bond_notifyEngine (channel : Channel κ) (connectivity : Connectivity) :
    (channel.notifyEngine connectivity).bond = channel.bond := by
  refine (congrArg (·.moorings.bond) (channel.holdings_notifyEngine connectivity)).trans ?_
  split
  · rfl
  · exact channel.bond_bridge connectivity

/-- An engine that is told of the connectivity stays bound. -/
theorem bond_tell (depth : Nat) (channel : Channel κ) {entry : ObserverId × Observer}
    (bridge : entry.2 = .bridge) : (tell depth channel entry).bond = channel.bond := by
  unfold tell
  rw [bridge]
  split
  · rfl
  · exact channel.bond_notifyEngine _

theorem bond_setConnectivity {channel : Channel κ} (bound : channel.bond.Private)
    (connectivity : Connectivity) :
    (channel.setConnectivity connectivity).bond = channel.bond := by
  have told (depth : Nat) (entries : List (ObserverId × Observer))
      (bridges : ∀ entry ∈ entries, entry.2 = .bridge) (channel : Channel κ) :
      (entries.foldl (tell depth) channel).bond = channel.bond := by
    induction entries generalizing channel with
    | nil => rfl
    | cons entry entries ih =>
      refine (ih (fun other mem => bridges other (List.mem_cons_of_mem _ mem)) _).trans ?_
      exact bond_tell depth channel (bridges entry List.mem_cons_self)
  obtain ⟨container, standalone, -, -, bridges⟩ := container_of_private bound
  have stored := bond_of_moorings (channel.moorings_storeConnectivity connectivity)
  exact (told _ _ bridges _).trans stored

/-! ## Stopping -/

theorem bond_stopContainer {channel : Channel κ} (bound : channel.bond.Private) :
    channel.stopContainer.bond = channel.bond := by
  obtain ⟨container, standalone, there, role, -⟩ := container_of_private bound
  exact bond_of_moorings (moorings_stopContainer there role)

/-! ## Messages and traffic -/

theorem bond_handleShutdown {channel : Channel κ} (bound : channel.bond.Private)
    (container : Container) : (channel.handleShutdown container).bond = channel.bond := by
  unfold handleShutdown
  split
  · rfl
  · rfl
  · have bound : (channel.record .shutdownRequested).bond.Private := bound
    exact bond_stopContainer bound

theorem bond_handle {channel : Channel κ} (bound : channel.bond.Private) (message : AgentMessage) :
    (channel.handle message).bond = channel.bond := by
  obtain ⟨container, -, there, -, -⟩ := container_of_private bound
  unfold handle
  rw [there]
  dsimp only
  generalize received : channel.record (.received message.code) = next
  have kept : next.bond = channel.bond := by
    rw [← received]
    rfl
  rw [← kept] at bound ⊢
  unfold handleFor
  cases message with
  | bootCompleted => exact bond_of_moorings (moorings_setState _ _)
  | audioSuspendCompleted => rfl
  | audioResumeCompleted => rfl
  | suspendCompleted => exact bond_of_moorings (moorings_setScreenOn _ _)
  | resumeCompleted => exact bond_of_moorings (moorings_setScreenOn _ _)
  | shutdown => exact bond_handleShutdown bound container
  | masterClear => exact bond_of_moorings (moorings_wipe _)
  | connectivityChange connectivity => exact bond_setConnectivity (by exact bound) connectivity
  | identity update => exact bond_of_moorings (moorings_applyIdentity _ _)
  | nameRequest =>
    have kept := bond_of_holdings next.holdings_sendName
    dsimp only
    split <;> rename_i sent <;> rw [sent] at kept <;> exact kept
  | dnsRequest =>
    have kept := bond_of_holdings next.holdings_sendDns
    dsimp only
    split <;> rename_i sent <;> rw [sent] at kept <;> exact kept
  | exec path params =>
    have kept := bond_of_moorings
      ((next.record (.executing (path :: params))).moorings_exec (path :: params))
    dsimp only
    split <;> rename_i ran <;> rw [ran] at kept <;> exact kept
  | auditAck ack => exact bond_of_moorings (moorings_acknowledgeAudit _ _)

theorem bond_handlePayload {channel : Channel κ} (bound : channel.bond.Private) (payload : Bytes) :
    (channel.handlePayload payload).2.bond = channel.bond := by
  unfold handlePayload
  split
  · exact bond_handle bound _
  · split <;> rfl

theorem bond_receive {channel : Channel κ} (bound : channel.bond.Private) (id : Nat)
    (outcome : ReadOutcome) : (channel.receive id outcome).bond = channel.bond := by
  let keeps (after : Channel κ) : Prop := after.bond = channel.bond
  have handles (after : Channel κ) (payload : Bytes) (kept : keeps after) :
      keeps (after.handlePayload payload).2 :=
    (bond_handlePayload (by rwa [kept]) payload).trans kept
  have closes (after : Channel κ) (other : Nat) (reason : Teardown) (kept : keeps after) :
      keeps (after.close other reason) :=
    (after.bond_close other reason).trans kept
  exact receive_induction handles closes (fun _ _ _ kept => kept) (fun _ _ kept => kept) rfl id
    outcome

/-- Whatever comes by itself, the bond stays. -/
theorem bond_attend {channel : Channel κ} (bound : channel.bond.Private) (traffic : Traffic κ) :
    (channel.attend traffic).bond = channel.bond := by
  cases traffic with
  | arrival socket =>
    unfold attend
    dsimp only
    split
    · exact channel.bond_accept socket
    · rfl
  | refusal error =>
    unfold attend
    dsimp only
    split
    · exact bond_closeRendezvous _
    · rfl
  | read id outcome => exact bond_receive bound id outcome
  | sweep => rfl
  | elapse kernel => rfl

end Channel
end ServiceChannel
