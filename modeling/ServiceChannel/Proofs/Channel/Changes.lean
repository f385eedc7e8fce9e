import ServiceChannel.Proofs.Channel.Phases
import ServiceChannel.Proofs.Channel.Walk

/-!
# What an act changes

An act exchanges a connectivity with the agent, ends a phase of bringing up, lets go of everything,
or leaves the ties of its engine alone.

- `Act.exchanged`: the connectivity that an act exchanges, in either direction.
- `Act.comparison?`: the answer of an act that compares the connectivity.
- `Ties.SameEngine`: what watchers that come and go leave alone.
- `Act.changes`: every act of a run does one of the four.
-/

namespace ServiceChannel

namespace Channel

variable {κ : Type} [Kernel κ]

/-- The connectivity, if sending it says that it was sent. -/
def sends? (channel : Channel κ) (connectivity : Connectivity) : Option Connectivity :=
  match (channel.sendConnectivity connectivity).1 with
  | .ok .sent => some connectivity
  | _ => none

/-- What comparing the connectivity sends: that of the container, if the engine remembers another
and sending it says that it was sent. -/
def pushes? (channel : Channel κ) : Option Connectivity :=
  channel.container.bind fun container =>
    if container.connectivity = channel.engine.connectivity then none
    else channel.sends? container.connectivity

end Channel

namespace Act

variable {κ : Type} [Kernel κ]

/-- The connectivity that an act exchanges with the agent. -/
def exchanged (act : Act κ) : Option Connectivity :=
  match act.deed with
  | .reported connectivity => some connectivity
  | .called (.sendConnectivity connectivity) => act.channel.sends? connectivity
  | .called .reconcile | .told => act.channel.pushes?
  | .called _ => none

/-- The answer of an act that compares the connectivity of the container with the one remembered:
whether it sent anything, or why sending failed. -/
def comparison? (act : Act κ) : Option (Except Error Bool) :=
  match act.deed with
  | .called .reconcile | .told => some act.channel.reconcile.1
  | _ => none

end Act

/-! ## Letting go of everything -/

/-- The ties are cut. -/
def Ties.cut (ties : Ties) : Ties :=
  { ties with
    rendezvous := .closed
    connection := none
    subscription := none
    registry := match ties.subscription with
      | some id => ties.registry.map (·.unregister id)
      | none => ties.registry }

/-- The ties are the same, but for the observers of the container. -/
structure Ties.SameEngine (before after : Ties) : Prop where
  config : after.config = before.config
  rendezvous : after.rendezvous = before.rendezvous
  connection : after.connection = before.connection
  accepted : after.accepted = before.accepted
  connectivity : after.connectivity = before.connectivity
  subscription : after.subscription = before.subscription

/-- The engine remembers a connectivity. -/
def Ties.remember (ties : Ties) (connectivity : Connectivity) : Ties :=
  { ties with connectivity := connectivity }

namespace Channel

variable {κ : Type}

theorem ties_releaseConnection (channel : Channel κ) :
    channel.releaseConnection.ties = channel.ties.vacate := by
  unfold releaseConnection
  split
  · rfl
  · rename_i empty
    simp [ties, holdings, Holdings.ties, Ties.vacate, empty]

theorem ties_closeRendezvous (channel : Channel κ) :
    channel.closeRendezvous.ties = { channel.ties with rendezvous := .closed } :=
  congrArg Holdings.ties channel.holdings_closeRendezvous

theorem ties_acceptFailed (channel : Channel κ) (error : SystemError) :
    (channel.acceptFailed error).ties = { channel.ties with rendezvous := .closed } :=
  ties_closeRendezvous _

theorem ties_unregister (channel : Channel κ) (id : ObserverId) :
    (channel.unregister id).ties =
      { channel.ties with registry := channel.ties.registry.map (·.unregister id) } := by
  unfold unregister onContainer ties holdings Holdings.ties
  cases channel.container <;> rfl

theorem ties_unsubscribe (channel : Channel κ) :
    channel.unsubscribe.ties =
      { channel.ties with
        subscription := none
        registry := match channel.ties.subscription with
          | some id => channel.ties.registry.map (·.unregister id)
          | none => channel.ties.registry } := by
  unfold unsubscribe
  split
  · rename_i id subscribed
    rw [ties_unregister]
    simp [ties, holdings, Holdings.ties, onEngine, subscribed]
  · rename_i free
    simp [ties, holdings, Holdings.ties, free]

theorem ties_cleanup (channel : Channel κ) : channel.cleanup.ties = channel.ties.cut := by
  unfold cleanup
  rw [ties_unsubscribe, ties_closeRendezvous, ties_releaseConnection]
  rfl

theorem ties_release (channel : Channel κ) : channel.release.ties = channel.ties.cut :=
  channel.ties_cleanup

/-- An engine that neither is connected nor observes anything only closes its rendezvous. -/
theorem cleanup_of_idle {channel : Channel κ} (unconnected : channel.engine.connection = none)
    (unobserving : channel.engine.subscription = none) :
    channel.cleanup = channel.closeRendezvous := by
  have first : channel.releaseConnection = channel := by
    rw [releaseConnection, unconnected]
  have still : channel.closeRendezvous.engine.subscription = none :=
    (congrArg (·.engine.subscription) channel.holdings_closeRendezvous).trans unobserving
  rw [cleanup, first, unsubscribe, still]

/-! ## Watchers -/

/-- A watcher joins under the next number, or the container takes none. -/
theorem watch_cases (channel : Channel κ) (name : String) (reaction : Reaction) :
    (channel.watch name reaction).2.ties = channel.ties ∨
    ∃ registry, channel.ties.registry = some registry ∧
      (channel.watch name reaction).2.ties =
        { channel.ties with
          registry := some (registry.register (.watcher name reaction))
          watchers := (name, registry.next) :: channel.ties.watchers.filter (·.1 ≠ name) } := by
  unfold watch
  obtain ⟨error, refused⟩ | ⟨container, there, registered⟩ :=
    channel.register_cases (.watcher name reaction)
  · rw [refused]
    exact .inl rfl
  · rw [registered]
    refine .inr ⟨container.observers, ?_, rfl⟩
    simp [ties, holdings, Holdings.ties, there]

/-- A watcher whose number is known leaves, or nothing happens. -/
theorem unwatch_cases (channel : Channel κ) (name : String) :
    (channel.unwatch name).ties = channel.ties ∨
    ∃ id, (name, id) ∈ channel.ties.watchers ∧
      (channel.unwatch name).ties =
        { channel.ties with registry := channel.ties.registry.map (·.unregister id) } := by
  unfold unwatch
  split
  · rename_i id known
    obtain ⟨front, back, split, -⟩ := List.lookup_eq_some_iff.1 known
    have mem : (name, id) ∈ channel.watchers := by simp [split]
    exact .inr ⟨id, mem, channel.ties_unregister id⟩
  · exact .inl rfl

/-- A watcher that joins leaves the engine alone. -/
theorem sameEngine_watch (channel : Channel κ) (name : String) (reaction : Reaction) :
    channel.ties.SameEngine (channel.watch name reaction).2.ties := by
  obtain same | ⟨registry, -, same⟩ := channel.watch_cases name reaction <;> rw [same] <;>
    exact ⟨rfl, rfl, rfl, rfl, rfl, rfl⟩

/-- So does one that leaves. -/
theorem sameEngine_unwatch (channel : Channel κ) (name : String) :
    channel.ties.SameEngine (channel.unwatch name).ties := by
  obtain same | ⟨id, -, same⟩ := channel.unwatch_cases name <;> rw [same] <;>
    exact ⟨rfl, rfl, rfl, rfl, rfl, rfl⟩

variable [Kernel κ]

/-! ## Comparing -/

/-- Sending a connectivity exchanges it, or leaves the ties alone. -/
theorem ties_sendConnectivity (channel : Channel κ) (connectivity : Connectivity) :
    (channel.sendConnectivity connectivity).2.ties =
      match channel.sends? connectivity with
      | some sent => channel.ties.remember sent
      | none => channel.ties := by
  unfold sends?
  obtain ⟨sent, held⟩ | ⟨error, failed, held⟩ := channel.sendConnectivity_cases connectivity
  · rw [sent]
    exact congrArg Holdings.ties held
  · rw [failed]
    exact ties_of_holdings held

theorem ties_reconcile (channel : Channel κ) :
    channel.reconcile.2.ties =
      match channel.pushes? with
      | some sent => channel.ties.remember sent
      | none => channel.ties := by
  unfold reconcile pushes?
  cases channel.container with
  | none => rfl
  | some container =>
    dsimp only [Option.bind_some]
    by_cases same : container.connectivity = channel.engine.connectivity
    · rw [if_pos same, bridge_of_eq same]
      rfl
    · rw [if_neg same, bridge_of_ne same]
      exact channel.ties_sendConnectivity container.connectivity

theorem reconcile_eq_bridge {channel : Channel κ} {container : Container}
    (there : channel.container = some container) :
    channel.reconcile = channel.bridge container.connectivity := by
  unfold reconcile
  rw [there]

/-- An engine that is told does as it does when it is asked to compare. -/
theorem told_eq_reconcile {channel : Channel κ} (alive : channel.container.isSome = true)
    (active : channel.engine.released = false) :
    (Act.after ⟨channel, .told⟩).holdings = channel.reconcile.2.holdings ∧
      (Act.after ⟨channel, .told⟩).kernel = channel.reconcile.2.kernel := by
  obtain ⟨container, there⟩ := Option.isSome_iff_exists.1 alive
  rw [reconcile_eq_bridge there]
  unfold Act.after
  rw [there]
  dsimp only
  rw [holdings_notifyEngine, kernel_notifyEngine, active]
  exact ⟨rfl, rfl⟩

/-- Comparing without a failure leaves the engine remembering the container's connectivity. What it
says that it sent, it sent. -/
theorem reconcile_ok {channel : Channel κ} {container : Container}
    (there : channel.container = some container) {pushed : Bool}
    (ok : channel.reconcile.1 = .ok pushed) :
    channel.reconcile.2.ties = channel.ties.remember container.connectivity ∧
      (pushed = true → channel.pushes? = some container.connectivity) := by
  rw [reconcile_eq_bridge there] at ok ⊢
  by_cases same : container.connectivity = channel.engine.connectivity
  · rw [bridge_of_eq same] at ok ⊢
    cases ok
    rw [same]
    exact ⟨rfl, nofun⟩
  · rw [bridge_of_ne same] at ok ⊢
    obtain ⟨sent, held⟩ | ⟨error, failed, -⟩ :=
      channel.sendConnectivity_cases container.connectivity
    · refine ⟨congrArg Holdings.ties held, fun _ => ?_⟩
      simp [pushes?, sends?, there, same, sent]
    · rw [failed] at ok
      cases ok

end Channel

/-- An act that compares does what comparing does, but for a line in the log. -/
theorem Act.of_comparison {κ : Type} [Kernel κ] {act : Act κ} (possible : act.Possible)
    {answer : Except Error Bool} (compares : act.comparison? = some answer) :
    answer = act.channel.reconcile.1 ∧ act.exchanged = act.channel.pushes? ∧
      act.after.holdings = act.channel.reconcile.2.holdings ∧
      act.after.kernel = act.channel.reconcile.2.kernel := by
  obtain ⟨channel, deed⟩ := act
  cases deed with
  | reported connectivity => cases compares
  | told =>
    cases compares
    exact ⟨rfl, rfl, Channel.told_eq_reconcile possible.1 possible.2⟩
  | called call =>
    cases call with
    | reconcile =>
      cases compares
      exact ⟨rfl, rfl, rfl, rfl⟩
    | _ => cases compares

/-! ## Changes -/

/-- The act is a phase of bringing up. -/
def Act.isPhase {κ : Type} (act : Act κ) : Bool :=
  match act.deed with
  | .called call => call.isPhase
  | _ => false

/-- What an act can do to the ties. -/
inductive Act.Changes {κ : Type} [Kernel κ] (act : Act κ) : Ties → Prop where
  | keeps (other : act.isPhase = false) (nothing : act.exchanged = none) :
    Changes act act.channel.ties
  | exchanges {connectivity : Connectivity} (other : act.isPhase = false)
    (exchanged : act.exchanged = some connectivity) :
    Changes act (act.channel.ties.remember connectivity)
  | phase {call : EngineCall} {result : Except Error Unit} {after : Holdings}
    (called : act.deed = .called call) (answered : (act.channel.call call).1 = .ofUnit result)
    (phased : act.channel.holdings.Phased call result after) (nothing : act.exchanged = none) :
    Changes act after.ties
  | cuts (other : act.isPhase = false) (nothing : act.exchanged = none) :
    Changes act act.channel.ties.cut

namespace Act

variable {κ : Type} [Kernel κ]

/-- An act that may exchange something does so, or leaves the ties alone. -/
theorem Changes.of_match {act : Act κ} {after : Ties} (other : act.isPhase = false)
    (same : after = match act.exchanged with
      | some sent => act.channel.ties.remember sent
      | none => act.channel.ties) : act.Changes after := by
  subst same
  split
  · rename_i exchanged
    exact .exchanges other exchanged
  · rename_i nothing
    exact .keeps other nothing

theorem changes {act : Act κ} (possible : act.Possible) : act.Changes act.after.ties := by
  obtain ⟨channel, deed⟩ := act
  cases deed with
  | reported connectivity => exact .exchanges rfl rfl
  | told =>
    refine .of_match rfl ?_
    rw [Channel.ties_of_holdings (Channel.told_eq_reconcile possible.1 possible.2).1]
    exact channel.ties_reconcile
  | called call =>
    have kept (same : (channel.call call).2.holdings = channel.holdings)
        (other : call.isPhase = false)
        (nothing : (⟨channel, .called call⟩ : Act κ).exchanged = none) :
        Changes ⟨channel, .called call⟩ (channel.call call).2.ties := by
      rw [Channel.ties_of_holdings same]
      exact .keeps other nothing
    have phase (isPhase : call.isPhase = true)
        (nothing : (⟨channel, .called call⟩ : Act κ).exchanged = none) :
        Changes ⟨channel, .called call⟩ (channel.call call).2.ties := by
      obtain ⟨result, answered, phased⟩ := channel.call_phased isPhase
      exact .phase rfl answered phased nothing
    cases call with
    | create => exact phase rfl rfl
    | bind => exact phase rfl rfl
    | listen => exact phase rfl rfl
    | cleanup =>
      have cut : Changes ⟨channel, .called .cleanup⟩ channel.ties.cut := .cuts rfl rfl
      rwa [← Channel.ties_cleanup] at cut
    | release =>
      have cut : Changes ⟨channel, .called .release⟩ channel.ties.cut := .cuts rfl rfl
      rwa [← Channel.ties_release] at cut
    | command command => exact kept (channel.holdings_sendCommand command) rfl rfl
    | sendName => exact kept channel.holdings_sendName rfl rfl
    | sendDns => exact kept channel.holdings_sendDns rfl rfl
    | sendRecord record => exact kept (channel.holdings_sendRecord record) rfl rfl
    | notifyStorage remaining => exact kept (channel.holdings_notifyStorage remaining) rfl rfl
    | sendConnectivity connectivity =>
      exact .of_match rfl (channel.ties_sendConnectivity connectivity)
    | reconcile => exact .of_match rfl channel.ties_reconcile
    -- A setting is no act: the acts are what its observers are told.
    | setConnectivity connectivity => exact possible.elim

/-- The engine remembers what an act exchanges. -/
theorem Changes.connectivity {act : Act κ} {after : Ties} (changes : act.Changes after) :
    after.connectivity = act.exchanged.getD act.channel.engine.connectivity := by
  cases changes with
  | keeps _ nothing => rw [nothing]; rfl
  | exchanges _ exchanged => rw [exchanged]; rfl
  | phase _ _ phased nothing =>
    rw [nothing]
    cases phased <;> rfl
  | cuts _ nothing => rw [nothing]; rfl

/-- No act opens a connection. -/
theorem Changes.connection {act : Act κ} {after : Ties} (changes : act.Changes after) :
    (after.connection = act.channel.engine.connection ∨ after.connection = none) ∧
      after.accepted = act.channel.engine.accepted := by
  cases changes with
  | keeps _ nothing => exact ⟨.inl rfl, rfl⟩
  | exchanges _ exchanged => exact ⟨.inl rfl, rfl⟩
  | phase _ _ phased nothing => cases phased <;> exact ⟨.inl rfl, rfl⟩
  | cuts _ nothing => exact ⟨.inr rfl, rfl⟩

end Act
end ServiceChannel
