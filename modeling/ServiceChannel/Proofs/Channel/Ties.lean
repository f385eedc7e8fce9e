import ServiceChannel.Proofs.Channel.Moorings

/-!
# Ties

What ties an engine to its agents and to its container: the rendezvous, the open connection, the
connectivity it remembers, and the observers that its container has, with the configuration that
they are made by. Acting on the container in any other way leaves them alone.

- `Ties`: these parts of a channel.
- `Quiet`: a change that touches none of them, unless it takes the open connection out.
-/

namespace ServiceChannel

/-- What ties an engine to its agents and to its container. -/
structure Ties where
  /-- What they are made by; it never changes. -/
  config : Config
  rendezvous : Rendezvous
  connection : Option Connection
  /-- How many connections were accepted. -/
  accepted : Nat
  /-- The connectivity that the engine remembers. -/
  connectivity : Connectivity
  subscription : Option ObserverId
  /-- The observers of the container, while it is there. -/
  registry : Option Registry
  /-- The numbers that watchers registered under their names. -/
  watchers : List (String × ObserverId)

/-- The ties of what is held. -/
def Holdings.ties (holdings : Holdings) : Ties where
  config := holdings.engine.config
  rendezvous := holdings.engine.rendezvous
  connection := holdings.engine.connection
  accepted := holdings.engine.accepted
  connectivity := holdings.engine.connectivity
  subscription := holdings.engine.subscription
  registry := holdings.container.map (·.observers)
  watchers := holdings.watchers

/-- The ties of moorings. -/
def Moorings.ties (moorings : Moorings) : Ties where
  config := moorings.engine.config
  rendezvous := moorings.engine.rendezvous
  connection := moorings.engine.connection
  accepted := moorings.engine.accepted
  connectivity := moorings.engine.connectivity
  subscription := moorings.engine.subscription
  registry := moorings.home.map (·.observers)
  watchers := moorings.watchers

/-- The open connection is taken out. -/
def Ties.vacate (ties : Ties) : Ties := { ties with connection := none }

namespace Channel

variable {κ : Type}

/-- What ties the engine. -/
def ties (channel : Channel κ) : Ties := channel.holdings.ties

theorem ties_of_holdings {before after : Channel κ} (same : after.holdings = before.holdings) :
    after.ties = before.ties :=
  congrArg Holdings.ties same

/-! ## Parts of the state -/

@[simp] theorem ties_record (channel : Channel κ) (event : Event) :
    (channel.record event).ties = channel.ties := rfl

@[simp] theorem ties_closeRetired [Kernel κ] (channel : Channel κ) :
    channel.closeRetired.ties = channel.ties := rfl

/-- A connection that arrives takes the place of the open one, under the next number. -/
theorem ties_accept (channel : Channel κ) (socket : Handle) :
    (channel.accept socket).ties =
      { channel.ties with
        connection := some ⟨channel.engine.accepted + 1, socket⟩
        accepted := channel.engine.accepted + 1 } := by
  unfold accept
  cases channel.engine.connection <;> rfl

/-! ## Acting on the container -/

theorem ties_eq_moorings (channel : Channel κ) : channel.ties = channel.moorings.ties := by
  unfold ties moorings holdings Holdings.ties Holdings.moorings Moorings.ties
  cases channel.container <;> rfl

/-- What leaves the moorings alone leaves the ties alone. -/
theorem ties_of_moorings {before after : Channel κ} (same : after.moorings = before.moorings) :
    after.ties = before.ties := by
  rw [ties_eq_moorings, ties_eq_moorings, same]

@[simp] theorem ties_storeConnectivity (channel : Channel κ) (connectivity : Connectivity) :
    (channel.storeConnectivity connectivity).ties = channel.ties :=
  ties_of_moorings (channel.moorings_storeConnectivity connectivity)

@[simp] theorem ties_setState (channel : Channel κ) (state : Lifecycle) :
    (channel.setState state).ties = channel.ties :=
  ties_of_moorings (channel.moorings_setState state)

@[simp] theorem ties_setScreenOn (channel : Channel κ) (on : Bool) :
    (channel.setScreenOn on).ties = channel.ties :=
  ties_of_moorings (channel.moorings_setScreenOn on)

@[simp] theorem ties_applyIdentity (channel : Channel κ) (update : Identity) :
    (channel.applyIdentity update).ties = channel.ties :=
  ties_of_moorings (channel.moorings_applyIdentity update)

@[simp] theorem ties_requestStop (channel : Channel κ) :
    channel.requestStop.ties = channel.ties :=
  ties_of_moorings channel.moorings_requestStop

@[simp] theorem ties_wipe (channel : Channel κ) : channel.wipe.ties = channel.ties :=
  ties_of_moorings channel.moorings_wipe

@[simp] theorem ties_acknowledgeAudit (channel : Channel κ) (ack : Bytes) :
    (channel.acknowledgeAudit ack).ties = channel.ties :=
  ties_of_moorings (channel.moorings_acknowledgeAudit ack)

@[simp] theorem ties_exec [Kernel κ] (channel : Channel κ) (arguments : List String) :
    (channel.exec arguments).2.ties = channel.ties :=
  ties_of_moorings (channel.moorings_exec arguments)

end Channel

/-! ## Quiet changes -/

/-- Nothing that ties the engine changes, but the open connection may be taken out. -/
def Quiet {κ : Type} (before after : Channel κ) : Prop :=
  after.ties = before.ties ∨ after.ties = before.ties.vacate

namespace Quiet

variable {κ : Type} {before after : Channel κ}

theorem of_eq (same : after.ties = before.ties) : Quiet before after := .inl same

theorem of_holdings (same : after.holdings = before.holdings) : Quiet before after :=
  .inl (Channel.ties_of_holdings same)

theorem close (channel : Channel κ) (id : Nat) (reason : Teardown) :
    Quiet channel (channel.close id reason) := by
  unfold Channel.close
  split
  · exact .of_eq rfl
  · split
    · exact .inr rfl
    · exact .of_eq rfl

end Quiet
end ServiceChannel
