import ServiceChannel.Proofs.Channel.Estate
import ServiceChannel.Proofs.Channel.Hosting

/-!
# Affairs

All that anyone can do with a standalone container, and all that can come to its engine: besides the
chores, the container is asked to do what otherwise only messages ask of it, its attributes are set,
and watchers come and go.

- `Affair`, `Channel.conduct`, `Channel.conductAll`: what is done.
- `Channel.StandsAlone`: the container is there, stands on its own, and allows programs or not.
- `Channel.StandsAlone.conduct`: so it is whatever is done.
-/

namespace ServiceChannel

/-- What anyone does with a standalone container, or what comes to its engine. -/
inductive Affair (κ : Type) where
  | chore (chore : Chore κ)
  | setState (state : Lifecycle)
  | setScreenOn (on : Bool)
  | identify (update : Identity)
  | exec (arguments : List String)
  | acknowledge (ack : Bytes)
  | watch (name : String) (reaction : Reaction)
  | unwatch (name : String)
  /-- Whether a stop was asked for is found out: a poll of `stop_requested`. -/
  | takeStopRequest

/-- The same with another kernel around the one that goes on. -/
def Affair.map {κ ι : Type} (wrap : κ → ι) : Affair κ → Affair ι
  | .chore done => .chore (done.map wrap)
  | .setState state => .setState state
  | .setScreenOn on => .setScreenOn on
  | .identify update => .identify update
  | .exec arguments => .exec arguments
  | .acknowledge ack => .acknowledge ack
  | .watch name reaction => .watch name reaction
  | .unwatch name => .unwatch name
  | .takeStopRequest => .takeStopRequest

namespace Container

/-- Whether a container that stands on its own allows programs; a recording one is not asked. -/
def permission? (container : Container) : Option Bool :=
  match container.role with
  | .recording _ => none
  | .standalone standalone => some standalone.allowExec

@[simp] theorem permission?_estate (container : Container) :
    container.estate.permission? = container.permission? := by
  obtain ⟨_, _, _, _, _, _, _, _ | _⟩ := container <;> rfl

@[simp] theorem permission?_halted (container : Container) (delivered : Bool) :
    (container.halted delivered).permission? = container.permission? := by
  obtain ⟨_, _, _, _, _, _, _, _ | _⟩ := container <;> rfl

@[simp] theorem permission?_wiped (container : Container) :
    container.wiped.permission? = container.permission? := by
  obtain ⟨_, _, _, _, _, _, _, _ | _⟩ := container <;> rfl

@[simp] theorem permission?_asked (container : Container) (arguments : List String) :
    (container.asked arguments).permission? = container.permission? := by
  obtain ⟨_, _, _, _, _, _, _, _ | _⟩ := container <;> rfl

@[simp] theorem permission?_acknowledged (container : Container) (ack : Bytes) :
    (container.acknowledged ack).permission? = container.permission? := by
  obtain ⟨_, _, _, _, _, _, _, _ | _⟩ := container <;> rfl

/-- No message makes another kind of container, or has it allow more. -/
@[simp] theorem permission?_obey (container : Container) (delivered : Bool)
    (message : AgentMessage) :
    (container.obey delivered message).permission? = container.permission? := by
  cases message with
  | shutdown =>
    unfold obey
    dsimp only
    split
    · rfl
    · exact container.permission?_halted delivered
  | masterClear => exact container.permission?_wiped
  | exec path params => exact container.permission?_asked (path :: params)
  | auditAck ack => exact container.permission?_acknowledged ack
  | _ => rfl

end Container

namespace Channel

variable {κ : Type}

/-- Only a read has anything done to the container. -/
theorem estate_attend [Kernel κ] (channel : Channel κ) {traffic : Traffic κ}
    (noRead : ∀ id outcome, traffic ≠ .read id outcome) :
    (channel.attend traffic).estate = channel.estate := by
  unfold attend
  cases traffic with
  | arrival socket =>
    dsimp only
    split
    · exact channel.estate_accept socket
    · rfl
  | refusal error =>
    dsimp only
    split
    · exact channel.estate_acceptFailed error
    · rfl
  | read id outcome => exact absurd rfl (noRead id outcome)
  | sweep => rfl
  | elapse kernel => rfl

/-- The container is there, stands on its own, and allows programs or not. -/
def StandsAlone (channel : Channel κ) (allowExec : Bool) : Prop :=
  channel.estate.map Container.permission? = some (some allowExec)

namespace StandsAlone

variable {channel after : Channel κ} {allowExec : Bool}

theorem container (alone : channel.StandsAlone allowExec) :
    ∃ container standalone, channel.container = some container ∧
      container.role = .standalone standalone ∧ standalone.allowExec = allowExec := by
  rw [StandsAlone, estate_eq, Option.map_map] at alone
  obtain ⟨container, there, permits⟩ := Option.map_eq_some_iff.1 alone
  rw [Function.comp, Container.permission?_estate] at permits
  cases role : container.role with
  | recording recording => simp [Container.permission?, role] at permits
  | standalone standalone =>
    simp only [Container.permission?, role, Option.some.injEq] at permits
    exact ⟨container, standalone, there, role, permits⟩

theorem of_estate (alone : channel.StandsAlone allowExec) (same : after.estate = channel.estate) :
    after.StandsAlone allowExec :=
  (congrArg _ same).trans alone

/-- A change of the estate that keeps what the container allows. -/
theorem of_map (alone : channel.StandsAlone allowExec) {change : Container → Container}
    (same : after.estate = channel.estate.map change)
    (keeps : ∀ container, (change container).permission? = container.permission?) :
    after.StandsAlone allowExec := by
  rw [StandsAlone, same, Option.map_map, ← alone]
  exact congrArg (channel.estate.map ·) (funext keeps)

theorem setState (alone : channel.StandsAlone allowExec) (state : Lifecycle) :
    (channel.setState state).StandsAlone allowExec :=
  alone.of_map (channel.estate_setState state) fun _ => rfl

theorem endFinish (alone : channel.StandsAlone allowExec) :
    channel.endFinish.StandsAlone allowExec := by
  unfold Channel.endFinish
  dsimp only
  split
  · exact alone.setState .stopped
  · exact (alone.of_estate channel.estate_release).setState .stopped

theorem takeStopRequest (alone : channel.StandsAlone allowExec) :
    channel.takeStopRequest.2.StandsAlone allowExec := by
  obtain ⟨container, standalone, there, role, rfl⟩ := alone.container
  unfold Channel.takeStopRequest
  rw [there]
  dsimp only
  rw [role]
  rfl

variable [Kernel κ]

theorem handle (alone : channel.StandsAlone allowExec) (message : AgentMessage) :
    (channel.handle message).StandsAlone allowExec :=
  alone.of_map (channel.estate_handle message) fun container => container.permission?_obey _ _

theorem handlePayload (alone : channel.StandsAlone allowExec) (payload : Bytes) :
    (channel.handlePayload payload).2.StandsAlone allowExec := by
  unfold Channel.handlePayload
  split
  · exact alone.handle _
  · split <;> exact alone

theorem attend (alone : channel.StandsAlone allowExec) (traffic : Traffic κ) :
    (channel.attend traffic).StandsAlone allowExec := by
  cases traffic with
  | read id outcome =>
    have handles (after : Channel κ) (payload : Bytes) (alone : after.StandsAlone allowExec) :
        (after.handlePayload payload).2.StandsAlone allowExec := alone.handlePayload payload
    have closes (after : Channel κ) (other : Nat) (reason : Teardown)
        (alone : after.StandsAlone allowExec) : (after.close other reason).StandsAlone allowExec :=
      alone.of_estate (after.estate_close other reason)
    exact receive_induction handles closes (fun _ _ _ alone => alone) (fun _ _ alone => alone) alone
      id outcome
  | _ => exact alone.of_estate (channel.estate_attend nofun)

end StandsAlone

variable [Kernel κ]

/-! ## Starting -/

theorem estate_bringUp (channel : Channel κ) : channel.bringUp.2.estate = channel.estate := by
  obtain ⟨error, -, moved⟩ | ⟨-, between, container, moved, there, held⟩ := channel.bringUp_cases
  · exact congrArg (·.map Container.estate) moved.container
  · refine (congrArg Holdings.estate held).trans ?_
    rw [estate_eq, there]
    rfl

/-- A start is refused while there is an engine; any other leaves the container booting, or stopped
if the engine does not come up. -/
theorem estate_start (channel : Channel κ) (config : Config) :
    (channel.start config).2.estate =
      if channel.engine.released then channel.estate.map fun container =>
        { container with state := if (channel.start config).1.isOk then .booting else .stopped }
      else channel.estate := by
  cases released : channel.engine.released with
  | false => rw [start_of_active released]; rfl
  | true =>
    have brought := (channel.begun config).estate_bringUp
    have begun : (channel.begun config).estate =
        channel.estate.map fun container => { container with state := .starting } :=
      channel.estate_setState .starting
    have moves (state : Lifecycle) :
        (channel.begun config).estate.map (fun container => { container with state := state }) =
          channel.estate.map fun container => { container with state := state } := by
      rw [begun, Option.map_map]
      rfl
    cases done : (channel.begun config).bringUp with
    | mk result after =>
      rw [done] at brought
      cases result with
      | error error =>
        rw [start_of_failed released done, estate_setState, estate_release, brought]
        exact moves .stopped
      | ok _ =>
        rw [start_of_done released done, estate_setState, estate_record, brought]
        exact moves .booting

/-! ## Affairs -/

/-- Does what is to be done. -/
def conduct (channel : Channel κ) : Affair κ → Channel κ
  | .chore chore => channel.undertake chore
  | .setState state => channel.setState state
  | .setScreenOn on => channel.setScreenOn on
  | .identify update => channel.applyIdentity update
  | .exec arguments => (channel.exec arguments).2
  | .acknowledge ack => channel.acknowledgeAudit ack
  | .watch name reaction => (channel.watch name reaction).2
  | .unwatch name => channel.unwatch name
  | .takeStopRequest => channel.takeStopRequest.2

/-- Does it all, one after the other. -/
def conductAll (channel : Channel κ) (affairs : List (Affair κ)) : Channel κ :=
  affairs.foldl conduct channel

theorem StandsAlone.undertake {channel : Channel κ} {allowExec : Bool}
    (alone : channel.StandsAlone allowExec) (chore : Chore κ) :
    (channel.undertake chore).StandsAlone allowExec := by
  cases chore with
  | start config =>
    have started := channel.estate_start config
    cases released : channel.engine.released with
    | false =>
      rw [released] at started
      exact alone.of_estate started
    | true =>
      rw [released] at started
      exact alone.of_map started fun _ => rfl
  | stop => exact alone.of_map channel.estate_stopContainer fun container => by simp
  | setConnectivity connectivity =>
    exact alone.of_estate (channel.estate_setConnectivity connectivity)
  | wipe => exact alone.of_map channel.estate_wipe fun container => by simp
  | beginFinish => exact alone.of_estate (estate_of_holdings channel.holdings_beginFinish)
  | endFinish => exact alone.endFinish
  | traffic traffic => exact alone.attend traffic

theorem StandsAlone.conduct {channel : Channel κ} {allowExec : Bool}
    (alone : channel.StandsAlone allowExec) (affair : Affair κ) :
    (channel.conduct affair).StandsAlone allowExec := by
  cases affair with
  | chore chore => exact alone.undertake chore
  | setState state => exact alone.setState state
  | setScreenOn on => exact alone.of_map (channel.estate_setScreenOn on) fun _ => rfl
  | identify update => exact alone.of_map (channel.estate_applyIdentity update) fun _ => rfl
  | exec arguments =>
    exact alone.of_map (channel.estate_exec arguments) fun container => by simp
  | acknowledge ack =>
    exact alone.of_map (channel.estate_acknowledgeAudit ack) fun container => by simp
  | watch name reaction => exact alone.of_estate (channel.estate_watch name reaction)
  | unwatch name => exact alone.of_estate (channel.estate_unwatch name)
  | takeStopRequest => exact alone.takeStopRequest

omit [Kernel κ] in
theorem standsAlone_unstarted (kernel : κ) (config : Config) (name : String)
    (dnsServer : Option String) (allowExec : Bool) :
    (unstarted kernel config name dnsServer allowExec).StandsAlone allowExec := rfl

end Channel
end ServiceChannel
