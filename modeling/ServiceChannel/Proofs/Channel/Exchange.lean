import ServiceChannel.Proofs.Channel.Changes
import ServiceChannel.Proofs.Channel.Outbound

/-!
# The remembered connectivity

An engine remembers the connectivity that was last exchanged with its agent, in either direction.
What it pushes differs from that, so a report of the agent does not come back to it, and a push that
failed is tried again.

- `lastExchanged`: the last connectivity that acts exchanged.
- `Compared`: what comparing the connectivity with the container's does to the agent.
- `Unechoed`: what a report does when nobody else observes the container.
- `remembers_last_exchange`: all of it, in every run.
-/

namespace ServiceChannel

/-! ## What was exchanged -/

section Exchanges

variable {κ : Type} [Kernel κ]

/-- The connectivities that acts exchanged, the oldest first. -/
def exchanges (acts : List (Act κ)) : List Connectivity := acts.filterMap Act.exchanged

/-- The connectivity that acts exchanged last; offline before the first. -/
def lastExchanged (acts : List (Act κ)) : Connectivity := (exchanges acts).getLast?.getD .offline

theorem lastExchanged_append (acts : List (Act κ)) (act : Act κ) :
    lastExchanged (acts ++ [act]) = act.exchanged.getD (lastExchanged acts) := by
  unfold lastExchanged exchanges
  rw [List.filterMap_append]
  cases exchanged : act.exchanged <;> simp [exchanged]

end Exchanges

namespace Channel

variable {κ : Type}

/-! ## Comparing -/

/-- What comparing sent, by its answer. -/
def pushedBy (answer : Except Error Bool) (connectivity : Connectivity) : Option HostMessage :=
  match answer with
  | .ok true => some (.connectivityChange connectivity)
  | _ => none

variable [Kernel κ]

/-- What comparing the connectivity with the container's comes to. -/
structure Compared (before : Channel (Tapped κ)) (container : Container)
    (answer : Except Error Bool) (after : Channel (Tapped κ)) : Prop where
  /-- A frame with the container's connectivity is written exactly when the answer is yes. -/
  written : ∀ connection, before.engine.connection = some connection →
    Posted before.engine.config.maxMessageSize (before.kernel.written connection.socket)
      (pushedBy answer container.connectivity) (after.kernel.written connection.socket)
  unconnected : before.engine.connection = none →
    answer ≠ .ok true ∧ after.kernel = before.kernel
  /-- What is pushed differs from what is remembered. -/
  differs : answer = .ok true → container.connectivity ≠ before.engine.connectivity
  silent : answer = .ok false →
    container.connectivity = before.engine.connectivity ∧ after.kernel = before.kernel
  /-- A push that failed is not remembered, and comparing once more sends once more. -/
  retries : ∀ error, answer = .error error →
    after.engine.connectivity = before.engine.connectivity ∧
      after.reconcile.1 =
        (after.sendConnectivity container.connectivity).1.map fun _ => true

/-- Without a connection nothing is sent, and the kernel is not asked. -/
theorem sendConnectivity_of_unconnected {channel : Channel κ}
    (unconnected : channel.engine.connection = none) (connectivity : Connectivity) :
    (channel.sendConnectivity connectivity).1 ≠ .ok .sent ∧
      (channel.sendConnectivity connectivity).2.kernel = channel.kernel := by
  let recorded := channel.record (.sendingConnectivity connectivity)
  have alone : recorded.engine.connection = none := unconnected
  unfold sendConnectivity sendMessage sendPayload
  rw [alone]
  -- The frame comes first: one that is too long is refused before the connection is missed.
  cases Frame.encode recorded.engine.config.maxMessageSize
      (HostMessage.connectivityChange connectivity).encode with
  | error error => exact ⟨nofun, rfl⟩
  | ok frame => exact ⟨nofun, rfl⟩

/-- Sending a connectivity leaves its frame behind what was written, or says that it did not. -/
theorem sendConnectivity_posted {channel : Channel (Tapped κ)} {connection : Connection}
    (current : channel.engine.connection = some connection) (connectivity : Connectivity) :
    Posted channel.engine.config.maxMessageSize (channel.kernel.written connection.socket)
      (pushedBy ((channel.sendConnectivity connectivity).1.map fun _ => true) connectivity)
      ((channel.sendConnectivity connectivity).2.kernel.written connection.socket) := by
  have posted := post_posted current (.connectivity connectivity)
  have same : (channel.post (.connectivity connectivity)).1 =
      pushedBy ((channel.sendConnectivity connectivity).1.map fun _ => true) connectivity := by
    obtain ⟨sent, -⟩ | ⟨error, failed, -⟩ := channel.sendConnectivity_cases connectivity
    · simp only [post, call, Posting.call, sent, Answer.ofDelivery, sentBy, Posting.message?,
        Except.map, pushedBy]
    · simp only [post, call, Posting.call, failed, Answer.ofDelivery, sentBy, Except.map, pushedBy]
  rwa [same] at posted

/-- Comparing comes to this, also when a failure is logged behind it. -/
theorem reconcile_compared {channel after : Channel (Tapped κ)} {container : Container}
    (there : channel.container = some container)
    (held : after.holdings = channel.reconcile.2.holdings)
    (kernel : after.kernel = channel.reconcile.2.kernel) :
    channel.Compared container channel.reconcile.1 after := by
  rw [reconcile_eq_bridge there] at held kernel ⊢
  by_cases same : container.connectivity = channel.engine.connectivity
  · rw [bridge_of_eq same] at held kernel ⊢
    have kernel : after.kernel = channel.kernel := kernel
    refine ⟨fun connection _ => ?_, fun _ => ⟨by simp, kernel⟩, by simp, fun _ => ⟨same, kernel⟩,
      by simp⟩
    rw [kernel]
    exact .unsent
  · rw [bridge_of_ne same] at held kernel ⊢
    dsimp only at held kernel ⊢
    have written (connection : Connection) (current : channel.engine.connection = some connection) :
        Posted channel.engine.config.maxMessageSize (channel.kernel.written connection.socket)
          (pushedBy ((channel.sendConnectivity container.connectivity).1.map fun _ => true)
            container.connectivity) (after.kernel.written connection.socket) := by
      rw [kernel]
      exact sendConnectivity_posted current container.connectivity
    obtain ⟨sent, -⟩ | ⟨error, failed, kept⟩ :=
      channel.sendConnectivity_cases container.connectivity
    · refine ⟨written, fun unconnected => ?_, fun _ => same, ?_, ?_⟩
      · exact absurd sent (sendConnectivity_of_unconnected unconnected _).1
      · rw [sent]
        nofun
      · rw [sent]
        nofun
    · -- Nothing but the kernel and the log went on, so comparing finds the difference again.
      have unchanged := held.trans kept
      have remembered : after.engine.connectivity = channel.engine.connectivity :=
        congrArg (·.engine.connectivity) unchanged
      have stays : after.container = some container :=
        (congrArg Holdings.container unchanged).trans there
      refine ⟨written, fun unconnected => ⟨?_, ?_⟩, fun _ => same, ?_, fun _ _ => ⟨remembered, ?_⟩⟩
      · rw [failed]
        nofun
      · exact kernel.trans (sendConnectivity_of_unconnected unconnected _).2
      · rw [failed]
        nofun
      · rw [reconcile_eq_bridge stays, bridge_of_ne (by rwa [remembered])]

end Channel

/-- An act that compares does what comparing comes to. -/
theorem Act.compared {κ : Type} [Kernel κ] {act : Act (Tapped κ)} (possible : act.Possible)
    {answer : Except Error Bool} (compares : act.comparison? = some answer)
    {container : Container} (there : act.channel.container = some container) :
    act.channel.Compared container answer act.after := by
  obtain ⟨rfl, -, held, kernel⟩ := Act.of_comparison possible compares
  exact Channel.reconcile_compared there held kernel

/-! ## Reports -/

namespace Channel

variable {κ : Type} [Kernel κ]

/-- Nobody but engines observes the container. -/
def Unwatched (channel : Channel κ) : Prop := ∀ entry ∈ channel.audience, entry.2 = .bridge

/-- What the report of a connectivity does: it is taken over, every observer is told, and nothing is
sent back. -/
structure Unechoed (channel : Channel κ) (connectivity : Connectivity) : Prop where
  kernel : (channel.handle (.connectivityChange connectivity)).kernel = channel.kernel
  engine : (channel.handle (.connectivityChange connectivity)).engine.connectivity = connectivity
  container : (channel.handle (.connectivityChange connectivity)).container.map (·.connectivity) =
    some connectivity
  told : channel.engine.released = false → ∃ notifications,
    channel.actsOfMessage (.connectivityChange connectivity) =
      ⟨channel, .reported connectivity⟩ :: notifications ∧
    notifications.length = channel.audience.length ∧
    ∀ act ∈ notifications, act.deed = .told ∧ act.comparison? = some (.ok false)

/-- An engine that remembers the container's connectivity has nothing to do when it is told. -/
theorem tell_inSync {channel : Channel κ} {container : Container}
    (there : channel.container = some container)
    (same : container.connectivity = channel.engine.connectivity) (depth : Nat) (id : ObserverId) :
    tell depth channel (id, .bridge) = channel ∨
      tell depth channel (id, .bridge) =
        channel.record (.connectivityInSync container.connectivity) := by
  unfold tell notifyEngine
  rw [there]
  dsimp only
  split
  · exact .inl rfl
  · rw [bridge_of_eq same]
    exact .inr rfl

/-- An engine that remembers the container's connectivity is told and has nothing to send. -/
theorem actsOfTelling_inSync {channel : Channel κ} {container : Container}
    (there : channel.container = some container)
    (same : container.connectivity = channel.engine.connectivity)
    (active : channel.engine.released = false) (inside : Channel κ → Connectivity → List (Act κ))
    (id : ObserverId) :
    actsOfTelling inside channel (id, .bridge) = [⟨channel, .told⟩] ∧
      (⟨channel, .told⟩ : Act κ).comparison? = some (.ok false) := by
  constructor
  · unfold actsOfTelling
    rw [there]
    dsimp only
    rw [active]
    rfl
  · dsimp only [Act.comparison?]
    rw [reconcile_eq_bridge there, bridge_of_eq same]

/-- As long as the engine remembers the container's connectivity, telling all observers changes
nothing, and each is told once. -/
theorem tellAll_inSync {channel : Channel κ} {container : Container}
    (there : channel.container = some container)
    (same : container.connectivity = channel.engine.connectivity)
    {entries : List (ObserverId × Observer)} (bridges : ∀ entry ∈ entries, entry.2 = .bridge)
    (inside : Channel κ → Connectivity → List (Act κ)) (depth : Nat) :
    let after := entries.foldl (tell depth) channel
    let acts := actsAlong (actsOfTelling inside) (tell depth) channel entries
    (after.holdings = channel.holdings ∧ after.kernel = channel.kernel) ∧
      (channel.engine.released = false → acts.length = entries.length ∧
        ∀ act ∈ acts, act.deed = .told ∧ act.comparison? = some (.ok false)) := by
  induction entries generalizing channel with
  | nil => exact ⟨⟨rfl, rfl⟩, fun _ => ⟨rfl, by simp [actsAlong]⟩⟩
  | cons entry entries ih =>
    obtain ⟨id, observer⟩ := entry
    obtain rfl : observer = .bridge := bridges _ List.mem_cons_self
    have rest : ∀ entry ∈ entries, entry.2 = .bridge :=
      fun entry mem => bridges entry (List.mem_cons_of_mem _ mem)
    -- Being told leaves a line in the log at most.
    have silent : (tell depth channel (id, .bridge)).holdings = channel.holdings ∧
        (tell depth channel (id, .bridge)).kernel = channel.kernel := by
      obtain told | told := tell_inSync there same depth id <;> rw [told] <;> exact ⟨rfl, rfl⟩
    obtain ⟨⟨held, kernel⟩, told⟩ := ih
      ((congrArg Holdings.container silent.1).trans there)
      (same.trans (congrArg (·.engine.connectivity) silent.1).symm) rest
    refine ⟨⟨held.trans silent.1, kernel.trans silent.2⟩, fun active => ?_⟩
    obtain ⟨first, answer⟩ := actsOfTelling_inSync there same active inside id
    obtain ⟨count, all⟩ := told ((congrArg (·.engine.released) silent.1).trans active)
    rw [actsAlong, first]
    refine ⟨by simp [count], ?_⟩
    simpa [answer] using all

/-- A report is remembered and stored with the container, before the observers are told. -/
theorem handle_report {channel : Channel κ} (alive : channel.container.isSome = true)
    (connectivity : Connectivity) :
    ∃ (stored : Channel κ) (depth : Nat),
      stored.holdings = { channel.holdings with
        engine := { channel.engine with connectivity := connectivity }
        container := channel.container.map fun container =>
          { container with connectivity := connectivity } } ∧
      stored.kernel = channel.kernel ∧
      channel.handle (.connectivityChange connectivity) =
        channel.audience.foldl (tell depth) stored ∧
      channel.actsOfMessage (.connectivityChange connectivity) =
        ⟨channel, .reported connectivity⟩ ::
          actsAlong (actsOfTelling (actsOfSetting depth)) (tell depth) stored channel.audience := by
  obtain ⟨container, there⟩ := Option.isSome_iff_exists.1 alive
  let report : Act κ := ⟨channel, .reported connectivity⟩
  obtain ⟨depth, deep⟩ : ∃ depth, report.after.notificationDepth = depth + 1 := ⟨_, rfl⟩
  refine ⟨report.after.storeConnectivity connectivity, depth, ?_, ?_, ?_, ?_⟩
  · exact report.after.holdings_storeConnectivity connectivity
  · exact report.after.kernel_storeConnectivity connectivity
  · rw [handle_connectivityChange alive, setConnectivity, deep]
    rfl
  · unfold actsOfMessage
    rw [there]
    dsimp only [actsOfCall]
    rw [deep]
    rfl

/-- A report that nobody but the engine hears of changes nothing else. -/
theorem holdings_handle_report {channel : Channel κ} (alive : channel.container.isSome = true)
    (unwatched : channel.Unwatched) (connectivity : Connectivity) :
    (channel.handle (.connectivityChange connectivity)).holdings = { channel.holdings with
      engine := { channel.engine with connectivity := connectivity }
      container := channel.container.map fun container =>
        { container with connectivity := connectivity } } ∧
      (channel.handle (.connectivityChange connectivity)).kernel = channel.kernel := by
  obtain ⟨container, there⟩ := Option.isSome_iff_exists.1 alive
  obtain ⟨stored, depth, held, kernel, handled, -⟩ := handle_report alive connectivity
  have storedThere : stored.container = some { container with connectivity := connectivity } :=
    (congrArg Holdings.container held).trans (by simp only [there, Option.map_some])
  have remembered : stored.engine.connectivity = connectivity :=
    congrArg (·.engine.connectivity) held
  have told := (tellAll_inSync storedThere remembered.symm unwatched (actsOfSetting depth) depth).1
  rw [handled]
  exact ⟨told.1.trans held, told.2.trans kernel⟩

/-- A report that nobody but the engine hears of is not sent back. -/
theorem handle_unechoed {channel : Channel κ} (alive : channel.container.isSome = true)
    (unwatched : channel.Unwatched) (connectivity : Connectivity) :
    channel.Unechoed connectivity := by
  obtain ⟨container, there⟩ := Option.isSome_iff_exists.1 alive
  obtain ⟨same, silent⟩ := holdings_handle_report alive unwatched connectivity
  refine ⟨silent, congrArg (·.engine.connectivity) same, ?_, fun active => ?_⟩
  · rw [show (channel.handle (.connectivityChange connectivity)).container = _ from
      congrArg Holdings.container same, there]
    rfl
  · -- When the first observer is told, the container has the connectivity, and so has the engine.
    obtain ⟨stored, depth, held, -, -, acts⟩ := handle_report alive connectivity
    have storedThere : stored.container = some { container with connectivity := connectivity } :=
      (congrArg Holdings.container held).trans (by simp only [there, Option.map_some])
    have remembered : stored.engine.connectivity = connectivity :=
      congrArg (·.engine.connectivity) held
    have released : stored.engine.released = false :=
      (congrArg (·.engine.released) held).trans active
    obtain ⟨count, all⟩ :=
      (tellAll_inSync storedThere remembered.symm unwatched (actsOfSetting depth) depth).2 released
    exact ⟨_, acts, count, all⟩

end Channel

/-! ## In every run -/

section Runs

variable {κ : Type} [Kernel κ]

/-- What comes from outside leaves the engine's memory alone. -/
theorem connectivity_step_outside {channel : Channel κ} {input : Input κ}
    (outside : input.isOutside = true) :
    (channel.step input).engine.connectivity = channel.engine.connectivity := by
  cases input with
  | accept socket => exact congrArg Ties.connectivity (channel.ties_accept socket)
  | acceptFailed error => exact congrArg Ties.connectivity (channel.ties_acceptFailed error)
  | container container => rfl
  | _ => cases outside

/-- The engine remembers the connectivity that was exchanged last. -/
theorem remembers_kept (allowed : Channel κ → Input κ → Prop) :
    Kept allowed fun past channel => channel.engine.connectivity = lastExchanged past where
  quiet past before after quiet remembers := by
    refine Eq.trans ?_ remembers
    obtain same | same := quiet <;> exact congrArg Ties.connectivity same
  watch past channel name reaction remembers :=
    (channel.sameEngine_watch name reaction).connectivity.trans remembers
  unwatch past channel name remembers :=
    (channel.sameEngine_unwatch name).connectivity.trans remembers
  outside past channel input outside _ remembers :=
    (connectivity_step_outside outside).trans remembers
  act past act possible remembers := by
    rw [lastExchanged_append, ← remembers]
    exact (Act.changes possible).connectivity

end Runs

/-- In every run of an engine:
at every moment it remembers the connectivity that was exchanged last, offline before the first;
a report, while only engines observe the container, is taken over by both sides and makes every
observer be told, and nothing is sent back;
and comparing the connectivity sends the container's, as a whole frame, exactly when it says so.
What it sends differs from what was exchanged last, and what it fails to send is tried again. -/
theorem remembers_last_exchange {κ : Type} [Kernel κ] (kernel : κ) (config : Config)
    (container : Option Container) (inputs : List (Input (Tapped κ))) :
    let start := Channel.fresh (⟨kernel, []⟩ : Tapped κ) config container
    (start.run inputs).engine.connectivity = lastExchanged (start.acts inputs) ∧
    ∀ before act after, start.acts inputs = before ++ act :: after →
      act.channel.engine.connectivity = lastExchanged before ∧
      (∀ connectivity, act.deed = .reported connectivity → act.channel.Unwatched →
        act.channel.Unechoed connectivity) ∧
      ∀ container answer, act.channel.container = some container →
        act.comparison? = some answer → act.channel.Compared container answer act.after := by
  intro start
  have walk := Channel.run_walk (start.admits_all inputs)
  obtain ⟨last, each⟩ := walk.invariant (remembers_kept _) rfl
  refine ⟨last, fun before act after split => ?_⟩
  obtain ⟨possible, remembers⟩ := each before act after split
  refine ⟨remembers, fun connectivity reported unwatched => ?_,
    fun container answer there compares => Act.compared possible compares there⟩
  have alive : act.channel.container.isSome = true := by
    rw [Act.Possible, reported] at possible
    exact possible
  exact Channel.handle_unechoed alive unwatched connectivity

/-- An agent reports the mobile uplink while the engine observes the container: the engine remembers
the report, finds itself in line when it is told, and sends nothing back. -/
theorem remembers_report :
    let start := Channel.fresh (⟨⟨[]⟩, []⟩ : Tapped Script) {} (some .recording)
    let report := Frame.frame (AgentMessage.connectivityChange .mobileOnly).encode
    let inputs : List (Input (Tapped Script)) := [.call .create, .call .bind, .call .listen,
      .accept 7, .read 1 (.data report)]
    ((start.run inputs).engine.connectivity = .mobileOnly ∧
      (start.run inputs).kernel.written 7 = []) ∧
    ∃ opening reported told container, start.acts inputs = opening ++ [reported, told] ∧
      (reported.deed = .reported .mobileOnly ∧ reported.channel.Unwatched) ∧
      reported.channel.Unechoed .mobileOnly ∧
      (told.channel.container = some container ∧ told.comparison? = some (.ok false)) ∧
      told.channel.Compared container (.ok false) told.after := by
  intro start report inputs
  obtain ⟨last, each⟩ := remembers_last_exchange (⟨[]⟩ : Script) {} (some .recording) inputs
  have deeds : (start.acts inputs).map Act.deed =
      [.called .create, .called .bind, .called .listen] ++ [.reported .mobileOnly, .told] := by
    decide +kernel
  have unwatched : ∀ act ∈ start.acts inputs, act.channel.Unwatched := by
    unfold Channel.Unwatched
    decide +kernel
  have inSync : ∀ act ∈ start.acts inputs, act.deed = .told →
      act.channel.container.isSome = true ∧ act.comparison? = some (.ok false) := by
    decide +kernel
  have exchanged : exchanges (start.acts inputs) = [.mobileOnly] := by decide +kernel
  refine ⟨⟨last.trans ?_, by decide +kernel⟩, ?_⟩
  · unfold lastExchanged
    rw [exchanged]
    rfl
  · obtain ⟨opening, rest, acts, -, deeds⟩ := List.map_eq_append_iff.1 deeds
    obtain ⟨reported, rest, rfl, reports, deeds⟩ := List.map_eq_cons_iff.1 deeds
    obtain ⟨told, rest, rfl, tells, deeds⟩ := List.map_eq_cons_iff.1 deeds
    obtain rfl := List.map_eq_nil_iff.1 deeds
    have quiet : reported.channel.Unwatched := unwatched reported (by simp [acts])
    obtain ⟨alive, answer⟩ := inSync told (by simp [acts]) tells
    obtain ⟨container, there⟩ := Option.isSome_iff_exists.1 alive
    have later : start.acts inputs = (opening ++ [reported]) ++ told :: [] := by simp [acts]
    exact ⟨opening, reported, told, container, acts, ⟨reports, quiet⟩,
      (each opening reported [told] acts).2.1 .mobileOnly reports quiet, ⟨there, answer⟩,
      (each (opening ++ [reported]) told [] later).2.2 container (.ok false) there answer⟩

end ServiceChannel
