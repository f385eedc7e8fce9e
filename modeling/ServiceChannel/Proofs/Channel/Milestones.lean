import Mathlib
import ServiceChannel.Proofs.Channel.Affairs
import ServiceChannel.Proofs.Channel.Tracing

/-!
# Milestones

The stage of a standalone container is set by few things: a start, a stop, a finish, and the reports
of its agent that it has booted or wants to shut down. Whatever else is done leaves it alone, so
that the last of these milestones says which stage it is.

- `Milestone`, `Milestone.stage`: what sets the stage, and to what.
- `Handover.milestones`, `Channel.milestones`: the milestones of what is done and of what comes.
- `stage_of_last_milestone`: the stage in every life.
- `revived_by_boot_report`: a container on its way down that is running again.
-/

namespace ServiceChannel

/-- What sets the stage of a standalone container. -/
inductive Milestone where
  /-- It was started. -/
  | started
  /-- It was to be started, and its engine did not come up. -/
  | failed
  /-- Its agent reported that it has booted. -/
  | booted
  /-- It was stopped, and a shutdown was delivered to its agent or not. -/
  | stopped (delivered : Bool)
  | finished
  /-- Its owner said so. -/
  | assigned (stage : Lifecycle)
  deriving DecidableEq

namespace Milestone

/-- The stage that a milestone sets. -/
def stage : Milestone → Lifecycle
  | .started => .booting
  | .booted => .running
  | .stopped delivered => if delivered then .shuttingDown else .stopped
  | .failed | .finished => .stopped
  | .assigned stage => stage

/-- The milestone takes a container that is on its way down, or down, up again. -/
def revives : Milestone → Bool
  | .started | .booted => true
  | .assigned stage => !stage.isStopping
  | .failed | .stopped _ | .finished => false

theorem isStopping_stage (milestone : Milestone) :
    milestone.stage.isStopping = !milestone.revives := by
  rcases milestone with _ | _ | _ | (_ | _) | _ | stage
  all_goals first | rfl | exact (Bool.not_not stage.isStopping).symm

/-- The container waits for its agent after a stop that delivered a shutdown. -/
theorem stage_eq_shuttingDown_iff {milestone : Milestone} :
    milestone.stage = .shuttingDown ↔
      milestone = .stopped true ∨ milestone = .assigned .shuttingDown := by
  rcases milestone with _ | _ | _ | (_ | _) | _ | assigned <;> simp [stage]

end Milestone

/-- The stage after milestones. -/
def stageAfter (stage : Lifecycle) (milestones : List Milestone) : Lifecycle :=
  (milestones.getLast?.map Milestone.stage).getD stage

@[simp] theorem stageAfter_nil (stage : Lifecycle) : stageAfter stage [] = stage := rfl

theorem stageAfter_append (stage : Lifecycle) (first second : List Milestone) :
    stageAfter stage (first ++ second) = stageAfter (stageAfter stage first) second := by
  unfold stageAfter
  rw [List.getLast?_append]
  cases second.getLast? <;> rfl

/-- The container is up exactly if the last milestone took it there. -/
theorem isStopping_stageAfter {stage : Lifecycle} (stopping : stage.isStopping = true)
    (milestones : List Milestone) :
    (stageAfter stage milestones).isStopping = false ↔
      ∃ milestone, milestones.getLast? = some milestone ∧ milestone.revives = true := by
  unfold stageAfter
  cases milestones.getLast? with
  | none => simp [stopping]
  | some milestone => simp [milestone.isStopping_stage]

theorem stageAfter_eq_shuttingDown_iff {milestones : List Milestone} :
    stageAfter .stopped milestones = .shuttingDown ↔
      milestones.getLast? = some (.stopped true) ∨
        milestones.getLast? = some (.assigned .shuttingDown) := by
  unfold stageAfter
  cases milestones.getLast? with
  | none => simp
  | some milestone => simp [Milestone.stage_eq_shuttingDown_iff]

/-! ## Messages -/

/-- The milestones that a message is, given the stage and whether a stop would deliver a shutdown:
a report that the container has booted always is one, a request to shut down is one unless the
container is on its way down, or down. -/
def AgentMessage.milestones (message : AgentMessage) (stage : Lifecycle) (delivered : Bool) :
    List Milestone :=
  match message with
  | .bootCompleted => [.booted]
  | .shutdown => if stage.isStopping then [] else [.stopped delivered]
  | _ => []

section Messages

variable {κ : Type} [Kernel κ]

/-- The milestones that a payload is when it is handed over. -/
def Handover.milestones (handover : Handover κ) : List Milestone :=
  match AgentMessage.decode handover.payload with
  | .ok message => message.milestones handover.channel.state handover.channel.delivers
  | .error _ => []

namespace Channel

variable {channel : Channel κ} {allowExec : Bool}

omit [Kernel κ] in
theorem state_eq_estate (channel : Channel κ) :
    channel.state = (channel.estate.map (·.state)).getD .stopped := by
  unfold state
  rw [estate_eq, Option.map_map]
  rfl

omit [Kernel κ] in
theorem state_of_estate {after : Channel κ} (same : after.estate = channel.estate) :
    after.state = channel.state := by
  rw [state_eq_estate, state_eq_estate, same]

namespace StandsAlone

omit [Kernel κ] in
/-- The stage follows the change of the estate. -/
theorem state_of_map {after : Channel κ} (alone : channel.StandsAlone allowExec)
    {change : Container → Container} (same : after.estate = channel.estate.map change)
    {stage : Lifecycle} (sets : ∀ container, container.state = channel.state →
      container.isStandalone = true → (change container).state = stage) :
    after.state = stage := by
  obtain ⟨container, standalone, there, role, -⟩ := alone.container
  have state : channel.state = container.state := by
    unfold Channel.state
    rw [there]
    rfl
  rw [state_eq_estate, same, estate_eq, there]
  exact sets container.estate state.symm (by simp [Container.estate, Container.isStandalone, role])

omit [Kernel κ] in
theorem state_setState (alone : channel.StandsAlone allowExec) (stage : Lifecycle) :
    (channel.setState stage).state = stage :=
  alone.state_of_map (channel.estate_setState stage) fun _ _ _ => rfl

theorem state_stopContainer (alone : channel.StandsAlone allowExec) :
    channel.stopContainer.state = (Milestone.stopped channel.delivers).stage :=
  alone.state_of_map channel.estate_stopContainer fun container _ standsAlone =>
    container.state_halted standsAlone _

/-! ## Messages and reads -/

/-- What a message makes of the stage. -/
theorem state_handle (alone : channel.StandsAlone allowExec) (message : AgentMessage) :
    (channel.handle message).state =
      stageAfter channel.state (message.milestones channel.state channel.delivers) := by
  refine alone.state_of_map (channel.estate_handle message) fun container state standsAlone => ?_
  cases message with
  | bootCompleted => rfl
  | shutdown =>
    simp only [Container.obey, AgentMessage.milestones, state]
    split
    · exact state
    · exact container.state_halted standsAlone _
  | masterClear => exact container.state_wiped.trans state
  | exec path params => exact (container.state_asked _).trans state
  | auditAck ack => exact (container.state_acknowledged ack).trans state
  | _ => exact state

theorem state_handlePayload (alone : channel.StandsAlone allowExec) (id : Nat) (payload : Bytes) :
    (channel.handlePayload payload).2.state =
      stageAfter channel.state (Handover.milestones ⟨channel, id, payload⟩) := by
  unfold Channel.handlePayload Handover.milestones
  dsimp only
  cases AgentMessage.decode payload with
  | ok message => exact alone.state_handle message
  | error error =>
    dsimp only
    split <;> rfl

/-- The stages that a read goes through: at every handover, and at its end. -/
theorem state_traceReceive (alone : channel.StandsAlone allowExec) (id : Nat)
    (outcome : ReadOutcome) :
    Along (fun past after => after.StandsAlone allowExec ∧
        after.state = stageAfter channel.state (past.flatMap Handover.milestones))
      [] (channel.traceReceive id outcome).1 (channel.traceReceive id outcome).2 := by
  refine traceReceive_along ?_ ?_ (fun _ _ _ _ holds => holds) (fun _ _ _ holds => holds)
    ⟨alone, rfl⟩ id outcome
  · rintro past after id payload ⟨alone, state⟩
    refine ⟨alone.handlePayload payload, ?_⟩
    rw [alone.state_handlePayload id payload, state, ← stageAfter_append]
    simp
  · rintro past after id reason ⟨alone, state⟩
    have closed := after.estate_close id reason
    exact ⟨alone.of_estate closed, (state_of_estate closed).trans state⟩

end StandsAlone

/-! ## Affairs -/

/-- The milestones of what is done, and of what comes. -/
def milestones (channel : Channel κ) : Affair κ → List Milestone
  | .chore (.start config) =>
    if channel.engine.released then
      [if (channel.start config).1.isOk then .started else .failed]
    else []
  | .chore .stop => [.stopped channel.delivers]
  | .chore .endFinish => [.finished]
  | .chore (.traffic (.read id outcome)) =>
    (channel.traceReceive id outcome).1.flatMap Handover.milestones
  | .setState stage => [.assigned stage]
  | _ => []

/-- The milestones of all that is done and comes. -/
def milestonesAlong (channel : Channel κ) : List (Affair κ) → List Milestone
  | [] => []
  | affair :: affairs =>
    channel.milestones affair ++ (channel.conduct affair).milestonesAlong affairs

namespace StandsAlone

theorem state_start (alone : channel.StandsAlone allowExec) (config : Config) :
    (channel.start config).2.state =
      stageAfter channel.state (channel.milestones (.chore (.start config))) := by
  have started := channel.estate_start config
  unfold milestones
  dsimp only
  split
  · rename_i released
    rw [if_pos released] at started
    refine alone.state_of_map started fun _ _ _ => ?_
    split <;> rfl
  · rename_i active
    rw [if_neg active] at started
    exact state_of_estate started

theorem state_attend (alone : channel.StandsAlone allowExec) (traffic : Traffic κ) :
    (channel.attend traffic).state =
      stageAfter channel.state (channel.milestones (.chore (.traffic traffic))) := by
  cases traffic with
  | read id outcome =>
    have read := (alone.state_traceReceive id outcome).last.2
    rw [traceReceive_snd] at read
    exact read
  | _ => exact state_of_estate (channel.estate_attend nofun)

/-- What is done takes the stage through its milestones. -/
theorem state_conduct (alone : channel.StandsAlone allowExec) (affair : Affair κ) :
    (channel.conduct affair).state = stageAfter channel.state (channel.milestones affair) := by
  cases affair with
  | chore chore =>
    cases chore with
    | start config => exact alone.state_start config
    | stop => exact alone.state_stopContainer
    | setConnectivity connectivity =>
      exact state_of_estate (channel.estate_setConnectivity connectivity)
    | wipe =>
      exact alone.state_of_map channel.estate_wipe fun container state _ =>
        container.state_wiped.trans state
    | beginFinish => exact state_of_holdings channel.holdings_beginFinish
    | endFinish => exact state_setState_stopped _
    | traffic traffic => exact alone.state_attend traffic
  | setState stage => exact alone.state_setState stage
  | setScreenOn on =>
    exact alone.state_of_map (channel.estate_setScreenOn on) fun _ state _ => state
  | identify update =>
    exact alone.state_of_map (channel.estate_applyIdentity update) fun _ state _ => state
  | exec arguments =>
    exact alone.state_of_map (channel.estate_exec arguments) fun container state _ =>
      (container.state_asked arguments).trans state
  | acknowledge ack =>
    exact alone.state_of_map (channel.estate_acknowledgeAudit ack) fun container state _ =>
      (container.state_acknowledged ack).trans state
  | watch name reaction => exact state_of_estate (channel.estate_watch name reaction)
  | unwatch name => exact state_of_estate (channel.estate_unwatch name)
  | takeStopRequest =>
    obtain ⟨container, standalone, there, role, -⟩ := alone.container
    simp [Channel.conduct, Channel.takeStopRequest, state, milestones, there, role]

theorem conductAll (alone : channel.StandsAlone allowExec) (affairs : List (Affair κ)) :
    (channel.conductAll affairs).StandsAlone allowExec ∧
      (channel.conductAll affairs).state =
        stageAfter channel.state (channel.milestonesAlong affairs) := by
  induction affairs generalizing channel with
  | nil => exact ⟨alone, rfl⟩
  | cons affair affairs ih =>
    obtain ⟨last, state⟩ := ih (alone.conduct affair)
    refine ⟨last, ?_⟩
    rw [milestonesAlong, stageAfter_append, ← alone.state_conduct affair]
    exact state

end StandsAlone

end Channel

end Messages

/-- The stage of a standalone container, in every life, whatever is done with it and whatever comes
to its engine.
At every moment, also between the messages of one read, it is the stage of the last milestone.
So a container that was stopped is up again exactly if the last milestone since is a start that
succeeded or a report of its agent that it has booted, or its owner set the stage. It stays on its
way down, or down, whatever else its agent sends; but the report counts at any stage.
A finish waits for the agent exactly if the last milestone is a stop that delivered a shutdown, or
its owner set that stage. -/
theorem stage_of_last_milestone {κ : Type} [Kernel κ] (kernel : κ) (config : Config) (name : String)
    (dnsServer : Option String) (allowExec : Bool) (affairs : List (Affair κ)) :
    let start := Channel.unstarted kernel config name dnsServer allowExec
    let channel := start.conductAll affairs
    let milestones := start.milestonesAlong affairs
    (channel.state = stageAfter .stopped milestones ∧
      ∀ id outcome before here later,
        (channel.traceReceive id outcome).1 = before ++ here :: later →
        here.channel.state =
          stageAfter .stopped (milestones ++ before.flatMap Handover.milestones)) ∧
    (∀ before delivered since, milestones = before ++ .stopped delivered :: since →
      (channel.state.isStopping = false ↔
        ∃ milestone, since.getLast? = some milestone ∧ milestone.revives = true) ∧
      (since = [] → channel.awaitsShutdown = delivered)) ∧
    (channel.awaitsShutdown = true ↔ milestones.getLast? = some (.stopped true) ∨
      milestones.getLast? = some (.assigned .shuttingDown)) ∧
    ∀ meanwhile, channel.finishing meanwhile =
      if stageAfter .stopped milestones = .shuttingDown then
        ((channel.record .waitingForShutdown).undertakeAll meanwhile).endFinish
      else channel.endFinish := by
  intro start channel milestones
  have begun : start.StandsAlone allowExec :=
    Channel.standsAlone_unstarted kernel config name dnsServer allowExec
  obtain ⟨alone, state⟩ := begun.conductAll affairs
  have state : channel.state = stageAfter .stopped milestones := state
  have awaits : channel.awaitsShutdown = true ↔ stageAfter .stopped milestones = .shuttingDown := by
    rw [Channel.awaitsShutdown, decide_eq_true_iff, state]
  refine ⟨⟨state, fun id outcome before here later split => ?_⟩, ?_,
    awaits.trans stageAfter_eq_shuttingDown_iff, fun meanwhile => ?_⟩
  · rw [stageAfter_append, ← state]
    exact ((alone.state_traceReceive id outcome).each before here later split).2
  · intro before delivered since split
    have after : channel.state = stageAfter (Milestone.stopped delivered).stage since := by
      rw [state, split, List.append_cons, stageAfter_append, stageAfter_append]
      rfl
    -- Delivered or not, a stop takes the container on its way down, or down.
    have stopping : (Milestone.stopped delivered).stage.isStopping = true := by
      cases delivered <;> rfl
    refine ⟨?_, fun nothing => ?_⟩
    · rw [after]
      exact isStopping_stageAfter stopping since
    · subst nothing
      rw [Channel.awaitsShutdown, after]
      cases delivered <;> rfl
  · unfold Channel.finishing Channel.beginFinish
    by_cases waits : channel.awaitsShutdown = true
    · have still : (channel.record .waitingForShutdown).awaitsShutdown = true := waits
      rw [if_pos (awaits.1 waits), if_pos waits]
      dsimp only
      rw [if_pos still]
    · rw [if_neg fun shuttingDown => waits (awaits.2 shuttingDown), if_neg waits]
      dsimp only
      rw [if_neg waits]

/-- An agent reports that its container has booted, after the container was stopped and a shutdown
was delivered: the container runs again, and a finish does not wait. -/
theorem revived_by_boot_report :
    let config : Config := { socketDir := "", socketName := "s" }
    let start := Channel.unstarted (⟨[]⟩ : Script) config "a0" none false
    let affairs : List (Affair Script) :=
      [.chore (.start config), .chore (.traffic (.arrival 7)), .chore .stop]
    let report : Affair Script :=
      .chore (.traffic (.read 1 (.data (Frame.frame AgentMessage.bootCompleted.encode))))
    start.milestonesAlong affairs = [.started, .stopped true] ∧
      (start.conductAll affairs).state = .shuttingDown ∧
      (start.conductAll affairs).awaitsShutdown = true ∧
      (start.conductAll (affairs ++ [report])).state = .running ∧
      (start.conductAll (affairs ++ [report])).awaitsShutdown = false := by
  intro config start affairs report
  refine ⟨by cbv, by cbv, by cbv, by cbv, by cbv⟩

end ServiceChannel
