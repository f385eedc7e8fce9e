import Mathlib
import ServiceChannel.Proofs.Channel.Milestones
import ServiceChannel.Proofs.Channel.Walk

/-!
# Stops that the agent asks for

A container is stopped for a request of its agent only while it is up, and a stop takes it on its
way down, whatever kind it is and however the stop ends. There it stays until its agent reports that
it has booted. So between two stops there is a report, whatever else the agent sends on however many
connections.

- `Marks`, `Container.marks`: what a container has to show for its stops.
- `Handover.stops`, `Handover.boots`: the payloads that stop the container, and those that report.
- `History.Paced`: what a run keeps, from any channel on.
- `stops_apart`: the stops of a run.
- `stops_of_two_connections`: a stop on one connection, a report and a stop on the next.
-/

namespace ServiceChannel

/-! ## Marks -/

/-- What is left of stops. -/
inductive Marks where
  /-- They were counted. -/
  | counted (stops : Nat)
  /-- That there was one was noted. -/
  | noted (stopped : Bool)
  deriving DecidableEq

/-- The marks after so many stops more. -/
def Marks.more : Marks → Nat → Marks
  | .counted before, stops => .counted (before + stops)
  | .noted before, stops => .noted (before || decide (0 < stops))

@[simp] theorem Marks.more_zero (marks : Marks) : marks.more 0 = marks := by
  cases marks <;> simp [more]

@[simp] theorem Marks.more_more (marks : Marks) (first second : Nat) :
    (marks.more first).more second = marks.more (first + second) := by
  cases marks with
  | counted before => simp [more, Nat.add_assoc]
  | noted before =>
    have either : decide (0 < first + second) = (decide (0 < first) || decide (0 < second)) := by
      rw [← Bool.decide_or]
      exact decide_eq_decide.2 (by omega)
    simp only [more, either, Bool.or_assoc]

/-- The message stops a container in this stage. -/
def AgentMessage.stops (message : AgentMessage) (stage : Lifecycle) : Bool :=
  match message with
  | .shutdown => !stage.isStopping
  | _ => false

namespace Container

/-- A recording container counts its stops, a standalone one notes that it is to stop. -/
def marks (container : Container) : Marks :=
  match container.role with
  | .recording recording => .counted recording.stops
  | .standalone standalone => .noted standalone.stopRequested

/-- The container with no stop to show. -/
def unmarked (container : Container) : Container :=
  { container with
    role := match container.role with
      | .recording recording => .recording { recording with stops := 0 }
      | .standalone standalone => .standalone { standalone with stopRequested := false } }

@[simp] theorem marks_estate (container : Container) :
    container.estate.marks = container.marks := by
  obtain ⟨_, _, _, _, _, _, _, _ | _⟩ := container <;> rfl

theorem marks_halted (container : Container) (delivered : Bool) :
    (container.halted delivered).marks = container.marks.more 1 := by
  obtain ⟨_, _, _, _, _, _, _, _ | _⟩ := container <;> simp [halted, marks, Marks.more]

theorem isStopping_halted (container : Container) (delivered : Bool) :
    (container.halted delivered).state.isStopping = true := by
  obtain ⟨_, _, _, _, _, _, _, _ | _⟩ := container
  · rfl
  · cases delivered <;> rfl

/-- A message leaves as many marks as it stops the container. -/
theorem marks_obey (container : Container) (delivered : Bool) (message : AgentMessage) :
    (container.obey delivered message).marks =
      container.marks.more (message.stops container.state).toNat := by
  cases message with
  | shutdown =>
    unfold obey AgentMessage.stops
    dsimp only
    split
    · rename_i stopping
      simp [stopping]
    · rename_i up
      simp [up, marks_halted]
  | masterClear =>
    obtain ⟨_, _, _, _, _, _, _, _ | _⟩ := container <;> simp [AgentMessage.stops] <;> rfl
  | exec path params =>
    obtain ⟨_, _, _, _, _, _, _, _ | _⟩ := container <;> simp [AgentMessage.stops] <;> rfl
  | auditAck ack =>
    obtain ⟨_, _, _, _, _, _, _, _ | _⟩ := container <;> simp [AgentMessage.stops] <;> rfl
  | _ =>
    dsimp only [AgentMessage.stops]
    rw [Bool.toNat_false, Marks.more_zero]
    rfl

/-- A report that it has booted takes the container up, a stop takes it on its way down, and nothing
else moves it. -/
theorem isStopping_obey (container : Container) (delivered : Bool) (message : AgentMessage) :
    (container.obey delivered message).state.isStopping =
      if message = .bootCompleted then false
      else message.stops container.state || container.state.isStopping := by
  cases message with
  | shutdown =>
    unfold obey AgentMessage.stops
    dsimp only
    split
    · rename_i stopping
      simp [stopping]
    · rename_i up
      simp [up, isStopping_halted]
  | bootCompleted => rfl
  | _ => simp [obey, AgentMessage.stops]

end Container

/-! ## Payloads -/

section Payloads

variable {κ : Type}

/-- The payload is a message that stops the container. -/
def Handover.stops (handover : Handover κ) : Bool :=
  match handover.channel.container, AgentMessage.decode handover.payload with
  | some container, .ok message => message.stops container.state
  | _, _ => false

/-- The payload reports to the container that it has booted. -/
def Handover.boots (handover : Handover κ) : Bool :=
  match handover.channel.container, AgentMessage.decode handover.payload with
  | some _, .ok .bootCompleted => true
  | _, _ => false

/-- A payload stops the container if it asks for that while the container is up. -/
theorem Handover.stops_iff {handover : Handover κ} :
    handover.stops = true ↔ ∃ container, handover.channel.container = some container ∧
      AgentMessage.decode handover.payload = .ok .shutdown ∧
        container.state ≠ .shuttingDown ∧ container.state ≠ .stopped := by
  unfold stops
  cases handover.channel.container with
  | none => simp
  | some container =>
    cases AgentMessage.decode handover.payload with
    | error error => simp
    | ok message =>
      cases message with
      | shutdown =>
        simp [AgentMessage.stops, ← Bool.not_eq_true, Lifecycle.isStopping_iff, not_or]
      | _ => simp [AgentMessage.stops]

/-- A payload that stops the container finds it up. -/
theorem Handover.up_of_stops {handover : Handover κ} (stops : handover.stops = true) :
    handover.channel.state.isStopping = false := by
  obtain ⟨container, there, -, notShutting, notStopped⟩ := stops_iff.1 stops
  rw [Channel.state, there]
  exact Bool.not_eq_true _ ▸ fun stopping =>
    (Lifecycle.isStopping_iff.1 stopping).elim notShutting notStopped

theorem Handover.not_boots_of_stops {handover : Handover κ} (stops : handover.stops = true) :
    handover.boots = false := by
  obtain ⟨container, there, asks, -⟩ := stops_iff.1 stops
  rw [boots, there, asks]

namespace Channel

/-- What the container has to show for its stops, while it is there. -/
def marks (channel : Channel κ) : Option Marks := channel.container.map Container.marks

theorem marks_eq_estate (channel : Channel κ) :
    channel.marks = channel.estate.map Container.marks := by
  simp [marks, estate_eq, Function.comp_def]

theorem isStopping_eq_estate (channel : Channel κ) :
    channel.state.isStopping = ((channel.estate.map (·.state.isStopping)).getD true) := by
  unfold state
  rw [estate_eq]
  cases channel.container <;> rfl

variable [Kernel κ]

/-- Handling a payload leaves as many marks as it stops the container. -/
theorem marks_handlePayload (channel : Channel κ) (id : Nat) (payload : Bytes) :
    (channel.handlePayload payload).2.marks =
      channel.marks.map (·.more (Handover.stops ⟨channel, id, payload⟩).toNat) := by
  rw [marks_eq_estate, estate_handlePayload, marks, Handover.stops, estate_eq]
  dsimp only
  cases channel.container with
  | none => cases AgentMessage.decode payload <;> rfl
  | some container =>
    cases AgentMessage.decode payload with
    | ok message =>
      have left := container.estate.marks_obey channel.delivers message
      rw [Container.marks_estate] at left
      exact congrArg some left
    | error error => simp

/-- A report that it has booted takes the container up, a stop takes it on its way down, and no
other payload moves it. -/
theorem isStopping_handlePayload (channel : Channel κ) (id : Nat) (payload : Bytes) :
    (channel.handlePayload payload).2.state.isStopping =
      if Handover.boots ⟨channel, id, payload⟩ then false
      else Handover.stops ⟨channel, id, payload⟩ || channel.state.isStopping := by
  rw [isStopping_eq_estate, estate_handlePayload, isStopping_eq_estate, Handover.stops,
    Handover.boots, estate_eq]
  dsimp only
  cases channel.container with
  | none => cases AgentMessage.decode payload <;> rfl
  | some container =>
    cases AgentMessage.decode payload with
    | ok message =>
      have moved := container.estate.isStopping_obey channel.delivers message
      cases message <;> exact moved
    | error error => rfl

end Channel

variable [Kernel κ]

/-- A payload that stops the container stops it once, after the request was logged. -/
theorem Handover.handled_of_stops {handover : Handover κ} (stops : handover.stops = true) :
    handover.channel.handlePayload handover.payload =
      (.ok (), ((handover.channel.record (.received AgentMessage.shutdown.code)).record
        .shutdownRequested).stopContainer) := by
  obtain ⟨container, there, asks, notShutting, notStopped⟩ := stops_iff.1 stops
  unfold Channel.handlePayload
  rw [asks]
  dsimp only
  rw [Channel.handle, there]
  dsimp only [Channel.handleFor, Channel.handleShutdown]
  split
  · exact absurd ‹_› notShutting
  · exact absurd ‹_› notStopped
  · rfl

end Payloads

/-! ## Pace -/

/-- What a run keeps, after handing these payloads over. -/
structure Paced {κ : Type} (begun : Option Marks) (past : List (Handover κ)) (channel : Channel κ) :
    Prop where
  /-- Every stop has left its mark, and nothing else has left any. -/
  marked : ∀ marks ∈ channel.marks, begun.map (·.more (past.countP Handover.stops)) = some marks
  /-- The container stays on its way down, or down, until it has booted. -/
  settled : ∀ before stop since, past = before ++ stop :: since → stop.stops = true →
    (∀ later ∈ since, later.boots = false) → channel.state.isStopping = true
  /-- Between two stops it boots. -/
  apart : ∀ before first between second after,
    past = before ++ first :: (between ++ second :: after) →
      first.stops = true → second.stops = true → ∃ report ∈ between, report.boots = true
  /-- While the container is up there is a stop to spare. -/
  bounded : past.countP Handover.stops + (!channel.state.isStopping).toNat ≤
    past.countP Handover.boots + 1

namespace Paced

variable {κ : Type} {begun : Option Marks} {past : List (Handover κ)} {channel after : Channel κ}

/-- At the beginning. -/
theorem nil (channel : Channel κ) : Paced channel.marks [] channel where
  marked marks known := by simpa using known
  settled _ _ _ split := by simp at split
  apart _ _ _ _ _ split := by simp at split
  bounded := by
    have one := Bool.toNat_le (!channel.state.isStopping)
    simpa using one

/-- A change that leaves marks and stage alone. -/
theorem of_same (paced : Paced begun past channel) (marks : after.marks = channel.marks)
    (stage : after.state.isStopping = channel.state.isStopping) : Paced begun past after where
  marked := by simpa only [marks] using paced.marked
  settled := by simpa only [stage] using paced.settled
  apart := paced.apart
  bounded := by simpa only [stage] using paced.bounded

theorem of_estate (paced : Paced begun past channel) (same : after.estate = channel.estate) :
    Paced begun past after := by
  refine paced.of_same ?_ ?_
  · rw [Channel.marks_eq_estate, Channel.marks_eq_estate, same]
  · rw [Channel.state_of_estate same]

/-- A container that goes away is not stopped any more. -/
theorem gone (paced : Paced begun past channel) (gone : after.container = none) :
    Paced begun past after := by
  have down : after.state.isStopping = true := by
    rw [Channel.state, gone]
    rfl
  refine ⟨?_, fun _ _ _ _ _ _ => down, paced.apart, ?_⟩
  · simp [Channel.marks, gone]
  · have bounded := paced.bounded
    rw [down]
    exact (Nat.le_add_right _ _).trans bounded

variable [Kernel κ]

/-- One payload more. -/
theorem handlePayload (paced : Paced begun past channel) (id : Nat) (payload : Bytes) :
    Paced begun (past ++ [⟨channel, id, payload⟩]) (channel.handlePayload payload).2 := by
  let here : Handover κ := ⟨channel, id, payload⟩
  have marks : (channel.handlePayload payload).2.marks =
    channel.marks.map (·.more here.stops.toNat) := channel.marks_handlePayload id payload
  have stage : (channel.handlePayload payload).2.state.isStopping =
      if here.boots then false else here.stops || channel.state.isStopping :=
    channel.isStopping_handlePayload id payload
  have up (stops : here.stops = true) : channel.state.isStopping = false :=
    Handover.up_of_stops stops
  refine ⟨fun after left => ?marked, fun before stop since split stops none => ?settled,
    fun before first between second after split stops again => ?apart, ?bounded⟩
  case marked =>
    rw [marks] at left
    obtain ⟨marks, known, rfl⟩ := Option.map_eq_some_iff.1 left
    obtain ⟨first, begun, rfl⟩ := Option.map_eq_some_iff.1 (paced.marked marks known)
    rw [begun, Option.map_some, Marks.more_more, List.countP_append]
    simp [here, Bool.toNat, Bool.cond_eq_ite]
  case settled =>
    rw [stage]
    obtain ⟨rfl, rfl, rfl⟩ | ⟨earlier, rfl, rfl⟩ := split_concat split
    · have stops : here.stops = true := stops
      rw [Handover.not_boots_of_stops stops, stops]
      rfl
    · have quiet : here.boots = false :=
        none here (List.mem_append_right _ (List.mem_singleton.2 rfl))
      have still := paced.settled before stop earlier rfl stops fun later mem =>
        none later (List.mem_append_left _ mem)
      rw [quiet, still]
      exact Bool.or_true _
  case apart =>
    have split : past ++ [here] = (before ++ first :: between) ++ second :: after := by
      simpa using split
    obtain ⟨-, rfl, rfl⟩ | ⟨earlier, -, rfl⟩ := split_concat split
    · -- A container that had not booted since the first stop would not be up at the second.
      by_contra none
      have still := paced.settled before first between rfl stops fun later mem =>
        Bool.eq_false_iff.2 fun boots => none ⟨later, mem, boots⟩
      rw [up again] at still
      cases still
    · exact paced.apart before first between second earlier (by simp) stops again
  case bounded =>
    have bounded := paced.bounded
    rw [stage, List.countP_append, List.countP_append, List.countP_singleton,
      List.countP_singleton]
    change _ + (if here.stops then 1 else 0) + _ ≤ _ + (if here.boots then 1 else 0) + 1
    by_cases stops : here.stops = true
    · -- The stop takes what was to spare.
      rw [up stops, Bool.not_false, Bool.toNat_true] at bounded
      rw [Handover.not_boots_of_stops stops, stops]
      simpa using bounded
    · rw [Bool.eq_false_iff.2 stops]
      by_cases boots : here.boots = true
      · rw [boots]
        have room := (Nat.le_add_right _ _).trans bounded
        simpa using room
      · simpa [boots] using bounded

end Paced

/-! ## Runs -/

/-- Whatever else is done to the container, its stage and its marks stay. -/
def Channel.KeepsStage {κ : Type} (channel : Channel κ) : Input κ → Prop
  | .container next => ∀ container ∈ next, ∃ before, channel.container = some before ∧
      container.state = before.state ∧ container.marks = before.marks
  | _ => True

namespace History

variable {κ : Type} [Kernel κ] {begun : Option Marks} {history : History κ}

theorem paced_step (paced : Paced begun history.handovers history.channel) {input : Input κ}
    (called : input ≠ .stop) (allows : input.isOutside = true → history.channel.KeepsStage input) :
    Paced begun (history.step input).handovers (history.step input).channel := by
  refine step_along (motive := Paced begun)
    (fun past before after same paced => paced.of_estate same)
    (fun past channel id payload paced => paced.handlePayload id payload)
    (fun stop => absurd stop called) (fun next change => ?_) paced
  subst change
  cases next with
  | none => exact paced.gone rfl
  | some container =>
    obtain ⟨before, there, stage, marks⟩ := allows rfl container rfl
    refine paced.of_same ?_ ?_
    · simp [Channel.marks, there, marks]
    · simp [Channel.state, there, stage]

theorem paced_run (paced : Paced begun history.handovers history.channel) {inputs : List (Input κ)}
    (called : ∀ input ∈ inputs, input ≠ .stop)
    (admits : history.channel.Admits Channel.KeepsStage inputs) :
    Paced begun (history.run inputs).handovers (history.run inputs).channel := by
  induction inputs generalizing history with
  | nil => exact paced
  | cons input inputs ih =>
    have next := paced_step paced (called input List.mem_cons_self) admits.1
    exact ih next (fun other mem => called other (List.mem_cons_of_mem _ mem)) admits.2

end History

/-- The stops of a container that nobody but its agent stops, or takes up again: in every run, from
any channel on, whatever kind of container it serves and in whatever stage, over any number of
connections.
A payload stops the container if it is a request to shut down that comes while the container is
neither on its way down nor down, and then it stops it once; no other payload leaves the mark of a
stop, and nothing else that happens does.
Between two stops there is a report that the container has booted, so there is at most one stop more
than there are reports. -/
theorem stops_apart {κ : Type} [Kernel κ] (start : Channel κ) (inputs : List (Input κ))
    (called : ∀ input ∈ inputs, input ≠ .stop)
    (admits : start.Admits Channel.KeepsStage inputs) :
    let history := (⟨start, [], []⟩ : History κ).run inputs
    (∀ here ∈ history.handovers,
      let clear := here.channel.onContainer Container.unmarked
      (clear.handlePayload here.payload).2.marks = clear.marks.map (·.more here.stops.toNat) ∧
      (here.stops = true ↔ ∃ container, here.channel.container = some container ∧
        AgentMessage.decode here.payload = .ok .shutdown ∧
          container.state ≠ .shuttingDown ∧ container.state ≠ .stopped) ∧
      (here.stops = true → here.channel.handlePayload here.payload =
        (.ok (), ((here.channel.record (.received AgentMessage.shutdown.code)).record
          .shutdownRequested).stopContainer))) ∧
    (∀ marks ∈ history.channel.marks,
      start.marks.map (·.more (history.handovers.countP Handover.stops)) = some marks) ∧
    (∀ before first between second after,
      history.handovers = before ++ first :: (between ++ second :: after) →
        first.stops = true → second.stops = true → ∃ report ∈ between, report.boots = true) ∧
    history.handovers.countP Handover.stops ≤ history.handovers.countP Handover.boots + 1 := by
  intro history
  let opening : History κ := ⟨start, [], []⟩
  have nothing : Paced start.marks opening.handovers opening.channel := .nil start
  have paced : Paced start.marks history.handovers history.channel :=
    History.paced_run nothing called admits
  refine ⟨fun here _ => ⟨?_, Handover.stops_iff, Handover.handled_of_stops⟩, paced.marked,
    paced.apart, (Nat.le_add_right _ _).trans paced.bounded⟩
  have same : Handover.stops ⟨here.channel.onContainer Container.unmarked, here.connection,
      here.payload⟩ = here.stops := by
    unfold Handover.stops Channel.onContainer
    cases here.channel.container <;> cases AgentMessage.decode here.payload <;> rfl
  rw [← same]
  exact Channel.marks_handlePayload _ _ _

/-- Two agents, one after the other, ask a running container for a shutdown again and again. The
first reports once that it has booted, and two of the requests stop the container. -/
theorem stops_of_two_connections :
    let stream (messages : List AgentMessage) : Bytes :=
      messages.flatMap fun message => Frame.frame message.encode
    let container : Container :=
      { Container.recording with
        state := .running
        role := .recording { hook := [.reconcile] } }
    let start := Channel.fresh (⟨[]⟩ : Script) {} (some container)
    let inputs : List (Input Script) :=
      [.accept 7, .read 1 (.data (stream [.shutdown, .shutdown, .bootCompleted])),
        .accept 9, .read 2 (.data (stream [.masterClear, .shutdown, .shutdown]))]
    let history := (⟨start, [], []⟩ : History Script).run inputs
    (∀ input ∈ inputs, input ≠ .stop) ∧ start.Admits Channel.KeepsStage inputs ∧
      history.handovers.map Handover.stops = [true, false, false, false, true, false] ∧
      history.channel.marks = some (.counted 2) ∧
      history.handovers.countP Handover.stops ≤ history.handovers.countP Handover.boots + 1 := by
  refine ⟨?called, ?admits, by decide +kernel, by decide +kernel, ?bounded⟩
  case called => simp
  case admits => simp [Channel.Admits, Input.isOutside, Channel.KeepsStage]
  case bounded =>
    refine (stops_apart _ _ ?_ ?_).2.2.2
    · simp
    · simp [Channel.Admits, Input.isOutside, Channel.KeepsStage]

end ServiceChannel
