import ServiceChannel.Proofs.Channel.Reading

/-!
# Generations of connections

Connections are numbered as they come, and the slot holds the newest of them or none. Whatever
happens, its reader is the only one at work, and it leaves once, for one cause.

- `Occupancy.Sound`: the invariant.
- `Occupancy.Moves`: what an input can do, and `Channel.step_moves`, that it does nothing else.
- `History.Ledger`: what was handed over is what was read, connection by connection.
- `generations_of_run`: what holds in every run.
-/

namespace ServiceChannel

/-! ## Inputs -/

/-- The input can take the connection `id` out for this cause. -/
def Input.Ends {κ : Type} (id : Nat) : Input κ → Cause → Prop
  | .accept _, .replaced => True
  | .read reader outcome, cause => reader = id ∧ outcome.Ends cause
  | .call operation, .released => operation = .cleanup ∨ operation = .release
  | .stop, .released => True
  | _, _ => False

/-- The input is a connection that arrives. -/
def Input.isAccept {κ : Type} : Input κ → Bool
  | .accept _ => true
  | _ => false

namespace Occupancy

variable {κ : Type}

/-! ## Moves -/

/-- What an input can do that reads nothing. -/
inductive Moves (input : Input κ) (before : Occupancy) : Occupancy → Prop where
  | stays : input.isAccept = false → Moves input before before
  | enters (socket : Handle) : input = .accept socket → Moves input before (before.enter socket)
  | leaves (connection : Connection) (cause : Cause) : input.isAccept = false →
      before.connection = some connection → input.Ends connection.id cause →
      Moves input before (before.vacate cause)

theorem Moves.sound {input : Input κ} {before after : Occupancy} (moves : before.Moves input after)
    (sound : before.Sound) : after.Sound := by
  cases moves with
  | stays _ => exact sound
  | enters socket _ => exact sound.enter socket
  | leaves connection cause _ _ _ => exact sound.vacate cause

theorem ReadEffect.sound {before after : Occupancy} {reader : Reader} {outcome : ReadOutcome}
    {payloads : List Bytes} (effect : before.ReadEffect reader outcome payloads after)
    (sound : before.Sound) : after.Sound := by
  cases effect with
  | keeps _ unfinished => exact sound.buffer _ unfinished
  | ends _ _ => exact sound.vacate _

/-- An input that may let go of the connection does that or nothing. -/
theorem Handled.moves {input : Input κ} {before after : Occupancy} (handled : before.Handled after)
    (other : input.isAccept = false) (allowed : ∀ id, input.Ends id .released) :
    before.Moves input after := by
  cases handled with
  | kept => exact .stays other
  | released =>
    cases current : before.connection with
    | none =>
      rw [vacate_of_none _ current]
      exact .stays other
    | some connection => exact .leaves connection .released other current (allowed connection.id)

end Occupancy

namespace Channel

variable {κ : Type} [Kernel κ]

/-- What one step can do: a reader at work reads, or nothing is read. -/
theorem step_cases {channel : Channel κ} (sound : channel.occupancy.Sound) (input : Input κ) :
    (∃ id outcome reader, input = .read id outcome ∧ channel.engine.reader? id = some reader ∧
      channel.occupancy.ReadEffect reader outcome ((channel.handovers input).map (·.payload))
        (channel.step input).occupancy) ∨
    (channel.reads input = [] ∧ channel.handovers input = [] ∧
      channel.occupancy.Moves input (channel.step input).occupancy) := by
  cases input with
  | read id outcome =>
    cases found : channel.engine.reader? id with
    -- Nobody reads a connection that has left, or that was never accepted.
    | none =>
      right
      have nothing := traceReceive_of_none found outcome
      refine ⟨?_, by rw [handovers, nothing], ?_⟩
      · cases outcome <;> simp [reads, found]
      · rw [step, ← traceReceive_snd, nothing]
        exact .stays rfl
    | some reader =>
      left
      refine ⟨id, outcome, reader, rfl, found, ?_⟩
      rw [step, ← traceReceive_snd]
      exact traceReceive_effect sound found outcome
  | accept socket =>
    refine .inr ⟨rfl, rfl, ?_⟩
    rw [step, occupancy_accept]
    exact .enters socket rfl
  | call operation =>
    refine .inr ⟨rfl, rfl, ?_⟩
    rw [step, occupancy_call]
    split
    · rename_i lets
      exact Occupancy.Handled.released.moves rfl fun _ => lets
    · exact .stays rfl
  | stop => exact .inr ⟨rfl, rfl, (stopContainer_handled channel).moves rfl fun _ => trivial⟩
  | acceptFailed error =>
    refine .inr ⟨rfl, rfl, ?_⟩
    rw [step, occupancy_acceptFailed]
    exact .stays rfl
  | watch name reaction =>
    refine .inr ⟨rfl, rfl, ?_⟩
    rw [step, occupancy_watch]
    exact .stays rfl
  | unwatch name =>
    refine .inr ⟨rfl, rfl, ?_⟩
    rw [step, occupancy_unwatch]
    exact .stays rfl
  | container container => exact .inr ⟨rfl, rfl, .stays rfl⟩
  | sweep => exact .inr ⟨rfl, rfl, .stays rfl⟩
  | elapse kernel => exact .inr ⟨rfl, rfl, .stays rfl⟩

theorem step_sound {channel : Channel κ} (sound : channel.occupancy.Sound) (input : Input κ) :
    (channel.step input).occupancy.Sound := by
  rcases step_cases sound input with ⟨_, _, _, _, _, effect⟩ | ⟨_, _, moves⟩
  · exact effect.sound sound
  · exact moves.sound sound

theorem run_sound {channel : Channel κ} (sound : channel.occupancy.Sound)
    (inputs : List (Input κ)) : (channel.run inputs).occupancy.Sound := by
  induction inputs generalizing channel with
  | nil => exact sound
  | cons input inputs ih => exact ih (step_sound sound input)

theorem config_step {channel : Channel κ} (sound : channel.occupancy.Sound) (input : Input κ) :
    (channel.step input).occupancy.config = channel.occupancy.config := by
  rcases step_cases sound input with ⟨id, outcome, reader, rfl, -, effect⟩ | ⟨-, -, moves⟩
  · generalize (channel.step (.read id outcome)).occupancy = after at effect
    cases effect with
    | keeps _ _ => rfl
    | ends _ _ => exact Occupancy.config_vacate _ _
  · generalize (channel.step input).occupancy = after at moves
    cases moves with
    | stays _ => rfl
    | enters _ _ => exact Occupancy.config_vacate _ _
    | leaves _ _ _ _ _ => exact Occupancy.config_vacate _ _

theorem config_run {channel : Channel κ} (sound : channel.occupancy.Sound)
    (inputs : List (Input κ)) : (channel.run inputs).engine.config = channel.engine.config := by
  induction inputs generalizing channel with
  | nil => rfl
  | cons input inputs ih => exact (ih (step_sound sound input)).trans (config_step sound input)

/-- Only connections that arrive are counted. -/
theorem accepted_step {channel : Channel κ} (sound : channel.occupancy.Sound) (input : Input κ) :
    (channel.step input).occupancy.accepted =
      channel.occupancy.accepted + if input.isAccept then 1 else 0 := by
  rcases step_cases sound input with ⟨id, outcome, reader, rfl, -, effect⟩ | ⟨-, -, moves⟩
  · generalize (channel.step (.read id outcome)).occupancy = after at effect
    cases effect with
    | keeps _ _ => rfl
    | ends _ _ => exact Occupancy.accepted_vacate _ _
  · generalize (channel.step input).occupancy = after at moves
    cases moves with
    | stays other => simp [other]
    | enters socket same =>
      subst same
      rfl
    | leaves connection cause other _ _ => simp [other]

end Channel

/-! ## What is handed over -/

namespace History

variable {κ : Type}

/-- The invariant of histories: what a connection handed over, with what waits in the buffer of its
reader, is what was read on it. -/
structure Ledger (history : History κ) : Prop where
  sound : history.channel.occupancy.Sound
  waiting : ∀ reader ∈ history.channel.occupancy.readers,
    history.bytes reader.connection =
      (history.payloads reader.connection).flatMap Frame.frame ++ reader.buffered
  handed : ∀ id, (history.payloads id).flatMap Frame.frame <+: history.bytes id
  future : ∀ id, history.channel.occupancy.accepted < id →
    history.bytes id = [] ∧ history.payloads id = []
  current : ∀ handover ∈ history.handovers,
    handover.channel.engine.isCurrent handover.connection = true

variable [Kernel κ]

theorem bytes_step (history : History κ) (input : Input κ) (id : Nat) :
    (history.step input).bytes id = history.bytes id ++
      ((history.channel.reads input).filter (·.1 = id)).flatMap (·.2) := by
  simp [step, bytes, List.filter_append, List.flatMap_append]

theorem payloads_step (history : History κ) (input : Input κ) (id : Nat) :
    (history.step input).payloads id = history.payloads id ++
      ((history.channel.handovers input).filter (·.connection = id)).map (·.payload) := by
  simp [step, payloads, List.filter_append, List.map_append]

/-- What a read brings belongs to the connection that is read. -/
theorem bytes_read {history : History κ} {id : Nat} {reader : Reader}
    (found : history.channel.engine.reader? id = some reader) (outcome : ReadOutcome)
    (other : Nat) : (history.step (.read id outcome)).bytes other =
      history.bytes other ++ if other = id then outcome.bytes else [] := by
  rw [bytes_step]
  congr 1
  cases outcome with
  | data bytes =>
    by_cases same : other = id
    · simp [Channel.reads, found, same, ReadOutcome.bytes]
    · simp [Channel.reads, found, same, Ne.symm same]
  | _ => simp [Channel.reads, ReadOutcome.bytes]

/-- What a read hands over belongs to the connection that is read. -/
theorem payloads_read {history : History κ} (sound : history.channel.occupancy.Sound) (id : Nat)
    (outcome : ReadOutcome) (other : Nat) :
    (history.step (.read id outcome)).payloads other = history.payloads other ++
      if other = id then (history.channel.handovers (.read id outcome)).map (·.payload)
      else [] := by
  rw [payloads_step]
  congr 1
  have own (handover : Handover κ)
      (mem : handover ∈ history.channel.handovers (.read id outcome)) : handover.connection = id :=
    (Channel.traceReceive_current sound outcome handover mem).1
  by_cases same : other = id
  · subst same
    rw [if_pos rfl, List.filter_eq_self.2]
    intro handover mem
    simpa using own handover mem
  · rw [if_neg same, List.filter_eq_nil_iff.2]
    · rfl
    · intro handover mem
      have := own handover mem
      simp [this, Ne.symm same]

/-- A connection that is not the open one hands nothing over. -/
theorem payloads_of_stale {history : History κ} (sound : history.channel.occupancy.Sound) {id : Nat}
    (stale : history.channel.occupancy.isCurrent id = false) (input : Input κ) :
    (history.step input).payloads id = history.payloads id := by
  rcases Channel.step_cases sound input with ⟨other, outcome, reader, rfl, found, -⟩ | ⟨-, none, -⟩
  · obtain ⟨-, -, current⟩ := Channel.reader?_eq_some sound found
    have unlike : id ≠ other := by
      rintro rfl
      exact absurd (stale.symm.trans current) (by decide)
    rw [payloads_read sound other outcome, if_neg unlike, List.append_nil]
  · rw [payloads_step, none]
    exact List.append_nil _

theorem Ledger.of_quiet {history : History κ} (ledger : history.Ledger) {input : Input κ}
    (reads : history.channel.reads input = []) (handovers : history.channel.handovers input = [])
    (moves : history.channel.occupancy.Moves input (history.channel.step input).occupancy) :
    (history.step input).Ledger := by
  have bytes (id : Nat) : (history.step input).bytes id = history.bytes id := by
    simp [bytes_step, reads]
  have payloads (id : Nat) : (history.step input).payloads id = history.payloads id := by
    simp [payloads_step, handovers]
  have accepted := Channel.accepted_step ledger.sound input
  constructor
  · exact moves.sound ledger.sound
  · intro reader mem
    rw [bytes, payloads]
    change reader ∈ (history.channel.step input).occupancy.readers at mem
    generalize (history.channel.step input).occupancy = after at moves mem
    cases moves with
    | stays _ => exact ledger.waiting reader mem
    | enters socket _ =>
      rw [ledger.sound.tidy.readers_enter, List.mem_singleton] at mem
      subst mem
      obtain ⟨nothing, none⟩ := ledger.future _ (Nat.lt_succ_self _)
      simp [nothing, none]
    | leaves connection cause _ _ _ =>
      rw [ledger.sound.tidy.readers_vacate] at mem
      cases mem
  · intro id
    rw [bytes, payloads]
    exact ledger.handed id
  · intro id later
    rw [bytes, payloads]
    refine ledger.future id ?_
    change (history.channel.step input).occupancy.accepted < id at later
    omega
  · intro handover mem
    simp only [step, handovers, List.append_nil] at mem
    exact ledger.current handover mem

theorem Ledger.of_read {history : History κ} (ledger : history.Ledger) {id : Nat}
    {outcome : ReadOutcome} {reader : Reader}
    (found : history.channel.engine.reader? id = some reader)
    (effect : history.channel.occupancy.ReadEffect reader outcome
      ((history.channel.handovers (.read id outcome)).map (·.payload))
      (history.channel.step (.read id outcome)).occupancy) :
    (history.step (.read id outcome)).Ledger := by
  obtain ⟨rfl, single, current⟩ := Channel.reader?_eq_some ledger.sound found
  have mem : reader ∈ history.channel.occupancy.readers := List.mem_of_find?_eq_some found
  have waiting := ledger.waiting reader mem
  have bytes := bytes_read found outcome
  have payloads := payloads_read ledger.sound reader.connection outcome
  have accepted := Channel.accepted_step ledger.sound (.read reader.connection outcome)
  constructor
  · exact effect.sound ledger.sound
  -- The reader that stays keeps what its last frame left.
  · intro other mem
    change other ∈ (history.channel.step (.read reader.connection outcome)).occupancy.readers at mem
    generalize (history.channel.step (.read reader.connection outcome)).occupancy = after
      at effect mem
    generalize handed : (history.channel.handovers (.read reader.connection outcome)).map
      (·.payload) = new at effect payloads
    cases effect with
    | keeps whole _ =>
      have alone : history.channel.occupancy.readers = [reader] := single
      rw [Occupancy.buffer, alone, leaveBuffered_singleton, List.mem_singleton] at mem
      subst mem
      rw [bytes, payloads, if_pos rfl, if_pos rfl, waiting, List.append_assoc, whole,
        List.flatMap_append, List.append_assoc]
    | ends front _ =>
      rw [ledger.sound.tidy.readers_vacate] at mem
      cases mem
  · intro other
    rw [bytes, payloads]
    split
    · rename_i same
      subst same
      rw [waiting, List.flatMap_append, List.append_assoc]
      exact List.prefix_append_right_inj _ |>.2 effect.front
    · simpa using ledger.handed other
  -- This connection is not one of those that are still to come.
  · intro other later
    change (history.channel.step (.read reader.connection outcome)).occupancy.accepted < other
      at later
    have known := ledger.sound.le_accepted current
    simp only [Input.isAccept] at accepted
    obtain ⟨nothing, none⟩ := ledger.future other (by omega)
    have unlike : other ≠ reader.connection := by omega
    rw [bytes, payloads, if_neg unlike, if_neg unlike, nothing, none]
    exact ⟨rfl, rfl⟩
  · intro handover mem
    rcases List.mem_append.1 mem with old | new
    · exact ledger.current handover old
    · obtain ⟨same, still⟩ := Channel.traceReceive_current ledger.sound outcome handover new
      rw [same]
      exact still

/-- Whatever happens, the invariant stays. -/
theorem Ledger.step {history : History κ} (ledger : history.Ledger) (input : Input κ) :
    (history.step input).Ledger := by
  rcases Channel.step_cases ledger.sound input with
    ⟨id, outcome, reader, rfl, found, effect⟩ | ⟨reads, handovers, moves⟩
  · exact ledger.of_read found effect
  · exact ledger.of_quiet reads handovers moves

omit [Kernel κ] in
theorem Ledger.fresh (kernel : κ) (config : Config) (container : Option Container) :
    (⟨Channel.fresh kernel config container, [], []⟩ : History κ).Ledger where
  sound := ⟨rfl, (by intro reader mem; cases mem), rfl, rfl⟩
  waiting reader mem := by cases mem
  handed id := List.prefix_refl _
  future id _ := ⟨rfl, rfl⟩
  current handover mem := by cases mem

theorem Ledger.run {history : History κ} (ledger : history.Ledger) (inputs : List (Input κ)) :
    (history.run inputs).Ledger :=
  run_induction (fun _ input ledger => ledger.step input) ledger inputs

end History

/-! ## Generations -/

namespace Channel

variable {κ : Type}

variable [Kernel κ]

theorem accepted_run {channel : Channel κ} (sound : channel.occupancy.Sound)
    (inputs : List (Input κ)) :
    (channel.run inputs).engine.accepted =
      channel.engine.accepted + inputs.countP Input.isAccept := by
  induction inputs generalizing channel with
  | nil => rfl
  | cons input inputs ih =>
    have first := accepted_step sound input
    have later := ih (step_sound sound input)
    change (channel.step input).engine.accepted = channel.engine.accepted + _ at first
    rw [List.countP_cons]
    refine later.trans ?_
    rw [first]
    omega

/-- A connection that is not the open one is neither read nor closed. -/
theorem stale_eq_self {channel : Channel κ} (sound : channel.occupancy.Sound) {id : Nat}
    (stale : channel.engine.isCurrent id = false) :
    (∀ outcome, channel.receive id outcome = channel) ∧
      ∀ reason, channel.close id reason = channel := by
  constructor
  · intro outcome
    cases found : channel.engine.reader? id with
    | none => rw [← traceReceive_snd, traceReceive_of_none found]
    | some reader =>
      obtain ⟨-, -, current⟩ := reader?_eq_some sound found
      exact absurd (stale.symm.trans current) (by decide)
  · intro reason
    unfold close
    cases current : channel.engine.connection with
    | none => rfl
    | some connection =>
      have unlike : connection.id ≠ id := by
        simpa [Engine.isCurrent, current] using stale
      exact if_neg unlike

/-- A step takes the open connection out once, for a cause that the input explains, or leaves the
slot to it. -/
theorem departures_step {channel : Channel κ} (sound : channel.occupancy.Sound) (input : Input κ) :
    ∃ left : Option (Nat × Cause),
      (channel.step input).occupancy.departures = channel.occupancy.departures ++ left.toList ∧
      match left with
      | some (id, cause) => channel.occupancy.isCurrent id = true ∧ input.Ends id cause ∧
          (channel.step input).occupancy.isCurrent id = false
      | none => ∀ id, channel.occupancy.isCurrent id = true →
          (channel.step input).occupancy.isCurrent id = true := by
  rcases step_cases sound input with ⟨id, outcome, reader, rfl, found, effect⟩ | ⟨-, -, moves⟩
  · obtain ⟨rfl, -, current⟩ := reader?_eq_some sound found
    generalize (channel.step (.read reader.connection outcome)).occupancy = after at effect
    cases effect with
    | keeps _ _ => exact ⟨none, (List.append_nil _).symm, fun _ current => current⟩
    | @ends cause _ ends =>
      obtain ⟨socket, slot⟩ := Occupancy.isCurrent_iff.1 current
      refine ⟨some (reader.connection, cause), Occupancy.departures_vacate slot cause, current, ?_,
        Occupancy.isCurrent_vacate _ _ _⟩
      exact ⟨rfl, ends⟩
  · generalize (channel.step input).occupancy = after at moves
    cases moves with
    | stays _ => exact ⟨none, (List.append_nil _).symm, fun _ current => current⟩
    | leaves connection cause _ slot ends =>
      exact ⟨some (connection.id, cause), Occupancy.departures_vacate slot cause,
        Occupancy.isCurrent_of_some slot, ends, Occupancy.isCurrent_vacate _ _ _⟩
    | enters socket same =>
      subst same
      rw [Occupancy.departures_enter]
      cases slot : channel.occupancy.connection with
      | none =>
        rw [Occupancy.vacate_of_none _ slot]
        refine ⟨none, (List.append_nil _).symm, fun id current => ?_⟩
        simp [Occupancy.isCurrent, slot] at current
      | some previous =>
        have current := Occupancy.isCurrent_of_some slot
        have older := sound.le_accepted current
        refine ⟨some (previous.id, .replaced), Occupancy.departures_vacate slot _, current,
          trivial, ?_⟩
        simp only [Occupancy.isCurrent, Occupancy.enter, Option.any_some, decide_eq_false_iff_not]
        omega

end Channel

/-- Connections are numbered from one as they are accepted. In every run:
the slot holds a connection exactly while its reader, and no other, is at work;
every number is given once, in order;
a payload is handed over while its connection is the open one, and was read on it;
whatever is done for a connection that is not the open one changes nothing;
and all connections but the open one left, in order and once each, one at a step and for a cause
that the step's input explains. -/
theorem generations_of_run {κ : Type} [Kernel κ] (kernel : κ) (config : Config)
    (container : Option Container) (inputs : List (Input κ)) :
    let history := (⟨Channel.fresh kernel config container, [], []⟩ : History κ).run inputs
    let channel := history.channel
    let accepted := inputs.countP Input.isAccept
    ((∀ id, channel.engine.isCurrent id = true ↔
        channel.engine.readers.map (·.connection) = [id]) ∧
      channel.engine.readers.map Occupancy.connectionOf = channel.engine.connection.toList) ∧
    channel.occupancy.arrivals = List.range' 1 accepted ∧
    ((∀ handover ∈ history.handovers,
        handover.channel.engine.isCurrent handover.connection = true) ∧
      ∀ id, (history.payloads id).flatMap Frame.frame <+: history.bytes id) ∧
    (∀ id, channel.engine.isCurrent id = false →
      (∀ outcome, channel.receive id outcome = channel) ∧
        ∀ reason, channel.close id reason = channel) ∧
    channel.occupancy.departures.map Prod.fst ++ channel.engine.connection.toList.map (·.id) =
      List.range' 1 accepted ∧
    ∀ input, ∃ left : Option (Nat × Cause),
      (channel.step input).occupancy.departures = channel.occupancy.departures ++ left.toList ∧
      match left with
      | some (id, cause) => channel.engine.isCurrent id = true ∧ input.Ends id cause ∧
          (channel.step input).engine.isCurrent id = false
      | none => ∀ id, channel.engine.isCurrent id = true →
          (channel.step input).engine.isCurrent id = true := by
  intro history channel accepted
  have ledger : history.Ledger := (History.Ledger.fresh kernel config container).run inputs
  have count : channel.engine.accepted = accepted := by
    have counted := Channel.accepted_run (History.Ledger.fresh kernel config container).sound inputs
    rw [← History.channel_run] at counted
    exact counted.trans (Nat.zero_add _)
  have arrivals := ledger.sound.arrivals
  have departures := ledger.sound.departures
  rw [show history.channel.occupancy.accepted = accepted from count] at arrivals departures
  exact ⟨⟨ledger.sound.isCurrent_iff_readers, ledger.sound.readers⟩, arrivals,
    ⟨ledger.current, ledger.handed⟩, fun id stale => Channel.stale_eq_self ledger.sound stale,
    departures, Channel.departures_step ledger.sound⟩

end ServiceChannel
