import ServiceChannel.Channel.Standalone

/-!
# Occupancy

What a channel knows about its connections: the slot of the open one, the readers at work, how many
connections were accepted, and what the log says about their coming and going. All else of a channel
can change without it.

- `Occupancy.vacate`, `Occupancy.enter`, `Occupancy.close`, `Occupancy.buffer`: the ways in which it
  changes.
- `Occupancy.Handled`: what handling a message can do to it.
- `Occupancy.Tidy`: the open connection has the only reader.
- `Occupancy.Sound`: the invariant.
-/

namespace ServiceChannel

/-! ## Passages -/

/-- Why a connection left the slot. -/
inductive Cause where
  /-- A newer connection took its place. -/
  | replaced
  /-- Its own reading ended it. -/
  | closed (reason : Teardown)
  /-- The engine let go of everything. -/
  | released
  deriving DecidableEq

/-- A connection comes into the slot or leaves it. -/
inductive Passage where
  | arrival (id : Nat)
  | departure (id : Nat) (cause : Cause)
  deriving DecidableEq

namespace Passage

/-- The connection that comes. -/
def arrival? : Passage → Option Nat
  | .arrival id => some id
  | .departure _ _ => none

/-- The connection that leaves, and why. -/
def departure? : Passage → Option (Nat × Cause)
  | .arrival _ => none
  | .departure id cause => some (id, cause)

end Passage

/-- The passage that an event reports. -/
@[simp] def Event.passage? : Event → Option Passage
  | .connected id => some (.arrival id)
  | .replacing id => some (.departure id .replaced)
  | .disconnected id => some (.departure id (.closed .peerClosed))
  | .closing id reason => some (.departure id (.closed reason))
  | .releasingConnection id => some (.departure id .released)
  | _ => none

/-! ## Buffers -/

/-- The readers, with the bytes left in the buffer of one of them. -/
def leaveBuffered (id : Nat) (bytes : Bytes) (readers : List Reader) : List Reader :=
  readers.map fun reader =>
    if reader.connection = id then { reader with buffered := bytes } else reader

theorem Engine.setBuffered_eq (engine : Engine) (id : Nat) (bytes : Bytes) :
    engine.setBuffered id bytes =
      { engine with readers := leaveBuffered id bytes engine.readers } := rfl

theorem leaveBuffered_leaveBuffered (id : Nat) (bytes other : Bytes) (readers : List Reader) :
    leaveBuffered id other (leaveBuffered id bytes readers) = leaveBuffered id other readers := by
  unfold leaveBuffered
  rw [List.map_map]
  refine List.map_congr_left fun reader _ => ?_
  simp only [Function.comp]
  split <;> rfl

theorem leaveBuffered_singleton (reader : Reader) (bytes : Bytes) :
    leaveBuffered reader.connection bytes [reader] = [{ reader with buffered := bytes }] := by
  simp [leaveBuffered]

/-- What was left in a buffer is lost with its reader. -/
theorem filter_leaveBuffered (id : Nat) (bytes : Bytes) (readers : List Reader) :
    (leaveBuffered id bytes readers).filter (·.connection ≠ id) =
      readers.filter (·.connection ≠ id) := by
  unfold leaveBuffered
  induction readers with
  | nil => rfl
  | cons reader readers ih =>
    by_cases same : reader.connection = id
    · simpa [same] using ih
    · simpa [same] using ih

/-! ## Occupancy -/

/-- What a channel knows about its connections. -/
structure Occupancy where
  config : Config
  connection : Option Connection
  readers : List Reader
  accepted : Nat
  /-- What the log reports, the oldest first. -/
  passages : List Passage

/-- What the channel knows about its connections. -/
def Channel.occupancy {κ : Type} (channel : Channel κ) : Occupancy where
  config := channel.engine.config
  connection := channel.engine.connection
  readers := channel.engine.readers
  accepted := channel.engine.accepted
  passages := channel.log.toList.filterMap Event.passage?

namespace Occupancy

/-- The connection is the open one. -/
def isCurrent (occupancy : Occupancy) (id : Nat) : Bool := occupancy.connection.any (·.id = id)

/-- The open connection leaves, if there is one, and its reader stops. -/
def vacate (occupancy : Occupancy) (cause : Cause) : Occupancy :=
  match occupancy.connection with
  | none => occupancy
  | some connection =>
    { occupancy with
      connection := none
      readers := occupancy.readers.filter (·.connection ≠ connection.id)
      passages := occupancy.passages ++ [.departure connection.id cause] }

/-- A connection comes, under the next number. -/
def enter (occupancy : Occupancy) (socket : Handle) : Occupancy :=
  let vacated := occupancy.vacate .replaced
  let id := occupancy.accepted + 1
  { vacated with
    connection := some ⟨id, socket⟩
    readers := vacated.readers ++ [⟨id, socket, []⟩]
    accepted := id
    passages := vacated.passages ++ [.arrival id] }

/-- The connection `id` ends, if it is still the open one. -/
def close (occupancy : Occupancy) (id : Nat) (reason : Teardown) : Occupancy :=
  if occupancy.isCurrent id then occupancy.vacate (.closed reason) else occupancy

/-- The log reports a passage, or something else. -/
def report (occupancy : Occupancy) (passage : Option Passage) : Occupancy :=
  { occupancy with passages := occupancy.passages ++ passage.toList }

/-- Bytes are left in the buffer of a reader. -/
def buffer (occupancy : Occupancy) (id : Nat) (bytes : Bytes) : Occupancy :=
  { occupancy with readers := leaveBuffered id bytes occupancy.readers }

/-- The connections that came, by the log. -/
def arrivals (occupancy : Occupancy) : List Nat :=
  occupancy.passages.filterMap Passage.arrival?

/-- The connections that left, and why, by the log. -/
def departures (occupancy : Occupancy) : List (Nat × Cause) :=
  occupancy.passages.filterMap Passage.departure?

/-- Why a connection left, by the log. -/
def departuresOf (occupancy : Occupancy) (id : Nat) : List Cause :=
  (occupancy.departures.filter (·.1 = id)).map (·.2)

/-- Nothing changed, or the engine let go of the open connection. -/
inductive Handled (before : Occupancy) : Occupancy → Prop where
  | kept : Handled before before
  | released : Handled before (before.vacate .released)

/-! ## Laws -/

@[simp] theorem report_none (occupancy : Occupancy) : occupancy.report none = occupancy := by
  simp [report]

theorem isCurrent_iff {occupancy : Occupancy} {id : Nat} :
    occupancy.isCurrent id = true ↔ ∃ socket, occupancy.connection = some ⟨id, socket⟩ := by
  unfold isCurrent
  cases occupancy.connection with
  | none => simp
  | some connection =>
    obtain ⟨current, socket⟩ := connection
    simp

theorem vacate_of_none {occupancy : Occupancy} (cause : Cause)
    (empty : occupancy.connection = none) : occupancy.vacate cause = occupancy := by
  unfold vacate
  rw [empty]

@[simp] theorem connection_vacate (occupancy : Occupancy) (cause : Cause) :
    (occupancy.vacate cause).connection = none := by
  unfold vacate
  split
  · assumption
  · rfl

theorem isCurrent_of_some {occupancy : Occupancy} {connection : Connection}
    (current : occupancy.connection = some connection) :
    occupancy.isCurrent connection.id = true := by
  simp [isCurrent, current]

@[simp] theorem isCurrent_vacate (occupancy : Occupancy) (cause : Cause) (id : Nat) :
    (occupancy.vacate cause).isCurrent id = false := by
  have empty : (occupancy.vacate cause).connection = none := by
    unfold vacate
    split
    · assumption
    · rfl
  rw [isCurrent, empty]
  rfl

theorem departures_vacate {occupancy : Occupancy} {connection : Connection}
    (current : occupancy.connection = some connection) (cause : Cause) :
    (occupancy.vacate cause).departures = occupancy.departures ++ [(connection.id, cause)] := by
  simp [departures, vacate, current, Passage.departure?]

theorem departuresOf_vacate {occupancy : Occupancy} {id : Nat}
    (current : occupancy.isCurrent id = true) (cause : Cause) :
    (occupancy.vacate cause).departuresOf id = occupancy.departuresOf id ++ [cause] := by
  obtain ⟨socket, slot⟩ := isCurrent_iff.1 current
  simp [departuresOf, departures_vacate slot]

theorem arrivals_vacate (occupancy : Occupancy) (cause : Cause) :
    (occupancy.vacate cause).arrivals = occupancy.arrivals := by
  unfold vacate
  split
  · rfl
  · simp [arrivals, List.filterMap_cons, Passage.arrival?]

theorem departures_enter (occupancy : Occupancy) (socket : Handle) :
    (occupancy.enter socket).departures = (occupancy.vacate .replaced).departures := by
  simp [departures, enter, List.filterMap_cons, Passage.departure?]

theorem arrivals_enter (occupancy : Occupancy) (socket : Handle) :
    (occupancy.enter socket).arrivals = occupancy.arrivals ++ [occupancy.accepted + 1] := by
  rw [← arrivals_vacate occupancy .replaced]
  simp [arrivals, enter, Passage.arrival?]

@[simp] theorem accepted_vacate (occupancy : Occupancy) (cause : Cause) :
    (occupancy.vacate cause).accepted = occupancy.accepted := by
  unfold vacate
  split <;> rfl

@[simp] theorem config_vacate (occupancy : Occupancy) (cause : Cause) :
    (occupancy.vacate cause).config = occupancy.config := by
  unfold vacate
  split <;> rfl

/-- A connection that has left cannot leave again. -/
@[simp] theorem vacate_vacate (occupancy : Occupancy) (cause other : Cause) :
    (occupancy.vacate cause).vacate other = occupancy.vacate cause :=
  vacate_of_none other (connection_vacate occupancy cause)

theorem Handled.of_eq {before after : Occupancy} (same : after = before) :
    before.Handled after := by
  subst same
  exact .kept

theorem Handled.trans {first second third : Occupancy} (before : first.Handled second)
    (after : second.Handled third) : first.Handled third := by
  cases before with
  | kept => exact after
  | released =>
    cases after with
    | kept => exact .released
    | released =>
      rw [vacate_vacate]
      exact .released

/-- A connection that is still open after a message was handled is as it was. -/
theorem Handled.eq_of_isCurrent {before after : Occupancy} (handled : before.Handled after)
    {id : Nat} (current : after.isCurrent id = true) : after = before := by
  cases handled with
  | kept => rfl
  | released => simp [isCurrent] at current

/-- A connection that is no longer open after a message was handled was let go of. -/
theorem Handled.eq_vacate {before after : Occupancy} (handled : before.Handled after) {id : Nat}
    (current : before.isCurrent id = true) (gone : ¬ after.isCurrent id = true) :
    after = before.vacate .released := by
  cases handled with
  | kept => exact absurd current gone
  | released => rfl

theorem close_of_not_current {occupancy : Occupancy} {id : Nat} (reason : Teardown)
    (stale : occupancy.isCurrent id = false) : occupancy.close id reason = occupancy := by
  unfold close
  rw [stale]
  rfl

theorem buffer_buffer (occupancy : Occupancy) (id : Nat) (bytes other : Bytes) :
    (occupancy.buffer id bytes).buffer id other = occupancy.buffer id other := by
  simp only [buffer, leaveBuffered_leaveBuffered]

theorem buffer_self {occupancy : Occupancy} {reader : Reader}
    (single : occupancy.readers = [reader]) :
    occupancy.buffer reader.connection reader.buffered = occupancy := by
  rw [buffer, single, leaveBuffered_singleton, ← single]

theorem vacate_buffer {occupancy : Occupancy} {id : Nat} (current : occupancy.isCurrent id = true)
    (bytes : Bytes) (cause : Cause) :
    (occupancy.buffer id bytes).vacate cause = occupancy.vacate cause := by
  obtain ⟨socket, current⟩ := isCurrent_iff.1 current
  simp only [vacate, buffer, current, filter_leaveBuffered]

/-! ## Readers -/

/-- The connection that a reader reads. -/
def connectionOf (reader : Reader) : Connection := ⟨reader.connection, reader.socket⟩

/-- The open connection has a reader, and there is no other. -/
def Tidy (occupancy : Occupancy) : Prop :=
  occupancy.readers.map connectionOf = occupancy.connection.toList

namespace Tidy

variable {occupancy : Occupancy}

theorem readers_of_none (tidy : occupancy.Tidy) (empty : occupancy.connection = none) :
    occupancy.readers = [] := by
  rw [Tidy, empty] at tidy
  exact List.map_eq_nil_iff.1 tidy

theorem readers_of_some (tidy : occupancy.Tidy) {connection : Connection}
    (current : occupancy.connection = some connection) :
    ∃ buffered, occupancy.readers = [⟨connection.id, connection.socket, buffered⟩] := by
  rw [Tidy, current] at tidy
  obtain ⟨reader, single, rfl⟩ := List.map_eq_singleton_iff.1 tidy
  exact ⟨reader.buffered, single⟩

theorem vacate (tidy : occupancy.Tidy) (cause : Cause) : (occupancy.vacate cause).Tidy := by
  cases current : occupancy.connection with
  | none =>
    rw [vacate_of_none cause current]
    exact tidy
  | some connection =>
    obtain ⟨buffered, single⟩ := tidy.readers_of_some current
    simp [Tidy, Occupancy.vacate, current, single]

/-- Once the open connection has left, nothing is read. -/
theorem readers_vacate (tidy : occupancy.Tidy) (cause : Cause) :
    (occupancy.vacate cause).readers = [] :=
  (tidy.vacate cause).readers_of_none (connection_vacate occupancy cause)

/-- A connection that comes has the only reader, which has read nothing. -/
theorem readers_enter (tidy : occupancy.Tidy) (socket : Handle) :
    (occupancy.enter socket).readers = [⟨occupancy.accepted + 1, socket, []⟩] := by
  simp [Occupancy.enter, tidy.readers_vacate]

theorem enter (tidy : occupancy.Tidy) (socket : Handle) : (occupancy.enter socket).Tidy := by
  rw [Tidy, tidy.readers_enter]
  rfl

theorem close (tidy : occupancy.Tidy) (id : Nat) (reason : Teardown) :
    (occupancy.close id reason).Tidy := by
  unfold Occupancy.close
  split
  · exact tidy.vacate _
  · exact tidy

theorem buffer (tidy : occupancy.Tidy) (id : Nat) (bytes : Bytes) :
    (occupancy.buffer id bytes).Tidy := by
  refine Eq.trans ?_ tidy
  simp only [Occupancy.buffer, leaveBuffered, List.map_map]
  refine List.map_congr_left fun reader _ => ?_
  simp only [Function.comp, connectionOf]
  split <;> rfl

theorem handled {after : Occupancy} (tidy : occupancy.Tidy) (handled : occupancy.Handled after) :
    after.Tidy := by
  cases handled with
  | kept => exact tidy
  | released => exact tidy.vacate _

end Tidy

/-! ## The invariant -/

/-- The open connection has the only reader, which keeps part of a frame at most; connections come
as they are numbered, and all have left but the open one. -/
structure Sound (occupancy : Occupancy) : Prop where
  readers : occupancy.readers.map connectionOf = occupancy.connection.toList
  unfinished : ∀ reader ∈ occupancy.readers,
    Frame.split occupancy.config.maxMessageSize reader.buffered = .incomplete
  arrivals : occupancy.arrivals = List.range' 1 occupancy.accepted
  departures : occupancy.departures.map Prod.fst ++ occupancy.connection.toList.map (·.id) =
    List.range' 1 occupancy.accepted

namespace Sound

variable {occupancy : Occupancy}

theorem tidy (sound : occupancy.Sound) : occupancy.Tidy := sound.readers

theorem readers_of_none (sound : occupancy.Sound) (empty : occupancy.connection = none) :
    occupancy.readers = [] :=
  sound.tidy.readers_of_none empty

theorem readers_of_some (sound : occupancy.Sound) {connection : Connection}
    (current : occupancy.connection = some connection) :
    ∃ buffered, occupancy.readers = [⟨connection.id, connection.socket, buffered⟩] :=
  sound.tidy.readers_of_some current

/-- A reader at work is the one of the open connection, and the only one. -/
theorem of_mem (sound : occupancy.Sound) {reader : Reader} (mem : reader ∈ occupancy.readers) :
    occupancy.readers = [reader] ∧ occupancy.connection = some (connectionOf reader) := by
  cases current : occupancy.connection with
  | none =>
    rw [sound.readers_of_none current] at mem
    cases mem
  | some connection =>
    obtain ⟨buffered, single⟩ := sound.readers_of_some current
    rw [single] at mem ⊢
    rw [List.mem_singleton.1 mem]
    exact ⟨rfl, rfl⟩

theorem isCurrent_iff_readers (sound : occupancy.Sound) (id : Nat) :
    occupancy.isCurrent id = true ↔ occupancy.readers.map (·.connection) = [id] := by
  unfold isCurrent
  cases current : occupancy.connection with
  | none => simp [sound.readers_of_none current]
  | some connection =>
    obtain ⟨buffered, single⟩ := sound.readers_of_some current
    simp [single]

theorem le_accepted (sound : occupancy.Sound) {id : Nat} (current : occupancy.isCurrent id = true) :
    id ≤ occupancy.accepted := by
  obtain ⟨socket, slot⟩ := isCurrent_iff.1 current
  have departures := sound.departures
  rw [slot] at departures
  have mem : id ∈ List.range' 1 occupancy.accepted := by
    rw [← departures]
    simp
  have := (List.mem_range'_1.1 mem).2
  omega

theorem isCurrent_of_departuresOf (sound : occupancy.Sound) {id : Nat} {cause : Cause}
    (left : cause ∈ occupancy.departuresOf id) : occupancy.isCurrent id = false := by
  obtain ⟨departure, mem, -⟩ := List.mem_map.1 left
  obtain ⟨departed, same⟩ := List.mem_filter.1 mem
  have same : departure.1 = id := by simpa using same
  by_cases current : occupancy.isCurrent id = true
  · obtain ⟨socket, slot⟩ := isCurrent_iff.1 current
    have distinct : (occupancy.departures.map Prod.fst ++
        occupancy.connection.toList.map (·.id)).Nodup := by
      rw [sound.departures]
      exact List.nodup_range'
    rw [slot] at distinct
    have other := (List.nodup_append.1 distinct).2.2 _ (List.mem_map_of_mem departed) id (by simp)
    exact absurd same other
  · simpa using current

/-- The open connection has not left before. -/
theorem departuresOf_of_current (sound : occupancy.Sound) {id : Nat}
    (current : occupancy.isCurrent id = true) : occupancy.departuresOf id = [] := by
  refine List.eq_nil_iff_forall_not_mem.2 fun cause left => ?_
  exact absurd ((sound.isCurrent_of_departuresOf left).symm.trans current) (by decide)

/-! ## What keeps it -/

theorem vacate (sound : occupancy.Sound) (cause : Cause) : (occupancy.vacate cause).Sound := by
  cases current : occupancy.connection with
  | none =>
    rw [vacate_of_none cause current]
    exact sound
  | some connection =>
    constructor
    · exact sound.tidy.vacate cause
    · simp [sound.tidy.readers_vacate]
    · rw [arrivals_vacate, accepted_vacate]
      exact sound.arrivals
    · rw [departures_vacate current, connection_vacate, accepted_vacate, ← sound.departures,
        current]
      simp

theorem enter (sound : occupancy.Sound) (socket : Handle) : (occupancy.enter socket).Sound := by
  have vacated := sound.vacate .replaced
  have empty := connection_vacate occupancy .replaced
  constructor
  · exact sound.tidy.enter socket
  · simp [sound.tidy.readers_enter, Frame.split]
  · rw [arrivals_enter, sound.arrivals]
    simp [Occupancy.enter, List.range'_concat, Nat.add_comm]
  · have departures := vacated.departures
    rw [empty, accepted_vacate, Option.toList_none, List.map_nil, List.append_nil] at departures
    rw [departures_enter, departures]
    simp [Occupancy.enter, List.range'_concat, Nat.add_comm]

theorem buffer (sound : occupancy.Sound) (id : Nat) {bytes : Bytes}
    (unfinished : Frame.split occupancy.config.maxMessageSize bytes = .incomplete) :
    (occupancy.buffer id bytes).Sound := by
  refine ⟨sound.tidy.buffer id bytes, ?_, sound.arrivals, sound.departures⟩
  intro reader mem
  obtain ⟨before, known, rfl⟩ := List.mem_map.1 mem
  split
  · exact unfinished
  · exact sound.unfinished before known

end Sound

end Occupancy
end ServiceChannel
