import ServiceChannel.Proofs.Channel.Hooks
import ServiceChannel.Proofs.Kernel.Script

/-!
# Reading while the state changes underneath

The hook of a stop runs in the middle of a read and may call anything on the engine that reads.
What the reader does with the rest of its buffer depends on one thing only: whether the hook let go
of the connection. A connection that was let go of is never heard of again, whatever takes its
place.

- `Leads`: runs with hooks that change.
- `Occupancy.Gone`, `Leads.gone`: connections that have left.
- `reentrant_hooks`: one read, whatever the hooks do.
-/

namespace ServiceChannel

variable {κ : Type} [Kernel κ]

/-! ## Runs -/

/-- Where a channel gets, and what is handed over on the way: one step after the other, reads with
hooks that change among them. -/
inductive Leads : Channel κ → List (Handover κ) → Channel κ → Prop where
  | refl (channel : Channel κ) : Leads channel [] channel
  | step {start here : Channel κ} {handed : List (Handover κ)} (led : Leads start handed here)
    (input : Input κ) : Leads start (handed ++ here.handovers input) (here.step input)
  | read {start here : Channel κ} {handed : List (Handover κ)} (led : Leads start handed here)
    (hooks : Channel κ → List EngineCall) {id : Nat} {reader : Reader}
    (found : here.engine.reader? id = some reader) (bytes : Bytes) :
    Leads start (handed ++ (here.readHooked hooks reader bytes).1)
      (here.readHooked hooks reader bytes).2

namespace Channel

/-- What a read with hooks that change does to connections. -/
theorem readHooked_occupancy (hooks : Channel κ → List EngineCall) {channel : Channel κ}
    (sound : channel.occupancy.Sound) {id : Nat} {reader : Reader}
    (found : channel.engine.reader? id = some reader) (bytes : Bytes) :
    (∃ cause, (channel.readHooked hooks reader bytes).2.occupancy =
      channel.occupancy.vacate cause) ∨
    ∃ rest, Frame.split channel.engine.config.maxMessageSize rest = .incomplete ∧
      (channel.readHooked hooks reader bytes).2.occupancy = channel.occupancy.buffer id rest := by
  obtain ⟨-, -, current⟩ := reader?_eq_some sound found
  obtain ⟨last, -, ⟨short, result⟩ | ⟨heard, result⟩⟩ := readHooked_cases hooks sound found bytes
  · rw [result]
    exact .inl ⟨_, short.vacated⟩
  · rw [result]
    cases fault : (understand channel.engine.config.maxMessageSize
        (reader.buffered ++ bytes)).fault with
    | none =>
      obtain ⟨whole, -, same⟩ := understand_eq_of_fault_eq_none fault
      refine .inr ⟨(understand channel.engine.config.maxMessageSize
        (reader.buffered ++ bytes)).rest, ?_, ?_⟩
      · rw [same]
        exact Frame.split_rest_of_incomplete whole
      · dsimp only
        rw [occupancy_setBuffered, heard.kept, Occupancy.buffer_buffer]
    | some error =>
      have still : last.occupancy.isCurrent id = true := by
        rw [heard.kept]
        exact current
      refine .inl ⟨.closed (.decodeFailed error), ?_⟩
      rw [occupancy_close_of_current still, heard.kept, Occupancy.vacate_buffer current]

theorem readHooked_sound (hooks : Channel κ → List EngineCall) {channel : Channel κ}
    (sound : channel.occupancy.Sound) {id : Nat} {reader : Reader}
    (found : channel.engine.reader? id = some reader) (bytes : Bytes) :
    (channel.readHooked hooks reader bytes).2.occupancy.Sound := by
  obtain ⟨cause, same⟩ | ⟨rest, unfinished, same⟩ := readHooked_occupancy hooks sound found bytes
  · rw [same]
    exact sound.vacate cause
  · rw [same]
    exact sound.buffer id unfinished

end Channel

theorem Leads.sound {start here : Channel κ} {handed : List (Handover κ)}
    (led : Leads start handed here) (sound : start.occupancy.Sound) : here.occupancy.Sound := by
  induction led with
  | refl => exact sound
  | step _ input ih => exact Channel.step_sound ih input
  | read _ hooks found bytes ih => exact Channel.readHooked_sound hooks ih found bytes

/-! ## Connections that have left -/

namespace Occupancy

/-- The connection was accepted once and is not the open one any more. -/
structure Gone (occupancy : Occupancy) (id : Nat) : Prop where
  accepted : id ≤ occupancy.accepted
  left : occupancy.isCurrent id = false

variable {occupancy after : Occupancy} {id : Nat}

theorem Gone.vacate (gone : occupancy.Gone id) (cause : Cause) :
    (occupancy.vacate cause).Gone id where
  accepted := (accepted_vacate occupancy cause).symm ▸ gone.accepted
  left := isCurrent_vacate occupancy cause id

theorem Gone.vacate_of_current (sound : occupancy.Sound) (current : occupancy.isCurrent id = true)
    (cause : Cause) : (occupancy.vacate cause).Gone id where
  accepted := (accepted_vacate occupancy cause).symm ▸ sound.le_accepted current
  left := isCurrent_vacate occupancy cause id

/-- A connection that arrives has a number of its own. -/
theorem Gone.enter (gone : occupancy.Gone id) (socket : Handle) :
    (occupancy.enter socket).Gone id := by
  obtain ⟨accepted, -⟩ := gone
  have other : occupancy.accepted + 1 ≠ id := by omega
  constructor
  · exact Nat.le_succ_of_le accepted
  · simp [isCurrent, Occupancy.enter, other]

theorem Gone.of_moves {κ : Type} (gone : occupancy.Gone id) {input : Input κ}
    (moves : occupancy.Moves input after) : after.Gone id := by
  cases moves with
  | stays _ => exact gone
  | enters socket _ => exact gone.enter socket
  | leaves connection cause _ _ _ => exact gone.vacate cause

theorem Gone.of_readEffect (gone : occupancy.Gone id) {reader : Reader} {outcome : ReadOutcome}
    {payloads : List Bytes} (effect : occupancy.ReadEffect reader outcome payloads after) :
    after.Gone id := by
  cases effect with
  | keeps _ _ => exact ⟨gone.accepted, gone.left⟩
  | ends _ _ => exact gone.vacate _

end Occupancy

/-- A connection that has left does not come back, and hands nothing over. -/
theorem Leads.gone {start here : Channel κ} {handed : List (Handover κ)}
    (led : Leads start handed here) (sound : start.occupancy.Sound) {id : Nat}
    (gone : start.occupancy.Gone id) :
    here.occupancy.Gone id ∧ ∀ handover ∈ handed, handover.connection ≠ id := by
  induction led with
  | refl => exact ⟨gone, by simp⟩
  | @step here handed led input ih =>
    obtain ⟨left, others⟩ := ih
    have sound := led.sound sound
    obtain ⟨reading, outcome, reader, rfl, found, effect⟩ | ⟨-, nothing, moves⟩ :=
      Channel.step_cases sound input
    -- Who hands over is current, and a connection that has left is not.
    · refine ⟨left.of_readEffect effect, List.forall_mem_append.2 ⟨others, ?_⟩⟩
      rintro handover mem rfl
      obtain ⟨same, -⟩ := Channel.traceReceive_current sound outcome handover mem
      obtain ⟨-, -, current⟩ := Channel.reader?_eq_some sound found
      rw [← same] at current
      exact absurd (left.left.symm.trans current) nofun
    · refine ⟨left.of_moves moves, ?_⟩
      rw [nothing, List.append_nil]
      exact others
  | @read here handed led hooks reading reader found bytes ih =>
    obtain ⟨left, others⟩ := ih
    have sound := led.sound sound
    obtain ⟨-, -, current⟩ := Channel.reader?_eq_some sound found
    have unlike : reading ≠ id := by
      rintro rfl
      exact absurd (left.left.symm.trans current) nofun
    obtain ⟨last, dispatched, -⟩ := Channel.readHooked_cases hooks sound found bytes
    refine ⟨?_, List.forall_mem_append.2 ⟨others, fun handover mem => ?_⟩⟩
    · obtain ⟨cause, same⟩ | ⟨rest, -, same⟩ :=
        Channel.readHooked_occupancy hooks sound found bytes
      · rw [same]
        exact left.vacate cause
      · rw [same]
        exact ⟨left.accepted, left.left⟩
    · rw [dispatched.own handover mem]
      exact unlike

/-! ## One read -/

/-- A read of bytes, whatever the stop hooks do that run in the middle of it.
The hook may be another one at every stop, and what it calls may depend on everything. With the hook
that the container has, the read is the one that the channel takes.
The payloads of the frames that are buffered are handed over in order, each to what the one before
has left when its hook had returned. When the hook of one of them lets go of the connection, that
one is the last: nothing else is done then, the connection is not closed a second time, and it is
never read, closed or heard of again, whichever connections come. When no hook does, all payloads
are handed over up to the first that is refused, which closes the connection; without one, part of a
frame stays in the buffer. -/
theorem reentrant_hooks {kernel : κ} {config : Config} {container : Option Container}
    {past : List (Handover κ)} {channel : Channel κ}
    (led : Leads (Channel.fresh kernel config container) past channel) {id : Nat} {reader : Reader}
    (found : channel.engine.reader? id = some reader) (bytes : Bytes)
    (hooks : Channel κ → List EngineCall) :
    let said := understand channel.engine.config.maxMessageSize (reader.buffered ++ bytes)
    let read := channel.readHooked hooks reader bytes
    channel.readHooked Channel.stopHook reader bytes = channel.traceReceive id (.data bytes) ∧
    read.1.map (·.payload) <+: said.payloads ∧
    ∃ last, Dispatched hooks id (channel.onEngine (·.setBuffered id [])) read.1 last ∧
      (∀ before handover later, read.1 = before ++ handover :: later → handover.LetsGo →
        later = [] ∧ read.2 = handover.after ∧
        read.2.occupancy.departuresOf id = [.released] ∧
        ∀ handed future, Leads read.2 handed future →
          future.engine.isCurrent id = false ∧
          (∀ outcome, future.receive id outcome = future) ∧
          (∀ reason, future.close id reason = future) ∧
          ∀ handover ∈ handed, handover.connection ≠ id) ∧
      ((∀ handover ∈ read.1, ¬ handover.LetsGo) →
        read.1.map (·.payload) = said.payloads ∧
        read.2 = match said.fault with
          | none => last.onEngine (·.setBuffered id said.rest)
          | some error => last.close id (.decodeFailed error)) := by
  intro said read
  have sound : channel.occupancy.Sound :=
    led.sound (History.Ledger.fresh kernel config container).sound
  obtain ⟨-, -, current⟩ := Channel.reader?_eq_some sound found
  have after : read.2.occupancy.Sound := Channel.readHooked_sound hooks sound found bytes
  refine ⟨Channel.readHooked_stopHook found bytes, ?_⟩
  obtain ⟨last, dispatched, ⟨short, result⟩ | ⟨heard, result⟩⟩ :=
    Channel.readHooked_cases hooks sound found bytes
  · refine ⟨short.order, last, dispatched, ?_, ?_⟩
    · intro before handover later split lets
      obtain ⟨front, final, whole, -, others⟩ := short.released
      obtain ⟨rfl, rfl, rfl⟩ | ⟨earlier, -, rfl⟩ := split_concat (whole.symm.trans split)
      -- Connections are numbered upwards, so that none that comes later can be taken for this one.
      · have left : read.2.occupancy = channel.occupancy.vacate .released :=
          result ▸ short.vacated
        have gone : read.2.occupancy.Gone id := by
          rw [left]
          exact Occupancy.Gone.vacate_of_current sound current .released
        have departures : read.2.occupancy.departuresOf id = [.released] := by
          rw [left, Occupancy.departuresOf_vacate current, sound.departuresOf_of_current current]
          rfl
        refine ⟨rfl, result.trans (whole ▸ dispatched).last_of_concat, departures, ?_⟩
        intro handed future led
        obtain ⟨still, others⟩ := led.gone after gone
        have stale : future.engine.isCurrent id = false := still.left
        obtain ⟨deaf, spent⟩ := Channel.stale_eq_self (led.sound after) stale
        exact ⟨stale, deaf, spent, others⟩
      · -- Only the last one lets go.
        exact absurd lets (others handover (by simp))
    · intro keeps
      obtain ⟨front, final, whole, lets, -⟩ := short.released
      exact absurd lets (keeps final (whole ▸ List.mem_concat_self))
  · refine ⟨heard.all ▸ List.prefix_refl _, last, dispatched, ?_, fun _ => ⟨heard.all, result⟩⟩
    intro before handover later split lets
    exact absurd lets (heard.keeps handover (split ▸ by simp))

/-- A hook gives everything up and brings the engine up again. The agent asks for a shutdown in the
middle of what it sends, so its last message is not heard, and when another connection has come in,
bytes of the first mean nothing. -/
theorem cleanup_in_the_middle_of_a_read :
    let container : Container :=
      { Container.recording with
        role := .recording { hook := [.cleanup, .create, .bind, .listen] } }
    let start := Channel.fresh (⟨[]⟩ : Script) {} (some container)
    let raised := start.run [.call .create, .call .bind, .call .listen, .accept 7]
    let sent : List AgentMessage := [.bootCompleted, .shutdown, .masterClear]
    let stream : Bytes := sent.flatMap fun message => Frame.frame message.encode
    let read := raised.readHooked Channel.stopHook ⟨1, 7, []⟩ stream
    let later := read.2.step (.accept 9)
    raised.engine.reader? 1 = some ⟨1, 7, []⟩ ∧
    (understand raised.engine.config.maxMessageSize stream).payloads = sent.map (·.encode) ∧
    read.1.map (·.payload) = [AgentMessage.bootCompleted.encode, AgentMessage.shutdown.encode] ∧
    read.2.occupancy.departuresOf 1 = [.released] ∧
    later.engine.connection = some ⟨2, 9⟩ ∧
    later.receive 1 (.data stream) = later := by
  intro container start raised sent stream read later
  have found : raised.engine.reader? 1 = some ⟨1, 7, []⟩ := by decide +kernel
  have led : Leads start [] raised :=
    ((((Leads.refl start).step (.call .create)).step (.call .bind)).step (.call .listen)).step
      (.accept 7)
  obtain ⟨-, -, last, -, released, heard⟩ := reentrant_hooks led found stream Channel.stopHook
  have payloads : read.1.map (·.payload) =
      [AgentMessage.bootCompleted.encode, AgentMessage.shutdown.encode] := by decide +kernel
  have said : (understand raised.engine.config.maxMessageSize stream).payloads =
      sent.map (·.encode) := by decide +kernel
  have letsGo : ∃ handover ∈ read.1, handover.LetsGo := by
    by_contra! none
    have all := (heard none).1
    exact absurd (payloads.symm.trans (all.trans said)) (by decide +kernel)
  obtain ⟨handover, mem, letsGo⟩ := letsGo
  obtain ⟨before, after, split⟩ := List.append_of_mem mem
  obtain ⟨-, -, departed, future⟩ := released before handover after split letsGo
  obtain ⟨-, deaf, -, -⟩ := future _ later ((Leads.refl read.2).step (.accept 9))
  exact ⟨found, said, payloads, departed, by decide +kernel, deaf _⟩

end ServiceChannel
