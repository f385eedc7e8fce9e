import ServiceChannel.Proofs.Channel.Estate

/-!
# What holds along a read

A read hands payloads over one after the other, and each is handled before the next. So what every
handling keeps, given the payloads handed over so far, holds at every handover and after the read.

- `Along`: what holds at every handover, and after the last.
- `Channel.traceReceive_along`: one read.
- `History.step_along`: one input, for what only payloads, stops and changes of the container touch.
-/

namespace ServiceChannel

/-- At every handover this holds, given those before it, and after the last it holds of the channel
that is left. -/
structure Along {κ : Type} (motive : List (Handover κ) → Channel κ → Prop)
    (past handed : List (Handover κ)) (after : Channel κ) : Prop where
  last : motive (past ++ handed) after
  each : ∀ before here later, handed = before ++ here :: later →
    motive (past ++ before) here.channel

namespace Along

variable {κ : Type} {motive : List (Handover κ) → Channel κ → Prop}
  {past handed : List (Handover κ)} {first : Handover κ} {after next : Channel κ}

/-- Nothing was handed over. -/
theorem nil (holds : motive past after) : Along motive past [] after :=
  ⟨by rwa [List.append_nil], fun _ _ _ split => by simp at split⟩

/-- One more was handed over at the front. -/
theorem cons (holds : motive past first.channel)
    (along : Along motive (past ++ [first]) handed after) :
    Along motive past (first :: handed) after where
  last := by simpa using along.last
  each before here later split := by
    rcases before with _ | ⟨head, before⟩
    · obtain ⟨rfl, -⟩ := List.cons.inj split
      rwa [List.append_nil]
    · obtain ⟨rfl, rest⟩ := List.cons.inj split
      simpa using along.each before here later rest

/-- Something else happens after the last. -/
theorem then_last (along : Along motive past handed after)
    (keeps : ∀ past, motive past after → motive past next) : Along motive past handed next :=
  ⟨keeps _ along.last, along.each⟩

end Along

namespace Channel

variable {κ : Type} [Kernel κ] {motive : List (Handover κ) → Channel κ → Prop}

/-- What holds along payloads, given those handed over before. -/
theorem tracePayloads_along
    (hands : ∀ past channel id payload, motive past channel →
      motive (past ++ [⟨channel, id, payload⟩]) (channel.handlePayload payload).2)
    (closes : ∀ past channel id reason, motive past channel → motive past (channel.close id reason))
    {past : List (Handover κ)} {channel : Channel κ} (start : motive past channel) (id : Nat)
    (tail : Frame.Tail) (rest : Bytes) (payloads : List Bytes) :
    Along motive past (channel.tracePayloads id tail rest payloads).1
      (channel.tracePayloads id tail rest payloads).2.2 := by
  induction payloads generalizing past channel with
  | nil =>
    cases tail with
    | incomplete => exact .nil start
    | oversized size =>
      have closed := closes past channel id
        (.decodeFailed (.tooLarge size channel.engine.config.maxMessageSize)) start
      exact .nil closed
  | cons payload payloads ih =>
    have next := hands past channel id payload start
    dsimp only [tracePayloads]
    split
    · rename_i error after handled
      rw [handled] at next
      have closed := closes _ after id (.decodeFailed error) next
      exact .cons start (.nil closed)
    · rename_i after handled
      rw [handled] at next
      split
      · exact .cons start (ih next)
      · exact .cons start (.nil next)

/-- What holds along a read: it stays when a payload is handled, given those handed over before,
when a connection is closed, when bytes are left in a buffer, and when a line is logged. -/
theorem traceReceive_along
    (hands : ∀ past channel id payload, motive past channel →
      motive (past ++ [⟨channel, id, payload⟩]) (channel.handlePayload payload).2)
    (closes : ∀ past channel id reason, motive past channel → motive past (channel.close id reason))
    (buffers : ∀ past channel id bytes, motive past channel →
      motive past (channel.onEngine (·.setBuffered id bytes)))
    (records : ∀ past channel event, motive past channel → motive past (channel.record event))
    {past : List (Handover κ)} {channel : Channel κ} (start : motive past channel) (id : Nat)
    (outcome : ReadOutcome) :
    Along motive past (channel.traceReceive id outcome).1 (channel.traceReceive id outcome).2 := by
  have frames {channel : Channel κ} (start : motive past channel) (id : Nat) (buffer : Bytes) :
      Along motive past (channel.traceFrames id buffer).1 (channel.traceFrames id buffer).2.2 :=
    tracePayloads_along hands closes start id _ _ _
  cases found : channel.engine.reader? id with
  | none =>
    rw [traceReceive_of_none found]
    exact .nil start
  | some reader =>
    unfold traceReceive
    rw [found]
    cases outcome with
    | data bytes =>
      have traced := frames (buffers past channel reader.connection [] start) reader.connection
        (reader.buffered ++ bytes)
      dsimp only
      split <;> rename_i result <;> rw [result] at traced
      · exact traced
      · exact traced.then_last fun past => buffers past _ _ _
    | endOfStream =>
      have traced := frames start reader.connection reader.buffered
      dsimp only
      split
      · rename_i result
        rw [result] at traced
        exact traced
      · rename_i handed rest after result
        rw [result] at traced
        have reported : Along motive past handed (if rest.isEmpty then after
            else after.record (.discardingPartial reader.connection rest.length)) := by
          refine traced.then_last fun past holds => ?_
          split
          · exact holds
          · exact records past _ _ holds
        exact reported.then_last fun past => closes past _ reader.connection .peerClosed
    | wouldBlock =>
      dsimp only [receive]
      rw [found]
      exact .nil start
    | interrupted =>
      dsimp only [receive]
      rw [found]
      exact .nil start
    | failed error =>
      dsimp only [receive]
      rw [found]
      exact .nil (closes past channel id _ start)

end Channel

/-- What the estate decides, given the payloads handed over so far, holds after an input if handling
a payload keeps it, and if a stop keeps it, or a change of the container, where the input is one. -/
theorem History.step_along {κ : Type} [Kernel κ] {motive : List (Handover κ) → Channel κ → Prop}
    (same : ∀ past before after, after.estate = before.estate → motive past before →
      motive past after)
    (hands : ∀ past channel id payload, motive past channel →
      motive (past ++ [⟨channel, id, payload⟩]) (channel.handlePayload payload).2)
    {history : History κ} {input : Input κ}
    (stops : input = .stop → motive history.handovers history.channel.stopContainer)
    (changes : ∀ container, input = .container container →
      motive history.handovers { history.channel with container := container })
    (start : motive history.handovers history.channel) :
    motive (history.step input).handovers (history.step input).channel := by
  have quiet (handovers : history.channel.handovers input = [])
      (holds : motive history.handovers (history.channel.step input)) :
      motive (history.step input).handovers (history.step input).channel := by
    rw [step, handovers, List.append_nil]
    exact holds
  cases input with
  | accept socket => exact quiet rfl (same _ _ _ (history.channel.estate_accept socket) start)
  | acceptFailed error =>
    exact quiet rfl (same _ _ _ (history.channel.estate_acceptFailed error) start)
  | read id outcome =>
    have along := Channel.traceReceive_along hands
      (fun past channel id reason => same past _ _ (channel.estate_close id reason))
      (fun past _ _ _ => same past _ _ rfl) (fun past _ _ => same past _ _ rfl) start id outcome
    rw [Channel.traceReceive_snd] at along
    exact along.last
  | call call => exact quiet rfl (same _ _ _ (history.channel.estate_call call) start)
  | stop => exact quiet rfl (stops rfl)
  | container container => exact quiet rfl (changes container rfl)
  | watch name reaction =>
    exact quiet rfl (same _ _ _ (history.channel.estate_watch name reaction) start)
  | unwatch name => exact quiet rfl (same _ _ _ (history.channel.estate_unwatch name) start)
  | sweep => exact quiet rfl (same _ history.channel _ rfl start)
  | elapse kernel => exact quiet rfl (same _ history.channel _ rfl start)

end ServiceChannel
