import ServiceChannel.Proofs.Channel.Acts
import ServiceChannel.Proofs.Channel.Ties

/-!
# Walks

The acts of a run follow one another, and nothing between them touches what ties the engine, unless
it comes from outside. So what no act breaks, and nothing between the acts, holds at every act of
every run.

- `Walk`: acts that follow one another from one channel to another.
- `run_walk`: the acts of a run are a walk from its beginning to its end.
- `Kept`, `Walk.invariant`: what nothing breaks holds at every act, and at the end.
- `Lasting`, `Walk.since`: what an act brings about and nothing breaks holds from then on.
-/

namespace ServiceChannel

/-! ## Walks -/

/-- The input comes from outside: a connection arrives or cannot be accepted, or the container is
another one from now on. -/
def Input.isOutside {κ : Type} : Input κ → Bool
  | .accept _ | .acceptFailed _ | .container _ => true
  | _ => false

/-- Acts that follow one another from one channel to another. Between them the ties stay, watchers
come and go, and what `allowed` lets through comes from outside. -/
inductive Walk {κ : Type} [Kernel κ] (allowed : Channel κ → Input κ → Prop) :
    Channel κ → List (Act κ) → Channel κ → Prop where
  | quiet {before after : Channel κ} (quiet : Quiet before after) : Walk allowed before [] after
  | watch (channel : Channel κ) (name : String) (reaction : Reaction) :
    Walk allowed channel [] (channel.watch name reaction).2
  | unwatch (channel : Channel κ) (name : String) : Walk allowed channel [] (channel.unwatch name)
  | outside {channel : Channel κ} {input : Input κ} (outside : input.isOutside = true)
    (allows : allowed channel input) : Walk allowed channel [] (channel.step input)
  | act (act : Act κ) (possible : act.Possible) : Walk allowed act.channel [act] act.after
  | trans {first second third : Channel κ} {acts more : List (Act κ)}
    (before : Walk allowed first acts second) (after : Walk allowed second more third) :
    Walk allowed first (acts ++ more) third

/-- What neither an act nor anything between acts breaks, given the acts so far. -/
structure Kept {κ : Type} [Kernel κ] (allowed : Channel κ → Input κ → Prop)
    (motive : List (Act κ) → Channel κ → Prop) : Prop where
  quiet : ∀ past before after, Quiet before after → motive past before → motive past after
  watch : ∀ past channel name reaction, motive past channel →
    motive past (channel.watch name reaction).2
  unwatch : ∀ past channel name, motive past channel → motive past (channel.unwatch name)
  outside : ∀ past channel input, input.isOutside = true → allowed channel input →
    motive past channel → motive past (channel.step input)
  act : ∀ past act, Act.Possible act → motive past act.channel → motive (past ++ [act]) act.after

/-- Whatever act brought it about, it holds given the acts since. -/
def Lasting {κ : Type} [Kernel κ] (motive : List (Act κ) → Channel κ → Prop)
    (past : List (Act κ)) (channel : Channel κ) : Prop :=
  ∀ before act since, past = before ++ act :: since → motive [] act.after → motive since channel

/-- A list that got one item more, taken apart at an item. -/
theorem split_concat {Item : Type} {items before since : List Item} {last here : Item}
    (split : items ++ [last] = before ++ here :: since) :
    since = [] ∧ here = last ∧ before = items ∨
      ∃ earlier, since = earlier ++ [last] ∧ items = before ++ here :: earlier := by
  rcases List.eq_nil_or_concat since with rfl | ⟨earlier, other, rfl⟩
  · obtain ⟨rfl, same⟩ := List.append_inj' split rfl
    exact .inl ⟨rfl, (List.cons.inj same).1.symm, rfl⟩
  · rw [List.concat_eq_append, ← List.cons_append, ← List.append_assoc] at split
    obtain ⟨rfl, same⟩ := List.append_inj' split rfl
    obtain rfl := (List.cons.inj same).1
    exact .inr ⟨earlier, List.concat_eq_append, rfl⟩

/-- What is kept, given all acts so far, is kept, given those since it was brought about. -/
theorem Kept.lasting {κ : Type} [Kernel κ] {allowed : Channel κ → Input κ → Prop}
    {motive : List (Act κ) → Channel κ → Prop} (kept : Kept allowed motive) :
    Kept allowed (Lasting motive) where
  quiet _ former latter quiet lasting before act since split brought :=
    kept.quiet since former latter quiet (lasting before act since split brought)
  watch _ channel name reaction lasting before act since split brought :=
    kept.watch since channel name reaction (lasting before act since split brought)
  unwatch _ channel name lasting before act since split brought :=
    kept.unwatch since channel name (lasting before act since split brought)
  outside _ channel input comes allows lasting before act since split brought :=
    kept.outside since channel input comes allows (lasting before act since split brought)
  act past last possible lasting before act since split brought := by
    -- The last act is the one that brought it about, or it comes later.
    obtain ⟨rfl, rfl, -⟩ | ⟨earlier, rfl, rfl⟩ := split_concat split
    · exact brought
    · exact kept.act earlier last possible (lasting before act earlier rfl brought)

namespace Walk

variable {κ : Type} [Kernel κ] {allowed : Channel κ → Input κ → Prop}

theorem refl (channel : Channel κ) : Walk allowed channel [] channel := .quiet (.of_eq rfl)

/-- A quiet change after the last act. -/
theorem then_quiet {first second third : Channel κ} {acts : List (Act κ)}
    (walk : Walk allowed first acts second) (quiet : Quiet second third) :
    Walk allowed first acts third := by
  have whole := walk.trans (.quiet quiet)
  rwa [List.append_nil] at whole

/-- At every act of a walk what is kept holds, given the acts before it; and at the end. -/
theorem invariant {motive : List (Act κ) → Channel κ → Prop} (kept : Kept allowed motive)
    {first last : Channel κ} {acts : List (Act κ)} (walk : Walk allowed first acts last)
    (start : motive [] first) :
    motive acts last ∧ ∀ before here later, acts = before ++ here :: later →
      here.Possible ∧ motive before here.channel := by
  -- The induction is on the walk, whatever was done before it.
  have general (past : List (Act κ)) (begun : motive past first) :
      motive (past ++ acts) last ∧ ∀ before here later, acts = before ++ here :: later →
        here.Possible ∧ motive (past ++ before) here.channel := by
    clear start
    induction walk generalizing past with
    | quiet change => exact ⟨by simpa using kept.quiet past _ _ change begun, by simp⟩
    | watch channel name reaction => exact ⟨by simpa using kept.watch past _ _ _ begun, by simp⟩
    | unwatch channel name => exact ⟨by simpa using kept.unwatch past _ _ begun, by simp⟩
    | outside comes allows =>
      exact ⟨by simpa using kept.outside past _ _ comes allows begun, by simp⟩
    | act only possible =>
      refine ⟨kept.act past _ possible begun, fun before here later split => ?_⟩
      obtain ⟨rfl, rfl, rfl⟩ : before = [] ∧ here = only ∧ later = [] := by
        rcases before with _ | ⟨head, tail⟩ <;> simp_all
      exact ⟨possible, by simpa using begun⟩
    | @trans first second third acts more _ _ earlier later =>
      obtain ⟨middle, atEarlier⟩ := earlier past begun
      obtain ⟨last, atLater⟩ := later (past ++ acts) middle
      refine ⟨by simpa using last, fun before here rest split => ?_⟩
      -- The act is one of the first walk or one of the second.
      rcases List.append_eq_append_iff.1 split with ⟨front, rfl, within⟩ | ⟨front, within, rest⟩
      · obtain ⟨possible, holds⟩ := atLater front here _ within
        exact ⟨possible, by simpa using holds⟩
      · rcases front with _ | ⟨head, front⟩
        · obtain ⟨possible, holds⟩ := atLater [] here _ (by simpa using rest.symm)
          rw [List.append_nil] at within
          exact ⟨possible, by simpa [within] using holds⟩
        · obtain ⟨rfl, rfl⟩ := List.cons.inj rest
          exact atEarlier before here front within
  simpa using general [] start

/-- What an act brings about and nothing breaks, given the acts since, holds at every act since and
at the end. -/
theorem since {motive : List (Act κ) → Channel κ → Prop} (kept : Kept allowed motive)
    {first last : Channel κ} {before since : List (Act κ)} {act : Act κ}
    (walk : Walk allowed first (before ++ act :: since) last) (brought : motive [] act.after) :
    motive since last ∧ ∀ middle later rest, since = middle ++ later :: rest →
      motive middle later.channel := by
  have start : Lasting motive [] first := by
    intro earlier here later split
    simp at split
  obtain ⟨atEnd, atActs⟩ := walk.invariant kept.lasting start
  refine ⟨atEnd before act since rfl brought, ?_⟩
  rintro middle later rest rfl
  exact (atActs (before ++ act :: middle) later rest (by simp)).2 before act middle rfl brought

end Walk

namespace Channel

variable {κ : Type} [Kernel κ] {allowed : Channel κ → Input κ → Prop}

/-! ## Runs are walks -/

/-- Changes that follow one another are a walk if each of them is one. -/
theorem foldl_walk {Item : Type} {acts : Channel κ → Item → List (Act κ)}
    {change : Channel κ → Item → Channel κ}
    (each : ∀ channel item, Walk allowed channel (acts channel item) (change channel item))
    (channel : Channel κ) (items : List Item) :
    Walk allowed channel (actsAlong acts change channel items) (items.foldl change channel) := by
  induction items generalizing channel with
  | nil => exact .refl channel
  | cons item items ih => exact (each channel item).trans (ih (change channel item))

theorem hear_walk (channel : Channel κ) (connectivity : Connectivity) (name : String)
    (reaction : Reaction) : Walk allowed channel [] (channel.hear connectivity name reaction) := by
  have noted : Walk allowed channel [] (channel.note (.notified name connectivity)) :=
    .quiet (.of_eq rfl)
  unfold hear
  dsimp only
  split
  · exact noted.trans (.unwatch _ _)
  · exact noted

theorem heed_walk {depth : Nat}
    (inside : ∀ (channel : Channel κ) connectivity, Walk allowed channel
      (actsOfSetting depth channel connectivity) (channel.setConnectivityWithin depth connectivity))
    (channel : Channel κ) (connectivity : Connectivity) (name : String) (reaction : Reaction) :
    Walk allowed channel (actsOfHeeding (actsOfSetting depth) channel connectivity name reaction)
      (channel.heed depth connectivity name reaction) := by
  have heard : Walk allowed channel [] (channel.hear connectivity name reaction) :=
    channel.hear_walk connectivity name reaction
  unfold actsOfHeeding heed
  dsimp only
  split
  · split
    · exact heard
    · exact heard.trans (inside _ _)
  · exact heard

theorem tell_walk {depth : Nat}
    (inside : ∀ (channel : Channel κ) connectivity, Walk allowed channel
      (actsOfSetting depth channel connectivity) (channel.setConnectivityWithin depth connectivity))
    (channel : Channel κ) (entry : ObserverId × Observer) :
    Walk allowed channel (actsOfTelling (actsOfSetting depth) channel entry)
      (tell depth channel entry) := by
  unfold actsOfTelling tell
  cases there : channel.container with
  | none => exact .refl channel
  | some container =>
    obtain ⟨id, observer⟩ := entry
    cases observer with
    | bridge =>
      dsimp only
      split
      · rename_i released
        rw [notifyEngine, if_pos released]
        exact .refl channel
      · rename_i active
        let act : Act κ := ⟨channel, .told⟩
        have told : Walk allowed channel [act] act.after :=
          .act act ⟨by simp [act, there], by simpa using active⟩
        simpa [act, Act.after, there] using told
    | watcher name reaction =>
      have heeded := heed_walk inside channel container.connectivity name reaction
      dsimp only
      split
      · rename_i joins _
        have joined := heeded.trans (.watch _ joins {})
        rwa [List.append_nil] at joined
      · exact heeded

theorem setConnectivityWithin_walk (depth : Nat) (channel : Channel κ)
    (connectivity : Connectivity) :
    Walk allowed channel (actsOfSetting depth channel connectivity)
      (channel.setConnectivityWithin depth connectivity) := by
  induction depth generalizing channel connectivity with
  | zero => exact .refl channel
  | succ depth ih =>
    have stored : Walk allowed channel [] (channel.storeConnectivity connectivity) :=
      .quiet (.of_eq (channel.ties_storeConnectivity connectivity))
    rw [setConnectivityWithin_succ]
    exact stored.trans (foldl_walk (tell_walk ih) _ channel.audience)

theorem call_walk (channel : Channel κ) (call : EngineCall) :
    Walk allowed channel (channel.actsOfCall call) (channel.call call).2 := by
  cases call with
  | setConnectivity connectivity => exact channel.setConnectivityWithin_walk _ connectivity
  | _ => exact .act ⟨channel, .called _⟩ trivial

theorem hookCall_walk (channel : Channel κ) (call : EngineCall) :
    Walk allowed channel (channel.actsOfHookCall call) (channel.hookCall call) := by
  unfold actsOfHookCall hookCall
  split
  · exact .refl channel
  · exact (channel.call_walk call).then_quiet (.of_eq rfl)

theorem stopContainer_walk (channel : Channel κ) :
    Walk allowed channel channel.actsOfStop channel.stopContainer := by
  cases there : channel.container with
  | none =>
    unfold actsOfStop stopContainer
    rw [there]
    exact .refl channel
  | some container =>
    cases role : container.role with
    | recording recording =>
      have halted : Walk allowed channel [] (channel.halt container recording) := by
        refine .quiet (.of_eq ?_)
        simp [ties, holdings, Holdings.ties, halt, there]
      unfold actsOfStop stopContainer
      rw [there]
      dsimp only
      rw [role]
      dsimp only
      rw [runHook_eq]
      exact halted.trans (foldl_walk hookCall_walk _ recording.hook)
    | standalone standalone =>
      have nothing : channel.actsOfStop = [] := by
        unfold actsOfStop
        rw [there]
        dsimp only
        rw [role]
      rw [nothing]
      exact .quiet (.of_eq (ties_of_moorings (moorings_stopContainer there role)))

/-! ## Messages and reads -/

/-- A report is remembered first, and then set. -/
theorem handle_connectivityChange {channel : Channel κ} (there : channel.container.isSome = true)
    (connectivity : Connectivity) :
    channel.handle (.connectivityChange connectivity) =
      (Act.after ⟨channel, .reported connectivity⟩).setConnectivity connectivity := by
  obtain ⟨container, there⟩ := Option.isSome_iff_exists.1 there
  unfold handle
  rw [there]
  rfl

theorem handleShutdown_walk (channel : Channel κ) (container : Container) :
    Walk allowed channel
      (if container.state.isStopping then [] else (channel.record .shutdownRequested).actsOfStop)
      (channel.handleShutdown container) := by
  unfold handleShutdown
  cases stage : container.state with
  | shuttingDown => exact .quiet (.of_eq rfl)
  | stopped => exact .quiet (.of_eq rfl)
  | _ =>
    have requested : Walk allowed channel [] (channel.record .shutdownRequested) :=
      .quiet (.of_eq rfl)
    exact requested.trans (stopContainer_walk _)

theorem handle_walk (channel : Channel κ) (message : AgentMessage) :
    Walk allowed channel (channel.actsOfMessage message) (channel.handle message) := by
  cases there : channel.container with
  | none =>
    unfold actsOfMessage handle
    rw [there]
    exact .quiet (.of_eq rfl)
  | some container =>
    have alive : channel.container.isSome = true := by simp [there]
    cases message with
    | connectivityChange connectivity =>
      -- Remembering the report is an act of its own, before all that the observers are told.
      let report : Act κ := ⟨channel, .reported connectivity⟩
      have reported : Walk allowed channel [report] report.after := .act report alive
      rw [handle_connectivityChange alive]
      unfold actsOfMessage
      rw [there]
      exact reported.trans (call_walk _ (.setConnectivity connectivity))
    | shutdown =>
      unfold actsOfMessage handle
      rw [there]
      have received : Walk allowed channel []
          (channel.record (.received AgentMessage.shutdown.code)) := .quiet (.of_eq rfl)
      exact received.trans (handleShutdown_walk _ container)
    | nameRequest =>
      have kept := holdings_sendName (channel.record (.received AgentMessage.nameRequest.code))
      unfold actsOfMessage handle
      rw [there]
      dsimp only [handleFor]
      split <;> rename_i sent <;> rw [sent] at kept <;> exact .quiet (.of_holdings kept)
    | dnsRequest =>
      have kept := holdings_sendDns (channel.record (.received AgentMessage.dnsRequest.code))
      unfold actsOfMessage handle
      rw [there]
      dsimp only [handleFor]
      split <;> rename_i sent <;> rw [sent] at kept <;> exact .quiet (.of_holdings kept)
    | exec path params =>
      have kept := ties_exec (((channel.record
        (.received (AgentMessage.exec path params).code)).record (.executing (path :: params))))
        (path :: params)
      unfold actsOfMessage handle
      rw [there]
      dsimp only [handleFor]
      split <;> rename_i ran <;> rw [ran] at kept <;> exact .quiet (.of_eq kept)
    | _ =>
      unfold actsOfMessage handle
      rw [there]
      exact .quiet (.of_eq (by simp [handleFor]))

theorem handlePayload_walk (channel : Channel κ) (payload : Bytes) :
    Walk allowed channel (channel.actsOfPayload payload) (channel.handlePayload payload).2 := by
  unfold actsOfPayload handlePayload
  cases AgentMessage.decode payload with
  | ok message => exact channel.handle_walk message
  | error error =>
    dsimp only
    split <;> exact .quiet (.of_eq rfl)

theorem tracePayloads_walk (channel : Channel κ) (id : Nat) (tail : Frame.Tail) (rest : Bytes)
    (payloads : List Bytes) :
    Walk allowed channel (actsOfHandovers (channel.tracePayloads id tail rest payloads).1)
      (channel.tracePayloads id tail rest payloads).2.2 := by
  induction payloads generalizing channel with
  | nil =>
    cases tail with
    | incomplete => exact .refl channel
    | oversized size => exact .quiet (.close channel id _)
  | cons payload payloads ih =>
    have first : Walk allowed channel _ _ := channel.handlePayload_walk payload
    dsimp only [tracePayloads]
    split
    · rename_i error after handled
      rw [handled] at first
      have closed := first.then_quiet (.close after id (.decodeFailed error))
      simpa [actsOfHandovers] using closed
    · rename_i after handled
      rw [handled] at first
      split
      · exact first.trans (ih after)
      · simpa [actsOfHandovers] using first

theorem traceFrames_walk (channel : Channel κ) (id : Nat) (buffer : Bytes) :
    Walk allowed channel (actsOfHandovers (channel.traceFrames id buffer).1)
      (channel.traceFrames id buffer).2.2 :=
  channel.tracePayloads_walk id _ _ _

theorem traceReceive_walk (channel : Channel κ) (id : Nat) (outcome : ReadOutcome) :
    Walk allowed channel (actsOfHandovers (channel.traceReceive id outcome).1)
      (channel.traceReceive id outcome).2 := by
  cases found : channel.engine.reader? id with
  | none =>
    rw [traceReceive_of_none found]
    exact .refl channel
  | some reader =>
    unfold traceReceive
    rw [found]
    cases outcome with
    | data bytes =>
      let emptied := channel.onEngine (·.setBuffered reader.connection [])
      have begun : Walk allowed channel [] emptied := .quiet (.of_eq rfl)
      have traced := begun.trans
        (emptied.traceFrames_walk reader.connection (reader.buffered ++ bytes))
      dsimp only
      split <;> rename_i result <;> rw [result] at traced
      · exact traced
      · exact traced.then_quiet (.of_eq rfl)
    | endOfStream =>
      have traced : Walk allowed channel _ _ :=
        channel.traceFrames_walk reader.connection reader.buffered
      dsimp only
      split
      · rename_i result
        rw [result] at traced
        exact traced
      · rename_i handed rest after result
        rw [result] at traced
        have ended : Walk allowed channel (actsOfHandovers handed)
            (if rest.isEmpty then after
              else after.record (.discardingPartial reader.connection rest.length)) := by
          split
          · exact traced
          · exact traced.then_quiet (.of_eq rfl)
        exact ended.then_quiet (.close _ reader.connection .peerClosed)
    | wouldBlock =>
      dsimp only [receive]
      rw [found]
      exact .refl channel
    | interrupted =>
      dsimp only [receive]
      rw [found]
      exact .refl channel
    | failed error =>
      dsimp only [receive]
      rw [found]
      exact .quiet (.close channel id (.exception error))

/-- What an input does is the walk through its acts. -/
theorem step_walk (channel : Channel κ) {input : Input κ}
    (allows : input.isOutside = true → allowed channel input) :
    Walk allowed channel (channel.actsOfInput input) (channel.step input) := by
  cases input with
  | accept socket => exact .outside rfl (allows rfl)
  | acceptFailed error => exact .outside rfl (allows rfl)
  | container container => exact .outside rfl (allows rfl)
  | read id outcome =>
    have received : Walk allowed channel _ _ := channel.traceReceive_walk id outcome
    rwa [traceReceive_snd] at received
  | call call => exact channel.call_walk call
  | stop => exact channel.stopContainer_walk
  | watch name reaction => exact .watch channel name reaction
  | unwatch name => exact .unwatch channel name
  | sweep => exact .quiet (.of_eq channel.ties_closeRetired)
  | elapse kernel => exact .quiet (.of_eq rfl)

/-- What comes from outside in a run is let through. -/
def Admits (allowed : Channel κ → Input κ → Prop) (channel : Channel κ) :
    List (Input κ) → Prop
  | [] => True
  | input :: inputs =>
    (input.isOutside = true → allowed channel input) ∧ Admits allowed (channel.step input) inputs

theorem admits_of_forall {inputs : List (Input κ)}
    (allows : ∀ input ∈ inputs, ∀ channel, allowed channel input) (channel : Channel κ) :
    channel.Admits allowed inputs := by
  induction inputs generalizing channel with
  | nil => trivial
  | cons input inputs ih =>
    refine ⟨fun _ => allows input List.mem_cons_self channel, ih ?_ (channel.step input)⟩
    exact fun other mem => allows other (List.mem_cons_of_mem _ mem)

theorem admits_all (channel : Channel κ) (inputs : List (Input κ)) :
    channel.Admits (fun _ _ => True) inputs :=
  admits_of_forall (fun _ _ _ => trivial) channel

/-- The acts of a run are a walk from its beginning to its end. -/
theorem run_walk {channel : Channel κ} {inputs : List (Input κ)}
    (admits : channel.Admits allowed inputs) :
    Walk allowed channel (channel.acts inputs) (channel.run inputs) := by
  induction inputs generalizing channel with
  | nil => exact .refl channel
  | cons input inputs ih => exact (channel.step_walk admits.1).trans (ih admits.2)

end Channel
end ServiceChannel
