import ServiceChannel.Proofs.Channel.Reading

/-!
# Acts

An input can make an engine do many things: a message that is read stops the container, a stop runs
a hook, the hook sets the connectivity, and the observers are told one after the other, some of them
setting it again. Here a run is taken apart into these acts, each with the channel just before it.

- `Act`: something that the engine does, or is made to do, and the channel before and after it.
- `Channel.tell`, `Channel.hookCall`: the steps that a setting and a stop are made of.
- `Channel.acts`: the acts of a run.
-/

namespace ServiceChannel

/-! ## Acts -/

/-- Something that bears on what an engine remembers, holds or observes. -/
inductive Deed where
  /-- An operation is called. Setting the connectivity is not: its acts are the telling. -/
  | called (call : EngineCall)
  /-- The engine is told of its container's connectivity. -/
  | told
  /-- The agent reports a connectivity. -/
  | reported (connectivity : Connectivity)
  deriving DecidableEq

/-- A deed, and the channel as it is just before. -/
structure Act (κ : Type) where
  channel : Channel κ
  deed : Deed

namespace Channel

variable {κ : Type} [Kernel κ]

/-! ## The model in single steps -/

/-- A watcher notes that it was told, and takes off whom it is to take off. -/
def hear (channel : Channel κ) (connectivity : Connectivity) (name : String)
    (reaction : Reaction) : Channel κ :=
  let channel := channel.note (.notified name connectivity)
  match reaction.unregister with
  | some name => channel.unwatch name
  | none => channel

/-- A watcher that was told sets the connectivity, if it is to. -/
def heed (depth : Nat) (channel : Channel κ) (connectivity : Connectivity) (name : String)
    (reaction : Reaction) : Channel κ :=
  let channel := channel.hear connectivity name reaction
  match reaction.set with
  | some wanted =>
    if connectivity = wanted then channel else channel.setConnectivityWithin depth wanted
  | none => channel

/-- One observer is told, with up to `depth` settings inside. -/
def tell (depth : Nat) (channel : Channel κ) (entry : ObserverId × Observer) : Channel κ :=
  match channel.container with
  | none => channel
  | some container =>
    match entry.2 with
    | .bridge => channel.notifyEngine container.connectivity
    | .watcher name reaction =>
      let channel := channel.heed depth container.connectivity name reaction
      match reaction.register with
      | some name => (channel.watch name {}).2
      | none => channel

/-- The observers that are told when a setting starts. -/
def audience (channel : Channel κ) : List (ObserverId × Observer) :=
  (channel.container.map (·.observers.entries)).getD []

theorem setConnectivityWithin_succ (depth : Nat) (channel : Channel κ)
    (connectivity : Connectivity) :
    channel.setConnectivityWithin (depth + 1) connectivity =
      channel.audience.foldl (tell depth) (channel.storeConnectivity connectivity) := rfl

/-- What storing a connectivity and telling of it keep, setting it keeps, however many settings
stand inside one another. -/
theorem setConnectivityWithin_induction {motive : Channel κ → Prop}
    (stores : ∀ channel connectivity, motive channel →
      motive (channel.storeConnectivity connectivity))
    (notifies : ∀ channel connectivity, motive channel →
      motive (channel.notifyEngine connectivity))
    (hears : ∀ channel connectivity name reaction, motive channel →
      motive (channel.hear connectivity name reaction))
    (watches : ∀ channel name reaction, motive channel → motive (channel.watch name reaction).2)
    (depth : Nat) {channel : Channel κ} (before : motive channel) (connectivity : Connectivity) :
    motive (channel.setConnectivityWithin depth connectivity) := by
  -- On how many settings may still stand inside; a setting that is heeded is one less deep.
  induction depth generalizing channel connectivity with
  | zero => exact before
  | succ depth ih =>
    have heeds (channel : Channel κ) (before : motive channel) (connectivity : Connectivity)
        (name : String) (reaction : Reaction) :
        motive (channel.heed depth connectivity name reaction) := by
      have heard := hears channel connectivity name reaction before
      unfold heed
      dsimp only
      split
      · split
        · exact heard
        · exact ih heard _
      · exact heard
    have tells (channel : Channel κ) (before : motive channel) (entry : ObserverId × Observer) :
        motive (tell depth channel entry) := by
      unfold tell
      split
      · exact before
      · split
        · exact notifies _ _ before
        · have heeded := heeds channel before
          dsimp only
          split
          · exact watches _ _ _ (heeded _ _ _)
          · exact heeded _ _ _
    rw [setConnectivityWithin_succ]
    exact List.foldlRecOn _ _ (stores _ _ before) fun channel before entry _ =>
      tells channel before entry

/-- One call of a stop hook. -/
def hookCall (channel : Channel κ) (call : EngineCall) : Channel κ :=
  if channel.engine.released then channel
  else (channel.call call).2.note (.stopHook call (channel.call call).1)

theorem runHook_eq (channel : Channel κ) (calls : List EngineCall) :
    channel.runHook calls = calls.foldl hookCall channel := rfl

end Channel

/-- The channel after an act. -/
def Act.after {κ : Type} [Kernel κ] (act : Act κ) : Channel κ :=
  match act.deed with
  | .called call => (act.channel.call call).2
  | .told =>
    match act.channel.container with
    | none => act.channel
    | some container => act.channel.notifyEngine container.connectivity
  | .reported connectivity =>
    ((act.channel.record (.received (AgentMessage.connectivityChange connectivity).code)).record
      (.connectivityReported connectivity)).onEngine fun engine =>
        { engine with connectivity := connectivity }

/-- The act can be one of a run: the container is there for it, and the engine for being told. -/
def Act.Possible {κ : Type} (act : Act κ) : Prop :=
  match act.deed with
  | .called (.setConnectivity _) => False
  | .called _ => True
  | .told => act.channel.container.isSome = true ∧ act.channel.engine.released = false
  | .reported _ => act.channel.container.isSome = true

namespace Channel

variable {κ : Type} [Kernel κ]

/-! ## The acts of a run -/

omit [Kernel κ] in
/-- The acts of changes that follow one another. -/
def actsAlong {Item : Type} (acts : Channel κ → Item → List (Act κ))
    (change : Channel κ → Item → Channel κ) (channel : Channel κ) : List Item → List (Act κ)
  | [] => []
  | item :: items => acts channel item ++ actsAlong acts change (change channel item) items

/-- The acts of a watcher that was told, given those of a setting inside. -/
def actsOfHeeding (inside : Channel κ → Connectivity → List (Act κ)) (channel : Channel κ)
    (connectivity : Connectivity) (name : String) (reaction : Reaction) : List (Act κ) :=
  match reaction.set with
  | some wanted =>
    if connectivity = wanted then [] else inside (channel.hear connectivity name reaction) wanted
  | none => []

/-- The acts of telling one observer, given those of a setting inside. -/
def actsOfTelling (inside : Channel κ → Connectivity → List (Act κ)) (channel : Channel κ)
    (entry : ObserverId × Observer) : List (Act κ) :=
  match channel.container with
  | none => []
  | some container =>
    match entry.2 with
    | .bridge => if channel.engine.released then [] else [⟨channel, .told⟩]
    | .watcher name reaction => actsOfHeeding inside channel container.connectivity name reaction

/-- The acts of a setting of the connectivity, with up to `depth` settings inside one another. -/
def actsOfSetting (depth : Nat) (channel : Channel κ) (connectivity : Connectivity) :
    List (Act κ) :=
  match depth with
  | 0 => []
  | depth + 1 =>
    actsAlong (actsOfTelling (actsOfSetting depth)) (tell depth)
      (channel.storeConnectivity connectivity) channel.audience

/-- The acts of a call. -/
def actsOfCall (channel : Channel κ) : EngineCall → List (Act κ)
  | .setConnectivity connectivity => actsOfSetting channel.notificationDepth channel connectivity
  | call => [⟨channel, .called call⟩]

/-- The acts of one call of a stop hook. -/
def actsOfHookCall (channel : Channel κ) (call : EngineCall) : List (Act κ) :=
  if channel.engine.released then [] else channel.actsOfCall call

/-- A recording container on its way down, before its hook runs. -/
def halt (channel : Channel κ) (container : Container) (recording : Recording) : Channel κ :=
  { channel with
    container := some { container with
      state := .shuttingDown
      role := .recording { recording with stops := recording.stops + 1 } } }

/-- The acts of a stop: those of the hook. -/
def actsOfStop (channel : Channel κ) : List (Act κ) :=
  match channel.container with
  | none => []
  | some container =>
    match container.role with
    | .recording recording =>
      actsAlong actsOfHookCall hookCall (channel.halt container recording) recording.hook
    | .standalone _ => []

/-- The acts of a message from the agent. -/
def actsOfMessage (channel : Channel κ) (message : AgentMessage) : List (Act κ) :=
  match channel.container with
  | none => []
  | some container =>
    match message with
    | .connectivityChange connectivity =>
      let report : Act κ := ⟨channel, .reported connectivity⟩
      report :: report.after.actsOfCall (.setConnectivity connectivity)
    | .shutdown =>
      if container.state.isStopping then []
      else ((channel.record (.received AgentMessage.shutdown.code)).record
        .shutdownRequested).actsOfStop
    | _ => []

/-- The acts of a payload that is handed over. -/
def actsOfPayload (channel : Channel κ) (payload : Bytes) : List (Act κ) :=
  match AgentMessage.decode payload with
  | .ok message => channel.actsOfMessage message
  | .error _ => []

/-- The acts of payloads that are handed over one after the other. -/
def actsOfHandovers (handovers : List (Handover κ)) : List (Act κ) :=
  handovers.flatMap fun handover => handover.channel.actsOfPayload handover.payload

/-- The acts of an input. -/
def actsOfInput (channel : Channel κ) (input : Input κ) : List (Act κ) :=
  match input with
  | .read id outcome => actsOfHandovers (channel.handovers (.read id outcome))
  | .call call => channel.actsOfCall call
  | .stop => channel.actsOfStop
  | _ => []

/-- The acts of a run. -/
def acts (channel : Channel κ) (inputs : List (Input κ)) : List (Act κ) :=
  actsAlong actsOfInput step channel inputs

theorem acts_append (channel : Channel κ) (first second : List (Input κ)) :
    channel.acts (first ++ second) = channel.acts first ++ (channel.run first).acts second := by
  induction first generalizing channel with
  | nil => rfl
  | cons input first ih =>
    unfold acts at ih ⊢
    rw [List.cons_append, actsAlong, actsAlong, ih, List.append_assoc]
    rfl

end Channel
end ServiceChannel
