import ServiceChannel.Proofs.Channel.Hooks
import ServiceChannel.Proofs.Container.Chronicle

/-!
# Rounds of telling

Setting the connectivity tells the observers of the container: the engine passes it on, and watchers
note what they are shown and do what they are to do. All of this is what moves make of the
container's chronicle.

- `Channel.Follows`: what a channel does is what is written down.
- `Channel.follows_setting`: so it is for a setting, with all that the observers do in it.
- `observers_told_in_rounds`: the observers of a container, whatever is done with it.
-/

namespace ServiceChannel

namespace Incident

/-- What a watcher that is told notes. -/
def notice? : Incident → Option Note
  | .told _ (_, .watcher name _) shown => some (.notified name shown.connectivity)
  | _ => none

/-- What the engine is shown when it is told. -/
def view? : Incident → Option Container
  | .told _ (_, .bridge) shown => some shown
  | _ => none

end Incident

namespace Channel

variable {κ : Type} [Kernel κ]

/-! ## The engine -/

theorem notes_sendPayload (channel : Channel κ) (payload : Bytes) :
    (channel.sendPayload payload).2.notes = channel.notes := by
  unfold sendPayload
  split
  · rfl
  · split
    · rfl
    · split <;> rfl

/-- Comparing leaves the container and the notes alone. -/
theorem bridge_apart (channel : Channel κ) (connectivity : Connectivity) :
    (channel.bridge connectivity).2.container = channel.container ∧
      (channel.bridge connectivity).2.notes = channel.notes := by
  by_cases same : connectivity = channel.engine.connectivity
  · rw [bridge_of_eq same]
    exact ⟨rfl, rfl⟩
  · rw [bridge_of_ne same]
    constructor
    · obtain ⟨-, held⟩ | ⟨_, -, held⟩ := channel.sendConnectivity_cases connectivity
      · exact congrArg Holdings.container held
      · exact congrArg Holdings.container held
    · have kept := notes_sendPayload (channel.record (.sendingConnectivity connectivity))
        (HostMessage.connectivityChange connectivity).encode
      unfold sendConnectivity sendMessage
      split <;> rename_i sent <;> rw [sent] at kept <;> exact kept

/-- So does telling the engine. -/
theorem notifyEngine_apart (channel : Channel κ) (connectivity : Connectivity) :
    (channel.notifyEngine connectivity).container = channel.container ∧
      (channel.notifyEngine connectivity).notes = channel.notes := by
  have apart := channel.bridge_apart connectivity
  unfold notifyEngine
  split
  · exact ⟨rfl, rfl⟩
  · split <;> rename_i bridged <;> rw [bridged] at apart <;> exact apart

/-! ## Following -/

/-- A channel does what is done with the container of a chronicle: its container is the one of the
chronicle, its watchers note what they are shown, and its engine, unless it was given up, acts when
it is told. -/
structure Follows (before : Channel κ) (acts : List (Act κ)) (after : Channel κ)
    (chronicle : Chronicle) (added : List Incident) (later : Chronicle) : Prop where
  moved : ∃ moves, chronicle.run moves = later
  incidents : later.incidents = chronicle.incidents ++ added
  container : after.container = some later.container
  notes : after.notes.toList = before.notes.toList ++ added.filterMap Incident.notice?
  released : after.engine.released = before.engine.released
  acts : before.engine.released = false →
    acts.map (·.channel.container) = (added.filterMap Incident.view?).map some

namespace Follows

omit [Kernel κ]

variable {before between after : Channel κ} {acts more : List (Act κ)}
  {chronicle middle later : Chronicle} {added next : List Incident}

theorem refl (there : before.container = some chronicle.container) :
    before.Follows [] before chronicle [] chronicle where
  moved := ⟨[], rfl⟩
  incidents := (List.append_nil _).symm
  container := there
  notes := (List.append_nil _).symm
  released := rfl
  acts := fun _ => rfl

theorem trans (first : before.Follows acts between chronicle added middle)
    (second : between.Follows more after middle next later) :
    before.Follows (acts ++ more) after chronicle (added ++ next) later where
  moved := by
    obtain ⟨moves, rfl⟩ := first.moved
    obtain ⟨others, rfl⟩ := second.moved
    exact ⟨moves ++ others, List.foldl_append⟩
  incidents := by rw [second.incidents, first.incidents, List.append_assoc]
  container := second.container
  notes := by rw [second.notes, first.notes, List.filterMap_append, List.append_assoc]
  released := second.released.trans first.released
  acts := by
    intro active
    rw [List.map_append, first.acts active, second.acts (first.released.trans active),
      List.filterMap_append, List.map_append]

end Follows

/-- The channel follows moves after which the settings that are not over are the same. -/
def Passes (before : Channel κ) (acts : List (Act κ)) (after : Channel κ)
    (chronicle : Chronicle) : Prop :=
  ∃ added later, before.Follows acts after chronicle added later ∧
    later.rounds = chronicle.rounds

/-! ## Watchers -/

section Watchers

omit [Kernel κ]

variable {channel : Channel κ} {chronicle : Chronicle}

theorem Passes.refl (there : channel.container = some chronicle.container) :
    channel.Passes [] channel chronicle :=
  ⟨[], chronicle, .refl there, rfl⟩

theorem Passes.trans {before between after : Channel κ} {acts more : List (Act κ)}
    (first : before.Passes acts between chronicle)
    (second : ∀ chronicle : Chronicle, between.container = some chronicle.container →
      between.Passes more after chronicle) : before.Passes (acts ++ more) after chronicle := by
  obtain ⟨added, middle, follows, rounds⟩ := first
  obtain ⟨next, later, goesOn, same⟩ := second middle follows.container
  exact ⟨added ++ next, later, follows.trans goesOn, same.trans rounds⟩

theorem passes_unwatch (there : channel.container = some chronicle.container) (name : String) :
    channel.Passes [] (channel.unwatch name) chronicle := by
  unfold unwatch
  split
  · rename_i id _
    refine ⟨[.dismissed id], chronicle.step (.unregister id),
      ⟨⟨[.unregister id], rfl⟩, rfl, ?_, (List.append_nil _).symm, rfl, fun _ => rfl⟩, rfl⟩
    rw [unregister, onContainer, there]
    rfl
  · exact .refl there

theorem passes_watch (there : channel.container = some chronicle.container) (name : String)
    (reaction : Reaction) :
    channel.Passes [] (channel.watch name reaction).2 chronicle := by
  have moved : chronicle.run [.register (.watcher name reaction)] =
      chronicle.step (.register (.watcher name reaction)) := rfl
  unfold watch register
  rw [there]
  dsimp only
  obtain ⟨error, refused⟩ | registered :=
    chronicle.container.register_cases (.watcher name reaction)
  · rw [Chronicle.step, refused] at moved
    rw [refused]
    exact ⟨[.refused (.watcher name reaction)], _,
      ⟨⟨_, moved⟩, rfl, rfl, (List.append_nil _).symm, rfl, fun _ => rfl⟩, rfl⟩
  · rw [Chronicle.step, registered] at moved
    rw [registered]
    exact ⟨[.joined chronicle.container.observers.next (.watcher name reaction)], _,
      ⟨⟨_, moved⟩, rfl, rfl, (List.append_nil _).symm, rfl, fun _ => rfl⟩, rfl⟩

end Watchers

/-! ## Telling -/

variable {channel : Channel κ} {chronicle : Chronicle}

/-- A setting, with up to `depth` settings inside, follows moves and is over when they are made. -/
def SettingsPass (κ : Type) [Kernel κ] (depth : Nat) : Prop :=
  ∀ (channel : Channel κ) (chronicle : Chronicle) (connectivity : Connectivity),
    channel.container = some chronicle.container →
      channel.Passes (actsOfSetting depth channel connectivity)
        (channel.setConnectivityWithin depth connectivity) chronicle

/-- A watcher that has noted what it was shown does what it is to do. -/
theorem passes_reaction {depth : Nat} (settings : SettingsPass κ depth)
    (there : channel.container = some chronicle.container) (connectivity : Connectivity)
    (name : String) (reaction : Reaction) :
    (channel.note (.notified name connectivity)).Passes
      (actsOfHeeding (actsOfSetting depth) channel connectivity name reaction)
      (match reaction.register with
        | some other => ((channel.heed depth connectivity name reaction).watch other {}).2
        | none => channel.heed depth connectivity name reaction) chronicle := by
  have there : (channel.note (.notified name connectivity)).container = some chronicle.container :=
    there
  have heard : (channel.note (.notified name connectivity)).Passes []
      (channel.hear connectivity name reaction) chronicle := by
    unfold hear
    dsimp only
    split
    · exact passes_unwatch there _
    · exact .refl there
  have heeds (chronicle : Chronicle)
      (there : (channel.hear connectivity name reaction).container = some chronicle.container) :
      (channel.hear connectivity name reaction).Passes
        (actsOfHeeding (actsOfSetting depth) channel connectivity name reaction)
        (channel.heed depth connectivity name reaction) chronicle := by
    unfold heed actsOfHeeding
    dsimp only
    split
    · split
      · exact .refl there
      · exact settings _ chronicle _ there
    · exact .refl there
  rw [← List.append_nil (actsOfHeeding _ _ _ _ _)]
  refine (heard.trans heeds).trans fun chronicle there => ?_
  split
  · exact passes_watch there _ {}
  · exact .refl there

/-- One observer is told. -/
theorem follows_tell {depth : Nat} (settings : SettingsPass κ depth)
    (there : channel.container = some chronicle.container) {number : Nat}
    {entry : ObserverId × Observer} {waiting : List (ObserverId × Observer)} {outer : List Round}
    (inner : chronicle.rounds = ⟨number, entry :: waiting⟩ :: outer) :
    ∃ added later,
      channel.Follows (actsOfTelling (actsOfSetting depth) channel entry)
        (tell depth channel entry) chronicle added later ∧
      later.rounds = ⟨number, waiting⟩ :: outer := by
  have moved := chronicle.step_proceed_of_waiting inner
  unfold tell actsOfTelling
  rw [there]
  dsimp only
  obtain ⟨id, _ | ⟨name, reaction⟩⟩ := entry
  · obtain ⟨container, notes⟩ := channel.notifyEngine_apart chronicle.container.connectivity
    refine ⟨[.told number (id, .bridge) chronicle.container], _, ⟨⟨[.proceed], moved⟩, rfl,
      container.trans there, ?_, channel.released_notifyEngine _, ?_⟩, rfl⟩
    · rw [notes]
      exact (List.append_nil _).symm
    · intro active
      rw [active]
      simp [Incident.view?, there]
  · -- The note is what the watcher was shown; whatever it does comes after it.
    have noted : channel.Follows []
        (channel.note (.notified name chronicle.container.connectivity)) chronicle
        [.told number (id, .watcher name reaction) chronicle.container] _ :=
      ⟨⟨[.proceed], moved⟩, rfl, there, Array.toList_push, rfl, fun _ => rfl⟩
    have still : channel.container = _ := noted.container
    obtain ⟨added, later, follows, rounds⟩ := passes_reaction settings still
      chronicle.container.connectivity name reaction
    exact ⟨_, later, noted.trans follows, rounds⟩

/-- Those who wait for being told are told one after the other, and then the setting is over. -/
theorem follows_round {depth : Nat} (settings : SettingsPass κ depth) {number : Nat}
    {waiting : List (ObserverId × Observer)} {outer : List Round}
    (there : channel.container = some chronicle.container)
    (inner : chronicle.rounds = ⟨number, waiting⟩ :: outer) :
    ∃ added later,
      channel.Follows (actsAlong (actsOfTelling (actsOfSetting depth)) (tell depth) channel waiting)
        (waiting.foldl (tell depth) channel) chronicle added later ∧
      later.rounds = outer := by
  induction waiting generalizing channel chronicle with
  | nil =>
    exact ⟨[], _, ⟨⟨[.proceed], chronicle.step_proceed_of_done inner⟩, (List.append_nil _).symm,
      there, (List.append_nil _).symm, rfl, fun _ => rfl⟩, rfl⟩
  | cons entry waiting ih =>
    obtain ⟨added, middle, told, left⟩ := follows_tell settings there inner
    obtain ⟨more, later, others, ended⟩ := ih told.container left
    exact ⟨added ++ more, later, told.trans others, ended⟩

/-- A setting stores its connectivity, tells those who are registered then, and is over. -/
theorem follows_setting {depth : Nat} (settings : SettingsPass κ depth)
    (there : channel.container = some chronicle.container) (connectivity : Connectivity) :
    ∃ added later,
      channel.Follows (actsOfSetting (depth + 1) channel connectivity)
        (channel.setConnectivityWithin (depth + 1) connectivity) chronicle
        (.stored connectivity :: added) later ∧
      later.rounds = chronicle.rounds := by
  have held := channel.holdings_storeConnectivity connectivity
  have container : (channel.storeConnectivity connectivity).container =
      some { chronicle.container with connectivity := connectivity } := by
    refine (congrArg Holdings.container held).trans ?_
    dsimp only
    rw [there]
    rfl
  have notes : (channel.storeConnectivity connectivity).notes = channel.notes := by
    unfold storeConnectivity recordStandalone
    split <;> rfl
  have stored : channel.Follows [] (channel.storeConnectivity connectivity) chronicle
      [.stored connectivity] (chronicle.step (.set connectivity)) :=
    ⟨⟨[.set connectivity], rfl⟩, rfl, container, by rw [notes]; exact (List.append_nil _).symm,
      congrArg (·.engine.released) held, fun _ => rfl⟩
  have audience : channel.audience = chronicle.container.observers.entries := by
    rw [Channel.audience, there]
    rfl
  obtain ⟨added, later, told, ended⟩ := follows_round settings stored.container rfl
  rw [← audience] at told
  exact ⟨added, later, stored.trans told, ended⟩

theorem settingsPass (depth : Nat) : SettingsPass κ depth := by
  induction depth with
  | zero => exact fun channel chronicle connectivity there => .refl there
  | succ depth settings =>
    intro channel chronicle connectivity there
    obtain ⟨added, later, follows, rounds⟩ := follows_setting settings there connectivity
    exact ⟨_, later, follows, rounds⟩

end Channel

/-! ## Observers -/

/-- A container that nobody was registered with, whatever is done with it, by observers that are
told or by anyone else. Registrations are numbered from one on, so that no number is given twice.
Its observers are those that joined and were not taken off, in the order in which they joined. A
setting tells exactly those who were registered when it stored its connectivity, each of them once
and in their order, up to those who still wait while it is not over; whoever is told is shown the
connectivity that was stored last. Taking off somebody who is not there changes nothing, and taking
off somebody who is leaves all others in their order. A recording container has as many
registrations as it has observers and has counted that were taken off. And a channel that sets the
connectivity does just that: it stores it, tells those who are registered, watchers and engine
alike, and is done. -/
theorem observers_told_in_rounds {container : Container} (unobserved : container.Unobserved)
    (moves : List Move) :
    let chronicle := Chronicle.run { container := container } moves
    let entries := chronicle.container.observers.entries
    (joinings chronicle.incidents).map (·.1) =
        List.range' 1 (joinings chronicle.incidents).length ∧
      entries = standing chronicle.incidents ∧
      (∀ front connectivity back, chronicle.incidents = front ++ .stored connectivity :: back →
        tellings front.length chronicle.incidents ++ waitingFor front.length chronicle.rounds =
          standing front) ∧
      (∀ front number entry shown back,
        chronicle.incidents = front ++ .told number entry shown :: back →
        (∃ connectivity, front[number]? = some (.stored connectivity)) ∧
          (storings front).getLast? = some shown.connectivity ∧
          shown.observers.entries = standing front) ∧
      (∀ id, id ∉ entries.map (·.1) →
        chronicle.container.unregister id = chronicle.container) ∧
      (∀ front id observer back, entries = front ++ (id, observer) :: back →
        (chronicle.container.unregister id).observers.entries = front ++ back) ∧
      (∀ count, chronicle.container.unregistered? = some count →
        (joinings chronicle.incidents).length = chronicle.container.observers.size + count) ∧
      ∀ {κ : Type} [Kernel κ] (channel : Channel κ) (connectivity : Connectivity),
        channel.container = some chronicle.container →
        ∃ others added,
          let after := channel.setConnectivity connectivity
          let later := chronicle.run others
          later.incidents = chronicle.incidents ++ .stored connectivity :: added ∧
            later.rounds = chronicle.rounds ∧ after.container = some later.container ∧
            tellings chronicle.incidents.length later.incidents = entries ∧
            after.notes.toList = channel.notes.toList ++ added.filterMap Incident.notice? ∧
            (channel.engine.released = false →
              (channel.actsOfCall (.setConnectivity connectivity)).map (·.channel.container) =
                (added.filterMap Incident.view?).map some) := by
  intro chronicle entries
  have sound : chronicle.Sound container.connectivity :=
    (Chronicle.sound_of_unobserved unobserved).run moves
  have enrolled := sound.enrolled
  have issued : (joinings chronicle.incidents).length = chronicle.container.observers.issued := by
    rw [← List.length_map, enrolled.numbers, List.length_range']
  refine ⟨issued ▸ enrolled.numbers, enrolled.entries,
    fun front connectivity back parts => sound.told_and_waiting parts, sound.truthful,
    fun id absent => Container.unregister_of_not_mem absent,
    fun front id observer back there => Registry.entries_unregister enrolled.distinct there,
    enrolled.count, fun {κ} _ channel connectivity there => ?_⟩
  obtain ⟨added, later, follows, rounds⟩ :=
    Channel.follows_setting (Channel.settingsPass _) there connectivity
  obtain ⟨others, rfl⟩ := follows.moved
  have told := (sound.run others).told_and_waiting follows.incidents
  rw [rounds, waitingFor_eq_nil sound.earlier, List.append_nil, ← enrolled.entries] at told
  exact ⟨others, added, follows.incidents, rounds, follows.container, told, follows.notes,
    follows.acts⟩

/-- Two watchers are told that WiFi is up. The first takes itself off, registers another and takes
WiFi down again: the setting inside tells the two that are left, and only then the setting around it
tells the second one, which by then is shown that WiFi is down. -/
theorem told_around_another_setting :
    let watcher (name : String) : Observer := .watcher name {}
    let chronicle := Chronicle.run { container := .recording }
      [.register (watcher "a"), .register (watcher "b"), .set .wifiOnly, .proceed, .unregister 1,
        .register (watcher "c"), .set .offline, .proceed, .proceed, .proceed, .proceed, .proceed]
    chronicle.rounds = [] ∧
      tellings 2 chronicle.incidents = [(1, watcher "a"), (2, watcher "b")] ∧
      tellings 6 chronicle.incidents = [(2, watcher "b"), (3, watcher "c")] ∧
      (joinings chronicle.incidents).length = 2 + 1 ∧
      chronicle.container.unregister 1 = chronicle.container ∧
      (chronicle.container.unregister 2).observers.entries = [(3, watcher "c")] := by
  intro watcher chronicle
  have unobserved : Container.recording.Unobserved := ⟨rfl, by rintro _ ⟨⟩; rfl⟩
  obtain ⟨-, -, told, -, absent, there, count, -⟩ := observers_told_in_rounds unobserved
    [.register (watcher "a"), .register (watcher "b"), .set .wifiOnly, .proceed, .unregister 1,
      .register (watcher "c"), .set .offline, .proceed, .proceed, .proceed, .proceed, .proceed]
  have ended : chronicle.rounds = [] := by cbv
  refine ⟨ended, ?_, ?_, count 1 (by cbv), absent 1 (of_decide_eq_true (by cbv)),
    there [] 2 (watcher "b") _ (by cbv)⟩
  · have first := told (chronicle.incidents.take 2) .wifiOnly (chronicle.incidents.drop 3) (by cbv)
    have place : (chronicle.incidents.take 2).length = 2 := by cbv
    have stood : standing (chronicle.incidents.take 2) = [(1, watcher "a"), (2, watcher "b")] := by
      cbv
    rw [place, ended, stood] at first
    exact (List.append_nil _).symm.trans first
  · have second := told (chronicle.incidents.take 6) .offline (chronicle.incidents.drop 7) (by cbv)
    have place : (chronicle.incidents.take 6).length = 6 := by cbv
    have stood : standing (chronicle.incidents.take 6) = [(2, watcher "b"), (3, watcher "c")] := by
      cbv
    rw [place, ended, stood] at second
    exact (List.append_nil _).symm.trans second

end ServiceChannel
