import ServiceChannel.Proofs.Channel.Tracing
import ServiceChannel.Proofs.Channel.Walk
import ServiceChannel.Proofs.Message.RoundTrip

/-!
# Attributes

The attributes by which a container is known are set by messages of its agent, each on its own: an
update sets those that it names, and a wipe takes all of them away from a container that stands on
its own. So each attribute has the value that the last message about it gave it, whatever else the
agent sends and whatever happens in between.

- `Attribute`, `Identity.get`: the attributes, one by one.
- `AgentMessage.value?`: what a message says about an attribute.
- `Identity.heed`, `Identity.get_foldl_heed`: the attributes after messages.
- `Channel.identified`: the kind and the attributes of the container, while it is there.
- `last_value_of_attribute`: dispatched messages, and every run.
- `identity_after_wipe`: a run with an attribute that is present and empty.
-/

namespace ServiceChannel

/-! ## Attributes -/

/-- What a container is known by. -/
inductive Attribute where
  | imei
  | mac
  | phoneNumber
  deriving DecidableEq

namespace Identity

/-- One attribute. -/
def get (identity : Identity) : Attribute → Option String
  | .imei => identity.imei
  | .mac => identity.mac
  | .phoneNumber => identity.phoneNumber

/-- Attributes that agree one by one are the same. -/
theorem ext_get {first second : Identity}
    (same : ∀ which, first.get which = second.get which) : first = second := by
  obtain ⟨_, _, _⟩ := first
  obtain ⟨_, _, _⟩ := second
  obtain rfl := same .imei
  obtain rfl := same .mac
  obtain rfl := same .phoneNumber
  rfl

@[simp] theorem get_empty (which : Attribute) : ({} : Identity).get which = none := by
  cases which <;> rfl

@[simp] theorem get_apply (identity update : Identity) (which : Attribute) :
    (identity.apply update).get which =
      (update.get which <|> identity.get which) := by
  cases which <;> rfl

/-- Updates that name no attribute in common can be swapped. -/
theorem apply_comm {first second : Identity}
    (disjoint : ∀ which, first.get which = none ∨ second.get which = none)
    (identity : Identity) :
    (identity.apply first).apply second = (identity.apply second).apply first := by
  refine ext_get fun which => ?_
  simp only [get_apply]
  rcases disjoint which with absent | absent <;> simp [absent]

end Identity

/-! ## Messages -/

/-- What a message says about an attribute, if it says anything: a value, or that it is absent. A
wipe says that only to a container that stands on its own. -/
def AgentMessage.value? (standsAlone : Bool) (which : Attribute) :
    AgentMessage → Option (Option String)
  | .identity update => (update.get which).map some
  | .masterClear => if standsAlone then some none else none
  | _ => none

/-- What is left of the attributes after a message. -/
def Identity.heed (standsAlone : Bool) (identity : Identity) : AgentMessage → Identity
  | .identity update => identity.apply update
  | .masterClear => if standsAlone then {} else identity
  | _ => identity

namespace Identity

/-- A message sets an attribute to what it says about it. -/
theorem get_heed (standsAlone : Bool) (identity : Identity) (message : AgentMessage)
    (which : Attribute) :
    (identity.heed standsAlone message).get which =
      (message.value? standsAlone which).getD (identity.get which) := by
  cases message with
  | identity update =>
    dsimp only [heed, AgentMessage.value?]
    rw [get_apply]
    cases update.get which <;> rfl
  | masterClear => cases standsAlone <;> simp [heed, AgentMessage.value?]
  | _ => rfl

/-- After messages, each attribute is what the last of them about it says. -/
theorem get_foldl_heed (standsAlone : Bool) (identity : Identity) (messages : List AgentMessage)
    (which : Attribute) :
    (messages.foldl (heed standsAlone) identity).get which =
      (messages.filterMap (·.value? standsAlone which)).getLast?.getD
        (identity.get which) := by
  induction messages generalizing identity with
  | nil => rfl
  | cons message messages ih =>
    rw [List.foldl_cons, ih, get_heed, List.filterMap_cons]
    cases message.value? standsAlone which with
    | none => rfl
    | some value => simp [List.getLast?_cons]

end Identity

/-- The attributes after messages, beside the kind of the container, which stays. -/
def heedAll (messages : List AgentMessage) (identified : Bool × Identity) : Bool × Identity :=
  (identified.1, messages.foldl (Identity.heed identified.1) identified.2)

@[simp] theorem heedAll_nil : heedAll [] = id := rfl

theorem heedAll_append (first second : List AgentMessage) :
    heedAll (first ++ second) = heedAll second ∘ heedAll first := by
  funext identified
  simp [heedAll]

namespace Container

/-- The kind of the container, and its attributes. -/
def identified (container : Container) : Bool × Identity :=
  (container.isStandalone, container.identity)

/-- What messages leave of an attribute: what the last of them about it says, or else what it
was. -/
def lastValue (container : Container) (messages : List AgentMessage) (which : Attribute) :
    Option String :=
  (messages.filterMap (·.value? container.isStandalone which)).getLast?.getD
    (container.identity.get which)

theorem lastValue_of_said {container : Container} {before since : List AgentMessage}
    {message : AgentMessage} {which : Attribute} {value : Option String}
    (said : message.value? container.isStandalone which = some value)
    (quiet : ∀ later ∈ since, later.value? container.isStandalone which = none) :
    container.lastValue (before ++ message :: since) which = value := by
  have nothing : since.filterMap (·.value? container.isStandalone which) = [] :=
    List.filterMap_eq_nil_iff.2 quiet
  simp [lastValue, List.filterMap_append, said, nothing]

theorem lastValue_of_quiet {container : Container} {messages : List AgentMessage}
    {which : Attribute}
    (quiet : ∀ message ∈ messages, message.value? container.isStandalone which = none) :
    container.lastValue messages which = container.identity.get which := by
  rw [lastValue, List.filterMap_eq_nil_iff.2 quiet]
  rfl

/-- Attributes that follow messages are the last values. -/
theorem follows_of_identified {container after : Container} {messages : List AgentMessage}
    (same : after.identified = heedAll messages container.identified) :
    after.isStandalone = container.isStandalone ∧
      ∀ which, after.identity.get which = container.lastValue messages which := by
  refine ⟨congrArg Prod.fst same, fun which => ?_⟩
  rw [show after.identity = _ from congrArg Prod.snd same]
  exact Identity.get_foldl_heed _ _ _ _

@[simp] theorem identified_estate (container : Container) :
    container.estate.identified = container.identified := by
  obtain ⟨_, _, _, _, _, _, _, _ | _⟩ := container <;> rfl

@[simp] theorem identified_halted (container : Container) (delivered : Bool) :
    (container.halted delivered).identified = container.identified := by
  obtain ⟨_, _, _, _, _, _, _, _ | _⟩ := container <;> rfl

/-- The container is of the same kind after a message, and its attributes follow the message. -/
theorem identified_obey (container : Container) (delivered : Bool) (message : AgentMessage) :
    (container.obey delivered message).identified =
      (container.isStandalone, container.identity.heed container.isStandalone message) := by
  cases message with
  | shutdown =>
    unfold obey
    dsimp only
    split
    · rfl
    · exact container.identified_halted delivered
  | masterClear => obtain ⟨_, _, _, _, _, _, _, _ | _⟩ := container <;> rfl
  | exec path params => obtain ⟨_, _, _, _, _, _, _, _ | _⟩ := container <;> rfl
  | auditAck ack => obtain ⟨_, _, _, _, _, _, _, _ | _⟩ := container <;> rfl
  | _ => rfl

end Container

/-- Updates of the attributes that name none in common can be swapped. -/
theorem Holdings.identify_comm (holdings : Holdings) {first second : Identity}
    (disjoint : ∀ which, first.get which = none ∨ second.get which = none) :
    (holdings.identify first).identify second = (holdings.identify second).identify first := by
  unfold identify
  simp only [Option.map_map, Function.comp_def, Identity.apply_comm disjoint]

/-! ## Channels -/

section Channels

variable {κ : Type}

/-- The message that was handed over, if it is one. -/
def Handover.message? (handover : Handover κ) : Option AgentMessage :=
  (AgentMessage.decode handover.payload).toOption

namespace Channel

/-- The kind of the container and its attributes, while it is there. -/
def identified (channel : Channel κ) : Option (Bool × Identity) :=
  channel.container.map Container.identified

theorem identified_eq_estate (channel : Channel κ) :
    channel.identified = channel.estate.map Container.identified := by
  simp [identified, estate_eq, Function.comp_def]

theorem identified_of_estate {before after : Channel κ} (same : after.estate = before.estate) :
    after.identified = before.identified := by
  rw [identified_eq_estate, same, identified_eq_estate]

variable [Kernel κ]

/-- The attributes follow a message, each as it says. -/
theorem identified_handle (channel : Channel κ) (message : AgentMessage) :
    (channel.handle message).identified = channel.identified.map (heedAll [message]) := by
  have follows (container : Container) :
      (container.obey channel.delivers message).identified =
        heedAll [message] container.identified :=
    container.identified_obey _ message
  rw [identified_eq_estate, estate_handle, identified_eq_estate, Option.map_map, Option.map_map]
  exact congrArg (channel.estate.map ·) (funext follows)

theorem identified_handlePayload (channel : Channel κ) (id : Nat) (payload : Bytes) :
    (channel.handlePayload payload).2.identified =
      channel.identified.map (heedAll (Handover.message? ⟨channel, id, payload⟩).toList) := by
  unfold handlePayload Handover.message?
  dsimp only
  cases AgentMessage.decode payload with
  | ok message => exact channel.identified_handle message
  | error error =>
    dsimp only [Except.toOption, Option.toList]
    rw [heedAll_nil, Option.map_id]
    split <;> rfl

theorem identified_stopContainer (channel : Channel κ) :
    channel.stopContainer.identified = channel.identified := by
  rw [identified_eq_estate, estate_stopContainer, identified_eq_estate, Option.map_map]
  exact congrArg (channel.estate.map ·) (funext fun container => container.identified_halted _)

/-- Messages that are handled one after the other. -/
theorem identified_foldl_handle (channel : Channel κ) (messages : List AgentMessage) :
    (messages.foldl handle channel).identified = channel.identified.map (heedAll messages) := by
  induction messages generalizing channel with
  | nil => rw [heedAll_nil, Option.map_id]; rfl
  | cons message messages ih =>
    rw [List.foldl_cons, ih, identified_handle, Option.map_map, ← heedAll_append]
    rfl

/-- The attributes are those that the messages handed over so far leave. -/
def Heeds (begun : Option (Bool × Identity)) (past : List (Handover κ)) (channel : Channel κ) :
    Prop :=
  ∀ identified ∈ channel.identified,
    begun.map (heedAll (past.filterMap Handover.message?)) = some identified

/-- Whatever else is done to the container, it keeps its kind and its attributes. -/
def KeepsIdentity (channel : Channel κ) : Input κ → Prop
  | .container next => ∀ container ∈ next, ∃ before, channel.container = some before ∧
      container.isStandalone = before.isStandalone ∧ container.identity = before.identity
  | _ => True

omit [Kernel κ] in
theorem Heeds.of_identified {begun : Option (Bool × Identity)} {past : List (Handover κ)}
    {before after : Channel κ} (heeds : before.Heeds begun past)
    (same : after.identified = before.identified) : after.Heeds begun past := by
  rwa [Heeds, same]

theorem Heeds.handlePayload {begun : Option (Bool × Identity)} {past : List (Handover κ)}
    {channel : Channel κ} (heeds : channel.Heeds begun past) (id : Nat) (payload : Bytes) :
    (channel.handlePayload payload).2.Heeds begun (past ++ [⟨channel, id, payload⟩]) := by
  intro after left
  rw [channel.identified_handlePayload id] at left
  obtain ⟨identified, there, rfl⟩ := Option.map_eq_some_iff.1 left
  let here : Handover κ := ⟨channel, id, payload⟩
  have more : heedAll ((past ++ [here]).filterMap Handover.message?) =
      heedAll here.message?.toList ∘ heedAll (past.filterMap Handover.message?) := by
    rw [List.filterMap_append, heedAll_append, List.filterMap_cons]
    cases here.message? <;> rfl
  rw [more, ← Option.map_map, heeds identified there]
  rfl

theorem Heeds.step {begun : Option (Bool × Identity)} {history : History κ} {input : Input κ}
    (heeds : history.channel.Heeds begun history.handovers)
    (allows : input.isOutside = true → history.channel.KeepsIdentity input) :
    (history.step input).channel.Heeds begun (history.step input).handovers := by
  refine History.step_along (motive := fun past channel => channel.Heeds begun past)
    (fun past before after same heeds => heeds.of_identified (identified_of_estate same))
    (fun past channel id payload heeds => heeds.handlePayload id payload)
    (fun _ => heeds.of_identified history.channel.identified_stopContainer) (fun next change => ?_)
    heeds
  subst change
  intro identified there
  obtain ⟨container, rfl, rfl⟩ := Option.map_eq_some_iff.1 there
  obtain ⟨before, found, kind, identity⟩ := allows rfl container rfl
  refine heeds _ ?_
  simp [Channel.identified, found, Container.identified, kind, identity]

theorem Heeds.run {begun : Option (Bool × Identity)} {history : History κ}
    (heeds : history.channel.Heeds begun history.handovers) {inputs : List (Input κ)}
    (admits : history.channel.Admits KeepsIdentity inputs) :
    (history.run inputs).channel.Heeds begun (history.run inputs).handovers := by
  induction inputs generalizing history with
  | nil => exact heeds
  | cons input inputs ih => exact ih (heeds.step admits.1) admits.2

/-- An update changes the attributes of the container, and nothing else that the channel holds. -/
theorem holdings_handle_identity (channel : Channel κ) (update : Identity) :
    (channel.handle (.identity update)).holdings = channel.holdings.identify update := by
  unfold handle
  cases there : channel.container with
  | none =>
    rw [holdings_record, Holdings.identify]
    simp [holdings, there]
  | some container => exact holdings_applyIdentity _ update

theorem kernel_handle_identity (channel : Channel κ) (update : Identity) :
    (channel.handle (.identity update)).kernel = channel.kernel := by
  unfold handle
  split
  · rfl
  · exact kernel_applyIdentity _ update

end Channel

end Channels

/-- Each attribute is what the last message about it says, however many messages an agent sends, to
either kind of container, and whatever the attributes were at first.
A message says something about an attribute if it is an update that names it, with an empty text
too, or a wipe of a container that stands on its own; every other message says nothing about it.
So it is when messages are dispatched one after the other, and when they are read in a run in which
anything else happens, as long as nobody but the agent sets attributes.
Updates that name no attribute in common can be swapped, and a payload keeps what an update leaves
out apart from what it sets to the empty text. -/
theorem last_value_of_attribute {κ : Type} [Kernel κ] (start : Channel κ) :
    (∀ (container : Container) (which : Attribute) (before since : List AgentMessage),
      (∀ later ∈ since, later.value? container.isStandalone which = none) →
        (∀ update value, update.get which = some value →
          container.lastValue (before ++ .identity update :: since) which = some value) ∧
        (container.isStandalone = true →
          container.lastValue (before ++ .masterClear :: since) which = none) ∧
        container.lastValue since which = container.identity.get which) ∧
    (∀ (standsAlone : Bool) (message : AgentMessage), (∀ update, message ≠ .identity update) →
      (standsAlone = true → message ≠ .masterClear) →
        ∀ which, message.value? standsAlone which = none) ∧
    (∀ container ∈ start.container, ∀ messages, ∃ after,
      (messages.foldl Channel.handle start).container = some after ∧
        after.isStandalone = container.isStandalone ∧
        ∀ which, after.identity.get which = container.lastValue messages which) ∧
    (∀ inputs, start.Admits Channel.KeepsIdentity inputs →
      let history := (⟨start, [], []⟩ : History κ).run inputs
      ∀ after ∈ history.channel.container, ∃ container, start.container = some container ∧
        after.isStandalone = container.isStandalone ∧
        ∀ which, after.identity.get which =
          container.lastValue (history.handovers.filterMap Handover.message?) which) ∧
    (∀ first second : Identity, (∀ which, first.get which = none ∨ second.get which = none) →
      let inOrder := (start.handle (.identity first)).handle (.identity second)
      let swapped := (start.handle (.identity second)).handle (.identity first)
      inOrder.holdings = swapped.holdings ∧ inOrder.kernel = swapped.kernel) ∧
    ∀ update : Identity, (AgentMessage.identity update).encode.length < UInt64.size →
      AgentMessage.decode (AgentMessage.identity update).encode = .ok (.identity update) := by
  refine ⟨fun container which before since quiet => ⟨fun update value named => ?named,
      fun standsAlone => ?wiped, Container.lastValue_of_quiet quiet⟩,
    fun standsAlone message notIdentity notWipe which => ?silent,
    fun container there messages => ?dispatched, fun inputs admits => ?ran,
    fun first second disjoint => ⟨?swapped, ?kernel⟩,
    fun update bound => (AgentMessage.identity update).decode_encode bound⟩
  case named =>
    have said : (AgentMessage.identity update).value? container.isStandalone which =
        some (some value) := by
      rw [AgentMessage.value?, named, Option.map_some]
    exact Container.lastValue_of_said said quiet
  case wiped =>
    have said : AgentMessage.masterClear.value? container.isStandalone which = some none := by
      rw [AgentMessage.value?, if_pos standsAlone]
    exact Container.lastValue_of_said said quiet
  case silent =>
    cases message with
    | identity update => exact absurd rfl (notIdentity update)
    | masterClear => exact if_neg fun standsAlone => notWipe standsAlone rfl
    | _ => rfl
  case dispatched =>
    have identified := start.identified_foldl_handle messages
    rw [Channel.identified, Channel.identified, there] at identified
    obtain ⟨after, left, same⟩ := Option.map_eq_some_iff.1 identified
    exact ⟨after, left, Container.follows_of_identified same⟩
  case ran =>
    intro history after left
    let opening : History κ := ⟨start, [], []⟩
    have nothing : opening.channel.Heeds start.identified opening.handovers :=
      fun identified there => (congrFun Option.map_id _).trans there
    have known := nothing.run admits after.identified
      (Option.map_eq_some_iff.2 ⟨after, left, rfl⟩)
    obtain ⟨identified, begun, same⟩ := Option.map_eq_some_iff.1 known
    obtain ⟨container, there, rfl⟩ := Option.map_eq_some_iff.1 begun
    exact ⟨container, there, Container.follows_of_identified same.symm⟩
  case swapped =>
    simp only [Channel.holdings_handle_identity]
    exact start.holdings.identify_comm disjoint
  case kernel => simp only [Channel.kernel_handle_identity]

/-- A standalone container that is wiped between updates, in one read: it has only what was named
after the wipe, be it empty, and the other attributes are gone. -/
theorem identity_after_wipe :
    let container : Container :=
      { Container.standalone "a0" none false with
        identity := { imei := some "1", mac := some "2", phoneNumber := some "3" } }
    let messages : List AgentMessage :=
      [.identity { mac := some "4" }, .masterClear, .bootCompleted, .identity { imei := some "" },
        .suspendCompleted]
    let stream : Bytes := messages.flatMap fun message => Frame.frame message.encode
    let start := Channel.fresh (⟨[]⟩ : Script) {} (some container)
    let inputs : List (Input Script) := [.accept 7, .read 1 (.data stream)]
    let history := (⟨start, [], []⟩ : History Script).run inputs
    start.Admits Channel.KeepsIdentity inputs ∧
      history.handovers.filterMap Handover.message? = messages ∧
      history.channel.container.map Container.identified = some (true, { imei := some "" }) ∧
      (∀ after ∈ history.channel.container, ∀ which,
        after.identity.get which = container.lastValue messages which) ∧
      (∀ which, container.lastValue messages which = if which = .imei then some "" else none) := by
  intro container messages stream start inputs history
  have admits : start.Admits Channel.KeepsIdentity inputs := by
    simp [inputs, Channel.Admits, Input.isOutside, Channel.KeepsIdentity]
  have handed : history.handovers.filterMap Handover.message? = messages := by decide +kernel
  refine ⟨admits, handed, by decide +kernel, fun after left => ?_, fun which => ?_⟩
  · obtain ⟨first, there, -, values⟩ :=
      (last_value_of_attribute start).2.2.2.1 inputs admits after left
    obtain rfl : container = first := Option.some.inj there
    rw [← handed]
    exact values
  · cases which <;> decide +kernel

end ServiceChannel
