import Mathlib
import ServiceChannel.Proofs.Channel.Changes
import ServiceChannel.Proofs.Kernel.Script

/-!
# What the agent knows

An agent knows the connectivity that was exchanged last on its own connection, and takes its
container for offline before that. The engine remembers across connections. So an agent that
connected anew has to wait for the first exchange on its connection: until then the engine may find
it in line without having told it anything.

- `viewOn`: what the agent of a connection knows.
- `Informed`: the invariant, that the engine remembers what the agent knows, if it knows anything.
- `view_of_comparison`: when comparing the connectivity leaves the agent in line.
-/

namespace ServiceChannel

variable {κ : Type} [Kernel κ]

/-! ## Views -/

/-- The connectivities that acts exchanged on a connection, the oldest first. What an engine sends
goes to the open connection, and what it handles comes from there. -/
def exchangesOn (id : Nat) (acts : List (Act κ)) : List Connectivity :=
  acts.filterMap fun act => if act.channel.engine.isCurrent id then act.exchanged else none

/-- What the agent of a connection knows. -/
def viewOn (id : Nat) (acts : List (Act κ)) : Connectivity :=
  (exchangesOn id acts).getLast?.getD .offline

/-- An act exchanges on the open connection. -/
theorem exchangesOn_append_of_open {act : Act κ} {connection : Connection}
    (current : act.channel.engine.connection = some connection) (acts : List (Act κ)) :
    exchangesOn connection.id (acts ++ [act]) =
      exchangesOn connection.id acts ++ act.exchanged.toList := by
  have isCurrent : act.channel.engine.isCurrent connection.id = true := by
    simp [Engine.isCurrent, current]
  unfold exchangesOn
  rw [List.filterMap_append]
  congr 1
  simp only [List.filterMap_cons, List.filterMap_nil, isCurrent, if_true]
  cases act.exchanged <;> rfl

/-- An act exchanges nothing on any other connection. -/
theorem exchangesOn_append_of_other {act : Act κ} {id : Nat}
    (other : ∀ connection, act.channel.engine.connection = some connection → connection.id ≠ id)
    (acts : List (Act κ)) : exchangesOn id (acts ++ [act]) = exchangesOn id acts := by
  have isCurrent : act.channel.engine.isCurrent id = false := by
    unfold Engine.isCurrent
    cases current : act.channel.engine.connection with
    | none => rfl
    | some connection => simpa using other connection current
  unfold exchangesOn
  rw [List.filterMap_append]
  simp [isCurrent]

/-! ## The invariant -/

/-- The connections are numbered as they come, nothing was exchanged on those to come, and the
engine remembers what was exchanged last on the open one, if anything was. -/
structure Informed (past : List (Act κ)) (ties : Ties) : Prop where
  numbered : ∀ connection, ties.connection = some connection → connection.id ≤ ties.accepted
  future : ∀ id, ties.accepted < id → exchangesOn id past = []
  current : ∀ connection, ties.connection = some connection →
    exchangesOn connection.id past ≠ [] → viewOn connection.id past = ties.connectivity

namespace Informed

variable {past : List (Act κ)} {before after : Ties}

/-- The connection may leave, and what is not about connections may change. -/
theorem narrow (informed : Informed past before)
    (connection : after.connection = before.connection ∨ after.connection = none)
    (accepted : after.accepted = before.accepted)
    (connectivity : after.connectivity = before.connectivity) : Informed past after := by
  obtain same | gone := connection
  · refine ⟨?_, ?_, ?_⟩
    · rw [same, accepted]
      exact informed.numbered
    · rw [accepted]
      exact informed.future
    · rw [same, connectivity]
      exact informed.current
  · refine ⟨?_, ?_, ?_⟩
    · simp [gone]
    · rw [accepted]
      exact informed.future
    · simp [gone]

/-- Nothing was exchanged yet on a connection that arrives. -/
theorem enter (informed : Informed past before) (socket : Handle) :
    Informed past { before with
      connection := some ⟨before.accepted + 1, socket⟩
      accepted := before.accepted + 1 } := by
  refine ⟨?_, fun id later => informed.future id (Nat.lt_of_succ_lt later), ?_⟩
  · rintro _ ⟨⟩
    exact Nat.le_refl _
  · rintro _ ⟨⟩ exchanged
    exact absurd (informed.future _ (Nat.lt_succ_self _)) exchanged

/-- An act exchanges on the open connection, and the engine remembers what it exchanges. -/
theorem act {act : Act κ} (informed : Informed past act.channel.ties)
    (changes : act.Changes after) : Informed (past ++ [act]) after := by
  obtain ⟨connection, accepted⟩ := changes.connection
  have connectivity := changes.connectivity
  constructor
  · intro held current
    rw [accepted]
    obtain same | gone := connection
    · exact informed.numbered held (same.symm.trans current)
    · rw [gone] at current
      cases current
  · intro id later
    rw [accepted] at later
    rw [exchangesOn_append_of_other, informed.future id later]
    intro held current
    exact Nat.ne_of_lt (Nat.lt_of_le_of_lt (informed.numbered held current) later)
  · intro held current exchanged
    obtain same | gone := connection
    · have still : act.channel.engine.connection = some held := same.symm.trans current
      rw [exchangesOn_append_of_open still] at exchanged
      rw [connectivity, viewOn, exchangesOn_append_of_open still]
      cases new : act.exchanged with
      | none =>
        rw [new, Option.toList_none, List.append_nil] at exchanged
        rw [Option.toList_none, List.append_nil]
        exact informed.current held still exchanged
      | some connectivity => simp
    · rw [gone] at current
      cases current

end Informed

/-- What comes from outside keeps the invariant: a connection may arrive. -/
theorem Informed.outside {past : List (Act κ)} {channel : Channel κ} {input : Input κ}
    (informed : Informed past channel.ties) (outside : input.isOutside = true) :
    Informed past (channel.step input).ties := by
  cases input with
  | accept socket =>
    rw [Channel.step, Channel.ties_accept]
    exact informed.enter socket
  | acceptFailed error =>
    rw [Channel.step, Channel.ties_acceptFailed]
    exact informed.narrow (.inl rfl) rfl rfl
  | container container => exact informed.narrow (.inl rfl) rfl rfl
  | _ => cases outside

/-- Nothing breaks the invariant. -/
theorem informed_kept (allowed : Channel κ → Input κ → Prop) :
    Kept allowed fun past channel => Informed past channel.ties where
  quiet := by
    rintro past before after (same | same) informed <;> rw [same]
    · exact informed
    · exact informed.narrow (.inr rfl) rfl rfl
  watch past channel name reaction informed := by
    have same := channel.sameEngine_watch name reaction
    exact informed.narrow (.inl same.connection) same.accepted same.connectivity
  unwatch past channel name informed := by
    have same := channel.sameEngine_unwatch name
    exact informed.narrow (.inl same.connection) same.accepted same.connectivity
  outside past channel input outside _ informed := informed.outside outside
  act past act possible informed := informed.act (Act.changes possible)

/-! ## Comparing -/

/-- In every run: when the connectivity is compared without a failure, the agent on the open
connection knows the container's connectivity afterwards if and only if anything was exchanged on
its connection or the container is offline. After a push it does. -/
theorem view_of_comparison {κ : Type} [Kernel κ] (kernel : κ) (config : Config)
    (container : Option Container) (inputs : List (Input κ)) :
    let start := Channel.fresh kernel config container
    ∀ before act after, start.acts inputs = before ++ act :: after →
      ∀ container connection pushed, act.channel.container = some container →
        act.channel.engine.connection = some connection →
        act.comparison? = some (.ok pushed) →
        (viewOn connection.id (before ++ [act]) = container.connectivity ↔
          exchangesOn connection.id (before ++ [act]) ≠ [] ∨ container.connectivity = .offline) ∧
        (pushed = true → exchangesOn connection.id (before ++ [act]) ≠ []) := by
  intro start before act after split container connection pushed there current compares
  have walk := Channel.run_walk (start.admits_all inputs)
  have fresh : Informed ([] : List (Act κ)) start.ties := ⟨nofun, fun _ _ => rfl, nofun⟩
  obtain ⟨possible, informed⟩ := (walk.invariant (informed_kept _) fresh).2 before act after split
  have now := informed.act (Act.changes possible)
  obtain ⟨answered, exchanged, held, -⟩ := Act.of_comparison possible compares
  obtain ⟨ties, sent⟩ := Channel.reconcile_ok there answered.symm
  rw [Channel.ties_of_holdings held, ties] at now
  have remembered := now.current connection current
  refine ⟨⟨fun sees => ?_, ?_⟩, fun push => ?_⟩
  · by_cases nothing : exchangesOn connection.id (before ++ [act]) = []
    · rw [viewOn, nothing] at sees
      exact .inr sees.symm
    · exact .inl nothing
  · rintro (anything | offline)
    · exact remembered anything
    · by_cases nothing : exchangesOn connection.id (before ++ [act]) = []
      · rw [viewOn, nothing, offline]
        rfl
      · exact remembered nothing
  · rw [exchangesOn_append_of_open current, exchanged, sent push]
    simp

/-- An agent that connects anew and is told of a change since: comparing finds it in line, and it
is. -/
theorem successor_is_told_of_change :
    let start := Channel.fresh (⟨[]⟩ : Script) { socketDir := "", socketName := "s" }
      (some .recording)
    let inputs : List (Input Script) := [.call .create, .call .bind, .call .listen, .accept 7,
      .call (.setConnectivity .wifiOnly), .read 1 .endOfStream, .accept 8,
      .call (.setConnectivity .mobileOnly)]
    let compare : Act Script := ⟨start.run inputs, .called .reconcile⟩
    start.acts (inputs ++ [.call .reconcile]) = start.acts inputs ++ [compare] ∧
      compare.comparison? = some (.ok false) ∧
      viewOn 2 (start.acts inputs ++ [compare]) = .mobileOnly := by
  intro start inputs compare
  have acts : start.acts (inputs ++ [.call .reconcile]) = start.acts inputs ++ [compare] :=
    start.acts_append inputs [.call .reconcile]
  have there : compare.channel.container = some { Container.recording with
      connectivity := .mobileOnly, observers := ⟨[(1, .bridge)], 1⟩ } := by cbv
  have current : compare.channel.engine.connection = some ⟨2, 8⟩ := by cbv
  have answer : compare.comparison? = some (.ok false) := by cbv
  have exchanged : exchangesOn 2 (start.acts inputs ++ [compare]) = [.mobileOnly] := by cbv
  have view := view_of_comparison _ _ _ _ _ compare [] acts _ _ _ there current answer
  refine ⟨acts, answer, view.1.2 (.inl ?_)⟩
  rw [exchanged]
  exact List.cons_ne_nil _ _

/-- An agent that connects anew after the agent before it was told that the WiFi is up: comparing
finds it in line, and it takes its container for offline. -/
theorem successor_is_not_told :
    let start := Channel.fresh (⟨[]⟩ : Script) { socketDir := "", socketName := "s" }
      (some .recording)
    let inputs : List (Input Script) := [.call .create, .call .bind, .call .listen, .accept 7,
      .call (.setConnectivity .wifiOnly), .read 1 .endOfStream, .accept 8]
    let channel := start.run inputs
    channel.engine.connection = some ⟨2, 8⟩ ∧
      channel.container.map (·.connectivity) = some .wifiOnly ∧
      (channel.call .reconcile).1 = .flag false ∧
      viewOn 1 (start.acts (inputs ++ [.call .reconcile])) = .wifiOnly ∧
      viewOn 2 (start.acts (inputs ++ [.call .reconcile])) = .offline := by
  intro start inputs channel
  refine ⟨by cbv, by cbv, by cbv, by cbv, by cbv⟩

end ServiceChannel
