import ServiceChannel.Proofs.Channel.Changes
import ServiceChannel.Proofs.Container.Chronicle
import ServiceChannel.Proofs.Kernel.Script

/-!
# Subscriptions

An engine observes its container under one number at a time, the one it remembers. Bringing the
rendezvous up observes the container once more and forgets the number from before. That happens only
after a failed accept closed the rendezvous and left the subscription: what is forgotten then stays
with the container for good.

- `Account`: the invariant, that observers are subscribed or lost.
- `Act.overwrites`: the acts that lose a subscription.
- `subscriptions_of_run`: how many observers an engine has at every moment.
-/

namespace ServiceChannel

/-! ## Registries -/

namespace Registry

/-- How many observers are engines. -/
def bridges (registry : Registry) : Nat := registry.entries.countP (·.2 = .bridge)

/-- Numbers are given once, up to the last one that was issued. -/
structure Numbered (registry : Registry) : Prop where
  distinct : (registry.entries.map (·.1)).Nodup
  issued : ∀ entry ∈ registry.entries, entry.1 ≤ registry.issued

namespace Numbered

variable {registry : Registry}

theorem register (numbered : registry.Numbered) (observer : Observer) :
    (registry.register observer).Numbered := by
  constructor
  · simp only [Registry.register, List.map_append, List.map_cons, List.map_nil]
    refine List.nodup_append.2 ⟨numbered.distinct, by simp, ?_⟩
    intro id known other new
    obtain ⟨entry, mem, rfl⟩ := List.mem_map.1 known
    rw [List.mem_singleton.1 new]
    exact Nat.ne_of_lt (Nat.lt_succ_of_le (numbered.issued entry mem))
  · intro entry mem
    simp only [Registry.register, List.mem_append, List.mem_singleton] at mem
    obtain old | rfl := mem
    · exact Nat.le_succ_of_le (numbered.issued entry old)
    · exact Nat.le_refl _

theorem unregister (numbered : registry.Numbered) (id : ObserverId) :
    (registry.unregister id).Numbered := by
  constructor
  · exact numbered.distinct.sublist (List.filter_sublist.map _)
  · intro entry mem
    exact numbered.issued entry ((List.mem_filter.1 mem).1)

/-- Taking an engine's observer off leaves one less. -/
theorem bridges_unregister (numbered : registry.Numbered) {id : ObserverId}
    (mem : (id, .bridge) ∈ registry.entries) :
    (registry.unregister id).bridges + 1 = registry.bridges := by
  obtain ⟨front, back, parts⟩ := List.append_of_mem mem
  rw [bridges, bridges, entries_unregister numbered.distinct parts, parts]
  simp only [List.countP_append, List.countP_cons, decide_true, if_true]
  omega

end Numbered

/-- Taking somebody else off leaves the engines' observers. -/
theorem bridges_unregister_of_not_mem {registry : Registry} {id : ObserverId}
    (other : (id, .bridge) ∉ registry.entries) :
    (registry.unregister id).bridges = registry.bridges := by
  unfold bridges Registry.unregister
  rw [List.countP_filter]
  refine List.countP_congr fun entry mem => ?_
  have unlike (bridge : entry.2 = .bridge) : entry.1 ≠ id := by
    rintro rfl
    rw [← bridge] at other
    exact other mem
  simpa using unlike

@[simp] theorem bridges_register_bridge (registry : Registry) :
    (registry.register .bridge).bridges = registry.bridges + 1 := by
  simp [bridges, register]

@[simp] theorem bridges_register_watcher (registry : Registry) (name : String)
    (reaction : Reaction) :
    (registry.register (.watcher name reaction)).bridges = registry.bridges := by
  simp [bridges, register]

end Registry

/-! ## Accounts -/

/-- Every observer of an engine is its subscription or lost, and no watcher goes under the number of
one. -/
structure Account (ties : Ties) (registry : Registry) (lost : Nat) : Prop where
  there : ties.registry = some registry
  numbered : registry.Numbered
  watchers : ∀ watcher ∈ ties.watchers,
    watcher.2 ≤ registry.issued ∧ (watcher.2, .bridge) ∉ registry.entries
  subscribed : ∀ id, ties.subscription = some id → (id, .bridge) ∈ registry.entries
  count : registry.bridges = ties.subscription.toList.length + lost

namespace Account

variable {ties : Ties} {registry : Registry} {lost : Nat}

/-- What is not about observers may change. -/
theorem of_eq {after : Ties} (account : Account ties registry lost)
    (there : after.registry = ties.registry) (watchers : after.watchers = ties.watchers)
    (subscription : after.subscription = ties.subscription) : Account after registry lost := by
  refine ⟨there.trans account.there, account.numbered, ?_, ?_, ?_⟩
  · rw [watchers]
    exact account.watchers
  · rw [subscription]
    exact account.subscribed
  · rw [subscription]
    exact account.count

/-- A watcher joins. -/
theorem watch (account : Account ties registry lost) (name : String) (reaction : Reaction) :
    Account { ties with
      registry := some (registry.register (.watcher name reaction))
      watchers := (name, registry.next) :: ties.watchers.filter (·.1 ≠ name) }
      (registry.register (.watcher name reaction)) lost := by
  refine ⟨rfl, account.numbered.register _, ?_, ?_, ?_⟩
  · intro watcher mem
    obtain rfl | known := List.mem_cons.1 mem
    · refine ⟨Nat.le_refl _, fun bridge => ?_⟩
      -- The number is new, so no engine has it.
      obtain old | new := List.mem_append.1 bridge
      · exact absurd (account.numbered.issued _ old) (Nat.not_succ_le_self _)
      · simp at new
    · obtain ⟨issued, other⟩ := account.watchers watcher (List.mem_filter.1 known).1
      refine ⟨Nat.le_succ_of_le issued, fun bridge => ?_⟩
      obtain old | new := List.mem_append.1 bridge
      · exact other old
      · simp at new
  · intro id subscribed
    exact List.mem_append_left _ (account.subscribed id subscribed)
  · rw [Registry.bridges_register_watcher]
    exact account.count

/-- A watcher leaves. -/
theorem unwatch (account : Account ties registry lost) {name : String} {id : ObserverId}
    (known : (name, id) ∈ ties.watchers) :
    Account { ties with registry := ties.registry.map (·.unregister id) }
      (registry.unregister id) lost := by
  have other := (account.watchers _ known).2
  refine ⟨?_, account.numbered.unregister id, ?_, ?_, ?_⟩
  · simp [account.there]
  · intro watcher mem
    obtain ⟨issued, unlike⟩ := account.watchers watcher mem
    exact ⟨issued, fun bridge => unlike (List.mem_filter.1 bridge).1⟩
  · intro mine subscribed
    have mem := account.subscribed mine subscribed
    refine List.mem_filter.2 ⟨mem, ?_⟩
    have unlike : mine ≠ id := by
      rintro rfl
      exact other mem
    simpa using unlike
  · rw [Registry.bridges_unregister_of_not_mem other]
    exact account.count

/-- The engine observes its container; a subscription from before is lost. -/
theorem subscribe (account : Account ties registry lost) (rendezvous : Rendezvous) :
    Account { ties with
      rendezvous := rendezvous
      registry := some (registry.register .bridge)
      subscription := some registry.next }
      (registry.register .bridge) (lost + ties.subscription.toList.length) := by
  refine ⟨rfl, account.numbered.register _, ?_, ?_, ?_⟩
  · intro watcher mem
    obtain ⟨issued, other⟩ := account.watchers watcher mem
    refine ⟨Nat.le_succ_of_le issued, fun bridge => ?_⟩
    obtain old | new := List.mem_append.1 bridge
    · exact other old
    · have same : watcher.2 = registry.next := by simpa using new
      rw [same] at issued
      exact absurd issued (Nat.not_succ_le_self _)
  · rintro id ⟨⟩
    exact List.mem_append_right _ List.mem_cons_self
  · rw [Registry.bridges_register_bridge, account.count]
    simp
    omega

/-- The engine lets go of everything; what was lost stays. -/
theorem cut (account : Account ties registry lost) :
    ∃ left, Account ties.cut left lost := by
  cases subscription : ties.subscription with
  | none =>
    refine ⟨registry, account.of_eq ?_ rfl subscription.symm⟩
    simp only [Ties.cut, subscription]
  | some id =>
    have mem := account.subscribed id subscription
    refine ⟨registry.unregister id, ?_, account.numbered.unregister id, ?_, nofun, ?_⟩
    · simp only [Ties.cut, subscription, account.there, Option.map_some]
    · intro watcher known
      obtain ⟨issued, other⟩ := account.watchers watcher known
      exact ⟨issued, fun bridge => other (List.mem_filter.1 bridge).1⟩
    · have less := account.numbered.bridges_unregister mem
      have count := account.count
      rw [subscription] at count
      simp only [Option.toList_some, List.length_cons, List.length_nil] at count
      simp only [Ties.cut, Option.toList_none, List.length_nil]
      omega

end Account

/-! ## Losing a subscription -/

/-- The act brings the rendezvous up while the engine is subscribed: it observes its container once
more, and forgets the number from before. -/
def Act.overwrites {κ : Type} [Kernel κ] (act : Act κ) : Bool :=
  act.deed = .called .listen ∧ (act.channel.call .listen).1 = .done ∧
    act.channel.engine.subscription.isSome

section Losses

variable {κ : Type} [Kernel κ]

theorem Act.not_overwrites_of_other {act : Act κ} (other : act.isPhase = false) :
    act.overwrites = false := by
  unfold overwrites
  rw [decide_eq_false_iff_not]
  rintro ⟨listens, -, -⟩
  rw [isPhase, listens] at other
  cases other

/-- Only the last phase loses anything, and only when it succeeds. -/
theorem Act.not_overwrites_of_unlike {act : Act κ} {call : EngineCall} {result : Except Error Unit}
    (called : act.deed = .called call) (answered : (act.channel.call call).1 = .ofUnit result)
    (unlike : ¬ (call = .listen ∧ result = .ok ())) : act.overwrites = false := by
  unfold overwrites
  rw [decide_eq_false_iff_not]
  rintro ⟨listens, done, -⟩
  obtain rfl : call = .listen := by
    rw [called] at listens
    cases listens
    rfl
  rw [done] at answered
  cases result with
  | ok _ => exact unlike ⟨rfl, rfl⟩
  | error error => cases answered

/-- The last phase loses the subscription from before, if there is one. -/
theorem Act.overwrites_of_done {act : Act κ} (called : act.deed = .called .listen)
    (done : (act.channel.call .listen).1 = .done) :
    (if act.overwrites then 1 else 0) = act.channel.ties.subscription.toList.length := by
  change _ = act.channel.engine.subscription.toList.length
  unfold overwrites
  cases act.channel.engine.subscription <;> simp [called, done]

/-- The last phase observes the container when it succeeds; otherwise no observer comes or goes. -/
theorem Holdings.Phased.observes {before after : Holdings} {call : EngineCall}
    {result : Except Error Unit} (phased : before.Phased call result after) :
    (¬ (call = .listen ∧ result = .ok ()) ∧ after.ties.registry = before.ties.registry ∧
      after.ties.watchers = before.ties.watchers ∧
      after.ties.subscription = before.ties.subscription) ∨
    (call = .listen ∧ result = .ok ()) ∧ ∃ socket container, before.container = some container ∧
      after = (before.move (.listening socket)).observe container := by
  cases phased with
  | refused other => exact .inl ⟨by simp, rfl, rfl, rfl⟩
  | failed turn other => exact .inl ⟨by simp, rfl, rfl, rfl⟩
  | created socket turn => exact .inl ⟨by simp, rfl, rfl, rfl⟩
  | bound socket turn => exact .inl ⟨by simp, rfl, rfl, rfl⟩
  | unobserved socket turn text => exact .inl ⟨by simp, rfl, rfl, rfl⟩
  | listening socket turn container there => exact .inr ⟨⟨rfl, rfl⟩, socket, container, there, rfl⟩

/-- One more is lost by an act that overwrites, and none by any other. -/
theorem Account.act {act : Act κ} {registry : Registry} {lost : Nat} {after : Ties}
    (account : Account act.channel.ties registry lost) (changes : act.Changes after) :
    ∃ left, Account after left (lost + if act.overwrites then 1 else 0) := by
  cases changes with
  | keeps other nothing =>
    rw [Act.not_overwrites_of_other other]
    exact ⟨registry, account⟩
  | exchanges other exchanged =>
    rw [Act.not_overwrites_of_other other]
    exact ⟨registry, account.of_eq rfl rfl rfl⟩
  | cuts other nothing =>
    rw [Act.not_overwrites_of_other other]
    exact account.cut
  | phase called answered phased nothing =>
    obtain ⟨unlike, there, watchers, subscription⟩ |
      ⟨⟨rfl, rfl⟩, socket, container, there, rfl⟩ := phased.observes
    · rw [Act.not_overwrites_of_unlike called answered unlike]
      exact ⟨registry, account.of_eq there watchers subscription⟩
    · obtain rfl : container.observers = registry := by
        have known := account.there
        simp only [Channel.ties, Holdings.ties, there, Option.map_some] at known
        exact Option.some.inj known
      rw [Act.overwrites_of_done called answered]
      exact ⟨_, account.subscribe (.listening socket)⟩

/-! ## Along a run -/

/-- Whatever comes from outside leaves the observers of the container alone. -/
def KeepsObservers (channel : Channel κ) : Input κ → Prop
  | .container container =>
    container.map (·.observers) = channel.container.map (·.observers)
  | _ => True

/-- Every observer of the engine is its subscription or was lost by an act. -/
theorem account_kept : Kept KeepsObservers fun (past : List (Act κ)) channel =>
    ∃ left, Account channel.ties left (past.countP Act.overwrites) where
  quiet := by
    rintro past before after (same | same) ⟨left, account⟩ <;> rw [same]
    · exact ⟨left, account⟩
    · exact ⟨left, account.of_eq rfl rfl rfl⟩
  watch := by
    rintro past channel name reaction ⟨left, account⟩
    obtain same | ⟨known, there, same⟩ := channel.watch_cases name reaction <;> rw [same]
    · exact ⟨left, account⟩
    · obtain rfl : known = left := Option.some.inj (there.symm.trans account.there)
      exact ⟨_, account.watch name reaction⟩
  unwatch := by
    rintro past channel name ⟨left, account⟩
    obtain same | ⟨id, known, same⟩ := channel.unwatch_cases name <;> rw [same]
    · exact ⟨left, account⟩
    · exact ⟨_, account.unwatch known⟩
  outside := by
    rintro past channel input outside keeps ⟨left, account⟩
    refine ⟨left, ?_⟩
    cases input with
    | accept socket =>
      rw [Channel.step, Channel.ties_accept]
      exact account.of_eq rfl rfl rfl
    | acceptFailed error =>
      rw [Channel.step, Channel.ties_acceptFailed]
      exact account.of_eq rfl rfl rfl
    | container container => exact account.of_eq keeps rfl rfl
    | _ => cases outside
  act := by
    rintro past act possible ⟨left, account⟩
    have counted : (past ++ [act]).countP Act.overwrites =
        past.countP Act.overwrites + if act.overwrites then 1 else 0 := by
      simp [List.countP_cons]
    rw [counted]
    exact account.act (Act.changes possible)

/-! ## Without a failed accept -/

/-- The input is a connection that cannot be accepted. -/
def Input.isAcceptFailed : Input κ → Bool
  | .acceptFailed _ => true
  | _ => false

/-- An engine that is subscribed has a rendezvous that listens. -/
def Paired (ties : Ties) : Prop :=
  ties.subscription.isSome = true → ties.rendezvous.isListening = true

theorem Paired.subscription_eq_none {ties : Ties} (paired : Paired ties)
    (idle : ties.rendezvous.isListening = false) : ties.subscription = none := by
  cases subscribed : ties.subscription with
  | none => rfl
  | some id => exact absurd (idle.symm.trans (paired (by simp [subscribed]))) (by decide)

theorem Paired.of_none {ties : Ties} (free : ties.subscription = none) : Paired ties := by
  simp [Paired, free]

theorem Paired.act {act : Act κ} {after : Ties} (paired : Paired act.channel.ties)
    (changes : act.Changes after) : Paired after := by
  cases changes with
  | keeps other nothing => exact paired
  | exchanges other exchanged => exact paired
  | cuts other nothing => exact .of_none rfl
  | phase called answered phased nothing =>
    cases phased with
    | refused other => exact paired
    | failed idle other => exact .of_none (paired.subscription_eq_none idle)
    | created socket turn =>
      exact .of_none (paired.subscription_eq_none (congrArg Rendezvous.isListening turn))
    | bound socket turn =>
      exact .of_none (paired.subscription_eq_none (congrArg Rendezvous.isListening turn))
    | unobserved socket turn text => exact fun _ => rfl
    | listening socket turn container there => exact fun _ => rfl

/-- An engine that is subscribed listens already, so it is not brought up once more. -/
theorem Paired.not_overwrites {act : Act κ} (paired : Paired act.channel.ties) :
    act.overwrites = false := by
  unfold Act.overwrites
  rw [decide_eq_false_iff_not]
  rintro ⟨-, done, subscribed⟩
  have listens : act.channel.engine.rendezvous.isListening = true := paired subscribed
  change Answer.ofUnit act.channel.listen.1 = .done at done
  have phased := act.channel.listen_phased
  generalize act.channel.listen.2.holdings = after at phased
  generalize act.channel.listen.1 = result at phased done
  cases phased with
  | listening socket turn container there =>
    have idle : act.channel.engine.rendezvous.isListening = false :=
      congrArg Rendezvous.isListening turn
    exact absurd (idle.symm.trans listens) (by decide)
  | _ => cases done

/-- As long as no accept fails, an engine that is subscribed listens. -/
theorem paired_kept : Kept (fun _ input => input.isAcceptFailed = false)
    fun (_ : List (Act κ)) channel => Paired channel.ties where
  quiet := by
    rintro past before after (same | same) paired <;> rw [same] <;> exact paired
  watch past channel name reaction paired := by
    have same := channel.sameEngine_watch name reaction
    rw [Paired, same.subscription, same.rendezvous]
    exact paired
  unwatch past channel name paired := by
    have same := channel.sameEngine_unwatch name
    rw [Paired, same.subscription, same.rendezvous]
    exact paired
  outside past channel input outside allowed paired := by
    cases input with
    | accept socket =>
      rw [Channel.step, Channel.ties_accept]
      exact paired
    | container container => exact paired
    | acceptFailed error => cases allowed
    | _ => cases outside
  act past act possible paired := paired.act (Act.changes possible)

/-- Along a walk without a failed accept nothing is lost. -/
theorem Walk.overwrites_eq_zero {first last : Channel κ} {acts : List (Act κ)}
    (walk : Walk (fun _ input => input.isAcceptFailed = false) first acts last)
    (start : Paired first.ties) : acts.countP Act.overwrites = 0 := by
  rw [List.countP_eq_zero]
  intro act mem
  obtain ⟨before, later, split⟩ := List.append_of_mem mem
  have paired := ((walk.invariant paired_kept start).2 before act later split).2
  simp [paired.not_overwrites]

end Losses

namespace Channel

variable {κ : Type}

/-- How many observers of the container are the engine's. -/
def bridges (channel : Channel κ) : Nat :=
  (channel.container.map (·.observers.bridges)).getD 0

theorem bridges_eq {channel : Channel κ} {registry : Registry} {lost : Nat}
    (account : Account channel.ties registry lost) : channel.bridges = registry.bridges := by
  have there := account.there
  simp only [ties, holdings, Holdings.ties, Option.map_eq_some_iff] at there
  obtain ⟨container, there, rfl⟩ := there
  simp [bridges, there]

end Channel

/-- In every run against a container that stays, the engine has one observer with the container
while it is subscribed and none otherwise, and besides those that were lost: one for each time that
it was brought up while it was subscribed. These stay when it lets go of everything or is given up.
Nothing is lost as long as no accept fails. -/
theorem subscriptions_of_run {κ : Type} [Kernel κ] (kernel : κ) (config : Config)
    {container : Container} (unobserved : container.observers = {}) {inputs : List (Input κ)}
    (kept : (Channel.fresh kernel config (some container)).Admits KeepsObservers inputs) :
    let start := Channel.fresh kernel config (some container)
    let channel := start.run inputs
    let lost := (start.acts inputs).countP Act.overwrites
    channel.bridges = (if channel.engine.subscription.isSome then 1 else 0) + lost ∧
    (channel.cleanup.engine.subscription = none ∧ channel.cleanup.bridges = lost) ∧
    (channel.release.engine.subscription = none ∧ channel.release.bridges = lost) ∧
    ((∀ input ∈ inputs, input.isAcceptFailed = false) → lost = 0) := by
  intro start channel lost
  have opening : Account start.ties {} 0 :=
    ⟨congrArg some unobserved, ⟨List.nodup_nil, nofun⟩, nofun, nofun, rfl⟩
  obtain ⟨registry, account⟩ := ((Channel.run_walk kept).invariant account_kept ⟨_, opening⟩).1
  obtain ⟨left, closing⟩ := account.cut
  have cleaned : Account channel.cleanup.ties left lost := by
    rw [Channel.ties_cleanup]
    exact closing
  refine ⟨?_, ⟨congrArg Ties.subscription channel.ties_cleanup, ?_⟩,
    ⟨congrArg Ties.subscription channel.ties_release, ?_⟩, fun accepts => ?_⟩
  · rw [Channel.bridges_eq account, account.count]
    change channel.engine.subscription.toList.length + lost = _
    cases channel.engine.subscription <;> rfl
  · rw [Channel.bridges_eq cleaned, cleaned.count, Channel.ties_cleanup]
    exact Nat.zero_add _
  · have released : Account channel.release.ties left lost := cleaned
    rw [Channel.bridges_eq released, released.count, Channel.ties_release]
    exact Nat.zero_add _
  · have admits : start.Admits (fun _ input => input.isAcceptFailed = false) inputs :=
      Channel.admits_of_forall (fun input mem _ => accepts input mem) start
    exact (Channel.run_walk admits).overwrites_eq_zero (.of_none rfl)

/-- An agent, a watcher, a cleanup and a second bringing up: there is one observer of the engine. -/
theorem one_subscription_after_bringing_up_again :
    let start := Channel.fresh (⟨[]⟩ : Script) {} (some .recording)
    let inputs : List (Input Script) := [.call .create, .call .bind, .call .listen, .accept 7,
      .watch "w" {}, .call .cleanup, .call .create, .call .bind, .call .listen]
    Container.recording.observers = {} ∧ start.Admits KeepsObservers inputs ∧
      (start.run inputs).engine.subscription = some 3 ∧ (start.run inputs).bridges = 1 ∧
      (start.run inputs).cleanup.bridges = 0 := by
  intro start inputs
  have kept : start.Admits KeepsObservers inputs := by
    simp [inputs, Channel.Admits, Input.isOutside, KeepsObservers]
  have counted := subscriptions_of_run (⟨[]⟩ : Script) {}
    (rfl : Container.recording.observers = {}) kept
  have lossless := counted.2.2.2 (by simp [inputs, Input.isAcceptFailed])
  have subscribed : (start.run inputs).engine.subscription = some 3 := by decide +kernel
  refine ⟨rfl, kept, subscribed, counted.1.trans ?_, counted.2.1.2.trans lossless⟩
  rw [lossless, subscribed]
  rfl

/-- An accept that fails, a second bringing up and a cleanup: one observer is left, and the engine
knows of none. -/
theorem observer_left_after_failed_accept :
    let start := Channel.fresh (⟨[]⟩ : Script) {} (some .recording)
    let channel := start.run [.call .create, .call .bind, .call .listen,
      .acceptFailed (.os .tooManyFiles), .call .create, .call .bind, .call .listen]
    (channel.engine.subscription = some 2 ∧ channel.bridges = 2) ∧
      channel.cleanup.engine.subscription = none ∧ channel.cleanup.bridges = 1 := by
  decide +kernel

end ServiceChannel
