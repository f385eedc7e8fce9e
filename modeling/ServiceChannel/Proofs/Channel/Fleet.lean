import ServiceChannel.Proofs.Channel.Changes
import ServiceChannel.Proofs.Channel.Limits
import ServiceChannel.Proofs.Channel.SendOutcomes
import ServiceChannel.Proofs.Kernel.Directories

/-!
# Engines that share directories

Any number of engines work on one kernel and are called in any order. Of all their operations
binding alone changes what the directories hold, and it changes only what is where its path leads,
and there only sockets: one that was left is removed, and one is made. Letting go leaves the entry,
so that the next engine at the path finds a socket, whoever left it there.

- `Channel.filing_call`, `Channel.bind_shifts`: what one operation changes.
- `Fleet`, `Fleet.run`: the engines at work.
- `Fleet.run_shifts`: what all their operations change.
- `sockets_alone_come_and_go`: so what is no socket is safe, and engines come up again and again.
- `neighbours_of_a_socket`: engines at one path, and engines at a file and at a link.
-/

namespace ServiceChannel

open Files

namespace Channel

variable {κ : Type} [Kernel κ] [Files κ] (channel : Channel κ)

/-! ## What an operation changes -/

/-- Writing does not change what directories hold. -/
theorem unwritten_filing : Unwritten (filing : κ → Filing (Place κ) (Item κ)) := Files.send

/-- Only binding changes what directories hold. -/
theorem filing_call {call : EngineCall} (other : call ≠ .bind) :
    filing (channel.call call).2.kernel = filing channel.kernel := by
  -- Whatever is sent, the kernel is asked to write a payload at most.
  have sends (sends : call.isSend = true) :
      filing (channel.call call).2.kernel = filing channel.kernel := by
    obtain ⟨payload, -, same⟩ | ⟨-, same⟩ := channel.send_cases sends
    · exact (congrArg filing same).trans (unwritten_filing.after_sendPayload channel payload)
    · exact congrArg filing same
  cases call with
  | create =>
    obtain same | asked := channel.kernel_create_cases
    · exact congrArg filing same
    · exact (congrArg filing asked).trans (openSocket _)
  | bind => exact absurd rfl other
  | listen =>
    obtain same | ⟨socket, backlog, asked⟩ := channel.kernel_listen_cases
    · exact congrArg filing same
    · exact (congrArg filing asked).trans (Files.listen _ _ _)
  | cleanup => exact congrArg filing channel.kernel_cleanup
  | release => exact congrArg filing channel.kernel_release
  | reconcile => exact unwritten_filing.after_reconcile channel
  | setConnectivity connectivity =>
    exact unwritten_filing.after_setConnectivity channel connectivity
  | _ => exact sends rfl

/-- Binding changes only what is where the path leads, and there only sockets. -/
theorem bind_shifts :
    Shifts (· = channel.engine.config.socketPath) channel.kernel channel.bind.2.kernel := by
  by_cases turn : ∃ socket, channel.engine.rendezvous = .created socket
  · obtain ⟨socket, turn⟩ := turn
    rw [channel.kernel_bind turn]
    exact channel.bindAt_shifts socket _
  · have refused : channel.bind.2 = channel := by
      unfold bind
      split
      · exact absurd ⟨_, ‹_›⟩ turn
      · rfl
    rw [refused]
    exact .of_eq rfl

theorem call_shifts (call : EngineCall) :
    Shifts (fun path => call = .bind ∧ path = channel.engine.config.socketPath) channel.kernel
      (channel.call call).2.kernel := by
  by_cases binds : call = .bind
  · subst binds
    exact channel.bind_shifts.mono fun _ same => ⟨rfl, same⟩
  · exact .of_eq (channel.filing_call binds)

omit [Files κ] in
theorem config_call (call : EngineCall) :
    (channel.call call).2.engine.config = channel.engine.config := by
  refine (congrArg Occupancy.config (channel.occupancy_call call)).trans ?_
  split
  · exact Occupancy.config_vacate _ _
  · rfl

/-! ## What binding comes to -/

variable {channel} {socket : Handle}

/-- An engine that is to bind ends up bound, with a socket where its path leads, or closed. -/
theorem bind_ends (turn : channel.engine.rendezvous = .created socket) :
    let path := channel.engine.config.socketPath
    (channel.bind.1 = .ok () ∧ channel.bind.2.engine.rendezvous = .bound socket ∧
      ∃ place item, (filing channel.kernel).place? path = some place ∧
        (filing channel.bind.2.kernel).item? place = some item ∧ kind item = .socket) ∨
    ∃ reason, channel.bind.1 = .error (.bind path reason) ∧
      channel.bind.2.engine.rendezvous = .closed := by
  intro path
  rw [channel.rendezvous_bind turn, channel.kernel_bind turn, channel.bind_fst turn]
  cases tried : (channel.bindAt socket path).1 with
  | error reason => exact .inr ⟨reason, rfl, rfl⟩
  | ok _ => exact .inl ⟨rfl, rfl, channel.bindAt_of_ok tried⟩

/-- It does not bind where something else than a socket is, and leaves that alone. -/
theorem bind_of_item (turn : channel.engine.rendezvous = .created socket) {place : Place κ}
    {item : Item κ}
    (leads : (filing channel.kernel).place? channel.engine.config.socketPath = some place)
    (there : (filing channel.kernel).item? place = some item) (other : kind item ≠ .socket) :
    let path := channel.engine.config.socketPath
    channel.bind.1 = .error (.bind path (if hasZero path then .zeroInFileName else .notSocket)) ∧
      channel.bind.2.engine.rendezvous = .closed ∧
      filing channel.bind.2.kernel = filing channel.kernel := by
  intro path
  obtain ⟨refused, same⟩ := channel.bindAt_of_item socket leads there other
  rw [channel.rendezvous_bind turn, channel.kernel_bind turn, channel.bind_fst turn, refused]
  exact ⟨rfl, rfl, same⟩

/-- Nor does it where the path leads nowhere. -/
theorem bind_of_nowhere (turn : channel.engine.rendezvous = .created socket)
    (nowhere : (filing channel.kernel).place? channel.engine.config.socketPath = none) :
    (∃ reason, channel.bind.1 = .error (.bind channel.engine.config.socketPath reason)) ∧
      filing channel.bind.2.kernel = filing channel.kernel := by
  obtain ⟨⟨reason, refused⟩, same⟩ := channel.bindAt_of_nowhere socket nowhere
  rw [channel.kernel_bind turn, channel.bind_fst turn, refused]
  exact ⟨⟨reason, rfl⟩, same⟩

/-- A valid path is bound where a socket can be bound. -/
theorem bind_of_bindable (turn : channel.engine.rendezvous = .created socket)
    (valid : channel.engine.config.validate = .ok ())
    (named : hasZero channel.engine.config.socketPath = false)
    (bindable : Bindable channel.kernel channel.engine.config.socketPath) :
    channel.bind.1 = .ok () := by
  have fits := Config.addressFault?_of_valid valid
  rw [named, if_neg nofun] at fits
  exact (channel.bind_fst turn).trans
    (congrArg _ (channel.bindAt_of_bindable socket named fits bindable))

omit [Files κ] in
/-- A rendezvous that was made is to be bound next. -/
theorem created_of_create (done : channel.create.1 = .ok ()) :
    ∃ socket, channel.create.2.engine.rendezvous = .created socket := by
  have phased := channel.create_phased
  rw [done] at phased
  generalize held : channel.create.2.holdings = holdings at phased
  cases phased with
  | created socket turn => exact ⟨socket, congrArg (·.engine.rendezvous) held⟩

omit [Files κ] in
/-- It is made if nothing is there yet and the kernel has a socket. -/
theorem create_of_closed (closed : channel.engine.rendezvous = .closed)
    (valid : channel.engine.config.validate = .ok ())
    (opens : (Kernel.openSocket channel.kernel).1 = .ok socket) : channel.create.1 = .ok () := by
  unfold create
  rw [valid, closed]
  generalize Kernel.openSocket channel.kernel = answer at opens
  obtain ⟨_ | _, kernel⟩ := answer
  · cases opens
  · rfl

/-- Once it was made it is bound where a socket can be bound. -/
theorem bind_of_create (done : channel.create.1 = .ok ())
    (valid : channel.engine.config.validate = .ok ())
    (named : hasZero channel.engine.config.socketPath = false)
    (bindable : Bindable channel.kernel channel.engine.config.socketPath) :
    channel.create.2.bind.1 = .ok () := by
  obtain ⟨socket, turn⟩ := created_of_create done
  have config : channel.create.2.engine.config = channel.engine.config :=
    channel.config_call .create
  rw [← config] at valid named bindable
  exact bind_of_bindable turn valid named ((channel.call_shifts .create).bindable bindable)

end Channel

/-! ## Engines at work -/

/-- Engines on one kernel. -/
structure Fleet (κ : Type) where
  kernel : κ
  /-- The engines by their numbers, each with its container. Their kernel is the one they share. -/
  channels : Nat → Channel κ

/-- Something that is done with one of the engines. -/
inductive Errand where
  | call (number : Nat) (call : EngineCall)
  /-- The sockets that it let go of are closed. -/
  | sweep (number : Nat)

namespace Fleet

variable {κ : Type}

/-- An engine as it works. -/
def engine (fleet : Fleet κ) (number : Nat) : Channel κ :=
  { fleet.channels number with kernel := fleet.kernel }

/-- An engine has worked. -/
def settle (fleet : Fleet κ) (number : Nat) (channel : Channel κ) : Fleet κ where
  kernel := channel.kernel
  channels := Function.update fleet.channels number channel

/-- The path of an engine. -/
def path (fleet : Fleet κ) (number : Nat) : String :=
  (fleet.channels number).engine.config.socketPath

/-- The path is one that an engine binds to on its errands. -/
def Binds (fleet : Fleet κ) (errands : List Errand) (path : String) : Prop :=
  ∃ number, Errand.call number .bind ∈ errands ∧ path = fleet.path number

variable [Kernel κ]

/-- Does one thing. -/
def act (fleet : Fleet κ) : Errand → Fleet κ
  | .call number call => fleet.settle number ((fleet.engine number).call call).2
  | .sweep number => fleet.settle number (fleet.engine number).closeRetired

/-- Does one thing after the other. -/
def run (fleet : Fleet κ) (errands : List Errand) : Fleet κ := errands.foldl act fleet

variable (fleet : Fleet κ)

/-- No engine is configured anew. -/
theorem config_act (errand : Errand) (number : Nat) :
    ((fleet.act errand).channels number).engine.config =
      (fleet.channels number).engine.config := by
  have settles (at_ : Nat) (channel : Channel κ)
      (same : channel.engine.config = (fleet.engine at_).engine.config) :
      ((fleet.settle at_ channel).channels number).engine.config =
        (fleet.channels number).engine.config := by
    change (Function.update fleet.channels at_ channel number).engine.config = _
    by_cases here : number = at_
    · subst here
      rwa [Function.update_self]
    · rw [Function.update_of_ne here]
  cases errand with
  | call at_ call => exact settles at_ _ ((fleet.engine at_).config_call call)
  | sweep at_ => exact settles at_ _ rfl

theorem config_run (errands : List Errand) (number : Nat) :
    ((fleet.run errands).engine number).engine.config =
      (fleet.channels number).engine.config := by
  induction errands generalizing fleet with
  | nil => rfl
  | cons errand errands ih => exact (ih (fleet.act errand)).trans (fleet.config_act errand number)

theorem path_act (errand : Errand) (number : Nat) :
    (fleet.act errand).path number = fleet.path number :=
  congrArg Config.socketPath (fleet.config_act errand number)

variable [Files κ]

/-- What one thing changes. -/
theorem act_shifts (errand : Errand) :
    Shifts (fleet.Binds [errand]) fleet.kernel (fleet.act errand).kernel := by
  cases errand with
  | call number call =>
    refine ((fleet.engine number).call_shifts call).mono ?_
    rintro path ⟨rfl, same⟩
    exact ⟨number, List.mem_singleton_self _, same⟩
  | sweep number => exact .of_eq ((fleet.engine number).part_closeRetired Files.close)

/-- What everything together changes: where engines bind, sockets come and go. -/
theorem run_shifts (errands : List Errand) :
    Shifts (fleet.Binds errands) fleet.kernel (fleet.run errands).kernel := by
  induction errands generalizing fleet with
  | nil => exact .of_eq rfl
  | cons errand errands ih =>
    refine ((fleet.act_shifts errand).mono ?_).trans ((ih (fleet.act errand)).mono ?_)
    · rintro path ⟨number, among, same⟩
      obtain rfl := List.mem_singleton.1 among
      exact ⟨number, List.mem_cons_self, same⟩
    · rintro path ⟨number, among, same⟩
      exact ⟨number, List.mem_cons_of_mem _ among, same.trans (fleet.path_act errand number)⟩

end Fleet

/-- What any number of engines do to the directories of their kernel, called in any order.
Only where the paths of engines lead that bound can anything have changed, and there only from
nothing or a socket to nothing or a socket. So whatever is no socket stays what it is.
An engine that is to bind ends up bound, with a socket where its path leads, or it fails, says so
and is closed. Where something else than a socket is, or the path leads nowhere, it fails and
nothing changes in the directories.
If an engine is configured with a valid path, the directory on its way is there and lets sockets
come and go, and a socket or nothing is at its end, then the engine never fails to bind afterwards:
not when its rendezvous was just made, and not later. And whatever became of the engine, it can be
cleaned up, and is bound again as soon as the kernel has a socket for it. -/
theorem sockets_alone_come_and_go {κ : Type} [Kernel κ] [Files κ] (start : Fleet κ)
    (errands : List Errand) :
    let after := start.run errands
    Shifts (start.Binds errands) start.kernel after.kernel ∧
    (∀ place item, (filing start.kernel).item? place = some item → kind item ≠ .socket →
      (filing after.kernel).item? place = some item) ∧
    ∀ number,
      let path := start.path number
      let channel := after.engine number
      (∀ socket, channel.engine.rendezvous = .created socket →
        ((channel.bind.1 = .ok () ∧ channel.bind.2.engine.rendezvous = .bound socket ∧
            ∃ place item, (filing start.kernel).place? path = some place ∧
              (filing channel.bind.2.kernel).item? place = some item ∧ kind item = .socket) ∨
          ∃ reason, channel.bind.1 = .error (.bind path reason) ∧
            channel.bind.2.engine.rendezvous = .closed) ∧
        (∀ place item, (filing start.kernel).place? path = some place →
          (filing start.kernel).item? place = some item → kind item ≠ .socket →
            channel.bind.1 =
                .error (.bind path (if hasZero path then .zeroInFileName else .notSocket)) ∧
              channel.bind.2.engine.rendezvous = .closed ∧
              filing channel.bind.2.kernel = filing after.kernel) ∧
        ((filing start.kernel).place? path = none →
          (∃ reason, channel.bind.1 = .error (.bind path reason)) ∧
            filing channel.bind.2.kernel = filing after.kernel)) ∧
      ((start.channels number).engine.config.validate = .ok () → hasZero path = false →
        Bindable start.kernel path →
          (∀ socket, channel.engine.rendezvous = .created socket → channel.bind.1 = .ok ()) ∧
          (channel.create.1 = .ok () → channel.create.2.bind.1 = .ok ()) ∧
          ∀ socket, (Kernel.openSocket after.kernel).1 = .ok socket →
            channel.cleanup.create.1 = .ok () ∧ channel.cleanup.create.2.bind.1 = .ok ()) := by
  intro after
  have shifts := start.run_shifts errands
  refine ⟨shifts, fun place item there other => shifts.item_of_kind there other, ?_⟩
  intro number path channel
  have config : channel.engine.config = (start.channels number).engine.config :=
    start.config_run errands number
  have made : path = channel.engine.config.socketPath := congrArg Config.socketPath config.symm
  have leads : (filing start.kernel).place? = (filing channel.kernel).place? := shifts.place?.symm
  -- Both the path and where it leads are what they were, so that only the item may be another.
  clear_value path
  subst made
  rw [← config, leads]
  refine ⟨fun socket turn => ⟨Channel.bind_ends turn, ?item, fun nowhere =>
    Channel.bind_of_nowhere turn nowhere⟩, fun valid named bindable => ?again⟩
  case item =>
    intro place item leads there other
    exact Channel.bind_of_item turn leads (shifts.item_of_kind there other) other
  case again =>
    have bindable : Bindable channel.kernel channel.engine.config.socketPath :=
      shifts.bindable bindable
    refine ⟨fun socket turn => Channel.bind_of_bindable turn valid named bindable,
      fun done => Channel.bind_of_create done valid named bindable, fun socket opens => ?_⟩
    have same : channel.cleanup.engine.config = channel.engine.config :=
      channel.config_call .cleanup
    rw [← same] at valid named bindable
    have closed : channel.cleanup.engine.rendezvous = .closed :=
      congrArg Ties.rendezvous channel.ties_cleanup
    have opens : (Kernel.openSocket channel.cleanup.kernel).1 = .ok socket := by
      rwa [channel.kernel_cleanup]
    have done := Channel.create_of_closed closed valid opens
    exact ⟨done, Channel.bind_of_create done valid named
      ((channel.call_shifts .cleanup).bindable bindable)⟩

/-- A directory with a file and a link. Two engines come up in it at one path, the second in place
of the first; the first is cleaned up and comes up in place of the second, which is given up. All
the while two more engines are to bind at the file and at the link. They fail when they do, the file
and the link are what they were, and the first engine comes up once more. -/
theorem neighbours_of_a_socket :
    let machine : Network := { tree := { entries := [(["f"], .file), (["l"], .link ["s"])] } }
    let start : Fleet Network := ⟨machine, fun number => .fresh machine
      { socketDir := "/", socketName := ["f", "l"][number]?.getD "s" } (some .recording)⟩
    let up (number : Nat) : List Errand :=
      [.call number .create, .call number .bind, .call number .listen]
    let after := start.run <| [.call 0 .create, .call 1 .create] ++ up 2 ++ up 3 ++
      [.call 2 .cleanup, .sweep 2] ++ up 2 ++ [.call 3 .release]
    after.kernel.tree.entryAt ["f"] = some .file ∧
      after.kernel.tree.entryAt ["l"] = some (.link ["s"]) ∧
      (after.engine 0).bind.1 = .error (.bind "/f" .notSocket) ∧
      (after.engine 1).bind.1 = .error (.bind "/l" .notSocket) ∧
      (after.engine 2).cleanup.create.2.bind.1 = .ok () := by
  intro machine start up after
  obtain ⟨-, safe, engines⟩ := sockets_alone_come_and_go start _
  have file : start.path 0 = "/f" := by decide +kernel
  have link : start.path 1 = "/l" := by decide +kernel
  have free : start.path 2 = "/s" := by decide +kernel
  have named : hasZero "/f" = false ∧ hasZero "/l" = false ∧ hasZero "/s" = false := by
    decide +kernel
  have valid : (start.channels 2).engine.config.validate = .ok () := by decide +kernel
  have other : Entry.kind .file ≠ .socket ∧ Entry.kind (.link ["s"]) ≠ .socket := by decide
  refine ⟨safe ["f"] .file rfl other.1, safe ["l"] (.link ["s"]) rfl other.2, ?_, ?_, ?_⟩
  · have refused := ((engines 0).1 0 (by cbv)).2.1
    rw [file, named.1] at refused
    exact (refused ["f"] .file (by cbv) rfl other.1).1
  · have refused := ((engines 1).1 1 (by cbv)).2.1
    rw [link, named.2.1] at refused
    exact (refused ["l"] (.link ["s"]) (by cbv) rfl other.2).1
  · have again := (engines 2).2 valid
    rw [free] at again
    have bindable : Bindable start.kernel "/s" := ⟨["s"], by cbv, by cbv, by rintro _ ⟨⟩⟩
    exact ((again named.2.2 bindable).2.2 5 (by cbv)).2

end ServiceChannel
