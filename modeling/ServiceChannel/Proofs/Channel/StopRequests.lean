import Mathlib
import ServiceChannel.Proofs.Channel.Shutdown
import ServiceChannel.Proofs.Notifier

/-!
# Waiting for a stop

Whoever hosts a standalone container waits at its notifier (`stop_requested`) until somebody asks
for a stop: the container's owner, or its agent. Each `stop` is one notification (`notify_one`),
whatever becomes of the container.

- `Channel.requests`: the stops that are asked for when something is done or comes.
- `Life`, `Life.run`: a container, its notifier, and those who wait there.
- `Life.Wakes`: whom the stops that are asked for wake.
- `stop_graceful_iff_frame_written`: how every stop ends, and whom it wakes.
-/

namespace ServiceChannel

/-! ## Requests -/

namespace Container

theorem marks_wiped (container : Container) : container.wiped.marks = container.marks := by
  obtain ⟨_, _, _, _, _, _, _, _ | _⟩ := container <;> rfl

theorem marks_asked (container : Container) (arguments : List String) :
    (container.asked arguments).marks = container.marks := by
  obtain ⟨_, _, _, _, _, _, _, _ | _⟩ := container <;> rfl

theorem marks_acknowledged (container : Container) (ack : Bytes) :
    (container.acknowledged ack).marks = container.marks := by
  obtain ⟨_, _, _, _, _, _, _, _ | _⟩ := container <;> rfl

end Container

namespace Channel

variable {κ : Type} [Kernel κ] {channel : Channel κ} {allowExec : Bool}

/-- How often a stop is asked for when this is done or comes. -/
def requests (channel : Channel κ) : Affair κ → Nat
  | .chore .stop => 1
  | .chore (.traffic (.read id outcome)) =>
    (channel.traceReceive id outcome).1.countP Handover.stops
  | _ => 0

omit [Kernel κ] in
theorem marks_of_estate {after : Channel κ} (same : after.estate = channel.estate) :
    after.marks = channel.marks := by
  rw [marks_eq_estate, marks_eq_estate, same]

omit [Kernel κ] in
/-- A change of the estate that keeps what the container has to show. -/
theorem marks_of_map {after : Channel κ} {change : Container → Container}
    (same : after.estate = channel.estate.map change)
    (keeps : ∀ container, (change container).marks = container.marks) :
    after.marks = channel.marks := by
  rw [marks_eq_estate, marks_eq_estate, same, Option.map_map]
  congr 1
  exact funext keeps

omit [Kernel κ] in
theorem marks_endFinish (channel : Channel κ) : channel.endFinish.marks = channel.marks := by
  unfold endFinish
  dsimp only
  split
  · exact marks_of_map (estate_setState _ _) fun _ => rfl
  · refine (marks_of_map (estate_setState _ _) fun _ => rfl).trans ?_
    exact marks_of_estate channel.estate_release

theorem marks_start (channel : Channel κ) (config : Config) :
    (channel.start config).2.marks = channel.marks := by
  have started := channel.estate_start config
  split at started
  · exact marks_of_map started fun _ => rfl
  · exact marks_of_estate started

/-- A read leaves as many marks as its payloads stop the container. -/
theorem marks_receive (channel : Channel κ) (id : Nat) (outcome : ReadOutcome) :
    (channel.receive id outcome).marks =
      channel.marks.map (·.more ((channel.traceReceive id outcome).1.countP Handover.stops)) := by
  let Marked (past : List (Handover κ)) (after : Channel κ) : Prop :=
    after.marks = channel.marks.map (·.more (past.countP Handover.stops))
  have hands (past : List (Handover κ)) (after : Channel κ) (id : Nat) (payload : Bytes)
      (marked : Marked past after) :
      Marked (past ++ [⟨after, id, payload⟩]) (after.handlePayload payload).2 := by
    change (after.handlePayload payload).2.marks = _
    rw [marks_handlePayload after id, show after.marks = _ from marked, Option.map_map]
    simp [Function.comp_def, Bool.toNat, Bool.cond_eq_ite, List.countP_append]
  have closes (past : List (Handover κ)) (after : Channel κ) (id : Nat) (reason : Teardown)
      (marked : Marked past after) : Marked past (after.close id reason) :=
    (marks_of_estate (after.estate_close id reason)).trans marked
  have along : Along Marked [] (channel.traceReceive id outcome).1
      (channel.traceReceive id outcome).2 :=
    traceReceive_along hands closes (fun _ _ _ _ marked => marked) (fun _ _ _ marked => marked)
      (by simp [Marked]) id outcome
  rw [← traceReceive_snd]
  exact along.last

/-- Every stop that is asked for leaves its mark, and nothing else does, until somebody finds out
about it. -/
theorem marks_conduct (channel : Channel κ) {affair : Affair κ}
    (other : affair ≠ .takeStopRequest) :
    (channel.conduct affair).marks = channel.marks.map (·.more (channel.requests affair)) := by
  have quiet {after : Channel κ} (same : after.marks = channel.marks) :
      after.marks = channel.marks.map (·.more 0) := by simp [same]
  cases affair with
  | chore chore =>
    cases chore with
    | start config => exact quiet (channel.marks_start config)
    | stop => exact channel.marks_stopContainer
    | setConnectivity connectivity =>
      exact quiet (marks_of_estate (channel.estate_setConnectivity connectivity))
    | wipe => exact quiet (marks_of_map channel.estate_wipe Container.marks_wiped)
    | beginFinish => exact quiet (marks_of_estate (estate_of_holdings channel.holdings_beginFinish))
    | endFinish => exact quiet channel.marks_endFinish
    | traffic traffic =>
      cases traffic with
      | read id outcome => exact channel.marks_receive id outcome
      | _ => exact quiet (marks_of_estate (channel.estate_attend nofun))
  | setState state => exact quiet (marks_of_map (channel.estate_setState state) fun _ => rfl)
  | setScreenOn on => exact quiet (marks_of_map (channel.estate_setScreenOn on) fun _ => rfl)
  | identify update =>
    exact quiet (marks_of_map (channel.estate_applyIdentity update) fun _ => rfl)
  | exec arguments =>
    exact quiet (marks_of_map (channel.estate_exec arguments) (·.marks_asked arguments))
  | acknowledge ack =>
    exact quiet (marks_of_map (channel.estate_acknowledgeAudit ack) (·.marks_acknowledged ack))
  | watch name reaction => exact quiet (marks_of_estate (channel.estate_watch name reaction))
  | unwatch name => exact quiet (marks_of_estate (channel.estate_unwatch name))
  | takeStopRequest => exact absurd rfl other

end Channel

/-! ## Lives -/

/-- A container that somebody hosts: its channel, its notifier, and what has come of the waits. -/
structure Life (κ ν : Type) where
  channel : Channel κ
  notifier : ν
  /-- The waits that are over, in order. -/
  complete : List Nat := []
  /-- How often a stop was asked for. -/
  asked : Nat := 0

/-- What happens in a life. -/
inductive Occasion (κ : Type) where
  | affair (affair : Affair κ)
  /-- Somebody looks whether a wait is over, and begins to wait if this is the first look. -/
  | looks (wait : Nat)
  /-- Somebody waits no longer. -/
  | abandons (wait : Nat)

/-- The wait is looked at or given up. -/
def Occasion.tends {κ : Type} (wait : Nat) : Occasion κ → Prop
  | .affair .takeStopRequest => wait = 0
  | .affair _ => False
  | .looks other | .abandons other => wait = other

/-- Some wait is looked at. -/
def Occasion.isLook {κ : Type} : Occasion κ → Prop
  | .affair .takeStopRequest | .looks _ => True
  | .affair _ | .abandons _ => False

namespace Life

variable {κ ν : Type} [Notifier ν] {life : Life κ ν} {wait : Nat}

/-- The waits for a stop. -/
def waits (life : Life κ ν) : Waits := Notifier.waits life.notifier

/-- Looks whether a wait is over. -/
def look (life : Life κ ν) (wait : Nat) : Life κ ν :=
  let (ended, notifier) := Notifier.look life.notifier wait
  { life with
    notifier := notifier
    complete := if ended then life.complete ++ [wait] else life.complete }

/-- Gives a wait up. -/
def abandon (life : Life κ ν) (wait : Nat) : Life κ ν :=
  { life with notifier := Notifier.abandon life.notifier wait }

@[simp] theorem waits_look (life : Life κ ν) (wait : Nat) :
    (life.look wait).waits = (life.waits.look wait).2 :=
  Notifier.waits_look _ _

@[simp] theorem waits_abandon (life : Life κ ν) (wait : Nat) :
    (life.abandon wait).waits = life.waits.abandon wait :=
  Notifier.waits_abandon _ _

theorem complete_look (life : Life κ ν) (wait : Nat) :
    (life.look wait).complete =
      if (life.waits.look wait).1 then life.complete ++ [wait] else life.complete := by
  unfold look waits
  rw [← Notifier.look_fst]

/-- What is true of the waits at any time in a life: nobody waits twice, and no more waits are over,
or about to be, than stops were asked for. -/
structure Fair (life : Life κ ν) : Prop where
  sound : life.waits.Sound
  bounded : life.complete.length + life.waits.pending ≤ life.asked

namespace Fair

theorem look (fair : life.Fair) (wait : Nat) : (life.look wait).Fair where
  sound := by
    rw [waits_look]
    exact fair.sound.look wait
  bounded := by
    have taken := life.waits.pending_look wait
    have bounded := fair.bounded
    change _ ≤ life.asked
    rw [waits_look, complete_look]
    cases ended : (life.waits.look wait).1 with
    | true =>
      rw [ended, Bool.toNat_true] at taken
      simp only [if_true, List.length_append, List.length_singleton]
      omega
    | false =>
      rw [ended, Bool.toNat_false] at taken
      simp only [Bool.false_eq_true, if_false]
      omega

theorem abandon (fair : life.Fair) (wait : Nat) : (life.abandon wait).Fair where
  sound := by
    rw [waits_abandon]
    exact fair.sound.abandon wait
  bounded := by
    rw [waits_abandon]
    exact (Nat.add_le_add_left (life.waits.pending_abandon_le wait) _).trans fair.bounded

end Fair

variable [Kernel κ]

/-- What happens next. Each stop that is asked for is a notification; nobody looks between two that
come in one read. Who finds out whether a stop was asked for is wait 0, which is looked at once and
given up. -/
def step (life : Life κ ν) : Occasion κ → Life κ ν
  | .affair .takeStopRequest =>
    { (life.look 0).abandon 0 with channel := life.channel.conduct .takeStopRequest }
  | .affair affair =>
    { life with
      channel := life.channel.conduct affair
      notifier := Notifier.notify^[life.channel.requests affair] life.notifier
      asked := life.asked + life.channel.requests affair }
  | .looks wait => life.look wait
  | .abandons wait => life.abandon wait

/-- What happens, one after the other. -/
def run (life : Life κ ν) (occasions : List (Occasion κ)) : Life κ ν := occasions.foldl step life

theorem step_affair (life : Life κ ν) {affair : Affair κ} (other : affair ≠ .takeStopRequest) :
    life.step (.affair affair) = { life with
      channel := life.channel.conduct affair
      notifier := Notifier.notify^[life.channel.requests affair] life.notifier
      asked := life.asked + life.channel.requests affair } := by
  cases affair with
  | takeStopRequest => exact absurd rfl other
  | _ => rfl

/-- What is done sends its requests to those who have waited longest. -/
theorem waits_affair (life : Life κ ν) {affair : Affair κ} (other : affair ≠ .takeStopRequest) :
    (life.step (.affair affair)).waits =
      Waits.notify^[life.channel.requests affair] life.waits := by
  rw [step_affair life other]
  exact Notifier.waits_iterate_notify _ _

/-! ## What is kept -/

namespace Fair

theorem step (fair : life.Fair) (occasion : Occasion κ) : (life.step occasion).Fair := by
  cases occasion with
  | looks wait => exact fair.look wait
  | abandons wait => exact fair.abandon wait
  | affair affair =>
    by_cases other : affair = .takeStopRequest
    · subst other
      have glanced := (fair.look 0).abandon 0
      exact ⟨glanced.sound, glanced.bounded⟩
    · refine ⟨?_, ?_⟩
      · rw [life.waits_affair other]
        exact fair.sound.iterate_notify _
      · have notified := life.waits.pending_iterate_notify_le (life.channel.requests affair)
        have bounded := fair.bounded
        rw [life.waits_affair other, step_affair life other]
        dsimp only
        omega

theorem run (fair : life.Fair) (occasions : List (Occasion κ)) : (life.run occasions).Fair := by
  induction occasions generalizing life with
  | nil => exact fair
  | cons occasion occasions ih => exact ih (fair.step occasion)

end Fair

/-- A wait that was notified stays so until somebody looks after it. -/
theorem mem_notified_step (notified : wait ∈ life.waits.notified) {occasion : Occasion κ}
    (untended : ¬ occasion.tends wait) : wait ∈ (life.step occasion).waits.notified := by
  cases occasion with
  | looks other =>
    have kept := Waits.mem_notified_look notified untended
    rwa [← waits_look] at kept
  | abandons other =>
    have kept := Waits.mem_notified_abandon notified untended
    rwa [← waits_abandon] at kept
  | affair affair =>
    by_cases other : affair = .takeStopRequest
    · subst other
      have kept := Waits.mem_notified_abandon (Waits.mem_notified_look notified untended) untended
      rwa [← waits_look, ← waits_abandon] at kept
    · rw [life.waits_affair other, Waits.iterate_notify]
      exact List.mem_append_left _ notified

theorem mem_notified_run (notified : wait ∈ life.waits.notified) {occasions : List (Occasion κ)}
    (untended : ∀ occasion ∈ occasions, ¬ occasion.tends wait) :
    wait ∈ (life.run occasions).waits.notified := by
  induction occasions generalizing life with
  | nil => exact notified
  | cons occasion occasions ih =>
    obtain ⟨first, others⟩ := List.forall_mem_cons.1 untended
    exact ih (mem_notified_step notified first) others

/-- A notification that is kept stays so until somebody looks. -/
theorem kept_step (kept : life.waits.kept = true) {occasion : Occasion κ}
    (unseen : ¬ occasion.isLook) : (life.step occasion).waits.kept = true := by
  cases occasion with
  | looks other => exact absurd trivial unseen
  | abandons other =>
    have still : (life.waits.abandon other).kept = true := Waits.kept_abandon kept
    rwa [← waits_abandon] at still
  | affair affair =>
    have other : affair ≠ .takeStopRequest := by
      rintro rfl
      exact unseen trivial
    rw [life.waits_affair other, Waits.iterate_notify, kept]
    rfl

theorem kept_run (kept : life.waits.kept = true) {occasions : List (Occasion κ)}
    (unseen : ∀ occasion ∈ occasions, ¬ occasion.isLook) :
    (life.run occasions).waits.kept = true := by
  induction occasions generalizing life with
  | nil => exact kept
  | cons occasion occasions ih =>
    obtain ⟨first, others⟩ := List.forall_mem_cons.1 unseen
    exact ih (kept_step kept first) others

/-! ## Whom a stop wakes -/

/-- Whom the stops wake that are asked for when this is done or comes. -/
structure Wakes (life : Life κ ν) (affair : Affair κ) : Prop where
  /-- Of the waits that go on, the longest is over for each stop as soon as it is looked at,
  whatever happens until then, unless it is given up. -/
  begun : ∀ wait ∈ life.waits.queue.take (life.channel.requests affair), ∀ meanwhile,
    (∀ occasion ∈ meanwhile, ¬ occasion.tends wait) →
      let later := (life.step (.affair affair)).run meanwhile
      (later.look wait).complete = later.complete ++ [wait]
  /-- The others go on. -/
  others : ∀ wait ∈ life.waits.queue.drop (life.channel.requests affair),
    let after := life.step (.affair affair)
    (after.look wait).complete = after.complete
  /-- With a stop to spare, the next wait is over as soon as it is looked at, whatever happens until
  then. -/
  next : life.waits.queue.length < life.channel.requests affair → ∀ meanwhile,
    (∀ occasion ∈ meanwhile, ¬ occasion.isLook) → ∀ wait,
      let later := (life.step (.affair affair)).run meanwhile
      (later.look wait).complete = later.complete ++ [wait]
  /-- Of two waits that begin then, one is over, and the other goes on. -/
  once : life.waits.queue.length < life.channel.requests affair → ∀ meanwhile,
    (∀ occasion ∈ meanwhile, ¬ occasion.isLook) → ∀ first second,
      let later := (life.step (.affair affair)).run meanwhile
      first ∉ later.waits.notified → second ∉ later.waits.notified →
        ((later.look first).look second).complete = later.complete ++ [first]
  /-- Each stop has left its mark on the container. -/
  noted : (life.step (.affair affair)).channel.marks =
    life.channel.marks.map (·.more (life.channel.requests affair))

omit [Kernel κ] in
theorem complete_look_of_kept (fair : life.Fair) (kept : life.waits.kept = true) (wait : Nat) :
    (life.look wait).complete = life.complete ++ [wait] := by
  rw [complete_look, Waits.look_fst_of_kept fair.sound kept, if_pos rfl]

theorem Fair.wakes (fair : life.Fair) {affair : Affair κ} (other : affair ≠ .takeStopRequest) :
    life.Wakes affair := by
  have after := fair.step (.affair affair)
  have waits : (life.step (.affair affair)).waits = _ :=
    (life.waits_affair other).trans (life.waits.iterate_notify _)
  have kept (spare : life.waits.queue.length < life.channel.requests affair) :
      (life.step (.affair affair)).waits.kept = true := by
    rw [waits]
    simp [spare]
  refine ⟨fun wait among meanwhile untended => ?begun, fun wait among => ?others,
    fun spare meanwhile unseen wait => ?next, fun spare meanwhile unseen => ?once, ?noted⟩
  case begun =>
    have notified : wait ∈ (life.step (.affair affair)).waits.notified := by
      rw [waits]
      exact List.mem_append_right _ among
    have still := mem_notified_run notified untended
    dsimp only
    rw [complete_look, Waits.look_of_notified still, if_pos rfl]
  case others =>
    have queued : wait ∈ (life.step (.affair affair)).waits.queue := by
      rw [waits]
      exact among
    dsimp only
    rw [complete_look, Waits.look_of_queued after.sound queued, if_neg nofun]
  case next => exact complete_look_of_kept (after.run meanwhile) (kept_run (kept spare) unseen) wait
  -- The notification that was kept is one, however many stops it stands for.
  case once =>
    intro first second later fresh fresh'
    have sound : later.waits.Sound := (after.run meanwhile).sound
    have taken : (later.look first).waits = { later.waits with kept := false } := by
      rw [waits_look, Waits.look_of_kept sound (kept_run (kept spare) unseen) fresh]
    have used : ((later.look first).waits.look second).1 = false := by
      rw [taken]
      exact Waits.look_fst_of_unkept rfl fresh'
    rw [complete_look, used, if_neg nofun]
    exact complete_look_of_kept (after.run meanwhile) (kept_run (kept spare) unseen) first
  case noted =>
    rw [step_affair life other]
    exact life.channel.marks_conduct other

/-! ## The channel -/

theorem channel_affair (life : Life κ ν) (affair : Affair κ) :
    (life.step (.affair affair)).channel = life.channel.conduct affair := by
  cases affair <;> rfl

theorem standsAlone_run {allowExec : Bool} (alone : life.channel.StandsAlone allowExec)
    (occasions : List (Occasion κ)) : (life.run occasions).channel.StandsAlone allowExec := by
  induction occasions generalizing life with
  | nil => exact alone
  | cons occasion occasions ih =>
    refine ih ?_
    cases occasion with
    | looks wait => exact alone
    | abandons wait => exact alone
    | affair affair =>
      rw [channel_affair]
      exact alone.conduct affair

theorem channel_run_affairs (life : Life κ ν) (affairs : List (Affair κ)) :
    (life.run (affairs.map .affair)).channel = life.channel.conductAll affairs := by
  induction affairs generalizing life with
  | nil => rfl
  | cons affair affairs ih =>
    refine (ih _).trans ?_
    rw [channel_affair]
    rfl

/-- Nobody waits for longer than it takes to find out whether a stop was asked for, and what the
container has to show says whether one was. -/
structure Glanced (life : Life κ ν) (asked : Bool) : Prop where
  noted : life.channel.marks = some (.noted asked)
  waits : life.waits = { kept := asked }

omit [Kernel κ] in
theorem Glanced.takeStopRequest {asked : Bool} (glanced : life.Glanced asked) :
    life.channel.takeStopRequest.1 = asked ∧
      life.channel.takeStopRequest.2.marks = some (.noted false) := by
  obtain ⟨container, there, noted⟩ := Option.map_eq_some_iff.1 glanced.noted
  cases role : container.role with
  | recording recording => simp [Container.marks, role] at noted
  | standalone standalone =>
    simp only [Container.marks, role, Marks.noted.injEq] at noted
    rw [Channel.takeStopRequest, there]
    dsimp only
    rw [role]
    exact ⟨noted, rfl⟩

theorem Glanced.step {asked : Bool} (glanced : life.Glanced asked) (affair : Affair κ) :
    ∃ after, (life.step (.affair affair)).Glanced after := by
  by_cases other : affair = .takeStopRequest
  · subst other
    refine ⟨false, glanced.takeStopRequest.2, ?_⟩
    have looked : ((life.look 0).abandon 0).waits = ((life.waits.look 0).2).abandon 0 := by
      rw [waits_abandon, waits_look]
    refine looked.trans ?_
    rw [glanced.waits]
    cases asked <;> rfl
  · refine ⟨asked || decide (0 < life.channel.requests affair), ?_, ?_⟩
    · rw [channel_affair, life.channel.marks_conduct other, glanced.noted]
      rfl
    · rw [life.waits_affair other, glanced.waits, Waits.iterate_notify]
      simp

theorem Glanced.run {asked : Bool} (glanced : life.Glanced asked) (affairs : List (Affair κ)) :
    ∃ after, (life.run (affairs.map .affair)).Glanced after := by
  induction affairs generalizing life asked with
  | nil => exact ⟨asked, glanced⟩
  | cons affair affairs ih =>
    obtain ⟨next, glanced⟩ := glanced.step affair
    exact ih glanced

omit [Kernel κ] in
/-- A stop was asked for exactly if the next wait is over at once. -/
theorem Glanced.takeStopRequest_iff {asked : Bool} (glanced : life.Glanced asked) (wait : Nat) :
    life.channel.takeStopRequest.1 = true ↔
      (life.look wait).complete = life.complete ++ [wait] := by
  rw [glanced.takeStopRequest.1, complete_look, glanced.waits]
  cases asked <;> simp [Waits.look]

end Life

/-! ## Every stop -/

/-- How every stop of a standalone container ends, and whom it wakes, whatever was done with the
container before, whatever came to its engine, however the kernel answers, and whoever waits.
The container waits for its agent exactly if the whole frame that asks it to shut down was written
to the connection that is current. Without an engine, without an agent, with a request beyond the
bound, and when the kernel takes only a part or nothing, it is down. That goes for a stop by its
owner and for one that its agent asks for in the middle of a read.
Each stop ends one wait: of those that go on the longest, and without any the next. No wait is over
for another reason. -/
theorem stop_graceful_iff_frame_written {κ ν : Type} [Kernel κ] [Notifier ν] (kernel : κ)
    (config : Config) (name : String) (dnsServer : Option String) (allowExec : Bool)
    (occasions : List (Occasion (Tapped κ))) :
    let begun : Life (Tapped κ) ν :=
      { channel := Channel.unstarted ⟨kernel, []⟩ config name dnsServer allowExec
        notifier := Notifier.quiet }
    let life := begun.run occasions
    (life.channel.Halts ∧ ∀ id outcome before here later,
      (life.channel.traceReceive id outcome).1 = before ++ here :: later → here.stops = true →
        ∃ asked : Channel (Tapped κ), asked.engine = here.channel.engine ∧
          asked.kernel = here.channel.kernel ∧ asked.Halts ∧
          here.channel.handlePayload here.payload = (.ok (), asked.stopContainer)) ∧
    (life.channel.requests (.chore .stop) = 1 ∧
      (life.step (.affair (.chore .stop))).channel = life.channel.stopContainer ∧
      ∀ affair, affair ≠ .takeStopRequest → life.Wakes affair) ∧
    life.complete.length ≤ life.asked ∧
    (∀ affairs : List (Affair (Tapped κ)),
      let glancing := begun.run (affairs.map .affair)
      glancing.channel = begun.channel.conductAll affairs ∧
        ∀ wait, glancing.channel.takeStopRequest.1 = true ↔
          (glancing.look wait).complete = glancing.complete ++ [wait]) ∧
    ∀ (world : Session.World) (container : Container) (unique : String),
      world.takeContainer container config unique .stop =
        (.answer .done, world.onHost (·.stopContainer)) := by
  intro begun life
  have alone : life.channel.StandsAlone allowExec :=
    Life.standsAlone_run (Channel.standsAlone_unstarted _ config name dnsServer allowExec) occasions
  have quiet : begun.waits = {} := Notifier.waits_quiet
  have opening : begun.Fair := by
    refine ⟨quiet ▸ .empty, ?_⟩
    rw [quiet]
    exact Nat.le_refl 0
  have fair : life.Fair := opening.run occasions
  refine ⟨⟨alone.halts, fun id outcome before here later split stops => ?asked⟩,
    ⟨rfl, rfl, fun affair other => fair.wakes other⟩,
    (Nat.le_add_right _ _).trans fair.bounded, fun affairs => ?glances, fun _ _ _ => rfl⟩
  case asked =>
    have there := ((alone.state_traceReceive id outcome).each before here later split).1
    exact ⟨(here.channel.record (.received AgentMessage.shutdown.code)).record .shutdownRequested,
      rfl, rfl, Channel.StandsAlone.halts (there.of_estate rfl), Handover.handled_of_stops stops⟩
  case glances =>
    have first : begun.Glanced false := ⟨rfl, quiet⟩
    obtain ⟨asked, glanced⟩ := first.run affairs
    exact ⟨begun.channel_run_affairs affairs, glanced.takeStopRequest_iff⟩

/-- Two wait for a stop when the kernel takes three bytes of the request and has no more room: the
container is down, and the first of the two need not wait any longer. -/
theorem stop_without_room :
    let config : Config := { socketDir := "", socketName := "s" }
    let begun : Life (Tapped Script) Waits :=
      { channel := Channel.unstarted ⟨⟨[.wrote 3, .failed (.os .wouldBlock)]⟩, []⟩ config "a0" none
          false
        notifier := Notifier.quiet }
    let arrival : Affair (Tapped Script) := .chore (.traffic (.arrival 7))
    let life := begun.run
      [.affair (.chore (.start config)), .affair arrival, .looks 1, .looks 2]
    let after := life.step (.affair (.chore .stop))
    life.channel.Halts ∧ life.channel.engine.connection = some ⟨1, 7⟩ ∧
      after.channel.state = .stopped ∧ after.channel.kernel.written 7 = [0, 0, 0] ∧
      (after.look 1).complete = [1] ∧ (after.look 2).complete = [] := by
  intro config begun life after
  refine ⟨?halts, by cbv, by cbv, by cbv, by cbv, by cbv⟩
  case halts => exact (stop_graceful_iff_frame_written _ config "a0" none false _).1.1

end ServiceChannel
