import ServiceChannel.Proofs.Channel.Phases
import ServiceChannel.Proofs.Channel.Walk

/-!
# The chronicle of a container

A container tells its observers one after the other (`set_connectivity`), and each may do with it
what it likes while it is told: register others, take itself or others off, set the connectivity
again. Here it is left open what an observer does, and what happens to the observers is written
down.

- `Incident`: what happens; `standing` are the observers who are registered after it.
- `Move`, `Chronicle.step`, `Chronicle.run`: whatever is done, by anyone and in any order.
- `Fair`, `Truthful`: whom the settings tell, and what these are shown.
- `Chronicle.Sound`: the invariant, that the container is what was written down.
-/

namespace ServiceChannel

/-! ## Registries -/

namespace Registry

variable {registry : Registry} {id : ObserverId}

/-- All others stay if nobody goes by the number. -/
theorem filter_of_not_mem {entries : List (ObserverId × Observer)}
    (absent : id ∉ entries.map (·.1)) : entries.filter (·.1 ≠ id) = entries := by
  refine List.filter_eq_self.2 fun entry mem => ?_
  have unlike : entry.1 ≠ id := fun same => absent (List.mem_map.2 ⟨entry, mem, same⟩)
  simpa using unlike

/-- Taking off somebody who is not there changes nothing. -/
theorem unregister_of_not_mem (absent : id ∉ registry.entries.map (·.1)) :
    registry.unregister id = registry := by
  rw [unregister, filter_of_not_mem absent]

/-- Taking somebody off leaves all others, in their order. -/
theorem entries_unregister {front back : List (ObserverId × Observer)} {observer : Observer}
    (distinct : (registry.entries.map (·.1)).Nodup)
    (there : registry.entries = front ++ (id, observer) :: back) :
    (registry.unregister id).entries = front ++ back := by
  rw [there, List.map_append, List.map_cons, List.nodup_append, List.nodup_cons] at distinct
  obtain ⟨-, ⟨notBack, -⟩, apart⟩ := distinct
  have notFront : id ∉ front.map (·.1) := fun mem => apart id mem id List.mem_cons_self rfl
  rw [unregister, there, List.filter_append, filter_of_not_mem notFront,
    List.filter_cons_of_neg (by simp), filter_of_not_mem notBack]

theorem contains_iff : registry.contains id = true ↔ id ∈ registry.entries.map (·.1) := by
  simp [contains]

/-- There is one less if somebody was there. -/
theorem size_unregister (distinct : (registry.entries.map (·.1)).Nodup) :
    registry.size = (registry.unregister id).size + if registry.contains id then 1 else 0 := by
  by_cases there : id ∈ registry.entries.map (·.1)
  · obtain ⟨⟨_, observer⟩, mem, rfl⟩ := List.mem_map.1 there
    obtain ⟨front, back, parts⟩ := List.append_of_mem mem
    rw [if_pos (contains_iff.2 there), size, size, entries_unregister distinct parts, parts]
    simp only [List.length_append, List.length_cons]
    omega
  · rw [if_neg (mt contains_iff.1 there), unregister_of_not_mem there]
    rfl

end Registry

/-! ## Containers -/

namespace Container

variable (container : Container)

/-- How often a registered observer was taken off; only a recording container counts. -/
def unregistered? : Option Nat :=
  match container.role with
  | .recording recording => some recording.unregistered
  | .standalone _ => none

/-- Nobody was ever registered with the container. -/
structure Unobserved : Prop where
  observers : container.observers = {}
  unregistered : ∀ count, container.unregistered? = some count → count = 0

/-- The container, with all that is not about observers as it is in another one. -/
def altered (other : Container) : Container :=
  { other with
    connectivity := container.connectivity
    observers := container.observers
    role := match container.role, other.role with
      | .recording kept, .recording recording =>
        .recording { recording with unregistered := kept.unregistered }
      | .standalone _, .standalone standalone => .standalone standalone
      | role, _ => role }

@[simp] theorem unregistered?_altered (other : Container) :
    (container.altered other).unregistered? = container.unregistered? := by
  unfold unregistered? altered
  cases container.role <;> cases other.role <;> rfl

@[simp] theorem unregistered?_unregister (id : ObserverId) :
    (container.unregister id).unregistered? =
      container.unregistered?.map (· + if container.observers.contains id then 1 else 0) := by
  unfold unregistered? unregister
  cases container.role <;> rfl

@[simp] theorem observers_unregister (id : ObserverId) :
    (container.unregister id).observers = container.observers.unregister id := rfl

/-- Taking off somebody who is not there changes nothing. -/
theorem unregister_of_not_mem {container : Container} {id : ObserverId}
    (absent : id ∉ container.observers.entries.map (·.1)) :
    container.unregister id = container := by
  have unknown : container.observers.contains id = false := by
    rwa [← Bool.not_eq_true, Registry.contains_iff]
  obtain ⟨_, _, _, _, _, _, observers, _ | _⟩ := container <;>
    simp_all [unregister, Registry.unregister_of_not_mem]

end Container

/-! ## Incidents -/

/-- Something that happens to a container and its observers. -/
inductive Incident where
  | joined (id : ObserverId) (observer : Observer)
  /-- The container takes no observer. -/
  | refused (observer : Observer)
  /-- Whoever goes by this number is taken off. -/
  | dismissed (id : ObserverId)
  | stored (connectivity : Connectivity)
  /-- The setting of this number tells an observer, which is shown the container. -/
  | told (number : Nat) (entry : ObserverId × Observer) (shown : Container)
  deriving DecidableEq

namespace Incident

/-- The observer that joins. -/
def joining? : Incident → Option (ObserverId × Observer)
  | .joined id observer => some (id, observer)
  | _ => none

/-- The number whose observer is taken off. -/
def dismissal? : Incident → Option ObserverId
  | .dismissed id => some id
  | _ => none

/-- The connectivity that is stored. -/
def storing? : Incident → Option Connectivity
  | .stored connectivity => some connectivity
  | _ => none

/-- The observer that the setting of a number tells. -/
def telling? (number : Nat) : Incident → Option (ObserverId × Observer)
  | .told other entry _ => if other = number then some entry else none
  | _ => none

end Incident

/-- The observers that joined, in their order. -/
def joinings (incidents : List Incident) : List (ObserverId × Observer) :=
  incidents.filterMap Incident.joining?

/-- The connectivities that were stored, in their order. -/
def storings (incidents : List Incident) : List Connectivity :=
  incidents.filterMap Incident.storing?

/-- The observers that the setting of a number told, in their order. -/
def tellings (number : Nat) (incidents : List Incident) : List (ObserverId × Observer) :=
  incidents.filterMap (Incident.telling? number)

/-- The observers that joined and were not taken off later, in the order in which they joined. -/
def standing : List Incident → List (ObserverId × Observer)
  | [] => []
  | .joined id observer :: later =>
    if .dismissed id ∈ later then standing later else (id, observer) :: standing later
  | _ :: later => standing later

section Incidents

variable (incidents : List Incident)

@[simp] theorem joinings_concat (incident : Incident) :
    joinings (incidents ++ [incident]) = joinings incidents ++ incident.joining?.toList := by
  cases incident <;> simp [joinings, Incident.joining?]

@[simp] theorem storings_concat (incident : Incident) :
    storings (incidents ++ [incident]) = storings incidents ++ incident.storing?.toList := by
  cases incident <;> simp [storings, Incident.storing?]

@[simp] theorem tellings_concat (number : Nat) (incident : Incident) :
    tellings number (incidents ++ [incident]) =
      tellings number incidents ++ (incident.telling? number).toList := by
  unfold tellings
  rw [List.filterMap_append]
  cases told : incident.telling? number <;> simp [told]

theorem standing_joined (id : ObserverId) (observer : Observer) :
    standing (incidents ++ [.joined id observer]) = standing incidents ++ [(id, observer)] := by
  induction incidents with
  | nil => simp [standing]
  | cons incident incidents ih =>
    cases incident with
    | joined other earlier =>
      simp only [List.cons_append, standing, List.mem_append, List.mem_singleton, reduceCtorEq,
        or_false, ih]
      split <;> rfl
    | _ => exact ih

theorem standing_dismissed (id : ObserverId) :
    standing (incidents ++ [.dismissed id]) = (standing incidents).filter (·.1 ≠ id) := by
  induction incidents with
  | nil => rfl
  | cons incident incidents ih =>
    cases incident with
    | joined other observer =>
      simp only [List.cons_append, standing, List.mem_append, List.mem_singleton,
        Incident.dismissed.injEq, ih]
      by_cases same : other = id
      · subst same
        by_cases dismissed : .dismissed other ∈ incidents <;> simp [dismissed]
      · by_cases dismissed : .dismissed other ∈ incidents <;> simp [dismissed, same]
    | _ => exact ih

/-- Only joining and being taken off matter for who is standing. -/
theorem standing_other {incident : Incident} (notJoining : incident.joining? = none)
    (notDismissed : incident.dismissal? = none) :
    standing (incidents ++ [incident]) = standing incidents := by
  induction incidents with
  | nil => cases incident <;> first | rfl | cases notJoining
  | cons first incidents ih =>
    cases first with
    | joined id observer =>
      have unlike : .dismissed id ≠ incident := by
        rintro rfl
        cases notDismissed
      simp [standing, ih, unlike]
    | _ => exact ih

/-- Whoever is standing has joined. -/
theorem standing_sublist : (standing incidents).Sublist (joinings incidents) := by
  induction incidents with
  | nil => exact .slnil
  | cons incident incidents ih =>
    cases incident with
    | joined id observer =>
      rw [standing]
      split
      · exact ih.cons _
      · exact ih.cons_cons _
    | _ => exact ih

end Incidents

/-! ## Chronicles -/

/-- A setting that is not over. -/
structure Round where
  /-- The place among the incidents at which its connectivity was stored. -/
  number : Nat
  /-- Who is still to be told. -/
  waiting : List (ObserverId × Observer)
  deriving DecidableEq

/-- Who is still to be told by the setting of a number. -/
def waitingFor (number : Nat) (rounds : List Round) : List (ObserverId × Observer) :=
  (rounds.filter (·.number = number)).flatMap (·.waiting)

@[simp] theorem waitingFor_cons (number : Nat) (round : Round) (outer : List Round) :
    waitingFor number (round :: outer) =
      (if round.number = number then round.waiting else []) ++ waitingFor number outer := by
  unfold waitingFor
  by_cases same : round.number = number <;> simp [same]

/-- No round goes by a number that is not given yet. -/
theorem waitingFor_eq_nil {number : Nat} {rounds : List Round}
    (earlier : ∀ round ∈ rounds, round.number < number) : waitingFor number rounds = [] := by
  have others : rounds.filter (·.number = number) = [] :=
    List.filter_eq_nil_iff.2 fun round mem => by simpa using Nat.ne_of_lt (earlier round mem)
  rw [waitingFor, others, List.flatMap_nil]

/-- A container, and what happened to it and its observers. -/
structure Chronicle where
  container : Container
  incidents : List Incident := []
  /-- The settings that are not over, the innermost first. -/
  rounds : List Round := []
  deriving DecidableEq

/-- Something that is done with a container, by an observer that is told or by anyone else. -/
inductive Move where
  | register (observer : Observer)
  | unregister (id : ObserverId)
  | set (connectivity : Connectivity)
  /-- The innermost setting tells its next observer, or is over if none is left. -/
  | proceed
  /-- What is not about observers changes. -/
  | alter (other : Container)

namespace Chronicle

/-- What a move makes of a chronicle. -/
def step (chronicle : Chronicle) : Move → Chronicle
  | .register observer =>
    match chronicle.container.register observer with
    | (.ok id, container) => { chronicle with
        container := container
        incidents := chronicle.incidents ++ [.joined id observer] }
    | (.error _, container) => { chronicle with
        container := container
        incidents := chronicle.incidents ++ [.refused observer] }
  | .unregister id => { chronicle with
      container := chronicle.container.unregister id
      incidents := chronicle.incidents ++ [.dismissed id] }
  | .set connectivity => {
      container := { chronicle.container with connectivity := connectivity }
      incidents := chronicle.incidents ++ [.stored connectivity]
      rounds :=
        ⟨chronicle.incidents.length, chronicle.container.observers.entries⟩ :: chronicle.rounds }
  | .proceed =>
    match chronicle.rounds with
    | [] => chronicle
    | ⟨_, []⟩ :: outer => { chronicle with rounds := outer }
    | ⟨number, entry :: waiting⟩ :: outer => { chronicle with
        incidents := chronicle.incidents ++ [.told number entry chronicle.container]
        rounds := ⟨number, waiting⟩ :: outer }
  | .alter other => { chronicle with container := chronicle.container.altered other }

theorem step_proceed_of_waiting {chronicle : Chronicle} {number : Nat}
    {entry : ObserverId × Observer} {waiting : List (ObserverId × Observer)} {outer : List Round}
    (inner : chronicle.rounds = ⟨number, entry :: waiting⟩ :: outer) :
    chronicle.step .proceed = { chronicle with
      incidents := chronicle.incidents ++ [.told number entry chronicle.container]
      rounds := ⟨number, waiting⟩ :: outer } := by
  rw [step, inner]

theorem step_proceed_of_done {chronicle : Chronicle} {number : Nat} {outer : List Round}
    (inner : chronicle.rounds = ⟨number, []⟩ :: outer) :
    chronicle.step .proceed = { chronicle with rounds := outer } := by
  rw [step, inner]

/-- What moves make of a chronicle, one after the other. -/
def run (chronicle : Chronicle) (moves : List Move) : Chronicle := moves.foldl step chronicle

end Chronicle

/-! ## Registration -/

/-- The observers of a container are those who are standing, under the numbers that were given, and
a recording container has counted those who were taken off. -/
structure Enrolled (container : Container) (incidents : List Incident) : Prop where
  entries : container.observers.entries = standing incidents
  numbers : (joinings incidents).map (·.1) = List.range' 1 container.observers.issued
  count : ∀ count, container.unregistered? = some count →
    (joinings incidents).length = container.observers.size + count

namespace Enrolled

variable {container after : Container} {incidents : List Incident}

/-- Nobody goes by the number of somebody else. -/
theorem distinct (enrolled : Enrolled container incidents) :
    (container.observers.entries.map (·.1)).Nodup := by
  have given : ((joinings incidents).map (·.1)).Nodup := by
    rw [enrolled.numbers]
    exact List.nodup_range'
  rw [enrolled.entries]
  exact given.sublist ((standing_sublist incidents).map _)

/-- The container changes, but not in its observers. -/
theorem of_observers (enrolled : Enrolled container incidents)
    (observers : after.observers = container.observers)
    (unregistered : after.unregistered? = container.unregistered?) : Enrolled after incidents where
  entries := observers ▸ enrolled.entries
  numbers := observers ▸ enrolled.numbers
  count := by
    rw [observers, unregistered]
    exact enrolled.count

/-- Something happens, but nobody joins and nobody is taken off. -/
theorem other (enrolled : Enrolled container incidents) {incident : Incident}
    (notJoining : incident.joining? = none) (notDismissed : incident.dismissal? = none) :
    Enrolled container (incidents ++ [incident]) := by
  have same : joinings (incidents ++ [incident]) = joinings incidents := by
    rw [joinings_concat, notJoining, Option.toList_none, List.append_nil]
  refine ⟨?_, ?_, ?_⟩
  · rw [standing_other incidents notJoining notDismissed]
    exact enrolled.entries
  · rw [same]
    exact enrolled.numbers
  · rw [same]
    exact enrolled.count

/-- An observer joins last, under the next number. -/
theorem join (enrolled : Enrolled container incidents) (observer : Observer) :
    Enrolled { container with observers := container.observers.register observer }
      (incidents ++ [.joined container.observers.next observer]) where
  entries := by
    rw [standing_joined, ← enrolled.entries]
    rfl
  numbers := by
    rw [joinings_concat, List.map_append, enrolled.numbers, Registry.register, Registry.next,
      List.range'_1_concat, Nat.add_comm 1]
    rfl
  count := by
    intro count recorded
    rw [joinings_concat, List.length_append, enrolled.count count recorded, Registry.size,
      Registry.size, Registry.register, List.length_append]
    exact Nat.add_right_comm _ _ _

/-- Whoever goes by a number is taken off, and counted if there is somebody. -/
theorem dismiss (enrolled : Enrolled container incidents) (id : ObserverId) :
    Enrolled (container.unregister id) (incidents ++ [.dismissed id]) where
  entries := by
    rw [standing_dismissed, ← enrolled.entries]
    rfl
  numbers := by
    rw [joinings_concat]
    exact (congrArg _ (List.append_nil _)).trans enrolled.numbers
  count := by
    intro count recorded
    rw [Container.unregistered?_unregister, Option.map_eq_some_iff] at recorded
    obtain ⟨before, was, rfl⟩ := recorded
    have left : container.observers.size = (container.observers.unregister id).size + _ :=
      Registry.size_unregister enrolled.distinct
    have joined : joinings (incidents ++ [.dismissed id]) = joinings incidents := by
      rw [joinings_concat]
      exact List.append_nil _
    rw [joined, enrolled.count before was, left, Container.observers_unregister]
    omega

end Enrolled

/-! ## Settings -/

/-- Every setting has told and will tell those who were standing when it started, in their order. -/
def Fair (incidents : List Incident) (rounds : List Round) : Prop :=
  ∀ front connectivity back, incidents = front ++ .stored connectivity :: back →
    tellings front.length back ++ waitingFor front.length rounds = standing front

/-- Whoever is told is told by a setting, and shown what is there: the connectivity stored last, and
those who are standing. -/
def Truthful (incidents : List Incident) : Prop :=
  ∀ front number entry shown back, incidents = front ++ .told number entry shown :: back →
    (∃ connectivity, front[number]? = some (.stored connectivity)) ∧
      (storings front).getLast? = some shown.connectivity ∧
      shown.observers.entries = standing front

namespace Fair

variable {incidents : List Incident} {rounds : List Round}

/-- Something happens that no setting does. -/
theorem other (fair : Fair incidents rounds) {incident : Incident}
    (notStored : incident.storing? = none) (notTold : ∀ number, incident.telling? number = none) :
    Fair (incidents ++ [incident]) rounds := by
  intro front connectivity back parts
  obtain ⟨rfl, rfl, rfl⟩ | ⟨rest, rfl, rfl⟩ := split_concat parts
  · cases notStored
  · rw [tellings_concat, notTold, Option.toList_none, List.append_nil]
    exact fair front connectivity rest rfl

/-- A setting starts, under a number that no other goes by. -/
theorem store (fair : Fair incidents rounds)
    (earlier : ∀ round ∈ rounds, round.number < incidents.length) (connectivity : Connectivity) :
    Fair (incidents ++ [.stored connectivity])
      (⟨incidents.length, standing incidents⟩ :: rounds) := by
  intro front other back parts
  obtain ⟨rfl, -, rfl⟩ | ⟨rest, rfl, rfl⟩ := split_concat parts
  · rw [waitingFor_cons, if_pos rfl, waitingFor_eq_nil earlier, List.append_nil]
    rfl
  · have unlike : (front ++ .stored other :: rest).length ≠ front.length := by simp
    rw [tellings_concat, waitingFor_cons, if_neg unlike]
    simpa [Incident.telling?] using fair front other rest rfl

/-- The next observer is told. -/
theorem tell {number : Nat} {entry : ObserverId × Observer}
    {waiting : List (ObserverId × Observer)}
    (fair : Fair incidents (⟨number, entry :: waiting⟩ :: rounds)) (shown : Container) :
    Fair (incidents ++ [.told number entry shown]) (⟨number, waiting⟩ :: rounds) := by
  intro front connectivity back parts
  obtain ⟨-, unlike, -⟩ | ⟨rest, rfl, rfl⟩ := split_concat parts
  · cases unlike
  · have before := fair front connectivity rest rfl
    rw [waitingFor_cons] at before
    rw [tellings_concat, waitingFor_cons, Incident.telling?]
    -- The setting that tells has one more told and one less to tell; any other has neither.
    by_cases own : number = front.length
    · simpa [own] using before
    · simpa [own] using before

/-- A setting that has told everybody is over. -/
theorem finish {number : Nat} (fair : Fair incidents (⟨number, []⟩ :: rounds)) :
    Fair incidents rounds := by
  intro front connectivity back parts
  have before := fair front connectivity back parts
  rwa [waitingFor_cons, ite_self, List.nil_append] at before

end Fair

namespace Truthful

variable {incidents : List Incident}

/-- Something happens, but nobody is told. -/
theorem other (truthful : Truthful incidents) {incident : Incident}
    (notTold : ∀ number, incident.telling? number = none) :
    Truthful (incidents ++ [incident]) := by
  intro front number entry shown back parts
  obtain ⟨rfl, rfl, rfl⟩ | ⟨rest, rfl, rfl⟩ := split_concat parts
  · simp [Incident.telling?] at notTold
  · exact truthful front number entry shown rest rfl

/-- Somebody is told by a setting, and shown what is there. -/
theorem tell (truthful : Truthful incidents) {number : Nat} {connectivity : Connectivity}
    (placed : incidents[number]? = some (.stored connectivity)) {shown : Container}
    (last : (storings incidents).getLast? = some shown.connectivity)
    (there : shown.observers.entries = standing incidents) (entry : ObserverId × Observer) :
    Truthful (incidents ++ [.told number entry shown]) := by
  intro front other observer seen back parts
  obtain ⟨rfl, same, rfl⟩ | ⟨rest, rfl, rfl⟩ := split_concat parts
  · cases same
    exact ⟨⟨connectivity, placed⟩, last, there⟩
  · exact truthful front other observer seen rest rfl

/-- Nobody is told by a setting that has not started. -/
theorem tellings_eq_nil {front back : List Incident} (truthful : Truthful (front ++ back)) :
    tellings front.length front = [] := by
  refine List.filterMap_eq_nil_iff.2 fun incident mem => ?_
  cases incident with
  | told number entry shown =>
    obtain ⟨before, after, rfl⟩ := List.append_of_mem mem
    obtain ⟨⟨connectivity, there⟩, -⟩ :=
      truthful before number entry shown (after ++ back) (by simp)
    have early := (List.getElem?_eq_some_iff.1 there).1
    refine if_neg ?_
    simp only [List.length_append, List.length_cons]
    omega
  | _ => rfl

end Truthful

/-! ## The invariant -/

namespace Chronicle

/-- The container is what was written down, since it had nobody registered and this connectivity.
Its connectivity is the one stored last, and its settings are fair and truthful. -/
structure Sound (start : Connectivity) (chronicle : Chronicle) : Prop where
  enrolled : Enrolled chronicle.container chronicle.incidents
  stored : chronicle.container.connectivity =
    (storings chronicle.incidents).getLast?.getD start
  placed : ∀ round ∈ chronicle.rounds,
    ∃ connectivity, chronicle.incidents[round.number]? = some (.stored connectivity)
  fair : Fair chronicle.incidents chronicle.rounds
  truthful : Truthful chronicle.incidents

namespace Sound

variable {start : Connectivity} {chronicle : Chronicle}

theorem earlier (sound : chronicle.Sound start) :
    ∀ round ∈ chronicle.rounds, round.number < chronicle.incidents.length := by
  intro round mem
  obtain ⟨connectivity, there⟩ := sound.placed round mem
  exact (List.getElem?_eq_some_iff.1 there).1

/-- A setting that is not over stays where it is whatever happens. -/
theorem placed_concat (sound : chronicle.Sound start) (incident : Incident) :
    ∀ round ∈ chronicle.rounds, ∃ connectivity,
      (chronicle.incidents ++ [incident])[round.number]? = some (.stored connectivity) := by
  intro round mem
  obtain ⟨connectivity, there⟩ := sound.placed round mem
  exact ⟨connectivity, by rwa [List.getElem?_append_left (sound.earlier round mem)]⟩

/-- Once something was stored, the container has what was stored last. -/
theorem last_stored (sound : chronicle.Sound start) {number : Nat} {connectivity : Connectivity}
    (there : chronicle.incidents[number]? = some (.stored connectivity)) :
    (storings chronicle.incidents).getLast? = some chronicle.container.connectivity := by
  have mem : connectivity ∈ storings chronicle.incidents :=
    List.mem_filterMap.2 ⟨_, List.mem_of_getElem? there, rfl⟩
  cases last : (storings chronicle.incidents).getLast? with
  | none =>
    rw [List.getLast?_eq_none_iff] at last
    rw [last] at mem
    cases mem
  | some stored => rw [sound.stored, last, Option.getD_some]

/-- Something happens to the observers that no setting does. -/
theorem happen (sound : chronicle.Sound start) {container : Container} {incident : Incident}
    (enrolled : Enrolled container (chronicle.incidents ++ [incident]))
    (connectivity : container.connectivity = chronicle.container.connectivity)
    (notStored : incident.storing? = none) (notTold : ∀ number, incident.telling? number = none) :
    Sound start { chronicle with
      container := container
      incidents := chronicle.incidents ++ [incident] } where
  enrolled := enrolled
  stored := by
    rw [storings_concat, notStored, Option.toList_none, List.append_nil, connectivity]
    exact sound.stored
  placed := sound.placed_concat incident
  fair := sound.fair.other notStored notTold
  truthful := sound.truthful.other notTold

/-- A connectivity is stored, and the setting is to tell those who are standing. -/
theorem set (sound : chronicle.Sound start) (connectivity : Connectivity) :
    Sound start {
      container := { chronicle.container with connectivity := connectivity }
      incidents := chronicle.incidents ++ [.stored connectivity]
      rounds :=
        ⟨chronicle.incidents.length, chronicle.container.observers.entries⟩ ::
          chronicle.rounds } where
  enrolled := (sound.enrolled.other rfl rfl).of_observers rfl rfl
  stored := by simp [Incident.storing?]
  placed := List.forall_mem_cons.2
    ⟨⟨connectivity, List.getElem?_concat_length⟩, sound.placed_concat _⟩
  fair := by
    rw [sound.enrolled.entries]
    exact sound.fair.store sound.earlier connectivity
  truthful := sound.truthful.other fun _ => rfl

/-- The innermost setting tells its next observer. -/
theorem tell (sound : chronicle.Sound start) {number : Nat} {entry : ObserverId × Observer}
    {waiting : List (ObserverId × Observer)} {outer : List Round}
    (inner : chronicle.rounds = ⟨number, entry :: waiting⟩ :: outer) :
    Sound start { chronicle with
      incidents := chronicle.incidents ++ [.told number entry chronicle.container]
      rounds := ⟨number, waiting⟩ :: outer } := by
  have placed := sound.placed
  have keeps := sound.placed_concat (.told number entry chronicle.container)
  have fair := sound.fair
  rw [inner] at placed keeps fair
  obtain ⟨⟨connectivity, there⟩, -⟩ := List.forall_mem_cons.1 placed
  exact {
    enrolled := sound.enrolled.other rfl rfl
    stored := by simpa [Incident.storing?] using sound.stored
    placed := List.forall_mem_cons.2 (List.forall_mem_cons.1 keeps)
    fair := fair.tell chronicle.container
    truthful := sound.truthful.tell there (sound.last_stored there) sound.enrolled.entries entry }

/-- The innermost setting is over. -/
theorem finish (sound : chronicle.Sound start) {number : Nat} {outer : List Round}
    (inner : chronicle.rounds = ⟨number, []⟩ :: outer) :
    Sound start { chronicle with rounds := outer } := by
  have placed := sound.placed
  have fair := sound.fair
  rw [inner] at placed fair
  exact { sound with placed := (List.forall_mem_cons.1 placed).2, fair := fair.finish }

theorem alter (sound : chronicle.Sound start) (other : Container) :
    Sound start { chronicle with container := chronicle.container.altered other } :=
  { sound with
    enrolled := sound.enrolled.of_observers rfl (chronicle.container.unregistered?_altered other) }

/-- Whatever is done. -/
theorem step (sound : chronicle.Sound start) (move : Move) :
    (chronicle.step move).Sound start := by
  cases move with
  | register observer =>
    obtain ⟨error, refused⟩ | registered := chronicle.container.register_cases observer
    · rw [Chronicle.step, refused]
      exact sound.happen (sound.enrolled.other rfl rfl) rfl rfl fun _ => rfl
    · rw [Chronicle.step, registered]
      exact sound.happen (sound.enrolled.join observer) rfl rfl fun _ => rfl
  | unregister id => exact sound.happen (sound.enrolled.dismiss id) rfl rfl fun _ => rfl
  | set connectivity => exact sound.set connectivity
  | proceed =>
    match inner : chronicle.rounds with
    | [] =>
      rw [Chronicle.step, inner]
      exact sound
    | ⟨number, []⟩ :: outer =>
      rw [step_proceed_of_done inner]
      exact sound.finish inner
    | ⟨number, entry :: waiting⟩ :: outer =>
      rw [step_proceed_of_waiting inner]
      exact sound.tell inner
  | alter other => exact sound.alter other

theorem run (sound : chronicle.Sound start) (moves : List Move) :
    (chronicle.run moves).Sound start := by
  induction moves generalizing chronicle with
  | nil => exact sound
  | cons move moves ih => exact ih (sound.step move)

/-- A setting has told and will tell, in all, those who were standing when it started. -/
theorem told_and_waiting (sound : chronicle.Sound start) {front back : List Incident}
    {connectivity : Connectivity}
    (parts : chronicle.incidents = front ++ .stored connectivity :: back) :
    tellings front.length chronicle.incidents ++ waitingFor front.length chronicle.rounds =
      standing front := by
  have untold : tellings front.length front = [] :=
    Truthful.tellings_eq_nil (parts ▸ sound.truthful)
  have since : tellings front.length chronicle.incidents = tellings front.length back := by
    rw [parts, tellings, List.filterMap_append, ← tellings, untold]
    rfl
  rw [since]
  exact sound.fair front connectivity back parts

end Sound

/-- Nothing happened yet to a container that had nobody registered. -/
theorem sound_of_unobserved {container : Container} (unobserved : container.Unobserved) :
    Sound container.connectivity { container := container } where
  enrolled := {
    entries := by rw [unobserved.observers]; rfl
    numbers := by rw [unobserved.observers]; rfl
    count := by
      intro count recorded
      rw [unobserved.observers, unobserved.unregistered count recorded]
      rfl }
  stored := rfl
  placed := nofun
  fair := fun front connectivity back parts => by simp at parts
  truthful := fun front number entry shown back parts => by simp at parts

end Chronicle
end ServiceChannel
