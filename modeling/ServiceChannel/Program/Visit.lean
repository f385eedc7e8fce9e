import ServiceChannel.Program.Serve

/-!
# Visits

A visit is one agent's talk with a container that is served: it greets by asking for the name, says
what it came to say, and asks for the name again after each remark to know when that was handled.

- `Visit`: what the visitor says, and how the service ends.
- `Visit.pay`: the visit.
-/

namespace ServiceChannel.Program

open Session (Inbox World)

/-- What a visitor says. -/
inductive Remark where
  | message (message : AgentMessage)
  /-- Any payload. -/
  | payload (payload : Bytes)
  deriving DecidableEq

namespace Remark

/-- The payload of a remark. -/
def encode : Remark → Bytes
  | .message said => said.encode
  | .payload said => said

/-- Asks the container to stop. -/
def isShutdown : Remark → Bool
  | .message .shutdown => true
  | _ => false

end Remark

/-- How the service ends after the last remark. -/
inductive Ending where
  /-- By what the visitor said. -/
  | said
  /-- It is interrupted, and the visitor reads to the end. -/
  | interrupted
  /-- The visitor leaves, and then it is interrupted. -/
  | deserted
  deriving DecidableEq

/-- A visit to a served container. -/
structure Visit where
  remarks : List Remark := []
  ending : Ending := .said
  deriving DecidableEq

/-- How far a visit has come. -/
structure Encounter where
  service : Service
  /-- What each remark brought, in order. -/
  replies : List Inbox := []
  /-- The visitor was connected and has not left. -/
  met : Bool := false

namespace Encounter

/-- The name that the visitor goes by. -/
def visitor : String := "visitor"

/-- Adds what a remark brought. -/
def addReply (encounter : Encounter) (inbox : Inbox) : Encounter :=
  { encounter with replies := encounter.replies ++ [inbox] }

/-- Writes payloads one after the other, as far as the connection takes them. -/
def write (payloads : List Bytes) (world : World) : World :=
  payloads.foldl
    (fun world payload =>
      match world.agent? visitor with
      | some agent => (world.writePayload agent payload).2
      | none => world)
    world

/-- Reads all that has arrived. Without a connection there is nothing but its end. -/
def read (encounter : Encounter) : Inbox × Encounter :=
  let world := encounter.service.world
  if (world.agent? visitor).isSome then
    let (inbox, world) := world.look visitor
    (inbox, { encounter with service := { encounter.service with world := world } })
  else (⟨[], true⟩, encounter)

/-- Writes payloads, lets the service handle them, and reads what it answers. -/
def say (encounter : Encounter) (payloads : List Bytes) : Inbox × Encounter :=
  let service := encounter.service
  { encounter with
    service := Service.attend { service with world := write payloads service.world } }.read

/-- The question for the container's name. -/
def question : Bytes := AgentMessage.nameRequest.encode

/-- Connects and asks for the name. -/
def greet (encounter : Encounter) : Encounter :=
  let service := encounter.service
  match service.world.connect visitor with
  | (.error _, world) => { encounter with service := { service with world := world } }
  | (.ok (), world) =>
    ({ encounter with service := { service with world := world }, met := true }.say [question]).2

/-- Makes a remark. All that arrives before the answer to the question behind it belongs to the
remark. After a remark that closed the connection the visitor greets again, unless it asked for the
end. -/
def remark (encounter : Encounter) (remark : Remark) : Encounter :=
  if remark.isShutdown then
    let (inbox, encounter) := encounter.say [remark.encode]
    encounter.addReply inbox
  else
    let (inbox, encounter) := encounter.say [remark.encode, question]
    if inbox.closed then (encounter.addReply inbox).greet
    else encounter.addReply { inbox with got := inbox.got.dropLast }

/-- The end of the service. -/
def conclude (encounter : Encounter) (ending : Ending) : Encounter :=
  match ending with
  | .said => encounter
  | .interrupted =>
    let (inbox, encounter) := { encounter with service := encounter.service.interrupt }.read
    encounter.addReply inbox
  | .deserted =>
    let service := encounter.service
    let left := Service.attend { service with world := service.world.dropAgent visitor }
    { encounter with service := left.interrupt, met := false }

end Encounter

/-- Pays the visit to a service. -/
def Visit.pay (visit : Visit) (service : Service) : Encounter :=
  let greeted := Encounter.greet { service := service }
  (visit.remarks.foldl Encounter.remark greeted).conclude visit.ending

end ServiceChannel.Program
