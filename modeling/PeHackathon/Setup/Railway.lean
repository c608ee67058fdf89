import Mathlib.Data.List.Nodup
import PeHackathon.Setup.Project

/-!
# Railway, as the script meets it

The services of one project (`Railway`), and what a call does to them. Any call may fail, and one
that fails may have had its effect all the same; the id, the place and the instances of a new
service, and the triggers that connecting a service gives it, are open. A query shows the first 100
services and the first 20 triggers of each.
-/

namespace PeHackathon.Setup

open Lib

structure RailwayService where
  id : String
  name : String
  triggers : List Trigger
  /-- The instance in an environment. -/
  instance? : String → Option ServiceInstance

namespace RailwayService

variable (s : RailwayService)

/-- What the query shows of a service. -/
def entry : ServiceEntry := ⟨s.id, s.name, s.triggers.take 20⟩

def triggerIds : List String := s.triggers.map (·.id)

/-- `deploymentTriggerUpdate` of the triggers with an id. -/
def updateTrigger (id branch repository : String) : RailwayService :=
  { s with
    triggers := s.triggers.map fun t => if t.id = id then { t with branch, repository } else t }

end RailwayService

/-- What the input gives replaces what was there. -/
def InstanceInput.update (input : InstanceInput) (si : ServiceInstance) : ServiceInstance where
  rootDirectory := input.rootDirectory.or si.rootDirectory
  preDeployCommand := input.preDeployCommand.or si.preDeployCommand
  railwayConfigFile := input.railwayConfigFile.or si.railwayConfigFile
  watchPatterns := input.watchPatterns.or si.watchPatterns

def RailwayService.updateInstance (s : RailwayService) (environmentId : String)
    (input : InstanceInput) : RailwayService :=
  { s with
    instance? := fun e =>
      if e = environmentId then (s.instance? e).map input.update else s.instance? e }

/-- A project. No two services have one id, and no two triggers; `mutations` are the mutations that
were sent. -/
structure Railway where
  services : List RailwayService
  mutations : List Call
  ids : (services.map (·.id)).Nodup
  triggerIds : (services.flatMap (·.triggerIds)).Nodup

namespace Railway

variable (w : Railway)

/-- The service with an id. -/
def find (id : String) : Option RailwayService := w.services.find? (·.id = id)

/-- What the query of the project shows. -/
def nodes : List (Option ServiceEntry) := (w.services.take 100).map fun s => some s.entry

/-- The services one by one, without new ids. -/
def mapServices (f : RailwayService → RailwayService) (hid : ∀ s, (f s).id = s.id)
    (htriggers : ∀ s, (f s).triggerIds = s.triggerIds) : Railway where
  services := w.services.map f
  mutations := w.mutations
  ids := by
    rw [List.map_map, show (fun s : RailwayService => s.id) ∘ f = fun s => s.id from funext hid]
    exact w.ids
  triggerIds := by
    rw [List.flatMap_map, show (fun s => (f s).triggerIds) = fun s =>
      s.triggerIds from funext htriggers]
    exact w.triggerIds

/-- Put new services in, if their ids are new. -/
def replaceServices (services : List RailwayService) : Option Railway :=
  if h : (services.map (·.id)).Nodup ∧ (services.flatMap (·.triggerIds)).Nodup then
    some ⟨services, w.mutations, h.1, h.2⟩
  else none

def sent (q : Call) : Railway := { w with mutations := w.mutations ++ [q] }

/-- A service gets these triggers. -/
def connect (id : String) (triggers : List Trigger) : Option Railway :=
  w.replaceServices
    (w.services.map fun s => if s.id = id then { s with triggers := triggers } else s)

def create (place : Nat) (s : RailwayService) : Option Railway :=
  w.replaceServices (w.services.take place ++ s :: w.services.drop place)

def updateTrigger (id branch repository : String) : Railway :=
  w.mapServices (·.updateTrigger id branch repository) (fun _ => rfl) fun s => by
    simp only [RailwayService.triggerIds, RailwayService.updateTrigger, List.map_map]
    refine List.map_congr_left fun t _ => ?_
    rw [Function.comp_apply]
    split <;> rfl

def updateInstance (environmentId id : String) (input : InstanceInput) : Railway :=
  w.mapServices (fun s => if s.id = id then s.updateInstance environmentId input else s)
    (fun s => by split <;> rfl) fun s => by split <;> rfl

end Railway

/-- What the outside chooses at a call. -/
structure Choice where
  /-- The call fails, with this message. -/
  failure : Option String
  /-- A call that fails has its effect nevertheless. -/
  effect : Bool
  place : Nat
  service : RailwayService
  triggers : List Trigger

namespace Railway

variable (c : Choice) (w : Railway)

/-- The effect of a mutation. -/
def mutated : Call → Option Railway
  | .serviceCreate _ _ name _ _ => w.create c.place { c.service with name := name }
  | .serviceConnect id _ _ => w.connect id c.triggers
  | .deploymentTriggerCreate _ _ serviceId _ _ _ => w.connect serviceId c.triggers
  | .deploymentTriggerUpdate id branch repository _ => some (w.updateTrigger id branch repository)
  | .serviceInstanceUpdate environmentId serviceId input =>
    if (w.find serviceId).bind (·.instance? environmentId) = none then none
    else some (w.updateInstance environmentId serviceId input)
  | _ => some w

/-- A mutation is sent; it has its effect, or fails. -/
def mutate (q : Call) : Option (Except String Unit × Railway) :=
  match c.failure with
  | none => (mutated c w q).map fun w' => (.ok (), w'.sent q)
  | some msg =>
    if c.effect then (mutated c w q).map fun w' => (.error msg, w'.sent q)
      else some (.error msg, w.sent q)

/-- A query is answered, or fails. -/
def query {A : Type} (a : A) : Option (Except String A × Railway) :=
  match c.failure with
  | none => some (.ok a, w)
  | some msg => some (.error msg, w)

end Railway

/-- The project answers the script. -/
def railway : Server (fun q => Except String (Reply q)) Unit Choice Railway where
  respond _ c w
    | .project _ => w.query c w.nodes
    | .serviceInstance environmentId serviceId =>
      w.query c ((w.find serviceId).bind (·.instance? environmentId))
    | .serviceCreate projectId environmentId name branch repo =>
      w.mutate c (.serviceCreate projectId environmentId name branch repo)
    | .serviceConnect id repo branch => w.mutate c (.serviceConnect id repo branch)
    | .deploymentTriggerCreate projectId environmentId serviceId branch repository rootDirectory =>
      w.mutate c (.deploymentTriggerCreate projectId environmentId serviceId branch repository
        rootDirectory)
    | .deploymentTriggerUpdate id branch repository rootDirectory =>
      w.mutate c (.deploymentTriggerUpdate id branch repository rootDirectory)
    | .serviceInstanceUpdate environmentId serviceId input =>
      w.mutate c (.serviceInstanceUpdate environmentId serviceId input)
    | .serviceInstanceDeploy environmentId serviceId =>
      w.mutate c (.serviceInstanceDeploy environmentId serviceId)
    | .variableCollectionUpsert projectId environmentId serviceId skipDeploys values =>
      w.mutate c (.variableCollectionUpsert projectId environmentId serviceId skipDeploys values)
  yields _ := false

end PeHackathon.Setup
