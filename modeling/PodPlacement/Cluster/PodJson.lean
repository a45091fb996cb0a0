import PodPlacement.Cluster.Pod
import PodPlacement.Decode.Field
import PodPlacement.Json.Decode

/-! # The JSON form of pods and groups

    A pod is an object of six members of which only the name is needed: its
    other fields default to no scope, no labels, phase `Unknown`, no address
    and no deletion. -/

namespace PodPlacement

namespace Labels

/-- An object whose values are texts; of two values under a key the later counts. -/
def ofJson : Json → Except JsonError Labels
  | .object members fault => do
    let labels ← members.foldlM (fun (labels : Labels) (key, value) => do
      let key ← key.mapError fun fault => .text fault.read
      return labels.insert key (← value.asString)) empty
    Json.stopAt fault
    return labels
  | .keyless => .error (.text .keyNotString)
  | value => value.wrongType "a map"

/-- The object of the labels, in key order. -/
def toJson (labels : Labels) : Json :=
  .record (labels.entries.map fun (key, value) => (key, .ofString value))

end Labels

namespace PodPhase

/-- A phase by its name. -/
def ofJson : Json → Except JsonError PodPhase :=
  Json.asVariant (all.map name) ofName?

end PodPhase

namespace Instant

/-- An instant by its time stamp. -/
def ofJson : Json → Except JsonError Instant
  | .string (.ok s) => (ofText s).mapError fun fault => .data (.stamp fault)
  | value => value.wrongType "an RFC 3339 formatted date and time string"

end Instant

/-- The fields of a pod, as far as they have been read. -/
structure PodFields where
  name : Option String
  scope : Option (Option String)
  labels : Option Labels
  phase : Option PodPhase
  address : Option (Option String)
  deletedAt : Option (Option Instant)

namespace PodFields

/-- Nothing read yet. -/
def blank : PodFields := ⟨none, none, none, none, none, none⟩

/-- The names of the fields in order. -/
def names : List String := ["name", "namespace", "labels", "phase", "podIP", "deletionTimestamp"]

/-- Takes in the value of a field. -/
def put (fields : PodFields) (field : String) (value : Json) : Except JsonError PodFields :=
  match field with
  | "name" => do
    let name ← fillField .data field fields.name fun _ => value.asString
    return { fields with name }
  | "namespace" => do
    let scope ← fillField .data field fields.scope fun _ => value.asOption Json.asString
    return { fields with scope }
  | "labels" => do
    let labels ← fillField .data field fields.labels fun _ => Labels.ofJson value
    return { fields with labels }
  | "phase" => do
    let phase ← fillField .data field fields.phase fun _ => PodPhase.ofJson value
    return { fields with phase }
  | "podIP" => do
    let address ← fillField .data field fields.address fun _ => value.asOption Json.asString
    return { fields with address }
  | "deletionTimestamp" => do
    let deletedAt ← fillField .data field fields.deletedAt fun _ => value.asOption Instant.ofJson
    return { fields with deletedAt }
  | _ => .ok fields

/-- The pod of these fields; what has not been read has its default. -/
def pod (fields : PodFields) : Except DecodeFault Pod :=
  match fields.name with
  | none => .error (.missingField "name")
  | some name => .ok
    { name
      scope := fields.scope.getD none
      labels := fields.labels.getD .empty
      phase := fields.phase.getD .unknown
      address := fields.address.getD none
      deletedAt := fields.deletedAt.getD none }

/-- How pods are read. -/
def reader : Json.RecordReader PodFields Pod :=
  ⟨"struct Pod", names, [0], blank, put, pod⟩

end PodFields

namespace Pod

/-- Reads a pod. -/
def ofJson : Json → Except JsonError Pod := PodFields.reader.decode

/-- Reads a list of pods from a text that holds nothing else. -/
def listOfText : String → Except JsonError (List Pod) :=
  Json.decodeText (Json.asList ofJson)

/-- A value or `null`. -/
def optionJson {α : Type} (f : α → Json) : Option α → Json
  | none => .null
  | some a => f a

/-- The members of a pod's object. -/
def members (pod : Pod) : List (String × Json) :=
  [("name", .ofString pod.name),
   ("namespace", optionJson .ofString pod.scope),
   ("labels", pod.labels.toJson),
   ("phase", .ofString pod.phase.name),
   ("podIP", optionJson .ofString pod.address),
   ("deletionTimestamp", optionJson (fun i => .ofString i.text) pod.deletedAt)]

/-- The JSON form of a pod. -/
def toJson (pod : Pod) : Json := .record pod.members

end Pod

namespace ReplicaGroup

/-- How groups are read. -/
def reader : Json.RecordReader (Option String) ReplicaGroup where
  name := "struct ReplicaGroup"
  fields := ["name"]
  needed := [0]
  blank := none
  put read field value := fillField .data field read fun _ => value.asString
  finish read := read.elim (.error (.missingField "name")) fun name => .ok ⟨name⟩

/-- Reads a group from a text that holds nothing else. -/
def ofText : String → Except JsonError ReplicaGroup :=
  Json.decodeText reader.decode

/-- The JSON form of a group. -/
def toJson (group : ReplicaGroup) : Json :=
  .record [("name", .ofString group.name)]

end ReplicaGroup

end PodPlacement
