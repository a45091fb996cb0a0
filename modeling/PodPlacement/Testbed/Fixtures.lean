import PodPlacement.Cluster.PodJson
import PodPlacement.Cluster.Selector
import PodPlacement.Json.Printer
import PodPlacement.Storage.Basic

/-! # Fixtures — the files of the test bed

    Pods of several kinds, each list in a file in its JSON form, and one
    configuration. -/

namespace PodPlacement.Fixtures

/-- The group that the fixtures are about. -/
def group : ReplicaGroup := ⟨"buildkitd"⟩

/-- The labels of the pods of a group. -/
def labelsOf (name : String) : Labels := Labels.empty.insert groupLabel name

/-- A pod of the group of which nothing but its phase is known. -/
def member (name : String) (phase : PodPhase) : Pod := .plain name (labelsOf group.name) phase

/-- A pod with a scope and perhaps an address. -/
def placed (name : String) (app : String) (phase : PodPhase) (address : Option String) : Pod :=
  { Pod.plain name (labelsOf app) phase with scope := some "builds", address }

/-- Four running pods. -/
def fourPods : List Pod := ["w-a", "w-b", "w-c", "w-d"].map (member · .running)

/-- Five running pods. -/
def fivePods : List Pod := ["w-a", "w-b", "w-c", "w-d", "w-e"].map (member · .running)

/-- Pods of which two run and belong to the group; one of the others is being deleted. -/
def mixedPods : List Pod :=
  [placed "w-3" group.name .pending none,
   placed "w-2" group.name .running (some "10.4.0.12"),
   placed "w-1" group.name .running (some "10.4.0.11"),
   { placed "w-0" group.name .running (some "10.4.0.10") with
     deletedAt := (Instant.ofText "2026-01-01T00:00:00Z").toOption },
   placed "w-9" group.name .failed none,
   placed "api-1" "api" .running (some "10.4.0.20")]

/-- Pods of the group, none of them running. -/
def idlePods : List Pod := [member "w-1" .pending, member "w-2" .unknown]

/-- A configuration of a sticky chooser. -/
def stickyConfig : String :=
  "chooser = \x7b\n  replica_group   = \"buildkitd\"\n  strategy        = \"sticky\"\n"
    ++ "  ring_points     = 128\n  list_timeout_ms = 2000\n\x7d\n"

/-- A text in a file. -/
def fileOf (text : String) : StorageNode := .file text.toUTF8

/-- A file that holds pods. -/
def podFile (pods : List Pod) : StorageNode := fileOf (Json.list (pods.map Pod.toJson)).text

/-- All fixtures by the names of their files. -/
def files : List (String × StorageNode) :=
  [("pods_four.json", podFile fourPods),
   ("pods_five.json", podFile fivePods),
   ("pods_mixed.json", podFile mixedPods),
   ("pods_none_running.json", podFile idlePods),
   ("sticky.hcl", fileOf stickyConfig)]

/-- The name under which the folder of fixtures is shown. -/
def folderName : String := "<fixtures>"

/-- The folder of fixtures under its own name and the one it is shown by. -/
def storage : Storage :=
  ⟨.folder [(folderName, .folder files), ("fixtures", .folder files)], []⟩

/-- The path of a fixture; a name that is a path from the root stays as it is. -/
def path (name : String) : String :=
  if name.toList.head? = some '/' then name else folderName ++ "/" ++ name

end PodPlacement.Fixtures
