import OneFs.Proofs.Client
import OneFs.Proofs.Snapshot.Restoring

/-!
# Sources of restored snapshots

What a snapshot holds of a volume is copied from a directory that is put together from the directory
of the volumes, the snapshot and the volume. In version 1 the directory of the volumes is taken apart
for that, behind the root of the file system. Whatever is configured, this is where it is meant to be
taken apart, even if the same text occurs in it again.

- `Version.sourceOf`: where a snapshot holds a volume;
- `splitOnce_directory`: the directory of the volumes, taken apart;
- `Version.source_eq`: what is put together of it;
- `Connection.copySnapshot_eq`: the plan that names a source;
- `copySnapshot_source`: the source that is named by every client.
-/

namespace OneFs

open Http Exchange

/-- Where a snapshot holds a volume, if the volumes are at `below` behind the root of the volumes: in
version 1 with the snapshots of the whole file system, in version 2 with those of the directory that
the volumes are in. -/
def Version.sourceOf (v : Version) (below snapshot volume : String) : String :=
  match v with
  | .v1 => "/namespace/ifs/.snapshot/" ++ snapshot ++ "/volumes" ++ below ++ "/" ++ volume ++ "/"
  | .v2 => "/namespace/ifs/volumes" ++ below ++ "/.snapshot/" ++ snapshot ++ "/" ++ volume ++ "/"

/-- A directory below the root of the volumes is taken apart in front of that root. -/
theorem splitOnce_directory (below : String) :
    splitOnce "/ifs/".toList (namespacePath (volumesRoot ++ below)).toList =
      some ("namespace".toList, ("volumes" ++ below).toList) := by
  have root : volumesRoot ++ below = "/ifs/" ++ ("volumes" ++ below) := by
    rw [show volumesRoot = "/ifs/" ++ "volumes" by decide, String.append_assoc]
  rw [root, splitOnce_namespacePath]

/-- The directory in which a snapshot appears, with a volume in it, is where the snapshot holds the
volume. -/
theorem Version.source_eq (v : Version) (below snapshot volume : String) :
    "/" ++ v.snapshotPath (namespacePath (volumesRoot ++ below)) snapshot ++ "/" ++ volume ++ "/" =
      v.sourceOf below snapshot volume := by
  unfold snapshotPath sourceOf
  cases v with
  | v1 =>
    dsimp only
    rw [splitOnce_directory]
    apply String.toList_injective
    simp [snapshotDirectory]
  | v2 =>
    apply String.toList_injective
    simp [snapshotDirectory, namespacePath, namespaceRoot, volumesRoot]

/-- With all its arguments given, a snapshot is copied by one request, which is told of. -/
theorem Connection.copySnapshot_eq (c : Connection) {snapshot source destination : String}
    (named : snapshot ≠ "") (taken : source ≠ "") (placed : destination ≠ "") :
    c.copySnapshot snapshot source destination = (do
      c.execute (c.askCopySnapshot snapshot source destination)
      Exchange.note (.snapshotCopied snapshot source destination)) := by
  have given : (!snapshot.isEmpty && !source.isEmpty && !destination.isEmpty) = true := by
    simp [named, taken, placed]
  exact require_bind given _ _

/-- Whatever path of the volumes is configured, it is behind the root of the volumes, and every client
for the configuration, in either version, takes the path in URLs apart in front of that root and
nowhere else. So a snapshot is copied from where it holds the volume: that is the source which is
asked for, and the one source that a request names. -/
theorem copySnapshot_source {config : Config} {c : Client} (made : c.IsFor config) :
    config.directory = "/ifs/volumes" ++ belowRoot config.volumesPath ∧
      c.api.namespacePath = "namespace/ifs/volumes" ++ belowRoot config.volumesPath ∧
      splitOnce "/ifs/".toList c.api.namespacePath.toList =
        some ("namespace".toList, ("volumes" ++ belowRoot config.volumesPath).toList) ∧
      ∀ snapshot volume destination, snapshot ≠ "" → volume ≠ "" → destination ≠ "" →
        let source := c.api.version.sourceOf (belowRoot config.volumesPath) snapshot volume
        c.api.copySnapshot snapshot volume destination = (do
            c.api.execute {
              method := "PUT", path := c.api.namespacePath, id := some destination
              headers := [(Connection.copySource, source)] }
            Exchange.note (.snapshotCopied snapshot volume destination)) ∧
          (c.api.copySnapshot snapshot volume destination).Sends fun r =>
            r.headers.filter (fun h => h.name == Connection.copySource) =
              [⟨Connection.copySource, source⟩] := by
  have directory : config.directory = volumesRoot ++ belowRoot config.volumesPath :=
    volumesDirectory_eq config.volumesPath
  have volumes : c.api.volumesPath = volumesRoot ++ belowRoot config.volumesPath :=
    made.volumesPath_eq.trans directory
  have path : c.api.namespacePath = namespacePath (volumesRoot ++ belowRoot config.volumesPath) :=
    congrArg namespacePath volumes
  refine ⟨directory, ?_, ?_, ?_⟩
  · rw [path, namespacePath, ← String.append_assoc]
    rfl
  · rw [path, splitOnce_directory]
  · intro snapshot volume destination named taken placed source
    have holds : "/" ++ c.api.snapshotPath snapshot ++ "/" ++ volume ++ "/" = source := by
      rw [Connection.snapshotPath, path, Version.source_eq]
    constructor
    · rw [c.api.copySnapshot_eq named taken placed, Connection.askCopySnapshot, holds]
    · intro σ answer s r sent
      have request := c.api.copySnapshot_sends snapshot volume destination σ answer s r sent
      rw [Connection.copySource_of_requestFor request, holds]

/-- The root of the file system, an empty component and the directory of snapshots occur in the path of
the volumes. A copy takes one request, which names a source that has all of them behind the
snapshot. -/
theorem copySnapshot_source_nested :
    let c := localClient "a/ifs/b//.snapshot"
    c.IsFor (localConfig "a/ifs/b//.snapshot") ∧ "nightly" ≠ "" ∧ "data" ≠ "" ∧ "restored" ≠ "" ∧
      ∃ r, requests ((c.api.copySnapshot "nightly" "data" "restored").run
          (replies .closed) []).steps = [r] ∧
        r.headers.filter (fun h => h.name == Connection.copySource) =
          [⟨Connection.copySource,
            "/namespace/ifs/.snapshot/nightly/volumes/a/ifs/b//.snapshot/data/"⟩] := by
  intro c
  have made := isFor_localClient "a/ifs/b//.snapshot"
  have single : (requests ((c.api.copySnapshot "nightly" "data" "restored").run
      (replies .closed) []).steps).length = 1 := by
    decide +kernel
  obtain ⟨r, only⟩ := List.length_eq_one_iff.mp single
  refine ⟨made, by decide, by decide, by decide, r, only, ?_⟩
  obtain ⟨-, -, -, copied⟩ := copySnapshot_source made
  obtain ⟨-, sends⟩ := copied "nightly" "data" "restored" (by decide) (by decide) (by decide)
  rw [sends _ (replies .closed) [] r (only ▸ List.mem_singleton_self r)]
  decide

end OneFs
