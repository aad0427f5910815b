import OneFs.Connection.Basic
import OneFs.Volume

/-!
# Volumes of a cluster

Listing, creating, looking up, deleting and copying the directories below the volumes path.
-/

namespace OneFs.Connection

open Json

/-- The header that names what a copy is made of. -/
def copySource : String :=
  "x-isi-ifs-copy-source"

/-- A volume must have a name. -/
def requireName (name : String) : Exchange Unit :=
  require (!name.isEmpty) "no volume name set"

/-- The directories below the volumes path. -/
def volumes (c : Connection) : Exchange (List Volume) := do
  let reply ← c.query { method := "GET", path := c.namespacePath } Volume.children
  pure (reply.getD [])

/-- Create a directory and hand it to the configured user and group. -/
def createVolume (c : Connection) (name : String) : Exchange Unit := do
  requireName name
  c.execute {
    method := "PUT", path := c.namespacePath, id := some name
    headers := [("x-isi-ifs-target-type", "container"),
      ("x-isi-ifs-access-control", "public_read_write")] }
  c.execute {
    method := "PUT", path := c.namespacePath, id := some name, params := [("acl", "")]
    body := some (AclRequest.ownership c.username c.group).body }
  Exchange.note (.volumeCreated name)

/-- The metadata of a volume. -/
def volume (c : Connection) (name : String) : Exchange Volume := do
  requireName name
  let reply ← c.query
    { method := "GET", path := c.namespacePath, id := some name, params := [("metadata", "")] }
    Volume.metadata
  pure ⟨name, reply.getD []⟩

/-- Remove a volume and everything in it. -/
def deleteVolume (c : Connection) (name : String) : Exchange Unit := do
  requireName name
  c.execute {
    method := "DELETE", path := c.namespacePath, id := some name
    params := [("recursive", "true")] }
  Exchange.note (.volumeDeleted name)

/-- Make a volume as a copy of another. -/
def copyVolume (c : Connection) (source destination : String) : Exchange Unit := do
  requireName source
  requireName destination
  c.execute {
    method := "PUT", path := c.namespacePath, id := some destination
    headers := [(copySource, "/" ++ c.namespacePath ++ "/" ++ source)] }
  Exchange.note (.volumeCopied source destination)

end OneFs.Connection
