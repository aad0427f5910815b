import OneFs.Connection.Basic
import OneFs.Export

/-!
# Exports of a cluster

Listing, looking up, creating, restricting and removing NFS exports.
-/

namespace OneFs.Connection

open Json

/-- An export must have an id. -/
def requireExportId (id : Int64) : Exchange Unit :=
  require (id != 0) "no path id set"

/-- A call on a path must have one. -/
def requirePath (path : String) : Exchange Unit :=
  require (!path.isEmpty) "no path set"

/-- All exports. -/
def exports (c : Connection) : Exchange (List Export) := do
  let reply ← c.query { method := "GET", path := c.version.exportsPath } ExportList.reader
  pure ((reply.map ExportList.exports).getD [])

/-- The export of an id. -/
def exportById (c : Connection) (id : Int64) : Exchange Export := do
  requireExportId id
  let reply ← c.query
    { method := "GET", path := c.version.exportsPath, id := some (toString id) } ExportList.reader
  Exchange.ofOption (.notFound ("Export not found: " ++ toString id))
    (reply.bind fun l => l.exports.head?)

/-- The body that publishes a path. -/
def exportBody (c : Connection) (path : String) : Value :=
  match c.version with
  | .v1 => Export.creationV1 path c.username c.group
  | .v2 => Export.creationV2 path c.username c.group

/-- Publish a path, with every access mapped to the configured user and group. Ends in the id of
the new export. -/
def createExport (c : Connection) (path : String) : Exchange Int64 := do
  requirePath path
  let reply ← c.query
    { method := "POST", path := c.version.exportsPath, body := some (c.exportBody path) }
    Export.createdId
  let id ← Exchange.ofOption .invalidResponse reply
  Exchange.note (.exportCreated path id)
  pure id

/-- Replace the clients of an export; none opens it to everyone. -/
def setExportClients (c : Connection) (id : Int64) (clients : List String) : Exchange Unit := do
  requireExportId id
  c.execute {
    method := "PUT", path := c.version.exportsPath, id := some (toString id)
    body := some (Export.restriction clients) }

/-- Remove an export. -/
def removeExport (c : Connection) (id : Int64) : Exchange Unit := do
  requireExportId id
  c.execute { method := "DELETE", path := c.version.exportsPath, id := some (toString id) }
  Exchange.note (.exportRemoved id)

end OneFs.Connection
