import OneFs.Connection.Exports
import OneFs.Quota

/-!
# Quotas of a cluster

Listing quotas, and setting, changing and removing the quota on a path.
-/

namespace OneFs.Connection

open Json

/-- All quotas. -/
def quotas (c : Connection) : Exchange (List Quota) := do
  let reply ← c.query { method := "GET", path := c.version.quotasPath } Quota.listing
  pure (reply.getD [])

/-- The first quota on a path. -/
def quota (c : Connection) (path : String) : Exchange Quota := do
  let all ← c.quotas
  Exchange.ofOption (.notFound ("Quota not found: " ++ path)) (all.find? fun q => q.path == path)

/-- Put an enforced quota on a directory. -/
def setQuota (c : Connection) (path : String) (t : QuotaThresholds) : Exchange Unit := do
  requirePath path
  c.execute {
    method := "POST", path := c.version.quotasPath, body := some (Quota.creation path t) }
  Exchange.note (.quotaSet path t.hard)

/-- Put an enforced quota with only a hard limit on a directory. -/
def setQuotaHard (c : Connection) (path : String) (size : Int64) : Exchange Unit :=
  c.setQuota path (.ofHard size)

/-- Replace the levels of the quota on a path. -/
def updateQuota (c : Connection) (path : String) (t : QuotaThresholds) : Exchange Unit := do
  let q ← c.quota path
  c.execute {
    method := "PUT", path := c.version.quotasPath, id := some q.id
    body := some (Quota.change t) }
  Exchange.note (.quotaUpdated path q.id t.hard)

/-- Replace the levels of the quota on a path by a hard limit. -/
def updateQuotaHard (c : Connection) (path : String) (size : Int64) : Exchange Unit :=
  c.updateQuota path (.ofHard size)

/-- Remove the quota on a path. -/
def deleteQuota (c : Connection) (path : String) : Exchange Unit := do
  requirePath path
  c.execute { method := "DELETE", path := c.version.quotasPath, params := [("path", path)] }

end OneFs.Connection
