import OneFs.Call
import OneFs.Main
import OneFs.Proofs.Bodies
import OneFs.Proofs.Call.Changes
import OneFs.Proofs.Call.Credentials
import OneFs.Proofs.Call.Disclosure
import OneFs.Proofs.Call.Failures
import OneFs.Proofs.Call.Log
import OneFs.Proofs.Call.Origin
import OneFs.Proofs.Call.Password
import OneFs.Proofs.Call.Targets
import OneFs.Proofs.Config.Group
import OneFs.Proofs.Config.Sources
import OneFs.Proofs.Config.Spelling
import OneFs.Proofs.Config.Version
import OneFs.Proofs.Connection.Detection
import OneFs.Proofs.Connection.Listing
import OneFs.Proofs.Connection.Parameters
import OneFs.Proofs.Export.Refinement
import OneFs.Proofs.Lossless
import OneFs.Proofs.Persona.Canonical
import OneFs.Proofs.Persona.Sources
import OneFs.Proofs.Quota.Addressee
import OneFs.Proofs.Quota.HardLimit
import OneFs.Proofs.Quota.Refinement
import OneFs.Proofs.Rejection
import OneFs.Proofs.Snapshot.Requests
import OneFs.Proofs.Snapshot.Resolving
import OneFs.Proofs.Snapshot.Restoring
import OneFs.Proofs.Snapshot.Source
import OneFs.Proofs.Survival
import OneFs.Proofs.Volume.Address
import OneFs.Proofs.Volume.Canonical
import OneFs.Proofs.Volume.Lookup
import OneFs.Proofs.Volume.Published
import OneFs.Proofs.Volume.Unpublishing
