import SchemaCatalog.Contract
import SchemaCatalog.Export
import SchemaCatalog.Json.Reader
import SchemaCatalog.Resolver
import SchemaCatalog.Settings.File
import SchemaCatalog.Proofs.Registry
import SchemaCatalog.Proofs.Walk
import SchemaCatalog.Proofs.Findings
import SchemaCatalog.Proofs.Integrity
import SchemaCatalog.Proofs.Faults
import SchemaCatalog.Proofs.Stack
import SchemaCatalog.Proofs.History
import SchemaCatalog.Proofs.Values
import SchemaCatalog.Proofs.Depth
import SchemaCatalog.Proofs.Termination
import SchemaCatalog.Proofs.Characters
import SchemaCatalog.Proofs.Numerals
import SchemaCatalog.Proofs.ReadBack
import SchemaCatalog.Proofs.Likeness
import SchemaCatalog.Proofs.Likewise
import SchemaCatalog.Proofs.Mirror
import SchemaCatalog.Proofs.Reuse
import SchemaCatalog.Proofs.Steps
import SchemaCatalog.Proofs.Rebuild
import SchemaCatalog.Proofs.Lineage
import SchemaCatalog.Proofs.Effects
import SchemaCatalog.Proofs.Collision
import SchemaCatalog.Proofs.Transparency
import SchemaCatalog.Proofs.Outcomes
import SchemaCatalog.Proofs.Contents
import SchemaCatalog.Proofs.Rearrangement
import SchemaCatalog.Proofs.Beside
import SchemaCatalog.Proofs.Places
import SchemaCatalog.Proofs.Annotations
import SchemaCatalog.Proofs.Descriptions
import SchemaCatalog.Proofs.Faithful
import SchemaCatalog.Proofs.Casing
import SchemaCatalog.Proofs.Settings
import SchemaCatalog.Proofs.Capitals
import SchemaCatalog.Proofs.Exports
import SchemaCatalog.Proofs.Admission
import SchemaCatalog.Proofs.Unions
import SchemaCatalog.Proofs.Fingerprints
import SchemaCatalog.Proofs.Chains
import SchemaCatalog.Proofs.Calls
import SchemaCatalog.Proofs.Alternatives
import SchemaCatalog.Proofs.Navigation
import SchemaCatalog.Proofs.Validation
