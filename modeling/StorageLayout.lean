import StorageLayout.CommandLine.Run
import StorageLayout.Files.Tree
import StorageLayout.Main
import StorageLayout.Proofs.Catalog
import StorageLayout.Proofs.CommandLine.Arguments
import StorageLayout.Proofs.CommandLine.Comparison
import StorageLayout.Proofs.CommandLine.Export
import StorageLayout.Proofs.CommandLine.Runs
import StorageLayout.Proofs.Comparison.Appending
import StorageLayout.Proofs.Comparison.Coverage
import StorageLayout.Proofs.Comparison.Documents
import StorageLayout.Proofs.Comparison.Matching
import StorageLayout.Proofs.Comparison.Pairing
import StorageLayout.Proofs.Comparison.Rendering
import StorageLayout.Proofs.Comparison.Symmetry
import StorageLayout.Proofs.Comparison.Texts
import StorageLayout.Proofs.Comparison.Triggers
import StorageLayout.Proofs.Comparison.Verdict
import StorageLayout.Proofs.Comparison.Visibility
import StorageLayout.Proofs.Dictionary
import StorageLayout.Proofs.Diff.Hunk
import StorageLayout.Proofs.Diff.Order
import StorageLayout.Proofs.Diff.Subsequence
import StorageLayout.Proofs.Extraction.Bookkeeping
import StorageLayout.Proofs.Extraction.Builder
import StorageLayout.Proofs.Extraction.Directory
import StorageLayout.Proofs.Extraction.Entries
import StorageLayout.Proofs.Extraction.Enumeration
import StorageLayout.Proofs.Extraction.Order
import StorageLayout.Proofs.Extraction.Outcome
import StorageLayout.Proofs.Extraction.Recompilation
import StorageLayout.Proofs.Extraction.Validity
import StorageLayout.Proofs.Files.Actions
import StorageLayout.Proofs.Files.Effects
import StorageLayout.Proofs.Files.Paths
import StorageLayout.Proofs.Files.Reordering
import StorageLayout.Proofs.Files.Trees
import StorageLayout.Proofs.Fingerprint.Budget
import StorageLayout.Proofs.Fingerprint.Clique
import StorageLayout.Proofs.Fingerprint.Context
import StorageLayout.Proofs.Fingerprint.Exhaustion
import StorageLayout.Proofs.Fingerprint.History
import StorageLayout.Proofs.Fingerprint.Independence
import StorageLayout.Proofs.Fingerprint.Memo
import StorageLayout.Proofs.Fingerprint.Nesting
import StorageLayout.Proofs.Fingerprint.Paths
import StorageLayout.Proofs.Fingerprint.Places
import StorageLayout.Proofs.Fingerprint.Renaming
import StorageLayout.Proofs.Fingerprint.Resolution
import StorageLayout.Proofs.Fingerprint.Rules
import StorageLayout.Proofs.Fingerprint.Runs
import StorageLayout.Proofs.Fingerprint.Sharing
import StorageLayout.Proofs.Fingerprint.Structure
import StorageLayout.Proofs.Format.RoundTrip
import StorageLayout.Proofs.Json.Acceptance
import StorageLayout.Proofs.Json.Decoding
import StorageLayout.Proofs.Json.Grammar
import StorageLayout.Proofs.Json.Lexemes
import StorageLayout.Proofs.Json.Likeness
import StorageLayout.Proofs.Json.Prefixes
import StorageLayout.Proofs.Json.Records
import StorageLayout.Proofs.Json.RoundTrip
import StorageLayout.Proofs.Lists
import StorageLayout.Proofs.Report.Findings
import StorageLayout.Proofs.Slot
import StorageLayout.Proofs.Store.Confinement
import StorageLayout.Proofs.Store.Directory
import StorageLayout.Proofs.Store.Interchange
import StorageLayout.Proofs.Store.Listing
import StorageLayout.Proofs.Store.Names
import StorageLayout.Proofs.Text.Lines
import StorageLayout.Proofs.TypeDefinition.Branching
import StorageLayout.Proofs.TypeDefinition.Display
import StorageLayout.Proofs.TypeDefinition.Expansion
import StorageLayout.Proofs.TypeDefinition.Inlining
import StorageLayout.Proofs.TypeDefinition.Labelling
import StorageLayout.Proofs.TypeDefinition.Numbering
import StorageLayout.Proofs.TypeDefinition.Reachability
import StorageLayout.Proofs.TypeDefinition.Recompilation
import StorageLayout.Proofs.TypeDefinition.Relabeling
import StorageLayout.Proofs.TypeDefinition.Room
import StorageLayout.Proofs.TypeDefinition.Shape
import StorageLayout.Proofs.TypeDefinition.Skeleton
import StorageLayout.Proofs.TypeDefinition.Traversal
import StorageLayout.Store.Memory
import StorageLayout.TypeDefinition.Display
