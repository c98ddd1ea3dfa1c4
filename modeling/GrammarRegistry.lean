import GrammarRegistry.Catalog.Live
import GrammarRegistry.Registry.Shape
import GrammarRegistry.Workspace.Keys
import GrammarRegistry.Workspace.Mounts
import GrammarRegistry.Workspace.Changes
import GrammarRegistry.Proofs.Interleaving
import GrammarRegistry.Proofs.Keys
import GrammarRegistry.Proofs.KeyRing
import GrammarRegistry.Proofs.Catalog.Buckets
import GrammarRegistry.Proofs.Catalog.LiveList
import GrammarRegistry.Proofs.Catalog.Ledger
import GrammarRegistry.Proofs.Catalog.Tickets
import GrammarRegistry.Proofs.Catalog.Refinement
import GrammarRegistry.Proofs.Registry.Runs
import GrammarRegistry.Proofs.Registry.Standing
import GrammarRegistry.Proofs.Registry.Effects
import GrammarRegistry.Proofs.Registry.PlainRuns
import GrammarRegistry.Proofs.Registry.Atomicity
import GrammarRegistry.Proofs.Registry.Restoring
import GrammarRegistry.Proofs.Registry.Lines
import GrammarRegistry.Proofs.Registry.Family
import GrammarRegistry.Proofs.Registry.Refusals
import GrammarRegistry.Proofs.Registry.Undoing
import GrammarRegistry.Proofs.Registry.Ticketing
import GrammarRegistry.Proofs.Registry.Routing
import GrammarRegistry.Proofs.Registry.ReadThrough
import GrammarRegistry.Proofs.Registry.Typing
import GrammarRegistry.Proofs.Registry.Independence
import GrammarRegistry.Proofs.Registry.Journal
import GrammarRegistry.Proofs.Registry.GatedSides
import GrammarRegistry.Proofs.Registry.Swapping
import GrammarRegistry.Proofs.Descriptor.JsonText
import GrammarRegistry.Proofs.Registry.Parallel
import GrammarRegistry.Proofs.Registry.Partition
import GrammarRegistry.Proofs.Descriptor.Drafting
import GrammarRegistry.Proofs.Messages
import GrammarRegistry.Proofs.Workspace.Sessions
