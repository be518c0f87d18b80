import NamedRefs.Config.OfToml
import NamedRefs.Proofs.Database.Resolution
import NamedRefs.Proofs.Store.Atomicity
import NamedRefs.Proofs.Store.Refinement
import NamedRefs.RefName.Grammar
import NamedRefs.Wire.Record
import NamedRefs.Proofs.Database.Listing
import NamedRefs.Proofs.Store.Admission
import NamedRefs.Proofs.Database.Admission
import NamedRefs.Proofs.Store.Interleaving
import NamedRefs.Proofs.Glob.Plain
import NamedRefs.Proofs.Database.Selection
import NamedRefs.Proofs.Store.Placement
import NamedRefs.Proofs.Database.Independence
import NamedRefs.Proofs.Store.Ledger
import NamedRefs.Proofs.Store.Reversal
import NamedRefs.Proofs.Store.Validation
import NamedRefs.Proofs.Database.Restoration
import NamedRefs.Proofs.Database.Footprint
import NamedRefs.Proofs.Text.Hex
import NamedRefs.Proofs.ObjectId.Hexadecimal
import NamedRefs.Proofs.Glob.Language
import NamedRefs.Proofs.RefName.Components
import NamedRefs.Proofs.Wire.RoundTrip
import NamedRefs.Proofs.Glob.BracketClass
import NamedRefs.Proofs.Glob.Rendering
import NamedRefs.Proofs.Glob.Concatenation
import NamedRefs.Proofs.Database.Head
import NamedRefs.Proofs.Database.Cycles
import NamedRefs.Proofs.ObjectId.Order
import NamedRefs.Proofs.Store.Statistics
import NamedRefs.Proofs.Wire.Spelling
import NamedRefs.Proofs.RefName.Hash
import NamedRefs.Proofs.Store.Collisions
import NamedRefs.Proofs.Glob.Negation
import NamedRefs.Proofs.Toml.Decimal
import NamedRefs.Proofs.Toml.PlainPairs
import NamedRefs.Proofs.Toml.Storable
import NamedRefs.Proofs.Config.OfToml
import NamedRefs.Proofs.Store.SizeHint
import NamedRefs.Proofs.Glob.Places
import NamedRefs.Proofs.Toml.Standard
