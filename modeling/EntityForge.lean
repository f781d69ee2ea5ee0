import EntityForge.Main
import EntityForge.Proofs.Bundles
import EntityForge.Proofs.DiskEffect
import EntityForge.Proofs.Extensions
import EntityForge.Proofs.Regeneration
import EntityForge.Proofs.Independence
import EntityForge.Proofs.Reports
import EntityForge.Proofs.Removals
import EntityForge.Proofs.Registrations
import EntityForge.Proofs.ColumnOrder
import EntityForge.Proofs.DefaultTypes
import EntityForge.Proofs.SharedLayout
import EntityForge.Proofs.Confinement
import EntityForge.Proofs.Frames
import EntityForge.Proofs.TableNames
import EntityForge.Proofs.Encodings
import EntityForge.Proofs.Tallies
import EntityForge.Proofs.Normalization
import EntityForge.Proofs.Screens
import EntityForge.Proofs.Separation
import EntityForge.Proofs.NormalForm
import EntityForge.Proofs.Namespaces
import EntityForge.Proofs.Clashes
import EntityForge.Proofs.Readings
import EntityForge.Proofs.Comments
import EntityForge.Proofs.Listings
import EntityForge.Proofs.PhpMembers
import EntityForge.Proofs.CsharpMembers
import EntityForge.Proofs.Rosters
import EntityForge.Proofs.Amounts
import EntityForge.Proofs.Keys
import EntityForge.Proofs.Mappings
import EntityForge.Proofs.Precedence
import EntityForge.Proofs.Merging
import EntityForge.Proofs.Relocations
import EntityForge.Proofs.Caseless
import EntityForge.Proofs.Elements
import EntityForge.Proofs.TextKeys
import EntityForge.Proofs.QualifiedNames
import EntityForge.Proofs.Identifiers
import EntityForge.Proofs.Literals
import EntityForge.Proofs.Suffixes
import EntityForge.Proofs.LastWrites
import EntityForge.Proofs.SharedAccessors
