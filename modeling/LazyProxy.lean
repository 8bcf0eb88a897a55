import LazyProxy.Derive.Expansion
import LazyProxy.Main
import LazyProxy.Proofs.Cli.AllOrNothing
import LazyProxy.Proofs.Cli.Confinement
import LazyProxy.Proofs.Cli.Delivery
import LazyProxy.Proofs.Cli.Namespace
import LazyProxy.Proofs.Derive.Accessors
import LazyProxy.Proofs.Document.Resolution
import LazyProxy.Proofs.Proxy.GeneratedSet
import LazyProxy.Proofs.Target.Agreement
import LazyProxy.Proofs.Target.MethodNames
import LazyProxy.Proofs.Text.Join
import LazyProxy.Proofs.Document.Insertion
import LazyProxy.Proofs.Manifest.Loading
import LazyProxy.Proofs.Manifest.Order
import LazyProxy.Proofs.Manifest.Spelling
import LazyProxy.Proofs.Target.Constructors
import LazyProxy.Proofs.Target.Marker
import LazyProxy.Proofs.Proxy.Coherence
import LazyProxy.Proofs.Manifest.RoundTrip
import LazyProxy.Proofs.Target.FlagOperations
import LazyProxy.Proofs.Code.Reroot
import LazyProxy.Proofs.Document.Collection
import LazyProxy.Proofs.Document.Inheritance
import LazyProxy.Proofs.Document.Locality
import LazyProxy.Proofs.Naming.Written
import LazyProxy.Proofs.Proxy.Recognition
import LazyProxy.Proofs.Target.PhpFaults
import LazyProxy.Proofs.Target.RustFaults
import LazyProxy.Proofs.Naming.NormalForm
import LazyProxy.Proofs.Manifest.Sources
import LazyProxy.Proofs.Manifest.Fields
import LazyProxy.Proofs.Target.Banner
import LazyProxy.Proofs.Naming.Collision
import LazyProxy.Proofs.Target.AccessorTypes
import LazyProxy.Proofs.Derive.Capture
