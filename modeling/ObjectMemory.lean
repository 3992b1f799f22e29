import ObjectMemory.SortedMap.Lemmas
import ObjectMemory.Backend.Memory
import ObjectMemory.Message.Builtin
import ObjectMemory.Collection.Sequence
import ObjectMemory.Collection.Dictionary
import ObjectMemory.Session.Basic
import ObjectMemory.Proofs.Decimal.Rounding
import ObjectMemory.Proofs.Decimal.Range
import ObjectMemory.Proofs.Decimal.Shortest
import ObjectMemory.Proofs.Json.Leaves
import ObjectMemory.Proofs.Json.Limits
import ObjectMemory.Proofs.Json.Numerals
import ObjectMemory.Proofs.Json.Readable
import ObjectMemory.Proofs.Json.RoundTrip
import ObjectMemory.Proofs.Json.Codec
import ObjectMemory.Proofs.Json.Canonical
import ObjectMemory.Proofs.Json.Levels
import ObjectMemory.Proofs.Json.Members
import ObjectMemory.Proofs.Timestamp.RoundTrip
import ObjectMemory.Proofs.Instance.RoundTrip
import ObjectMemory.Proofs.Instance.Agreement
import ObjectMemory.Proofs.Backend.Laws
import ObjectMemory.Proofs.Store.Requests
import ObjectMemory.Proofs.Store.Marks
import ObjectMemory.Proofs.Store.Failures
import ObjectMemory.Proofs.Store.Coherence
import ObjectMemory.Proofs.Store.Holding
import ObjectMemory.Proofs.Store.Transparency
import ObjectMemory.Proofs.Message.Contents
import ObjectMemory.Proofs.Message.Calls
import ObjectMemory.Proofs.Message.Lists
import ObjectMemory.Proofs.Message.FiniteMaps
import ObjectMemory.Proofs.Message.Writes
import ObjectMemory.Proofs.Store.Frame
import ObjectMemory.Proofs.Store.Flush
import ObjectMemory.Proofs.Store.Deletion
import ObjectMemory.Proofs.Store.Written
import ObjectMemory.Proofs.Session.Acts
import ObjectMemory.Proofs.Session.Transparency
import ObjectMemory.Proofs.Session.Forwarding
import ObjectMemory.Proofs.Session.Interference
import ObjectMemory.Proofs.Store.Dirtiness
import ObjectMemory.Proofs.Timestamp.Years
import ObjectMemory.Proofs.Timestamp.Calendar
import ObjectMemory.Proofs.Instance.Resaved
import ObjectMemory.Proofs.Instance.Readable
import ObjectMemory.Proofs.Json.Lookup
import ObjectMemory.Proofs.Backend.Faithful
import ObjectMemory.Proofs.Store.Interchange
import ObjectMemory.Proofs.Store.Freshness
import ObjectMemory.Proofs.Store.Locality
import ObjectMemory.Proofs.Json.Extent
import ObjectMemory.Proofs.Store.Identity
import ObjectMemory.Proofs.Backend.ClassReaders
import ObjectMemory.Proofs.Store.ClassIndex
import ObjectMemory.Proofs.Message.Bindings
import ObjectMemory.Proofs.Message.Inline
import ObjectMemory.Proofs.Collection.Text
import ObjectMemory.Proofs.Session.Outcomes
import ObjectMemory.Proofs.Store.WriteBack
import ObjectMemory.Proofs.Store.Closing
import ObjectMemory.Proofs.Store.Snapshots
import ObjectMemory.Proofs.Message.Arguments
import ObjectMemory.Proofs.Instance.Reading
import ObjectMemory.Proofs.Json.Indices
import ObjectMemory.Proofs.Message.Indices
import ObjectMemory.Proofs.Collection.Addressing
import ObjectMemory.Proofs.Collection.Histories
import ObjectMemory.Proofs.Settings.Sources
