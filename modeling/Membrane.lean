import Membrane.Action
import Membrane.Conversion.Coerce
import Membrane.Conversion.Extract
import Membrane.Conversion.Homogenize
import Membrane.Conversion.ToHost
import Membrane.Engine
import Membrane.Error
import Membrane.Hash.TypeHash
import Membrane.Hash.XXH64
import Membrane.HostType.Entry
import Membrane.HostType.Id
import Membrane.HostType.Primitive
import Membrane.HostType.Registry
import Membrane.Instance.Storage
import Membrane.Member.Accessor
import Membrane.Member.Cache
import Membrane.Member.Describe
import Membrane.Member.Entry
import Membrane.Member.Resolution
import Membrane.Name
import Membrane.Number.Binary
import Membrane.Number.Decimal
import Membrane.Number.Shortest
import Membrane.Object.Descriptor
import Membrane.Object.Flags
import Membrane.Object.Heap
import Membrane.Object.SlotTable
import Membrane.Overload.Cost
import Membrane.Overload.Dispatch
import Membrane.Overload.Ranking
import Membrane.Program
import Membrane.Realm.Descriptor
import Membrane.Realm.Hooks
import Membrane.Realm.Object
import Membrane.Realm.Own
import Membrane.Realm.Run
import Membrane.Recipe.Denote
import Membrane.Recipe.Expression
import Membrane.Session
import Membrane.Store
import Membrane.Store.Create
import Membrane.Store.Describe
import Membrane.Store.Show
import Membrane.Text.Blank
import Membrane.Text.CaseTable
import Membrane.Text.CharRuns
import Membrane.Text.LetterCase
import Membrane.Text.Quoted
import Membrane.Text.QuotedTable
import Membrane.TextMap
import Membrane.Value.Carrier
import Membrane.Value.Host
import Membrane.Value.Script
import Membrane.View
import Membrane.Proofs.Agreement
import Membrane.Proofs.CacheTransparency
import Membrane.Proofs.Severance
import Membrane.Proofs.Unseen
import Membrane.Proofs.WrittenBack
import Membrane.Proofs.SequenceRoundTrip
import Membrane.Proofs.Dispatch
import Membrane.Proofs.Rounding
import Membrane.Proofs.Homogenize
import Membrane.Proofs.RoundTrip
import Membrane.Proofs.EndlessConversion
import Membrane.Proofs.Inhabitants
import Membrane.Proofs.Ranking
import Membrane.Proofs.Extraction
import Membrane.Proofs.Monotonicity
import Membrane.Proofs.Strictness
import Membrane.Proofs.Spelling
import Membrane.Proofs.Jobs
import Membrane.Proofs.Handles
import Membrane.Proofs.Changes
import Membrane.Proofs.Borrows
import Membrane.Proofs.Panics
import Membrane.Proofs.Containment
import Membrane.Proofs.Definitions
import Membrane.Proofs.Discards
import Membrane.Proofs.Locality
import Membrane.Proofs.StrictConversion
import Membrane.Proofs.HostRoundTrip
import Membrane.Proofs.ReadOnly
import Membrane.Proofs.Foresight
import Membrane.Proofs.LazyBinding
import Membrane.Proofs.MethodGroups
import Membrane.Proofs.Precedence
import Membrane.Proofs.RefusedWrites
import Membrane.Proofs.Shadowing
import Membrane.Proofs.Assignability
import Membrane.Proofs.RankingOrder
import Membrane.Proofs.OmittedArguments
import Membrane.Proofs.SharedType
import Membrane.Proofs.Narrowing
import Membrane.Proofs.IntegerTexts
import Membrane.Proofs.TwiceRounded
import Membrane.Proofs.CheckedExtraction
import Membrane.Proofs.ArrayContents
import Membrane.Proofs.Absence
import Membrane.Proofs.ScriptArrays
import Membrane.Proofs.Reachability
import Membrane.Proofs.ScriptObjects
import Membrane.Proofs.ArrayNames
import Membrane.Proofs.StrictFailures
import Membrane.Proofs.IndexedNames
import Membrane.Proofs.ArrayLikes
import Membrane.Proofs.NameKeys
import Membrane.Proofs.WritePermission
import Membrane.Proofs.InstanceTests
import Membrane.Proofs.PrototypeChains
import Membrane.Proofs.BoundMembers
import Membrane.Proofs.MemberTargets
import Membrane.Proofs.SlotHistories
import Membrane.Proofs.SignatureHashes
