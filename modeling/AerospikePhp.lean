import AerospikePhp.Keys
import AerospikePhp.Library.Transition
import AerospikePhp.ExactEntries
import AerospikePhp.OperateRequests
import AerospikePhp.SentLists
import AerospikePhp.WriteCalls
import AerospikePhp.Leaves
import AerospikePhp.Dispatch
import AerospikePhp.RoundTrips
import AerospikePhp.WriteBacks
import AerospikePhp.Decoding
import AerospikePhp.ListReads
import AerospikePhp.KeyRoundTrips
import AerospikePhp.ConfigLayers
import AerospikePhp.OperateDefaults
import AerospikePhp.HandleLeaks
import AerospikePhp.SharedIdentities
import AerospikePhp.Serializers
import AerospikePhp.CallOptions
import AerospikePhp.StreamHalts
import AerospikePhp.MapGrammar
import AerospikePhp.ScanFlags
import AerospikePhp.ConfigFields
import AerospikePhp.DistinctKeys
import AerospikePhp.SearchStrings
import AerospikePhp.RecordBins
import AerospikePhp.BinLists
import AerospikePhp.IntegerOptions
import AerospikePhp.ConfiguredIntegers
import AerospikePhp.RangeCounts
import AerospikePhp.PredicateBuilders
import AerospikePhp.GivenIntegers
import AerospikePhp.SentIntegers
import AerospikePhp.ForwardedOptions
import AerospikePhp.ForwardedTtls
import AerospikePhp.IntegersKept
import AerospikePhp.OperateResults
import AerospikePhp.Privileges
import AerospikePhp.NodeFilters
import AerospikePhp.Sessions
import AerospikePhp.SessionStore
import AerospikePhp.SavePaths
import AerospikePhp.UdfPaths
import AerospikePhp.UdfFiles
import AerospikePhp.AliasBuffers
import AerospikePhp.StatusAgreement
import AerospikePhp.ListShelf
import AerospikePhp.OperationsInTurn
import AerospikePhp.FailedAnswers
import AerospikePhp.RegisteredCallbacks
