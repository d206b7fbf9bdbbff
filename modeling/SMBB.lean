import SMBB.Framework.PartialMaps
import SMBB.Framework.Numerals
import SMBB.Framework.GroupText
import SMBB.Framework.AddressText
import SMBB.Framework.Batch
import SMBB.Framework.CString
import SMBB.Framework.Runs
import SMBB.Framework.Ownership
import SMBB.Framework.Names
import SMBB.Framework.Objects
import SMBB.Framework.Requests
import SMBB.Framework.Flags
import SMBB.Framework.BoundedSets
import SMBB.Framework.Fnv
import SMBB.Framework.Multiples
import SMBB.Framework.Writes
import SMBB.Framework.Pieces
import SMBB.Framework.Views
import SMBB.Framework.Machines
import SMBB.Framework.Resources
import SMBB.Framework.References
import SMBB.Framework.Updates
import SMBB.Framework.Resumption
import SMBB.Construction.Address
import SMBB.Construction.AddressConstructors
import SMBB.Construction.Hash
import SMBB.Construction.ToURI
import SMBB.Construction.URIMemory
import SMBB.Construction.Messages
import SMBB.Construction.MessagesWindows
import SMBB.Construction.SharedMemory
import SMBB.Construction.NameBuffer
import SMBB.Construction.SharedMemoryWindows
import SMBB.Construction.SelectSets
import SMBB.Construction.SelectSetsWindows
import SMBB.Construction.PollItem
import SMBB.Construction.PollSets
import SMBB.Construction.PollSetsWindows
import SMBB.Construction.Interfaces
import SMBB.Construction.InterfacesWindows
import SMBB.Construction.Parse
import SMBB.Construction.SocketOptions
import SMBB.Construction.OptionGetters
import SMBB.Construction.Linger
import SMBB.Construction.Multicast
import SMBB.Construction.IPSocket
import SMBB.Construction.SharedMemorySection
import SMBB.Construction.SharedMemoryMapping
import SMBB.Construction.SharedMemoryViews
import SMBB.Construction.AdapterBuffers
import SMBB.Construction.DSCPWindows
import SMBB.Construction.Nonblocking
import SMBB.Construction.SocketNames
import SMBB.Properties.Hashing
import SMBB.Properties.Ports
import SMBB.Properties.URIShape
import SMBB.Properties.URIRoundTrip
import SMBB.Properties.URIBounds
import SMBB.Properties.MultipleMessages
import SMBB.Properties.MultipleLoops
import SMBB.Properties.Truncation
import SMBB.Properties.SharedMemoryCalls
import SMBB.Properties.NameBuffers
import SMBB.Properties.SharedMemoryOwnership
import SMBB.Properties.SharedMemoryWindowsCalls
import SMBB.Properties.SharedMemoryResults
import SMBB.Properties.SharedMemoryNames
import SMBB.Properties.SharedMemoryDeletes
import SMBB.Properties.SharedMemoryWindowsNames
import SMBB.Properties.Monitoring
import SMBB.Properties.SelectWaiting
import SMBB.Properties.SelectTesting
import SMBB.Properties.SelectRange
import SMBB.Properties.SelectFilling
import SMBB.Properties.Polling
import SMBB.Properties.PolledSets
import SMBB.Properties.OptionLevels
import SMBB.Properties.LingerTimes
import SMBB.Properties.InterfaceIndices
import SMBB.Properties.ParsedAddresses
import SMBB.Properties.MulticastRequests
import SMBB.Properties.SocketOpening
import SMBB.Properties.SocketOwnership
import SMBB.Properties.MapOffsets
import SMBB.Properties.OpenFiles
import SMBB.Properties.MappedPages
import SMBB.Properties.SharedViews
import SMBB.Properties.MappedOffsets
import SMBB.Properties.LoadedEntities
import SMBB.Properties.OpenHandles
import SMBB.Properties.MappedViews
import SMBB.Properties.Watching
import SMBB.Properties.WatchedSets
import SMBB.Properties.WatchingBuilds
import SMBB.Properties.AdapterBuffers
import SMBB.Properties.Transfers
import SMBB.Properties.TransferredSends
import SMBB.Properties.Buffers
import SMBB.Properties.TransferredReceives
import SMBB.Properties.Exchanges
import SMBB.Properties.OptionTranscripts
import SMBB.Properties.MarkedFlows
import SMBB.Properties.EqualAddresses
import SMBB.Properties.Nonblocking
import SMBB.Properties.PassedAddresses
