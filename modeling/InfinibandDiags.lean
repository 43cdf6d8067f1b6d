import InfinibandDiags.Library.Chain
import InfinibandDiags.Library.Buckets
import InfinibandDiags.Library.Fifo
import InfinibandDiags.Library.Paged
import InfinibandDiags.Library.Pairing
import InfinibandDiags.Complib.Qmap
import InfinibandDiags.Mad.Fields
import InfinibandDiags.Mad.SetFields
import InfinibandDiags.Mad.Table
import InfinibandDiags.Mad.Bits
import InfinibandDiags.Library.BitRow
import InfinibandDiags.Mad.Codec
import InfinibandDiags.Mad.Layouts
import InfinibandDiags.Mad.Writes
import InfinibandDiags.Mad.Packet
import InfinibandDiags.Mad.Header
import InfinibandDiags.Mad.Decode
import InfinibandDiags.Mad.Reply
import InfinibandDiags.Sa.Replies
import InfinibandDiags.Sa.Requests
import InfinibandDiags.Sa.RequestsExact
import InfinibandDiags.Smp.Engine
import InfinibandDiags.Smp.Steps
import InfinibandDiags.Smp.Invariant
import InfinibandDiags.Smp.Trids
import InfinibandDiags.Smp.Correct
import InfinibandDiags.Smp.Loss
import InfinibandDiags.Smp.Pending
import InfinibandDiags.Fabric.Basic
import InfinibandDiags.Fabric.Updates
import InfinibandDiags.Fabric.LidMap
import InfinibandDiags.Fabric.LidRange
import InfinibandDiags.Discover.Callbacks
import InfinibandDiags.Discover.Run
import InfinibandDiags.Discover.Effects
import InfinibandDiags.Discover.Preserve
import InfinibandDiags.Discover.Links
import InfinibandDiags.Discover.IndexSafety
import InfinibandDiags.Discover.PortTable
import InfinibandDiags.Discover.Loss
import InfinibandDiags.Discover.Network
import InfinibandDiags.Discover.NodeTable
import InfinibandDiags.Discover.NodeIndex
import InfinibandDiags.Discover.Frontier
import InfinibandDiags.Discover.Expand
import InfinibandDiags.Discover.Arrive
import InfinibandDiags.Discover.Complete
import InfinibandDiags.Discover.Touched
import InfinibandDiags.Discover.Inventory
import InfinibandDiags.Discover.Ports
import InfinibandDiags.Discover.Ends
import InfinibandDiags.Discover.DirectRoute
import InfinibandDiags.Discover.Numerals
import InfinibandDiags.Discover.Trails
import InfinibandDiags.Discover.HopLimit
import InfinibandDiags.Discover.Paths
import InfinibandDiags.Discover.HopCount
import InfinibandDiags.Discover.HopWrap
import InfinibandDiags.Cc.SwitchPorts
import InfinibandDiags.Cc.SwitchPortsExact
import InfinibandDiags.Cc.HexMask
import InfinibandDiags.Chassis.Basic
import InfinibandDiags.Chassis.Exclusive
import InfinibandDiags.Chassis.SlotIndex
import InfinibandDiags.Chassis.MellanoxDesc
import InfinibandDiags.Chassis.TableSafety
import InfinibandDiags.Diff.Exact
import InfinibandDiags.Diff.SingleNode
import InfinibandDiags.Topology.Complete
import InfinibandDiags.Chassis.ByGuid
import InfinibandDiags.Cache.Format
import InfinibandDiags.Cache.Load
import InfinibandDiags.Cache.Store
import InfinibandDiags.Cache.Records
import InfinibandDiags.Cache.NodeCodec
import InfinibandDiags.Cache.Rebuild
import InfinibandDiags.Cache.Relink
import InfinibandDiags.Library.Numbered
import InfinibandDiags.Cache.Consistent
import InfinibandDiags.Cache.Loaded
import InfinibandDiags.Cache.Written
import InfinibandDiags.Cache.RoundTrip
import InfinibandDiags.Cache.Scanned
import InfinibandDiags.Diff.Rescan
import InfinibandDiags.Topology.Scanned
import InfinibandDiags.Cache.Edit
import InfinibandDiags.Cache.Edited
import InfinibandDiags.Library.Positional
import InfinibandDiags.Library.Loops
import InfinibandDiags.Library.Overwrite
import InfinibandDiags.Library.Rounds
import InfinibandDiags.Library.Ascent
import InfinibandDiags.Trace.Subnet
import InfinibandDiags.Trace.FindRoute
import InfinibandDiags.Trace.Steps
import InfinibandDiags.Trace.Route
import InfinibandDiags.Trace.Agent
import InfinibandDiags.Trace.Sound
import InfinibandDiags.Trace.Complete
import InfinibandDiags.Trace.McSubnet
import InfinibandDiags.Trace.Lookup
import InfinibandDiags.Trace.Multicast
import InfinibandDiags.Trace.McPath
import InfinibandDiags.Trace.McTree
import InfinibandDiags.Trace.McSound
import InfinibandDiags.Trace.McDepth
import InfinibandDiags.Trace.McBounded
import InfinibandDiags.Trace.McChain
import InfinibandDiags.Trace.PortsFile
import InfinibandDiags.Rpc.MadRpc
import InfinibandDiags.Rpc.Result
import InfinibandDiags.Rpc.Bounded
import InfinibandDiags.Route.Strings
import InfinibandDiags.Route.Exact
import InfinibandDiags.Route.Print
import InfinibandDiags.Library.Listing
import InfinibandDiags.Route.LftDump
import InfinibandDiags.Route.LftExact
import InfinibandDiags.Route.MftDump
import InfinibandDiags.Route.MftExact
import InfinibandDiags.Route.DumpFts
import InfinibandDiags.Route.Unread
import InfinibandDiags.Errors.PrintNode
import InfinibandDiags.Errors.SlTable
import InfinibandDiags.Errors.SlTableExact
import InfinibandDiags.Errors.AllPorts
import InfinibandDiags.Errors.ByName
import InfinibandDiags.Library.Sections
import InfinibandDiags.Errors.Details
import InfinibandDiags.Errors.Config
import InfinibandDiags.Errors.ConfigExact
import InfinibandDiags.Dump.FieldLine
import InfinibandDiags.Perf.Aggregate
import InfinibandDiags.Perf.Ports
import InfinibandDiags.Perf.PortsExact
import InfinibandDiags.Library.Saturate
import InfinibandDiags.Perf.Sums
import InfinibandDiags.Smpquery.Tables
import InfinibandDiags.Smpquery.TablesExact
import InfinibandDiags.Mad.Respond
import InfinibandDiags.Sysstat.Reply
import InfinibandDiags.Sysstat.ReplyExact
import InfinibandDiags.Portstate.Args
import InfinibandDiags.Portstate.Update
import InfinibandDiags.Portstate.UpdateExact
import InfinibandDiags.Library.Release
import InfinibandDiags.Cache.Destroy
import InfinibandDiags.Cache.Owned
import InfinibandDiags.Discover.Destroyed
