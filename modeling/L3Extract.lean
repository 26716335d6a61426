import L3Extract.Lib.Transition
import L3Extract.Lib.Arena
import L3Extract.Lib.Projection
import L3Extract.Lib.Index
import L3Extract.Lib.Flow
import L3Extract.Lib.Threads
import L3Extract.Basic
import L3Extract.Wire
import L3Extract.Parsing
import L3Extract.Smoltcp.Api
import L3Extract.Smoltcp.Spec
import L3Extract.Smoltcp.Reference
import L3Extract.Stack.Event
import L3Extract.Stream.Slice
import L3Extract.Stream.Exact
import L3Extract.Stack.State
import L3Extract.Stack.Handlers
import L3Extract.Stack.Effects
import L3Extract.Stack.Outcome
import L3Extract.Stack.Arrival
import L3Extract.Stack.Batch
import L3Extract.Stack.Tables
import L3Extract.Stack.Account
import L3Extract.Stack.Operations
import L3Extract.Stack.Sockets
import L3Extract.Stack.Buffers
import L3Extract.Stack.Accepted
import L3Extract.Stack.View
import L3Extract.Stack.Order
import L3Extract.Stack.Listeners
import L3Extract.System.Machine
import L3Extract.System.Account
import L3Extract.System.Ownership
import L3Extract.System.CrossTalk
import L3Extract.System.Retention
import L3Extract.System.CloseKept
import L3Extract.System.Requests
import L3Extract.System.Ready
import L3Extract.Stack.Failure
import L3Extract.System.Packets
import L3Extract.NotifyChannel
import L3Extract.NotifyChannel.Disconnected
import L3Extract.NotifyChannel.Batches
import L3Extract.System.Permuted
import L3Extract.System.Orphans
import L3Extract.System.Record
import L3Extract.System.Answers
import L3Extract.System.Received
import L3Extract.System.Delivery
import L3Extract.System.EndOfStream
import L3Extract.Stack.Tokens
import L3Extract.System.Concurrent
import L3Extract.System.Holders
import L3Extract.System.SoleHolder
import L3Extract.System.Shutdown
import L3Extract.Smoltcp.Transmit
import L3Extract.Stack.Datagrams
import L3Extract.System.Versions
import L3Extract.System.Backpressure
import L3Extract.System.Emission
import L3Extract.Stack.Unrest
import L3Extract.System.Rest
import L3Extract.Stack.Origins
import L3Extract.Smoltcp.HopByHop
import L3Extract.System.Addresses
import L3Extract.WakeFn
import L3Extract.NotifyChannel.Work
import L3Extract.Smoltcp.Wakers
import L3Extract.Stack.Waiting
import L3Extract.System.Waiting
import L3Extract.System.Exclusive
import L3Extract.System.Released
import L3Extract.System.LifeCycle
import L3Extract.System.Written
import L3Extract.Driver
import L3Extract.Driver.Rest
import L3Extract.Device
import L3Extract.System.Bounded
import L3Extract.System.Session
import L3Extract.System.ExactLoops
