import Quicz.Run.Reads
import Quicz.FrameCodec.Types
import Quicz.Ranges.Acks
import Quicz.WireLen.Padding
import Quicz.Packet.Number
import Quicz.Recovery.Traps
import Quicz.Run.Flight
import Quicz.Run.Acks
import Quicz.Run.Keys
import Quicz.Upkeep.Paths
import Quicz.Upkeep.Resets
import Quicz.Upkeep.Allowance
import Quicz.Endpoint.Routes
import Quicz.Endpoint.Migration
import Quicz.Endpoint.Timers
import Quicz.Upkeep.Identity
import Quicz.H3.Shared
import Quicz.H3.Agreement
import Quicz.H3.Bodies
import Quicz.H3.Requests
import Quicz.Recovery.Losses
import Quicz.Recovery.NewReno
import Quicz.H3.BlockReaders
import Quicz.Endpoint.Replies
import Quicz.Endpoint.Tokens
import Quicz.Recv.Coalesced
