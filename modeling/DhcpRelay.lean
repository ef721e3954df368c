import DhcpRelay.Library.KeyedMap
import DhcpRelay.Library.Stages
import DhcpRelay.Library.Tlv
import DhcpRelay.Library.ShortTlv
import DhcpRelay.Config
import DhcpRelay.Dhcproto.V4Wire
import DhcpRelay.Dhcproto.V6
import DhcpRelay.Pipeline
import DhcpRelay.V4.Option82
import DhcpRelay.V4.Vss
import DhcpRelay.V4.Pipeline
import DhcpRelay.V4.VssEcho
import DhcpRelay.V4.VssSubOpts
import DhcpRelay.V4.Option82Laws
import DhcpRelay.V4.InsertReport
import DhcpRelay.AgentV4Exchange
import DhcpRelay.AgentV4Sent
import DhcpRelay.AgentInterface
import DhcpRelay.AgentRuns
import DhcpRelay.AgentStats
import DhcpRelay.AgentTasks
import DhcpRelay.AgentV6Network
import DhcpRelay.Smf.DpdWindow
import DhcpRelay.Smf.PacketIds
import DhcpRelay.Smf.DpdLossless
import DhcpRelay.Smf.Network
import DhcpRelay.V6.Nesting
import DhcpRelay.V6.Envelope
import DhcpRelay.Smf.DpdOption
import DhcpRelay.Smf.Checksum
import DhcpRelay.Smf.DpdFraming
import DhcpRelay.Smf.DpdIpv6
import DhcpRelay.Smf.Scope
