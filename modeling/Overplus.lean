import Overplus.Library.Bytes
import Overplus.Library.Fifo
import Overplus.Library.Word
import Overplus.Library.Text
import Overplus.Library.Ring
import Overplus.Library.Stream
import Overplus.Library.Run
import Overplus.Library.Composite
import Overplus.Library.Table
import Overplus.Shared.Coding
import Overplus.Shared.DtlsChannel
import Overplus.Protocol.VRequest
import Overplus.Protocol.Endpoint
import Overplus.Protocol.UdpFrame
import Overplus.Shared.DnsCache
import Overplus.Protocol.Trojan
import Overplus.Protocol.Http
import Overplus.Protocol.Socks5
import Overplus.Server.SessionBuffer
import Overplus.Server.Session
import Overplus.Server.SessionSteps
import Overplus.Server.SessionOutcome
import Overplus.Server.DtlsServerSession
import Overplus.Server.DtlsSteps
import Overplus.Server.DtlsTrace
import Overplus.Server.SessionNames
import Overplus.Server.DtlsListener
import Overplus.Server.Service
import Overplus.Client.UdpRelay
import Overplus.Client.Session
import Overplus.Client.Server
import Overplus.Client.SessionSteps
import Overplus.Verif.RelayReplies
import Overplus.Verif.RequestDecoding
import Overplus.Verif.ChannelOrder
import Overplus.Verif.FrameDecoding
import Overplus.Verif.Tunnel
import Overplus.Verif.TunnelOperations
import Overplus.Verif.NoOpenRelay
import Overplus.Verif.TrojanUdp
import Overplus.Verif.TrojanReplies
import Overplus.Verif.UdpBuffer
import Overplus.Verif.SessionTable
import Overplus.Verif.AddressChoice
import Overplus.Verif.RequestRoundTrip
import Overplus.Verif.SessionIds
import Overplus.Verif.SessionCount
import Overplus.Verif.Delivery
import Overplus.Verif.HttpConnect
import Overplus.Verif.Socks5Negotiation
import Overplus.Shared.LogFile
import Overplus.Verif.TrojanCodec
import Overplus.Verif.Socks5Codec
import Overplus.Verif.HttpRequestLine
import Overplus.Verif.NameCache
import Overplus.Verif.LogRoll
import Overplus.Verif.PacketLimit
import Overplus.Verif.BufferQueue
import Overplus.Verif.Conversation
import Overplus.Verif.ServedTarget
import Overplus.Verif.EndToEnd
import Overplus.Verif.UdpMode
import Overplus.Verif.Progress
import Overplus.Verif.DatagramSources
import Overplus.Verif.DatagramPath
import Overplus.Verif.PeerIsolation
import Overplus.Verif.TcpTarget
import Overplus.Verif.LogRetention
