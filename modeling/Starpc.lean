import Starpc.Packet
import Starpc.Chan
import Starpc.Message
import Starpc.ServerRPC
import Starpc.ServerRun
import Starpc.ServerDelivery
import Starpc.RpcStream.ReadWriter
import Starpc.RpcStream.ReadSpec
import Starpc.Pushable
import Starpc.CommonRPC
import Starpc.MsgStream
import Starpc.RpcStream.Handshake
import Starpc.ProtocGenSrpc
