import Wormhole.Go
import Wormhole.Json
import Wormhole.Dilation.Protocol
import Wormhole.Dilation.Manager
import Wormhole.Dilation.ManagerRun
import Wormhole.Dilation.Connector
import Wormhole.Dilation.L2Conn
import Wormhole.Dilation.Engine
import Wormhole.Dilation.Codec
import Wormhole.Dilation.Wire
import Wormhole.Send.Model
import Wormhole.Send.Report
import Wormhole.Send.RecordLoop
import Wormhole.Send.Directory
import Wormhole.Send.Api
import Wormhole.Relay
