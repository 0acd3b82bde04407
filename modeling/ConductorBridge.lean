import ConductorBridge.Text
import ConductorBridge.Json
import ConductorBridge.Prog
import ConductorBridge.Split
import ConductorBridge.Routing
import ConductorBridge.Cli
import ConductorBridge.Bot
import ConductorBridge.LoadConfig
import ConductorBridge.Heartbeat
import ConductorBridge.Cost
import ConductorBridge.Bridge
