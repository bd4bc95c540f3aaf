import GoNms.Go.Int
import GoNms.Go.Rounding
import GoNms.Go.Float
import GoNms.Go.FloatText
import GoNms.Go.Strings
import GoNms.Go.Fmt
import GoNms.Go.Map
import GoNms.Go.Json
import GoNms.Snmp.Pdu
import GoNms.Device.Model
import GoNms.Device.Service
import GoNms.Common.Model
import GoNms.Collector.Scheduler
import GoNms.Zte.Oid
import GoNms.Zte.Walk
import GoNms.Zte.PonPort
import GoNms.Zte.Ont
import GoNms.Zte.System
import GoNms.Worker.Adapter
import GoNms.Worker.Worker
import GoNms.Alert.Engine
import GoNms.Alert.Pipeline
import GoNms.Mikrotik.Client
import GoNms.Monitoring.Inventory
import GoNms.Go.Net
import GoNms.Device.Discovery
import GoNms.Device.ScanRun
import GoNms.Device.Registry
import GoNms.Monitoring.Poll
import GoNms.Monitoring.Scheduler
import GoNms.ConfigMgt.Command
import GoNms.Execution.Service
import GoNms.Device.Handler
