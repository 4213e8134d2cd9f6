import Initng.ActiveDbMap
import Initng.EventDispatch
import Initng.Restart
import Initng.DepMetRuns
import Initng.Announce
import Initng.History
import Initng.WakeUp
import Initng.QuitTest
import Initng.SystemUp
import Initng.Conflict
import Initng.SignalSlots
import Initng.SignalDelivery
import Initng.NgcsMatching
import Initng.ModuleUnload
import Initng.ModuleLoad
import Initng.ExitStatus
import Initng.StopLaunch
import Initng.Respawn
import Initng.DataMap
import Initng.Synchron
import Initng.ProvideRuns
import Initng.ListShape
import Initng.NgcsAgreement
import Initng.NgcsWatches
import Initng.ReloadComplete
import Initng.NgeEvents
import Initng.ListTail
import Initng.DataCopy
import Initng.StateHistory
import Initng.Unneeded
import Initng.ProcessPipe
import Initng.Ngc4
import Initng.BpClient
import Initng.ExecArgs
import Initng.ListValues
import Initng.Limit
import Initng.PidLookup
import Initng.ChildEnv
import Initng.ForkPipes
import Initng.SplitMemory
import Initng.KillAll
import Initng.HistoryLog
import Initng.IdleProbe
import Initng.PrintModules
import Initng.OutputWatch
import Initng.ProgramOutput
import Initng.RowWalk
import Initng.SyslogOutput
import Initng.NetDevs
import Initng.IoPoll
import Initng.StringMatch
