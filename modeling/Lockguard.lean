import Lockguard.Lib.Runs
import Lockguard.Lib.Interleave
import Lockguard.Lib.Lease
import Lockguard.Lib.PathTree
import Lockguard.Lib.Prog
import Lockguard.Nt
import Lockguard.Recovery
import Lockguard.Window
import Lockguard.Globals
import Lockguard.Ioctl
import Lockguard.RegCb
import Lockguard.MiniFilter
import Lockguard.ProcNotify
import Lockguard.ObCallback
import Lockguard.Driver
import Lockguard.UnlockOrigin
import Lockguard.WindowBound
import Lockguard.WindowThreads
import Lockguard.ChannelThreads
import Lockguard.SharedNonce
import Lockguard.ControlSet
import Lockguard.RegTree
import Lockguard.Client
import Lockguard.SetPassword
import Lockguard.PasswordChange
import Lockguard.Recover
import Lockguard.PasswordWrites
import Lockguard.Installer
import Lockguard.Wfp
import Lockguard.FileTree
import Lockguard.Watchdog
import Lockguard.Host
import Lockguard.CheckResults
import Lockguard.CheckCalls
import Lockguard.Isolation
import Lockguard.FileCalls
import Lockguard.SelfHeal
import Lockguard.FalseAlarms
import Lockguard.Status
import Lockguard.TamperCount
import Lockguard.ClockedWindow
import Lockguard.ReloadThreads
import Lockguard.ReloadSpacing
import Lockguard.StatusThreads
import Lockguard.GraceThreads
import Lockguard.Handles
import Lockguard.WlanLists
import Lockguard.RepairRuns
import Lockguard.ElapsedLimits
import Lockguard.KeyResidue
import Lockguard.FilterActions
import Lockguard.RecordReaders
import Lockguard.Lib.Layout
import Lockguard.RegNames
import Lockguard.StatusLayout
import Lockguard.PasswordPolicy
import Lockguard.HandleWrites
import Lockguard.WlanBuffers
import Lockguard.ServiceControl
import Lockguard.InstallScripts
import Lockguard.InstallRoundTrip
import Lockguard.CountedReads
import Lockguard.BlockedNames
import Lockguard.KeyNames
import Lockguard.MaskPrefix
import Lockguard.Lib.Wp
import Lockguard.KernelCalls
import Lockguard.KernelDiscipline
import Lockguard.KernelEntries
import Lockguard.DriverLoad
import Lockguard.LoadOutcome
import Lockguard.Monitor
import Lockguard.DriverThreads
import Lockguard.TamperThreads
import Lockguard.EntryPoints
import Lockguard.ServiceManager
import Lockguard.SteadyState
import Lockguard.ClientCalls
import Lockguard.CodePolicy
import Lockguard.Lib.Refine
import Lockguard.WatchdogCalls
import Lockguard.InstallCommands
import Lockguard.InstallAgain
import Lockguard.InstallAccess
import Lockguard.InstallRestart
