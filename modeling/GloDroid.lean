import GloDroid.Base.Machine
import GloDroid.Base.OpenFiles
import GloDroid.Base.OrderedMap
import GloDroid.Base.MultiMap
import GloDroid.Base.RefCounts
import GloDroid.Base.Window
import GloDroid.Base.WaitLoop
import GloDroid.Base.Descriptors
import GloDroid.Base.LockScript
import GloDroid.Base.TracedVector
import GloDroid.Base.ExactArithmetic
import GloDroid.Base.RoundUp
import GloDroid.Base.LevelSearch
import GloDroid.Base.TreeWalk
import GloDroid.Base.CString
import GloDroid.Base.Regions
import GloDroid.Base.Ledger
import GloDroid.Base.SharedOwners
import GloDroid.Base.CommandScript
import GloDroid.Base.Hexadecimal
import GloDroid.Base.Decimal
import GloDroid.HwComposer.FlatteningController
import GloDroid.HwComposer.Layer
import GloDroid.HwComposer.Composition
import GloDroid.HwComposer.Compositor
import GloDroid.HwComposer.Selection
import GloDroid.HwComposer.CheapestWindow
import GloDroid.HwComposer.StackingOrder
import GloDroid.HwComposer.RepeatedImport
import GloDroid.HwComposer.ScalerLimits
import GloDroid.HwComposer.Display
import GloDroid.HwComposer.DisplayRuns
import GloDroid.HwComposer.SkipValidate
import GloDroid.HwComposer.Interleaving
import GloDroid.HwComposer.ReleaseFences
import GloDroid.HwComposer.FlatteningRuns
import GloDroid.HwComposer.FlattenRequests
import GloDroid.HwComposer.Acceptance
import GloDroid.HwComposer.StagedModes
import GloDroid.HwComposer.DrmFbImporter
import GloDroid.HwComposer.DrmPlane
import GloDroid.HwComposer.Yagi
import GloDroid.HwComposer.YagiRuns
import GloDroid.Power.GloDroidPower
import GloDroid.Power.RequestsSeen
import GloDroid.Power.Power
import GloDroid.Power.BoostUnion
import GloDroid.Power.SysfsSearch
import GloDroid.Power.SysfsRuns
import GloDroid.GadgetHal.Script
import GloDroid.GadgetHal.Gadget
import GloDroid.GadgetHal.StatusSound
import GloDroid.GadgetHal.MonitoredEndpoints
import GloDroid.GadgetHal.EndpointMonitor
import GloDroid.GadgetHal.Answers
import GloDroid.GadgetHal.MonitorThread
import GloDroid.Gralloc.GbmMesa
import GloDroid.Gralloc.Buffers
import GloDroid.Gralloc.LinearFds
import GloDroid.Gralloc.BufferTable
import GloDroid.Gralloc.BoLedger
import GloDroid.Gralloc.Geometry
import GloDroid.Gralloc.LargeEnough
import GloDroid.Gralloc.ImportGeometry
import GloDroid.Gralloc.GpuProbe
import GloDroid.Gralloc.MesaDriver
import GloDroid.Gralloc.DriverLoading
import GloDroid.Gralloc.DmabufDriver
import GloDroid.Gralloc.DmabufMemory
import GloDroid.Gralloc.DriverLifetime
import GloDroid.Gralloc.OneDriver
import GloDroid.UsbHal.Usb
import GloDroid.UsbHal.Locks
import GloDroid.UsbHal.NoDeadlock
import GloDroid.UsbHal.RoleSwitch
import GloDroid.UsbHal.UeventScan
import GloDroid.UsbHal.Typec
import GloDroid.UsbHal.PortStatus
import GloDroid.UsbHal.PortRole
import GloDroid.Egl.Surface
import GloDroid.Egl.Images
import GloDroid.Egl.BackImage
import GloDroid.Egl.ImportFailure
import GloDroid.Vibrator.Vibrator
import GloDroid.Vibrator.OffStops
import GloDroid.Vibrator.Timing
import GloDroid.Vibrator.InputSearch
import GloDroid.Vibrator.RunTime
import GloDroid.Lights.Lights
import GloDroid.Lights.Shown
import GloDroid.SdImage.AddPart
import GloDroid.SdImage.WholeImage
import GloDroid.BootScript.Commands
import GloDroid.BootScript.Script
import GloDroid.BootScript.Frames
import GloDroid.BootScript.VerifiedBoot
import GloDroid.BootScript.BootloaderRequests
import GloDroid.BootScript.FastbootFallback
import GloDroid.BootScript.Images
