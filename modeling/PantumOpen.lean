import PantumOpen.Scan.FeederJob
import PantumOpen.Scan.Config
import PantumOpen.Scan.HandleIndependence
import PantumOpen.Scan.ImageRun
import PantumOpen.Scan.JobIsolation
import PantumOpen.Scan.ParameterFreeze
import PantumOpen.Scan.ReadSizes
import PantumOpen.Scan.QueueMemory
import PantumOpen.Scan.CancelRace
import PantumOpen.Scan.DeviceOwnership
import PantumOpen.Scan.Leftovers
import PantumOpen.Scan.BilevelRun
import PantumOpen.Scan.Retries
import PantumOpen.Scan.Snapping
import PantumOpen.Scan.OptionEffects
import PantumOpen.Scan.BlockBounds
import PantumOpen.Scan.Refusal
import PantumOpen.Print.Accounting
import PantumOpen.Print.Geometry
import PantumOpen.Print.Interrupt
import PantumOpen.Print.Reference
import PantumOpen.Print.PageMemory
import PantumOpen.Scan.DitherBalance
import PantumOpen.Scan.DitherSwap
import PantumOpen.Scan.DitherFilling
import PantumOpen.Print.PageBuffer
import PantumOpen.Print.PrintedSheets
import PantumOpen.Print.PrototypeJob
import PantumOpen.Print.DumpSound
import PantumOpen.Status.Boundaries
import PantumOpen.Status.Subscription
import PantumOpen.Status.ReadMemory
import PantumOpen.Print.Options
