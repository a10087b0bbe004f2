import SpaceBooking.Text.Blank
import SpaceBooking.Text.Decimal

/-!
# Configuration

What the service is started with. Every value has a default, which also stands in for a value that
cannot be read.
-/

namespace SpaceBooking

structure Config where
  /-- The zone of locations without one in organizations without one. -/
  fallbackZoneName : String := "UTC"
  notifyWorkers : Nat := 2
  notifyQueue : Nat := 1024
  /-- How many instances a series may have. -/
  maxSeriesInstances : Nat := 400
  metricsPort : Option Nat := none
  deriving DecidableEq

/-- Reads the configuration from named variables. Counts are 64-bit numbers, the port is a 16-bit
number; workers and queue must not be zero, and the zone name not blank. -/
def Config.ofVariables (lookup : String → Option String) : Config :=
  let default : Config := {}
  let count? (name : String) := (lookup name).bind (Text.readNat? 0x10000000000000000)
  { fallbackZoneName :=
      ((lookup "DESKBOOK_DEFAULT_TIMEZONE").filter (!Text.blank ·)).getD
        default.fallbackZoneName
    notifyWorkers := ((count? "DESKBOOK_NOTIFY_WORKERS").filter (0 < ·)).getD default.notifyWorkers
    notifyQueue := ((count? "DESKBOOK_NOTIFY_QUEUE").filter (0 < ·)).getD default.notifyQueue
    maxSeriesInstances := (count? "DESKBOOK_MAX_SERIES_INSTANCES").getD default.maxSeriesInstances
    metricsPort := (lookup "DESKBOOK_METRICS_PORT").bind (Text.readNat? 0x10000) }

end SpaceBooking
