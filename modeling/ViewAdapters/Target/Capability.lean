import ViewAdapters.Order.SortedSet

/-!
# Capabilities

Optional features of a target platform whose imports stand in an adapter only
if a member needs them.

* `Capability.name_injective`: capabilities are told apart by their names.
-/

namespace ViewAdapters

inductive Capability where
  | dateTime
  | geo
  | identifier
  | threadDispatch
  | device
  | resourceLocator
  deriving DecidableEq, Repr

namespace Capability

def all : List Capability := [.dateTime, .geo, .identifier, .threadDispatch, .device,
  .resourceLocator]

def name : Capability → String
  | .dateTime => "date_time"
  | .geo => "geo"
  | .identifier => "identifier"
  | .threadDispatch => "thread_dispatch"
  | .device => "device"
  | .resourceLocator => "resource_locator"

theorem name_injective : Function.Injective name := by
  intro a b
  cases a <;> cases b <;> decide

def ofName? (s : String) : Option Capability := all.find? fun c => c.name == s

end Capability

abbrev CapabilitySet := SortedSet Capability.name

/-- Imported names, each sorted by itself. -/
abbrev ImportSet := SortedSet fun line : String => line

end ViewAdapters
