import ViewAdapters.Model.DateSemantics
import ViewAdapters.Model.Platform
import ViewAdapters.Target.Capability

/-!
# Types of the target platforms

Which type a scalar kind or a meaning of dates has on each platform, and which
capability and import the name of a target type brings with it.

* `dateType_capability`: the type of every meaning of dates brings that capability.
-/

namespace ViewAdapters.Target

/-- The type that stands in for a scalar without a mapping. -/
def fallbackType : String := "Any"

def androidScalars : List (String × String) := [
  ("string", "String"), ("bool", "Boolean"), ("char", "Char"), ("int8", "Byte"),
  ("uint8", "UByte"), ("int16", "Short"), ("int32", "Int"), ("int64", "Long"),
  ("float", "Float"), ("double", "Double"), ("decimal", "Double"),
  ("datetime", "LocalDateTime"), ("datetimeoffset", "OffsetDateTime"),
  ("timespan", "Duration"), ("uuid", "UUID"), ("uri", "URI"), ("bytes", "ByteArray")]

def iosScalars : List (String × String) := [
  ("string", "String"), ("bool", "Bool"), ("char", "Character"), ("int8", "Int8"),
  ("uint8", "UInt8"), ("int16", "Int16"), ("int32", "Int32"), ("int64", "Int64"),
  ("float", "Float"), ("double", "Double"), ("decimal", "Double"), ("datetime", "Date"),
  ("datetimeoffset", "Date"), ("timespan", "TimeInterval"), ("uuid", "UUID"),
  ("uri", "URL"), ("bytes", "[UInt8]")]

def scalars : Platform → List (String × String)
  | .android => androidScalars
  | .ios => iosScalars

/-- The type that carries dates of a meaning. -/
def dateType : Platform → DateSemantics → String
  | .android, .localDateTime => "LocalDateTime"
  | .android, .utcInstant => "Instant"
  | .android, .dateOnly => "LocalDate"
  | .android, .timeOnly => "LocalTime"
  | .android, .duration => "Duration"
  | .android, .zonedDateTime => "ZonedDateTime"
  | .ios, .localDateTime => "Date"
  | .ios, .utcInstant => "Date"
  | .ios, .dateOnly => "DateComponents"
  | .ios, .timeOnly => "DateComponents"
  | .ios, .duration => "TimeInterval"
  | .ios, .zonedDateTime => "Date"

/-- A capability and the import that makes it available. -/
structure Requirement where
  capability : Capability
  importLine : String
  deriving DecidableEq, Repr

def androidRequirements : List (String × Requirement) := [
  ("LocalDateTime", ⟨.dateTime, "java.time.LocalDateTime"⟩),
  ("Instant", ⟨.dateTime, "java.time.Instant"⟩),
  ("LocalDate", ⟨.dateTime, "java.time.LocalDate"⟩),
  ("LocalTime", ⟨.dateTime, "java.time.LocalTime"⟩),
  ("Duration", ⟨.dateTime, "java.time.Duration"⟩),
  ("ZonedDateTime", ⟨.dateTime, "java.time.ZonedDateTime"⟩),
  ("OffsetDateTime", ⟨.dateTime, "java.time.OffsetDateTime"⟩),
  ("LatLng", ⟨.geo, "com.google.android.gms.maps.model.LatLng"⟩),
  ("Location", ⟨.geo, "android.location.Location"⟩),
  ("UUID", ⟨.identifier, "java.util.UUID"⟩),
  ("CameraDevice", ⟨.device, "android.hardware.camera2.CameraDevice"⟩),
  ("Size", ⟨.device, "android.util.Size"⟩),
  ("URI", ⟨.resourceLocator, "java.net.URI"⟩)]

def iosRequirements : List (String × Requirement) := [
  ("Date", ⟨.dateTime, "Foundation"⟩),
  ("DateComponents", ⟨.dateTime, "Foundation"⟩),
  ("TimeInterval", ⟨.dateTime, "Foundation"⟩),
  ("CLLocationCoordinate2D", ⟨.geo, "CoreLocation"⟩),
  ("CLLocation", ⟨.geo, "CoreLocation"⟩),
  ("UUID", ⟨.identifier, "Foundation"⟩),
  ("AVCaptureDevice", ⟨.device, "AVFoundation"⟩),
  ("CGSize", ⟨.device, "CoreGraphics"⟩),
  ("URL", ⟨.resourceLocator, "Foundation"⟩)]

def requirements : Platform → List (String × Requirement)
  | .android => androidRequirements
  | .ios => iosRequirements

/-- What the name of a target type brings with it. -/
def requirement? (platform : Platform) (typeName : String) : Option Requirement :=
  (requirements platform).lookup typeName

/-- The import of the code that dispatches to a thread. -/
def dispatchImport : Platform → String
  | .android => "kotlinx.coroutines.Dispatchers"
  | .ios => "Dispatch"

theorem dateType_capability (platform : Platform) (semantics : DateSemantics) :
    (requirement? platform (dateType platform semantics)).map Requirement.capability =
      some .dateTime := by
  cases platform <;> cases semantics <;> decide

end ViewAdapters.Target
