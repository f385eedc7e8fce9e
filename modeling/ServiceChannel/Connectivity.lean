/-!
# Connectivity

The network reachability of a container: which of its two uplinks, mobile and WiFi, are up.

- `ofCode?_eq_some_iff`: reading a wire number accepts exactly the four numbers.
-/

namespace ServiceChannel

/-- Which uplinks of a container are up. -/
inductive Connectivity where
  | offline
  | mobileOnly
  | wifiOnly
  | mobileAndWifi
  deriving DecidableEq

namespace Connectivity

/-- Every value, in the order of the wire numbers. -/
def all : List Connectivity := [.offline, .mobileOnly, .wifiOnly, .mobileAndWifi]

/-- Some uplink is up. -/
def isOnline : Connectivity → Bool
  | .offline => false
  | _ => true

/-- The mobile uplink is up. -/
def hasMobile : Connectivity → Bool
  | .mobileOnly | .mobileAndWifi => true
  | _ => false

/-- The WiFi uplink is up. -/
def hasWifi : Connectivity → Bool
  | .wifiOnly | .mobileAndWifi => true
  | _ => false

/-! ## Names -/

/-- The name in log lines and on the command line. -/
def name : Connectivity → String
  | .offline => "offline"
  | .mobileOnly => "mobile"
  | .wifiOnly => "wifi"
  | .mobileAndWifi => "mobile+wifi"

/-- The value of a name. -/
def ofName? (text : String) : Option Connectivity := all.find? (·.name = text)

/-- The constructor as it is spelled in a description of a value. -/
def label : Connectivity → String
  | .offline => "Offline"
  | .mobileOnly => "MobileOnly"
  | .wifiOnly => "WifiOnly"
  | .mobileAndWifi => "MobileAndWifi"

/-! ## Wire numbers -/

/-- The number on the wire. -/
def code : Connectivity → Int32
  | .offline => 1
  | .mobileOnly => 2
  | .wifiOnly => 3
  | .mobileAndWifi => 4

/-- The value of a wire number. -/
def ofCode? (number : Int32) : Option Connectivity := all.find? (·.code = number)

/-- The name of the wire number in the schema. -/
def schemaName : Connectivity → String
  | .offline => "OFFLINE"
  | .mobileOnly => "MOBILE_ONLY"
  | .wifiOnly => "WIFI_ONLY"
  | .mobileAndWifi => "MOBILE_AND_WIFI"

/-- The value of a schema name. -/
def ofSchemaName? (text : String) : Option Connectivity := all.find? (·.schemaName = text)

/-! ## Laws -/

@[simp] theorem ofCode?_code (c : Connectivity) : ofCode? c.code = some c := by cases c <;> rfl

theorem ofCode?_eq_some_iff {number : Int32} {c : Connectivity} :
    ofCode? number = some c ↔ number = c.code := by
  constructor
  · intro h
    have := List.find?_some h
    simp only [decide_eq_true_eq] at this
    exact this.symm
  · rintro rfl
    exact ofCode?_code c

end Connectivity
end ServiceChannel
