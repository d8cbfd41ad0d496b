import ApexiDevices.Shared.Lines

set_option autoImplicit false

namespace ApexiDevices

open Device

inductive SensorFault where
  | none | underrange | overrange | adcSaturation | adcUnavailable
  deriving DecidableEq

def sensorFaultToString : SensorFault → Bytes
  | .none => ascii "none"
  | .underrange => ascii "underrange"
  | .overrange => ascii "overrange"
  | .adcSaturation => ascii "adc_saturation"
  | .adcUnavailable => ascii "adc_unavailable"

theorem sensorFaultToString_plain (fault : SensorFault) : Plain (sensorFaultToString fault) := by
  cases fault <;> decide

namespace SensorFault

def code : SensorFault → UInt8
  | none => 0
  | underrange => 1
  | overrange => 2
  | adcSaturation => 3
  | adcUnavailable => 4

-- A frame with any other code is refused before this is asked.
def ofCode (code : UInt8) : SensorFault :=
  if code = 0 then none else if code = 1 then underrange else if code = 2 then overrange
  else if code = 3 then adcSaturation else adcUnavailable

theorem ofCode_code (fault : SensorFault) : ofCode fault.code = fault := by
  cases fault <;> rfl

theorem code_le (fault : SensorFault) : fault.code ≤ adcUnavailable.code := by
  cases fault <;> decide

end SensorFault

end ApexiDevices
