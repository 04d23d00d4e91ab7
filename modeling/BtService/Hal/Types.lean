/-
  BtService.Hal.Types — the HAL's data as the service reads it (`hardware/bluetooth.h`,
  `hardware/bt_gatt.h`; neither is in the repository). Status codes are the `int` the
  HAL returns; the code only ever compares one with `BT_STATUS_SUCCESS`. Structures the
  service copies without looking inside (`bt_uuid_t`, `bt_bdaddr_t`,
  `btgatt_srvc_id_t`) are their bytes.
-/

namespace BtService.Hal

/-- `BT_STATUS_SUCCESS`; every other status is a failure. -/
def btStatusSuccess : Int := 0

/-- `bt_uuid_t`. -/
structure BtUuid where
  uu : List UInt8
  deriving DecidableEq, Repr

/-- `bt_bdaddr_t`. -/
structure BtBdaddr where
  address : List UInt8
  deriving DecidableEq, Repr

/-- `btgatt_srvc_id_t`. -/
structure BtgattSrvcId where
  bytes : List UInt8
  deriving DecidableEq, Repr

/-- `bt_state_t`: what `adapter_state_changed_cb` reports. -/
inductive BtState where
  | off
  | on
  deriving DecidableEq, Repr

/-- `bt_property_type_t`: the three types `AdapterPropertiesCallback` handles, and any
    other one (`other n`), which it only logs. -/
inductive BtPropertyType where
  | bdname
  | bdaddr
  | localLeFeatures
  | other (type : Nat)
  deriving DecidableEq, Repr

/-- `bt_property_t`: a type, the length the HAL gives, and the bytes `val` points to. -/
structure BtProperty where
  type : BtPropertyType
  len : Int
  val : List UInt8
  deriving DecidableEq, Repr

end BtService.Hal
