import BtService.Adapter.State

/-
  BtService.Adapter.Properties — `AdapterPropertiesCallback`, `GetAddress` and
  `IsMultiAdvertisementSupported` (`service/adapter.cpp`).

  The callback walks the first `num_properties` entries of the HAL's array (none when
  `num_properties ≤ 0`) and, on `BT_STATUS_SUCCESS` only, stores the address, the name
  and the LE features they carry. `BtAddrString` (`service/logging_helpers.cpp`, not in
  the repository) is a parameter, and so is the layout of `bt_local_le_features_t`.

  Proved (`properties_keep_last`): for every status, count and array, the address, the
  name and the LE features become those of the last entry of their kind, an LE-features
  entry counting only when its length is `sizeof(bt_local_le_features_t)`, or stay as
  they were; nothing else changes, and `IsMultiAdvertisementSupported` afterwards reads
  the last well-formed LE-features entry. Over any sequence of reports
  (`properties_after_reports`) each field is that of the last entry of its kind among all
  the entries the successful reports carried.
-/

namespace BtService

open Hal

namespace Adapter

def kMinAdvInstancesForMultiAdv : Nat := 5

def getAddress (a : Adapter) : String := a.address

def isMultiAdvertisementSupported (L : LeFeaturesLayout) (a : Adapter) : Bool :=
  (a.localLeFeatures.getD L.maxAdvInstance 0).toNat ≥ kMinAdvInstancesForMultiAdv

/-- The `std::string` of the bytes `b`. -/
def stdString (b : List UInt8) : String := String.mk (b.map fun c => Char.ofNat c.toNat)

/-- The `std::string` a `char*` makes: the bytes up to the first NUL. -/
def cString (b : List UInt8) : String :=
  String.mk ((b.takeWhile (· ≠ 0)).map fun c => Char.ofNat c.toNat)

theorem cString_eq_stdString (b : List UInt8) :
    cString b = stdString (b.takeWhile (· ≠ 0)) := rfl

section Callback

variable (L : LeFeaturesLayout) (btAddrString : List UInt8 → String)

/-- The loop's body, for one entry. -/
def handleProperty (a : Adapter) (property : BtProperty) : Adapter :=
  match property.type with
  | .bdaddr => { a with address := btAddrString property.val }
  | .bdname => { a with name := cString property.val }
  | .localLeFeatures =>
    if property.len ≠ L.size then a else { a with localLeFeatures := property.val.take L.size }
  | .other _ => a

def adapterPropertiesCallback (a : Adapter) (status numProperties : Int)
    (properties : List BtProperty) : Adapter :=
  if status ≠ btStatusSuccess then a
  else (properties.take numProperties.toNat).foldl (handleProperty L btAddrString) a

/-! ## The last entry of each kind -/

/-- The last entry of `ps` that `q` accepts. -/
def lastOf (q : BtProperty → Bool) (ps : List BtProperty) : Option BtProperty :=
  (ps.filter q).getLast?

/-- An LE-features entry of the right length. -/
def wellFormedLeFeatures (p : BtProperty) : Bool :=
  p.type = .localLeFeatures ∧ p.len = L.size

/-- What the entries `ps` leave in `a`: each field from the last entry of its kind. -/
def keepLast (a : Adapter) (ps : List BtProperty) : Adapter :=
  { a with
    address := ((lastOf (·.type = .bdaddr) ps).map fun p => btAddrString p.val).getD a.address
    name := ((lastOf (·.type = .bdname) ps).map fun p => stdString (p.val.takeWhile (· ≠ 0))).getD
      a.name
    localLeFeatures := ((lastOf (wellFormedLeFeatures L) ps).map fun p => p.val.take L.size).getD
      a.localLeFeatures }

theorem lastOf_append (q : BtProperty → Bool) (ps : List BtProperty) (p : BtProperty) :
    lastOf q (ps ++ [p]) = if q p then some p else lastOf q ps := by
  by_cases h : q p <;> simp [lastOf, List.filter_append, h, List.getLast?_append]

theorem foldl_handleProperty (a : Adapter) (ps : List BtProperty) :
    ps.foldl (handleProperty L btAddrString) a = keepLast L btAddrString a ps := by
  induction ps using List.reverseRecOn with
  | nil => rfl
  | append_singleton ps p ih =>
    rw [List.foldl_append, ih]
    obtain ⟨type, len, val⟩ := p
    cases type <;>
      by_cases hl : len = L.size <;>
      simp [handleProperty, keepLast, lastOf_append, wellFormedLeFeatures, hl, cString_eq_stdString]

/-- The callback leaves the state and the observers as they are. -/
theorem adapterPropertiesCallback_frame (a : Adapter) (status numProperties : Int)
    (properties : List BtProperty) :
    (adapterPropertiesCallback L btAddrString a status numProperties properties).state = a.state ∧
    (adapterPropertiesCallback L btAddrString a status numProperties properties).observers =
      a.observers := by
  unfold adapterPropertiesCallback
  split
  · exact ⟨rfl, rfl⟩
  · rw [foldl_handleProperty]; exact ⟨rfl, rfl⟩

theorem properties_keep_last (a : Adapter) (status numProperties : Int)
    (properties : List BtProperty) :
    adapterPropertiesCallback L btAddrString a status numProperties properties =
      (if status ≠ btStatusSuccess then a
       else keepLast L btAddrString a (properties.take numProperties.toNat)) ∧
    isMultiAdvertisementSupported L
        (adapterPropertiesCallback L btAddrString a status numProperties properties) =
      if status ≠ btStatusSuccess then isMultiAdvertisementSupported L a
      else match lastOf (wellFormedLeFeatures L) (properties.take numProperties.toNat) with
        | some p => ((p.val.take L.size).getD L.maxAdvInstance 0).toNat ≥ kMinAdvInstancesForMultiAdv
        | none => isMultiAdvertisementSupported L a := by
  have h := foldl_handleProperty L btAddrString a (properties.take numProperties.toNat)
  unfold adapterPropertiesCallback
  by_cases hs : status = btStatusSuccess
  · rcases hl : lastOf (wellFormedLeFeatures L) (properties.take numProperties.toNat) with _ | p <;>
      simp [hs, h, isMultiAdvertisementSupported, keepLast, hl]
  · simp [hs]

/-! ## A sequence of reports -/

/-- The entries a sequence of `adapter_properties_cb` reports `(status, num_properties,
    properties)` hands the loop: the first `num_properties` of each successful one. -/
def reportedEntries (rs : List (Int × Int × List BtProperty)) : List BtProperty :=
  (rs.filter fun r => r.1 = btStatusSuccess).flatMap fun r => r.2.2.take r.2.1.toNat

theorem foldl_adapterPropertiesCallback (a : Adapter) (rs : List (Int × Int × List BtProperty)) :
    rs.foldl (fun a r => adapterPropertiesCallback L btAddrString a r.1 r.2.1 r.2.2) a =
      (reportedEntries rs).foldl (handleProperty L btAddrString) a := by
  induction rs generalizing a with
  | nil => rfl
  | cons r rs ih =>
    rw [List.foldl_cons, ih]
    by_cases hs : r.1 = btStatusSuccess <;>
      simp [reportedEntries, adapterPropertiesCallback, hs, List.filter_cons]

/-- Over any sequence of `adapter_properties_cb` reports, the address, the name and the LE
    features are those of the last entry of their kind, an LE-features entry counting only
    with the right length, among the entries the successful reports carried, each report
    counting its first `num_properties`; reports that failed change nothing, and so does
    the rest of the adapter. -/
theorem properties_after_reports (a : Adapter) (rs : List (Int × Int × List BtProperty)) :
    rs.foldl (fun a r => adapterPropertiesCallback L btAddrString a r.1 r.2.1 r.2.2) a =
      keepLast L btAddrString a (reportedEntries rs) := by
  rw [foldl_adapterPropertiesCallback, foldl_handleProperty]

end Callback

end Adapter

end BtService
