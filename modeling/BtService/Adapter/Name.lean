import BtService.Adapter.Properties

/-
  BtService.Adapter.Name — `Adapter::SetName` and `Adapter::SetAdapterProperty`
  (`service/adapter.cpp`), and the name they hand the HAL as it comes back through
  `AdapterPropertiesCallback`.

  `SetName` copies the name into a `bt_bdname_t` with `strncpy` and hands the HAL a
  `BT_PROPERTY_BDNAME` property of the whole struct; it does not store the name. The
  adapter learns its name only from the HAL's `adapter_properties_cb`, whose `BDNAME`
  entry `AdapterPropertiesCallback` reads as a C string. A `std::string` is its bytes;
  the size of `bt_bdname_t::name` is a parameter, like the layout of
  `bt_local_le_features_t`.

  Proved (`setName_round_trip`): `SetName` rejects a name of the buffer's size or longer
  with no HAL call; otherwise it hands the HAL one `BDNAME` property of the buffer's size
  and returns whether the HAL accepted it, and when the HAL reports that property back,
  last of its kind, `GetName()` is the name cut at its first NUL byte, the whole name
  when it has none.
-/

namespace BtService

open Hal

namespace Adapter

def getName (a : Adapter) : String := a.name

/-- `strncpy(dst, src, n)`: the bytes of `src` before its first NUL, at most `n`, padded
    with NULs to `n` bytes, over the first `n` bytes of `dst`. -/
def strncpy (dst src : List UInt8) (n : Nat) : List UInt8 :=
  let s := (src.takeWhile (· ≠ 0)).take n
  s ++ List.replicate (n - s.length) 0 ++ dst.drop n

/-- `SetAdapterProperty(type, value, length)`, the HAL's `set_adapter_property` answering
    `status`: the property handed to the HAL and the return value; `none` on a failed
    `CHECK`. -/
def setAdapterProperty (type : BtPropertyType) (value : Option (List UInt8)) (length : Int)
    (status : Int) : Option (BtProperty × Bool) :=
  if ¬ length > 0 then none
  else value.map fun v => (⟨type, length, v⟩, decide (status = btStatusSuccess))

/-- `SetName(name)`, `hal_name` holding the bytes `stack` before the copy and the buffer
    `bt_bdname_t::name` being `maxNameLen` bytes: the property handed to the HAL, if any,
    and the return value. -/
def setName (maxNameLen : Nat) (name stack : List UInt8) (status : Int) :
    Option (Option BtProperty × Bool) :=
  if name.length ≥ maxNameLen then some (none, false)
  else
    let halName := strncpy stack (name ++ [0]) (name.length + 1)
    (setAdapterProperty .bdname (some halName) maxNameLen status).map fun r => (some r.1, r.2)

/-- `SetName` never fails a `CHECK`: the length it hands `SetAdapterProperty` is the
    buffer's size, positive whenever the name fits. -/
theorem setName_isSome (maxNameLen : Nat) (name stack : List UInt8) (status : Int) :
    (setName maxNameLen name stack status).isSome := by
  unfold setName
  split
  · rfl
  · simp [setAdapterProperty]
    omega

/-! ## The copy and the read -/

theorem takeWhile_append_nul (b : List UInt8) :
    (b ++ [0]).takeWhile (· ≠ 0) = b.takeWhile (· ≠ 0) := by
  induction b with
  | nil => rfl
  | cons c b ih => rw [List.cons_append, List.takeWhile_cons, List.takeWhile_cons, ih]

/-- `strncpy` with room for the NUL: the C string of the copy is that of the source. -/
theorem takeWhile_strncpy (dst src : List UInt8) (n : Nat)
    (hn : (src.takeWhile (· ≠ 0)).length < n) :
    (strncpy dst src n).takeWhile (· ≠ 0) = src.takeWhile (· ≠ 0) := by
  have hpad : n - (src.takeWhile (· ≠ 0)).length = (n - (src.takeWhile (· ≠ 0)).length - 1) + 1 := by
    omega
  rw [strncpy, List.take_of_length_le hn.le, List.append_assoc,
    List.takeWhile_append_of_pos fun _ => List.mem_takeWhile_imp, hpad,
    List.replicate_succ, List.cons_append, List.takeWhile_cons_of_neg (by simp), List.append_nil]

/-- The C string of `name` copied with its NUL by `strncpy` is `name` up to its first NUL. -/
theorem cString_strncpy (stack name : List UInt8) :
    cString (strncpy stack (name ++ [0]) (name.length + 1)) = stdString (name.takeWhile (· ≠ 0)) := by
  have hlen : (name.takeWhile (· ≠ 0)).length < name.length + 1 :=
    Nat.lt_succ_of_le (List.takeWhile_prefix _).length_le
  rw [cString_eq_stdString, takeWhile_strncpy _ _ _ (by rwa [takeWhile_append_nul]),
    takeWhile_append_nul]

theorem lastOf_of_last {q : BtProperty → Bool} {p : BtProperty} (pre post : List BtProperty)
    (hp : q p) (hpost : ∀ x ∈ post, ¬ q x) : lastOf q (pre ++ p :: post) = some p := by
  simp [lastOf, List.filter_append, List.filter_cons, hp, List.filter_eq_nil_iff.mpr hpost,
    List.getLast?_append]

/-- A successful report whose last `BDNAME` entry is `p` leaves the name `p`'s C string. -/
theorem getName_of_last_bdname (L : LeFeaturesLayout) (btAddrString : List UInt8 → String)
    (a : Adapter) (pre post : List BtProperty) {p : BtProperty} (hp : p.type = .bdname)
    (hpost : ∀ q ∈ post, q.type ≠ .bdname) :
    (adapterPropertiesCallback L btAddrString a btStatusSuccess (pre ++ p :: post).length
      (pre ++ p :: post)).getName = cString p.val := by
  rw [adapterPropertiesCallback, if_neg (by simp), Int.toNat_ofNat, List.take_length,
    foldl_handleProperty]
  simp [getName, keepLast, lastOf_of_last (q := (·.type = .bdname)) pre post (by simpa using hp)
    (by simpa using hpost), cString_eq_stdString]

/-- `SetName` never fails a `CHECK`; it rejects a name of the buffer's size or longer with
    no HAL call, and otherwise hands the HAL one `BDNAME` property of the buffer's size and
    returns whether the HAL accepted it. When the HAL reports that property back in a
    successful `adapter_properties_cb`, last among the `BDNAME` entries, `GetName()` is the
    name up to its first NUL byte. -/
theorem setName_round_trip (L : LeFeaturesLayout) (btAddrString : List UInt8 → String)
    (maxNameLen : Nat) (name stack : List UInt8) (status : Int) (a : Adapter)
    (pre post : List BtProperty) (hpost : ∀ q ∈ post, q.type ≠ .bdname) :
    match setName maxNameLen name stack status with
    | some (some p, ok) =>
      name.length < maxNameLen ∧ ok = decide (status = btStatusSuccess) ∧ p.type = .bdname ∧
        p.len = maxNameLen ∧
        (adapterPropertiesCallback L btAddrString a btStatusSuccess (pre ++ p :: post).length
          (pre ++ p :: post)).getName = stdString (name.takeWhile (· ≠ 0))
    | some (none, ok) => maxNameLen ≤ name.length ∧ ok = false
    | none => False := by
  by_cases hl : name.length ≥ maxNameLen
  · simp only [setName, hl, ↓reduceIte, and_self]
  · simp only [setName, hl, setAdapterProperty, ↓reduceIte, Option.map_some',
      show (0 : Int) < maxNameLen by omega, not_true_eq_false, true_and]
    exact ⟨by omega, (getName_of_last_bdname L btAddrString a pre post rfl hpost).trans
      (cString_strncpy stack name)⟩

/-- A name of five bytes with a NUL in the middle, over a buffer of eight: the HAL gets the
    whole buffer and the echo reads the name up to the NUL. -/
theorem setName_round_trip_at_nul :
    (∀ q ∈ ([⟨.other 9, 1, [1]⟩] : List BtProperty), q.type ≠ .bdname) ∧
    match setName 8 [104, 105, 0, 106, 107] [1, 2, 3, 4, 5, 6, 7, 8] 0 with
    | some (some p, ok) =>
      [104, 105, 0, 106, 107].length < 8 ∧ ok = decide ((0 : Int) = btStatusSuccess) ∧
        p.type = .bdname ∧ p.len = (8 : Nat) ∧
        (adapterPropertiesCallback ⟨4, 1, by decide⟩ (fun _ => "") (new ⟨4, 1, by decide⟩)
          btStatusSuccess ([] ++ p :: [⟨.other 9, 1, [1]⟩]).length
          ([] ++ p :: [⟨.other 9, 1, [1]⟩])).getName =
          stdString ([104, 105, 0, 106, 107].takeWhile (· ≠ 0))
    | some (none, ok) => 8 ≤ [104, 105, 0, 106, 107].length ∧ ok = false
    | none => False :=
  ⟨by decide, setName_round_trip ⟨4, 1, by decide⟩ (fun _ => "") 8 [104, 105, 0, 106, 107]
    [1, 2, 3, 4, 5, 6, 7, 8] 0 (new ⟨4, 1, by decide⟩) [] [⟨.other 9, 1, [1]⟩] (by decide)⟩

end Adapter

end BtService
