import BtService.Base.ObserverList
import BtService.Hal.Types

/-
  BtService.Hal.BluetoothInterface — the HAL adapter callback multiplexer
  (`service/hal/bluetooth_interface.cpp`): `g_bluetooth_interface` behind
  `g_instance_lock`, its observer list, and the two HAL callbacks it forwards,
  `adapter_state_changed_cb` and `adapter_properties_cb`.

  The shape of `Hal.GattInterface` with one list. `Initialize` makes five HAL calls, and
  when one fails the half-built instance is destroyed; its destructor calls
  `hal_iface_->cleanup()` with no check that `hal_iface_` was set, where the GATT
  instance's destructor checks it. An installed production instance always has it set,
  and a test instance has its own destructor. A test instance is a fake whose methods are
  not in the repository; it is installed with an empty list, which the production
  callbacks reach as they reach the production instance's. Proved:
  - `reports_reach_registered`: after every run a report is dropped with no live
    instance, and otherwise reaches every observer added and not removed since, once,
    in insertion order, with its own arguments.
  - `hal_init_cleanup_paired`: what `bt_interface_t` sees over every run. Each `init`,
    successful or not, gets one `cleanup()` before the next, from the destructor of the
    half-built instance or from `CleanUp` (where the GATT interface cleans up after a
    successful `init` only).
-/

namespace BtService.Hal

open Base ObserverList

/-- A `BluetoothInterface::Observer` method call with its arguments. -/
inductive DmCb where
  | adapterStateChanged (state : BtState)
  | adapterProperties (status numProperties : Int) (properties : List BtProperty)

/-- `BluetoothInterfaceImpl`: its address, its list, and `hal_iface_`. -/
structure BluetoothInterface where
  self : Nat
  observers : ObserverList Nat
  halIface : Option Nat

namespace BluetoothInterface

structure St where
  gBluetoothInterface : Option BluetoothInterface

def init : St := ⟨none⟩

/-- What the HAL answers `BluetoothInterfaceImpl::Initialize`: the statuses of
    `hal_util_load_bt_library` and `open` (nonzero fails), what
    `get_bluetooth_interface()` returns (`nullptr` is `none`), and the statuses of `init`
    and `set_os_callouts`. -/
structure HalAnswer where
  loadStatus : Int
  openStatus : Int
  btInterface : Option Nat
  initStatus : Int
  calloutsStatus : Int

/-- `~BluetoothInterfaceImpl`: `hal_iface_->cleanup()`, `none` on a null `hal_iface_`. -/
def destroy (halIface : Option Nat) : Option Unit := halIface.map fun _ => ()

/-- `BluetoothInterfaceImpl::Initialize`, and the destruction of the instance when it
    returns `false`: `some (some iface)` on success, `some none` on a failure, `none` when
    a null `hal_iface_` is dereferenced. -/
def initializeImpl (hal : HalAnswer) : Option (Option Nat) :=
  if hal.loadStatus ≠ 0 then (destroy none).map fun _ => none
  else if hal.openStatus ≠ 0 then (destroy none).map fun _ => none
  else match hal.btInterface with
    | none => none
    | some iface =>
      if hal.initStatus ≠ btStatusSuccess then (destroy (some iface)).map fun _ => none
      else if hal.calloutsStatus ≠ btStatusSuccess then (destroy (some iface)).map fun _ => none
      else some (some iface)

/-- `BluetoothInterface::Initialize`, `impl` the address of the new instance. -/
def initializeInterface (s : St) (impl : Nat) (hal : HalAnswer) : Option (St × Bool) :=
  if s.gBluetoothInterface.isSome then none
  else (initializeImpl hal).map fun
    | none => (s, false)
    | some iface => (⟨some ⟨impl, empty, some iface⟩⟩, true)

def cleanUp (s : St) : Option St := s.gBluetoothInterface.map fun _ => ⟨none⟩

/-- `InitializeForTesting(test_instance)`: `CHECK(test_instance)` and
    `CHECK(!g_bluetooth_interface)`, then the fake in place, modelled with an empty list
    and no `hal_iface_`. The fake's own methods are not in the repository. -/
def initializeForTesting (s : St) : Option Nat → Option St
  | none => none
  | some t => if s.gBluetoothInterface.isSome then none else some ⟨some ⟨t, empty, none⟩⟩

/-- `Get()->AddObserver(observer)`. -/
def addObserver (s : St) (observer : Nat) : Option St :=
  s.gBluetoothInterface.map fun g => ⟨some { g with observers := g.observers.addObserver observer }⟩

/-- `Get()->RemoveObserver(observer)`. -/
def removeObserver (s : St) (observer : Nat) : Option St :=
  s.gBluetoothInterface.map fun g =>
    ⟨some { g with observers := g.observers.removeObserver observer }⟩

/-- What both HAL callbacks do: drop the event with no instance, otherwise
    `FOR_EACH_BLUETOOTH_OBSERVER`. -/
def forward (s : St) (c : DmCb) : List (Nat × DmCb) :=
  match s.gBluetoothInterface with
  | none => []
  | some g => g.observers.forEach fun o => (o, c)

def adapterStateChangedCallback (s : St) (state : BtState) : List (Nat × DmCb) :=
  forward s (.adapterStateChanged state)

def adapterPropertiesCallback (s : St) (status numProperties : Int)
    (properties : List BtProperty) : List (Nat × DmCb) :=
  forward s (.adapterProperties status numProperties properties)

/-- `bt_callbacks`: the two slots that forward. -/
def btCallbacks (s : St) : DmCb → List (Nat × DmCb)
  | .adapterStateChanged state => adapterStateChangedCallback s state
  | .adapterProperties status numProperties properties =>
    adapterPropertiesCallback s status numProperties properties

theorem btCallbacks_eq (s : St) (c : DmCb) : btCallbacks s c = forward s c := by
  cases c <;> rfl

/-- The instance's `Initialize`: a failed load or open, or no interface, ends on the null
    `hal_iface_`; otherwise it succeeds exactly when `init` and `set_os_callouts` do. -/
theorem initializeImpl_eq (hal : HalAnswer) :
    initializeImpl hal =
      if hal.loadStatus ≠ 0 ∨ hal.openStatus ≠ 0 ∨ hal.btInterface = none then none
      else if hal.initStatus = btStatusSuccess ∧ hal.calloutsStatus = btStatusSuccess then
        some hal.btInterface
      else some none := by
  unfold initializeImpl destroy
  by_cases hl : hal.loadStatus = 0 <;> by_cases ho : hal.openStatus = 0 <;> simp only [hl, ho,
    ne_eq, not_true_eq_false, not_false_eq_true, ↓reduceIte, Option.map_none', true_or, or_true,
    false_or]
  rcases hal.btInterface with _ | iface
  · rfl
  · by_cases hi : hal.initStatus = btStatusSuccess <;>
      by_cases hc : hal.calloutsStatus = btStatusSuccess <;> simp [hi, hc]

/-! ## Runs -/

/-- A step of a run; each holds `g_instance_lock`. -/
inductive Op where
  | initializeInterface (impl : Nat) (hal : HalAnswer)
  | initializeForTesting (testInstance : Option Nat)
  | cleanUp
  | addObserver (observer : Nat)
  | removeObserver (observer : Nat)
  | callback (c : DmCb)

def step (s : St) : Op → Option (St × List (Nat × DmCb))
  | .initializeInterface impl hal => (initializeInterface s impl hal).map fun r => (r.1, [])
  | .initializeForTesting t => (initializeForTesting s t).map (·, [])
  | .cleanUp => (cleanUp s).map (·, [])
  | .addObserver o => (addObserver s o).map (·, [])
  | .removeObserver o => (removeObserver s o).map (·, [])
  | .callback c => some (s, btCallbacks s c)

/-- A run from the start: the state and every call the callbacks made, or `none` when a
    step fails a `CHECK` or dereferences a null `hal_iface_`. -/
def run (ops : List Op) : Option (St × List (Nat × DmCb)) :=
  ops.foldlM (fun r op => (step r.1 op).map fun q => (q.1, r.2 ++ q.2)) (init, [])

theorem run_append (ops : List Op) (op : Op) :
    run (ops ++ [op]) = (run ops).bind fun r => (step r.1 op).map fun q => (q.1, r.2 ++ q.2) := by
  simp only [run, List.foldlM_append, List.foldlM_cons, List.foldlM_nil]
  cases run ops <;> simp [run]

/-- The instance `op` puts in place when it succeeds. -/
def Op.installs : Op → Option Nat
  | .initializeInterface impl hal =>
    if hal.loadStatus = 0 ∧ hal.openStatus = 0 ∧ hal.btInterface.isSome ∧
      hal.initStatus = btStatusSuccess ∧ hal.calloutsStatus = btStatusSuccess then some impl
    else none
  | .initializeForTesting t => t
  | _ => none

def Op.reg : Op → Option (Reg Nat)
  | .addObserver o => some (.add o)
  | .removeObserver o => some (.remove o)
  | _ => none

/-- The live instance after one more step, with the steps made since it was installed. -/
def Op.track (l : Option (Nat × List Op)) (op : Op) : Option (Nat × List Op) :=
  match op.installs, op with
  | some g, _ => some (g, [])
  | none, .cleanUp => none
  | none, _ => l.map fun (g, h) => (g, h ++ [op])

def live (ops : List Op) : Option (Nat × List Op) := ops.foldl Op.track none

/-- The state is what `live` says: the same instance, its list built by the calls made on
    it since it was installed. -/
def Agrees (s : St) (l : Option (Nat × List Op)) : Prop :=
  s.gBluetoothInterface.map (fun g => (g.self, g.observers)) =
    l.map fun (self, h) => (self, replay (h.filterMap Op.reg))

/-- `Initialize` installs what its instance's `Initialize` succeeds with. -/
theorem installs_initializeInterface (impl : Nat) (hal : HalAnswer) :
    (Op.initializeInterface impl hal).installs =
      (initializeImpl hal).bind fun r => r.map fun _ => impl := by
  rw [Op.installs, initializeImpl_eq]
  by_cases hl : hal.loadStatus = 0 <;> by_cases ho : hal.openStatus = 0 <;> simp only [hl, ho,
    ne_eq, not_true_eq_false, not_false_eq_true, ↓reduceIte, Option.none_bind, true_or, or_true,
    false_or, false_and, true_and, and_false]
  rcases hal.btInterface with _ | iface
  · rfl
  · by_cases hi : hal.initStatus = btStatusSuccess <;>
      by_cases hc : hal.calloutsStatus = btStatusSuccess <;> simp [hi, hc]

/-- One step keeps the state what `live` says. -/
theorem step_agrees {s s' : St} {l : Option (Nat × List Op)} {op : Op}
    {out : List (Nat × DmCb)} (ha : Agrees s l) (hs : step s op = some (s', out)) :
    Agrees s' (Op.track l op) := by
  have hnone : s.gBluetoothInterface = none → l = none := by
    intro hg; rcases l with _ | _ <;> simp_all [Agrees]
  cases op with
  | initializeInterface impl hal =>
    rcases hg : s.gBluetoothInterface with _ | g
    · cases hnone hg
      rcases hi : initializeImpl hal with _ | _ | iface <;>
        simp [step, initializeInterface, hg, hi] at hs <;> obtain ⟨rfl, -⟩ := hs
      · simpa [Agrees, Op.track, installs_initializeInterface, hi] using hg
      · simp [Agrees, Op.track, installs_initializeInterface, hi, replay]
    · simp [step, initializeInterface, hg] at hs
  | initializeForTesting t =>
    rcases hg : s.gBluetoothInterface with _ | g <;> rcases t with _ | t <;>
      simp [step, initializeForTesting, hg] at hs
    obtain ⟨rfl, -⟩ := hs
    cases hnone hg
    simp [Agrees, Op.track, Op.installs, replay]
  | cleanUp =>
    rcases hg : s.gBluetoothInterface with _ | g <;> simp [step, cleanUp, hg] at hs
    obtain ⟨rfl, -⟩ := hs
    rfl
  | addObserver o | removeObserver o =>
    rcases hg : s.gBluetoothInterface with _ | g <;>
      simp [step, addObserver, removeObserver, hg] at hs
    obtain ⟨rfl, -⟩ := hs
    rcases l with _ | ⟨self, h⟩ <;>
      simp_all [Agrees, Op.track, Op.installs, replay, List.filterMap_append, Op.reg, apply]
  | callback c =>
    obtain ⟨rfl, -⟩ := Prod.mk.inj (Option.some.inj hs)
    rcases l with _ | ⟨self, h⟩ <;> simp_all [Agrees, Op.track, Op.installs, Op.reg]

theorem live_step (ops : List Op) (op : Op) : live (ops ++ [op]) = Op.track (live ops) op :=
  List.foldl_append ..

/-- After every run the state is what `live` says. -/
theorem run_agrees {ops : List Op} {s : St} {out : List (Nat × DmCb)}
    (h : run ops = some (s, out)) : Agrees s (live ops) := by
  induction ops using List.reverseRecOn generalizing s out with
  | nil =>
    obtain ⟨rfl, -⟩ := Prod.mk.inj (Option.some.inj h.symm)
    rfl
  | append_singleton ops op ih =>
    rw [run_append] at h
    obtain ⟨⟨s0, out0⟩, h0, h1⟩ := Option.bind_eq_some.mp h
    obtain ⟨⟨s1, out1⟩, h2, h3⟩ := Option.map_eq_some'.mp h1
    cases h3
    rw [live_step]
    exact step_agrees (ih h0) h2

/-! ## Dispatch -/

/-- After every run, a HAL report leaves the state as it is; with no live instance it
    reaches no one, and with one it reaches each observer added to that instance and not
    removed since, once, in insertion order, with its own arguments. -/
theorem reports_reach_registered (ops : List Op) (s : St) (out : List (Nat × DmCb))
    (hrun : run ops = some (s, out)) (c : DmCb) :
    step s (.callback c) = some (s, match live ops with
      | none => []
      | some (_, h) => (registered (h.filterMap Op.reg)).map fun o => (o, c)) := by
  have ha : Agrees s (live ops) := run_agrees hrun
  simp only [step, btCallbacks_eq, forward]
  rcases hg : s.gBluetoothInterface with _ | g <;> rcases hl : live ops with _ | ⟨self, h⟩ <;>
    simp_all [Agrees, forEach, replay_observers, Function.comp_def]

/-- A production instance after a successful `Initialize`, an observer added twice and
    another added and removed: a report reaches the first once. -/
theorem reports_reach_registered_after_initialize :
    run [.initializeInterface 5 ⟨0, 0, some 9, 0, 0⟩, .addObserver 1, .addObserver 2,
        .addObserver 1, .removeObserver 2] = some (⟨some ⟨5, empty.addObserver 1, some 9⟩⟩, []) ∧
    step ⟨some ⟨5, empty.addObserver 1, some 9⟩⟩ (.callback (.adapterStateChanged .on)) =
      some (⟨some ⟨5, empty.addObserver 1, some 9⟩⟩,
        match live [.initializeInterface 5 ⟨0, 0, some 9, 0, 0⟩, .addObserver 1, .addObserver 2,
            .addObserver 1, .removeObserver 2] with
        | none => []
        | some (_, h) => (registered (h.filterMap Op.reg)).map fun o => (o, .adapterStateChanged .on)) :=
  ⟨rfl, reports_reach_registered [.initializeInterface 5 ⟨0, 0, some 9, 0, 0⟩, .addObserver 1,
    .addObserver 2, .addObserver 1, .removeObserver 2] _ [] rfl _⟩

/-! ## What the HAL sees -/

/-- A call on the HAL's `bt_interface_t`, with the status it answered. -/
inductive HalCall where
  | init (status : Int)
  | setOsCallouts (status : Int)
  | cleanup

/-- The calls `BluetoothInterfaceImpl::Initialize` makes on `bt_interface_t`, with the
    destructor's `cleanup()` when it returns `false`; none when the run ends first. -/
def initializeImplCalls (hal : HalAnswer) : List HalCall :=
  if hal.loadStatus ≠ 0 then []
  else if hal.openStatus ≠ 0 then []
  else match hal.btInterface with
    | none => []
    | some _ =>
      if hal.initStatus ≠ btStatusSuccess then [.init hal.initStatus, .cleanup]
      else if hal.calloutsStatus ≠ btStatusSuccess then
        [.init hal.initStatus, .setOsCallouts hal.calloutsStatus, .cleanup]
      else [.init hal.initStatus, .setOsCallouts hal.calloutsStatus]

/-- The calls a step makes on `bt_interface_t`. `CleanUp` deletes the instance: a
    production one calls `cleanup()`, a test instance runs its own destructor. -/
def Op.halCalls (s : St) : Op → List HalCall
  | .initializeInterface _ hal =>
    if s.gBluetoothInterface.isSome then [] else initializeImplCalls hal
  | .cleanUp => match s.gBluetoothInterface with
    | some g => g.halIface.toList.map fun _ => .cleanup
    | none => []
  | _ => []

/-- A run with the calls it makes on `bt_interface_t`. -/
def runHal (ops : List Op) : Option (St × List HalCall) :=
  ops.foldlM (fun r op => (step r.1 op).map fun q => (q.1, r.2 ++ op.halCalls r.1)) (init, [])

theorem runHal_append (ops : List Op) (op : Op) :
    runHal (ops ++ [op]) =
      (runHal ops).bind fun r => (step r.1 op).map fun q => (q.1, r.2 ++ op.halCalls r.1) := by
  simp only [runHal, List.foldlM_append, List.foldlM_cons, List.foldlM_nil]
  cases runHal ops <;> simp [runHal]

/-- What the HAL has been through: `some true` while an `init` awaits its `cleanup()`,
    `some false` when none does, `none` once a call came out of that order. -/
def halOpen : Option Bool → HalCall → Option Bool
  | some false, .init _ => some true
  | some true, .setOsCallouts _ => some true
  | some true, .cleanup => some false
  | _, _ => none

/-- A production instance, whose `hal_iface_` the HAL initialized, is live. -/
def productionLive (s : St) : Bool := s.gBluetoothInterface.any fun g => g.halIface.isSome

/-- Whatever `Initialize` returns, its calls take the HAL from closed to open exactly when
    it returns an interface. -/
theorem initializeImplCalls_open {hal : HalAnswer} {r : Option Nat}
    (h : initializeImpl hal = some r) :
    (initializeImplCalls hal).foldl halOpen (some false) = some r.isSome := by
  obtain ⟨ls, os, _ | iface, is, cs⟩ := hal <;>
    by_cases hl : ls = 0 <;> by_cases ho : os = 0 <;>
    simp [initializeImpl, destroy, initializeImplCalls, hl, ho] at h ⊢
  by_cases hi : is = btStatusSuccess <;> by_cases hc : cs = btStatusSuccess <;>
    simp_all [halOpen]
  simp [← h]

/-- One step takes the HAL from open to closed or back exactly as it installs or deletes a
    production instance. -/
theorem halCalls_step {s s' : St} {op : Op} {out : List (Nat × DmCb)}
    (hs : step s op = some (s', out)) :
    (op.halCalls s).foldl halOpen (some (productionLive s)) = some (productionLive s') := by
  cases op with
  | initializeInterface impl hal =>
    rcases hg : s.gBluetoothInterface with _ | g <;>
      simp only [step, initializeInterface, hg, Option.isSome_none, Option.isSome_some,
        Bool.false_eq_true, ↓reduceIte, Option.map_map, Option.map_eq_some',
        Function.comp_apply] at hs
    · obtain ⟨_ | iface, hr, he⟩ := hs <;> cases he <;>
        simp [Op.halCalls, hg, productionLive, initializeImplCalls_open hr]
    · simp at hs
  | initializeForTesting t =>
    rcases hg : s.gBluetoothInterface with _ | g <;> rcases t with _ | t <;>
      simp [step, initializeForTesting, hg] at hs
    obtain ⟨rfl, -⟩ := hs
    simp [Op.halCalls, hg, productionLive]
  | cleanUp =>
    rcases hg : s.gBluetoothInterface with _ | g <;> simp [step, cleanUp, hg] at hs
    obtain ⟨rfl, -⟩ := hs
    rcases hi : g.halIface with _ | iface <;> simp [Op.halCalls, hg, productionLive, hi, halOpen]
  | addObserver o | removeObserver o =>
    rcases hg : s.gBluetoothInterface with _ | g <;>
      simp [step, addObserver, removeObserver, hg] at hs
    obtain ⟨rfl, -⟩ := hs
    simp [Op.halCalls, hg, productionLive]
  | callback c =>
    obtain ⟨rfl, -⟩ := Prod.mk.inj (Option.some.inj hs)
    rfl

/-- Over every run, the service calls `init` on `bt_interface_t` only when no earlier
    `init` awaits its `cleanup()`, and `set_os_callouts` and `cleanup()` only when one does:
    each `init`, successful or not, gets one `cleanup()` before the next. An `init` awaits
    its `cleanup()` exactly when a production instance is live. -/
theorem hal_init_cleanup_paired {ops : List Op} {s : St} {out : List (Nat × DmCb)}
    (h : run ops = some (s, out)) :
    ∃ cs, runHal ops = some (s, cs) ∧ cs.foldl halOpen (some false) = some (productionLive s) := by
  induction ops using List.reverseRecOn generalizing s out with
  | nil =>
    obtain ⟨rfl, -⟩ := Prod.mk.inj (Option.some.inj h.symm)
    exact ⟨[], rfl, rfl⟩
  | append_singleton ops op ih =>
    rw [run_append] at h
    obtain ⟨⟨s0, out0⟩, h0, h1⟩ := Option.bind_eq_some.mp h
    obtain ⟨⟨s1, out1⟩, h2, h3⟩ := Option.map_eq_some'.mp h1
    cases h3
    obtain ⟨cs, hr, hc⟩ := ih h0
    refine ⟨cs ++ op.halCalls s0, by simp [runHal_append, hr, h2], ?_⟩
    rw [List.foldl_append, hc, halCalls_step h2]

/-- An `Initialize` whose `init` fails, one that succeeds, an observer, `CleanUp`, and a test
    instance. -/
theorem hal_init_cleanup_paired_on_retry :
    run [.initializeInterface 1 ⟨0, 0, some 9, 1, 0⟩, .initializeInterface 2 ⟨0, 0, some 9, 0, 0⟩,
        .addObserver 3, .cleanUp, .initializeForTesting (some 4)] =
      some (⟨some ⟨4, empty, none⟩⟩, []) ∧
    ∃ cs, runHal [.initializeInterface 1 ⟨0, 0, some 9, 1, 0⟩,
        .initializeInterface 2 ⟨0, 0, some 9, 0, 0⟩, .addObserver 3, .cleanUp,
        .initializeForTesting (some 4)] = some (⟨some ⟨4, empty, none⟩⟩, cs) ∧
      cs.foldl halOpen (some false) = some (productionLive ⟨some ⟨4, empty, none⟩⟩) :=
  ⟨rfl, hal_init_cleanup_paired rfl⟩

end BluetoothInterface

end BtService.Hal
