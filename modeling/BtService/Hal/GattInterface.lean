import BtService.Base.ObserverList
import BtService.Hal.Types

/-
  BtService.Hal.GattInterface — the HAL GATT callback multiplexer
  (`service/hal/bluetooth_gatt_interface.cpp`): the process-wide instance `g_interface`
  behind `g_instance_lock`, its client and server observer lists, and the fourteen HAL
  callbacks that fan an event out to them.

  Every step holds `g_instance_lock`, so a run is a sequence of steps: `Initialize` with
  any answer from the HAL, `InitializeForTesting`, `CleanUp`, the four observer calls,
  and the HAL callbacks. A step that fails a `CHECK` ends the run (`none`). Observer
  methods add or remove no observers, so a dispatch is the list of calls its
  `FOR_EACH_*_OBSERVER` makes (`Invocation`). A test instance is a fake whose methods
  are not in the repository; it is installed with empty lists, which the production
  callbacks reach as they reach the production instance's.

  What the multiplexer is for, stated over the run (`live`): the instance in place is
  the one the last successful `Initialize` or `InitializeForTesting` installed, unless a
  `CleanUp` came after, and its lists are what the observer calls made since then built
  (`ObserverList.registered`). Proved:
  - `run_agrees`: after every run the instance and its lists are those of `live`;
  - `isInitialized_iff_live`: so `IsInitialized()` says whether `live` has an instance;
  - `callbacks_reach_registered`: with no live instance a callback is dropped; with one, a
    client-role callback calls the same-named `ClientObserver` method, with `gatt_iface`
    the instance and the callback's own arguments, on every observer added to the client
    list and not removed since, once each, in insertion order, and on no server observer;
    a server-role callback does the same with the server list;
  - `gatt_hal_init_cleanup_paired`: what `btgatt_interface_t` sees over every run. Each
    successful `init` gets one `cleanup()`, from `CleanUp`, before the next `init`; a
    failed `init` gets none, since `hal_iface_` is set only after `init` succeeds.
-/

namespace BtService.Hal

open Base ObserverList

/-! ## Callbacks and observer calls -/

/-- A client-role HAL callback with its arguments. `ptr` is `Option` for the HAL's
    `T*` arguments and `Id` for what an observer receives as `const T&`. -/
inductive ClientCb (ptr : Type → Type) where
  | registerClient (status clientIf : Int) (appUuid : ptr BtUuid)
  | multiAdvEnable (clientIf status : Int)
  | multiAdvUpdate (clientIf status : Int)
  | multiAdvData (clientIf status : Int)
  | multiAdvDisable (clientIf status : Int)

/-- A server-role HAL callback with its arguments; `value` is passed on as a pointer. -/
inductive ServerCb (ptr : Type → Type) where
  | registerServer (status serverIf : Int) (appUuid : ptr BtUuid)
  | connection (connId serverIf connected : Int) (bda : ptr BtBdaddr)
  | serviceAdded (status serverIf : Int) (srvcId : ptr BtgattSrvcId) (srvcHandle : Int)
  | characteristicAdded (status serverIf : Int) (uuid : ptr BtUuid) (srvcHandle charHandle : Int)
  | descriptorAdded (status serverIf : Int) (uuid : ptr BtUuid) (srvcHandle descHandle : Int)
  | serviceStarted (status serverIf srvcHandle : Int)
  | serviceStopped (status serverIf srvcHandle : Int)
  | requestRead (connId transId : Int) (bda : ptr BtBdaddr) (attrHandle offset : Int) (isLong : Bool)
  | requestWrite (connId transId : Int) (bda : ptr BtBdaddr) (attrHandle offset length : Int)
      (needRsp isPrep : Bool) (value : Option (List UInt8))
  | requestExecWrite (connId transId : Int) (bda : ptr BtBdaddr) (execWrite : Int)

/-- The same-named observer method's arguments: the callback's own, every pointer
    dereferenced; `none` when one is null. -/
def ClientCb.deref : ClientCb Option → Option (ClientCb Id)
  | .registerClient status clientIf appUuid => appUuid.map (.registerClient status clientIf)
  | .multiAdvEnable clientIf status => some (.multiAdvEnable clientIf status)
  | .multiAdvUpdate clientIf status => some (.multiAdvUpdate clientIf status)
  | .multiAdvData clientIf status => some (.multiAdvData clientIf status)
  | .multiAdvDisable clientIf status => some (.multiAdvDisable clientIf status)

/-- As `ClientCb.deref`, for the server role. -/
def ServerCb.deref : ServerCb Option → Option (ServerCb Id)
  | .registerServer status serverIf appUuid => appUuid.map (.registerServer status serverIf)
  | .connection connId serverIf connected bda => bda.map (.connection connId serverIf connected)
  | .serviceAdded status serverIf srvcId srvcHandle =>
    srvcId.map (.serviceAdded status serverIf · srvcHandle)
  | .characteristicAdded status serverIf uuid srvcHandle charHandle =>
    uuid.map (.characteristicAdded status serverIf · srvcHandle charHandle)
  | .descriptorAdded status serverIf uuid srvcHandle descHandle =>
    uuid.map (.descriptorAdded status serverIf · srvcHandle descHandle)
  | .serviceStarted status serverIf srvcHandle => some (.serviceStarted status serverIf srvcHandle)
  | .serviceStopped status serverIf srvcHandle => some (.serviceStopped status serverIf srvcHandle)
  | .requestRead connId transId bda attrHandle offset isLong =>
    bda.map (.requestRead connId transId · attrHandle offset isLong)
  | .requestWrite connId transId bda attrHandle offset length needRsp isPrep value =>
    bda.map (.requestWrite connId transId · attrHandle offset length needRsp isPrep value)
  | .requestExecWrite connId transId bda execWrite =>
    bda.map (.requestExecWrite connId transId · execWrite)

/-- One call a dispatch makes: the observer, `gatt_iface`, and the method with its
    arguments. -/
inductive Invocation where
  | client (observer gattIface : Nat) (cb : ClientCb Id)
  | server (observer gattIface : Nat) (cb : ServerCb Id)

/-! ## The instance -/

/-- `BluetoothGattInterfaceImpl`: its address (what observers receive as `gatt_iface`),
    its lists, and `hal_iface_`. -/
structure GattInterface where
  self : Nat
  clientObservers : ObserverList Nat
  serverObservers : ObserverList Nat
  halIface : Option Nat

namespace GattInterface

structure St where
  gInterface : Option GattInterface

def init : St := ⟨none⟩

/-- What the HAL answers `Initialize`: `GetHALInterface()`, what
    `get_profile_interface(BT_PROFILE_GATT_ID)` returns (`nullptr` is `none`), and
    `init`'s status. -/
structure HalAnswer where
  btIface : Option Nat
  gattIface : Option Nat
  initStatus : Int

/-- `BluetoothGattInterface::Initialize`, `impl` the address of the new
    `BluetoothGattInterfaceImpl`. -/
def initializeInterface (s : St) (impl : Nat) (hal : HalAnswer) : Option (St × Bool) :=
  if s.gInterface.isSome then none
  else match hal.btIface, hal.gattIface with
    | none, _ => none
    | some _, none => some (s, false)
    | some _, some gatt =>
      if hal.initStatus ≠ btStatusSuccess then some (s, false)
      else some (⟨some ⟨impl, empty, empty, some gatt⟩⟩, true)

def cleanUp (s : St) : Option St := s.gInterface.map fun _ => ⟨none⟩

def isInitialized (s : St) : Bool := s.gInterface.isSome

/-- `InitializeForTesting(test_instance)`: `CHECK(test_instance)` and `CHECK(!g_interface)`,
    then the fake in place, modelled with empty lists and no `hal_iface_`. The fake's own
    methods are not in the repository. -/
def initializeForTesting (s : St) : Option Nat → Option St
  | none => none
  | some t => if s.gInterface.isSome then none else some ⟨some ⟨t, empty, empty, none⟩⟩

/-- `Get()->f(observer)` for one of the four observer calls, `f` its effect on the
    instance. -/
def withInstance (s : St) (f : GattInterface → GattInterface) : Option St :=
  s.gInterface.map fun g => ⟨some (f g)⟩

def addClientObserver (s : St) (observer : Nat) : Option St :=
  withInstance s fun g => { g with clientObservers := g.clientObservers.addObserver observer }

def removeClientObserver (s : St) (observer : Nat) : Option St :=
  withInstance s fun g => { g with clientObservers := g.clientObservers.removeObserver observer }

def addServerObserver (s : St) (observer : Nat) : Option St :=
  withInstance s fun g => { g with serverObservers := g.serverObservers.addObserver observer }

def removeServerObserver (s : St) (observer : Nat) : Option St :=
  withInstance s fun g => { g with serverObservers := g.serverObservers.removeObserver observer }

/-! ## The callbacks -/

/-- What every client-role callback does: `VERIFY_INTERFACE_OR_RETURN()`, the `CHECK` on
    its pointer argument (`call` is `none` when it fails), `FOR_EACH_CLIENT_OBSERVER`. -/
def clientCallback (s : St) (call : Option (ClientCb Id)) : Option (List Invocation) :=
  match s.gInterface with
  | none => some []
  | some g => call.map fun c => g.clientObservers.forEach fun o => .client o g.self c

/-- As `clientCallback`, with `FOR_EACH_SERVER_OBSERVER`. -/
def serverCallback (s : St) (call : Option (ServerCb Id)) : Option (List Invocation) :=
  match s.gInterface with
  | none => some []
  | some g => call.map fun c => g.serverObservers.forEach fun o => .server o g.self c

def registerClientCallback (s : St) (status clientIf : Int) (appUuid : Option BtUuid) :=
  clientCallback s (appUuid.map fun u => .registerClient status clientIf u)

def multiAdvEnableCallback (s : St) (clientIf status : Int) :=
  clientCallback s (some (.multiAdvEnable clientIf status))

def multiAdvUpdateCallback (s : St) (clientIf status : Int) :=
  clientCallback s (some (.multiAdvUpdate clientIf status))

def multiAdvDataCallback (s : St) (clientIf status : Int) :=
  clientCallback s (some (.multiAdvData clientIf status))

def multiAdvDisableCallback (s : St) (clientIf status : Int) :=
  clientCallback s (some (.multiAdvDisable clientIf status))

def registerServerCallback (s : St) (status serverIf : Int) (appUuid : Option BtUuid) :=
  serverCallback s (appUuid.map fun u => .registerServer status serverIf u)

def connectionCallback (s : St) (connId serverIf connected : Int) (bda : Option BtBdaddr) :=
  serverCallback s (bda.map fun a => .connection connId serverIf connected a)

def serviceAddedCallback (s : St) (status serverIf : Int) (srvcId : Option BtgattSrvcId)
    (srvcHandle : Int) :=
  serverCallback s (srvcId.map fun i => .serviceAdded status serverIf i srvcHandle)

def characteristicAddedCallback (s : St) (status serverIf : Int) (uuid : Option BtUuid)
    (srvcHandle charHandle : Int) :=
  serverCallback s (uuid.map fun u => .characteristicAdded status serverIf u srvcHandle charHandle)

def descriptorAddedCallback (s : St) (status serverIf : Int) (uuid : Option BtUuid)
    (srvcHandle descHandle : Int) :=
  serverCallback s (uuid.map fun u => .descriptorAdded status serverIf u srvcHandle descHandle)

def serviceStartedCallback (s : St) (status serverIf srvcHandle : Int) :=
  serverCallback s (some (.serviceStarted status serverIf srvcHandle))

def serviceStoppedCallback (s : St) (status serverIf srvcHandle : Int) :=
  serverCallback s (some (.serviceStopped status serverIf srvcHandle))

def requestReadCallback (s : St) (connId transId : Int) (bda : Option BtBdaddr)
    (attrHandle offset : Int) (isLong : Bool) :=
  serverCallback s (bda.map fun a => .requestRead connId transId a attrHandle offset isLong)

def requestWriteCallback (s : St) (connId transId : Int) (bda : Option BtBdaddr)
    (attrHandle offset length : Int) (needRsp isPrep : Bool) (value : Option (List UInt8)) :=
  serverCallback s (bda.map fun a =>
    .requestWrite connId transId a attrHandle offset length needRsp isPrep value)

def requestExecWriteCallback (s : St) (connId transId : Int) (bda : Option BtBdaddr)
    (execWrite : Int) :=
  serverCallback s (bda.map fun a => .requestExecWrite connId transId a execWrite)

/-- `gatt_client_callbacks`: the slots the service fills. -/
def gattClientCallbacks (s : St) : ClientCb Option → Option (List Invocation)
  | .registerClient status clientIf appUuid => registerClientCallback s status clientIf appUuid
  | .multiAdvEnable clientIf status => multiAdvEnableCallback s clientIf status
  | .multiAdvUpdate clientIf status => multiAdvUpdateCallback s clientIf status
  | .multiAdvData clientIf status => multiAdvDataCallback s clientIf status
  | .multiAdvDisable clientIf status => multiAdvDisableCallback s clientIf status

/-- `gatt_server_callbacks`: the slots the service fills. -/
def gattServerCallbacks (s : St) : ServerCb Option → Option (List Invocation)
  | .registerServer status serverIf appUuid => registerServerCallback s status serverIf appUuid
  | .connection connId serverIf connected bda => connectionCallback s connId serverIf connected bda
  | .serviceAdded status serverIf srvcId srvcHandle =>
    serviceAddedCallback s status serverIf srvcId srvcHandle
  | .characteristicAdded status serverIf uuid srvcHandle charHandle =>
    characteristicAddedCallback s status serverIf uuid srvcHandle charHandle
  | .descriptorAdded status serverIf uuid srvcHandle descHandle =>
    descriptorAddedCallback s status serverIf uuid srvcHandle descHandle
  | .serviceStarted status serverIf srvcHandle => serviceStartedCallback s status serverIf srvcHandle
  | .serviceStopped status serverIf srvcHandle => serviceStoppedCallback s status serverIf srvcHandle
  | .requestRead connId transId bda attrHandle offset isLong =>
    requestReadCallback s connId transId bda attrHandle offset isLong
  | .requestWrite connId transId bda attrHandle offset length needRsp isPrep value =>
    requestWriteCallback s connId transId bda attrHandle offset length needRsp isPrep value
  | .requestExecWrite connId transId bda execWrite =>
    requestExecWriteCallback s connId transId bda execWrite

/-- Every client-role callback forwards its own arguments, in their order. -/
theorem gattClientCallbacks_eq (s : St) (cb : ClientCb Option) :
    gattClientCallbacks s cb = clientCallback s cb.deref := by
  cases cb <;> rfl

/-- Every server-role callback forwards its own arguments, in their order. -/
theorem gattServerCallbacks_eq (s : St) (cb : ServerCb Option) :
    gattServerCallbacks s cb = serverCallback s cb.deref := by
  cases cb <;> rfl

/-! ## Runs -/

/-- A step of a run; each holds `g_instance_lock`. -/
inductive Op where
  | initializeInterface (impl : Nat) (hal : HalAnswer)
  | initializeForTesting (testInstance : Option Nat)
  | cleanUp
  | addClientObserver (observer : Nat)
  | removeClientObserver (observer : Nat)
  | addServerObserver (observer : Nat)
  | removeServerObserver (observer : Nat)
  | client (cb : ClientCb Option)
  | server (cb : ServerCb Option)

def step (s : St) : Op → Option (St × List Invocation)
  | .initializeInterface impl hal => (initializeInterface s impl hal).map fun r => (r.1, [])
  | .initializeForTesting t => (initializeForTesting s t).map (·, [])
  | .cleanUp => (cleanUp s).map (·, [])
  | .addClientObserver o => (addClientObserver s o).map (·, [])
  | .removeClientObserver o => (removeClientObserver s o).map (·, [])
  | .addServerObserver o => (addServerObserver s o).map (·, [])
  | .removeServerObserver o => (removeServerObserver s o).map (·, [])
  | .client cb => (gattClientCallbacks s cb).map (s, ·)
  | .server cb => (gattServerCallbacks s cb).map (s, ·)

/-- A run from the start: the state and every call the callbacks made, or `none` when a
    step fails a `CHECK`. -/
def run (ops : List Op) : Option (St × List Invocation) :=
  ops.foldlM (fun r op => (step r.1 op).map fun q => (q.1, r.2 ++ q.2)) (init, [])

theorem run_append (ops : List Op) (op : Op) :
    run (ops ++ [op]) = (run ops).bind fun r => (step r.1 op).map fun q => (q.1, r.2 ++ q.2) := by
  simp only [run, List.foldlM_append, List.foldlM_cons, List.foldlM_nil]
  cases run ops <;> simp [run]

/-! ## What the multiplexer is for -/

/-- The instance `op` puts in place when it succeeds. -/
def Op.installs : Op → Option Nat
  | .initializeInterface impl hal =>
    if hal.btIface.isSome ∧ hal.gattIface.isSome ∧ hal.initStatus = btStatusSuccess then some impl
    else none
  | .initializeForTesting t => t
  | _ => none

def Op.clientReg : Op → Option (Reg Nat)
  | .addClientObserver o => some (.add o)
  | .removeClientObserver o => some (.remove o)
  | _ => none

def Op.serverReg : Op → Option (Reg Nat)
  | .addServerObserver o => some (.add o)
  | .removeServerObserver o => some (.remove o)
  | _ => none

/-- The live instance after one more step, with the steps made since it was installed. -/
def Op.track (l : Option (Nat × List Op)) (op : Op) : Option (Nat × List Op) :=
  match op.installs, op with
  | some g, _ => some (g, [])
  | none, .cleanUp => none
  | none, _ => l.map fun (g, h) => (g, h ++ [op])

/-- The instance the last successful install put in place, unless a `CleanUp` came after,
    and the steps since. -/
def live (ops : List Op) : Option (Nat × List Op) := ops.foldl Op.track none

/-- The state is what `live` says: the same instance, its lists built by the calls made
    on it since it was installed. -/
def Agrees (s : St) : Option (Nat × List Op) → Prop
  | none => s.gInterface = none
  | some (self, h) => ∃ g, s.gInterface = some g ∧ g.self = self ∧
      g.clientObservers = replay (h.filterMap Op.clientReg) ∧
      g.serverObservers = replay (h.filterMap Op.serverReg)

theorem agrees_of_none {s : St} {l : Option (Nat × List Op)} (ha : Agrees s l)
    (hg : s.gInterface = none) : l = none := by
  rcases l with _ | ⟨self, h⟩
  · rfl
  · obtain ⟨g, hg', -⟩ := ha; simp [hg] at hg'

theorem agrees_of_some {s : St} {l : Option (Nat × List Op)} {g : GattInterface}
    (ha : Agrees s l) (hg : s.gInterface = some g) :
    ∃ h, l = some (g.self, h) ∧ g.clientObservers = replay (h.filterMap Op.clientReg) ∧
      g.serverObservers = replay (h.filterMap Op.serverReg) := by
  rcases l with _ | ⟨self, h⟩
  · simp [Agrees, hg] at ha
  · obtain ⟨g', hg', rfl, hc, hv⟩ := ha
    cases hg.symm.trans hg'
    exact ⟨h, rfl, hc, hv⟩

/-- A step that installs nothing and is not `CleanUp` adds itself to the live history. -/
theorem track_of_keeps {l : Option (Nat × List Op)} {op : Op} (hi : op.installs = none)
    (hc : op ≠ .cleanUp) : Op.track l op = l.map fun (g, h) => (g, h ++ [op]) := by
  unfold Op.track; rw [hi]; split <;> simp_all

theorem filterMap_singleton_toList {α β : Type} (f : α → Option β) (a : α) :
    [a].filterMap f = (f a).toList := by
  cases h : f a <;> simp [List.filterMap_cons, h]

/-- A step on a live instance that installs nothing and is not `CleanUp` agrees when it
    applies to the lists its own calls on them. -/
theorem agrees_track_some {s s' : St} {l : Option (Nat × List Op)} {g g' : GattInterface}
    {op : Op} (ha : Agrees s l) (hg : s.gInterface = some g) (hg' : s'.gInterface = some g')
    (hi : op.installs = none) (hc : op ≠ .cleanUp) (hself : g'.self = g.self)
    (hcl : g'.clientObservers = op.clientReg.toList.foldl apply g.clientObservers)
    (hsv : g'.serverObservers = op.serverReg.toList.foldl apply g.serverObservers) :
    Agrees s' (Op.track l op) := by
  obtain ⟨h, rfl, hc', hv'⟩ := agrees_of_some ha hg
  rw [track_of_keeps hi hc]
  refine ⟨g', hg', hself, ?_, ?_⟩
  · rw [hcl, hc', List.filterMap_append, replay, replay, List.foldl_append,
      filterMap_singleton_toList]
  · rw [hsv, hv', List.filterMap_append, replay, replay, List.foldl_append,
      filterMap_singleton_toList]

/-- One step keeps the state what `live` says. -/
theorem step_agrees {s s' : St} {l : Option (Nat × List Op)} {op : Op} {out : List Invocation}
    (ha : Agrees s l) (hs : step s op = some (s', out)) : Agrees s' (Op.track l op) := by
  cases op with
  | initializeInterface impl hal =>
    rcases hg : s.gInterface with _ | g
    · cases agrees_of_none ha hg
      obtain ⟨_ | bt, gatt, st⟩ := hal
      · simp [step, initializeInterface, hg] at hs
      by_cases hok : gatt.isSome ∧ st = btStatusSuccess
      · obtain ⟨⟨gatt, rfl⟩, hst⟩ := And.imp_left Option.isSome_iff_exists.mp hok
        simp [step, initializeInterface, hg, hst] at hs
        obtain ⟨rfl, -⟩ := hs
        simp [Op.track, Op.installs, hst, Agrees, replay]
      · have : s' = s := by
          rcases gatt with _ | gatt <;> simp_all [step, initializeInterface, eq_comm]
        subst this
        simpa [Op.track, Op.installs, hok, Agrees] using hg
    · simp [step, initializeInterface, hg] at hs
  | initializeForTesting t =>
    rcases hg : s.gInterface with _ | g
    · cases agrees_of_none ha hg
      rcases t with _ | t <;> simp [step, initializeForTesting, hg] at hs
      obtain ⟨rfl, -⟩ := hs
      simp [Op.track, Op.installs, Agrees, replay]
    · rcases t with _ | t <;> simp [step, initializeForTesting, hg] at hs
  | cleanUp =>
    rcases hg : s.gInterface with _ | g <;> simp [step, cleanUp, hg] at hs
    obtain ⟨rfl, -⟩ := hs
    rfl
  | addClientObserver o | removeClientObserver o | addServerObserver o | removeServerObserver o =>
    rcases hg : s.gInterface with _ | g <;>
      simp [step, addClientObserver, removeClientObserver, addServerObserver,
        removeServerObserver, withInstance, hg] at hs
    obtain ⟨rfl, -⟩ := hs
    exact agrees_track_some ha hg rfl rfl (by simp) rfl rfl rfl
  | client cb | server cb =>
    simp only [step, Option.map_eq_some'] at hs
    obtain ⟨_, -, rfl, -⟩ := hs
    rcases hg : s.gInterface with _ | g
    · cases agrees_of_none ha hg
      exact hg
    · exact agrees_track_some ha hg hg rfl (by simp) rfl rfl rfl

theorem live_step (ops : List Op) (op : Op) : live (ops ++ [op]) = Op.track (live ops) op :=
  List.foldl_append ..

/-- After every run the state is what `live` says. -/
theorem run_agrees {ops : List Op} {s : St} {out : List Invocation}
    (h : run ops = some (s, out)) : Agrees s (live ops) := by
  induction ops using List.reverseRecOn generalizing s out with
  | nil =>
    obtain ⟨rfl, -⟩ := Prod.mk.inj (Option.some.inj h.symm)
    rfl
  | append_singleton ops op ih =>
    rw [run_append] at h
    obtain ⟨⟨s0, out0⟩, h0, h1⟩ := Option.bind_eq_some.mp h
    obtain ⟨⟨s1, out1⟩, h2, h3⟩ := Option.map_eq_some'.mp h1
    cases h3
    rw [live_step]
    exact step_agrees (ih h0) h2

/-- After every run, `IsInitialized()` says whether an instance installed by the last
    successful `Initialize` or `InitializeForTesting` is in place, with no `CleanUp` since. -/
theorem isInitialized_iff_live {ops : List Op} {s : St} {out : List Invocation}
    (h : run ops = some (s, out)) : isInitialized s = (live ops).isSome := by
  have ha := run_agrees h
  rcases hg : s.gInterface with _ | g
  · simp [isInitialized, hg, agrees_of_none ha hg]
  · obtain ⟨_, hl, -⟩ := agrees_of_some ha hg
    simp [isInitialized, hg, hl]

/-- A test instance cleaned up, then a production `Initialize` whose `init` fails. -/
theorem isInitialized_after_failed_init :
    run [.initializeForTesting (some 7), .cleanUp, .initializeInterface 3 ⟨some 1, some 2, 1⟩] =
      some (⟨none⟩, []) ∧
    isInitialized ⟨none⟩ =
      (live [.initializeForTesting (some 7), .cleanUp, .initializeInterface 3 ⟨some 1, some 2, 1⟩]).isSome :=
  ⟨rfl, isInitialized_iff_live rfl⟩

/-! ## Dispatch -/

/-- What a HAL callback does after the run `ops` reached `s`. With no live instance it is
    dropped. With instance `g` installed and steps `h` since, a callback of either role
    calls its same-named method, with `g` as `gatt_iface` and its own arguments, on the
    observers `registered` by that role's list calls in `h` and on no others: each
    observer added and not removed since, once, in insertion order. A null pointer
    argument fails its `CHECK`. -/
def DispatchLaw (ops : List Op) (s : St) : Prop :=
  match live ops with
  | none => (∀ cb, step s (.client cb) = some (s, [])) ∧ ∀ cb, step s (.server cb) = some (s, [])
  | some (g, h) =>
    ((registered (h.filterMap Op.clientReg)).Nodup ∧
      (∀ o, o ∈ registered (h.filterMap Op.clientReg) ↔ Live (h.filterMap Op.clientReg) o) ∧
      ∀ cb, step s (.client cb) = cb.deref.map fun c =>
        (s, (registered (h.filterMap Op.clientReg)).map fun o => .client o g c)) ∧
    ((registered (h.filterMap Op.serverReg)).Nodup ∧
      (∀ o, o ∈ registered (h.filterMap Op.serverReg) ↔ Live (h.filterMap Op.serverReg) o) ∧
      ∀ cb, step s (.server cb) = cb.deref.map fun c =>
        (s, (registered (h.filterMap Op.serverReg)).map fun o => .server o g c))

theorem callbacks_reach_registered (ops : List Op) (s : St) (out : List Invocation)
    (hrun : run ops = some (s, out)) : DispatchLaw ops s := by
  have ha := run_agrees hrun
  unfold DispatchLaw
  rcases hg : s.gInterface with _ | g
  · rw [agrees_of_none ha hg]
    exact ⟨fun cb => by simp [step, gattClientCallbacks_eq, clientCallback, hg],
      fun cb => by simp [step, gattServerCallbacks_eq, serverCallback, hg]⟩
  · obtain ⟨h, hl, hc, hv⟩ := agrees_of_some ha hg
    rw [hl]
    refine ⟨⟨registered_nodup _, mem_registered _, fun cb => ?_⟩,
      ⟨registered_nodup _, mem_registered _, fun cb => ?_⟩⟩
    · simp [step, gattClientCallbacks_eq, clientCallback, hg, forEach, hc, replay_observers,
        Option.map_map, Function.comp_def]
    · simp [step, gattServerCallbacks_eq, serverCallback, hg, forEach, hv, replay_observers,
        Option.map_map, Function.comp_def]

/-- A production instance after a successful `Initialize`, with two client observers,
    one added twice, and a server observer added and removed. -/
theorem callbacks_reach_registered_after_initialize :
    run [.initializeInterface 7 ⟨some 8, some 9, 0⟩, .addClientObserver 1, .addClientObserver 2,
        .addClientObserver 1, .addServerObserver 3, .removeServerObserver 3] =
      some (⟨some ⟨7, (empty.addObserver 1).addObserver 2, empty, some 9⟩⟩, []) ∧
    DispatchLaw [.initializeInterface 7 ⟨some 8, some 9, 0⟩, .addClientObserver 1,
        .addClientObserver 2, .addClientObserver 1, .addServerObserver 3, .removeServerObserver 3]
      ⟨some ⟨7, (empty.addObserver 1).addObserver 2, empty, some 9⟩⟩ :=
  ⟨rfl, callbacks_reach_registered _ _ _ rfl⟩

/-! ## What the HAL sees -/

/-- A call on the HAL's `btgatt_interface_t`, with the status it answered. -/
inductive HalCall where
  | init (status : Int)
  | cleanup

/-- The calls `BluetoothGattInterfaceImpl::Initialize` makes on `btgatt_interface_t`. On
    a failure its destructor finds `hal_iface_` still null and calls nothing. -/
def initializeImplCalls (hal : HalAnswer) : List HalCall :=
  match hal.btIface, hal.gattIface with
  | some _, some _ => [.init hal.initStatus]
  | _, _ => []

/-- The calls a step makes on `btgatt_interface_t`. `CleanUp` deletes the instance: a
    production one calls `cleanup()` when its `hal_iface_` is set, a test instance runs its
    own destructor. -/
def Op.halCalls (s : St) : Op → List HalCall
  | .initializeInterface _ hal => if s.gInterface.isSome then [] else initializeImplCalls hal
  | .cleanUp => match s.gInterface with
    | some g => g.halIface.toList.map fun _ => .cleanup
    | none => []
  | _ => []

/-- A run with the calls it makes on `btgatt_interface_t`. -/
def runHal (ops : List Op) : Option (St × List HalCall) :=
  ops.foldlM (fun r op => (step r.1 op).map fun q => (q.1, r.2 ++ op.halCalls r.1)) (init, [])

theorem runHal_append (ops : List Op) (op : Op) :
    runHal (ops ++ [op]) =
      (runHal ops).bind fun r => (step r.1 op).map fun q => (q.1, r.2 ++ op.halCalls r.1) := by
  simp only [runHal, List.foldlM_append, List.foldlM_cons, List.foldlM_nil]
  cases runHal ops <;> simp [runHal]

/-- What the HAL has been through: `some true` from a successful `init` to its
    `cleanup()`, `some false` otherwise, `none` once a call came out of that order. A
    failed `init` leaves it as it was. -/
def halOpen : Option Bool → HalCall → Option Bool
  | some false, .init status => some (status = btStatusSuccess)
  | some true, .cleanup => some false
  | _, _ => none

/-- A production instance, whose `hal_iface_` the HAL initialized, is live. -/
def productionLive (s : St) : Bool := s.gInterface.any fun g => g.halIface.isSome

theorem halCalls_step {s s' : St} {op : Op} {out : List Invocation}
    (hs : step s op = some (s', out)) :
    (op.halCalls s).foldl halOpen (some (productionLive s)) = some (productionLive s') := by
  cases op with
  | initializeInterface impl hal =>
    rcases hg : s.gInterface with _ | g
    · obtain ⟨_ | bt, _ | gatt, st⟩ := hal <;> by_cases hst : st = btStatusSuccess <;>
        simp [step, initializeInterface, hg, hst] at hs <;> obtain ⟨rfl, -⟩ := hs <;>
        simp [Op.halCalls, initializeImplCalls, hg, hst, productionLive, halOpen]
    · simp [step, initializeInterface, hg] at hs
  | initializeForTesting t =>
    rcases hg : s.gInterface with _ | g <;> rcases t with _ | t <;>
      simp [step, initializeForTesting, hg] at hs
    obtain ⟨rfl, -⟩ := hs
    simp [Op.halCalls, hg, productionLive]
  | cleanUp =>
    rcases hg : s.gInterface with _ | g <;> simp [step, cleanUp, hg] at hs
    obtain ⟨rfl, -⟩ := hs
    rcases hi : g.halIface with _ | iface <;> simp [Op.halCalls, hg, productionLive, hi, halOpen]
  | addClientObserver o | removeClientObserver o | addServerObserver o | removeServerObserver o =>
    rcases hg : s.gInterface with _ | g <;>
      simp [step, addClientObserver, removeClientObserver, addServerObserver,
        removeServerObserver, withInstance, hg] at hs
    obtain ⟨rfl, -⟩ := hs
    simp [Op.halCalls, hg, productionLive]
  | client cb | server cb =>
    simp only [step, Option.map_eq_some'] at hs
    obtain ⟨_, -, rfl, -⟩ := hs
    rfl

/-- Over every run, the service calls `init` on `btgatt_interface_t` only when no earlier
    successful `init` awaits its `cleanup()`, and `cleanup()` only when one does: each
    successful `init` gets one `cleanup()` before the next `init`, and a failed one none.
    A successful `init` awaits its `cleanup()` exactly when a production instance is
    live. -/
theorem gatt_hal_init_cleanup_paired {ops : List Op} {s : St} {out : List Invocation}
    (h : run ops = some (s, out)) :
    ∃ cs, runHal ops = some (s, cs) ∧ cs.foldl halOpen (some false) = some (productionLive s) := by
  induction ops using List.reverseRecOn generalizing s out with
  | nil =>
    obtain ⟨rfl, -⟩ := Prod.mk.inj (Option.some.inj h.symm)
    exact ⟨[], rfl, rfl⟩
  | append_singleton ops op ih =>
    rw [run_append] at h
    obtain ⟨⟨s0, out0⟩, h0, h1⟩ := Option.bind_eq_some.mp h
    obtain ⟨⟨s1, out1⟩, h2, h3⟩ := Option.map_eq_some'.mp h1
    cases h3
    obtain ⟨cs, hr, hc⟩ := ih h0
    refine ⟨cs ++ op.halCalls s0, by simp [runHal_append, hr, h2], ?_⟩
    rw [List.foldl_append, hc, halCalls_step h2]

/-- An `Initialize` whose `init` fails, one that succeeds, a client observer and
    `CleanUp`. -/
theorem gatt_hal_init_cleanup_paired_on_retry :
    run [.initializeInterface 1 ⟨some 8, some 9, 1⟩, .initializeInterface 2 ⟨some 8, some 9, 0⟩,
        .addClientObserver 3, .cleanUp] = some (⟨none⟩, []) ∧
    ∃ cs, runHal [.initializeInterface 1 ⟨some 8, some 9, 1⟩,
        .initializeInterface 2 ⟨some 8, some 9, 0⟩, .addClientObserver 3, .cleanUp] =
        some (⟨none⟩, cs) ∧
      cs.foldl halOpen (some false) = some (productionLive ⟨none⟩) :=
  ⟨rfl, gatt_hal_init_cleanup_paired rfl⟩

end GattInterface

end BtService.Hal
