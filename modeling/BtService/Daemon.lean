import BtService.Adapter.Properties
import BtService.Hal.BluetoothInterface

/-
  BtService.Daemon — the adapter on the HAL interface (`service/adapter.cpp`,
  `service/hal/bluetooth_interface.cpp`): `Adapter()` registers the adapter with
  `hal::BluetoothInterface::Get()` and `~Adapter()` removes it; in between, the HAL's
  `adapter_state_changed_cb` and `adapter_properties_cb` reach it through the interface's
  observer list as its `AdapterStateChangedCallback` and `AdapterPropertiesCallback`.

  A run interleaves the interface's steps (its lifecycle, other observers, HAL reports)
  with calls on the adapter, each call run whole: these are the runs in which no HAL
  report reaches the adapter while one of its calls is running. The adapter's methods
  take no lock the HAL's callbacks take, so the code has other runs too; `Adapter.Race`
  takes a call apart, shows that a report inside it can change the outcome
  (`rollback_overwrites_report`), and that with the reports between the calls the
  adapter is the sequential one used here (`serial_schedule_is_sequential`). While the
  interface stays live and the adapter registered, proved for these runs:
  - `daemon_runs_adapter`: the daemon never fails and is the adapter alone taking every HAL
    report, once and in order, among its own calls: its state and the notifications its
    observers receive are those of the adapter run on the calls and the reports;
  - `daemon_observer_sees_every_change`: an observer on the adapter that no call removes
    receives a chain of changes from `GetState()` at the start of the run to `GetState()`
    at its end, each a real change.
-/

namespace BtService

open Hal Base ObserverList

namespace Adapter

section Observer

variable (L : LeFeaturesLayout) (btAddrString : List UInt8 → String)

/-- `Adapter`'s `hal::BluetoothInterface::Observer` methods. -/
def dmCallback (a : Adapter) : DmCb → Adapter × List Notification
  | .adapterStateChanged state => a.adapterStateChangedCallback state
  | .adapterProperties status numProperties properties =>
    (adapterPropertiesCallback L btAddrString a status numProperties properties, [])

/-- The adapter at address `self` taking, in order, the observer calls of one interface
    step that are made to it. -/
def deliver (self : Nat) (a : Adapter) : List (Nat × DmCb) → Adapter × List Notification
  | [] => (a, [])
  | (o, c) :: out =>
    if o = self then
      let r := dmCallback L btAddrString a c
      let r' := deliver self r.1 out
      (r'.1, r.2 ++ r'.2)
    else deliver self a out

/-- What happens to the adapter: a call on it, or a HAL report. -/
inductive Event where
  | call (op : Op)
  | report (c : DmCb)

def handle (a : Adapter) : Event → Adapter × List Notification
  | .call op => a.step op
  | .report c => dmCallback L btAddrString a c

/-- The adapter alone after the events `es`, and every notification they made. -/
def runEvents (a : Adapter) : List Event → Adapter × List Notification
  | [] => (a, [])
  | e :: es =>
    let r := handle L btAddrString a e
    let r' := runEvents r.1 es
    (r'.1, r.2 ++ r'.2)

theorem runEvents_append (a : Adapter) (es fs : List Event) :
    runEvents L btAddrString a (es ++ fs) =
      ((runEvents L btAddrString (runEvents L btAddrString a es).1 fs).1,
        (runEvents L btAddrString a es).2 ++ (runEvents L btAddrString (runEvents L btAddrString a es).1 fs).2) := by
  induction es generalizing a with
  | nil => rfl
  | cons e es ih => simp [runEvents, ih]

/-- A report sent to each observer of a list reaches the adapter once if it is on the list,
    and not at all otherwise. -/
theorem deliver_map {self : Nat} {os : List Nat} (hnd : os.Nodup) (a : Adapter) (c : DmCb) :
    deliver L btAddrString self a (os.map fun o => (o, c)) =
      if self ∈ os then dmCallback L btAddrString a c else (a, []) := by
  induction os generalizing a with
  | nil => rfl
  | cons o os ih =>
    obtain ⟨hout, hnd⟩ := List.nodup_cons.mp hnd
    by_cases e : o = self
    · subst e
      simp [deliver, ih hnd, hout]
    · simp [deliver, e, ih hnd, Ne.symm e]

end Observer

end Adapter

/-- The HAL interface and the adapter on it. -/
structure Daemon where
  hal : BluetoothInterface.St
  adapter : Adapter

namespace Daemon

/-- The adapter at `self` is on the list of the live interface instance. -/
def registeredOn (self : Nat) (s : BluetoothInterface.St) : Bool :=
  match s.gBluetoothInterface with
  | some g => decide (self ∈ g.observers.observers)
  | none => false

section Run

variable (L : LeFeaturesLayout) (btAddrString : List UInt8 → String)

/-- `Adapter()` at address `self`: `Get()->AddObserver(this)`, which fails its `CHECK` with
    no instance, and a new adapter. The `get_adapter_properties()` request it ends with is
    answered by a later report. -/
def construct (s : BluetoothInterface.St) (self : Nat) : Option Daemon :=
  (BluetoothInterface.addObserver s self).map fun s' => ⟨s', Adapter.new L⟩

/-- A step of the daemon: a step of the interface, or a call on the adapter, run whole
    (no HAL report reaches the adapter while it runs). -/
inductive Op where
  | hal (op : BluetoothInterface.Op)
  | call (op : Adapter.Op)

def step (self : Nat) (d : Daemon) : Op → Option (Daemon × List Notification)
  | .hal op => (BluetoothInterface.step d.hal op).map fun r =>
    let r' := Adapter.deliver L btAddrString self d.adapter r.2
    (⟨r.1, r'.1⟩, r'.2)
  | .call op => let r := d.adapter.step op; some (⟨d.hal, r.1⟩, r.2)

/-- The daemon after `ops` and every notification the adapter made, or `none` when a step
    fails a `CHECK`. -/
def run (self : Nat) (d : Daemon) : List Op → Option (Daemon × List Notification)
  | [] => some (d, [])
  | op :: ops => (step L btAddrString self d op).bind fun r =>
    (run self r.1 ops).map fun r' => (r'.1, r.2 ++ r'.2)

/-- What a step is to the adapter: its calls, and the HAL's reports. -/
def Op.event : Op → Option Adapter.Event
  | .hal (.callback c) => some (.report c)
  | .hal _ => none
  | .call op => some (.call op)

/-- What a step does to the adapter: its event, if it has one. -/
def Op.onAdapter (op : Op) (a : Adapter) : Adapter × List Notification :=
  (op.event.map (Adapter.handle L btAddrString a)).getD (a, [])

/-- The step leaves the interface live and the adapter at `self` on its list. -/
def Op.keeps (self : Nat) : Op → Bool
  | .hal (.addObserver _) | .hal (.callback _) | .call _ => true
  | .hal (.removeObserver o) => o ≠ self
  | .hal _ => false

/-- One step that keeps the adapter registered never fails, keeps it registered, and is
    to the adapter what its event is. -/
theorem step_keeps {self : Nat} {d : Daemon} (hreg : registeredOn self d.hal) {op : Op}
    (hk : op.keeps self) :
    ∃ hal', step L btAddrString self d op =
        some (⟨hal', (op.onAdapter L btAddrString d.adapter).1⟩,
          (op.onAdapter L btAddrString d.adapter).2) ∧
      registeredOn self hal' := by
  obtain ⟨⟨_ | g⟩, a⟩ := d
  · simp [registeredOn] at hreg
  simp only [registeredOn, decide_eq_true_eq] at hreg
  cases op with
  | call op => exact ⟨_, rfl, by simpa [registeredOn]⟩
  | hal op =>
    cases op with
    | initializeInterface | initializeForTesting | cleanUp => simp [Op.keeps] at hk
    | addObserver o => exact ⟨_, rfl, by simp [registeredOn, hreg]⟩
    | removeObserver o =>
      have hne : self ≠ o := fun e => by simp [Op.keeps, e] at hk
      exact ⟨_, rfl, by simp [registeredOn, List.mem_erase_of_ne hne, hreg]⟩
    | callback c =>
      refine ⟨⟨some g⟩, ?_, by simpa [registeredOn]⟩
      simp [step, BluetoothInterface.step, BluetoothInterface.btCallbacks_eq,
        BluetoothInterface.forward, forEach, Adapter.deliver_map _ _ g.observers.nodup, hreg,
        Op.onAdapter, Op.event, Adapter.handle]

/-- While the interface stays live and the adapter registered, a run whose reports reach
    the adapter between its calls never fails, and its adapter and the notifications it
    makes are those of the adapter alone taking the calls and the HAL reports in the order
    the run has them. -/
theorem daemon_runs_adapter (self : Nat) (d : Daemon) (hreg : registeredOn self d.hal)
    (ops : List Op) (hkeep : ∀ op ∈ ops, op.keeps self) :
    ∃ hal', run L btAddrString self d ops =
        some (⟨hal', (Adapter.runEvents L btAddrString d.adapter (ops.filterMap Op.event)).1⟩,
          (Adapter.runEvents L btAddrString d.adapter (ops.filterMap Op.event)).2) ∧
      registeredOn self hal' := by
  induction ops generalizing d with
  | nil => exact ⟨d.hal, rfl, hreg⟩
  | cons op ops ih =>
    obtain ⟨hal1, hs, hreg1⟩ := step_keeps L btAddrString hreg (hkeep op (.head _))
    obtain ⟨hal', hr, hreg'⟩ := ih ⟨hal1, _⟩ hreg1 fun op h => hkeep op (.tail _ h)
    refine ⟨hal', ?_, hreg'⟩
    rw [run, hs, Option.some_bind, hr, Option.map_some', List.filterMap_cons, Op.onAdapter]
    rcases op.event with _ | e <;> simp [Adapter.runEvents]

/-- An adapter registered at 3 on a test instance: an enable, another observer added and
    removed, and a report that the adapter is on. -/
theorem daemon_runs_adapter_through_enable :
    registeredOn 3 ⟨some ⟨5, empty.addObserver 3, none⟩⟩ ∧
    (∀ op ∈ ([.call (.enable 0), .hal (.addObserver 4), .hal (.callback (.adapterStateChanged .on)),
        .hal (.removeObserver 4)] : List Op), op.keeps 3) ∧
    ∃ hal', run ⟨4, 1, by decide⟩ (fun _ => "") 3
        ⟨⟨some ⟨5, empty.addObserver 3, none⟩⟩, Adapter.new ⟨4, 1, by decide⟩⟩
        [.call (.enable 0), .hal (.addObserver 4), .hal (.callback (.adapterStateChanged .on)),
          .hal (.removeObserver 4)] =
        some (⟨hal', (Adapter.runEvents ⟨4, 1, by decide⟩ (fun _ => "") (Adapter.new ⟨4, 1, by decide⟩)
          ([.call (.enable 0), .hal (.addObserver 4), .hal (.callback (.adapterStateChanged .on)),
            .hal (.removeObserver 4)].filterMap Op.event)).1⟩,
          (Adapter.runEvents ⟨4, 1, by decide⟩ (fun _ => "") (Adapter.new ⟨4, 1, by decide⟩)
          ([.call (.enable 0), .hal (.addObserver 4), .hal (.callback (.adapterStateChanged .on)),
            .hal (.removeObserver 4)].filterMap Op.event)).2) ∧
      registeredOn 3 hal' :=
  ⟨rfl, by decide, daemon_runs_adapter ⟨4, 1, by decide⟩ (fun _ => "") 3
    ⟨⟨some ⟨5, empty.addObserver 3, none⟩⟩, Adapter.new ⟨4, 1, by decide⟩⟩ rfl _ (by decide)⟩

/-! ## The adapter's observers -/

/-- A step that does not remove the observer `o` keeps it on the adapter's list, and what
    `o` receives from it is a chain from the adapter's state before to its state after. -/
theorem onAdapter_chain {a : Adapter} {o : Nat} (h : o ∈ a.observers.observers) {op : Op}
    (hop : op ≠ .call (.removeObserver o)) :
    o ∈ (op.onAdapter L btAddrString a).1.observers.observers ∧
      Adapter.Chain a.state (Adapter.received o (op.onAdapter L btAddrString a).2) ∧
      Adapter.chainEnd a.state (Adapter.received o (op.onAdapter L btAddrString a).2) =
        (op.onAdapter L btAddrString a).1.state := by
  cases op with
  | call op => exact Adapter.step_chain h fun e => hop (e ▸ rfl)
  | hal op =>
    cases op with
    | callback c =>
      cases c with
      | adapterStateChanged st => exact @Adapter.step_chain a o h (.stateChanged st) nofun
      | adapterProperties status n ps =>
        obtain ⟨hs, ho⟩ := Adapter.adapterPropertiesCallback_frame L btAddrString a status n ps
        simp [Op.onAdapter, Op.event, Adapter.handle, Adapter.dmCallback, hs, ho, h,
          Adapter.received, Adapter.Chain, Adapter.chainEnd]
    | _ => simp [Op.onAdapter, Op.event, h, Adapter.received, Adapter.Chain, Adapter.chainEnd]

/-- While the interface stays live and the adapter registered, an observer on the
    adapter's list that no call removes receives, over a whole run whose reports reach the
    adapter between its calls, a chain of changes from `GetState()` at the start to
    `GetState()` at the end. -/
theorem daemon_observer_sees_every_change (self o : Nat) (d : Daemon)
    (hreg : registeredOn self d.hal) (ho : o ∈ d.adapter.observers.observers) (ops : List Op)
    (hkeep : ∀ op ∈ ops, op.keeps self) (hstay : .call (.removeObserver o) ∉ ops) :
    ∃ r, run L btAddrString self d ops = some r ∧
      Adapter.Chain d.adapter.getState (Adapter.received o r.2) ∧
      Adapter.chainEnd d.adapter.getState (Adapter.received o r.2) = r.1.adapter.getState := by
  induction ops generalizing d with
  | nil => exact ⟨(d, []), rfl, trivial, rfl⟩
  | cons op ops ih =>
    simp only [List.mem_cons, not_or] at hstay
    obtain ⟨hal1, hs, hreg1⟩ := step_keeps L btAddrString hreg (hkeep op (.head _))
    obtain ⟨ho1, c1, e1⟩ := onAdapter_chain L btAddrString ho (Ne.symm hstay.1)
    obtain ⟨r, hr, c2, e2⟩ := ih ⟨hal1, _⟩ hreg1 ho1 (fun op h => hkeep op (.tail _ h)) hstay.2
    refine ⟨(r.1, _ ++ r.2), by rw [run, hs, Option.some_bind, hr]; rfl, ?_⟩
    simp only [Adapter.getState, Adapter.received_append, Adapter.chain_append,
      Adapter.chainEnd_append] at *
    rw [e1]
    exact ⟨⟨c1, c2⟩, e2⟩

/-- An observer at 9 on an adapter registered at 3: an enable, the HAL's report that the
    adapter is on, and a report of its name. -/
theorem daemon_observer_sees_enable_and_report :
    registeredOn 3 ⟨some ⟨5, empty.addObserver 3, none⟩⟩ ∧
    9 ∈ ((Adapter.new ⟨4, 1, by decide⟩).addObserver 9).observers.observers ∧
    (∀ op ∈ ([.call (.enable 0), .hal (.callback (.adapterStateChanged .on)),
        .hal (.callback (.adapterProperties 0 1 [⟨.bdname, 2, [104, 105]⟩]))] : List Op),
      op.keeps 3) ∧
    Op.call (.removeObserver 9) ∉ ([.call (.enable 0), .hal (.callback (.adapterStateChanged .on)),
        .hal (.callback (.adapterProperties 0 1 [⟨.bdname, 2, [104, 105]⟩]))] : List Op) ∧
    ∃ r, run ⟨4, 1, by decide⟩ (fun _ => "") 3
        ⟨⟨some ⟨5, empty.addObserver 3, none⟩⟩, (Adapter.new ⟨4, 1, by decide⟩).addObserver 9⟩
        [.call (.enable 0), .hal (.callback (.adapterStateChanged .on)),
          .hal (.callback (.adapterProperties 0 1 [⟨.bdname, 2, [104, 105]⟩]))] = some r ∧
      Adapter.Chain ((Adapter.new ⟨4, 1, by decide⟩).addObserver 9).getState
        (Adapter.received 9 r.2) ∧
      Adapter.chainEnd ((Adapter.new ⟨4, 1, by decide⟩).addObserver 9).getState
        (Adapter.received 9 r.2) = r.1.adapter.getState :=
  ⟨rfl, by decide, by decide, by simp, daemon_observer_sees_every_change ⟨4, 1, by decide⟩
    (fun _ => "") 3 9 ⟨⟨some ⟨5, empty.addObserver 3, none⟩⟩,
      (Adapter.new ⟨4, 1, by decide⟩).addObserver 9⟩ rfl (by decide) _ (by decide) (by simp)⟩

end Run

end Daemon

end BtService
