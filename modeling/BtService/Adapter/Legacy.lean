import BtService.Adapter.State

/-
  BtService.Adapter.Legacy — the earlier `service/adapter.cpp` the repository also
  carries: `state_` alone, no observers, `AdapterPropertiesCallback` empty, and a
  `TODO` to notify others of each change. Its `SetName` and `SetAdapterProperty` are those
  of `Adapter.Name` word for word.

  `Adapter.State` is this adapter with observers added. Proved:
  - `enable_legacy`, `disable_legacy`, `step_legacy`: each call of the adapter with
    observers stores what the earlier one stores, and `Enable` and `Disable` return what
    the earlier ones return; the observer calls store nothing.
  - `state_refines_legacy`: over every run, from every adapter, `GetState()` is the state
    the earlier adapter reaches on the same calls with the observer calls left out.
-/

namespace BtService

open Hal

namespace Adapter.Legacy

/-- `Enable` of the earlier adapter: the state it leaves and the return value. -/
def enable (state : AdapterState) (status : Int) : AdapterState × Bool :=
  let currentState := state
  if currentState ≠ .off then (state, false)
  else if status ≠ btStatusSuccess then (.off, false)
  else (.turningOn, true)

def disable (state : AdapterState) (status : Int) : AdapterState × Bool :=
  if !(state = .on) then (state, false)
  else
    let currentState := state
    if status ≠ btStatusSuccess then (currentState, false) else (.turningOff, true)

def adapterStateChangedCallback (state : BtState) : AdapterState := ofBtState state

/-- A call on the earlier adapter. -/
inductive Op where
  | enable (status : Int)
  | disable (status : Int)
  | stateChanged (state : BtState)

def step (state : AdapterState) : Op → AdapterState
  | .enable status => (enable state status).1
  | .disable status => (disable state status).1
  | .stateChanged s => adapterStateChangedCallback s

def run (state : AdapterState) (ops : List Op) : AdapterState := ops.foldl step state

end Adapter.Legacy

namespace Adapter

/-- A call of the adapter with observers as a call of the earlier one; the observer calls
    have none. -/
def Op.legacy : Op → Option Legacy.Op
  | .enable status => some (.enable status)
  | .disable status => some (.disable status)
  | .stateChanged state => some (.stateChanged state)
  | .addObserver _ | .removeObserver _ => none

theorem enable_legacy (a : Adapter) (status : Int) :
    (a.enable status).1.state = (Legacy.enable a.state status).1 ∧
      (a.enable status).2.1 = (Legacy.enable a.state status).2 := by
  by_cases h : a.state = .off <;> by_cases hs : status = btStatusSuccess <;>
    simp [enable, Legacy.enable, getState, h, hs]

theorem disable_legacy (a : Adapter) (status : Int) :
    (a.disable status).1.state = (Legacy.disable a.state status).1 ∧
      (a.disable status).2.1 = (Legacy.disable a.state status).2 := by
  by_cases h : a.state = .on <;> by_cases hs : status = btStatusSuccess <;>
    simp [disable, Legacy.disable, getState, isEnabled, h, hs]

/-- One call: the adapter with observers stores what the earlier one stores. -/
theorem step_legacy (a : Adapter) (op : Op) :
    (a.step op).1.state = ((op.legacy).map (Legacy.step a.state)).getD a.state := by
  cases op with
  | enable status => exact (enable_legacy a status).1
  | disable status => exact (disable_legacy a status).1
  | stateChanged state => rfl
  | addObserver o | removeObserver o => rfl

theorem state_refines_legacy (a : Adapter) (ops : List Op) :
    (a.run ops).1.getState = Legacy.run a.state (ops.filterMap Op.legacy) := by
  induction ops generalizing a with
  | nil => rfl
  | cons op ops ih =>
    rw [run, ih, step_legacy]
    cases op <;> rfl

end Adapter

end BtService
