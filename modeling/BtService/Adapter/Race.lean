import BtService.Adapter.State

/-
  BtService.Adapter.Race — `Enable` and `Disable` taken apart into their accesses to
  the atomic `state_` and their observer loops, run against the HAL thread's
  `AdapterStateChangedCallback`s, whose accesses land between any two of them.

  A running command is a program counter with the locals it has loaded (`EnablePc`,
  `DisablePc`); `enableStep` and `disableStep` make its next access, the HAL call
  answering `status`. `NotifyAdapterStateChanged(prev, state_)` is two of them: the load
  of `state_` for its argument, and then, under `observers_lock_`, its comparison and
  observer loop, which the two threads' loops take in turn. The callback is four: the
  load of `prev_state`, the store of the reported state, the load of `GetState()` for
  its notification, and the loop (`Turn`, with the HAL thread's locals in
  `ReportLocals`). A schedule says turn by turn which access comes next; `interleave`
  runs it, and `reports` reads off it the callbacks' stores, as calls on the adapter.
  Any order of the HAL thread's turns is a schedule; those of the code run each
  callback's four turns in order (`callback`), one callback after another. Proved:
  - `enable_alone`, `disable_alone`: run with no turn of the HAL in between, each
    command is the sequential one of `Adapter.State`;
  - `serial_schedule_is_sequential`: when whole callbacks come before and after the
    command and none inside it, the adapter, the return value and every notification
    are those of `Adapter.run` on the reports and the call in that order; a report inside
    the command can leave an observer last told a state the adapter has left
    (`a_report_inside_enable_leaves_the_observer_behind`);
  - `failed_command_alone`: a failed command with no turn of the HAL between its first
    access and its last leaves the adapter as the reports alone leave it;
  - `failed_command_ends_at_rollback`: whatever the schedule, a failed command ends as
    its rollback's store (`current_state` for `Disable`, `OFF` for `Enable`) followed by
    the reports stored after it;
  - `rollback_overwrites_report`: so a report that lands while the HAL call is in flight
    is lost. On an adapter that is on, `BT_STATE_OFF` reported during a failing
    `disable()` ends with the adapter on, where the report alone turns it off; the same
    for `Enable` and `BT_STATE_ON`.
-/
namespace BtService

open Hal

namespace Adapter

/-- Where an `Enable` call is: before which access, with the locals it has loaded. -/
inductive EnablePc where
  | getState
  | storeTurningOn (currentState : AdapterState)
  | notify (currentState : AdapterState)
  | forEachObserver (currentState newState : AdapterState)
  | enable
  | storeOff
  | notifyOff
  | forEachObserverOff (newState : AdapterState)
  | done (ret : Bool)
  deriving DecidableEq, Repr

/-- `Enable`'s next access, the HAL's `enable()` answering `status`. -/
def enableStep (status : Int) (a : Adapter) : EnablePc → Adapter × EnablePc × List Notification
  | .getState => let cur := a.getState; (a, if cur ≠ .off then .done false else .storeTurningOn cur, [])
  | .storeTurningOn cur => ({ a with state := .turningOn }, .notify cur, [])
  | .notify cur => (a, .forEachObserver cur a.getState, [])
  | .forEachObserver cur n => (a, .enable, a.notifyAdapterStateChanged cur n)
  | .enable => (a, if status ≠ btStatusSuccess then .storeOff else .done true, [])
  | .storeOff => ({ a with state := .off }, .notifyOff, [])
  | .notifyOff => (a, .forEachObserverOff a.getState, [])
  | .forEachObserverOff n => (a, .done false, a.notifyAdapterStateChanged .turningOn n)
  | .done r => (a, .done r, [])

/-- Where a `Disable` call is: before which access, with the locals it has loaded. -/
inductive DisablePc where
  | isEnabled
  | getState
  | storeTurningOff (currentState : AdapterState)
  | notify (currentState : AdapterState)
  | forEachObserver (currentState newState : AdapterState)
  | disable (currentState : AdapterState)
  | rollback (currentState : AdapterState)
  | notifyRollback
  | forEachObserverRollback (newState : AdapterState)
  | done (ret : Bool)
  deriving DecidableEq, Repr

/-- `Disable`'s next access, the HAL's `disable()` answering `status`. `IsEnabled()` and
    `GetState()` are two loads. -/
def disableStep (status : Int) (a : Adapter) : DisablePc → Adapter × DisablePc × List Notification
  | .isEnabled => (a, if !a.isEnabled then .done false else .getState, [])
  | .getState => (a, .storeTurningOff a.getState, [])
  | .storeTurningOff cur => ({ a with state := .turningOff }, .notify cur, [])
  | .notify cur => (a, .forEachObserver cur a.getState, [])
  | .forEachObserver cur n => (a, .disable cur, a.notifyAdapterStateChanged cur n)
  | .disable cur => (a, if status ≠ btStatusSuccess then .rollback cur else .done true, [])
  | .rollback cur => ({ a with state := cur }, .notifyRollback, [])
  | .notifyRollback => (a, .forEachObserverRollback a.getState, [])
  | .forEachObserverRollback n => (a, .done false, a.notifyAdapterStateChanged .turningOff n)
  | .done r => (a, .done r, [])

/-- A turn of a schedule: the command's next access, or the HAL thread's next access in
    `AdapterStateChangedCallback`: the load of `prev_state`, the store of the state it
    reports, the load of `GetState()` for `NotifyAdapterStateChanged`, and that call's
    comparison and observer loop. -/
inductive Turn where
  | cmd
  | getState
  | report (state : BtState)
  | notify
  | forEachObserver
  deriving DecidableEq, Repr

/-- The HAL thread's locals in `AdapterStateChangedCallback`: `prev_state`, and the state
    its `NotifyAdapterStateChanged` loaded. -/
structure ReportLocals where
  prevState : AdapterState
  newState : AdapterState
  deriving DecidableEq, Repr

section Schedule

variable {P : Type} (cmdStep : Adapter → P → Adapter × P × List Notification)

/-- One turn: the adapter, where the command is, the HAL thread's locals, and the
    notifications the turn made. -/
def turnStep (a : Adapter) (pc : P) (l : ReportLocals) :
    Turn → Adapter × P × ReportLocals × List Notification
  | .cmd => let r := cmdStep a pc; (r.1, r.2.1, l, r.2.2)
  | .getState => (a, pc, { l with prevState := a.getState }, [])
  | .report st => ({ a with state := ofBtState st }, pc, l, [])
  | .notify => (a, pc, { l with newState := a.getState }, [])
  | .forEachObserver => (a, pc, l, a.notifyAdapterStateChanged l.prevState l.newState)

def interleaveFrom : Adapter → P → ReportLocals → List Turn →
    Adapter × P × ReportLocals × List Notification
  | a, pc, l, [] => (a, pc, l, [])
  | a, pc, l, t :: ts =>
    let r := turnStep cmdStep a pc l t
    let r' := interleaveFrom r.1 r.2.1 r.2.2.1 ts
    (r'.1, r'.2.1, r'.2.2.1, r.2.2.2 ++ r'.2.2.2)

/-- A command with step `cmdStep`, from `pc`, run against the schedule `ts`: the adapter,
    where the command is, and the notifications. The HAL thread's locals start as loaded
    when the schedule starts. -/
def interleave (a : Adapter) (pc : P) (ts : List Turn) : Adapter × P × List Notification :=
  let r := interleaveFrom cmdStep a pc ⟨a.state, a.state⟩ ts
  (r.1, r.2.1, r.2.2.2)

end Schedule

/-- The schedule's reports, in the order of their stores, as calls on the adapter. -/
def reports (ts : List Turn) : List Op :=
  ts.filterMap fun | .report st => some (.stateChanged st) | _ => none

/-- `AdapterStateChangedCallback(state)` run whole: its four turns in order. -/
def callback (state : BtState) : List Turn := [.getState, .report state, .notify, .forEachObserver]

/-! ## Schedules -/

section Schedule

variable {P : Type} (f : Adapter → P → Adapter × P × List Notification)

theorem interleaveFrom_append (a : Adapter) (pc : P) (l : ReportLocals) (ts us : List Turn) :
    interleaveFrom f a pc l (ts ++ us) =
      let r := interleaveFrom f a pc l ts
      let r' := interleaveFrom f r.1 r.2.1 r.2.2.1 us
      (r'.1, r'.2.1, r'.2.2.1, r.2.2.2 ++ r'.2.2.2) := by
  induction ts generalizing a pc l with
  | nil => rfl
  | cons t ts ih => simp [interleaveFrom, ih]

/-- The HAL's turns alone move the adapter as its stores do and leave the command where
    it is. -/
theorem interleaveFrom_hal {ts : List Turn} (h : .cmd ∉ ts) (a : Adapter) (pc : P)
    (l : ReportLocals) :
    (interleaveFrom f a pc l ts).1 = (a.run (reports ts)).1 ∧
      (interleaveFrom f a pc l ts).2.1 = pc := by
  induction ts generalizing a l with
  | nil => exact ⟨rfl, rfl⟩
  | cons t ts ih =>
    simp only [List.mem_cons, not_or] at h
    obtain ⟨ht, hts⟩ := h
    cases t with
    | cmd => exact absurd rfl ht
    | report st => simpa [interleaveFrom, turnStep, reports, run, step] using ih hts _ _
    | _ => simpa [interleaveFrom, turnStep, reports] using ih hts _ _

/-- A whole callback moves the adapter and notifies as `AdapterStateChangedCallback`
    does, and leaves the command where it is. -/
theorem interleaveFrom_callback (st : BtState) (a : Adapter) (pc : P) (l : ReportLocals)
    (ts : List Turn) :
    interleaveFrom f a pc l (callback st ++ ts) =
      let r := a.adapterStateChangedCallback st
      let r' := interleaveFrom f r.1 pc ⟨a.state, ofBtState st⟩ ts
      (r'.1, r'.2.1, r'.2.2.1, r.2 ++ r'.2.2.2) := by
  simp [callback, interleaveFrom, turnStep, adapterStateChangedCallback, getState]

/-- Whole callbacks make the sequential run of their reports. -/
theorem interleaveFrom_callbacks (sts : List BtState) (a : Adapter) (pc : P)
    (l : ReportLocals) (ts : List Turn) :
    ∃ l', interleaveFrom f a pc l (sts.flatMap callback ++ ts) =
      let r := a.run (sts.map .stateChanged)
      let r' := interleaveFrom f r.1 pc l' ts
      (r'.1, r'.2.1, r'.2.2.1, r.2 ++ r'.2.2.2) := by
  induction sts generalizing a l with
  | nil => exact ⟨l, by simp [run]⟩
  | cons st sts ih =>
    obtain ⟨l', h⟩ := ih (a.adapterStateChangedCallback st).1 ⟨a.state, ofBtState st⟩
    exact ⟨l', by simp [List.append_assoc, interleaveFrom_callback, h, run, step]⟩

end Schedule

theorem reports_append (ts us : List Turn) : reports (ts ++ us) = reports ts ++ reports us :=
  List.filterMap_append ..

theorem reports_replicate_cmd (n : Nat) : reports (List.replicate n .cmd) = [] := by
  induction n <;> simp_all [reports, List.replicate_succ]

theorem run_append (a : Adapter) (xs ys : List Op) :
    a.run (xs ++ ys) = (((a.run xs).1.run ys).1, (a.run xs).2 ++ ((a.run xs).1.run ys).2) := by
  induction xs generalizing a with
  | nil => rfl
  | cons x xs ih => simp [run, ih]

/-! ## A command alone -/

/-- `Enable`'s accesses with no turn of the HAL in between make the sequential `enable`. -/
theorem enable_alone (status : Int) (a : Adapter) (l : ReportLocals) :
    interleaveFrom (enableStep status) a .getState l (List.replicate 8 .cmd) =
      ((a.enable status).1, .done (a.enable status).2.1, l, (a.enable status).2.2) := by
  by_cases hg : a.state = .off <;> by_cases hs : status = btStatusSuccess <;>
    simp [interleaveFrom, turnStep, enableStep, enable, getState, hg, hs]

/-- `Disable`'s accesses with no turn of the HAL in between make the sequential
    `disable`. -/
theorem disable_alone (status : Int) (a : Adapter) (l : ReportLocals) :
    interleaveFrom (disableStep status) a .isEnabled l (List.replicate 9 .cmd) =
      ((a.disable status).1, .done (a.disable status).2.1, l, (a.disable status).2.2) := by
  by_cases hg : a.state = .on <;> by_cases hs : status = btStatusSuccess <;>
    simp [interleaveFrom, turnStep, disableStep, disable, getState, isEnabled, hg, hs]

/-- A command that, run with no turn of the HAL in between, is `g`: with whole callbacks
    before and after it, the schedule is the sequential run of the reports before, `g`,
    and the reports after. -/
theorem interleave_serial {P : Type} (f : Adapter → P → Adapter × P × List Notification)
    (pc : P) (n : Nat) (g : Adapter → Adapter × P × List Notification)
    (halone : ∀ a l,
      interleaveFrom f a pc l (List.replicate n .cmd) = ((g a).1, (g a).2.1, l, (g a).2.2))
    (a : Adapter) (pre post : List BtState) :
    interleave f a pc (pre.flatMap callback ++ List.replicate n .cmd ++ post.flatMap callback) =
      (((g (a.run (pre.map .stateChanged)).1).1.run (post.map .stateChanged)).1,
        (g (a.run (pre.map .stateChanged)).1).2.1,
        (a.run (pre.map .stateChanged)).2 ++ ((g (a.run (pre.map .stateChanged)).1).2.2 ++
          ((g (a.run (pre.map .stateChanged)).1).1.run (post.map .stateChanged)).2)) := by
  obtain ⟨l1, h1⟩ := interleaveFrom_callbacks f pre a pc ⟨a.state, a.state⟩
    (List.replicate n .cmd ++ post.flatMap callback)
  obtain ⟨l2, h2⟩ := interleaveFrom_callbacks f post (g (a.run (pre.map .stateChanged)).1).1
    (g (a.run (pre.map .stateChanged)).1).2.1 l1 []
  simp only [List.append_nil] at h2
  simp [interleave, List.append_assoc, h1, interleaveFrom_append, halone, h2, interleaveFrom]

/-- When whole callbacks come before and after a command and none inside it, the
    adapter, the command's return value and every notification are those of the
    sequential run of the reports and the call, in that order. -/
theorem serial_schedule_is_sequential (status : Int) (a : Adapter) (pre post : List BtState) :
    interleave (enableStep status) a .getState
        (pre.flatMap callback ++ List.replicate 8 .cmd ++ post.flatMap callback) =
      ((a.run (pre.map .stateChanged ++ .enable status :: post.map .stateChanged)).1,
        .done ((a.run (pre.map .stateChanged)).1.enable status).2.1,
        (a.run (pre.map .stateChanged ++ .enable status :: post.map .stateChanged)).2) ∧
    interleave (disableStep status) a .isEnabled
        (pre.flatMap callback ++ List.replicate 9 .cmd ++ post.flatMap callback) =
      ((a.run (pre.map .stateChanged ++ .disable status :: post.map .stateChanged)).1,
        .done ((a.run (pre.map .stateChanged)).1.disable status).2.1,
        (a.run (pre.map .stateChanged ++ .disable status :: post.map .stateChanged)).2) := by
  constructor
  · rw [interleave_serial (enableStep status) .getState 8
      (fun b => ((b.enable status).1, .done (b.enable status).2.1, (b.enable status).2.2))
      (enable_alone status)]
    simp [run_append, run, step]
  · rw [interleave_serial (disableStep status) .isEnabled 9
      (fun b => ((b.disable status).1, .done (b.disable status).2.1, (b.disable status).2.2))
      (disable_alone status)]
    simp [run_append, run, step]

/-- A new adapter with one observer. -/
def watched : Adapter := (new ⟨6, 3, by decide⟩).addObserver 1

/-- `Enable` loads `OFF`, stores `TURNING_ON` and loads it for its notification; the
    HAL's callback reports `BT_STATE_ON`, whole; `Enable`'s observer loop then runs and
    `enable()` succeeds. -/
def staleRace : List Turn := [.cmd, .cmd, .cmd] ++ callback .on ++ [.cmd, .cmd]

/-- In `staleRace` `Enable` returns `true` and the adapter is on, but the observer was
    told `TURNING_ON → ON` and then `OFF → TURNING_ON`: it is left believing the adapter
    is turning on. -/
theorem a_report_inside_enable_leaves_the_observer_behind :
    (interleave (enableStep 0) watched .getState staleRace).2.1 = .done true ∧
    (interleave (enableStep 0) watched .getState staleRace).1.getState = .on ∧
    received 1 (interleave (enableStep 0) watched .getState staleRace).2.2 =
      [(.turningOn, .on), (.off, .turningOn)] := by
  decide

theorem failed_enable_noop {status : Int} (h : status ≠ btStatusSuccess) (a : Adapter) :
    (a.enable status).1 = a := by
  obtain ⟨st, _, _, _, _⟩ := a
  cases st <;> simp [enable, getState, h]

theorem failed_disable_noop {status : Int} (h : status ≠ btStatusSuccess) (a : Adapter) :
    (a.disable status).1 = a := by
  obtain ⟨st, _, _, _, _⟩ := a
  cases st <;> simp [disable, getState, isEnabled, h]

/-- A command that, run with no turn of the HAL in between, leaves the adapter as it
    found it: whatever the HAL does before and after, only the reports move the adapter. -/
theorem interleave_noop_alone {P : Type} (f : Adapter → P → Adapter × P × List Notification)
    (pc : P) (n : Nat) (g : Adapter → Adapter × P × List Notification)
    (halone : ∀ a l,
      interleaveFrom f a pc l (List.replicate n .cmd) = ((g a).1, (g a).2.1, l, (g a).2.2))
    (hnoop : ∀ a, (g a).1 = a) (a : Adapter) (pre post : List Turn) (h : .cmd ∉ pre ++ post) :
    (interleave f a pc (pre ++ List.replicate n .cmd ++ post)).1 =
      (a.run (reports (pre ++ List.replicate n .cmd ++ post))).1 := by
  simp only [List.mem_append, not_or] at h
  simp only [interleave, interleaveFrom_append, (interleaveFrom_hal f h.1 _ _ _).1,
    (interleaveFrom_hal f h.1 _ _ _).2, halone, hnoop, (interleaveFrom_hal f h.2 _ _ _).1,
    reports_append, reports_replicate_cmd, List.append_nil, run_append]

/-- A failed `Enable` or `Disable` with no turn of the HAL between its first access and
    its last leaves the adapter as the reports alone leave it, whatever the HAL does before
    and after. -/
theorem failed_command_alone {status : Int} (h : status ≠ btStatusSuccess) (a : Adapter)
    (pre post pre' post' : List Turn) (hE : .cmd ∉ pre ++ post) (hD : .cmd ∉ pre' ++ post') :
    (interleave (enableStep status) a .getState (pre ++ List.replicate 8 .cmd ++ post)).1 =
      (a.run (reports (pre ++ List.replicate 8 .cmd ++ post))).1 ∧
    (interleave (disableStep status) a .isEnabled (pre' ++ List.replicate 9 .cmd ++ post')).1 =
      (a.run (reports (pre' ++ List.replicate 9 .cmd ++ post'))).1 :=
  ⟨interleave_noop_alone (enableStep status) .getState 8
      (fun b => ((b.enable status).1, .done (b.enable status).2.1, (b.enable status).2.2))
      (enable_alone status) (failed_enable_noop h) a pre post hE,
    interleave_noop_alone (disableStep status) .isEnabled 9
      (fun b => ((b.disable status).1, .done (b.disable status).2.1, (b.disable status).2.2))
      (disable_alone status) (failed_disable_noop h) a pre' post' hD⟩

/-- A failed `Enable` after a callback that leaves a new adapter off, and a failed
    `Disable` after one that turns it on, each followed by another callback. -/
theorem failed_command_alone_between_reports :
    (1 : Int) ≠ btStatusSuccess ∧ Turn.cmd ∉ callback .off ++ callback .on ∧
    Turn.cmd ∉ callback .on ++ callback .off ∧
    (interleave (enableStep 1) (new ⟨6, 3, by decide⟩) .getState
        (callback .off ++ List.replicate 8 .cmd ++ callback .on)).1 =
      ((new ⟨6, 3, by decide⟩).run
        (reports (callback .off ++ List.replicate 8 .cmd ++ callback .on))).1 ∧
    (interleave (disableStep 1) (new ⟨6, 3, by decide⟩) .isEnabled
        (callback .on ++ List.replicate 9 .cmd ++ callback .off)).1 =
      ((new ⟨6, 3, by decide⟩).run
        (reports (callback .on ++ List.replicate 9 .cmd ++ callback .off))).1 :=
  ⟨by decide, by decide, by decide, failed_command_alone (by decide) _ _ _ _ _ (by decide)
    (by decide)⟩

/-! ## After the rollback -/

/-- From places the command leaves only for one another and without storing, only the
    reports move the adapter. -/
theorem interleaveFrom_inert {P : Type} (f : Adapter → P → Adapter × P × List Notification)
    (S : P → Prop) (hS : ∀ a pc, S pc → (f a pc).1 = a ∧ S (f a pc).2.1) (us : List Turn) :
    ∀ a pc l, S pc → (interleaveFrom f a pc l us).1 = (a.run (reports us)).1 := by
  induction us with
  | nil => intro _ _ _ _; rfl
  | cons t us ih =>
    intro a pc l hpc
    cases t with
    | cmd =>
      obtain ⟨hstore, hnext⟩ := hS a pc hpc
      simpa [interleaveFrom, turnStep, reports, hstore] using ih _ _ _ hnext
    | report st => simpa [interleaveFrom, turnStep, reports, run, step] using ih _ _ _ hpc
    | _ => simpa [interleaveFrom, turnStep, reports] using ih _ _ _ hpc

/-- After `Disable`'s rollback store: its notification's load and loop, and the return. -/
theorem disable_after_rollback_inert (status : Int) (a : Adapter) (pc : DisablePc)
    (h : pc = .notifyRollback ∨ (∃ n, pc = .forEachObserverRollback n) ∨ pc = .done false) :
    (disableStep status a pc).1 = a ∧
      ((disableStep status a pc).2.1 = .notifyRollback ∨
        (∃ n, (disableStep status a pc).2.1 = .forEachObserverRollback n) ∨
        (disableStep status a pc).2.1 = .done false) := by
  rcases h with rfl | ⟨n, rfl⟩ | rfl <;> simp [disableStep]

/-- After `Enable`'s rollback store: its notification's load and loop, and the return. -/
theorem enable_after_rollback_inert (status : Int) (a : Adapter) (pc : EnablePc)
    (h : pc = .notifyOff ∨ (∃ n, pc = .forEachObserverOff n) ∨ pc = .done false) :
    (enableStep status a pc).1 = a ∧
      ((enableStep status a pc).2.1 = .notifyOff ∨
        (∃ n, (enableStep status a pc).2.1 = .forEachObserverOff n) ∨
        (enableStep status a pc).2.1 = .done false) := by
  rcases h with rfl | ⟨n, rfl⟩ | rfl <;> simp [enableStep]

/-- A command about to store `s`, after which it moves only between places it leaves for
    one another without storing: from then on the adapter is that store followed by the
    reports. -/
theorem interleave_after_store {P : Type} (f : Adapter → P → Adapter × P × List Notification)
    (S : P → Prop) (hS : ∀ a pc, S pc → (f a pc).1 = a ∧ S (f a pc).2.1) (pc₀ pc : P)
    (s : AdapterState) (hstore : ∀ a, (f a pc).1 = { a with state := s } ∧ S (f a pc).2.1)
    (a : Adapter) (ts us : List Turn) (h : (interleave f a pc₀ ts).2.1 = pc) :
    (interleave f a pc₀ (ts ++ .cmd :: us)).1 =
      ({ (interleave f a pc₀ ts).1 with state := s }.run (reports us)).1 := by
  simp only [interleave] at h ⊢
  rw [interleaveFrom_append]
  simp only [interleaveFrom, turnStep, h, (hstore _).1]
  exact interleaveFrom_inert f S hS us _ _ _ (hstore _).2

/-- Whatever the schedule, a failed command ends as its rollback's store followed by the
    reports stored after it: `current_state` for `Disable`, `OFF` for `Enable`. Reports
    stored before the rollback count only through the state the command loaded. -/
theorem failed_command_ends_at_rollback (status : Int) (a : Adapter) (ts us : List Turn)
    (cur : AdapterState) :
    ((interleave (disableStep status) a .isEnabled ts).2.1 = .rollback cur →
      (interleave (disableStep status) a .isEnabled (ts ++ .cmd :: us)).1 =
        ({ (interleave (disableStep status) a .isEnabled ts).1 with state := cur }.run
          (reports us)).1) ∧
    ((interleave (enableStep status) a .getState ts).2.1 = .storeOff →
      (interleave (enableStep status) a .getState (ts ++ .cmd :: us)).1 =
        ({ (interleave (enableStep status) a .getState ts).1 with state := .off }.run
          (reports us)).1) :=
  ⟨interleave_after_store _ _ (disable_after_rollback_inert status) .isEnabled (.rollback cur) cur
      (fun _ => ⟨rfl, by simp [disableStep]⟩) a ts us,
    interleave_after_store _ _ (enable_after_rollback_inert status) .getState .storeOff .off
      (fun _ => ⟨rfl, by simp [enableStep]⟩) a ts us⟩

/-- A failing `Disable` on an adapter that is on, `BT_STATE_OFF` reported before its HAL
    call returns: the rollback stores `ON`, and the rest of the command leaves it there. -/
theorem disable_ends_at_rollback_after_report :
    (interleave (disableStep 1) { new ⟨6, 3, by decide⟩ with state := .on } .isEnabled
        (List.replicate 5 .cmd ++ callback .off ++ [.cmd])).2.1 = .rollback .on ∧
    (interleave (disableStep 1) { new ⟨6, 3, by decide⟩ with state := .on } .isEnabled
        ((List.replicate 5 .cmd ++ callback .off ++ [.cmd]) ++ Turn.cmd :: [.cmd, .cmd])).1 =
      ({ (interleave (disableStep 1) { new ⟨6, 3, by decide⟩ with state := .on } .isEnabled
          (List.replicate 5 Turn.cmd ++ callback .off ++ [Turn.cmd])).1 with state := .on }.run
        (reports [Turn.cmd, .cmd])).1 :=
  ⟨by decide, (failed_command_ends_at_rollback 1 _ _ _ .on).1 (by decide)⟩

/-! ## A report while the call is in flight -/

/-- An adapter that is on, with no observers. -/
def adapterOn : Adapter := { new ⟨6, 3, by decide⟩ with state := .on }

/-- `Disable` passes `IsEnabled()`, loads `ON`, stores and notifies `TURNING_OFF`; the
    HAL's callback reports `BT_STATE_OFF`; `disable()` fails and the rollback stores and
    notifies `ON`. -/
def disableRace : List Turn :=
  List.replicate 5 .cmd ++ callback .off ++ List.replicate 4 .cmd

/-- `Enable` loads `OFF`, stores and notifies `TURNING_ON`; the HAL's callback reports
    `BT_STATE_ON`; `enable()` fails and the rollback stores and notifies `OFF`. -/
def enableRace : List Turn :=
  List.replicate 4 .cmd ++ callback .on ++ List.replicate 4 .cmd

/-- In both races the command returns `false` and leaves the state the rollback stored,
    where the report alone leaves the other one. -/
theorem rollback_overwrites_report :
    (interleave (disableStep 1) adapterOn .isEnabled disableRace).2.1 = .done false ∧
    (interleave (disableStep 1) adapterOn .isEnabled disableRace).1.getState = .on ∧
    (adapterOn.run (reports disableRace)).1.getState = .off ∧
    (interleave (enableStep 1) (new ⟨6, 3, by decide⟩) .getState enableRace).2.1 = .done false ∧
    (interleave (enableStep 1) (new ⟨6, 3, by decide⟩) .getState enableRace).1.getState = .off ∧
    ((new ⟨6, 3, by decide⟩).run (reports enableRace)).1.getState = .on := by
  decide

end Adapter

end BtService
