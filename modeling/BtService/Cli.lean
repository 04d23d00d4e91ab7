import BtService.Adapter.Name
import BtService.Daemon

/-
  BtService.Cli — the command-line client (`bluetooth-cli`; in the repository its source
  follows `controller_t` in `device/include/controller.h`) and the binder server it talks to
  (`service/ipc/binder/bluetooth_binder_server.cpp`).

  The client prints a prompt, reads a line, splits it at spaces, and runs the handler
  `kCommandMap` names for its first word on the other words; each handler checks how many
  arguments it has (`CHECK_ARGS_COUNT`) and calls `IBluetooth`, which the binder server
  answers by forwarding to the daemon's adapter. `base::SplitString`,
  `base::TrimWhitespaceASCII` and `AdapterStateToString` are not in the repository; they
  are parameters. What the client prints is the text it writes to `cout`, colours
  included. Each binder call runs whole, as an adapter call does in `Daemon`: the HAL
  reports to the daemon, or changes what it answers, only between two lines, so the
  results below are about the runs in which no report reaches the adapter while a call
  is running (`Adapter.Race` takes a call apart).

  Proved:
  - `commandLoop_find`: `main`'s loop over `kCommandMap`, which stops at the first entry
    named by the command, runs the handler `find?` gives, or none;
  - `handleLine_unknown`, `handleLine_wrong_count`: a line with an unknown command, or with
    the wrong number of arguments for its command, calls nothing and prints the prompt and
    the error of the check it fails;
  - `cli_drives_adapter`: whatever lines are typed and whatever the HAL answers and
    reports between them (not while a call runs), `main` never fails, and the adapter
    behind the binder is the adapter alone taking `Enable` for each line `enable`,
    `Disable` for each line `disable` and the HAL's reports, in order: no other line
    changes it.
-/

namespace BtService

open Hal

namespace Ipc

/-- `IBluetooth` as a client calls it: each method over the state of what answers it,
    `none` when answering fails a `CHECK`. `GetState()` crosses the binder as an `int`
    and is cast back to the `AdapterState` it was made from. -/
structure IBluetooth (σ : Type) where
  isEnabled : σ → Option (σ × Bool)
  getState : σ → Option (σ × AdapterState)
  enable : σ → Option (σ × Bool)
  enableNoAutoConnect : σ → Option (σ × Bool)
  disable : σ → Option (σ × Bool)
  getAddress : σ → Option (σ × String)
  getUUIDs : σ → Option (σ × List BtUuid)
  setName : String → σ → Option (σ × Bool)
  getName : σ → Option (σ × String)

/-- What answers the binder in the daemon: its adapter, the notifications the adapter has
    made, and the status the HAL answers the adapter's requests with. -/
structure Backend where
  adapter : Adapter
  notifications : List Notification
  halStatus : Int

/-- The backend after an adapter call that returned `r`, and the call's return value. -/
def Backend.apply (b : Backend) (r : Adapter × Bool × List Notification) : Backend × Bool :=
  ({ b with adapter := r.1, notifications := b.notifications ++ r.2.2 }, r.2.1)

/-- The bytes of a `std::string`; a character of the model's strings is one byte. -/
def stdBytes (s : String) : List UInt8 := s.toList.map fun c => c.toNat.toUInt8

/-- `BluetoothBinderServer`: each method forwards to the adapter's method of the same name,
    but `EnableNoAutoConnect` and `GetUUIDs`, which are not implemented. `SetName` needs
    the size of `bt_bdname_t::name` and the bytes its buffer held before the copy. -/
def bluetoothBinderServer (maxNameLen : Nat) (stack : List UInt8) : IBluetooth Backend where
  isEnabled b := some (b, b.adapter.isEnabled)
  getState b := some (b, b.adapter.getState)
  enable b := some (b.apply (b.adapter.enable b.halStatus))
  enableNoAutoConnect b := some (b, false)
  disable b := some (b.apply (b.adapter.disable b.halStatus))
  getAddress b := some (b, b.adapter.getAddress)
  getUUIDs b := some (b, [])
  setName name b :=
    (Adapter.setName maxNameLen (stdBytes name) stack b.halStatus).map fun r => (b, r.2)
  getName b := some (b, b.adapter.getName)

/-- What the HAL does while the client waits for a line: change the status it answers the
    adapter's requests with, or report to the daemon. -/
inductive HalEvent where
  | answers (status : Int)
  | report (c : DmCb)

section Daemon

variable (L : LeFeaturesLayout) (btAddrString : List UInt8 → String)

/-- The backend once the adapter has taken the events `es`. -/
def Backend.runEvents (b : Backend) (es : List Adapter.Event) : Backend :=
  { b with adapter := (Adapter.runEvents L btAddrString b.adapter es).1,
           notifications := b.notifications ++ (Adapter.runEvents L btAddrString b.adapter es).2 }

/-- A HAL event reaching the backend; a report reaches the adapter as it does in `Daemon`. -/
def Backend.onHal (b : Backend) : HalEvent → Backend
  | .answers status => { b with halStatus := status }
  | .report c =>
    let r := Adapter.dmCallback L btAddrString b.adapter c
    { b with adapter := r.1, notifications := b.notifications ++ r.2 }

@[simp] theorem Backend.runEvents_nil (b : Backend) : b.runEvents L btAddrString [] = b := by
  cases b
  simp [Backend.runEvents, Adapter.runEvents]

end Daemon

end Ipc

namespace Cli

open Ipc

def colorOff : String := "\x1B[0m"
def colorRed : String := "\x1B[0;91m"
def colorGreen : String := "\x1B[0;92m"
def colorBlue : String := "\x1B[0;94m"
def colorBoldWhite : String := "\x1B[1;37m"
def colorBoldYellow : String := "\x1B[1;93m"

def printError (message : String) : String := colorRed ++ message ++ colorOff ++ "\n"

def printCommandStatus (status : Bool) : String :=
  colorBoldWhite ++ "Command status: " ++ colorOff ++
    (if status then colorGreen ++ "success" else colorRed ++ "failure") ++ colorOff ++ "\n" ++ "\n"

def printFieldAndValue (field value : String) : String :=
  colorBoldWhite ++ field ++ ": " ++ colorBoldYellow ++ value ++ colorOff ++ "\n"

def printFieldAndBoolValue (field : String) (value : Bool) : String :=
  printFieldAndValue field (if value then "true" else "false")

/-- The handlers `kCommandMap` points to. -/
inductive Handler where
  | help
  | disable
  | enable
  | getState
  | isEnabled
  | getLocalAddress
  | setLocalName
  | getLocalName
  | adapterInfo
  deriving DecidableEq, Repr

/-- `kCommandMap` up to its empty last entry: each command, its handler, its help text. -/
def kCommandMap : List (String × Handler × String) :=
  [("help", .help, "\t\t\tDisplay this message"),
    ("disable", .disable, "\t\t\tDisable Bluetooth"),
    ("enable", .enable, "\t\t\tEnable Bluetooth"),
    ("get-state", .getState, "\t\tGet the current adapter state"),
    ("is-enabled", .isEnabled, "\t\tReturn if Bluetooth is enabled"),
    ("get-local-address", .getLocalAddress, "\tGet the local adapter address"),
    ("set-local-name", .setLocalName, "\t\tSet the local adapter name"),
    ("get-local-name", .getLocalName, "\t\tGet the local adapter name"),
    ("adapter-info", .adapterInfo, "\t\tPrint adapter properties")]

def prompt : String := colorBlue ++ "[FCLI] " ++ colorOff

def banner : String :=
  colorBoldWhite ++ "Fluoride Command-Line Interface\n" ++ colorOff ++ "\n" ++
    "Type \"help\" to see possible commands.\n" ++ "\n"

def exitFailure : Int := 1

section Handlers

variable {σ : Type} (bt : IBluetooth σ) (trimTrailing : String → String)
  (adapterStateToString : AdapterState → String)

/-- `CHECK_ARGS_COUNT(args, op, num, msg)` ahead of a handler's `body`: when the count
    check `ok` fails, `msg` is printed and nothing is called. -/
def checkArgsCount (ok : Bool) (msg : String) (s : σ) (body : Option (σ × String)) :
    Option (σ × String) :=
  if !ok then some (s, printError msg) else body

/-- The handlers that take no argument, call one method and print what it returns. -/
def handleCall {α : Type} (call : σ → Option (σ × α)) (print : α → String) (s : σ)
    (args : List String) : Option (σ × String) :=
  checkArgsCount (args.length == 0) "Expected no arguments" s
    ((call s).map fun r => (r.1, print r.2))

def handleDisable : σ → List String → Option (σ × String) :=
  handleCall bt.disable printCommandStatus

def handleEnable : σ → List String → Option (σ × String) :=
  handleCall bt.enable printCommandStatus

def handleGetState : σ → List String → Option (σ × String) :=
  handleCall bt.getState fun state => printFieldAndValue "Adapter state" (adapterStateToString state)

def handleIsEnabled : σ → List String → Option (σ × String) :=
  handleCall bt.isEnabled (printFieldAndBoolValue "Adapter enabled")

def handleGetLocalAddress : σ → List String → Option (σ × String) :=
  handleCall bt.getAddress (printFieldAndValue "Adapter address")

def handleGetLocalName : σ → List String → Option (σ × String) :=
  handleCall bt.getName (printFieldAndValue "Adapter name")

/-- `HandleSetLocalName`: the arguments, each followed by a space, with the trailing
    whitespace trimmed. -/
def handleSetLocalName (s : σ) (args : List String) : Option (σ × String) :=
  checkArgsCount (decide (args.length ≥ 1)) "No name was given" s <|
    let name := trimTrailing (args.foldl (fun name arg => name ++ (arg ++ " ")) "")
    (bt.setName name s).map fun r => (r.1, printCommandStatus r.2)

def handleAdapterInfo (s : σ) (args : List String) : Option (σ × String) :=
  checkArgsCount (args.length == 0) "Expected no arguments" s <|
    (bt.getAddress s).bind fun address => (bt.getState address.1).bind fun state =>
      (bt.getName state.1).map fun name =>
        (name.1, colorBoldWhite ++ "Adapter Properties: " ++ colorOff ++ "\n" ++
          printFieldAndValue "\tAddress" address.2 ++
          printFieldAndValue "\tState" (adapterStateToString state.2) ++
          printFieldAndValue "\tName" name.2)

/-- `HandleHelp`: every entry of `kCommandMap`, tab-indented. -/
def handleHelp (s : σ) (_ : List String) : Option (σ × String) :=
  some (s, "\n" ++ String.join (kCommandMap.map fun e => "\t" ++ e.1 ++ e.2.2 ++ "\n") ++ "\n")

def Handler.run : Handler → σ → List String → Option (σ × String)
  | .help => handleHelp
  | .disable => handleDisable bt
  | .enable => handleEnable bt
  | .getState => handleGetState bt adapterStateToString
  | .isEnabled => handleIsEnabled bt
  | .getLocalAddress => handleGetLocalAddress bt
  | .setLocalName => handleSetLocalName bt trimTrailing
  | .getLocalName => handleGetLocalName bt
  | .adapterInfo => handleAdapterInfo bt adapterStateToString

/-- `main`'s loop over the entries of `kCommandMap` not yet looked at, with what has been
    printed and `command_handled`: it stops at the first entry named `command`, once its
    handler has run. -/
def commandLoop (command : String) (args : List String) :
    List (String × Handler × String) → σ × String × Bool → Option (σ × String × Bool)
  | [], r => some r
  | (name, func, _) :: rest, (s, out, commandHandled) =>
    if commandHandled then some (s, out, commandHandled)
    else if command = name then
      (func.run bt trimTrailing adapterStateToString s args).bind fun r =>
        commandLoop command args rest (r.1, out ++ r.2, true)
    else commandLoop command args rest (s, out, false)

variable (splitString : String → List String)

/-- One pass of `main`'s loop: the prompt, then the line read, split at spaces; the first
    word is the command and the others its arguments. -/
def handleLine (s : σ) (line : String) : Option (σ × String) :=
  match splitString line with
  | [] => some (s, prompt)
  | command :: args =>
    (commandLoop bt trimTrailing adapterStateToString command args kCommandMap (s, "", false)).map
      fun r => (r.1, prompt ++ r.2.1 ++ if r.2.2 then "" else "Unrecognized command: " ++ command ++ "\n")

/-- What happens while the client runs: it reads a line, or something happens behind the
    binder (`ε`) before it reads the next. -/
inductive Turn (ε : Type) where
  | line (text : String)
  | env (e : ε)

variable {ε : Type} (envStep : σ → ε → σ)

/-- `main`'s loop over the turns `ts`: the state behind the binder and what was printed;
    `none` when answering a call fails a `CHECK`. A line's calls run whole; `envStep`
    happens only between two lines. -/
def runTurns (s : σ) : List (Turn ε) → Option (σ × String)
  | [] => some (s, "")
  | .line text :: ts =>
    (handleLine bt trimTrailing adapterStateToString splitString s text).bind fun r =>
      (runTurns r.1 ts).map fun r' => (r'.1, r.2 ++ r'.2)
  | .env e :: ts => runTurns (envStep s e) ts

/-- `main`, `getClientInterface()` having returned `iface`: `EXIT_FAILURE`, with nothing
    printed, when it is null; otherwise the banner and the loop, which never returns (the
    state when the turns run out). -/
def main (iface : Option σ) (ts : List (Turn ε)) : Except Int (Option (σ × String)) :=
  match iface with
  | none => .error exitFailure
  | some s => .ok ((runTurns bt trimTrailing adapterStateToString splitString envStep s ts).map
      fun r => (r.1, banner ++ r.2))

/-! ## The loop over the table -/

theorem commandLoop_handled (command : String) (args : List String)
    (tbl : List (String × Handler × String)) (s : σ) (out : String) :
    commandLoop bt trimTrailing adapterStateToString command args tbl (s, out, true) =
      some (s, out, true) := by
  cases tbl <;> rfl

/-- The loop runs the handler of the first entry named by the command, and no other. -/
theorem commandLoop_find (command : String) (args : List String)
    (tbl : List (String × Handler × String)) (s : σ) (out : String) :
    commandLoop bt trimTrailing adapterStateToString command args tbl (s, out, false) =
      match tbl.find? (fun e => command = e.1) with
      | some e => (e.2.1.run bt trimTrailing adapterStateToString s args).map
          fun r => (r.1, out ++ r.2, true)
      | none => some (s, out, false) := by
  induction tbl with
  | nil => rfl
  | cons e rest ih =>
    obtain ⟨name, func, help⟩ := e
    by_cases h : command = name
    · subst h
      simp only [commandLoop, Bool.false_eq_true, if_false, if_true, List.find?_cons, decide_True,
        commandLoop_handled]
      cases func.run bt trimTrailing adapterStateToString s args <;> rfl
    · simp [commandLoop, h, ih]

/-- A command no entry names calls nothing: the prompt and `Unrecognized command`. -/
theorem handleLine_unknown {s : σ} {line command : String} {args : List String}
    (hsplit : splitString line = command :: args) (hunknown : command ∉ kCommandMap.map (·.1)) :
    handleLine bt trimTrailing adapterStateToString splitString s line =
      some (s, prompt ++ "Unrecognized command: " ++ command ++ "\n") := by
  have hnone : kCommandMap.find? (fun e => command = e.1) = none :=
    List.find?_eq_none.mpr fun e he h => hunknown (List.mem_map.mpr ⟨e, he, (of_decide_eq_true h).symm⟩)
  simp [handleLine, hsplit, commandLoop_find, hnone, String.append_assoc]

/-- A command given the wrong number of arguments calls nothing: the prompt and the error
    of its count check. -/
theorem handleLine_wrong_count {s : σ} {line command : String} {args : List String}
    (hsplit : splitString line = command :: args) {func : Handler} {help : String}
    (hmem : (command, func, help) ∈ kCommandMap) (hhelp : func ≠ .help)
    (hcount : if func = .setLocalName then args = [] else args ≠ []) :
    handleLine bt trimTrailing adapterStateToString splitString s line =
      some (s, prompt ++ printError
        (if func = .setLocalName then "No name was given" else "Expected no arguments")) := by
  simp only [kCommandMap, List.mem_cons, Prod.mk.injEq, List.mem_nil_iff, or_false] at hmem
  rcases hmem with ⟨rfl, rfl, rfl⟩ | ⟨rfl, rfl, rfl⟩ | ⟨rfl, rfl, rfl⟩ | ⟨rfl, rfl, rfl⟩ |
      ⟨rfl, rfl, rfl⟩ | ⟨rfl, rfl, rfl⟩ | ⟨rfl, rfl, rfl⟩ | ⟨rfl, rfl, rfl⟩ | ⟨rfl, rfl, rfl⟩ <;>
    simp_all [handleLine, commandLoop_find, kCommandMap, Handler.run, handleCall, handleDisable,
      handleEnable, handleGetState, handleIsEnabled, handleGetLocalAddress, handleSetLocalName,
      handleGetLocalName, handleAdapterInfo, checkArgsCount]

end Handlers

/-! ## The client driving the daemon's adapter -/

/-- The adapter call a line makes, the HAL answering `status`: `Enable` for the line
    `enable`, `Disable` for the line `disable`, and none for any other line. -/
def lineCall (status : Int) (tokens : List String) : List Adapter.Event :=
  if tokens = ["enable"] then [.call (.enable status)]
  else if tokens = ["disable"] then [.call (.disable status)] else []

section Session

variable (L : LeFeaturesLayout) (btAddrString : List UInt8 → String) (maxNameLen : Nat)
  (stack : List UInt8) (trimTrailing : String → String)
  (adapterStateToString : AdapterState → String) (splitString : String → List String)

/-- What the adapter takes over a session, the HAL answering `status` until it changes:
    the call of each line, and the HAL's reports. -/
def calls : Int → List (Turn HalEvent) → List Adapter.Event
  | _, [] => []
  | status, .line text :: ts => lineCall status (splitString text) ++ calls status ts
  | _, .env (.answers status) :: ts => calls status ts
  | status, .env (.report c) :: ts => .report c :: calls status ts

/-- Each handler of the table, on the binder server, never fails and does to the backend
    what the line of its command makes the adapter do. -/
theorem run_bluetoothBinderServer {command : String} {func : Handler} {help : String}
    (hmem : (command, func, help) ∈ kCommandMap) (b : Backend) (args : List String) :
    ∃ out, func.run (bluetoothBinderServer maxNameLen stack) trimTrailing adapterStateToString b
        args = some (b.runEvents L btAddrString (lineCall b.halStatus (command :: args)), out) := by
  obtain ⟨r, hr⟩ := Option.isSome_iff_exists.mp (Adapter.setName_isSome maxNameLen
    (stdBytes (trimTrailing (args.foldl (fun name arg => name ++ (arg ++ " ")) ""))) stack b.halStatus)
  simp only [kCommandMap, List.mem_cons, Prod.mk.injEq, List.mem_nil_iff, or_false] at hmem
  rcases hmem with ⟨rfl, rfl, rfl⟩ | ⟨rfl, rfl, rfl⟩ | ⟨rfl, rfl, rfl⟩ | ⟨rfl, rfl, rfl⟩ |
      ⟨rfl, rfl, rfl⟩ | ⟨rfl, rfl, rfl⟩ | ⟨rfl, rfl, rfl⟩ | ⟨rfl, rfl, rfl⟩ | ⟨rfl, rfl, rfl⟩ <;>
    by_cases hargs : args = [] <;>
    simp [hargs, hr, lineCall, Handler.run, handleHelp, handleCall, handleDisable, handleEnable,
      handleGetState, handleIsEnabled, handleGetLocalAddress, handleSetLocalName,
      handleGetLocalName, handleAdapterInfo, checkArgsCount, bluetoothBinderServer,
      Backend.apply, Backend.runEvents, Adapter.runEvents, Adapter.handle, Adapter.step]

/-- One line on the binder server never fails and does to the backend what it makes the
    adapter do. -/
theorem handleLine_bluetoothBinderServer (b : Backend) (line : String) :
    ∃ out, handleLine (bluetoothBinderServer maxNameLen stack) trimTrailing adapterStateToString
        splitString b line =
      some (b.runEvents L btAddrString (lineCall b.halStatus (splitString line)), out) := by
  rcases hsplit : splitString line with _ | ⟨command, args⟩
  · exact ⟨prompt, by simp [handleLine, hsplit, lineCall]⟩
  rcases hfind : kCommandMap.find? (fun e => command = e.1) with _ | ⟨name, func, help⟩
  · have hnot := List.find?_eq_none.mp hfind
    have hcall : lineCall b.halStatus (command :: args) = [] := by
      have h1 := hnot ("enable", .enable, "\t\t\tEnable Bluetooth") (by simp [kCommandMap])
      have h2 := hnot ("disable", .disable, "\t\t\tDisable Bluetooth") (by simp [kCommandMap])
      simp_all [lineCall]
    simp [handleLine, hsplit, commandLoop_find, hfind, hcall]
  · obtain rfl : command = name := by simpa using List.find?_some hfind
    obtain ⟨out, hrun⟩ := run_bluetoothBinderServer L btAddrString maxNameLen stack trimTrailing
      adapterStateToString (List.mem_of_find?_eq_some hfind) b args
    simp [handleLine, hsplit, commandLoop_find, hfind, hrun]

theorem runTurns_bluetoothBinderServer (b : Backend) (ts : List (Turn HalEvent)) :
    ∃ b' out, runTurns (bluetoothBinderServer maxNameLen stack) trimTrailing adapterStateToString
        splitString (Backend.onHal L btAddrString) b ts = some (b', out) ∧
      b'.adapter = (Adapter.runEvents L btAddrString b.adapter (calls splitString b.halStatus ts)).1 ∧
      b'.notifications = b.notifications ++
        (Adapter.runEvents L btAddrString b.adapter (calls splitString b.halStatus ts)).2 := by
  induction ts generalizing b with
  | nil => exact ⟨b, "", rfl, rfl, by simp [calls, Adapter.runEvents]⟩
  | cons t ts ih =>
    cases t with
    | line text =>
      obtain ⟨out, hl⟩ := handleLine_bluetoothBinderServer L btAddrString maxNameLen stack
        trimTrailing adapterStateToString splitString b text
      obtain ⟨b', out', hr, ha, hn⟩ :=
        ih (b.runEvents L btAddrString (lineCall b.halStatus (splitString text)))
      refine ⟨b', out ++ out', by simp [runTurns, hl, hr], ?_⟩
      simp_all [calls, Adapter.runEvents_append, Backend.runEvents]
    | env e =>
      cases e with
      | answers status => exact ih { b with halStatus := status }
      | report c =>
        obtain ⟨b', out, hr, ha, hn⟩ := ih (b.onHal L btAddrString (.report c))
        exact ⟨b', out, hr, ha, by simp [hn, Backend.onHal, Adapter.runEvents, Adapter.handle]⟩

/-- Whatever lines are typed, and whatever the HAL answers and reports while the client
    waits for them, `main` never fails, and the adapter behind the binder, with every
    notification it makes, is the adapter alone taking `Enable` for each line `enable`,
    `Disable` for each line `disable`, and the HAL's reports, in order. -/
theorem cli_drives_adapter (b : Backend) (ts : List (Turn HalEvent)) :
    ∃ b' out, main (bluetoothBinderServer maxNameLen stack) trimTrailing adapterStateToString
        splitString (Backend.onHal L btAddrString) (some b) ts = .ok (some (b', banner ++ out)) ∧
      b'.adapter = (Adapter.runEvents L btAddrString b.adapter (calls splitString b.halStatus ts)).1 ∧
      b'.notifications = b.notifications ++
        (Adapter.runEvents L btAddrString b.adapter (calls splitString b.halStatus ts)).2 := by
  obtain ⟨b', out, hr, ha, hn⟩ := runTurns_bluetoothBinderServer L btAddrString maxNameLen stack
    trimTrailing adapterStateToString splitString b ts
  exact ⟨b', out, by simp [main, hr], ha, hn⟩

end Session

end Cli

end BtService
