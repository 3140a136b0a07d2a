import Std.Async.DNS
import Std.Async.Signal
import Std.Async.TCP
import Std.Async.Timer
import Std.Sync.Channel
import Domotics.CommandLine
import Domotics.Console
/-!
# The program

Reads the command line and the settings, keeps up the connection with real sockets and clocks, and
prints the reports. What is done when is decided by `Console.step`; here it is only carried out.

Tasks wait for lines of input, for the network, for the next ping and for an interrupt, and put what
comes into one channel, from which the loop takes it. After an interrupt the last report is printed
at once; the program is over when the line that is being read has ended.
-/

namespace Domotics.Program

open Std.Async

abbrev Socket := TCP.Socket.Client

/-- What a client waits for: the client, how far it is, and how often it has been there. An arrival
that was waited for at another point is late and does not matter. -/
structure Wait where
  client : ClientNumber
  epoch : Epoch
  attempts : Nat
  connecting : Bool
deriving BEq

/-- What a task puts into the channel. -/
inductive Arrival where
  | input (input : Console.Input)
  | late (wait : Wait) (happening : Happening)
  | opened (wait : Wait) (socket : Socket)

instance : Inhabited Arrival := ⟨.input .inputEnded⟩

abbrev Arrivals := Std.Channel.Sync Arrival

/-- Runs a task beside the loop. Nothing waits for it when the program ends. -/
def beside (task : Async Unit) : IO Unit :=
  discard task.toIO

/-! ## Lines in and out -/

/-- Prints a report with the time. -/
def print (report : Report) : IO Unit := do
  let now ← Std.Time.Timestamp.now
  let out ← IO.getStdout
  out.putStrLn (report.line [("timestamp", .integer now.toMillisecondsSinceUnixEpoch.val)])
  out.flush

/-- Reads the bytes of a line, with the line feed at its end. -/
partial def readBytes (stream : IO.FS.Stream) (line : List UInt8) : IO (List UInt8) := do
  match (← stream.read 1).toList with
  | [] => return line.reverse
  | b :: _ => if b = 0x0a then return (b :: line).reverse else readBytes stream (b :: line)

/-- Reads lines until the input ends or is no text, or the program is told to quit. -/
partial def readLines (arrivals : Arrivals) (stream : IO.FS.Stream) : IO Unit := do
  match Text.ofBytes (← readBytes stream []) with
  | .error _ => arrivals.send (.input .inputEnded)
  | .ok line =>
    if line.isEmpty then arrivals.send (.input .inputEnded)
    else
      arrivals.send (.input (.line line))
      if !(readInput? line matches some (.ok .quit)) then readLines arrivals stream

/-! ## The network -/

def millis (n : UInt64) : Std.Time.Millisecond.Offset :=
  .ofNat n.toNat

/-- The addresses of a host. -/
def addressesOf (address : ServerAddress) : Async (List Std.Net.SocketAddress) := do
  let port := UInt16.ofNat address.port
  let found ← DNS.getAddrInfo address.host (toString address.port)
  return found.toList.map fun
    | .v4 addr => .v4 ⟨addr, port⟩
    | .v6 addr => .v6 ⟨addr, port⟩

/-- Connects to the first of some addresses that answers. -/
def connectAny (address : ServerAddress) : List Std.Net.SocketAddress → Async Socket
  | [] => throw (IO.userError "failed to lookup address information")
  | candidate :: others => do
    let socket ← TCP.Socket.Client.mk
    try
      socket.connect candidate
      socket.noDelay
      return socket
    catch e =>
      if others.isEmpty then throw e else connectAny address others

/-- Tries to connect. -/
def connect (arrivals : Arrivals) (wait : Wait) (address : ServerAddress) : Async Unit := do
  try
    let socket ← connectAny address (← addressesOf address)
    arrivals.send (.opened wait socket)
  catch e => arrivals.send (.late wait (.refused (Client.refusal address.text (toString e))))

/-- Reads from a connection until it is lost. -/
partial def receive (arrivals : Arrivals) (client : ClientNumber) (socket : Socket) :
    Async Unit := do
  let data? ← try socket.recv? 4096 catch _ => pure none
  match data? with
  | some data =>
    arrivals.send (.input (.network client (.received data.toList)))
    receive arrivals client socket
  | none => arrivals.send (.input (.network client .lost))

/-- Waits and then says that something happened. -/
def delayed (arrivals : Arrivals) (wait : Wait) (time : UInt64) (happening : Happening) :
    Async Unit := do
  Std.Async.sleep (millis time)
  arrivals.send (.late wait happening)

/-- Wakes the engine up for a ping again and again. -/
partial def tick (arrivals : Arrivals) (seconds : UInt64) : Async Unit := do
  Std.Async.sleep (.ofNat (seconds.toNat * 1000))
  arrivals.send (.input (.wake .ping))
  tick arrivals seconds

/-- Waits for the user to interrupt the program. -/
def awaitInterrupt (arrivals : Arrivals) : IO Unit := do
  let waiter ← Signal.Waiter.mk .sigint false
  let interrupted ← waiter.wait
  discard (IO.mapTask (fun _ => arrivals.send (.input (.wake .shutdown))) interrupted)

/-! ## The loop -/

/-- The program while it runs, with its socket and what its client waits for. -/
structure Loop where
  state : Console.State
  socket : Option (ClientNumber × Socket) := none
  wait : Option Wait := none

/-- What the client waits for. -/
def waitOf (running : Running) : Option Wait := do
  let (number, client) ← running.client
  match client.phase with
  | .connecting => some ⟨number, client.epoch, client.attempts, true⟩
  | .waiting => some ⟨number, client.epoch, client.attempts, false⟩
  | .online _ | .ended => none

/-- Writes a message on the connection. One that cannot be written is dropped. -/
def write (socket : Option (ClientNumber × Socket)) : Output → IO Unit
  | .wrote number _ message => do
    let some (owner, socket) := socket | return
    let .ok data := message.encode | return
    if owner = number then
      try (socket.send ⟨data.toArray⟩).block catch _ => pure ()
  | .told _ _ => pure ()

/-- Whether a client is held and online. -/
def isOnline (owner : ClientNumber) (running : Running) : Bool :=
  match running.client with
  | some (number, ⟨_, _, .online _, _, _, _⟩) => number = owner
  | _ => false

/-- Closes a socket whose client is no longer online. -/
def closeUnused (loop : Loop) : IO Loop := do
  match loop.socket with
  | none => return loop
  | some (owner, socket) =>
    if isOnline owner loop.state.running then return loop
    try socket.shutdown.block catch _ => pure ()
    return { loop with socket := none }

/-- Begins what the client waits for next. -/
def beginWait (arrivals : Arrivals) (loop : Loop) : IO Loop := do
  let wait := waitOf loop.state.running
  if wait == loop.wait then return loop
  let timeouts := loop.state.running.engine.settings.connection.timeouts
  match wait, loop.state.running.client with
  | some wait, some (_, client) =>
    if wait.connecting then
      let address := client.address
      let late := Error.timeout s!"connecting to {address.text}" timeouts.connect.toNat
      beside (connect arrivals wait address)
      beside (delayed arrivals wait timeouts.connect (.refused late.message))
    else beside (delayed arrivals wait timeouts.retry .waited)
  | _, _ => pure ()
  return { loop with wait }

/-- Carries out what comes of an input, and of the events that are posted by it. -/
partial def carryOut (arrivals : Arrivals) (loop : Loop) (input : Console.Input) : IO Loop := do
  let (outputs, reports, state) := Console.step loop.state input
  outputs.forM (write loop.socket)
  reports.forM print
  let loop ← beginWait arrivals (← closeUnused { loop with state })
  if state.alive && !state.running.inbox.isEmpty then carryOut arrivals loop (.wake .event)
  else return loop

/-- Takes arrivals until the program ends. -/
partial def run (arrivals : Arrivals) (loop : Loop) : IO Unit := do
  if !loop.state.alive then return
  match ← arrivals.recv with
  | .input input => run arrivals (← carryOut arrivals loop input)
  | .late wait happening =>
    if loop.wait == some wait then
      run arrivals (← carryOut arrivals loop (.network wait.client happening))
    else run arrivals loop
  | .opened wait socket =>
    if loop.wait == some wait then
      let loop ← carryOut arrivals { loop with socket := some (wait.client, socket) }
        (.network wait.client .connected)
      beside (receive arrivals wait.client socket)
      run arrivals loop
    else
      try socket.shutdown.block catch _ => pure ()
      run arrivals loop

/-! ## The beginning -/

/-- The directory of the user's settings. -/
def settingsPath? : IO (Option String) := do
  let base? := match ← IO.getEnv "XDG_CONFIG_HOME", ← IO.getEnv "HOME" with
    | some base, home? => if base.startsWith "/" then some base else home?.map (· ++ "/.config")
    | none, home? => home?.map (· ++ "/.config")
  return base?.map (· ++ "/ohap-client")

/-- The settings in a file, or the initial ones if there are none. -/
def loadFile (path : String) : IO Settings := do
  let config ← try pure (some (DirectoryEntry.file (← IO.FS.readBinFile path).toList))
    catch _ => pure none
  return (SettingsDirectory.present config none).load

/-- Writes the commented file of settings, unless something is there. -/
def writeSettings : IO UInt32 := do
  let some place ← settingsPath? | return 1
  try
    IO.FS.createDirAll place
    let path := place ++ "/config.toml"
    try discard (IO.FS.readBinFile path)
    catch
      | .noFileOrDirectory _ _ _ => IO.FS.writeFile path SettingsDirectory.commented
      | _ => pure ()
    IO.eprintln s!"Config file: {path}"
    return 0
  catch e =>
    IO.eprintln (Error.config s!"Failed to create config dir: {e}").message
    return 1

/-- Runs the program with settings. -/
def runWith (settings : Settings) : IO UInt32 := do
  match Engine.ofSettings settings with
  | .error e =>
    IO.eprintln s!"Error: {e.message}"
    return 1
  | .ok engine =>
    let arrivals : Arrivals ← Std.Channel.Sync.new
    let (reports, state) := Console.start engine
    reports.forM print
    awaitInterrupt arrivals
    let stdin ← IO.getStdin
    discard (IO.asTask (readLines arrivals stdin) Task.Priority.dedicated)
    if let some seconds := settings.connection.pingInterval? then beside (tick arrivals seconds)
    run arrivals (← beginWait arrivals { state })
    return 0

end Domotics.Program

open Domotics in
def main (words : List String) : IO UInt32 := do
  match CommandLine.read words with
  | .error e =>
    IO.eprintln s!"error: {e.message}"
    return 2
  | .ok .help =>
    IO.println "Usage: ohapc [OPTIONS]"
    for option in ProgramOption.all do
      let value := if option.takesValue then " <value>" else ""
      IO.println s!"  --{option.name}{value}"
    return 0
  | .ok (.options given) =>
    if (given.lookup .initConfig).isSome then Program.writeSettings
    else
      let settings ← match given.lookup .config, ← Program.settingsPath? with
        | some path, _ => Program.loadFile path
        | none, some place => Program.loadFile (place ++ "/config.toml")
        | none, none => pure .initial
      Program.runWith (settings.withOptions given)
