import MetricRouter.CommandLine.Command
import MetricRouter.CommandLine.Outbox
import MetricRouter.Files
import MetricRouter.Session
import MetricRouter.Settings.Reload
import Std.Async.UDP
import Std.Time

/-!
# The program

The part of the router that talks to the world: arguments, environment, files, the clock and a socket.
-/

namespace MetricRouter.CommandLine

open Std.Net (SocketAddress IPv4Addr IPv6Addr)
open Std.Async.UDP (Socket)

/-! ## Arguments and files -/

/-- A failure of the operating system with its number, which may come with its sign turned. -/
def osReport (code : UInt32) (details : String) : String :=
  let number := if code.toNat < UInt32.size / 2 then code.toNat else UInt32.size - code.toNat
  details.capitalize ++ " (os error " ++ toString number ++ ")"

/-- A failure of the operating system in its own words. -/
def osText : IO.Error → String
  | .noFileOrDirectory _ code details | .interrupted _ code details => osReport code details
  | .alreadyExists _ code details | .invalidArgument _ code details | .permissionDenied _ code details
  | .resourceExhausted _ code details | .inappropriateType _ code details | .noSuchThing _ code details =>
    osReport code details
  | .otherError code details | .resourceBusy code details | .resourceVanished code details
  | .unsupportedOperation code details | .hardwareFault code details
  | .unsatisfiedConstraints code details | .illegalOperation code details | .protocolError code details
  | .timeExpired code details => osReport code details
  | .unexpectedEof => "unexpected end of file"
  | .userError _ => "stream did not contain valid UTF-8"

/-- The text of a file. -/
def readText (path : String) : IO (Except IO.Error String) :=
  (IO.FS.readFile path).toBaseIO

/-- The variables that stand in for arguments. -/
def environment : IO (String → Option String) := do
  let pairs ← (Flag.all.filterMap Flag.environmentName?).filterMapM fun name => do
    return (← IO.getEnv name).map fun value => (name, value)
  return fun name => pairs.lookup name

/-- Where the settings are if no argument says so. -/
def defaultPath : IO (Option String) := do
  let absolute (s : Option String) := s.filter (fun s => s.startsWith "/")
  match absolute (← IO.getEnv "XDG_CONFIG_HOME"), ← IO.getEnv "HOME" with
  | some dir, _ => return some (dir ++ "/apmrouter/config.yaml")
  | none, some home => return some (home ++ "/.config/apmrouter/config.yaml")
  | none, none => return none

/-- The file that an argument names, or the default one if it is there. -/
def settingsFile (a : Arguments) : IO (Option SettingsFile) := do
  match a.config with
  | some path =>
    if path.contains '\x00' then return some ⟨path, .error PathFault.nul.message⟩
    return some ⟨path, (← readText path).mapError osText⟩
  | none =>
    match ← defaultPath with
    | none => return none
    | some path =>
      match ← readText path with
      | .ok text => return some ⟨path, .ok text⟩
      | .error (.noFileOrDirectory _ _ _) => return none
      | .error e => return some ⟨path, .error (osText e)⟩

/-! ## The socket -/

/-- An address as the socket takes it. -/
def socketAddress (ip : Net.Ip) (port : Nat) : SocketAddress :=
  let port := UInt16.ofNat port
  match ip with
  | .v4 a b c d =>
    .v4 ⟨.ofParts (UInt8.ofNat a) (UInt8.ofNat b) (UInt8.ofNat c) (UInt8.ofNat d), port⟩
  | .v6 groups =>
    let group (n : Nat) : UInt16 := UInt16.ofNat (groups.getD n 0)
    .v6 ⟨.ofParts (group 0) (group 1) (group 2) (group 3) (group 4) (group 5) (group 6) (group 7), port⟩

/-- An address as the socket gives it. -/
def endpointOf : SocketAddress → Net.Endpoint
  | .v4 a =>
    match a.addr.octets.toList.map UInt8.toNat with
    | [w, x, y, z] => ⟨.v4 w x y z, a.port.toNat, 0⟩
    | _ => default
  | .v6 a => ⟨.v6 (a.addr.segments.toList.map UInt16.toNat), a.port.toNat, 0⟩

/-- A socket at the address of the listener. -/
def openSocket (s : ListenerSettings) : IO (Except Failure Socket) := do
  let opened ← (do
    let socket ← Socket.mk
    socket.bind (socketAddress s.address s.port)
    return socket : IO Socket).toBaseIO
  return opened.mapError (fun e => portFailure s.port (osText e))

/-! ## The session -/

abbrev Running := IO.Ref (Session Outbox)

/-- The milliseconds of the clock. -/
def clock : IO UInt64 := do
  return UInt64.ofNat (← Std.Time.Timestamp.now).toMillisecondsSinceUnixEpoch.val.toNat

/-- Sends one frame, and notes the fault if it fails. -/
def sendFrame (socket : Socket) (session : Running) (remote : Net.Endpoint) (frame : List UInt8) :
    IO Unit := do
  let sent := socket.send ⟨frame.toArray⟩ (some (socketAddress remote.ip remote.port))
  match ← sent.block.toBaseIO with
  | .ok _ => return ()
  | .error e => session.modify fun s => (s.onNetwork fun o => ((), o.note remote (osText e))).2

/-- Sends what waits in the outbox and prints what log destinations wrote. -/
def letOut (socket : Socket) (session : Running) : IO Unit := do
  for (remote, frame) in ← session.modifyGet (·.onNetwork Outbox.takeFrames) do
    sendFrame socket session remote frame
  for (name, line) in ← session.modifyGet Session.takeLog do
    IO.println ("[" ++ name ++ "] " ++ line)
  (← IO.getStdout).flush

/-- Takes in datagrams for ever. -/
partial def serve (socket : Socket) (session : Running) (size : UInt64) : IO Unit := do
  match ← (socket.recv size).block.toBaseIO with
  | .ok (datagram, some sender) =>
    let arrival := Arrival.now (← clock)
    session.modify fun s =>
      (s.receive (Transmit.overSocket Outbox.put) arrival datagram.toList (endpointOf sender)).2
    letOut socket session
  | .ok (_, none) => return ()
  | .error e => IO.eprintln ("UDP receive failed: " ++ osText e)
  serve socket session size

/-- Looks at the settings again if their text has changed, and gives the text. -/
def reload (session : Running) (path before : String) : IO String := do
  let content ← readText path
  let text := content.toOption.getD ""
  if text == before then return before
  let r := Reload.ofFile (← session.get).settings (content.mapError osText)
  IO.eprintln (r.headline ++ r.reason?.elim "" (": " ++ ·))
  if let .published settings := r then
    session.modify fun s => (s.reload settings.destinations).2
  return text

/-- Drains the conflation for ever, and follows the settings in a file if there is one. -/
partial def keepTime (socket : Socket) (session : Running) (path : Option String) (text : String) :
    IO Unit := do
  let pause := (← session.get).settings.conflation.drainInterval.millis
  IO.sleep (UInt32.ofNat (min (max pause.toNat 1) 1000))
  let now ← clock
  session.modify (·.tick now)
  letOut socket session
  let text ← path.elim (pure text) (reload session · text)
  keepTime socket session path text

/-- Runs a router. -/
def runSession (settings : Settings) (watched : Option SettingsFile) : IO (Except Failure Unit) := do
  match ← openSocket settings.listener, Session.create settings ({} : Outbox) with
  | .error e, _ | _, .error e => return .error e
  | .ok socket, .ok session =>
    let session ← IO.mkRef session.start
    let text := (watched.bind (·.content.toOption)).getD ""
    let _ ← IO.asTask (keepTime socket session (watched.map (·.path)) text) .dedicated
    serve socket session (UInt64.ofNat settings.listener.maxDatagramSize)
    return .ok ()

/-! ## The command -/

/-- How the command is used. -/
def helpLines : List String :=
  ["Metrics ingestion and routing backbone for APM agents.", "", "Usage: apmrouter [OPTIONS]", "", "Options:"] ++
    Flag.all.map fun f =>
      "  " ++ f.short?.elim "    " (fun c => "-" ++ String.singleton c ++ ", ") ++ "--" ++ f.long ++
        (if f.takesValue then " <VALUE>" else "") ++
        f.environmentName?.elim "" (fun name => " [env: " ++ name ++ "]")

/-- Why arguments were refused. -/
def refusalText : Refusal → String
  | .help => ""
  | .unknownArgument => "unexpected argument found"
  | .invalidValue => "a value is missing or not allowed"
  | .malformedValue => "a value cannot be read"
  | .repeatedArgument => "an argument cannot be used multiple times"
  | .unneededValue => "a value was given for an argument that takes none"

/-- Carries out the command, and gives its exit code. -/
def run (args : List String) : IO UInt32 := do
  match Arguments.parse args (← environment) with
  | .error .help =>
    helpLines.forM IO.println
    return 0
  | .error r =>
    IO.eprintln ("error: " ++ refusalText r)
    return 2
  | .ok a =>
    let file ← settingsFile a
    let outcome ← match plan a file with
      | .error e => pure (.error e)
      | .ok (.print lines) => do
        lines.forM IO.println
        pure (.ok ())
      | .ok (.start settings) => runSession settings (if a.watchConfig then file else none)
    match outcome with
    | .ok _ => return 0
    | .error e =>
      IO.eprintln ("Error: " ++ e.message)
      return 1

end MetricRouter.CommandLine

/-- The program. -/
def main (args : List String) : IO UInt32 := MetricRouter.CommandLine.run args
