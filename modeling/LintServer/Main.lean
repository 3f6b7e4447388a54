import LintServer.Log.Filter
import LintServer.Server
import LintServer.Startup

/-!
# The command line

Frames come from the standard input and go to the standard output; log entries go to a file. What
the server decides is decided in `Server.run`; here its orders are carried out. Programs cannot be
launched from here, so every launch is reported as one that the system refused.

* `Console`: the open streams and the log;
* `main`: one session.
-/

namespace LintServer.Console

/-- The cause of a failed operation. -/
def faultOf : IO.Error → Fault
  | .noFileOrDirectory .. => .noEntry
  | .permissionDenied .. => .accessDenied
  | .alreadyExists .. => .alreadyExists
  | .inappropriateType .. => .isDirectory
  | _ => .notDirectory

/-- What is found at a path. -/
def fileAt (p : Path) : IO FileState := do
  try
    let bytes ← IO.FS.readBinFile p.text
    return .content bytes.toList
  catch e =>
    match faultOf e with
    | .noEntry => return .absent
    | f => return .unreadable f

/-- The parts of a file between separators, as far as they are texts. -/
def partsOf (separator : UInt8) (p : Path) : IO (List String) := do
  match ← fileAt p with
  | .content bytes =>
    return (bytes.splitOn separator).filterMap fun s => (Text.Utf8.decode? s).map String.ofList
  | _ => return []

/-- The home directory that the system has for the account of this process. -/
def accountHome : IO (Option Path) := do
  let user := (← partsOf 0x0A ⟨"/proc/self/status"⟩).findSome? fun line =>
    match line.splitOn "\t" with
    | "Uid:" :: id :: _ => some id
    | _ => none
  return (← partsOf 0x0A ⟨"/etc/passwd"⟩).findSome? fun line =>
    match line.splitOn ":" with
    | [_, _, id, _, _, home, _] =>
      if some id = user && !home.isEmpty then some ⟨home⟩ else none
    | _ => none

/-- The environment, whose settings the system keeps one behind the other. -/
def environment : IO Environment := do
  return .ofSettings (← partsOf 0 ⟨"/proc/self/environ"⟩) (← accountHome)

/-- Whether there is a file at a path. -/
def isFile (p : Path) : IO Bool := do
  return (← fileAt p) matches .content _

/-- Whether there is a file or a directory at a path. -/
def isTaken (p : Path) : IO Bool := do
  match ← fileAt p with
  | .content _ => return true
  | .unreadable f => return f = .isDirectory
  | .absent => return false

/-- Makes a directory with all those that it is in. -/
def makeDirectory (p : Path) : IO (Except Fault Unit) := do
  try
    IO.FS.createDirAll p.text
    return .ok ()
  catch e => return .error (faultOf e)

/-- Tries to open a log file. -/
def tryLog (p : Path) : IO (Except Startup.LogTrouble Unit) := do
  if let .error f := ← makeDirectory (Startup.parent p) then return .error (.noDirectory f)
  try
    discard <| IO.FS.Handle.mk p.text .append
    return .ok ()
  catch e => return .error (.noFile (faultOf e))

/-- The open streams and the log. -/
structure Context where
  input : IO.FS.Stream
  output : IO.FS.Stream
  searchPath : List Path
  log : Option Path
  filter : Log.Filter

namespace Context

/-- Writes a log entry. -/
def write (c : Context) (e : Log.Entry) : IO Unit := do
  if c.filter.lets e then
    if let some p := c.log then
      let h ← IO.FS.Handle.mk p.text .append
      h.putStrLn e.render

/-- Whether a program is on the search path. -/
def canFind (c : Context) (program : String) : IO Bool :=
  c.searchPath.anyM fun dir => isFile (dir.child program)

/-- Carries out an order, and gives the step that reports on it. -/
def carryOut (c : Context) : Server.Order → IO (Option Server.Step)
  | .write frame => do
    try
      c.output.putStr (Frame.write frame)
      c.output.flush
      return some (.written (.ok ()))
    catch _ => return some (.written (.error .brokenPipe))
  | .lookUp program => do return some (.lookedUp (← c.canFind program))
  | .validate id command _ =>
    return some (.ended id (.error (.notStarted command.program .notImplemented)))
  | .install v => do
    return some (.installed (← v.install c.canFind makeDirectory fun _ _ =>
      return .error .notImplemented))
  | .log e => do
    c.write e
    return none

/-- Carries out orders until none is left. -/
partial def carryOutAll (c : Context) (s : Server) : List Server.Order → IO Server
  | [] => return s
  | order :: rest => do
    match ← c.carryOut order with
    | some step =>
      let r := s.run step
      c.carryOutAll r.1 (rest ++ r.2)
    | none => c.carryOutAll s rest

/-- Serves until the server ends; `chunk` is being read, and `now` is when time was last taken. -/
partial def serve (c : Context) (s : Server) (chunk : Task (Except IO.Error ByteArray))
    (now : Nat) : IO (Except FrameError Unit) := do
  if let .ended r := s.phase then return r
  let time ← IO.monoMsNow
  let r := s.run (.elapse (time - now))
  let s ← c.carryOutAll r.1 r.2
  if ← IO.hasFinished chunk then
    let bytes := match chunk.get with
      | .ok bytes => bytes.toList
      | .error _ => []
    let r := s.run (if bytes.isEmpty then .endInput else .receive bytes)
    let s ← c.carryOutAll r.1 r.2
    let chunk ← if bytes.isEmpty then pure chunk else IO.asTask (c.input.read 65536) .dedicated
    c.serve s chunk time
  else
    IO.sleep 5
    c.serve s chunk time

end Context

end LintServer.Console

open LintServer in
/-- Serves one editor. -/
def main : IO UInt32 := do
  let env ← Console.environment
  let (log, warnings) ← Startup.openLog Console.tryLog (Startup.logPaths env)
  let configPath := Location.configPath? env
  let config ← match configPath with
    | some p => Console.fileAt p
    | none => pure .absent
  let settings := Config.loadOrDefault env fun _ => config
  let c : Console.Context :=
    { input := ← IO.getStdin
      output := ← IO.getStdout
      searchPath := (((env "PATH").getD "").splitOn ":").map LintServer.Path.mk
      log := log
      filter := .ofSetting (env "RUST_LOG") }
  for e in warnings ++ Startup.entries env fun _ => config do
    c.write e
  let (s, orders) := Server.start settings configPath
    (← Console.isTaken settings.validator.installedBin)
  let s ← c.carryOutAll s orders
  let chunk ← IO.asTask (c.input.read 65536) .dedicated
  match ← c.serve s chunk (← IO.monoMsNow) with
  | .ok () => return 0
  | .error e =>
    (← IO.getStderr).putStr (Startup.failureText e)
    return 1
