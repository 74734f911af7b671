import ScriptReplay.Command.Performance
import ScriptReplay.Journal.Filter
import ScriptReplay.Journal.Line
import ScriptReplay.Session.Stored
import Std.Time.DateTime.Timestamp

/-!
The command line. What a command can touch is read into a tree, the command is carried out on that
tree, and what changed in it is written back.
-/

namespace ScriptReplay.CommandLine

def usage : String :=
  ofLines [
    "Usage: dbmeta [OPTIONS] <COMMAND>",
    "",
    "Commands:",
    "  run    Execute every category directory under the scripts directory",
    "  init   Write a configuration file with default settings",
    "  parse  Parse one script file and print its statements",
    "",
    "Options:",
    "  -c, --config <CONFIG>          Path to JSON configuration file",
    "      --log-format <LOG_FORMAT>  Log format: text or json",
    "      --verbosity <VERBOSITY>    Log verbosity: debug, info, warn, error",
    "  -h, --help                     Print help",
    "  -V, --version                  Print version"]

def Problem.message : Problem → String
  | helpWanted | noArguments => usage
  | versionWanted => "dbmeta 0.1.0\n"
  | noCommand => "error: a command is missing\n"
  | unknownCommand => "error: unknown command\n"
  | unknownArgument => "error: unexpected argument\n"
  | missingArgument => "error: the file to parse is missing\n"
  | unfitValue => "error: a value is missing or is none of the possible ones\n"
  | unfitNumber => "error: a port is a number from 0 to 65535\n"
  | repeatedOption => "error: an option is given twice\n"
  | needlessValue => "error: an option takes no value\n"

def logLine (format : String) (time : Text) (n : Note) : String :=
  if format = "json" then String.ofList (n.document time).dense
  else
    let level := String.ofList (List.replicate (5 - n.level.name.length) ' ') ++ n.level.name
    s!"{String.ofList time} {level} {n.line}"

def waysAlong (path : String) : List String :=
  let names := path.splitOn "/"
  (List.range names.length).map fun k => "/".intercalate (names.take (k + 1))

def plant (t : Tree) (path : String) : Node → Tree
  | .directory =>
    let p := Path.ofString path
    (t.makeDirectories (Path.isAbsolute p) (Path.components p).reverse).toOption.getD t
  | .file content => (t.write (Path.ofString path) content).toOption.getD t
  | .link _ => t

def contentOf (b : Bytes) : Content :=
  match Tables.ofStored? b with
  | some tables => .database tables
  | none => .bytes b

def nodeAt? (path : String) : IO (Option Node) := do
  try
    let found ← IO.FS.realPath path
    if ← found.isDir then return some .directory
    return some (.file (contentOf (← IO.FS.readBinFile found).toList))
  catch _ => return none

def observe (t : Tree) (path : String) : IO Tree :=
  (waysAlong path).foldlM (fun t way => do
    match ← nodeAt? way with
    | some node => return plant t way node
    | none => return t) t

def fileError : IO.Error → FileError
  | .permissionDenied .. => .denied
  | e => .other (toString e)

def observeDirectory (t : Tree) (path : String) : IO Tree := do
  let t ← observe t path
  try
    let entries ← (← IO.FS.realPath path).readDir
    entries.foldlM (fun t entry => observe t (path ++ "/" ++ entry.fileName)) t
  catch e => return t.closeListing (Path.ofString path) (fileError e)

def observeDatabase (t : Tree) (name : String) : IO Tree := do
  match Address.ofText name.toList with
  | .error _ => return t
  | .ok address =>
    let t ← observe t (Path.shown address.path)
    match t.locate Database.longestWay address.path with
    | .error _ => return t
    | .ok location =>
      let beside := Database.neighbourEndings.map (Database.beside location)
      (location :: beside).foldlM (fun t l => observe t (Path.shown (Path.ofNames true l))) t

def observeFor (env : Environment) (t : Tree) (i : Invocation) : IO Tree := do
  let standard := (standardConfigPath env).getD ""
  match i.task with
  | .parse file _ => observe t file
  | .init output _ => observe t (output.getD standard)
  | .run overrides _ _ =>
    let t ← observe t (i.config.getD standard)
    match (loadConfig env t i.config).result with
    | .error _ => return t
    | .ok c =>
      let c := overrides.apply c
      let t ← observeDatabase t (c.connection.database.getD "")
      let dir := Path.ofString (c.scriptsDir.getD "")
      c.categories.foldlM (fun t category =>
        observeDirectory t (Path.shown (Path.join dir (Path.ofString category)))) t

def isFree : Option Node → Bool
  | some (.file (.bytes b)) => (Content.bytes b).isEmptyDatabase
  | _ => true

def publish (old new : Tree) : IO Unit :=
  (old.changes new).forM fun (location, node) => do
    let place := Path.shown (Path.ofNames true location)
    match node with
    | .directory => IO.FS.createDirAll place
    | .file (.bytes b) => IO.FS.writeBinFile place ⟨b.toArray⟩
    | .file (.database tables) =>
      if isFree (old.at? location) then IO.FS.writeBinFile place ⟨tables.stored.toArray⟩
      else throw (.userError s!"{place} is a database of another kind")
    | .link _ => return ()

def now : IO Int := do
  return (← Std.Time.Timestamp.now).toNanosecondsSinceUnixEpoch.val

def configDirectory : IO (Option String) := do
  match ← IO.getEnv "XDG_CONFIG_HOME", ← IO.getEnv "HOME" with
  | some dir, home =>
    if dir.startsWith "/" then return some dir
    else return home.map (· ++ "/.config")
  | none, home => return home.map (· ++ "/.config")

def carryOut (i : Invocation) : IO UInt32 := do
  let started ← now
  let configDir ← configDirectory
  let password ← IO.getEnv "DBMETA_PASSWORD"
  let here := Path.names (Path.ofString (← IO.currentDir).toString)
  let outside : Environment := ⟨configDir, ⟨password, started, started⟩⟩
  let top := (Tree.empty.makeDirectories true here.reverse).toOption.getD Tree.empty
  let before ← observeFor outside { top with here := here } i
  let finished ← now
  let done := perform { outside with around := ⟨password, started, finished⟩ } before i
  let filter := LogFilter.choose (← IO.getEnv "RUST_LOG") i.verbosity
  for n in done.journal.filter filter.shows do
    IO.eprintln (logLine i.logFormat (Instant.text finished) n)
  publish before done.tree
  IO.print done.output
  IO.eprint done.complaint
  return done.exitStatus.toUInt32

def start (arguments : List String) : IO UInt32 := do
  match read arguments with
  | .ok i =>
    try carryOut i
    catch e =>
      IO.eprintln s!"Error: IO error: {e}"
      return 2
  | .error p =>
    if p.exitStatus = 0 then IO.print p.message else IO.eprint p.message
    return p.exitStatus.toUInt32

end ScriptReplay.CommandLine

def main (arguments : List String) : IO UInt32 :=
  ScriptReplay.CommandLine.start arguments
