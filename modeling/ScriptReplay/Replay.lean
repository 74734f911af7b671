import ScriptReplay.Config.Store
import ScriptReplay.Execution
import ScriptReplay.Listing
import ScriptReplay.Report.Basic
import ScriptReplay.Session.Opening

/-!
Replaying scripts: one file as one transaction, the files of a category in the order of their
names, the categories of a configuration in the order given. A file that fails is reported and the
next one runs. A dry run reads every file in the same way and executes nothing.
-/

namespace ScriptReplay.Replay

variable {σ : Type} [Session σ]

def reportedName (p : Path) : String :=
  match Path.fileName? p with
  | some name => Path.shown name
  | none => Path.shown p

def runFile (t : Tree) (s : σ) (p : Path) : Ran σ FileReport :=
  let name := reportedName p
  match (Session.inTree s t).readText p with
  | .error e =>
    ⟨s, [.fileStarted name, .fileUnreadable name e],
      ⟨name, .parseFailed (ReplayError.file e).message, 0⟩⟩
  | .ok source =>
    let ran := Execution.executeScript s source
    match ran.result with
    | .ok statements =>
      ⟨ran.session, [.fileStarted name] ++ ran.journal ++ [.fileCommitted name statements],
        ⟨name, .allCommitted statements, 0⟩⟩
    | .error e =>
      ⟨ran.session, [.fileStarted name] ++ ran.journal ++ [.fileFailed name e],
        ⟨name, .rolledBack e.message, 0⟩⟩

def runFiles (t : Tree) (s : σ) : List Path → Ran σ (List FileReport)
  | [] => ⟨s, [], []⟩
  | p :: ps =>
    let first := runFile t s p
    let later := runFiles t first.session ps
    ⟨later.session, first.journal ++ later.journal, first.result :: later.result⟩

def categoryScripts (t : Tree) (dir : Path) (category : String) (extension : Bytes) :
    Except Summary (List Path) :=
  let place := Path.join dir (Path.ofString category)
  match t.listingFault? place with
  | some e => .error (.unlisted category (ReplayError.file e).message)
  | none =>
    match Listing.scripts? t place extension with
    | none => .error (.skipped category .missingDirectory)
    | some [] => .error (.skipped category .noScripts)
    | some files => .ok files

def skipNote (s : Summary) : Note :=
  .summary (if s.status = .noScripts then .info else .warn) s.message

def runCategory (t : Tree) (dir : Path) (extension : Bytes) (s : σ) (category : String) :
    Ran σ Summary :=
  match categoryScripts t dir category extension with
  | .error summary => ⟨s, [skipNote summary], summary⟩
  | .ok files =>
    let ran := runFiles t s files
    let summary := (Summary.started category).recordAll ran.result
    ⟨ran.session, ran.journal ++ [.summary .info summary.message], summary⟩

def withoutLeadingDots (extension : Bytes) : Bytes :=
  extension.dropWhile (· == 0x2E)

def extensionBytes (c : Config) : Bytes :=
  Path.ofString c.extension

def runEach (t : Tree) (dir : Path) (extension : Bytes) (s : σ) :
    List String → Ran σ (List Summary)
  | [] => ⟨s, [], []⟩
  | category :: rest =>
    let first := runCategory t dir extension s category
    let later := runEach t dir extension first.session rest
    ⟨later.session, .categoryStarted category :: (first.journal ++ later.journal),
      first.result :: later.result⟩

def runCategories (t : Tree) (c : Config) (dir : Path) (s : σ) : Ran σ (List Summary) :=
  runEach t dir (withoutLeadingDots (extensionBytes c)) s c.categories

def parseFile (t : Tree) (p : Path) : Noted (Except ReplayError Script) :=
  match t.readText p with
  | .error e => ⟨[], .error (.file e)⟩
  | .ok source => ⟨(Script.directiveEffects source).map Note.directive, .ok (Script.read source)⟩

def parseReport (t : Tree) (p : Path) : Noted FileReport :=
  let name := match Path.fileName? p with
    | some name => Path.shown name
    | none => ""
  let parsed := parseFile t p
  match parsed.result with
  | .ok script => ⟨parsed.journal, ⟨name, .allCommitted script.statements.length, 0⟩⟩
  | .error e => ⟨parsed.journal ++ [.fileUnparsed name e], ⟨name, .parseFailed e.message, 0⟩⟩

def parseCategory (t : Tree) (dir : Path) (extension : Bytes) (category : String) :
    Noted Summary :=
  match categoryScripts t dir category extension with
  | .error summary => ⟨[skipNote summary], summary⟩
  | .ok files =>
    let parsed := files.map (parseReport t)
    ⟨parsed.flatMap (·.journal), (Summary.started category).recordAll (parsed.map (·.result))⟩

def parseCategories (t : Tree) (c : Config) (dir : Path) : Noted (List Summary) :=
  let parsed := c.categories.map (parseCategory t dir (extensionBytes c))
  ⟨parsed.flatMap (·.journal), parsed.map (·.result)⟩

structure Surroundings where
  password : Option String
  started : Int
  finished : Int

def scriptsDir (c : Config) : Except ReplayError Path :=
  match c.scriptsDir with
  | none => .error (.config "no scripts directory given (--scripts-dir)")
  | some dir => .ok (Path.ofString dir)

def dryRun (around : Surroundings) (t : Tree) (c : Config) : Noted (Except ReplayError Report) :=
  match scriptsDir c with
  | .error e => ⟨[], .error e⟩
  | .ok dir =>
    let parsed := parseCategories t c dir
    ⟨parsed.journal, .ok {
      target := "dry run"
      dryRun := true
      started := around.started
      finished := around.finished
      categories := parsed.result }⟩

def applySettings (s : σ) : List String → Ran σ Unit
  | [] => ⟨s, [], ()⟩
  | statement :: rest =>
    match Session.execute s statement.toList with
    | (s, .ok ()) => applySettings s rest
    | (s, .error e) =>
      let later := applySettings s rest
      ⟨later.session, .settingFailed statement e :: later.journal, ()⟩

def noOracleClient : SessionError :=
  .oracle "no client library"

def connect (t : Tree) (c : Connection) : Except SessionError (Tree × Ran Database Unit) :=
  match c.driver with
  | .oracle => .error noOracleClient
  | .sqlite =>
    match Database.openNamed t c.database with
    | .error e => .error e
    | .ok (t, db) =>
      let ran := applySettings db c.sessionInit
      .ok (t, ⟨ran.session, .connected (Session.describe db) :: ran.journal, ()⟩)

structure Finished (σ : Type) where
  report : Report
  tree : Tree
  session : σ

/-- A way to open a session for a connection. It leaves the tree after it and the session. -/
abbrev Opener (σ : Type) := Tree → Connection → Except SessionError (Tree × Ran σ Unit)

def runWith (connect : Opener σ) (around : Surroundings) (t : Tree) (c : Config) :
    Noted (Except ReplayError (Finished σ)) :=
  match scriptsDir c with
  | .error e => ⟨[], .error e⟩
  | .ok dir =>
    let warnings := if c.connection.driver.rollsBackDefinitions then [] else [.implicitCommits]
    let c := c.withPassword around.password
    match connect t c.connection with
    | .error e => ⟨warnings, .error (.connect c.connection.describe e)⟩
    | .ok (t, connected) =>
      let ran := runCategories t c dir connected.session
      ⟨warnings ++ connected.journal ++ ran.journal, .ok {
        report := {
          target := Session.describe connected.session
          dryRun := false
          started := around.started
          finished := around.finished
          categories := ran.result }
        tree := Session.inTree ran.session t
        session := ran.session }⟩

def run (around : Surroundings) (t : Tree) (c : Config) :
    Noted (Except ReplayError (Finished Database)) :=
  runWith connect around t c

end ScriptReplay.Replay
