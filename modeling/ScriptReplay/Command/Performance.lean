import ScriptReplay.Command.Invocation
import ScriptReplay.Replay
import ScriptReplay.Report.Document

/-!
Carrying out what a command line asks for, on a directory tree. What comes of it is the tree after
it, the text for standard output, the notes made, and whether everything succeeded; the exit status
follows from the last.
-/

namespace ScriptReplay.CommandLine

structure Environment where
  configDir : Option String
  around : Replay.Surroundings

structure Performance where
  tree : Tree
  output : String
  journal : Journal
  result : Except ReplayError Bool

namespace Performance

def failed (t : Tree) (journal : Journal) (e : ReplayError) : Performance :=
  ⟨t, "", journal, .error e⟩

def exitStatus (p : Performance) : Nat :=
  match p.result with
  | .ok true => 0
  | .ok false => 1
  | .error _ => 2

def complaint (p : Performance) : String :=
  match p.result with
  | .ok _ => ""
  | .error e => e.detailed ++ "\n"

end Performance

def standardConfigPath (env : Environment) : Option String :=
  env.configDir.map fun dir =>
    if dir.toList.getLast? = some '/' then dir ++ "dbmeta/config.json"
    else dir ++ "/dbmeta/config.json"

def loadConfig (env : Environment) (t : Tree) (asked : Option String) :
    Noted (Except ReplayError Config) :=
  match asked, standardConfigPath env with
  | some path, _ => Config.load t path
  | none, some path =>
    let loaded := Config.loadStandard t path
    ⟨loaded.journal, .ok loaded.result⟩
  | none, none => ⟨[], .ok Config.standard⟩

def ofLines (ls : List String) : String :=
  String.join (ls.map (· ++ "\n"))

def reportText (asJson : Bool) (r : Report) : String :=
  if asJson then ofLines [String.ofList r.toJson.text] else ofLines r.lines

section

variable {σ : Type} [Session σ] (connect : Replay.Opener σ)

def replay (env : Environment) (t : Tree) (c : Config) (dryRun : Bool) :
    Noted (Except ReplayError (Report × Tree)) :=
  if dryRun then
    let parsed := Replay.dryRun env.around t c
    ⟨parsed.journal, parsed.result.map fun report => (report, t)⟩
  else
    let ran := Replay.runWith connect env.around t c
    ⟨ran.journal, ran.result.map fun finished => (finished.report, finished.tree)⟩

def performRun (env : Environment) (t : Tree) (c : Config) (dryRun asJson : Bool) : Performance :=
  let replayed := replay connect env t c dryRun
  match replayed.result with
  | .error e => .failed t replayed.journal e
  | .ok (report, after) =>
    ⟨after, reportText asJson report, replayed.journal, .ok report.isSuccess⟩

end

def performInit (env : Environment) (t : Tree) (output : Option String) (force : Bool) :
    Performance :=
  match output <|> standardConfigPath env with
  | none => .failed t [] (.config "no config directory available")
  | some path =>
    if t.isPresent (Path.ofString path) ∧ !force then
      .failed t [] (.config s!"{path} already exists (use --force to overwrite)")
    else
      match Config.standard.save t path with
      | .error e => .failed t [] e
      | .ok t => ⟨t, ofLines [s!"Wrote {path}"], [], .ok true⟩

def numberedStatements (index : Nat) : List Text → List String
  | [] => []
  | statement :: rest =>
    [s!"-- [{index}]", String.ofList statement, ""] ++ numberedStatements (index + 1) rest

def scriptText (asJson : Bool) (script : Script) : String :=
  if asJson then ofLines [String.ofList (Json.ofTexts script.statements).text]
  else
    let honored := if script.directed then ", SET TERM directives honored" else ""
    ofLines (numberedStatements 1 script.statements ++
      [s!"{script.statements.length} statement(s){honored}"])

def unreadableFile (file : String) : ReplayError → ReplayError
  | .file e => .config s!"cannot read {file}: {e.message}"
  | e => e

def performParse (t : Tree) (file : String) (asJson : Bool) : Performance :=
  let parsed := Replay.parseFile t (Path.ofString file)
  match parsed.result with
  | .error e => .failed t parsed.journal (unreadableFile file e)
  | .ok script => ⟨t, scriptText asJson script, parsed.journal, .ok true⟩

def performWith {σ : Type} [Session σ] (connect : Replay.Opener σ) (env : Environment) (t : Tree)
    (i : Invocation) : Performance :=
  match i.task with
  | .run overrides dryRun asJson =>
    let loaded := loadConfig env t i.config
    match loaded.result with
    | .error e => .failed t loaded.journal e
    | .ok c =>
      let done := performRun connect env t (overrides.apply c) dryRun asJson
      { done with journal := loaded.journal ++ done.journal }
  | .init output force => performInit env t output force
  | .parse file asJson => performParse t file asJson

def perform (env : Environment) (t : Tree) (i : Invocation) : Performance :=
  performWith Replay.connect env t i

end ScriptReplay.CommandLine
