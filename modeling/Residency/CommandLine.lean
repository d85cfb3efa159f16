import Residency.CommandLine.Outcome
import Residency.CommandLine.Prompt
import Residency.CommandLine.Request
import Residency.Startup

namespace Residency.CommandLine

def loadSettings (host : Host) (o : Outcome) : Except Outcome Settings :=
  match Settings.load o.tree (Settings.filePath host.home) with
  | .ok s => .ok s
  | .error e => o.fail (.load e)

def startCollector (host : Host) (s : Settings) (o : Outcome) :
    Except Outcome (Collector × Outcome) := do
  let (tree, opened) := o.tree.openLog host.home (.int s.logBytes)
  let o := { o with tree := tree }
  match opened with
  | .error e => o.fail (.log e)
  | .ok () =>
      let (event, made) := Collector.start o.tree.statsSource s.options
      let o := o.log host s.logLimits [event]
      match made with
      | none =>
          let o ← o.notice host (.collectorFailed (.str s.options.initial.toString))
          o.exit 1
      | some c =>
          let o ← o.notice host
            (.collectorReady (.int c.mapping.frequencies.length) (.int c.mapping.count))
          return (c, o)

def runFrequencies (host : Host) (o : Outcome) : Except Outcome Outcome := do
  let s ← loadSettings host o
  let (c, o) ← startCollector host s o
  o.report (Report.frequencies c.minFrequencies)

def snapshotReport : Format → List Int → ProcessUsage → Report
  | .table => Report.table
  | .json => Report.json
  | .csv => Report.rows

def runSnapshot (host : Host) (pid : Option Int) (format : Format) (o : Outcome) :
    Except Outcome Outcome := do
  let s ← loadSettings host o
  let (c, o) ← startCollector host s o
  let source := o.tree.statsSource
  let (events, usage) := match pid with
    | none => c.currentUsage source host.pid host.uid
    | some pid => c.pidUsage source host.owner pid none
  let o := o.log host s.logLimits events
  match usage with
  | .error e => o.fail (.collector e)
  | .ok none =>
      let o ← o.notice host (.snapshotUnavailable (.int (pid.getD host.pid)))
      return o.print "No usage available.\n".toList
  | .ok (some u) =>
      let o ← o.notice host (.snapshotTaken (.int u.id) (.int u.threads.length))
      o.report (snapshotReport format c.minFrequencies u)

def runShow (host : Host) (o : Outcome) : Except Outcome Outcome := do
  let s ← loadSettings host o
  let path := Settings.filePath host.home
  o.report (Report.settings path ((o.tree.exists? path).toOption == some true) s)

def runReset (host : Host) (o : Outcome) : Except Outcome Outcome :=
  let path := Settings.filePath host.home
  let (tree, saved) := ({} : Settings).toDraft.save o.tree path
  let o := { o with tree := tree }
  match saved with
  | .error e => o.fail (.save e)
  | .ok () => (o.notice host (.settingsSaved (.str path.toString))).map fun o =>
      o.print ("Config reset to defaults at " ++ path.toString ++ "\n").toList

def runMisuse (m : Misuse) (o : Outcome) : Outcome :=
  let usage :=
    if m.error.showsUsage then m.command.usageLine ++ m.command.hint ++ "\n" else ""
  { o.printError (usage ++ "Error: " ++ m.error.message ++ "\n") with exitCode := 2 }

def runConfirm (confirmed : Bool) (input : String) (o : Outcome) : Except Outcome Outcome :=
  if confirmed then .ok o
  else
    let (shown, yes) := confirm (inputLines input)
    let o := { o with output := o.output ++ shown }
    if yes then .ok o else (o.printError "Aborted!\n").exit 1

def runRequest (host : Host) (input : String) (o : Outcome) : Request → Except Outcome Outcome
  | .help c => .ok (o.print c.helpPage.toList)
  | .nothing c => (o.printError c.helpPage).exit 2
  | .version => .ok (o.print versionLine.toList)
  | .frequencies => runFrequencies host o
  | .snapshot pid format => runSnapshot host pid format o
  | .show => runShow host o
  | .reset confirmed extra => (runConfirm confirmed input o).bind fun o =>
      if extra.isEmpty then runReset host o
      else .error (runMisuse ⟨.reset, .extraArguments extra⟩ o)

def run (host : Host) (tree : FileTree) (args : List String) (input : String) : Outcome :=
  let start : Outcome := { tree := tree }
  match Request.ofArguments args with
  | .error m => runMisuse m start
  | .ok r => Outcome.ofRun (runRequest host input start r)

end Residency.CommandLine
