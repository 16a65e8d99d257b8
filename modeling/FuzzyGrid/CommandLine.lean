import FuzzyGrid.Document.Config
import FuzzyGrid.Document.ModelFile

/-!
# The command line

Evaluate a model file, with the settings of a configuration file if one is
named, and print every result.
-/

namespace FuzzyGrid

/-- Why a run of the command line fails. -/
inductive RunFault where
  | noModel
  | config (fault : ConfigFault)
  | file (fault : ModelFileFault)
  | model (error : ModelError Float)
  | result (error : CommandError Float)
  /-- A sort gave up, which ends the program. -/
  | sortGaveUp

/-- The messages of a failed run, the outermost first. -/
def RunFault.messages : RunFault → List String
  | noModel => ["Usage: evaluate_model <model.json> [engine_config.json]"]
  | config fault => fault.messages
  | file fault => fault.messages
  | model error => error.messages
  | result error => [error.message]
  | sortGaveUp =>
    ["user-provided comparison function does not correctly implement a total order"]

/-- A cause below the outermost message, every line of it set in. -/
def indented (cause : String) : String :=
  "    " ++ String.intercalate "\n    " (cause.splitOn "\n")

/-- The text of a failed run: the outermost message, then its causes. -/
def RunFault.display (fault : RunFault) : String :=
  match fault.messages with
  | [] => "Error: "
  | [message] => "Error: " ++ message
  | message :: causes =>
    "Error: " ++ message ++ "\n\nCaused by:\n"
      ++ String.intercalate "\n" (causes.map indented)

/-- The exit status of a failed run. -/
def RunFault.status : RunFault → UInt32
  | sortGaveUp => 101
  | _ => 1

namespace CommandLine

/-- A rule across the page. -/
def rule : String :=
  String.ofList (List.replicate 80 '=')

/-- The lines above the results; `timing` ends the line of counts. -/
def heading (summary : Summary) (timing : String) : String :=
  "\n" ++ rule ++ "\nMODEL RESULTS: " ++ toString summary.nodes ++ " nodes, "
    ++ toString summary.levels ++ " levels" ++ timing ++ "\n" ++ rule ++ "\n"

def resultText (context : ResultContext Float) (name : String) :
    Except RunFault String :=
  match context.fetch Origin.unknown name with
  | .error error => .error (.result error)
  | .ok result =>
    .ok ("\n" ++ name ++ " (" ++ result.dataType.name ++ "):\n" ++ result.value.text
      ++ "\n")

/-- Print results up to the first that is missing. -/
def printResults (context : ResultContext Float) :
    List String → Workspace → Workspace × Except RunFault Unit
  | [], workspace => (workspace, .ok ())
  | name :: rest, workspace =>
    match resultText context name with
    | .error fault => (workspace, .error fault)
    | .ok text => printResults context rest (workspace.print text)

/-- The model and the settings that the arguments name. -/
def load (args : List String) (workspace : Workspace) :
    Except RunFault (Config × ModelFile Float) :=
  match args with
  | [] => .error .noModel
  | modelPath :: others =>
    match Config.loadIfNamed workspace others.head? with
    | .error fault => .error (.config fault)
    | .ok config =>
      match ModelFile.load workspace modelPath with
      | .error fault => .error (.file fault)
      | .ok file => .ok (config, file)

/-- An evaluated model that is ready to be shown. -/
structure Evaluation where
  /-- The names of the results to show, in this order. -/
  names : List String
  summary : Summary
  context : ResultContext Float

def evaluate (config : Config) (file : ModelFile Float) (workspace : Workspace) :
    Workspace × Except RunFault Evaluation :=
  match file.toModel with
  | .error error => (workspace, .error (.model error))
  | .ok model =>
    match model.evaluate? ⟨ResultContext.empty config.range, workspace⟩ with
    | (session, none) => (session.workspace, .error .sortGaveUp)
    | (session, some (.error error)) => (session.workspace, .error (.model error))
    | (session, some (.ok summary)) =>
      (session.workspace,
        .ok ⟨file.commands.map Command.result, summary, session.context⟩)

/-- Load and evaluate the model that the arguments name. -/
def compute (args : List String) (workspace : Workspace) :
    Workspace × Except RunFault Evaluation :=
  match load args workspace with
  | .error fault => (workspace, .error fault)
  | .ok (config, file) => evaluate config file workspace

def Evaluation.print (evaluation : Evaluation) (timing : String) (workspace : Workspace) :
    Workspace × Except RunFault Unit :=
  printResults evaluation.context evaluation.names
    (workspace.print (heading evaluation.summary timing))

/-- Run the command line in a workspace; `timing` ends the line of counts. -/
def run (args : List String) (timing : String) (workspace : Workspace) :
    Workspace × Except RunFault Unit :=
  match compute args workspace with
  | (after, .error fault) => (after, .error fault)
  | (after, .ok evaluation) => evaluation.print timing after

end CommandLine

end FuzzyGrid
