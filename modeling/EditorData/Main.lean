import EditorData.CommandLine.Machine

/-!
# The command

The outer layer of the program. It takes the files that a run may touch into a storage, lets
the run take place there, and writes back what the run has changed. It has no network: a
download finds no connection.
-/

namespace EditorData.CommandLine

attribute [local instance] machine environmentFiles retrying

/-- What the request for help is answered with. -/
def helpText : String :=
  "usage: zls-gen [options] config_path schema_path readme_path data_path\n\n" ++
  "Generate ZLS configuration files and builtin data from the Zig language reference\n\n" ++
  "options:\n" ++
  "  -h, --help                         show this help\n" ++
  "  --vscode-config-path PATH          output zls-vscode configurations\n" ++
  "  --generate-version-data VERSION    output a version data file\n" ++
  "  --generate-version-data-path PATH  override the path of the version data file\n" ++
  "  --langref-file PATH                read the reference from this file\n" ++
  "  --config-options PATH              path of the option catalogue\n" ++
  "  --env-file PATH                    load environment variables from this file\n" ++
  "  --log-level LEVEL                  logging level\n" ++
  "  --log-file PATH                    also write logs to this file\n"

/-- The variables that a run looks at. -/
def environmentVariables : List Text :=
  [Settings.urlVariable, Settings.rootVariable, Settings.timeoutVariable,
    Settings.attemptsVariable, Settings.delayVariable, Settings.levelVariable,
    Settings.logFileVariable, Settings.offVariable]

/-- The settings of the environment, not yet obtained. -/
def environmentSession : IO Settings.Session :=
  environmentVariables.foldlM (fun session name => do
    let value <- IO.getEnv (String.ofList name)
    return session.setVariable name (value.map String.toList)) .initial

/-- What is at a path on disk. -/
def nodeOnDisk? (path : String) : IO (Option Storage.Node) := do
  try
    let file <- IO.FS.realPath path
    if (<- file.isDir) then return some .folder
    let content <- IO.FS.readBinFile path
    return some (.file content.toList)
  catch _ => return none

/-- Take a path and the folders that lead to it into a storage. -/
def capture (storage : Storage) (path : Text) : IO Storage :=
  (Storage.Path.chain path).foldlM (fun captured step => do
    match captured.trail step, (<- nodeOnDisk? (String.ofList step)) with
    | .ok trail, some node => return captured.put trail.place node
    | _, _ => return captured) storage

/-- The paths that a run reads or writes, the log file of the settings apart. -/
def Arguments.touched (arguments : Arguments) : List Text :=
  [arguments.configPath, arguments.schemaPath, arguments.readmePath,
    arguments.given? .editorProperties,
    (arguments.given? .version).bind arguments.versionDataPath,
    (arguments.given? .referenceFile).map Storage.Path.tidy,
    (arguments.value? .catalogue).join, arguments.given? .environmentFile,
    arguments.given? .logFile].filterMap id

/-- The workspace of a run: what it may touch of the files on disk, and the environment. -/
def captureWorkspace (words : List Text) : IO Generation.Workspace := do
  let current <- IO.currentDir
  let place := (Storage.Path.names current.toString.toList).filter (!·.isEmpty)
  let settings <- environmentSession
  match Arguments.ofWords words with
  | .error _ => return ⟨.empty place, settings, .initial⟩
  | .ok arguments =>
      let storage <- arguments.touched.foldlM capture (.empty place)
      let answer := settings.make storage (arguments.given? .environmentFile)
      let logFile := match answer.result with
        | .ok issue => issue.settings.logFile
        | .error _ => none
      let complete <- logFile.toList.foldlM capture storage
      return ⟨complete, settings, .initial⟩

/-- Write what has been added or changed to disk. -/
def restore (before after : Storage) : IO Unit := do
  for (place, node) in after.nodes do
    if before.node? place != some node then
      let path := String.ofList (Logging.absolutePath place)
      match node with
      | .folder => IO.FS.createDirAll path
      | .file content => IO.FS.writeBinFile path (ByteArray.mk content.toArray)

end EditorData.CommandLine

open EditorData in
open EditorData.CommandLine in
attribute [local instance] machine environmentFiles retrying in
/-- Run the command with its arguments. The status of a run that nothing handles is that of a
failure. -/
def main (arguments : List String) : IO UInt32 := do
  let words := arguments.map String.toList
  let workspace <- CommandLine.captureWorkspace words
  let (job, ending) := CommandLine.run workspace false [] words
  CommandLine.restore workspace.storage job.storage
  IO.eprint (String.ofList job.console)
  match ending with
  | .helped => IO.print CommandLine.helpText
  | .aborted failure =>
      IO.eprintln ("zls-gen: ".toList ++ failure.message |> String.ofList)
  | _ => pure ()
  return UInt32.ofNat (ending.status?.getD 1)
