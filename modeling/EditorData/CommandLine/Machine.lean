import EditorData.CommandLine.Run
import EditorData.Settings.EnvFile

/-!
# What the command runs with

The limits of the machine and the libraries from outside are parameters of a run. These are the
ones of the command.
-/

namespace EditorData.CommandLine

/-- The machine of the command is a usual one. -/
@[reducible] def machine : Limits :=
  .usual

/-- The command searches nowhere for an environment file that is not named. -/
@[reducible] def environmentFiles : Settings.EnvironmentFiles :=
  Settings.EnvFile.library []

/-- The command tries again one try after the other. -/
@[reducible] def retrying : Download.Retrying :=
  .plain

end EditorData.CommandLine
