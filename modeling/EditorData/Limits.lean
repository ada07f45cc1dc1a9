import EditorData.Json.Value

/-!
# Limits of the machine

Reading JSON, printing it and making the folders that lead to a file go one level deeper for
every level of their material. How deep they may go depends on the machine and on what it is in
the middle of, and so does how long it can wait. These limits are given from outside; nothing in
the library fixes them. What is beyond them fails.
-/

namespace EditorData

/-- What the machine allows where a run needs it. -/
class Limits where
  /-- How many arrays and objects may be open when the catalogue is read. -/
  catalogueRoom : Nat
  /-- How many may be open when an initializer is read. -/
  initializerRoom : Nat
  /-- How deep the configuration properties may go when they are printed. -/
  printingRoom : Nat
  /-- What a value that is no array and no object counts for when it is printed. -/
  printingDepth : Json -> Nat
  /-- How many folders above its own one may be made at once for an output. -/
  outputFolders : Nat
  /-- How many folders above its own one may be made at once for the log file. -/
  logFolders : Nat
  /-- How many seconds the machine can wait at once, if there is a bound. -/
  longestPause : Option Nat

/-- The limits of a machine that goes a thousand levels deep, a few of which are in use when a
run reads, prints or saves, and whose clock counts nanoseconds in 63 bits. Printing takes one
level more for a number with a fraction. -/
@[reducible] def Limits.usual : Limits where
  catalogueRoom := 991
  initializerRoom := 991
  printingRoom := 992
  printingDepth
    | .real _ => 2
    | _ => 1
  outputFolders := 992
  logFolders := 994
  longestPause := some 9223372036

end EditorData
