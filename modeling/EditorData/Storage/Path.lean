import EditorData.Text.Basic

/-!
# Paths

A path is a text of names between slashes. It is absolute when it begins with one. The
functions here work on the text alone, without looking at any folder.
-/

namespace EditorData.Storage.Path

/-- The names between the slashes of a path, empty ones included. -/
def names (path : Text) : List Text :=
  Text.parts '/' path

/-- Whether a path begins at the root. -/
def isAbsolute (path : Text) : Bool :=
  path.head? == some '/'

/-- The last name of a path: everything behind its last slash. -/
def name (path : Text) : Text :=
  (path.reverse.takeWhile (· != '/')).reverse

/-- The folder part of a path: everything in front of its last slash, and of the slashes
next to that one unless nothing else is there. -/
def folder (path : Text) : Text :=
  let head := (path.reverse.dropWhile (· != '/')).reverse
  if head.all (· == '/') then head else Text.trimEnd (· == '/') head

/-- The folders that lead to a path and the path itself, outermost first. -/
def chain (path : Text) : List Text :=
  if _shorter : (folder path).length < path.length ∧ folder path ≠ [] then
    chain (folder path) ++ [path]
  else [path]
termination_by path.length
decreasing_by exact _shorter.1

/-- A name inside a folder. -/
def join (folder name : Text) : Text :=
  if isAbsolute name then name
  else if folder = [] ∨ folder.getLast? = some '/' then folder ++ name
  else folder ++ '/' :: name

/-- The path without empty names and without names that stay in place. Nothing but such
names is the current folder itself, and exactly two leading slashes are kept. -/
def tidy (path : Text) : Text :=
  let leading := path.takeWhile (· == '/')
  let root := if leading.length = 0 then [] else if leading.length = 2 then ['/', '/'] else ['/']
  let kept := (names path).filter fun name => name ≠ [] ∧ name ≠ ['.']
  match root ++ Text.joined ['/'] kept with
  | [] => ['.']
  | tidied => tidied

end EditorData.Storage.Path
