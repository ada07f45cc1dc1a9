import EditorData.Text.Quoted

/-!
# Paths that cannot be used

Most causes are of the system and have a number there; such a fault names the path. A path
with a null character is refused before any name of it is looked at, too many folders are
refused before any of them is made, and a text that has no form in UTF-8 is refused when the file
has been opened for it. None of the three is a fault of the system.
-/

namespace EditorData.Storage

/-- Why a path cannot be used. -/
inductive Cause where
  | missing
  | occupied
  | notFolder
  | isFolder
  | tooLong
  | nullCharacter
  /-- More folders to make than are made at once. -/
  | tooDeep
  /-- A text with a surrogate, which has no form in UTF-8. -/
  | unencodable
deriving DecidableEq, Repr

/-- A path that cannot be used, and why. -/
structure Fault where
  cause : Cause
  path : Text
deriving DecidableEq, Repr

/-- The wording of a cause, with its number if it is one of the system. -/
def Cause.text : Cause -> Text
  | .missing => "[Errno 2] No such file or directory: ".toList
  | .occupied => "[Errno 17] File exists: ".toList
  | .notFolder => "[Errno 20] Not a directory: ".toList
  | .isFolder => "[Errno 21] Is a directory: ".toList
  | .tooLong => "[Errno 36] File name too long: ".toList
  | .nullCharacter => "embedded null byte".toList
  | .tooDeep => "too many folders to make at once".toList
  | .unencodable => "a text with a surrogate is not UTF-8".toList

/-- Whether a fault is one of the system. -/
def Fault.isOfSystem (fault : Fault) : Bool :=
  fault.cause != .nullCharacter && fault.cause != .tooDeep && fault.cause != .unencodable

/-- The wording of a fault, which names the path if it is one of the system. -/
def Fault.message (fault : Fault) : Text :=
  fault.cause.text ++ if fault.isOfSystem then Text.quoted fault.path else []

end EditorData.Storage
