import EditorData.Catalogue.Loading
import EditorData.Download.Fetch
import EditorData.Logging.Setup
import EditorData.Reference.Builtin
import EditorData.Section
import EditorData.Storage.Document

/-!
# Failures of a run

Everything that can end a run before its last file is written. Three groups are told apart:
faults in the material, which are reported under the name of their kind; faults of files
and of the system, which are reported by their message; and all others, which are not
reported but end the run by themselves.
-/

namespace EditorData.Generation

/-- Why a run does not go on. -/
inductive Failure where
  | storage (fault : Storage.Fault)
  /-- A document that is no UTF-8. -/
  | undecodable
  | settings (fault : Settings.Fault)
  | logging (fault : Logging.Fault)
  | catalogue (fault : Catalogue.LoadFault)
  /-- An option of the catalogue with a member that is no string. -/
  | memberNotText
  | entry (fault : Catalogue.Fault)
  | readme (fault : Section.Fault)
  | reference (fault : Reference.Fault)
  | download (fault : Download.Fault)
  /-- A file for which no path was given. -/
  | missingPath
deriving DecidableEq, Repr

namespace Failure

/-- The failure to read a document. -/
def ofDocument : Storage.DocumentFault -> Failure
  | .storage fault => .storage fault
  | .undecodable => .undecodable

/-- The kind of a fault in markup. -/
def markupKind : Markup.Fault -> Text
  | .unsupportedTag .. => "UnsupportedTagError".toList
  | .unclosedTag .. | .missingTarget .. => "InvalidTagError".toList
  | .missingEnd .. | .missingNestedEnd .. => "MissingEndTagError".toList

/-- The kind of a fault in the material. -/
def kind? : Failure -> Option Text
  | .entry (.unsupportedType _) => some "UnsupportedTypeError".toList
  | .readme _ => some "ReadmeSectionNotFoundError".toList
  | .reference (.structure _) => some "DocumentStructureError".toList
  | .reference (.markup fault) => some (markupKind fault)
  | .reference (.signature _) => some "MalformedSignatureError".toList
  | .download (.failed ..) => some "DownloadError".toList
  | _ => none

/-- Whether a failure is one of files or of the system. -/
def isOfSystem : Failure -> Bool
  | .storage fault => fault.isOfSystem
  | .download (.system _) => true
  | _ => false

/-- The wording of a failure. -/
def message : Failure -> Text
  | .storage fault => fault.message
  | .undecodable => "a document is not UTF-8".toList
  | .settings fault => fault.message
  | .logging fault => fault.message
  | .catalogue fault => fault.message
  | .memberNotText => "a member of an option is no string".toList
  | .entry fault => fault.message
  | .readme fault => fault.message
  | .reference fault => fault.message
  | .download fault => fault.message
  | .missingPath => "no path is given for a file".toList

/-- What is reported about a failure in a run whose material has the given source, if anything
is. -/
def report? (source : Text) (failure : Failure) : Option Text :=
  match failure.kind? with
  | some kind =>
      some ("❌ Generation failed (".toList ++ kind ++ ", source: ".toList ++ source ++
        "): ".toList ++ failure.message)
  | none =>
      if failure.isOfSystem then some ("❌ File error: ".toList ++ failure.message) else none

end Failure

end EditorData.Generation
