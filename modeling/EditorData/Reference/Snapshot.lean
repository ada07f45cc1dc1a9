import EditorData.Logging.Entry
import EditorData.Storage.Document

/-!
# Snapshots of the reference

The reference document can be read from a file instead of being downloaded. Its path is
tidied before it is used, so a fault names the tidied path.
-/

namespace EditorData.Reference

/-- What is reported in front of reading a snapshot. -/
def snapshotReport (path : Text) : Logging.Entry :=
  ⟨.info, "📂 Reading langref from ".toList ++ path⟩

/-- The text of the snapshot at a path. -/
def readSnapshot (storage : Storage) (path : Text) : Except Storage.DocumentFault Text :=
  storage.readDocument (Storage.Path.tidy path)

end EditorData.Reference
