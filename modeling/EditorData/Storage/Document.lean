import EditorData.Storage.Basic
import EditorData.Text.Utf8

/-!
# Documents

A document is a file of UTF-8 text. Carriage returns in it, alone or before a line feed, are
read as line feeds.
-/

namespace EditorData.Storage

/-- Why a document cannot be read. -/
inductive DocumentFault where
  | storage (fault : Fault)
  /-- The bytes are no UTF-8. -/
  | undecodable
deriving DecidableEq, Repr

/-- The text of bytes in UTF-8, if they are such. -/
def documentOfBytes? (bytes : List UInt8) : Option Text :=
  (Text.ofUtf8? bytes).map Text.normalizeNewlines

/-- The text of the document at a path. -/
def readDocument (storage : Storage) (path : Text) : Except DocumentFault Text :=
  match storage.read path with
  | .error fault => .error (.storage fault)
  | .ok bytes =>
      match documentOfBytes? bytes with
      | some text => .ok text
      | none => .error .undecodable

end EditorData.Storage
