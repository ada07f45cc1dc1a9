import EditorData.Template.Kind
import EditorData.Template.Vocabulary.Collection
import EditorData.Template.Vocabulary.Kind
import EditorData.Template.Vocabulary.Number
import EditorData.Template.Vocabulary.Operation
import EditorData.Template.Vocabulary.Text

/-!
# What kinds offer

Every kind with the members that it holds itself, in their order.
-/

namespace EditorData.Template

open Vocabulary

/-- The members that a kind holds. -/
def Kind.members : Kind -> List Member
  | .object => objectMembers
  | .text => textMembers
  | .integer => integerMembers
  | .truth => truthMembers
  | .nothing => nothingMembers
  | .tuple => tupleMembers
  | .dictionary => dictionaryMembers
  | .view => viewMembers
  | .ofKinds => kindMembers
  | .generic => genericMembers
  | .method => methodMembers
  | .slot => slotMembers
  | .classMethod => classMethodMembers
  | .staticMethod => staticMethodMembers
  | .property => propertyMembers
  | .field => fieldMembers
  | .appliedMethod => appliedMethodMembers
  | .appliedSlot => appliedSlotMembers

end EditorData.Template
