import EditorData.Json.Value

/-!
# How deep values go

An array or object goes one deeper than what is in it. What any other value counts for is
given, since it differs between reading and printing.
-/

namespace EditorData.Json

mutual

/-- How deep a value goes. -/
def depth (leaf : Json -> Nat) : Json -> Nat
  | .array items => depthOfItems leaf items + 1
  | .object members => depthOfMembers leaf members + 1
  | value => leaf value

/-- The greatest depth among items. -/
def depthOfItems (leaf : Json -> Nat) : List Json -> Nat
  | [] => 0
  | item :: rest => max (depth leaf item) (depthOfItems leaf rest)

/-- The greatest depth among members. -/
def depthOfMembers (leaf : Json -> Nat) : List (Codes × Json) -> Nat
  | [] => 0
  | (_, value) :: rest => max (depth leaf value) (depthOfMembers leaf rest)

end

/-- What a value that is no array and no object counts for when it is read: the name of a value
that no number writes counts for as much as an array. -/
def namedDepth : Json -> Nat
  | .real .undefined | .real (.infinite _) => 1
  | _ => 0

end EditorData.Json
