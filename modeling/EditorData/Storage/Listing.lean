import EditorData.Text.Basic

/-!
# Trees of files and folders

A folder holds a listing of its entries, each a file or a folder with a listing of its own.
A place is the list of names that leads to it from a folder. What is at a place is seen
without what is below it: `Tree.node?_put` says what putting something at a place changes in
that view, which is nothing but the place itself.
-/

namespace EditorData.Storage

/-- What is at a place, seen without what is below it. -/
inductive Node where
  | folder
  | file (content : List UInt8)
deriving DecidableEq, Repr

/-- A place: the names that lead to it from a folder. -/
abbrev Place := List Text

/-- What a folder holds, one entry after the other. -/
inductive Listing where
  | empty
  | file (name : Text) (content : List UInt8) (others : Listing)
  | folder (name : Text) (inside others : Listing)
deriving DecidableEq, Repr

/-- What is at a place, with all that is below it. -/
inductive Tree where
  | file (content : List UInt8)
  | folder (inside : Listing)
deriving DecidableEq, Repr

namespace Listing

/-- What a name stands for in a folder. -/
def find? (name : Text) : Listing -> Option Tree
  | .empty => none
  | .file known content others =>
      if known = name then some (.file content) else others.find? name
  | .folder known inside others =>
      if known = name then some (.folder inside) else others.find? name

/-- A listing with an entry in front of the others. -/
def cons (name : Text) (tree : Tree) (others : Listing) : Listing :=
  match tree with
  | .file content => .file name content others
  | .folder inside => .folder name inside others

/-- A listing in which a name stands for a tree. The entry keeps its position, and a new one is
the last. -/
def set (name : Text) (tree : Tree) : Listing -> Listing
  | .empty => cons name tree .empty
  | .file known content others =>
      if known = name then cons name tree others
      else .file known content (others.set name tree)
  | .folder known inside others =>
      if known = name then cons name tree others
      else .folder known inside (others.set name tree)

/-- The entry in front is found first. -/
theorem find?_cons (name sought : Text) (tree : Tree) (others : Listing) :
    (cons name tree others).find? sought =
      if name = sought then some tree else others.find? sought := by
  cases tree <;> rfl

/-- A name stands for what it has been set to. -/
@[simp] theorem find?_set_self (name : Text) (tree : Tree) (listing : Listing) :
    (listing.set name tree).find? name = some tree := by
  induction listing with
  | empty => simp [set, find?_cons]
  | file known content others inductionHypothesis =>
      by_cases same : known = name <;> simp [set, same, find?_cons, find?, inductionHypothesis]
  | folder known inside others _ inductionHypothesis =>
      by_cases same : known = name <;> simp [set, same, find?_cons, find?, inductionHypothesis]

/-- Setting a name leaves all other names alone. -/
theorem find?_set_of_ne {name other : Text} (different : other ≠ name) (tree : Tree)
    (listing : Listing) : (listing.set name tree).find? other = listing.find? other := by
  have reverse := Ne.symm different
  induction listing with
  | empty => simp [set, find?_cons, find?, reverse]
  | file known content others inductionHypothesis =>
      by_cases same : known = name
      · subst same
        simp [set, find?_cons, find?, reverse]
      · simp [set, same, find?, inductionHypothesis]
  | folder known inside others _ inductionHypothesis =>
      by_cases same : known = name
      · subst same
        simp [set, find?_cons, find?, reverse]
      · simp [set, same, find?, inductionHypothesis]

/-- All that is below a folder, each with its place. -/
def nodes : Listing -> List (Place × Node)
  | .empty => []
  | .file name content others => ([name], .file content) :: others.nodes
  | .folder name inside others =>
      ([name], .folder) ::
        (inside.nodes.map fun (place, node) => (name :: place, node)) ++ others.nodes

end Listing

namespace Tree

/-- A tree seen without what is below it. -/
def node : Tree -> Node
  | .file content => .file content
  | .folder _ => .folder

/-- What is inside a tree; there is nothing inside a file. -/
def inside : Tree -> Listing
  | .file _ => .empty
  | .folder listing => listing

/-- The tree at a place. -/
def below? (tree : Tree) : Place -> Option Tree
  | [] => some tree
  | name :: rest => (tree.inside.find? name).bind fun found => found.below? rest

/-- What is at a place. -/
def node? (tree : Tree) (place : Place) : Option Node :=
  (tree.below? place).map node

/-- A tree that has become something else. A folder that becomes one keeps what is inside. -/
def become (tree : Tree) : Node -> Tree
  | .file content => .file content
  | .folder => .folder tree.inside

/-- A tree with something put at a place. The folders that lead there are made as needed. -/
def put (node : Node) (tree : Tree) : Place -> Tree
  | [] => tree.become node
  | name :: rest =>
      .folder (tree.inside.set name
        (put node ((tree.inside.find? name).getD (.folder .empty)) rest))

/-- What is inside a folder is its listing. -/
@[simp] theorem inside_folder (listing : Listing) : (folder listing).inside = listing := rfl

/-- A folder is seen as one. -/
@[simp] theorem node_folder (listing : Listing) : (folder listing).node = .folder := rfl

/-- A tree is itself at the place without names. -/
@[simp] theorem node?_nil (tree : Tree) : tree.node? [] = some tree.node := rfl

/-- A place inside is a place of the entry that its first name stands for. -/
theorem node?_cons (tree : Tree) (name : Text) (rest : Place) :
    tree.node? (name :: rest) = (tree.inside.find? name).bind (·.node? rest) := by
  simp only [node?, below?]
  cases tree.inside.find? name <;> rfl

/-- What has become something is seen as such. -/
@[simp] theorem node_become (tree : Tree) (other : Node) : (tree.become other).node = other := by
  cases other <;> rfl

/-- There is nothing below what is no folder. -/
theorem node?_cons_of_ne_folder {tree : Tree} (free : tree.node ≠ .folder) (name : Text)
    (rest : Place) : tree.node? (name :: rest) = none := by
  cases tree with
  | file content => rfl
  | folder inside => exact absurd rfl free

/-- What is below something that has newly become what it is: nothing. -/
theorem node?_become_cons {tree : Tree} (free : tree.inside = .empty) (other : Node) (name : Text)
    (rest : Place) : (tree.become other).node? (name :: rest) = none := by
  cases other with
  | file content => rfl
  | folder =>
      simp only [become, free]
      rfl

/-- What is put at a place is there, whatever leads to it. -/
theorem node?_put_self (node : Node) (tree : Tree) (place : Place) :
    (tree.put node place).node? place = some node := by
  induction place generalizing tree with
  | nil => simp [put]
  | cons name rest inductionHypothesis =>
      simp [put, node?_cons, inductionHypothesis]

/-- Something put in a folder, where no folder was, changes nothing but that place. -/
theorem node?_put_of_ne (node : Node) (tree : Tree) {place other : Place}
    (different : other ≠ place) (held : tree.node? place.dropLast = some .folder)
    (free : tree.node? place ≠ some .folder) :
    (tree.put node place).node? other = tree.node? other := by
  induction place generalizing tree other with
  | nil => exact absurd held free
  | cons name rest inductionHypothesis =>
      have isFolder : tree.node = .folder := by
        cases tree with
        | file content =>
            cases rest with
            | nil => simp [Tree.node] at held
            | cons next others => simp [node?_cons, inside, Listing.find?] at held
        | folder inside => rfl
      cases other with
      | nil => simp [put, isFolder]
      | cons head tail =>
          simp only [put, node?_cons, inside_folder]
          by_cases same : head = name
          · subst same
            have tailDifferent : tail ≠ rest := fun equal => different (equal ▸ rfl)
            rw [Listing.find?_set_self, Option.bind_some]
            cases found : tree.inside.find? head with
            | none =>
                rw [Option.getD_none, Option.bind_none]
                cases rest with
                | nil =>
                    cases tail with
                    | nil => exact absurd rfl tailDifferent
                    | cons next others => exact node?_become_cons rfl node next others
                | cons next others => simp [node?_cons, found] at held
            | some entry =>
                rw [Option.getD_some, Option.bind_some]
                have freeInside : entry.node? rest ≠ some .folder := by
                  simpa [node?_cons, found] using free
                cases rest with
                | nil =>
                    cases tail with
                    | nil => exact absurd rfl tailDifferent
                    | cons next others =>
                        have freeEntry : entry.node ≠ .folder := by simpa using freeInside
                        have hollow : entry.inside = .empty := by
                          cases entry with
                          | file content => rfl
                          | folder inside => exact absurd rfl freeEntry
                        simp [put, node?_become_cons hollow, node?_cons_of_ne_folder freeEntry]
                | cons next others =>
                    have heldInside : entry.node? (next :: others).dropLast = some .folder := by
                      simpa [node?_cons, found] using held
                    exact inductionHypothesis entry tailDifferent heldInside freeInside
          · rw [Listing.find?_set_of_ne same]

end Tree

end EditorData.Storage
