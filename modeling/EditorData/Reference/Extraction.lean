import EditorData.Directive.Lexer
import EditorData.Logging.Entry
import EditorData.Markdown.Code
import EditorData.Reference.Ledger
import EditorData.Text.Quoted

/-!
# Extraction of the builtin section

The extraction is a machine driven by the tokens of the document. Between two tokens it
knows in which part of the document it is (`Phase`), how many headers of the section are
open, the entries found so far, and which token may come next (`Awaiting`). One token
either advances the machine or stops it with a fault that names what was expected; the
fault changes nothing but the cursor. The extraction ends with the closing directive that
balances the header of the section.
-/

namespace EditorData.Reference

open EditorData.Directive

/-- The part of the document the machine is in. -/
inductive Phase where
  /-- In front of the builtin section. -/
  | searching
  /-- In the section, in front of its first entry. -/
  | introduction
  /-- Behind the header of an entry, or behind an entry. -/
  | heading
  /-- Behind the signature of an entry. -/
  | body
deriving DecidableEq, Repr

/-- The directives with one argument and an optional second one. -/
inductive Form where
  | block
  | link
  | code
deriving DecidableEq, Repr

/-- The directive that ends a fragment of code. -/
inductive Ending where
  /-- The end of inline code, with that code. -/
  | fragment (code : Text)
  | block
deriving DecidableEq, Repr

/-- The tag of an ending directive. -/
def Ending.tag : Ending -> Text
  | .fragment _ => "endsyntax".toList
  | .block => "end_syntax_block".toList

/-- What the machine reads next. -/
inductive Awaiting where
  /-- Running text or a directive. -/
  | item
  /-- The tag of a directive. -/
  | tag
  /-- The bar in front of the title of a header. -/
  | headerBar
  | headerTitle
  /-- More arguments of a header, or its end. -/
  | headerRest
  /-- The end of the directive that closes a header. -/
  | headerEnd
  /-- The end of the directive that begins inline code. -/
  | fragmentStart
  | fragmentText
  | argumentBar (form : Form)
  | argument (form : Form)
  /-- A second argument, or the end of the directive. -/
  | option (form : Form) (argument : Text)
  | optionText (form : Form) (argument : Text)
  | optionEnd (form : Form) (argument option : Text)
  | blockText (language : Text)
  | codeText
  /-- The directive behind a piece of an example, with that piece. -/
  | codeOpening (code : Text)
  | codeTag (code : Text)
  /-- The end of that directive, and whether it ends the example. -/
  | codeRest (code : Text) (last : Bool)
  | endOpening (ending : Ending)
  | endTag (ending : Ending)
  | endClosing (ending : Ending)
  /-- The end of a directive that is skipped. -/
  | skip
  /-- Nothing: the section is closed. -/
  | nothing
deriving DecidableEq, Repr

/-- What a fault says should have come. -/
inductive Expectation where
  | item
  | kind (kind : TokenKind)
  | headerRest
  | option
  | directive (tag : Text)
deriving DecidableEq, Repr

/-- The wording of an expectation. -/
def Expectation.text : Expectation -> Text
  | .item => "content or a directive".toList
  | .kind expected => expected.label
  | .headerRest => "header argument or BracketClose".toList
  | .option => "Separator or BracketClose".toList
  | .directive name => '{' :: '#' :: name ++ ['#', '}']

/-- What should come next. -/
def Awaiting.expectation : Awaiting -> Expectation
  | .item | .nothing => .item
  | .tag | .headerTitle | .argument _ | .optionText .. | .codeTag _ | .endTag _ => .kind .segment
  | .headerBar | .argumentBar _ => .kind .separator
  | .headerRest => .headerRest
  | .option .. => .option
  | .headerEnd | .fragmentStart | .optionEnd .. | .codeRest .. | .endClosing _ | .skip =>
      .kind .closing
  | .fragmentText | .blockText _ | .codeText => .kind .content
  | .codeOpening _ | .endOpening _ => .kind .opening

/-- A token that the document should not have at its place. -/
structure Unexpected where
  expected : Expectation
  found : Token
deriving DecidableEq, Repr

/-- How a fault shows a token: by its kind, and the first forty characters of a text. -/
def shownToken (token : Token) : Text :=
  match token.kind with
  | .content | .segment => token.kind.label ++ ' ' :: Text.quoted (token.lexeme.take 40)
  | _ => token.kind.label

/-- The wording of a fault. -/
def Unexpected.message (fault : Unexpected) : Text :=
  "expected ".toList ++ fault.expected.text ++ " at offset ".toList ++
    Text.ofNat fault.found.start ++ ", found ".toList ++ shownToken fault.found

/-- What the extraction is told besides the document: the version and the root of the
online reference, which links lead to, and the title of the builtin section. -/
structure Scope where
  version : Text
  documentationRoot : Text
  anchor : Text
deriving DecidableEq, Repr

/-- The title of the builtin section. -/
def sectionAnchor : Text :=
  "Builtin Functions".toList

/-- The link of a link directive. -/
def Scope.link (scope : Scope) (name target : Text) : Text :=
  let anchor := (target.map fun c => if c = ' ' then '-' else c).dropWhile (· == '@')
  '[' :: name ++ "](".toList ++ Text.trimEnd (· == '/') scope.documentationRoot ++ '/' ::
    scope.version ++ "/#".toList ++ anchor ++ [')']

/-- The machine between two tokens. The log entries are listed with the last one first. -/
structure State where
  phase : Phase
  depth : Nat
  ledger : Ledger
  awaiting : Awaiting
  cursor : Nat
  log : List Logging.Entry
deriving DecidableEq, Repr

namespace State

/-- The machine in front of the document. -/
def initial : State :=
  ⟨.searching, 0, .empty, .item, 0, []⟩

/-- The entries found so far, the last one first. -/
@[reducible] def records (state : State) : List RawBuiltin :=
  state.ledger.records

/-- The entry that is being written, if there is one. -/
def current? (state : State) : Option RawBuiltin :=
  state.ledger.current?

/-- The machine waiting for the next token. -/
def await (state : State) (awaiting : Awaiting) : State :=
  { state with awaiting }

/-- The machine with one more log entry. -/
def report (state : State) (message : Text) : State :=
  { state with log := ⟨.debug, message⟩ :: state.log }

/-- Add a fragment to the entry that is being written. In front of the first one, fragments are
dropped. -/
def write (state : State) (fragment : Text) : State :=
  { state with ledger := state.ledger.change (·.append fragment) }

/-- Take the content of the first inline code behind a header as the signature of its
entry. -/
def sign (state : State) (signature : Text) : State :=
  { state with ledger := state.ledger.change ({ · with signature }) }

/-- The entry that is being written is the last one. -/
theorem current?_eq_head? (state : State) : state.current? = state.records.head? :=
  state.ledger.current?_eq_head?

/-- Writing adds to the last entry. -/
@[simp] theorem records_write (state : State) (fragment : Text) :
    (state.write fragment).records = state.records.modifyHead (·.append fragment) :=
  Ledger.records_change ..

/-- Signing replaces the signature of the last entry. -/
@[simp] theorem records_sign (state : State) (signature : Text) :
    (state.sign signature).records = state.records.modifyHead ({ · with signature }) :=
  Ledger.records_change ..

/-- Read the title of a header: find the section, begin an entry, or nest. -/
def openHeader (scope : Scope) (state : State) (title : Text) (stop : Nat) : State :=
  match state.phase with
  | .searching =>
      if title = scope.anchor then
        { state.report ("Found '".toList ++ scope.anchor ++ "' section at offset ".toList ++
            Text.ofNat stop) with
          phase := .introduction
          depth := 1 }
      else state
  | .introduction | .heading =>
      { state with
        phase := .heading
        depth := state.depth + 1
        ledger := state.ledger.add (.titled title) }
  | .body =>
      let inside := (state.current?.map RawBuiltin.name).getD []
      { state.report ("Nested header '".toList ++ title ++ "' inside ".toList ++ inside) with
        depth := state.depth + 1 }

/-- Close a header; the one that balances the header of the section ends the extraction. -/
def closeHeader (state : State) : State :=
  match state.phase with
  | .searching => state.await .item
  | phase =>
      { state with
        phase := if phase = .body then .heading else phase
        depth := state.depth - 1
        awaiting := if state.depth = 1 then .nothing else .item }

/-- Read the tag of a directive. In front of the section only headers matter. -/
def enter (state : State) (tag : Text) : State :=
  if tag = "header_open".toList then state.await .headerBar
  else if tag = "header_close".toList then state.await .headerEnd
  else if state.phase = .searching then state.await .skip
  else if tag = "syntax".toList then state.await .fragmentStart
  else if tag = "syntax_block".toList then state.await (.argumentBar .block)
  else if tag = "link".toList then state.await (.argumentBar .link)
  else if tag = "code_begin".toList then state.await (.argumentBar .code)
  else state.await .skip

/-- End a directive with its argument and the optional second one. -/
def conclude (scope : Scope) (state : State) (argument : Text) (option : Option Text) :
    Form -> State
  | .block => state.await (.blockText argument)
  | .link => (state.write (scope.link argument (option.getD argument))).await .item
  | .code => state.await .codeText

/-- End a fragment of code: inline code is the signature of an entry without one, and part
of its body afterwards. -/
def finishCode (state : State) : Ending -> State
  | .block => state.await .item
  | .fragment code =>
      match state.phase with
      | .heading => { (state.sign code).await .item with phase := .body }
      | .body => (state.write (Markdown.code code Markdown.codeLanguage)).await .item
      | _ => state.await .item

/-- What the machine does with a token of the kind it waits for; nothing for another. -/
def accept? (scope : Scope) (state : State) (token : Token) : Option State :=
  match state.awaiting, token.kind with
  | .item, .content =>
      some (if state.phase = .body then state.write token.lexeme else state)
  | .item, .opening => some (state.await .tag)
  | .tag, .segment => some (state.enter token.lexeme)
  | .headerBar, .separator => some (state.await .headerTitle)
  | .headerTitle, .segment =>
      some ((state.openHeader scope token.lexeme token.stop).await .headerRest)
  | .headerRest, .closing => some (state.await .item)
  | .headerRest, .separator => some state
  | .headerRest, .segment => some state
  | .headerEnd, .closing => some state.closeHeader
  | .fragmentStart, .closing => some (state.await .fragmentText)
  | .fragmentText, .content => some (state.await (.endOpening (.fragment token.lexeme)))
  | .argumentBar form, .separator => some (state.await (.argument form))
  | .argument form, .segment => some (state.await (.option form token.lexeme))
  | .option form argument, .closing => some (state.conclude scope argument none form)
  | .option form argument, .separator => some (state.await (.optionText form argument))
  | .optionText form argument, .segment =>
      some (state.await (.optionEnd form argument token.lexeme))
  | .optionEnd form argument option, .closing =>
      some (state.conclude scope argument (some option) form)
  | .blockText language, .content =>
      some ((state.write (Markdown.code token.lexeme language)).await (.endOpening .block))
  | .codeText, .content => some (state.await (.codeOpening token.lexeme))
  | .codeOpening code, .opening => some (state.await (.codeTag code))
  | .codeTag code, .segment =>
      some (state.await (.codeRest code (token.lexeme = "code_end".toList)))
  | .codeRest code true, .closing =>
      some ((state.write (Markdown.code code Markdown.codeLanguage)).await .item)
  | .codeRest _ false, .closing => some (state.await .codeText)
  | .codeRest .., kind => if kind.isFinal then none else some state
  | .endOpening ending, .opening => some (state.await (.endTag ending))
  | .endTag ending, .segment => some (state.await (.endClosing ending))
  | .endClosing ending, .closing => some (state.finishCode ending)
  | .skip, .closing => some (state.await .item)
  | .skip, kind => if kind.isFinal then none else some state
  | _, _ => none

/-- Whether a token of the awaited kind is nevertheless not the one that may come: the tag
of the directive that ends a fragment of code is prescribed. -/
def misfit? (state : State) (token : Token) : Option Expectation :=
  match state.awaiting, token.kind with
  | .endTag ending, .segment =>
      if token.lexeme = ending.tag then none else some (.directive ending.tag)
  | _, _ => none

/-- Read one token. -/
def advance (scope : Scope) (state : State) (token : Token) : Except Unexpected State :=
  match state.misfit? token with
  | some expected => .error ⟨expected, token⟩
  | none =>
      match state.accept? scope token with
      | some next => .ok { next with cursor := token.stop }
      | none => .error ⟨state.awaiting.expectation, token⟩

end State

/-- Where an extraction ended, with the fault that stopped it, if any. -/
structure Outcome where
  state : State
  fault : Option Unexpected
deriving DecidableEq, Repr

/-- Read tokens until the section is closed or a fault stops the machine. The end of the
document can be read again and again. -/
def run (scope : Scope) (state : State) : List Token -> Outcome
  | [] => ⟨state, some ⟨state.awaiting.expectation, ⟨.finish, state.cursor, []⟩⟩⟩
  | token :: rest =>
      match state.advance scope token with
      | .error fault => ⟨{ state with cursor := token.stop }, some fault⟩
      | .ok next => if next.awaiting = .nothing then ⟨next, none⟩ else run scope next rest

/-- Extract the builtin section of a document. -/
def extract (scope : Scope) (document : Text) : Outcome :=
  run scope .initial (tokens document)

namespace Outcome

/-- The entries found, in document order. -/
def builtins (outcome : Outcome) : List RawBuiltin :=
  outcome.state.records.reverse

/-- What the extraction reported: its steps, and the number of entries when it succeeded. -/
def log (outcome : Outcome) : List Logging.Entry :=
  outcome.state.log.reverse ++
    match outcome.fault with
    | none =>
        [⟨.info, "Extracted ".toList ++ Text.ofNat outcome.builtins.length ++
          " builtins".toList⟩]
    | some _ => []

/-- The entries, or the fault that stopped the extraction. -/
def result (outcome : Outcome) : Except Unexpected (List RawBuiltin) :=
  match outcome.fault with
  | none => .ok outcome.builtins
  | some fault => .error fault

end Outcome

end EditorData.Reference
