import EditorData.Generation.Job
import EditorData.Proofs.Logging.Reopening

/-!
# Histories of logging

Logging is set up again and again, with messages in between. What is in force is the setup that was
asked for last, and each message goes once to the console and once to the log file of that setup,
if its level has the severity for it. A run over a history is accounted for message by message
(`Accounts`): each request and each message adds its own part, and nothing else is added
(`logging_accounted`).
-/

namespace EditorData.Logging

open Generation (Job)
open Storage (AgreeOutside)

/-- What log entries are handed to. -/
inductive Handler where
  | console
  /-- The console of an earlier run. -/
  | formerConsole
  | file (place : Storage.Place)
deriving DecidableEq, Repr

/-- Hand an entry to a handler, behind what has been written and shown. -/
def Handler.emit (entry : Entry) (written : Storage × Text) : Handler -> Storage × Text
  | .console => (written.1, written.2 ++ entry.line)
  | .formerConsole => written
  | .file place => (written.1.append place (Text.utf8 entry.line), written.2)

namespace Setup

/-- What a setup hands its entries to. -/
def handlers (setup : Setup) : List Handler :=
  (match setup.console with
    | .none => []
    | .present => [.console]
    | .former => [.formerConsole]) ++ setup.file.toList.map .file

/-- An entry is handed to each handler once, or to none if the threshold is above it. -/
theorem write_eq_emit {setup : Setup} (handled : setup.handlers ≠ []) (storage : Storage)
    (entry : Entry) :
    setup.write storage [entry] =
      if setup.admits entry then setup.handlers.foldl (Handler.emit entry) (storage, [])
      else (storage, []) := by
  by_cases admitted : setup.admits entry = true
  · rw [if_pos admitted]
    unfold write
    rw [List.filter_cons_of_pos admitted, List.filter_nil]
    obtain ⟨threshold, console, file⟩ := setup
    cases console with
    | none =>
      cases file with
      | none => exact absurd rfl handled
      | some place => simp [handlers, Handler.emit, shown, size]
    | present => cases file <;> simp [handlers, Handler.emit, shown, size]
    | former => cases file <;> simp [handlers, Handler.emit, shown, size]
  · rw [if_neg admitted]
    unfold write
    rw [List.filter_cons_of_neg admitted, List.filter_nil]

end Setup

/-- A level that has a severity is the level of an entry, unless it is the one that is not set. -/
theorem Level.severity_ofName? (name : Text) :
    (Level.ofName? name).map Level.severity =
      (Dictionary.find? name namedSeverities).filter fun severity => severity ≠ 0 := by
  have spelled {literal : String} (same : String.ofList name = literal) :
      name = literal.toList := by
    rw [← same, String.toList_ofList]
  unfold Level.ofName?
  split
  case h_8 notDebug notInfo notWarning notWarn notError notCritical notFatal =>
    have other {literal : String} (different : String.ofList name = literal → False) :
        literal.toList ≠ name := fun same => different (by rw [← same, String.ofList_toList])
    rw [namedSeverities, Dictionary.find?, if_neg (other notDebug), Dictionary.find?,
      if_neg (other notInfo), Dictionary.find?, if_neg (other notWarning), Dictionary.find?,
      if_neg (other notWarn), Dictionary.find?, if_neg (other notError), Dictionary.find?,
      if_neg (other notCritical), Dictionary.find?, if_neg (other notFatal), Dictionary.find?]
    split <;> rfl
  all_goals
    rename_i same
    obtain rfl := spelled same
    decide

/-- A message under the name of a level. -/
structure Message where
  level : Text
  text : Text
deriving DecidableEq, Repr

namespace Message

/-- The severity of the level of a message, if there is such a level. -/
def severity? (message : Message) : Option Nat :=
  Dictionary.find? message.level namedSeverities

/-- The entry of a message, unless no entry has its level. -/
def entry? (message : Message) : Option Entry :=
  (Level.ofName? message.level).map fun level => ⟨level, message.text⟩

/-- The line of a message in a log. -/
def line (message : Message) : Text :=
  (message.entry?.map Entry.line).getD []

end Message

/-- A setup that is asked for. -/
structure Request where
  level : Text
  logFile : Option Text
deriving DecidableEq, Repr

namespace Request

/-- The severity that the level stands for; one that means nothing stands for information. -/
def threshold (request : Request) : Nat :=
  (Dictionary.find? (Text.upper request.level) namedSeverities).getD 20

/-- The place of the log file, if one is named. -/
def place? (storage : Storage) (request : Request) : Option Storage.Place :=
  match request.logFile with
  | none | some [] => none
  | some path => some (storage.placeOf (absolutePath (logPlace storage path)))

/-- Whether a message is to be written: its level is set and not below the one asked for. -/
def admits (request : Request) (message : Message) : Bool :=
  message.severity?.any fun severity => severity ≠ 0 && request.threshold ≤ severity

/-- A message is to be written if its entry has the severity for it. -/
theorem admits_eq (request : Request) (message : Message) :
    request.admits message =
      message.entry?.any fun entry => decide (request.threshold ≤ entry.level.severity) := by
  have levels := Level.severity_ofName? message.level
  unfold admits Message.severity? Message.entry?
  cases found : Level.ofName? message.level with
  | none =>
      rw [found] at levels
      cases named : Dictionary.find? message.level namedSeverities with
      | none => rfl
      | some severity =>
          rw [named] at levels
          have unset : severity = 0 := by simpa using levels.symm
          simp [unset]
  | some level =>
      rw [found] at levels
      obtain ⟨named, isSet⟩ := Option.filter_eq_some_iff.mp levels.symm
      have nonzero : level.severity ≠ 0 := by simpa using isSet
      rw [named]
      simp [nonzero]

/-- A place stays that of the log file as long as the current folder does. -/
theorem place?_of_current {before after : Storage} (current : after.current = before.current)
    (request : Request) : request.place? after = request.place? before := by
  unfold place?
  split
  · rfl
  · rfl
  · rw [logPlace_of_current current, Storage.placeOf_of_current current]

end Request

/-- What happens to logging. -/
inductive Event where
  | setUp (request : Request)
  | message (message : Message)
deriving DecidableEq, Repr

/-- The setups that a history asks for. -/
def requested (events : List Event) : List Request :=
  events.filterMap fun
    | .setUp request => some request
    | .message _ => none

/-- The setup that has been asked for last. -/
def latest (request : Request) (events : List Event) : Request :=
  (requested events).getLastD request

/-- A message with the setup that was asked for last before it. -/
structure Posting where
  request : Request
  message : Message
deriving DecidableEq, Repr

/-- The messages of a history with their setups. -/
def postings (request : Request) : List Event -> List Posting
  | [] => []
  | .setUp next :: rest => postings next rest
  | .message message :: rest => ⟨request, message⟩ :: postings request rest

/-- The messages of a history that are to be written. -/
def logged (request : Request) (events : List Event) : List Posting :=
  (postings request events).filter fun posting => posting.request.admits posting.message

/-- A setup that is asked for first. -/
theorem requested_setUp (request : Request) (rest : List Event) :
    requested (.setUp request :: rest) = request :: requested rest :=
  rfl

/-- A message stands in front of the later ones if it is to be written. -/
theorem logged_message (request : Request) (message : Message) (rest : List Event) :
    logged request (.message message :: rest) =
      (if request.admits message then [⟨request, message⟩] else []) ++ logged request rest := by
  rw [logged, postings, List.filter_cons]
  split <;> rfl

/-- What a run adds to the console and to files: the lines of messages with their setups, and log
files at certain places. -/
structure Accounts (places : List Storage.Place) (lines : List Posting) (before after : Job) :
    Prop where
  current : after.storage.current = before.storage.current
  console : after.console = before.console ++ lines.flatMap (·.message.line)
  content : ∀ place, (after.storage.file? place).getD [] =
    (before.storage.file? place).getD [] ++
      (lines.filter (·.request.place? before.storage = some place)).flatMap
        fun posting => Text.utf8 posting.message.line
  present : ∀ place, (after.storage.file? place).isSome ↔
    (before.storage.file? place).isSome ∨ place ∈ places

namespace Accounts

variable {places more : List Storage.Place} {lines later : List Posting}
  {first second third : Job}

/-- Where nothing happens nothing is added. -/
theorem refl (job : Job) : Accounts [] [] job job where
  current := rfl
  console := (List.append_nil _).symm
  content := fun place => (List.append_nil _).symm
  present := fun place => by simp

/-- What two runs add stands one behind the other. -/
theorem trans (front : Accounts places lines first second)
    (back : Accounts more later second third) :
    Accounts (places ++ more) (lines ++ later) first third where
  current := back.current.trans front.current
  console := by rw [back.console, front.console, List.flatMap_append, List.append_assoc]
  content := fun place => by
    have sameFile : (fun posting : Posting =>
        decide (posting.request.place? second.storage = some place)) =
        fun posting => decide (posting.request.place? first.storage = some place) :=
      funext fun posting => by rw [Request.place?_of_current front.current]
    rw [back.content, front.content, List.filter_append, List.flatMap_append, List.append_assoc,
      sameFile]
  present := fun place => by
    rw [back.present, front.present, List.mem_append, or_assoc]

/-- A log file that was named is there, and what has been added to it stands behind what it held. -/
theorem file? (accounts : Accounts places lines first second) {place : Storage.Place}
    (named : place ∈ places) :
    second.storage.file? place = some ((first.storage.file? place).getD [] ++
      (lines.filter (·.request.place? first.storage = some place)).flatMap
        fun posting => Text.utf8 posting.message.line) := by
  obtain ⟨content, held⟩ := Option.isSome_iff_exists.mp ((accounts.present place).mpr (.inr named))
  rw [← accounts.content place, held, Option.getD_some]

end Accounts

/-- The setup in force is the one asked for, and its log file is there. -/
structure InForce (request : Request) (job : Job) : Prop where
  setup : job.logging = ⟨request.threshold, .present, request.place? job.storage⟩
  stands : job.logging.Stands job.storage

/-- A file that is opened or appended to keeps what it holds in front, and no other file changes. -/
theorem content_of_agree {before after : Storage} {place : Storage.Place} {added : List UInt8}
    (agree : AgreeOutside [place] before after)
    (held : after.file? place = some ((before.file? place).getD [] ++ added))
    (other : Storage.Place) :
    (after.file? other).getD [] =
        (before.file? other).getD [] ++ (if place = other then added else []) ∧
      ((after.file? other).isSome ↔ (before.file? other).isSome ∨ other ∈ [place]) := by
  by_cases same : place = other
  · subst same
    simp [held]
  · have outside : other ∉ [place] := fun member => same (List.mem_singleton.mp member).symm
    simp [agree.files other outside, same, outside]

/-- A setup that replaces another one has the severity of the level that is asked for. -/
theorem Setup.replace_ok {setup made : Setup} {level : Text} {file : Option Storage.Place}
    (done : setup.replace level file = (made, none)) :
    made = ⟨(Dictionary.find? (Text.upper level) namedSeverities).getD 20, .present, file⟩ := by
  unfold Setup.replace severityNamed at done
  dsimp only at done
  split at done
  · next found =>
    cases done
    split at found
    · cases found
    · split at found <;> cases found
      rfl
  · cases done

/-- A message that is to be written goes once to the console and once to the log file in force. -/
theorem reportAll_of_admits {job : Job} {request : Request} {message : Message}
    (inForce : InForce request job) (admitted : request.admits message = true) :
    job.reportAll message.entry?.toList =
      { job with
        storage := (request.place? job.storage).elim job.storage fun place =>
          job.storage.append place (Text.utf8 message.line)
        console := job.console ++ message.line } := by
  rw [request.admits_eq, Option.any_eq_true] at admitted
  obtain ⟨entry, found, severe⟩ := admitted
  have handlers : job.logging.handlers =
      .console :: (request.place? job.storage).toList.map .file := by
    rw [inForce.setup]
    rfl
  have handled : job.logging.handlers ≠ [] := by
    rw [handlers]
    exact List.cons_ne_nil _ _
  have admits : job.logging.admits entry = true := by
    rw [Setup.admits, inForce.setup]
    exact severe
  have written := Setup.write_eq_emit handled job.storage entry
  rw [if_pos admits, handlers] at written
  rw [Message.line, found]
  unfold Job.reportAll
  rw [Option.toList_some, written]
  cases request.place? job.storage <;> rfl

/-- A message that is not to be written leaves everything as it was. -/
theorem reportAll_of_not_admits {job : Job} {request : Request} {message : Message}
    (inForce : InForce request job) (refused : ¬request.admits message = true) :
    job.reportAll message.entry?.toList = job := by
  rw [request.admits_eq, Bool.not_eq_true, Option.any_eq_false] at refused
  have nothing : message.entry?.toList.filter job.logging.admits = [] := by
    rw [List.filter_eq_nil_iff]
    intro entry found
    rw [Setup.admits, inForce.setup]
    exact Bool.eq_false_iff.mp (refused entry (Option.mem_toList.mp found))
  unfold Job.reportAll Setup.write
  rw [nothing]
  simp

/-- Messages leave the setup in force. -/
theorem InForce.reportAll {job : Job} {request : Request} (inForce : InForce request job)
    (entries : List Entry) : InForce request (job.reportAll entries) := by
  obtain ⟨agree, stands⟩ := Setup.write_agree inForce.stands entries
  refine ⟨?_, stands⟩
  have setup := inForce.setup
  rw [← Request.place?_of_current agree.current request] at setup
  exact setup

/-- A message on the console alone is accounted for if its setup names no log file. -/
theorem shown_accounts {job : Job} {request : Request} {message : Message}
    (unlogged : request.place? job.storage = none) :
    Accounts [] [⟨request, message⟩] job { job with console := job.console ++ message.line } where
  current := rfl
  console := by rw [List.flatMap_singleton]
  content := fun place => by simp [unlogged]
  present := fun place => by simp

/-- A message behind a log file and on the console is accounted for if its setup names the file. -/
theorem appended_accounts {job : Job} {request : Request} {message : Message}
    {place : Storage.Place} (located : request.place? job.storage = some place)
    (stands : (job.storage.file? place).isSome) :
    Accounts [] [⟨request, message⟩] job
      { job with
        storage := job.storage.append place (Text.utf8 message.line)
        console := job.console ++ message.line } := by
  obtain ⟨old, isFile⟩ := Option.isSome_iff_exists.mp stands
  obtain ⟨held, agree⟩ := Storage.append_file isFile (Text.utf8 message.line)
  have files := content_of_agree agree (held.trans (by rw [isFile, Option.getD_some]))
  refine ⟨agree.current, by rw [List.flatMap_singleton], fun other => ?_, fun other => ?_⟩
  · rw [(files other).1]
    by_cases same : place = other <;> simp [located, same]
  · have standing : other ∈ [place] → (job.storage.file? other).isSome := fun member => by
      rw [List.mem_singleton.mp member]
      exact stands
    rw [(files other).2, or_iff_left_of_imp standing]
    simp

/-- The current folder decides where the log files of a history are. -/
theorem filterMap_place?_of_current {before after : Storage}
    (current : after.current = before.current) (requests : List Request) :
    requests.filterMap (·.place? after) = requests.filterMap (·.place? before) :=
  List.filterMap_congr fun request _ => request.place?_of_current current

section Runs

variable [Limits]

/-- A log file that is opened keeps what it holds. -/
theorem openLog_content {storage opened : Storage} {path : Text} {place : Storage.Place}
    (done : openLog storage path = (opened, .ok place)) :
    place = storage.placeOf (absolutePath (logPlace storage path)) ∧
      opened.file? place = some ((storage.file? place).getD []) := by
  have isFile := (openLog_agree done).2
  obtain ⟨made, noFault, -, targeted, outcome⟩ := openLog_ok done
  have parents := Storage.makeParents_agree storage Limits.logFolders path
  rw [noFault] at parents
  obtain ⟨named, free⟩ := Storage.target_ok targeted
  rw [logPlace_of_current parents.current, parents.placeOf] at named
  refine ⟨named, ?_⟩
  rw [← parents.files place List.not_mem_nil]
  rcases outcome with ⟨rfl, -⟩ | ⟨missing, rfl⟩
  · obtain ⟨content, held⟩ := Option.isSome_iff_exists.mp isFile
    rw [held, Option.getD_some]
  · have nothing : made.file? place = none := by rw [Storage.file?, missing]
    rw [nothing, (Storage.put_file free []).1, Option.getD_none]

/-- A setup that has been made is the one asked for, and its log file holds what it held before. -/
theorem Setup.configure_ok {setup made : Setup} {storage left : Storage} {request : Request}
    (done : setup.configure storage request.level request.logFile = (left, made, none)) :
    made = ⟨request.threshold, .present, request.place? storage⟩ ∧
      AgreeOutside (request.place? storage).toList storage left ∧
      ∀ place ∈ request.place? storage,
        left.file? place = some ((storage.file? place).getD []) := by
  obtain ⟨level, logFile⟩ := request
  have console (replaced : (storage, setup.replace level none) = (left, made, none)) :
      made = ⟨Request.threshold ⟨level, logFile⟩, .present, none⟩ ∧
        AgreeOutside [] storage left := by
    obtain ⟨same, replaced⟩ := Prod.mk.inj replaced
    rw [← same]
    exact ⟨replace_ok replaced, .refl _ _⟩
  cases logFile with
  | none => exact ⟨(console done).1, (console done).2, nofun⟩
  | some path =>
      cases path with
      | nil => exact ⟨(console done).1, (console done).2, nofun⟩
      | cons c path =>
          unfold configure at done
          dsimp only at done
          split at done
          · cases done
          · next opened place opening =>
              obtain ⟨rfl, replaced⟩ := Prod.mk.inj done
              obtain ⟨located, held⟩ := openLog_content opening
              have named : Request.place? storage ⟨level, some (c :: path)⟩ = some place :=
                congrArg some located.symm
              rw [named]
              refine ⟨replace_ok replaced, (openLog_agree opening).1, fun other same => ?_⟩
              cases same
              exact held

/-- Take one event of a history, unless a setup that is asked for fails. -/
def perform (job : Job) : Event -> Option Job
  | .setUp request =>
      match job.logging.configure job.storage request.level request.logFile with
      | (storage, logging, none) => some { job with storage, logging }
      | (_, _, some _) => none
  | .message message => some (job.reportAll message.entry?.toList)

/-- Setting logging up puts the setup in force, and adds no more than an empty log file. -/
theorem setUp_accounts {job next : Job} {request : Request}
    (done : perform job (.setUp request) = some next) :
    InForce request next ∧ Accounts (request.place? job.storage).toList [] job next := by
  unfold perform at done
  dsimp only at done
  split at done
  · next storage logging configured =>
    cases done
    obtain ⟨made, agree, held⟩ := Setup.configure_ok configured
    have current := Request.place?_of_current agree.current request
    refine ⟨⟨by rw [made, current], (Setup.configure_agree configured).2⟩, ?_⟩
    cases located : request.place? job.storage with
    | none =>
        rw [located] at agree
        have same (place : Storage.Place) : storage.file? place = job.storage.file? place :=
          agree.files place List.not_mem_nil
        exact
          { current := agree.current
            console := (List.append_nil _).symm
            content := fun place => by simp [same]
            present := fun place => by simp [same] }
    | some place =>
        rw [located] at agree
        have files := content_of_agree agree ((held place located).trans (by rw [List.append_nil]))
        exact
          { current := agree.current
            console := (List.append_nil _).symm
            content := fun other => by simpa using (files other).1
            present := fun other => (files other).2 }
  · cases done

/-- A message is accounted for, and the setup stays in force. -/
theorem message_accounts {job next : Job} {request : Request} {message : Message}
    (inForce : InForce request job) (done : perform job (.message message) = some next) :
    InForce request next ∧
      Accounts [] (if request.admits message then [⟨request, message⟩] else []) job next := by
  obtain rfl := Option.some.inj done
  refine ⟨inForce.reportAll _, ?_⟩
  by_cases admitted : request.admits message = true
  · rw [if_pos admitted, reportAll_of_admits inForce admitted]
    cases located : request.place? job.storage with
    | none => exact shown_accounts located
    | some place =>
        have isLog : place ∈ job.logging.places := by
          rw [inForce.setup, located]
          exact List.mem_singleton_self place
        exact appended_accounts located (inForce.stands place isLog)
  · rw [if_neg admitted, reportAll_of_not_admits inForce admitted]
    exact .refl job

/-- A setup in front of a history adds its log file to those of the history. -/
theorem accounts_setUp {request : Request} {events : List Event} {lines : List Posting}
    {job next final : Job} (here : perform job (.setUp request) = some next)
    (behind : Accounts ((requested events).filterMap (·.place? next.storage)) lines next final) :
    Accounts ((request :: requested events).filterMap (·.place? job.storage)) lines job final := by
  obtain ⟨-, front⟩ := setUp_accounts here
  have both := front.trans behind
  rw [filterMap_place?_of_current front.current] at both
  rw [List.filterMap_cons]
  cases located : request.place? job.storage <;>
  · rw [located] at both
    exact both

/-- A run over a history keeps the setup in force that was asked for last, and each of its events is
accounted for. -/
theorem run_accounts {request : Request} {events : List Event} {job final : Job}
    (inForce : InForce request job) (done : events.foldlM perform job = some final) :
    InForce (latest request events) final ∧
      Accounts ((requested events).filterMap (·.place? job.storage)) (logged request events)
        job final := by
  -- A setup in the middle puts another request in force, so the request is general.
  induction events generalizing request job with
  | nil =>
      cases done
      exact ⟨inForce, .refl final⟩
  | cons event rest inductionHypothesis =>
      rw [List.foldlM_cons] at done
      obtain ⟨next, here, later⟩ := Option.bind_eq_some_iff.mp done
      cases event with
      | setUp other =>
          obtain ⟨lasting, behind⟩ := inductionHypothesis (setUp_accounts here).1 later
          rw [latest, requested_setUp, List.getLastD_cons]
          exact ⟨lasting, accounts_setUp here behind⟩
      | message message =>
          obtain ⟨force, front⟩ := message_accounts inForce here
          obtain ⟨lasting, behind⟩ := inductionHypothesis force later
          have both := front.trans behind
          rw [filterMap_place?_of_current front.current, ← logged_message] at both
          exact ⟨lasting, both⟩

/-- Whatever was set up before, after a history of setups and messages entries go to the console and
to the log file of the last setup, if it names one, and to nothing else. The line of each message
whose level is set and not below that of the last setup in front of it has been added once to the
console and once to the log file of that setup. Nothing else has been added to any file, and no file
has been made but the log files that were named. -/
theorem logging_accounted {job final : Job} {first : Request} {events : List Event}
    (done : (Event.setUp first :: events).foldlM perform job = some final) :
    final.logging.handlers =
        .console :: ((latest first events).place? job.storage).toList.map .file ∧
      final.logging.threshold = (latest first events).threshold ∧
      Accounts ((first :: requested events).filterMap (·.place? job.storage))
        (logged first events) job final := by
  rw [List.foldlM_cons] at done
  obtain ⟨next, here, later⟩ := Option.bind_eq_some_iff.mp done
  obtain ⟨inForce, behind⟩ := run_accounts (setUp_accounts here).1 later
  have accounts := accounts_setUp here behind
  refine ⟨?_, by rw [inForce.setup], accounts⟩
  rw [inForce.setup, Request.place?_of_current accounts.current]
  rfl

end Runs

/-- A run that finds no files. -/
def emptyJob : Job :=
  .start (.ofStorage (.empty [])) []

/-- Two log files in turn, the first one under two names, and none in the end. -/
def turns : List Event :=
  [.message ⟨"INFO".toList, "one".toList⟩, .message ⟨"DEBUG".toList, "two".toList⟩,
    .setUp ⟨"Error".toList, some "b.log".toList⟩, .message ⟨"WARNING".toList, "three".toList⟩,
    .message ⟨"ERROR".toList, "four".toList⟩, .setUp ⟨"notset".toList, some "./a.log".toList⟩,
    .message ⟨"DEBUG".toList, "five".toList⟩, .setUp ⟨"loud".toList, none⟩,
    .message ⟨"FATAL".toList, "six".toList⟩]

/-- Each message is in the log file of its turn. -/
theorem logging_accounted_turns :
    ∃ final, (Event.setUp ⟨"INFO".toList, some "a.log".toList⟩ :: turns).foldlM (@perform .usual)
        emptyJob = some final ∧
      final.logging.handlers = [.console] ∧ final.logging.threshold = 20 ∧
      final.console = Entry.line ⟨.info, "one".toList⟩ ++ Entry.line ⟨.error, "four".toList⟩ ++
        Entry.line ⟨.debug, "five".toList⟩ ++ Entry.line ⟨.critical, "six".toList⟩ ∧
      final.storage.file? ["a.log".toList] = some (Text.utf8
        ("0000-00-00 00:00:00,000 [INFO] one\n".toList ++
          "0000-00-00 00:00:00,000 [DEBUG] five\n".toList)) ∧
      final.storage.file? ["b.log".toList] =
        some (Text.utf8 "0000-00-00 00:00:00,000 [ERROR] four\n".toList) := by
  have runs : ((Event.setUp ⟨"INFO".toList, some "a.log".toList⟩ :: turns).foldlM
      (@perform .usual) emptyJob).isSome = true := by
    decide +kernel
  obtain ⟨final, done⟩ := Option.isSome_iff_exists.mp runs
  obtain ⟨handlers, threshold, accounts⟩ := @logging_accounted .usual _ _ _ _ done
  refine ⟨final, done, ?_, ?_, ?_, ?_, ?_⟩
  · rw [handlers]
    decide +kernel
  · rw [threshold]
    decide +kernel
  · rw [accounts.console]
    decide +kernel
  · rw [accounts.file? (by decide +kernel)]
    decide +kernel
  · rw [accounts.file? (by decide +kernel)]
    decide +kernel

/-- A message of the level that is not set is lost, although its severity is the one asked for. -/
theorem unset_message_lost :
    Message.severity? ⟨"NOTSET".toList, "one".toList⟩ =
        some (Request.threshold ⟨"NOTSET".toList, none⟩) ∧
      ([Event.setUp ⟨"NOTSET".toList, none⟩,
        .message ⟨"NOTSET".toList, "one".toList⟩].foldlM (@perform .usual) emptyJob).map
          (·.console) = some [] := by
  decide +kernel

end EditorData.Logging
