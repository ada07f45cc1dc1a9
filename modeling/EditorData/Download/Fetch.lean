import EditorData.Download.Retrying
import EditorData.Limits
import EditorData.Logging.Entry
import EditorData.Number.Binary64
import EditorData.Settings.Session
import EditorData.Template.Basic

/-!
# Downloading the reference

A download is tried again when the connection fails or no answer comes in time, up to the
number of tries in the settings. Between two tries it waits: one second, then twice as
long each time up to half a minute, but never less than the settings ask for. A time that
the settings ask for is rounded to a binary number, and refused before the first try if it
is beyond all of them; a pause that is longer than the machine can wait ends the download. What
the network does is given as a script of outcomes, one for each try; a try beyond the script
finds no connection. An answer counts only with the status 200.
-/

namespace EditorData.Download

/-- What a try meets instead of an answer. -/
inductive Trouble where
  /-- A failed connection, or no answer in time. -/
  | unreachable
  /-- Any other failure of the request. -/
  | request
  /-- A failure outside the request. -/
  | system
deriving DecidableEq, Repr

/-- What a try ends with. -/
inductive Attempt where
  | answer (status : Int) (reason : Option Text) (body : List UInt8)
  | failure (trouble : Trouble) (message : Text)
deriving DecidableEq, Repr

/-- A try that no script provides for. -/
def Attempt.beyondScript : Attempt :=
  .failure .unreachable "no response".toList

/-- Why a download gives no document. -/
inductive Fault where
  | settings (fault : Settings.Fault)
  | template (fault : Template.Fault)
  /-- A time to wait beyond all binary numbers, or longer than the machine can wait. -/
  | endlessDelay
  /-- The server's refusal, or the last failure of the request. -/
  | failed (url reason : Text)
  | system (message : Text)
deriving DecidableEq, Repr

/-- The wording of a fault. -/
def Fault.message : Fault -> Text
  | .settings fault => fault.message
  | .template fault => fault.message
  | .endlessDelay => "the time between two tries is too long".toList
  | .failed url reason => "failed to download ".toList ++ url ++ ": ".toList ++ reason
  | .system message => message

/-- A download in progress: the rest of the script, the calls made, the pauses, and what
was reported, in order. -/
structure Progress where
  script : List Attempt
  calls : List (Text × Int)
  pauses : List Nat
  log : List Logging.Entry
deriving DecidableEq, Repr

namespace Progress

/-- In front of the first try. -/
def start (script : List Attempt) : Progress :=
  ⟨script, [], [], []⟩

/-- Report a message. -/
def report (progress : Progress) (level : Logging.Level) (message : Text) : Progress :=
  { progress with log := progress.log ++ [⟨level, message⟩] }

/-- Make a call, which the next outcome of the script answers. -/
def call (progress : Progress) (url : Text) (timeout : Int) : Attempt × Progress :=
  (progress.script.head?.getD .beyondScript,
    { progress with
      script := progress.script.tail
      calls := progress.calls ++ [(url, timeout)] })

/-- Wait, if the machine can wait so long. -/
def wait? [Limits] (seconds : Nat) (progress : Progress) : Option Progress :=
  if Limits.longestPause.any (· < seconds) then none
  else some { progress with pauses := progress.pauses ++ [seconds] }

end Progress

/-- The warning about a try that may be repeated. -/
def retryWarning (url message : Text) : Text :=
  "⚠️ Request to ".toList ++ url ++ " failed, retrying: ".toList ++ message

/-- Whether an outcome is one to be tried again after: the connection failed, or no answer came in
time. -/
def Attempt.isUnreachable : Attempt -> Bool
  | .failure .unreachable _ => true
  | _ => false

/-- Make a call and, if the server cannot be reached, warn of it. -/
def Progress.request (url : Text) (timeout : Int) (progress : Progress) : Attempt × Progress :=
  match progress.call url timeout with
  | (.failure .unreachable message, called) =>
      (.failure .unreachable message, called.report .warning (retryWarning url message))
  | other => other

/-- How requests are repeated unless something else is asked for. -/
def requestPolicy : Policy Attempt :=
  ⟨3, 2, 30, Attempt.isUnreachable⟩

/-- How the requests of a download are repeated. -/
def downloadPolicy (tries retryDelay : Nat) : Policy Attempt :=
  requestPolicy.retryWith tries retryDelay 30

/-- The document of the outcome that ended the tries. -/
def conclude (url : Text) (progress : Progress) : Attempt -> Except Fault Text × Progress
  | .failure .system message => (.error (.system message), progress)
  | .failure _ message => refuse message
  | .answer 200 _ body =>
      (.ok (Text.ofUtf8Repaired body),
        progress.report .info
          ("✅ Downloaded ".toList ++ Text.ofNat body.length ++ " bytes".toList))
  | .answer status reason _ =>
      match reason with
      | none | some [] => refuse (Text.ofInt status)
      | some text => refuse text
where
  /-- Give up for a reason. -/
  refuse (reason : Text) : Except Fault Text × Progress :=
    let fault := Fault.failed url reason
    (.error fault, progress.report .error fault.message)

variable [Limits] [Settings.EnvironmentFiles] [Retrying]

/-- Download the document at an address. -/
def get (settings : Settings) (url : Text) (timeout : Int) (script : List Attempt) :
    Except Fault Text × Progress :=
  match Number.nearestWhole? settings.retryDelay with
  | none => (.error .endlessDelay, .start script)
  | some retryDelay =>
      let announced := (Progress.start script).report .info ("📥 Downloading ".toList ++ url)
      match Retrying.run (downloadPolicy settings.attempts retryDelay)
          (Progress.request url timeout) Progress.wait? 1 announced with
      | (none, tried) => (.error .endlessDelay, tried)
      | (some outcome, tried) => conclude url tried outcome

/-- The address of the reference for a version: by the template if one is given, otherwise
by the one in the settings. -/
def url (session : Settings.Session) (storage : Storage) (version : Text)
    (template : Option Text) : Settings.Session × Except Fault Text :=
  let filled (template : Text) : Except Fault Text :=
    match Template.fill template version with
    | .ok text => .ok text
    | .error fault => .error (.template fault)
  match template with
  | none | some [] =>
      let answer := session.obtain storage none
      match answer.result with
      | .error fault => (answer.session, .error (.settings fault))
      | .ok issue => (answer.session, filled issue.settings.urlTemplate)
  | some text => (session, filled text)

/-- Download the reference of a version. A time to wait of zero is none given. -/
def fetch (session : Settings.Session) (storage : Storage) (version : Text)
    (template : Option Text) (timeout : Option Int) (script : List Attempt) :
    Settings.Session × Except Fault Text × Progress :=
  let answer := session.obtain storage none
  match answer.result with
  | .error fault => (answer.session, .error (.settings fault), .start script)
  | .ok issue =>
      match url answer.session storage version template with
      | (after, .error fault) => (after, .error fault, .start script)
      | (after, .ok address) =>
          let seconds :=
            match timeout with
            | none | some 0 => (issue.settings.timeout : Int)
            | some seconds => seconds
          (after, get issue.settings address seconds script)

end EditorData.Download
