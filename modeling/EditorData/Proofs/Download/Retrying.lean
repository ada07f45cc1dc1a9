import EditorData.Download.Fetch
import EditorData.Proofs.Number.Nearest
import EditorData.Settings.EnvFile

/-!
# Tries of a download

A download is tried until a try ends in something other than an unreachable server, no further try
is left, or a pause is too long to be waited for. The tries of a run from any progress on are
described by the number of those that are repeated (`run_tried`), for every library that keeps the
promises of one that tries again. A download in which a reference is fetched makes as many calls as
the first such outcome asks for, all alike, and its result is read off that outcome
(`fetch_protocol`). The pauses between the calls grow with their number, and none is shorter than
the settings ask for, up to the rounding of that time to a binary number.
-/

namespace EditorData.Download

/-- The outcome that a script provides for a try. Tries are counted from one on. -/
def outcomeOf (script : List Attempt) (tryNumber : Nat) : Attempt :=
  script.getD (tryNumber - 1) .beyondScript

/-- The document that the outcome of the last try gives, or why it gives none. -/
def verdict (url : Text) : Attempt -> Except Fault Text
  | .answer status reason body =>
      if status = 200 then .ok (Text.ofUtf8Repaired body)
      else
        match reason.getD [] with
        | [] => .error (.failed url (Text.ofInt status))
        | text => .error (.failed url text)
  | .failure trouble message =>
      if trouble = .system then .error (.system message) else .error (.failed url message)

/-- The seconds to wait behind a try: the time asked for or, if that is longer, one second for the
first try and twice as long for each further one, up to half a minute. -/
def pauseTime (delay tryNumber : Nat) : Nat :=
  max delay (min (2 ^ (tryNumber - 1)) 30)

/-- A later pause is no shorter. -/
theorem pauseTime_mono (delay : Nat) {earlier later : Nat} (order : earlier ≤ later) :
    pauseTime delay earlier ≤ pauseTime delay later := by
  have grows : 2 ^ (earlier - 1) ≤ 2 ^ (later - 1) :=
    Nat.pow_le_pow_right (by decide) (Nat.sub_le_sub_right order 1)
  unfold pauseTime
  omega

/-- What a call leaves: the outcomes of the script behind the first one, one more call, and the same
pauses. -/
theorem request_spec (url : Text) (timeout : Int) (progress : Progress) :
    (progress.request url timeout).1 = progress.script.getD 0 .beyondScript ∧
      (∀ index, (progress.request url timeout).2.script.getD index .beyondScript =
        progress.script.getD (index + 1) .beyondScript) ∧
      (progress.request url timeout).2.calls = progress.calls ++ [(url, timeout)] ∧
      (progress.request url timeout).2.pauses = progress.pauses := by
  have called : (progress.call url timeout).1 = progress.script.getD 0 .beyondScript ∧
      ∀ index, (progress.call url timeout).2.script.getD index .beyondScript =
        progress.script.getD (index + 1) .beyondScript := by
    cases scripted : progress.script <;> simp [Progress.call, scripted]
  obtain ⟨outcome, script⟩ := called
  have calls : (progress.call url timeout).2.calls = progress.calls ++ [(url, timeout)] := rfl
  have pauses : (progress.call url timeout).2.pauses = progress.pauses := rfl
  unfold Progress.request
  split
  · next message after found =>
      rw [found] at outcome script calls pauses
      exact ⟨outcome, script, calls, pauses⟩
  · exact ⟨outcome, script, calls, pauses⟩

section Tries

variable [Limits]

/-- The machine can wait so many seconds at once. -/
def CanWait (seconds : Nat) : Prop :=
  ∀ longest ∈ Limits.longestPause, seconds ≤ longest

/-- The machine waits as long as it can. -/
theorem wait?_of_canWait {seconds : Nat} (can : CanWait seconds) (progress : Progress) :
    progress.wait? seconds = some { progress with pauses := progress.pauses ++ [seconds] } := by
  unfold Progress.wait?
  rw [if_neg]
  rw [Option.any_eq_true]
  rintro ⟨longest, bound, short⟩
  have enough := can longest bound
  have less := of_decide_eq_true short
  omega

/-- The machine does not wait longer than it can. -/
theorem wait?_of_not_canWait {seconds : Nat} (cannot : ¬ CanWait seconds)
    (progress : Progress) : progress.wait? seconds = none := by
  unfold Progress.wait?
  rw [if_pos]
  unfold CanWait at cannot
  simpa [Option.any_eq_true] using cannot

/-- How the tries end behind the one with the given number: with its outcome, if the server was
reached or no try is left, or with a pause that cannot be made. -/
inductive Ends (attempts delay tryNumber : Nat) (outcome : Attempt) : Option Attempt -> Prop
  | reached (other : outcome.isUnreachable = false) :
      Ends attempts delay tryNumber outcome (some outcome)
  | exhausted (last : attempts ≤ tryNumber) :
      Ends attempts delay tryNumber outcome (some outcome)
  | tooLong (again : outcome.isUnreachable = true) (further : tryNumber < attempts)
      (cannot : ¬ CanWait (pauseTime delay tryNumber)) :
      Ends attempts delay tryNumber outcome none

/-- What tries make of a progress: a number of them are repeated, with a pause behind each, and
one more ends them. -/
structure Tried (url : Text) (timeout : Int) (attempts delay tryNumber repeated : Nat)
    (before : Progress) (outcome : Option Attempt) (after : Progress) : Prop where
  /-- No more tries are repeated than are left. -/
  within : tryNumber + repeated ≤ attempts
  unreachable : ∀ index < repeated,
    (before.script.getD index .beyondScript).isUnreachable = true
  waited : ∀ index < repeated, CanWait (pauseTime delay (tryNumber + index))
  calls : after.calls = before.calls ++ List.replicate (repeated + 1) (url, timeout)
  pauses : after.pauses =
    before.pauses ++ (List.range' tryNumber repeated).map (pauseTime delay)
  ends : Ends attempts delay (tryNumber + repeated)
    (before.script.getD repeated .beyondScript) outcome

variable {url : Text} {timeout : Int} {attempts delay tryNumber left : Nat} {before : Progress}

/-- A try that is not repeated. -/
theorem Tried.once {outcome : Option Attempt} (within : tryNumber ≤ attempts)
    (ends : Ends attempts delay tryNumber (before.script.getD 0 .beyondScript) outcome) :
    Tried url timeout attempts delay tryNumber 0 before outcome
      (before.request url timeout).2 := by
  obtain ⟨-, -, calls, pauses⟩ := request_spec url timeout before
  exact {
    within, calls, ends
    unreachable := fun index below => absurd below (Nat.not_lt_zero index)
    waited := fun index below => absurd below (Nat.not_lt_zero index)
    pauses := by simpa using pauses }

/-- A try that is repeated, behind a pause, stands in front of the later ones. -/
theorem Tried.again {repeated : Nat} {outcome : Option Attempt} {after : Progress}
    (unreachable : (before.script.getD 0 .beyondScript).isUnreachable = true)
    (can : CanWait (pauseTime delay tryNumber))
    (later : Tried url timeout attempts delay (tryNumber + 1) repeated
      { (before.request url timeout).2 with
        pauses := (before.request url timeout).2.pauses ++ [pauseTime delay tryNumber] }
      outcome after) :
    Tried url timeout attempts delay tryNumber (repeated + 1) before outcome after := by
  obtain ⟨-, script, calls, pauses⟩ := request_spec url timeout before
  have number (index : Nat) : tryNumber + (index + 1) = tryNumber + 1 + index := by omega
  refine {
    within := (number repeated).le.trans later.within
    unreachable := fun index below => ?_
    waited := fun index below => ?_
    calls := ?_
    pauses := ?_
    ends := ?_ }
  · cases index with
    | zero => exact unreachable
    | succ index =>
        rw [← script]
        exact later.unreachable index (Nat.lt_of_succ_lt_succ below)
  · cases index with
    | zero => exact can
    | succ index =>
        rw [number]
        exact later.waited index (Nat.lt_of_succ_lt_succ below)
  · rw [later.calls, calls, List.append_assoc, List.replicate_succ]
    rfl
  · rw [later.pauses, pauses, List.append_assoc, List.range'_succ]
    rfl
  · rw [number, ← script]
    exact later.ends

/-- The tries from a progress on are repeated as long as the server is unreachable, a further try is
left, and the machine can wait for it. -/
theorem run_tried [Retrying] (counted : tryNumber + left = attempts) (before : Progress) :
    ∃ repeated, Tried url timeout attempts delay tryNumber repeated before
      (Retrying.run (downloadPolicy attempts delay) (Progress.request url timeout)
        Progress.wait? tryNumber before).1
      (Retrying.run (downloadPolicy attempts delay) (Progress.request url timeout)
        Progress.wait? tryNumber before).2 := by
  have first := (request_spec url timeout before).1
  have within : tryNumber ≤ attempts := counted ▸ Nat.le_add_right tryNumber left
  induction left generalizing tryNumber before with
  | zero =>
      have last : attempts ≤ tryNumber := counted.ge
      rw [Retrying.run_last _ _ _ _ _ last, first]
      exact ⟨0, .once within (.exhausted last)⟩
  | succ left inductionHypothesis =>
      have further : tryNumber < attempts := by omega
      cases reached : (before.script.getD 0 .beyondScript).isUnreachable with
      | false =>
          rw [← first] at reached
          rw [Retrying.run_ended _ _ _ _ _ reached]
          rw [first] at reached ⊢
          exact ⟨0, .once within (.reached reached)⟩
      | true =>
          have again : (downloadPolicy attempts delay).retries
              (before.request url timeout).1 = true := first ▸ reached
          have pause : (downloadPolicy attempts delay).pause tryNumber =
              pauseTime delay tryNumber := rfl
          rw [Retrying.run_again _ _ _ _ _ again further, pause]
          by_cases can : CanWait (pauseTime delay tryNumber)
          · rw [wait?_of_canWait can]
            have counted : tryNumber + 1 + left = attempts := by omega
            obtain ⟨repeated, later⟩ :=
              inductionHypothesis counted _ (request_spec url timeout _).1 further
            exact ⟨repeated + 1, .again reached can later⟩
          · rw [wait?_of_not_canWait can]
            exact ⟨0, .once within (.tooLong reached further can)⟩

end Tries

/-- The outcome that ended the tries decides the result, and nothing is called any more. -/
theorem conclude_verdict (url : Text) (progress : Progress) (outcome : Attempt) :
    (conclude url progress outcome).1 = verdict url outcome ∧
      (conclude url progress outcome).2.calls = progress.calls ∧
      (conclude url progress outcome).2.pauses = progress.pauses := by
  unfold conclude
  split
  · exact ⟨rfl, rfl, rfl⟩
  · next trouble message notSystem =>
      have other : trouble ≠ .system := fun system => notSystem (system ▸ rfl)
      exact ⟨(if_neg other).symm, rfl, rfl⟩
  · exact ⟨rfl, rfl, rfl⟩
  · next status reason body refused =>
      have other : status ≠ 200 := fun accepted => refused (accepted ▸ rfl)
      have refusal : verdict url (.answer status reason body) =
          match reason.getD [] with
          | [] => .error (.failed url (Text.ofInt status))
          | text => .error (.failed url text) := if_neg other
      rw [refusal]
      split
      · exact ⟨rfl, rfl, rfl⟩
      · exact ⟨rfl, rfl, rfl⟩
      · next text given =>
          cases text with
          | nil => exact (given rfl).elim
          | cons first rest => exact ⟨rfl, rfl, rfl⟩

/-- The given try is the first one that ends otherwise than with an unreachable server. -/
structure FirstReached (script : List Attempt) (tryNumber : Nat) : Prop where
  positive : 0 < tryNumber
  earlier : ∀ number, 0 < number → number < tryNumber →
    (outcomeOf script number).isUnreachable = true
  reached : (outcomeOf script tryNumber).isUnreachable = false

/-- What a download by the given settings does: the calls it makes, all alike, its result, and the
seconds it waits between the calls. -/
structure Protocol (attempts delay : Nat) (address : Text) (seconds : Int) (script : List Attempt)
    (result : Except Fault Text) (progress : Progress) : Prop where
  /-- The first outcome that is no unreachable server ends the tries and decides the result. -/
  reached : ∀ last ≤ attempts, FirstReached script last →
    progress.calls = List.replicate last (address, seconds) ∧
      result = verdict address (outcomeOf script last)
  /-- Without such an outcome among the tries, all of them are made and the last one counts. -/
  exhausted : (∀ last ≤ attempts, ¬ FirstReached script last) →
    progress.calls = List.replicate attempts (address, seconds) ∧
      ∃ message, outcomeOf script attempts = .failure .unreachable message ∧
        result = .error (.failed address message)
  pauses : progress.pauses =
    (List.range' 1 (progress.calls.length - 1)).map (pauseTime delay)
  growing : progress.pauses.Pairwise (· ≤ ·)
  least : ∀ pause ∈ progress.pauses, delay ≤ pause

/-- An unreachable server is a failure with a message. -/
theorem eq_failure_of_isUnreachable {outcome : Attempt}
    (unreachable : outcome.isUnreachable = true) :
    ∃ message, outcome = .failure .unreachable message := by
  cases outcome with
  | answer status reason body => cases unreachable
  | failure trouble message =>
      cases trouble with
      | unreachable => exact ⟨message, rfl⟩
      | request => cases unreachable
      | system => cases unreachable

/-- The pause behind a try is called for: the server has been unreachable up to it, and a further
try is left. -/
structure PauseNeeded (attempts : Nat) (script : List Attempt) (tryNumber : Nat) : Prop where
  positive : 0 < tryNumber
  further : tryNumber < attempts
  unreachable : ∀ number, 0 < number → number ≤ tryNumber →
    (outcomeOf script number).isUnreachable = true

section Downloads

variable [Limits] {delay : Nat} {script : List Attempt} {settings : Settings}

/-- The tries of a download by the given settings: so many are repeated, and one more ends them. -/
structure Downloaded (attempts delay : Nat) (address : Text) (seconds : Int)
    (script : List Attempt) (repeated : Nat) (result : Except Fault Text) (progress : Progress) :
    Prop where
  within : repeated + 1 ≤ attempts
  unreachable : ∀ number, 0 < number → number ≤ repeated →
    (outcomeOf script number).isUnreachable = true
  waited : ∀ number, 0 < number → number ≤ repeated → CanWait (pauseTime delay number)
  calls : progress.calls = List.replicate (repeated + 1) (address, seconds)
  pauses : progress.pauses = (List.range' 1 repeated).map (pauseTime delay)
  ends : ∃ outcome, Ends attempts delay (repeated + 1) (outcomeOf script (repeated + 1)) outcome ∧
    result = outcome.elim (.error .endlessDelay) (verdict address)

/-- Tries from the first one on, made where nothing has been called yet, are those of a download
whose result the outcome that ended them decides. -/
theorem Tried.downloaded {attempts repeated : Nat} {address : Text} {seconds : Int}
    {before after : Progress} {outcome : Option Attempt}
    (tried : Tried address seconds attempts delay 1 repeated before outcome after)
    (scripted : before.script = script) (noCalls : before.calls = [])
    (noPauses : before.pauses = []) :
    Downloaded attempts delay address seconds script repeated
      (outcome.elim (.error .endlessDelay) (verdict address)) after := by
  have outcomes (index : Nat) :
      before.script.getD index .beyondScript = outcomeOf script (1 + index) := by
    rw [scripted, outcomeOf, Nat.add_sub_cancel_left]
  have ends := tried.ends
  rw [outcomes, Nat.add_comm 1 repeated] at ends
  refine {
    within := Nat.add_comm 1 repeated ▸ tried.within
    unreachable := fun number positive below => ?_
    waited := fun number positive below => ?_
    calls := by rw [tried.calls, noCalls, List.nil_append]
    pauses := by rw [tried.pauses, noPauses, List.nil_append]
    ends := ⟨outcome, ends, rfl⟩ }
  · have unreachable := tried.unreachable (number - 1) (by omega)
    rwa [outcomes, Nat.add_sub_cancel' positive] at unreachable
  · have waited := tried.waited (number - 1) (by omega)
    rwa [Nat.add_sub_cancel' positive] at waited

/-- A download that waits for the time that its settings ask for, once that is rounded, makes its
tries from the first one on. -/
theorem get_downloaded [Retrying] (address : Text) (seconds : Int) (script : List Attempt)
    (rounded : Number.nearestWhole? settings.retryDelay = some delay)
    (positive : 0 < settings.attempts) :
    ∃ repeated, Downloaded settings.attempts delay address seconds script repeated
      (get settings address seconds script).1 (get settings address seconds script).2 := by
  obtain ⟨left, attempts⟩ := Nat.exists_eq_add_of_le positive
  unfold get
  rw [rounded]
  dsimp only
  generalize started : (Progress.start script).report .info ("📥 Downloading ".toList ++ address) =
    announced
  obtain ⟨repeated, tried⟩ := @run_tried _ address seconds settings.attempts delay 1 left _
    attempts.symm announced
  generalize Retrying.run (downloadPolicy settings.attempts delay)
    (Progress.request address seconds) Progress.wait? 1 announced = ended at tried
  obtain ⟨outcome, progress⟩ := ended
  dsimp only at tried ⊢
  have scripted : announced.script = script := started ▸ rfl
  have noCalls : announced.calls = [] := started ▸ rfl
  have noPauses : announced.pauses = [] := started ▸ rfl
  have known := tried.downloaded scripted noCalls noPauses
  refine ⟨repeated, ?_⟩
  cases outcome with
  | none => exact known
  | some outcome =>
      obtain ⟨result, calls, pauses⟩ := conclude_verdict address progress outcome
      obtain ⟨last, ends, decided⟩ := known.ends
      exact { known with
        calls := calls.trans known.calls
        pauses := pauses.trans known.pauses
        ends := ⟨last, ends, result.trans decided⟩ }

namespace Downloaded

variable {attempts repeated : Nat} {address : Text} {seconds : Int} {result : Except Fault Text}
  {progress : Progress}

/-- If every pause that is called for can be waited for, the outcome of the last try decides the
result. -/
theorem ended
    (downloaded : Downloaded attempts delay address seconds script repeated result progress)
    (waits : ∀ number, PauseNeeded attempts script number → CanWait (pauseTime delay number)) :
    result = verdict address (outcomeOf script (repeated + 1)) ∧
      ((outcomeOf script (repeated + 1)).isUnreachable = true → repeated + 1 = attempts) := by
  have within := downloaded.within
  obtain ⟨outcome, ends, result⟩ := downloaded.ends
  cases ends with
  | reached other => exact ⟨result, fun unreachable => by simp [other] at unreachable⟩
  | exhausted last => exact ⟨result, fun _ => Nat.le_antisymm within last⟩
  | tooLong again further cannot =>
      refine (cannot (waits _
        ⟨Nat.succ_pos repeated, further, fun number positive upTo => ?_⟩)).elim
      rcases Nat.lt_or_eq_of_le upTo with below | rfl
      · exact downloaded.unreachable number positive (by omega)
      · exact again

/-- If every pause that is called for can be waited for, a download keeps to the protocol. -/
theorem protocol
    (downloaded : Downloaded attempts delay address seconds script repeated result progress)
    (waits : ∀ number, PauseNeeded attempts script number → CanWait (pauseTime delay number)) :
    Protocol attempts delay address seconds script result progress := by
  obtain ⟨result, goesOn⟩ := downloaded.ended waits
  have within := downloaded.within
  have pauses := downloaded.pauses
  refine {
    reached := fun last within first => ?_
    exhausted := fun never => ?_
    pauses := by rw [pauses, downloaded.calls, List.length_replicate, Nat.add_sub_cancel]
    growing := ?_
    least := ?_ }
  · have positive := first.positive
    have reached := first.reached
    -- No try before the one that ends them reaches the server, and none behind it is made.
    have same : last = repeated + 1 := by
      rcases Nat.lt_trichotomy last (repeated + 1) with below | same | above
      · rw [downloaded.unreachable last positive (by omega)] at reached
        cases reached
      · exact same
      · have all := goesOn (first.earlier (repeated + 1) (Nat.succ_pos repeated) above)
        omega
    rw [downloaded.calls, result, same]
    exact ⟨rfl, rfl⟩
  · have unreachable : (outcomeOf script (repeated + 1)).isUnreachable = true := by
      by_contra reached
      exact never (repeated + 1) within ⟨Nat.succ_pos repeated, fun number positive below =>
        downloaded.unreachable number positive (by omega), Bool.eq_false_of_not_eq_true reached⟩
    obtain ⟨message, failed⟩ := eq_failure_of_isUnreachable unreachable
    have all := goesOn unreachable
    refine ⟨by rw [downloaded.calls, all], message, all ▸ failed, ?_⟩
    rw [result, failed]
    rfl
  · rw [pauses, List.pairwise_map]
    exact List.Pairwise.imp (fun order => pauseTime_mono delay order.le) List.pairwise_lt_range'
  · rw [pauses]
    intro pause member
    obtain ⟨number, -, rfl⟩ := List.mem_map.mp member
    exact Nat.le_max_left ..

/-- The first pause that is called for and cannot be waited for ends the download. -/
theorem overslept {tryNumber : Nat}
    (downloaded : Downloaded attempts delay address seconds script repeated result progress)
    (needed : PauseNeeded attempts script tryNumber)
    (cannot : ¬ CanWait (pauseTime delay tryNumber))
    (earlier : ∀ number, 0 < number → number < tryNumber → CanWait (pauseTime delay number)) :
    result = .error .endlessDelay ∧
      progress.calls = List.replicate tryNumber (address, seconds) ∧
      progress.pauses = (List.range' 1 (tryNumber - 1)).map (pauseTime delay) := by
  have further := needed.further
  have upTo : ¬ tryNumber ≤ repeated := fun below =>
    cannot (downloaded.waited tryNumber needed.positive below)
  obtain ⟨outcome, ends, result⟩ := downloaded.ends
  cases ends with
  | reached other =>
      rw [needed.unreachable _ (Nat.succ_pos repeated) (by omega)] at other
      cases other
  | exhausted last => omega
  | tooLong again more cannotThen =>
      have same : tryNumber = repeated + 1 := by
        by_contra later
        exact cannotThen (earlier _ (Nat.succ_pos repeated) (by omega))
      rw [same]
      exact ⟨result, downloaded.calls, downloaded.pauses⟩

end Downloaded

end Downloads

/-- The time to wait for an answer: the one given, or else the one in the settings. -/
def answerTime (settings : Settings) (timeout : Option Int) : Int :=
  if timeout.getD 0 = 0 then settings.timeout else timeout.getD 0

section Fetching

variable [Limits] [Settings.EnvironmentFiles] [Retrying]

/-- A reference is fetched by a download from its address with the settings of the session. -/
theorem fetch_eq_get {session : Settings.Session} {storage : Storage} {version address : Text}
    {template : Option Text} {issue : Settings.Issue} (timeout : Option Int)
    (script : List Attempt)
    (configured : (session.obtain storage none).result = .ok issue)
    (addressed : (url (session.obtain storage none).session storage version template).2 =
      .ok address) :
    (fetch session storage version template timeout script).2 =
      get issue.settings address (answerTime issue.settings timeout) script := by
  unfold fetch
  dsimp only
  rw [configured]
  dsimp only
  split
  · next after fault found =>
      rw [found] at addressed
      cases addressed
  · next after found same =>
      rw [same] at addressed
      cases addressed
      dsimp only
      congr 1
      unfold answerTime
      split
      · rfl
      · rfl
      · next seconds notZero =>
          have given : seconds ≠ 0 := fun zero => notZero (zero ▸ rfl)
          exact (if_neg given).symm

/-- A reference is fetched by the retry protocol: the tries, their outcome and the pauses between
them are those of `Protocol`, where the time to wait between two tries is rounded to a binary
number. That leaves a time of at most 53 bits as it is, and one of at most 1023 bits as it is up to
one part in `2 ^ 53`. A pause that is called for and longer than the machine can wait ends the
download at the try in front of it, and a time beyond all binary numbers is refused before the first
call. -/
theorem fetch_protocol (session : Settings.Session) (storage : Storage) (version : Text)
    (template : Option Text) (timeout : Option Int) (script : List Attempt)
    {issue : Settings.Issue} {address : Text}
    (configured : (session.obtain storage none).result = .ok issue)
    (addressed : (url (session.obtain storage none).session storage version template).2 =
      .ok address)
    (positive : 0 < issue.settings.attempts) :
    let fetched := (fetch session storage version template timeout script).2
    let attempts := issue.settings.attempts
    let seconds := answerTime issue.settings timeout
    let asked := issue.settings.retryDelay
    (∀ delay, Number.nearestWhole? asked = some delay →
      (∀ number, PauseNeeded attempts script number → CanWait (pauseTime delay number)) →
      Protocol attempts delay address seconds script fetched.1 fetched.2) ∧
    (∀ delay tryNumber, Number.nearestWhole? asked = some delay →
      PauseNeeded attempts script tryNumber → ¬ CanWait (pauseTime delay tryNumber) →
      (∀ number, 0 < number → number < tryNumber → CanWait (pauseTime delay number)) →
      fetched.1 = .error .endlessDelay ∧
        fetched.2.calls = List.replicate tryNumber (address, seconds) ∧
        fetched.2.pauses = (List.range' 1 (tryNumber - 1)).map (pauseTime delay)) ∧
    (Number.nearestWhole? asked = none →
      fetched.1 = .error .endlessDelay ∧ fetched.2.calls = [] ∧ fetched.2.pauses = []) ∧
    (asked < 2 ^ 53 → Number.nearestWhole? asked = some asked) ∧
    (Nat.log2 asked < 1023 → ∃ delay, Number.nearestWhole? asked = some delay ∧
      2 ^ 53 * delay ≤ (2 ^ 53 + 1) * asked ∧ (2 ^ 53 - 1) * asked ≤ 2 ^ 53 * delay) := by
  intro fetched attempts seconds asked
  have same : fetched = get issue.settings address seconds script :=
    fetch_eq_get timeout script configured addressed
  rw [same]
  refine ⟨fun delay rounded waits => ?_, fun delay tryNumber rounded needed cannot earlier => ?_,
    fun endless => ?_, fun short => ?_, Number.exists_nearestWhole?⟩
  · obtain ⟨repeated, downloaded⟩ := get_downloaded address seconds script rounded positive
    exact downloaded.protocol waits
  · obtain ⟨repeated, downloaded⟩ := get_downloaded address seconds script rounded positive
    exact downloaded.overslept needed cannot earlier
  · unfold get
    rw [endless]
    exact ⟨rfl, rfl, rfl⟩
  · have few : Nat.log2 asked < 1023 := by
      by_cases zero : asked = 0
      · rw [zero, Nat.log2_zero]
        decide
      · have bits := (Nat.log2_lt zero).mpr short
        omega
    obtain ⟨delay, rounded, above, below⟩ := Number.exists_nearestWhole? few
    have exact : delay = asked := by omega
    exact exact ▸ rounded

end Fetching

/-- A session that has made no settings yet. -/
def freshSession (environment : Settings.Environment) : Settings.Session :=
  ⟨environment, none, 0⟩

/-- An answer to the second of three tries is the last call, and it is waited for once. -/
theorem fetch_protocol_second_try :
    let fetched := (@fetch .usual (Settings.EnvFile.library []) .plain (freshSession []) (.empty [])
      "master".toList (some "x".toList) none
      [.failure .unreachable "lost".toList, .answer 404 (some []) []]).2
    fetched.2.calls = List.replicate 2 ("x".toList, 30) ∧
      fetched.1 = .error (.failed "x".toList "404".toList) ∧
      (∀ fault, fetched.1 = .error fault →
        fault.message = "failed to download x: 404".toList) ∧
      fetched.2.pauses = [2] := by
  intro fetched
  let machine : Limits := .usual
  let files := Settings.EnvFile.library []
  have configured : ((freshSession []).obtain (.empty []) none).result =
      .ok ⟨0, Settings.defaultUrlTemplate, Settings.defaultRoot, 30, 3, 2, "INFO".toList, none⟩ :=
    by rfl
  have waits : ∀ number,
      PauseNeeded 3 [.failure .unreachable "lost".toList, .answer 404 (some []) []] number →
        CanWait (pauseTime 2 number) := by
    intro number needed longest bound
    cases bound
    unfold pauseTime
    omega
  have protocol : Protocol 3 2 "x".toList 30 _ fetched.1 fetched.2 :=
    (@fetch_protocol machine files .plain (freshSession []) (.empty []) "master".toList
      (some "x".toList) none _ _ _ configured (by decide +kernel) (by decide)).1 2
      (by decide +kernel) waits
  obtain ⟨calls, result⟩ := protocol.reached 2 (by decide) {
    positive := by decide
    earlier := fun number positive below => by
      rw [show number = 1 by omega]
      decide
    reached := by decide }
  refine ⟨calls, result, fun fault failed => ?_, ?_⟩
  · cases result.symm.trans failed
    decide
  · rw [protocol.pauses, calls]
    rfl

/-- An environment that asks for two tries, and a time between them that has 54 bits. -/
def longDelay : Settings.Environment :=
  [(Settings.attemptsVariable, "2".toList), (Settings.delayVariable, "9007199254740993".toList)]

/-- A time between two tries with 54 bits is not waited for: where the machine can wait any time the
pause is one second shorter, and a usual machine makes no second call, although an answer would
follow. -/
theorem fetch_pause_rounded :
    let script : List Attempt :=
      [.failure .unreachable "lost".toList, .answer 200 none [120]]
    let patient : Limits := { Limits.usual with longestPause := none }
    (@fetch patient (Settings.EnvFile.library []) .plain (freshSession longDelay) (.empty [])
        "master".toList none none script).2.2.pauses ≠ [pauseTime 9007199254740993 1] ∧
    let fetched := (@fetch .usual (Settings.EnvFile.library []) .plain (freshSession longDelay)
      (.empty []) "master".toList none none script).2
    fetched.1 = .error .endlessDelay ∧ fetched.2.calls.length ≠ 2 := by
  decide +kernel

end EditorData.Download
