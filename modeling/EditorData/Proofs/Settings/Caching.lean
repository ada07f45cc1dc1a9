import EditorData.Proofs.Results
import EditorData.Proofs.Text.Lines
import EditorData.Settings.EnvFile
import EditorData.Settings.Session

/-!
# Settings kept over a session

Settings that have been made are in order and say what the environment said when they were made,
once the values of an environment file had been assigned in it: those of a file that is named
override it, those of a file that has been searched for do not, and the environment can turn both
off (`make_ok`). A session keeps the first settings that are obtained until they are dropped;
settings made directly, and requests that fail, leave what is kept alone. That holds along every
sequence of events, whatever happens to the environment and the files between them
(`settings_cached`), and for every library that keeps the promises of one for environment files.
-/

namespace EditorData.Settings

/-- What is checked of settings: the numbers are positive, the address has a place for the version,
and the root of the online reference does not end in a slash. -/
structure InOrder (settings : Settings) : Prop where
  timeout : 0 < settings.timeout
  attempts : 0 < settings.attempts
  retryDelay : 0 < settings.retryDelay
  versionField : ∃ front back, settings.urlTemplate = front ++ "\x7bversion\x7d".toList ++ back
  root : settings.documentationRoot.getLast? ≠ some '/'

/-- Settings reflect an environment: each is read from its variable, or is its default. -/
structure Reflects (settings : Settings) (environment : Environment) : Prop where
  urlTemplate : settings.urlTemplate = environment.get "ZLS_GEN_LANGREF_URL".toList
    "https://raw.githubusercontent.com/ziglang/zig/\x7bversion\x7d/doc/langref.html.in".toList
  root : settings.documentationRoot = (environment.get "ZLS_GEN_DOC_ROOT".toList
    "https://ziglang.org/documentation".toList).rdropWhile (· == '/')
  timeout : Text.integer (environment.get "ZLS_GEN_REQUEST_TIMEOUT".toList "30".toList) =
    .ok settings.timeout
  attempts : Text.integer (environment.get "ZLS_GEN_MAX_RETRIES".toList "3".toList) =
    .ok settings.attempts
  retryDelay : Text.integer (environment.get "ZLS_GEN_RETRY_DELAY".toList "2".toList) =
    .ok settings.retryDelay
  logLevel : settings.logLevel =
    Text.upper (environment.get "ZLS_GEN_LOG_LEVEL".toList "INFO".toList)
  logFile : settings.logFile =
    if environment.get "ZLS_GEN_LOG_FILE".toList [] = [] then none
    else some (environment.get "ZLS_GEN_LOG_FILE".toList [])

/-- A setting that is accepted as positive is the number that its variable holds. -/
theorem positive_ok {name : Text} {value : Int} {accepted : Nat}
    (positive : Settings.positive name value = .ok accepted) :
    value = accepted ∧ 0 < accepted := by
  unfold Settings.positive at positive
  split at positive
  · next above =>
      cases positive
      omega
  · cases positive

/-- A variable that is read as an integer holds one. -/
theorem integer_ok {environment : Environment} {variableName default : Text} {number : Int}
    (read : environment.integer variableName default = .ok number) :
    Text.integer (environment.get variableName default) = .ok number := by
  unfold Environment.integer at read
  dsimp only at read
  split at read
  · next found =>
      cases read
      exact found
  · cases read
  · cases read

/-- Settings of an environment are in order and say what it says. -/
theorem ofEnvironment_ok {environment : Environment} {settings : Settings}
    (made : ofEnvironment environment = .ok settings) :
    settings.InOrder ∧ settings.Reflects environment := by
  unfold ofEnvironment at made
  obtain ⟨timeout, readTimeout, behindTimeout⟩ := ok_of_bind made
  obtain ⟨attempts, readAttempts, behindAttempts⟩ := ok_of_bind behindTimeout
  obtain ⟨retryDelay, readDelay, read⟩ := ok_of_bind behindAttempts
  obtain ⟨timeoutNumber, timeoutPositive, acceptedTimeout⟩ := ok_of_bind read
  obtain ⟨attemptsNumber, attemptsPositive, acceptedAttempts⟩ := ok_of_bind acceptedTimeout
  obtain ⟨delayNumber, delayPositive, accepted⟩ := ok_of_bind acceptedAttempts
  obtain ⟨rfl, timeoutAbove⟩ := positive_ok timeoutPositive
  obtain ⟨rfl, attemptsAbove⟩ := positive_ok attemptsPositive
  obtain ⟨rfl, delayAbove⟩ := positive_ok delayPositive
  dsimp only at accepted
  split at accepted
  · cases accepted
  · next found =>
      cases accepted
      obtain ⟨⟨front, back⟩, cut⟩ := Option.ne_none_iff_exists'.mp fun none =>
        found (Option.isNone_iff_eq_none.mpr none)
      refine ⟨⟨timeoutAbove, attemptsAbove, delayAbove, ⟨front, back, ?_⟩, ?_⟩,
        ⟨rfl, Text.trimEnd_eq_rdropWhile .., integer_ok readTimeout, integer_ok readAttempts,
          integer_ok readDelay, rfl, ?_⟩⟩
      · exact Text.eq_append_of_cut? cut
      · exact Text.getLast?_trimEnd_ne _ _ rfl
      · dsimp only
        split
        · next empty => exact (if_pos empty).symm
        · next path given => exact (if_neg given).symm

namespace Session

variable {session : Session} {storage : Storage} {envFile : Option Text}

/-- Settings that are made from the environment as it is get the next number, are in order and say
what the environment says. -/
theorem issue_ok {log complaints : List Logging.Entry} {made : Issue}
    (done : (session.issue log complaints).result = .ok made) :
    (session.issue log complaints).session = { session with issued := session.issued + 1 } ∧
      made.number = session.issued ∧ made.settings.InOrder ∧
      made.settings.Reflects session.environment := by
  unfold issue at done ⊢
  split at done
  · cases done
  · next settings read =>
      cases done
      exact ⟨rfl, rfl, ofEnvironment_ok read⟩

/-- Settings that are made from the environment as it is leave those kept alone. -/
theorem issue_kept (session : Session) (log complaints : List Logging.Entry) :
    (session.issue log complaints).session.kept = session.kept ∧
      session.issued ≤ (session.issue log complaints).session.issued := by
  unfold issue
  split
  · exact ⟨rfl, Nat.le_refl _⟩
  · exact ⟨rfl, Nat.le_succ _⟩

variable [EnvironmentFiles]

/-- The environment from which settings are made, unless it turns environment files off. A file that
is named assigns all its values. If none is named, one that is found gives values to the variables
that are not set. -/
def environmentFor (session : Session) (storage : Storage) (envFile : Option Text) : Environment :=
  let own := session.environment
  if own.ignoresFiles then own
  else
    match envFile with
    | none | some [] =>
        match (EnvironmentFiles.search storage).text? with
        | none => own
        | some text =>
            Dictionary.assignAll ((EnvironmentFiles.values false own text).filter fun entry =>
              (Dictionary.find? entry.1 own).isNone) own
    | some path =>
        match (Sighting.ofReading (storage.read path)).text? with
        | none => own
        | some text => Dictionary.assignAll (EnvironmentFiles.values true own text) own

/-- What is loaded to its end has assigned the values of its text, if it has any. -/
theorem load_eq {override : Bool} {environment : Environment} {seen : Sighting}
    (noFault : (EnvironmentFiles.load override environment seen).fault = none) :
    (EnvironmentFiles.load override environment seen).environment =
      if environment.ignoresFiles then environment
      else
        match seen.text? with
        | none => environment
        | some text =>
            environment.assign override (EnvironmentFiles.values override environment text) := by
  split
  · next off => exact EnvironmentFiles.load_off _ _ _ off
  · next active =>
      split
      · next nothing => exact EnvironmentFiles.load_nothing _ _ _ nothing
      · next text found =>
          exact EnvironmentFiles.load_text _ _ _ text (Bool.eq_false_iff.mpr active) found noFault

/-- An environment file that is loaded without a fault has given its values. -/
theorem loadFile_ok {loaded : Session} {complaints : List Logging.Entry}
    (done : session.loadFile storage envFile = (loaded, complaints, none)) :
    loaded = { session with environment := session.environmentFor storage envFile } := by
  obtain ⟨rfl, rest⟩ := Prod.mk.inj done
  obtain ⟨-, noFault⟩ := Prod.mk.inj rest
  congr 1
  rcases envFile with _ | _ | ⟨first, path⟩
  · exact load_eq noFault
  · exact load_eq noFault
  · exact load_eq noFault

/-- Settings that are made get the next number, are in order and say what the environment says once
an environment file has given its values. -/
theorem make_ok {made : Issue} (done : (session.make storage envFile).result = .ok made) :
    (session.make storage envFile).session = { session with
        environment := session.environmentFor storage envFile
        issued := session.issued + 1 } ∧
      made.number = session.issued ∧ made.settings.InOrder ∧
      made.settings.Reflects (session.environmentFor storage envFile) := by
  unfold make at done ⊢
  split at done
  · cases done
  · next loaded complaints found =>
      rw [loadFile_ok found] at done ⊢
      exact issue_ok done

/-- Making settings, or failing to make them, leaves the settings kept alone, and the count of those
made does not fall. -/
theorem make_kept (session : Session) (storage : Storage) (envFile : Option Text) :
    (session.make storage envFile).session.kept = session.kept ∧
      session.issued ≤ (session.make storage envFile).session.issued := by
  unfold make
  split
  · next loaded complaints fault found =>
      obtain ⟨rfl, -⟩ := Prod.mk.inj found
      exact ⟨rfl, Nat.le_refl _⟩
  · next loaded complaints found =>
      obtain ⟨rfl, -⟩ := Prod.mk.inj found
      exact issue_kept _ _ _

/-- Settings that are kept are what is obtained, and nothing else happens. -/
theorem obtain_of_kept {issue : Issue} (kept : session.kept = some issue) :
    session.obtain storage envFile = ⟨session, [], [], .ok issue⟩ := by
  unfold obtain
  rw [kept]

/-- Without settings kept, those obtained are made, and kept. -/
theorem obtain_of_none (none : session.kept = none) (storage : Storage)
    (envFile : Option Text) :
    (session.obtain storage envFile).result = (session.make storage envFile).result ∧
      (session.obtain storage envFile).session.issued =
        (session.make storage envFile).session.issued ∧
      (session.obtain storage envFile).session.kept =
        (session.make storage envFile).result.toOption := by
  have left := (make_kept session storage envFile).1
  unfold obtain
  rw [none]
  dsimp only
  split
  · next made done =>
      rw [done]
      exact ⟨rfl, rfl, rfl⟩
  · next fault failed =>
      rw [failed]
      exact ⟨rfl, rfl, left.trans none⟩

/-- Obtaining settings keeps them. -/
theorem kept_of_obtain {issue : Issue}
    (obtained : (session.obtain storage envFile).result = .ok issue) :
    (session.obtain storage envFile).session.kept = some issue := by
  cases kept : session.kept with
  | some known =>
      rw [obtain_of_kept kept] at obtained ⊢
      cases obtained
      exact kept
  | none =>
      obtain ⟨result, -, keptThen⟩ := obtain_of_none kept storage envFile
      rw [keptThen, ← result, obtained]
      rfl

end Session

/-- What can happen to a session: a variable is set or unset, files change, the settings kept are
dropped, and settings are made directly or obtained, with an environment file or without one. -/
inductive Event where
  | setVariable (name : Text) (value : Option Text)
  | changeFiles (storage : Storage)
  | reset
  | make (envFile : Option Text)
  | obtain (envFile : Option Text)

/-- A session and the files around it, between two events. -/
structure Scene where
  storage : Storage
  session : Session

namespace Scene

/-- A session that has made nothing and keeps nothing. -/
def start (storage : Storage) (environment : Environment) : Scene :=
  ⟨storage, environment, none, 0⟩

variable [EnvironmentFiles]

/-- What an event gives, if it asks for settings. -/
def answer? (scene : Scene) : Event -> Option (Except Fault Issue)
  | .make envFile => some (scene.session.make scene.storage envFile).result
  | .obtain envFile => some (scene.session.obtain scene.storage envFile).result
  | _ => none

/-- The scene behind an event. -/
def after (scene : Scene) : Event -> Scene
  | .setVariable name value => { scene with session := scene.session.setVariable name value }
  | .changeFiles storage => { scene with storage }
  | .reset => { scene with session := scene.session.reset }
  | .make envFile => { scene with session := (scene.session.make scene.storage envFile).session }
  | .obtain envFile =>
      { scene with session := (scene.session.obtain scene.storage envFile).session }

/-- The scene behind events. -/
def afterAll (scene : Scene) (events : List Event) : Scene :=
  events.foldl after scene

/-- An event makes settings: they get the next number, are in order, and say what the environment
says, once an environment file has given its values. -/
structure Builds (scene : Scene) (event : Event) (issue : Issue) : Prop where
  answered : scene.answer? event = some (.ok issue)
  number : issue.number = scene.session.issued
  counted : (scene.after event).session.issued = scene.session.issued + 1
  inOrder : issue.settings.InOrder
  reflects : ∃ envFile, (event = .make envFile ∨ event = .obtain envFile) ∧
    issue.settings.Reflects (scene.session.environmentFor scene.storage envFile)

/-- What an event does to the settings kept and to the count of those made. -/
inductive Keeps (scene : Scene) (event : Event) : Prop where
  | alone (kept : (scene.after event).session.kept = scene.session.kept)
      (counted : scene.session.issued ≤ (scene.after event).session.issued)
  | dropped (reset : event = .reset) (kept : (scene.after event).session.kept = none)
      (counted : (scene.after event).session.issued = scene.session.issued)
  | first (issue : Issue) (envFile : Option Text) (request : event = .obtain envFile)
      (none : scene.session.kept = none) (builds : scene.Builds event issue)
      (kept : (scene.after event).session.kept = some issue)

variable {scene : Scene} {event : Event} {events : List Event} {envFile : Option Text}
  {issue : Issue}

/-- Settings that are made directly are built. -/
theorem builds_make (done : (scene.session.make scene.storage envFile).result = .ok issue) :
    scene.Builds (.make envFile) issue := by
  obtain ⟨session, number, inOrder, reflects⟩ := Session.make_ok done
  exact ⟨congrArg some done, number, congrArg Session.issued session, inOrder,
    envFile, .inl rfl, reflects⟩

/-- Settings that are made because none are kept are built. -/
theorem builds_obtain (none : scene.session.kept = none)
    (done : (scene.session.make scene.storage envFile).result = .ok issue) :
    scene.Builds (.obtain envFile) issue := by
  obtain ⟨result, issued, -⟩ := Session.obtain_of_none none scene.storage envFile
  have built := builds_make done
  exact ⟨congrArg some (result.trans done), built.number, issued.trans built.counted,
    built.inOrder, envFile, .inr rfl, (Session.make_ok done).2.2.2⟩

/-- Every event leaves the settings kept alone, drops them, or builds the first ones to keep. -/
theorem keeps (scene : Scene) (event : Event) : scene.Keeps event := by
  cases event with
  | setVariable name value => exact .alone rfl (Nat.le_refl _)
  | changeFiles storage => exact .alone rfl (Nat.le_refl _)
  | reset => exact .dropped rfl rfl rfl
  | make envFile =>
      obtain ⟨kept, issued⟩ := Session.make_kept scene.session scene.storage envFile
      exact .alone kept issued
  | obtain envFile =>
      cases kept : scene.session.kept with
      | some known =>
          have same : (scene.after (.obtain envFile)).session = scene.session :=
            congrArg Answer.session (Session.obtain_of_kept kept)
          exact .alone (congrArg Session.kept same)
            (Nat.le_of_eq (congrArg Session.issued same).symm)
      | none =>
          obtain ⟨-, issued, keptThen⟩ := Session.obtain_of_none kept scene.storage envFile
          cases made : (scene.session.make scene.storage envFile).result with
          | ok issue =>
              rw [made] at keptThen
              exact .first issue envFile rfl kept (builds_obtain kept made) keptThen
          | error fault =>
              rw [made] at keptThen
              exact .alone (keptThen.trans kept.symm)
                (issued.symm ▸ (Session.make_kept scene.session scene.storage envFile).2)

/-- Settings that are given are built, unless they are obtained from those kept. -/
theorem builds_or_kept (answered : scene.answer? event = some (.ok issue)) :
    scene.Builds event issue ∨
      (∃ envFile, event = .obtain envFile) ∧ scene.session.kept = some issue := by
  cases event with
  | setVariable name value => cases answered
  | changeFiles storage => cases answered
  | reset => cases answered
  | make envFile => exact .inl (builds_make (Option.some.inj answered))
  | obtain envFile =>
      have result := Option.some.inj answered
      cases kept : scene.session.kept with
      | some known =>
          rw [Session.obtain_of_kept kept] at result
          cases result
          exact .inr ⟨⟨envFile, rfl⟩, rfl⟩
      | none =>
          rw [(Session.obtain_of_none kept scene.storage envFile).1] at result
          exact .inl (builds_obtain kept result)

/-- Along events the count of settings made does not fall. -/
theorem issued_mono (scene : Scene) (events : List Event) :
    scene.session.issued ≤ (scene.afterAll events).session.issued := by
  induction events generalizing scene with
  | nil => exact Nat.le_refl _
  | cons event later inductionHypothesis =>
      refine Nat.le_trans ?_ (inductionHypothesis (scene.after event))
      cases keeps scene event with
      | alone kept counted => exact counted
      | dropped reset kept counted => exact Nat.le_of_eq counted.symm
      | first issue envFile request none builds kept =>
          rw [builds.counted]
          exact Nat.le_succ _

/-- Settings that are kept stay so along events that do not drop them. -/
theorem kept_afterAll (kept : scene.session.kept = some issue) (noReset : Event.reset ∉ events) :
    (scene.afterAll events).session.kept = some issue := by
  induction events generalizing scene with
  | nil => exact kept
  | cons event later inductionHypothesis =>
      refine inductionHypothesis ?_ fun reset => noReset (List.mem_cons_of_mem event reset)
      cases keeps scene event with
      | alone keptThen counted => exact keptThen.trans kept
      | dropped reset keptThen counted => exact (noReset (reset ▸ List.mem_cons_self)).elim
      | first issue envFile request none builds keptThen =>
          rw [none] at kept
          cases kept

/-- Settings that are kept behind events have been so before, or they were built when an event
obtained them. In neither case have they been dropped since. -/
theorem built_of_kept (kept : (scene.afterAll events).session.kept = some issue) :
    (scene.session.kept = some issue ∧ Event.reset ∉ events) ∨
      ∃ before envFile later, events = before ++ .obtain envFile :: later ∧
        Event.reset ∉ later ∧ (scene.afterAll before).Builds (.obtain envFile) issue := by
  induction events generalizing scene with
  | nil => exact .inl ⟨kept, List.not_mem_nil⟩
  | cons event later inductionHypothesis =>
      rcases inductionHypothesis kept with
        ⟨early, noReset⟩ | ⟨before, envFile, rest, rfl, noReset, builds⟩
      · cases keeps scene event with
        | alone keptThen counted =>
            refine .inl ⟨keptThen.symm.trans early, fun reset => ?_⟩
            rcases List.mem_cons.mp reset with rfl | dropped
            · cases early
            · exact noReset dropped
        | dropped reset keptThen counted =>
            rw [keptThen] at early
            cases early
        | first known envFile request none builds keptThen =>
            rw [keptThen] at early
            cases early
            exact .inr ⟨[], envFile, later, request ▸ rfl, noReset, request ▸ builds⟩
      · exact .inr ⟨event :: before, envFile, rest, rfl, noReset, builds⟩

/-- Settings that are kept behind events and were made before them have been kept all along. -/
theorem kept_of_older (kept : (scene.afterAll events).session.kept = some issue)
    (older : issue.number < scene.session.issued) : scene.session.kept = some issue := by
  rcases built_of_kept kept with ⟨early, -⟩ | ⟨before, envFile, later, -, -, builds⟩
  · exact early
  · have number := builds.number
    have counted := issued_mono scene before
    omega

section Session

variable {storage : Storage} {environment : Environment}

/-- What a session keeps has been counted. -/
theorem number_of_kept
    (kept : ((start storage environment).afterAll events).session.kept = some issue) :
    issue.number < ((start storage environment).afterAll events).session.issued := by
  rcases built_of_kept kept with ⟨early, -⟩ | ⟨before, envFile, later, rfl, -, builds⟩
  · cases early
  · have counted := issued_mono (((start storage environment).afterAll before).after
      (.obtain envFile)) later
    rw [builds.counted, ← builds.number] at counted
    unfold afterAll at counted ⊢
    rw [List.foldl_append, List.foldl_cons]
    exact counted

/-- Settings that are given have been counted. -/
theorem number_of_answer
    (answered : ((start storage environment).afterAll events).answer? event = some (.ok issue)) :
    issue.number < (((start storage environment).afterAll events).after event).session.issued := by
  rcases builds_or_kept answered with builds | ⟨-, kept⟩
  · rw [builds.counted, ← builds.number]
    exact Nat.lt_succ_self _
  · exact Nat.lt_of_lt_of_le (number_of_kept kept)
      (issued_mono ((start storage environment).afterAll events) [event])

/-- The number of settings tells which ones they are: those given under it at any later time are
the same. -/
theorem eq_of_number {later : List Event} {next : Event} {other : Issue}
    (answered : ((start storage environment).afterAll events).answer? event = some (.ok issue))
    (answeredLater : ((((start storage environment).afterAll events).after event).afterAll
      later).answer? next = some (.ok other))
    (same : other.number = issue.number) : other = issue := by
  have counted := number_of_answer answered
  rcases builds_or_kept answeredLater with builds | ⟨-, kept⟩
  · have number := builds.number
    have mono := issued_mono (((start storage environment).afterAll events).after event) later
    omega
  · have keptThen := kept_of_older kept (same ▸ counted)
    cases event with
    | setVariable name value => cases answered
    | changeFiles storage => cases answered
    | reset => cases answered
    | obtain envFile =>
        have obtained := Session.kept_of_obtain (Option.some.inj answered)
        exact Option.some.inj (keptThen.symm.trans obtained)
    | make envFile =>
        -- what is made directly is newer than anything kept
        have number := (builds_make (Option.some.inj answered)).number
        have unchanged := (Session.make_kept
          ((start storage environment).afterAll events).session
          ((start storage environment).afterAll events).storage envFile).1
        have older := number_of_kept (unchanged.symm.trans keptThen)
        omega

end Session

/-- Settings over a whole session, whatever happened to its environment and its files.

Settings that are given are in order. Once settings have been obtained, every request obtains the
same ones until they are dropped. A request that fails keeps nothing, settings made directly are
never kept, and as long as no request that succeeded stands without a drop behind it, settings are
made afresh. What is given was built at one of the events, under a number of its own, and said then
what the environment said; it is what that number stands for ever after. -/
theorem settings_cached (storage : Storage) (environment : Environment) (events : List Event) :
    let scene := (start storage environment).afterAll events
    (∀ event issue, scene.answer? event = some (.ok issue) → issue.settings.InOrder) ∧
    (∀ envFile issue later other, scene.answer? (.obtain envFile) = some (.ok issue) →
      Event.reset ∉ later →
      ((scene.after (.obtain envFile)).afterAll later).answer? (.obtain other) =
        some (.ok issue)) ∧
    (∀ envFile fault, scene.answer? (.obtain envFile) = some (.error fault) →
      (scene.after (.obtain envFile)).session.kept = none) ∧
    (∀ envFile, (scene.after (.make envFile)).session.kept = scene.session.kept) ∧
    ((∀ before envFile later issue, events = before ++ .obtain envFile :: later →
        ((start storage environment).afterAll before).answer? (.obtain envFile) =
          some (.ok issue) → Event.reset ∈ later) →
      ∀ envFile, scene.answer? (.obtain envFile) = scene.answer? (.make envFile)) ∧
    (∀ event issue, scene.answer? event = some (.ok issue) →
      ∃ before builder later, events ++ [event] = before ++ builder :: later ∧
        ((start storage environment).afterAll before).Builds builder issue) ∧
    (∀ event issue later next other, scene.answer? event = some (.ok issue) →
      ((scene.after event).afterAll later).answer? next = some (.ok other) →
      other.number = issue.number → other = issue) := by
  intro scene
  have origin : ∀ event issue, scene.answer? event = some (.ok issue) →
      ∃ before builder later, events ++ [event] = before ++ builder :: later ∧
        ((start storage environment).afterAll before).Builds builder issue := by
    intro event issue answered
    rcases builds_or_kept answered with builds | ⟨-, kept⟩
    · exact ⟨events, event, [], rfl, builds⟩
    · rcases built_of_kept kept with ⟨early, -⟩ | ⟨before, envFile, later, rfl, -, builds⟩
      · cases early
      · exact ⟨before, .obtain envFile, later ++ [event], by simp, builds⟩
  refine ⟨fun event issue answered => ?_, fun envFile issue later other answered noReset => ?_,
    fun envFile fault failed => ?_, fun envFile => (Session.make_kept _ _ envFile).1,
    fun dropped envFile => ?_, origin, fun event issue later next other => eq_of_number⟩
  · obtain ⟨before, builder, later, -, builds⟩ := origin event issue answered
    exact builds.inOrder
  · have kept : (scene.after (.obtain envFile)).session.kept = some issue :=
      Session.kept_of_obtain (Option.some.inj answered)
    exact congrArg (fun answer => some answer.result)
      (Session.obtain_of_kept (kept_afterAll kept noReset))
  · have result := Option.some.inj failed
    cases kept : scene.session.kept with
    | some known =>
        rw [Session.obtain_of_kept kept] at result
        cases result
    | none =>
        obtain ⟨same, -, keptThen⟩ := Session.obtain_of_none kept scene.storage envFile
        rw [← same, result] at keptThen
        exact keptThen
  · cases kept : scene.session.kept with
    | none => exact congrArg some (Session.obtain_of_none kept scene.storage envFile).1
    | some known =>
        rcases built_of_kept kept with ⟨early, -⟩ | ⟨before, file, later, same, noReset, builds⟩
        · cases early
        · exact (noReset (dropped before file later known same builds.answered)).elim

end Scene

/-- A file that is searched for by the name `.env`. -/
@[reducible] def dotFile : EnvironmentFiles :=
  EnvFile.library [[".env".toList]]

namespace Scene

/-- Settings that have been obtained with one variable set outlast a change of the variables, and a
later request that names an environment file. -/
theorem settings_cached_defaults :
    letI := dotFile
    ((((start (.empty []) []).afterAll
        [.setVariable "ZLS_GEN_RETRY_DELAY".toList (some ['5'])]).after (.obtain none)).afterAll
        [.setVariable "ZLS_GEN_MAX_RETRIES".toList (some ['7'])]).answer?
          (.obtain (some "other.env".toList)) =
      some (.ok ⟨0,
        "https://raw.githubusercontent.com/ziglang/zig/\x7bversion\x7d/doc/langref.html.in".toList,
        "https://ziglang.org/documentation".toList, 30, 3, 5, "INFO".toList, none⟩) :=
  (@settings_cached dotFile (.empty []) []
    [.setVariable "ZLS_GEN_RETRY_DELAY".toList (some ['5'])]).2.1 none _
    [.setVariable "ZLS_GEN_MAX_RETRIES".toList (some ['7'])] (some "other.env".toList) (by rfl)
    (by simp)

/-- An environment file with one assignment. -/
def oneAssignment : Text :=
  "ZLS_GEN_MAX_RETRIES=7\n".toList

/-- Settings by default, with a number of tries. -/
def settingsOfTries (attempts : Nat) : Settings :=
  ⟨defaultUrlTemplate, defaultRoot, 30, attempts, 2, "INFO".toList, none⟩

/-- Where environment files are turned off, settings do not say what the assignments of the
environment file that is named would have had them say. Where they are not, settings without such a
file do not say what the environment said, if one is found. -/
theorem make_without_file :
    letI := dotFile
    (let environment : Environment := [("PYTHON_DOTENV_DISABLED".toList, "true".toList)]
      let storage := (Storage.empty []).put [['e']] (.file (Text.utf8 oneAssignment))
      (start storage environment).answer? (.make (some ['e'])) =
          some (.ok ⟨0, settingsOfTries 3⟩) ∧
        ¬ (settingsOfTries 3).Reflects (Dictionary.assignAll
          (EnvFile.assignments true environment (EnvFile.statements oneAssignment))
          environment)) ∧
    let storage := (Storage.empty []).put [".env".toList] (.file (Text.utf8 oneAssignment))
    (start storage []).answer? (.make none) = some (.ok ⟨0, settingsOfTries 7⟩) ∧
      ¬ (settingsOfTries 7).Reflects [] := by
  refine ⟨⟨by rfl, fun reflects => ?_⟩, by rfl, fun reflects => ?_⟩
  · have assigned : Text.integer (Environment.get (Dictionary.assignAll
        (EnvFile.assignments true [("PYTHON_DOTENV_DISABLED".toList, "true".toList)]
          (EnvFile.statements oneAssignment)) [("PYTHON_DOTENV_DISABLED".toList, "true".toList)])
        "ZLS_GEN_MAX_RETRIES".toList "3".toList) = .ok 7 := by rfl
    cases assigned.symm.trans reflects.attempts
  · have unset : Text.integer (Environment.get [] "ZLS_GEN_MAX_RETRIES".toList "3".toList) =
        .ok 3 := by rfl
    cases unset.symm.trans reflects.attempts

end Scene

end EditorData.Settings
