import EditorData.Proofs.Download.Retrying
import EditorData.Proofs.Generation.Stages
import EditorData.Proofs.Text.Decoding
import EditorData.Proofs.Text.Lines

/-!
# Snapshots and downloads

The data of a version depend on the text of the reference alone, wherever it comes from
(`perform_of_document`). A snapshot is read as a document, so its line ends are made equal, while a
download is taken as it comes. So a snapshot does for a run what the download of the document with
equal line ends would do, and what the download of the same bytes does if there is no carriage
return in them (`snapshot_like_download`).
-/

namespace EditorData.Generation

open Storage (Alike)

variable {settings : Settings} {logs : List Storage.Place} {job first second : Job}

/-- What two jobs have come to at a place: both have failed in the same way or none has, and the
same file is there. -/
def SameAt (place : Storage.Place) (first second : Job × Option Failure) : Prop :=
  second.2 = first.2 ∧ second.1.storage.file? place = first.1.storage.file? place

/-- The data file of a version by the text of the reference. -/
def versionDataOf (settings : Settings) (version path document : Text) : Except Failure Output :=
  match Reference.collect version settings.documentationRoot document with
  | .error fault => .error (.reference fault)
  | .ok builtins =>
      .ok ⟨path, Text.codes (ZigSource.renderVersionData builtins version),
        versionDataReport builtins.length version path⟩

section Steps

variable [Limits]

/-- Saving an output fails in two jobs with files that are alike for the same reason, or in
neither. -/
theorem save_sameFailure (output : Output) (alike : Alike logs first.storage second.storage) :
    (output.save second).2 = (output.save first).2 := by
  have same := (Storage.save_alike alike Limits.outputFolders output.path output.content).1
  unfold Output.save
  cases savingFirst : first.storage.save Limits.outputFolders output.path output.content with
  | mk savedFirst faultFirst =>
  cases savingSecond : second.storage.save Limits.outputFolders output.path output.content with
  | mk savedSecond faultSecond =>
      rw [savingFirst, savingSecond] at same
      dsimp only at same
      subst same
      cases faultSecond <;> rfl

/-- A text that is saved by two jobs with files that are alike is there in both, or in neither for
the same reason. -/
theorem save_sameAt {output : Output} {content : Text}
    (isText : output.content = Text.codes content)
    (readyFirst : Ready settings logs first)
    (readySecond : Ready settings logs second) (alike : Alike logs first.storage second.storage)
    (apart : first.storage.placeOf output.path ∉ logs) :
    SameAt (first.storage.placeOf output.path) (output.save first) (output.save second) := by
  have sameFailure := save_sameFailure output alike
  have place := Storage.placeOf_of_current alike.current output.path
  have hasBytes : Text.utf8OfCodes? output.content ≠ none := by
    rw [isText, Text.utf8OfCodes?_codes]
    exact Option.some_ne_none _
  refine ⟨sameFailure, ?_⟩
  cases savingFirst : output.save first with
  | mk nextFirst outcomeFirst =>
  cases savingSecond : output.save second with
  | mk nextSecond outcomeSecond =>
      rw [savingFirst, savingSecond] at sameFailure
      dsimp only at sameFailure
      subst sameFailure
      cases outcomeSecond with
      | none =>
          obtain ⟨-, -, ⟨bytes, encoded, heldFirst⟩, -⟩ := save_done readyFirst apart savingFirst
          obtain ⟨-, -, ⟨bytesThen, encodedThen, heldSecond⟩, -⟩ :=
            save_done readySecond (place ▸ apart) savingSecond
          obtain rfl : bytesThen = bytes := Option.some.inj (encodedThen.symm.trans encoded)
          rw [place] at heldSecond
          exact heldSecond.trans heldFirst.symm
      | some failure =>
          obtain ⟨onlyFirst, -⟩ :=
            (save_failed readyFirst apart savingFirst).resolve_right fun none => hasBytes none.1
          obtain ⟨onlySecond, -⟩ :=
            (save_failed readySecond (place ▸ apart) savingSecond).resolve_right
              fun none => hasBytes none.1
          have leftFirst := onlyFirst.agree.files _ apart
          have leftSecond := onlySecond.agree.files _ apart
          exact leftSecond.trans ((alike.agree.files _ apart).trans leftFirst.symm)

variable [Settings.EnvironmentFiles] [Download.Retrying]

/-- The data file of a version is made from the reference that has been obtained. -/
theorem renderVersionData_of_document (ready : Ready settings logs job) {document : Text}
    (version path : Text) {snapshot : Option Text}
    (obtained : (obtainReference job version snapshot).2 = .ok document) :
    (renderVersionData job version path snapshot).2 =
      versionDataOf settings version path document := by
  have readyThen := (obtainReference_reported ready version snapshot).ready ready
  unfold renderVersionData versionDataOf Reference.collect
  cases found : obtainReference job version snapshot with
  | mk next result =>
      rw [found] at obtained readyThen
      dsimp only at obtained
      subst obtained
      cases finished : (Reference.extract ⟨version, settings.documentationRoot,
        Reference.sectionAnchor⟩ document).finished <;>
        simp only [documentationRoot_of_ready readyThen, finished]

/-- Two jobs with files that are alike that obtain the same text of the reference write the same
data file of a version, or fail in the same way. -/
theorem perform_of_document (entries : List Catalogue.Entry)
    (readyFirst : Ready settings logs first) (readySecond : Ready settings logs second)
    (alike : Alike logs first.storage second.storage) {document version path : Text}
    {snapshotFirst snapshotSecond : Option Text}
    (apart : first.storage.placeOf path ∉ logs)
    (obtainedFirst : (obtainReference first version snapshotFirst).2 = .ok document)
    (obtainedSecond : (obtainReference second version snapshotSecond).2 = .ok document) :
    SameAt (first.storage.placeOf path)
      ((Step.versionData version (some path) snapshotFirst).perform entries first)
      ((Step.versionData version (some path) snapshotSecond).perform entries second) := by
  have renderedFirst := renderVersionData_of_document readyFirst version path obtainedFirst
  have renderedSecond := renderVersionData_of_document readySecond version path obtainedSecond
  have reportedFirst := renderVersionData_reported readyFirst version path snapshotFirst
  have reportedSecond := renderVersionData_reported readySecond version path snapshotSecond
  have alikeThen := ((reportedFirst.alike.mono readyFirst.within).symm.trans alike).trans
    (reportedSecond.alike.mono readySecond.within)
  have place := Storage.placeOf_of_current reportedFirst.alike.current path
  unfold Step.perform
  cases nextFirst : renderVersionData first version path snapshotFirst with
  | mk writingFirst resultFirst =>
  cases nextSecond : renderVersionData second version path snapshotSecond with
  | mk writingSecond resultSecond =>
      rw [nextFirst] at renderedFirst reportedFirst alikeThen place
      rw [nextSecond] at renderedSecond reportedSecond alikeThen
      dsimp only at renderedFirst renderedSecond
      subst renderedFirst renderedSecond
      have renderFirst : (Step.versionData version (some path) snapshotFirst).render entries first =
          (writingFirst, versionDataOf settings version path document) := nextFirst
      have renderSecond : (Step.versionData version (some path) snapshotSecond).render entries
          second = (writingSecond, versionDataOf settings version path document) := nextSecond
      rw [renderFirst, renderSecond]
      rw [← place] at apart ⊢
      have readyThenFirst := reportedFirst.ready readyFirst
      have readyThenSecond := reportedSecond.ready readySecond
      unfold versionDataOf
      cases Reference.collect version settings.documentationRoot document with
      | error fault => exact ⟨rfl, alikeThen.agree.files _ apart⟩
      | ok builtins => exact save_sameAt rfl readyThenFirst readyThenSecond alikeThen apart

/-- A job obtains the text that a snapshot holds, with equal line ends. -/
theorem obtainReference_snapshot (ready : Ready settings logs job) (version : Text)
    {snapshot text : Text} {bytes : List UInt8}
    (held : job.storage.read (Storage.Path.tidy snapshot) = .ok bytes)
    (decoded : Text.ofUtf8? bytes = some text)
    (apart : job.storage.placeOf (Storage.Path.tidy snapshot) ∉ logs) :
    (obtainReference job version (some snapshot)).2 = .ok (Text.normalizeNewlines text) := by
  have reported := reportAll_reported ready [Reference.snapshotReport snapshot]
  have read : (job.report (Reference.snapshotReport snapshot)).storage.read
      (Storage.Path.tidy snapshot) = .ok bytes :=
    ((reported.alike.mono ready.within).read apart).trans held
  unfold obtainReference Reference.readSnapshot Storage.readDocument
  dsimp only
  rw [read]
  dsimp only [Storage.documentOfBytes?]
  rw [decoded]
  rfl

/-- A job obtains the text of the answer that ends its tries. -/
theorem obtainReference_download (ready : Ready settings logs job) {version text address : Text}
    {delay last : Nat} {reason : Option Text} {body : List UInt8}
    (addressed : Template.fill settings.urlTemplate version = .ok address)
    (rounded : Number.nearestWhole? settings.retryDelay = some delay)
    (first : Download.FirstReached job.script last) (within : last ≤ settings.attempts)
    (waits : ∀ number, Download.PauseNeeded settings.attempts job.script number →
      Download.CanWait (Download.pauseTime delay number))
    (answered : Download.outcomeOf job.script last = .answer 200 reason body)
    (decoded : Text.ofUtf8? body = some text) :
    (obtainReference job version none).2 = .ok text := by
  obtain ⟨number, kept⟩ := ready.kept
  have keptThen : job.settings.kept =
      some ⟨number, (Material.mk settings job.script []).settings⟩ := kept
  obtain ⟨-, found⟩ := fetch_of_kept keptThen job.storage version
  have positive : 0 < settings.attempts := first.positive.trans_le within
  obtain ⟨repeated, made⟩ :=
    Download.get_downloaded address settings.timeout job.script rounded positive
  have result := ((made.protocol waits).reached last within first).2
  rw [answered] at result
  have downloaded : Download.verdict address (.answer 200 reason body) = .ok text :=
    congrArg Except.ok (Text.ofUtf8Repaired_eq_of_ofUtf8? decoded)
  refine found.trans ?_
  unfold Material.online
  rw [addressed]
  dsimp only
  rw [result, downloaded]
  rfl

/-- What a snapshot does for a run. Let the tries of the download end in an answer with the status
200 and the bytes of the snapshot, which are the UTF-8 form of a text. The step that makes the data
of a version from the snapshot then comes to the same as one that downloads the text with equal line
ends: it writes the same file or fails in the same way. In particular it comes to the same as the
step that downloads the bytes of the snapshot, if the text has no carriage return. -/
theorem snapshot_like_download (entries : List Catalogue.Entry)
    (ready : Ready settings logs job) {version path snapshot text address : Text}
    {delay last : Nat} {reason : Option Text} {bytes : List UInt8}
    (addressed : Template.fill settings.urlTemplate version = .ok address)
    (rounded : Number.nearestWhole? settings.retryDelay = some delay)
    (first : Download.FirstReached job.script last) (within : last ≤ settings.attempts)
    (waits : ∀ number, Download.PauseNeeded settings.attempts job.script number →
      Download.CanWait (Download.pauseTime delay number))
    (answered : Download.outcomeOf job.script last = .answer 200 reason bytes)
    (decoded : Text.ofUtf8? bytes = some text)
    (held : job.storage.read (Storage.Path.tidy snapshot) = .ok bytes)
    (input : job.storage.placeOf (Storage.Path.tidy snapshot) ∉ logs)
    (output : job.storage.placeOf path ∉ logs) :
    let fromSnapshot :=
      (Step.versionData version (some path) (some snapshot)).perform entries job
    SameAt (job.storage.placeOf path)
      ((Step.versionData version (some path) none).perform entries
        { job with script := [.answer 200 none (Text.utf8 (Text.normalizeNewlines text))] })
      fromSnapshot ∧
    ('\r' ∉ text →
      SameAt (job.storage.placeOf path)
        ((Step.versionData version (some path) none).perform entries job) fromSnapshot) := by
  intro fromSnapshot
  have copied := obtainReference_snapshot ready version held decoded input
  constructor
  · have readyFirst : Ready settings logs
        { job with script := [.answer 200 none (Text.utf8 (Text.normalizeNewlines text))] } :=
      ⟨ready.kept, ready.within, ready.stands⟩
    have reached : Download.FirstReached
        [.answer 200 none (Text.utf8 (Text.normalizeNewlines text))] 1 :=
      ⟨Nat.one_pos, fun number positive below => by omega, rfl⟩
    -- An answer to the first try needs no pause.
    have atOnce : ∀ number, ¬ Download.PauseNeeded settings.attempts
        [.answer 200 none (Text.utf8 (Text.normalizeNewlines text))] number := fun number needed =>
      nomatch needed.unreachable 1 Nat.one_pos needed.positive
    have downloaded := obtainReference_download readyFirst addressed rounded reached
      (first.positive.trans_le within) (fun number needed => absurd needed (atOnce number)) rfl
      (Text.ofUtf8?_utf8 _)
    exact perform_of_document entries readyFirst ready (.refl logs job.storage) output downloaded
      copied
  · intro noReturn
    have downloaded := obtainReference_download ready addressed rounded first within waits
      answered decoded
    rw [Text.normalizeNewlines_of_not_mem noReturn] at copied
    exact perform_of_document entries ready ready (.refl logs job.storage) output downloaded copied

end Steps

/-- Settings by which the address of a reference is its version. -/
def bareSettings : Settings :=
  ⟨Settings.versionField, Settings.defaultRoot, 30, 3, 2, "INFO".toList, none⟩

/-- A reference with one builtin whose signature has a white space character between its
arguments. -/
def spacedReference (space : Char) : Text :=
  ("\x7b#header_open|Builtin Functions#\x7d\x7b#header_open|@a#\x7d" ++
      "\x7b#syntax#\x7d@a(x,").toList ++
    space :: "y)\x7b#endsyntax#\x7d\x7b#header_close#\x7d\x7b#header_close#\x7d".toList

/-- A job with such a reference as a snapshot, which is also what the network will answer. -/
def spacedJob (space : Char) : Job :=
  { storage := (Storage.empty []).put [['l']] (.file (Text.utf8 (spacedReference space)))
    settings := ⟨[], some ⟨0, bareSettings⟩, 1⟩
    logging := .initial
    console := []
    script := [.answer 200 none (Text.utf8 (spacedReference space))]
    calls := []
    pauses := [] }

/-- The data of a version in such a job, made from the snapshot or from the download, on a usual
machine. -/
def spacedOutcome (space : Char) (snapshot : Option Text) : Job × Option Failure :=
  @Step.perform .usual (Settings.EnvFile.library []) .plain [] (spacedJob space)
    (.versionData "1.0.0".toList (some ['d']) snapshot)

/-- With a space between the arguments, the snapshot does what the download does. -/
theorem snapshot_like_download_spaced :
    SameAt ((spacedJob ' ').storage.placeOf ['d'])
      (spacedOutcome ' ' none) (spacedOutcome ' ' (some ['l'])) := by
  let machine : Limits := .usual
  let files := Settings.EnvFile.library []
  let retrying := Download.Retrying.plain
  have ready : Ready bareSettings [] (spacedJob ' ') :=
    ⟨⟨0, rfl⟩, List.nil_subset _, fun place logged => absurd logged List.not_mem_nil⟩
  have addressed : Template.fill bareSettings.urlTemplate "1.0.0".toList = .ok "1.0.0".toList := by
    decide +kernel
  have rounded : Number.nearestWhole? bareSettings.retryDelay = some 2 := by decide +kernel
  have first : Download.FirstReached (spacedJob ' ').script 1 :=
    ⟨Nat.one_pos, fun number positive below => by omega, rfl⟩
  have decoded : Text.ofUtf8? (Text.utf8 (spacedReference ' ')) = some (spacedReference ' ') :=
    Text.ofUtf8?_utf8 _
  have held : (spacedJob ' ').storage.read (Storage.Path.tidy ['l']) =
      .ok (Text.utf8 (spacedReference ' ')) := by decide +kernel
  have atOnce : ∀ number, ¬ Download.PauseNeeded 3 (spacedJob ' ').script number :=
    fun number needed => nomatch needed.unreachable 1 Nat.one_pos needed.positive
  exact (snapshot_like_download [] ready addressed rounded first (by decide)
    (fun number needed => absurd needed (atOnce number)) rfl decoded held List.not_mem_nil
    List.not_mem_nil).2 (by decide +kernel)

/-- With a carriage return between the arguments, the snapshot does something else than the
download. -/
theorem snapshot_unlike_download :
    ¬ SameAt ((spacedJob '\r').storage.placeOf ['d'])
      (spacedOutcome '\r' none) (spacedOutcome '\r' (some ['l'])) := by
  intro same
  have lengths := congrArg (Option.map List.length) same.2
  revert lengths
  decide +kernel

end EditorData.Generation
