import EditorData.Proofs.Generation.Rendering

/-!
# The stages of a run

Steps are performed in order up to the first one that fails. A stage is a step that has been
completed, with the files that it saw. One completed step adds its output to the files and changes
no other one (`perform_done`), and one that fails changes none (`perform_failed`), each time apart
from log files. So a run of steps whose outputs go to different places leaves the outputs of its
stages, all of them whole, and every other file as it was (`performAll_conducted`).
-/

namespace EditorData.Generation

open Storage (AgreeOutside Alike)

variable {settings : Settings} {material : Material} {logs : List Storage.Place}
  {job next : Job} {step : Step}

/-- A run stays ready when files change that are no log files of it. -/
theorem Ready.of_agree {places : List Storage.Place} {storage : Storage}
    (ready : Ready settings logs job) (agree : AgreeOutside places job.storage storage)
    (apart : ∀ place ∈ logs, place ∉ places) : Ready settings logs { job with storage } :=
  ⟨ready.kept, ready.within,
    ready.stands.of_agree agree fun place logged => apart place (ready.within logged)⟩

section Performing

variable [Limits]

/-- A run is still ready when it has saved an output that is no log file. -/
theorem Ready.of_save {path : Text} {content : Codes} {storage : Storage}
    (ready : Ready settings logs job) (apart : job.storage.placeOf path ∉ logs)
    (saving : job.storage.save Limits.outputFolders path content = (storage, none)) :
    Ready settings logs { job with storage } :=
  ready.of_agree (Storage.save_ok saving).2 fun _ logged output =>
    apart (List.mem_singleton.mp output ▸ logged)

/-- An output that has been saved is at its place, whole, and no other file has changed. -/
theorem save_done {output : Output} (ready : Ready settings logs job)
    (apart : job.storage.placeOf output.path ∉ logs)
    (done : output.save job = (next, none)) :
    Ready settings logs next ∧ next.script = job.script ∧
      (∃ bytes, Text.utf8OfCodes? output.content = some bytes ∧
        next.storage.file? (job.storage.placeOf output.path) = some bytes) ∧
      AgreeOutside (job.storage.placeOf output.path :: logs) job.storage next.storage := by
  unfold Output.save at done
  split at done
  · next storage saving =>
      cases done
      obtain ⟨⟨bytes, encoded, held⟩, others⟩ := Storage.save_ok saving
      have reporting := (ready.of_save apart saving).reportAll [⟨.info, output.report⟩]
      refine ⟨reporting.ready, rfl, ⟨bytes, encoded, ?_⟩, ?_⟩
      · exact (reporting.agree.files _ apart).trans held
      · exact (others.mono (by simp)).trans (reporting.agree.mono (by simp))
  · cases done

/-- An output that cannot be saved changes no other file than log files, unless its content has no
bytes and the empty text is saved: then the file is left empty. -/
theorem save_failed {output : Output} {failure : Failure} (ready : Ready settings logs job)
    (apart : job.storage.placeOf output.path ∉ logs)
    (failed : output.save job = (next, some failure)) :
    (OnlyLogs settings logs job next ∧ (∃ fault, failure = .storage fault) ∧
      (Text.utf8OfCodes? output.content = none →
        (job.storage.save Limits.outputFolders output.path []).2 ≠ none)) ∨
      Text.utf8OfCodes? output.content = none ∧
        (job.storage.save Limits.outputFolders output.path []).2 = none ∧
        failure = .storage ⟨.unencodable, output.path⟩ ∧ Ready settings logs next ∧
        next.storage.file? (job.storage.placeOf output.path) = some [] ∧
        AgreeOutside (job.storage.placeOf output.path :: logs) job.storage next.storage := by
  unfold Output.save at failed
  by_cases emptied : Text.utf8OfCodes? output.content = none ∧
      (job.storage.save Limits.outputFolders output.path []).2 = none
  · obtain ⟨noBytes, opens⟩ := emptied
    have opened : job.storage.save Limits.outputFolders output.path [] =
        ((job.storage.save Limits.outputFolders output.path []).1, none) := Prod.ext rfl opens
    rw [Storage.save_unencodable noBytes opened] at failed
    cases failed
    obtain ⟨⟨bytes, encoded, held⟩, others⟩ := Storage.save_ok opened
    obtain rfl : [] = bytes := Option.some.inj encoded
    have reporting := (ready.of_save apart opened).reportAll []
    refine .inr ⟨noBytes, opens, rfl, reporting.ready, ?_, ?_⟩
    · exact (reporting.agree.files _ apart).trans held
    · exact (others.mono (by simp)).trans (reporting.agree.mono (by simp))
  · split at failed
    · cases failed
    · next storage fault saving =>
        cases failed
        have agree := (Storage.save_fault saving).resolve_right fun ⟨noBytes, _, opened⟩ =>
          emptied ⟨noBytes, by rw [opened]⟩
        have left : Ready settings logs { job with storage } :=
          ready.of_agree agree fun place _ => List.not_mem_nil
        have reporting := left.reportAll (saveReports output.path fault)
        exact .inl ⟨⟨reporting.ready, (agree.mono (List.nil_subset _)).trans reporting.agree⟩,
          ⟨fault, rfl⟩, fun noBytes opens => emptied ⟨noBytes, opens⟩⟩

variable [Settings.EnvironmentFiles] [Download.Retrying]

/-- A step that has been completed has rendered an output by the files that it saw, doing nothing to
its files but report, and has then saved it. -/
theorem perform_ok (ready : Ready material.settings logs job)
    (fresh : job.script = material.script)
    (done : step.perform material.entries job = (next, none)) :
    ∃ (rendered : Job) (output : Output) (content : Text) (seen : Storage),
      Reported job rendered ∧ (step.isLocal → rendered.script = material.script) ∧
      Alike logs job.storage seen ∧ step.rendering material seen = .ok (output.path, content) ∧
      output.content = Text.codes content ∧ output.save rendered = (next, none) := by
  have reported := render_reported ready material.entries step
  obtain ⟨seen, alike, result⟩ := render_renders ready fresh step
  have script : step.isLocal → (step.render material.entries job).1.script = material.script :=
    fun isLocal => (script_of_isLocal isLocal material.entries job).trans fresh
  unfold Step.perform at done
  split at done
  · cases done
  · next rendered output found =>
      rw [found] at reported result script
      obtain ⟨⟨path, content⟩, writes, same⟩ := ok_of_map result.symm
      obtain ⟨rfl, codes⟩ := Prod.mk.inj same
      exact ⟨rendered, output, content, seen, reported, script, alike, writes, codes.symm, done⟩

/-- A step that has been completed has written what it was to write by the files that it saw, to
its place, and no other file has changed. -/
theorem perform_done (ready : Ready material.settings logs job)
    (fresh : job.script = material.script)
    (apart : ∀ path, step.path? = some path → job.storage.placeOf path ∉ logs)
    (done : step.perform material.entries job = (next, none)) :
    ∃ seen path content, Alike logs job.storage seen ∧
      step.rendering material seen = .ok (path, content) ∧
      next.storage.file? (job.storage.placeOf path) = some (Text.utf8 content) ∧
      AgreeOutside (job.storage.placeOf path :: logs) job.storage next.storage ∧
      Ready material.settings logs next ∧ (step.isLocal → next.script = material.script) := by
  obtain ⟨rendered, output, content, seen, reported, script, alike, writes, codes, saving⟩ :=
    perform_ok ready fresh done
  have rendering := reported.onlyLogs ready
  have place := rendering.agree.placeOf output.path
  have noLog := apart output.path (path_of_rendering writes)
  obtain ⟨readyNext, kept, ⟨bytes, encoded, held⟩, others⟩ :=
    save_done rendering.ready (by rw [place]; exact noLog) saving
  rw [place] at held others
  rw [codes, Text.utf8OfCodes?_codes] at encoded
  cases encoded
  exact ⟨seen, output.path, content, alike, writes, held,
    (rendering.agree.mono (by simp)).trans others, readyNext,
    fun isLocal => kept.trans (script isLocal)⟩

/-- Why a step fails by the files that it sees: there is nothing to write, or what there is cannot
be saved. -/
def Step.FailsBy (material : Material) (seen : Storage) (step : Step) (failure : Failure) :
    Prop :=
  step.rendering material seen = .error failure ∨
    ∃ writing fault, step.rendering material seen = .ok writing ∧ failure = .storage fault

/-- A step that fails changes no other file than log files. -/
theorem perform_failed {failure : Failure} (ready : Ready material.settings logs job)
    (fresh : job.script = material.script)
    (apart : ∀ path, step.path? = some path → job.storage.placeOf path ∉ logs)
    (failed : step.perform material.entries job = (next, some failure)) :
    OnlyLogs material.settings logs job next ∧
      ∃ seen, AgreeOutside logs job.storage seen ∧ step.FailsBy material seen failure := by
  have rendering := (render_reported ready material.entries step).onlyLogs ready
  obtain ⟨seen, alike, result⟩ := render_renders ready fresh step
  unfold Step.perform at failed
  split at failed
  · next rendered known found =>
      cases failed
      rw [found] at rendering result
      exact ⟨rendering, seen, alike.agree, .inl (map_eq_error_iff.mp result.symm)⟩
  · next rendered output found =>
      rw [found] at rendering result
      obtain ⟨⟨path, content⟩, writes, same⟩ := ok_of_map result.symm
      obtain ⟨rfl, codes⟩ := Prod.mk.inj same
      have noLog := apart output.path (path_of_rendering writes)
      rw [← rendering.agree.placeOf] at noLog
      rcases save_failed rendering.ready noLog failed with ⟨saving, ⟨fault, same⟩, -⟩ | ⟨noBytes, -⟩
      · exact ⟨⟨saving.ready, rendering.agree.trans saving.agree⟩, seen, alike.agree,
          .inr ⟨_, fault, writes, same⟩⟩
      · -- A text has bytes.
        rw [← codes, Text.utf8OfCodes?_codes] at noBytes
        cases noBytes

end Performing

/-- A step that has been completed: the files that it saw, and what it has written. -/
structure Stage where
  step : Step
  seen : Storage
  path : Text
  content : Text

/-- Files that have been overwritten by stages: each output is there, whole, and every other file is
as it was before, apart from log files. The current folder is the same. -/
structure Overwritten (logs : List Storage.Place) (before : Storage) (stages : List Stage)
    (after : Storage) : Prop where
  current : after.current = before.current
  outputs : ∀ stage ∈ stages,
    after.file? (before.placeOf stage.path) = some (Text.utf8 stage.content)
  others : ∀ place, place ∉ logs → (∀ stage ∈ stages, before.placeOf stage.path ≠ place) →
    after.file? place = before.file? place

namespace Overwritten

variable {before middle after : Storage} {stages : List Stage}

/-- Without a stage only log files change. -/
theorem nil (agree : AgreeOutside logs before after) : Overwritten logs before [] after :=
  ⟨agree.current, fun _ none => absurd none List.not_mem_nil,
    fun place noLog _ => agree.files place noLog⟩

/-- Log files may change before the first stage. -/
theorem behind (agree : AgreeOutside logs before middle)
    (written : Overwritten logs middle stages after) : Overwritten logs before stages after := by
  refine ⟨written.current.trans agree.current, fun stage held => ?_,
    fun place noLog free => ?_⟩
  · rw [← agree.placeOf]
    exact written.outputs stage held
  · rw [← agree.files place noLog]
    exact written.others place noLog fun stage held => by
      rw [agree.placeOf]
      exact free stage held

/-- Log files may change behind the last stage. -/
theorem ahead (written : Overwritten logs before stages middle)
    (apart : ∀ stage ∈ stages, before.placeOf stage.path ∉ logs)
    (agree : AgreeOutside logs middle after) : Overwritten logs before stages after := by
  refine ⟨agree.current.trans written.current, fun stage held => ?_,
    fun place noLog free => ?_⟩
  · rw [agree.files _ (apart stage held)]
    exact written.outputs stage held
  · rw [agree.files place noLog]
    exact written.others place noLog free

/-- A stage in front of others that go to other places. -/
theorem cons {stage : Stage} (apart : before.placeOf stage.path ∉ logs)
    (different : ∀ later ∈ stages, before.placeOf stage.path ≠ before.placeOf later.path)
    (output : middle.file? (before.placeOf stage.path) = some (Text.utf8 stage.content))
    (agree : AgreeOutside (before.placeOf stage.path :: logs) before middle)
    (written : Overwritten logs middle stages after) :
    Overwritten logs before (stage :: stages) after := by
  have same : ∀ path, middle.placeOf path = before.placeOf path := agree.placeOf
  refine ⟨written.current.trans agree.current, fun held within => ?_,
    fun place noLog free => ?_⟩
  · rcases List.mem_cons.mp within with rfl | later
    · rw [← output]
      exact written.others _ apart fun later within => by
        rw [same]
        exact (different later within).symm
    · rw [← same]
      exact written.outputs held later
  · have elsewhere : place ∉ before.placeOf stage.path :: logs := by
      rintro (_ | ⟨_, logged⟩)
      · exact free stage List.mem_cons_self rfl
      · exact noLog logged
    rw [← agree.files place elsewhere]
    exact written.others place noLog fun later within => by
      rw [same]
      exact free later (List.mem_cons_of_mem _ within)

end Overwritten

/-- The outputs of steps go to different places, none of which is that of a log file. -/
structure Apart (storage : Storage) (logs : List Storage.Place) (steps : List Step) : Prop where
  outputs : ((steps.filterMap Step.path?).map storage.placeOf).Nodup
  noLogs : ∀ path ∈ steps.filterMap Step.path?, storage.placeOf path ∉ logs

namespace Apart

variable {storage : Storage} {rest : List Step} {path : Text}

/-- The outputs of the later steps are apart. -/
theorem tail (apart : Apart storage logs (step :: rest)) : Apart storage logs rest := by
  have later : (rest.filterMap Step.path?).Sublist ((step :: rest).filterMap Step.path?) :=
    (List.sublist_cons_self step rest).filterMap Step.path?
  exact ⟨apart.outputs.sublist (later.map storage.placeOf), fun path given =>
    apart.noLogs path (later.subset given)⟩

/-- The output of the first step is no log file. -/
theorem noLog (apart : Apart storage logs (step :: rest)) (given : step.path? = some path) :
    storage.placeOf path ∉ logs :=
  apart.noLogs path (by simp [given])

/-- The output of a step is not that of one behind it. -/
theorem different {front : List Step} (apart : Apart storage logs (front ++ rest))
    {first later : Step}
    (inFront : first ∈ front) (behind : later ∈ rest) {other : Text}
    (given : first.path? = some path) (goes : later.path? = some other) :
    storage.placeOf path ≠ storage.placeOf other := by
  have outputs := apart.outputs
  rw [List.filterMap_append, List.map_append] at outputs
  refine (List.nodup_append.mp outputs).2.2 _ ?_ _ ?_
  · exact List.mem_map_of_mem (List.mem_filterMap.mpr ⟨first, inFront, given⟩)
  · exact List.mem_map_of_mem (List.mem_filterMap.mpr ⟨later, behind, goes⟩)

/-- Steps with outputs at the same place are the same. -/
theorem eq_of_place {steps : List Step} (apart : Apart storage logs steps) {first second : Step}
    (inFirst : first ∈ steps) (inSecond : second ∈ steps) {other : Text}
    (given : first.path? = some path) (goes : second.path? = some other)
    (same : storage.placeOf path = storage.placeOf other) : first = second := by
  obtain ⟨front, back, split⟩ := List.append_of_mem inFirst
  subst split
  rcases List.mem_append.mp inSecond with before | behind
  · exact absurd same.symm (apart.different before List.mem_cons_self goes given)
  · rcases List.mem_cons.mp behind with rfl | later
    · rfl
    · rw [List.append_cons] at apart
      exact absurd same (apart.different (by simp) later given goes)

/-- Outputs stay apart as long as the current folder stays. -/
theorem of_current {before after : Storage} {steps : List Step}
    (apart : Apart before logs steps) (current : after.current = before.current) :
    Apart after logs steps := by
  have same : after.placeOf = before.placeOf := funext (Storage.placeOf_of_current current)
  exact ⟨by rw [same]; exact apart.outputs, by rw [same]; exact apart.noLogs⟩

end Apart

variable [Limits] [Settings.EnvironmentFiles] [Download.Retrying]

/-- How steps have been performed from a job on, in files that were like `before` when the run had
written nothing but log files. The first of the steps are stages, each of which has written its
complete rendering by the files that it saw, which are those that the earlier stages left. All
steps are such stages, or the first one behind them has failed. -/
structure Conducted (material : Material) (logs : List Storage.Place) (before : Storage)
    (job : Job) (steps : List Step) (stages : List Stage) (outcome : Option Failure)
    (after : Storage) : Prop where
  rendered : ∀ stage ∈ stages,
    stage.step.rendering material stage.seen = .ok (stage.path, stage.content)
  seen : ∀ earlier stage later, stages = earlier ++ stage :: later →
    Overwritten logs before earlier stage.seen
  written : Overwritten logs before stages after
  completed : outcome = none → steps = stages.map Stage.step
  failed : ∀ failure, outcome = some failure → ∃ step later reached seen,
    steps = stages.map Stage.step ++ step :: later ∧
      performAll material.entries job (stages.map Stage.step) = (reached, none) ∧
      (step.perform material.entries reached).2 = some failure ∧
      Overwritten logs before stages seen ∧ step.FailsBy material seen failure

namespace Conducted

variable {before after : Storage} {steps : List Step} {stages : List Stage}
  {outcome : Option Failure}

/-- The stages of a run are its first steps. -/
theorem prefix_steps
    (conducted : Conducted material logs before job steps stages outcome after) :
    stages.map Stage.step <+: steps := by
  cases outcome with
  | none => exact ⟨[], by rw [conducted.completed rfl, List.append_nil]⟩
  | some failure =>
      obtain ⟨step, later, _, _, same, _⟩ := conducted.failed failure rfl
      exact ⟨step :: later, same.symm⟩

/-- The stages of a run are among its steps. -/
theorem mem_steps (conducted : Conducted material logs before job steps stages outcome after)
    {stage : Stage} (held : stage ∈ stages) : stage.step ∈ steps :=
  conducted.prefix_steps.subset (List.mem_map_of_mem held)

/-- Log files may change before the first stage. -/
theorem behind (agree : AgreeOutside logs before job.storage)
    (conducted : Conducted material logs job.storage job steps stages outcome after) :
    Conducted material logs before job steps stages outcome after where
  rendered := conducted.rendered
  seen earlier stage later same := .behind agree (conducted.seen earlier stage later same)
  written := .behind agree conducted.written
  completed := conducted.completed
  failed failure ended := by
    obtain ⟨step, later, reached, seen, same, performed, fails, written, reason⟩ :=
      conducted.failed failure ended
    exact ⟨step, later, reached, seen, same, performed, fails, .behind agree written, reason⟩

/-- The outputs of stages are no log files. -/
theorem noLog (conducted : Conducted material logs before job steps stages outcome after)
    (apart : Apart before logs steps) : ∀ stage ∈ stages, before.placeOf stage.path ∉ logs := by
  intro stage held
  have given := path_of_rendering (conducted.rendered stage held)
  exact apart.noLogs stage.path
    (List.mem_filterMap.mpr ⟨stage.step, conducted.mem_steps held, given⟩)

/-- Log files may change behind the last stage. -/
theorem ahead {later : Storage}
    (conducted : Conducted material logs before job steps stages outcome after)
    (apart : Apart before logs steps) (agree : AgreeOutside logs after later) :
    Conducted material logs before job steps stages outcome later :=
  { conducted with written := conducted.written.ahead (conducted.noLog apart) agree }

/-- The README of a stage is made from the file that was there before the first step. -/
theorem readme (conducted : Conducted material logs before job steps stages outcome after)
    (apart : Apart before logs steps) {stage : Stage} (held : stage ∈ stages) {path : Text}
    (isTable : stage.step = .table (some path)) :
    ∃ bytes document, before.file? (before.placeOf path) = some bytes ∧
      Storage.documentOfBytes? bytes = some document ∧
      Catalogue.updateReadme document material.entries = .ok stage.content := by
  obtain ⟨earlier, later, same⟩ := List.append_of_mem held
  have given : stage.step.path? = some path := by rw [isTable]; rfl
  have seen := conducted.seen earlier stage later same
  have writes := conducted.rendered stage held
  rw [isTable] at writes
  simp only [Step.rendering, Material.readme] at writes
  split at writes
  · cases writes
  next document reading =>
    split at writes
    · cases writes
    next updated updating =>
      obtain ⟨bytes, isFile, decoded⟩ := Storage.readDocument_ok reading
      obtain ⟨-, content⟩ := Prod.mk.inj (Except.ok.inj writes)
      -- No earlier stage has written to the place of the README.
      have elsewhere : ∀ first ∈ earlier,
          before.placeOf first.path ≠ before.placeOf path := by
        intro first inFront
        obtain ⟨rest, steps⟩ := conducted.prefix_steps
        rw [same, List.map_append, List.map_cons, List.append_assoc, List.cons_append] at steps
        rw [← steps] at apart
        have within : first ∈ stages := same ▸ List.mem_append_left _ inFront
        exact apart.different (List.mem_map_of_mem inFront) List.mem_cons_self
          (path_of_rendering (conducted.rendered first within)) given
      have noLog := apart.noLogs path
        (List.mem_filterMap.mpr ⟨stage.step, conducted.mem_steps held, given⟩)
      rw [Storage.placeOf_of_current seen.current, seen.others _ noLog elsewhere] at isFile
      exact ⟨bytes, document, isFile, decoded, by rw [updating, content]⟩

/-- The outputs of the steps behind the stages are as they were. -/
theorem untouched (conducted : Conducted material logs before job steps stages outcome after)
    (apart : Apart before logs steps) {step : Step} (within : step ∈ steps.drop stages.length)
    {path : Text} (given : step.path? = some path) :
    after.file? (before.placeOf path) = before.file? (before.placeOf path) := by
  obtain ⟨rest, same⟩ := conducted.prefix_steps
  rw [← same] at apart
  rw [← same, List.drop_left' (List.length_map Stage.step)] at within
  refine conducted.written.others _ ?_ fun stage held => ?_
  · exact apart.noLogs path
      (List.mem_filterMap.mpr ⟨step, List.mem_append_right _ within, given⟩)
  · exact apart.different (List.mem_map_of_mem held) within
      (path_of_rendering (conducted.rendered stage held)) given

/-- A step that has been completed goes in front of the stages behind it. -/
theorem cons (stage : Stage) (apart : Apart job.storage logs (stage.step :: steps))
    (completing : stage.step.perform material.entries job = (next, none))
    (writes : stage.step.rendering material stage.seen = .ok (stage.path, stage.content))
    (sees : AgreeOutside logs job.storage stage.seen)
    (output : next.storage.file? (job.storage.placeOf stage.path) =
      some (Text.utf8 stage.content))
    (agree : AgreeOutside (job.storage.placeOf stage.path :: logs) job.storage next.storage)
    (conducted : Conducted material logs next.storage next steps stages outcome after) :
    Conducted material logs job.storage job (stage.step :: steps) (stage :: stages) outcome
      after := by
  have given := path_of_rendering writes
  have noLog := apart.noLog given
  have different : ∀ later ∈ stages,
      job.storage.placeOf stage.path ≠ job.storage.placeOf later.path := fun later held =>
    Apart.different (by simpa using apart) (List.mem_singleton_self stage.step)
      (conducted.mem_steps held) given (path_of_rendering (conducted.rendered later held))
  have overwritten : ∀ {seen first}, first ⊆ stages → Overwritten logs next.storage first seen →
      Overwritten logs job.storage (stage :: first) seen := fun within written =>
    .cons noLog (fun later held => different later (within held)) output agree written
  constructor
  case rendered =>
    rintro held (_ | ⟨_, within⟩)
    · exact writes
    · exact conducted.rendered held within
  case seen =>
    intro earlier held later same
    cases earlier with
    | nil =>
        cases same
        exact .nil sees
    | cons first others =>
        obtain ⟨rfl, behind⟩ := List.cons.inj same
        exact overwritten (by simp [behind]) (conducted.seen others held later behind)
  case written => exact overwritten (List.Subset.refl stages) conducted.written
  case completed =>
    intro ended
    rw [conducted.completed ended, List.map_cons]
  case failed =>
    intro failure ended
    obtain ⟨step, later, reached, seen, same, performed, fails, written, reason⟩ :=
      conducted.failed failure ended
    refine ⟨step, later, reached, seen, by simp [same], ?_, fails,
      overwritten (List.Subset.refl stages) written, reason⟩
    simp only [List.map_cons, performAll, completing]
    exact performed

end Conducted

/-- Steps of which only the last one asks the network, and whose outputs are apart, are conducted
one after the other. -/
theorem performAll_conducted {steps : List Step} {last : Job} {outcome : Option Failure}
    (ready : Ready material.settings logs job) (apart : Apart job.storage logs steps)
    (ordered : steps.Pairwise fun earlier _ => earlier.isLocal)
    (fresh : steps ≠ [] → job.script = material.script)
    (performed : performAll material.entries job steps = (last, outcome)) :
    ∃ stages, Conducted material logs job.storage job steps stages outcome last.storage ∧
      Ready material.settings logs last := by
  induction steps generalizing job with
  | nil =>
      cases performed
      exact ⟨[], ⟨by simp, by simp, .nil (.refl logs _), fun _ => rfl, by simp⟩, ready⟩
  | cons step rest inductionHypothesis =>
      obtain ⟨alone, orderedRest⟩ := List.pairwise_cons.mp ordered
      have fresh := fresh (List.cons_ne_nil step rest)
      simp only [performAll] at performed
      split at performed
      · next stopped failure failing =>
          cases performed
          obtain ⟨failed, seen, agree, reason⟩ :=
            perform_failed ready fresh (fun path given => apart.noLog given) failing
          refine ⟨[], ⟨by simp, by simp, .nil failed.agree, by simp, ?_⟩, failed.ready⟩
          intro known same
          cases same
          exact ⟨step, rest, job, seen, rfl, rfl, by rw [failing], .nil agree, reason⟩
      · next done completing =>
          obtain ⟨seen, path, content, sees, writes, output, agree, readyDone, script⟩ :=
            perform_done ready fresh (fun path given => apart.noLog given) completing
          have freshRest : rest ≠ [] → done.script = material.script := by
            intro more
            obtain ⟨later, within⟩ := List.exists_mem_of_ne_nil rest more
            exact script (alone later within)
          obtain ⟨stages, conducted, readyLast⟩ := inductionHypothesis readyDone
            (apart.tail.of_current agree.current) orderedRest freshRest performed
          exact ⟨⟨step, seen, path, content⟩ :: stages,
            .cons ⟨step, seen, path, content⟩ apart completing writes sees.agree output agree
              conducted, readyLast⟩

end EditorData.Generation
