import EditorData.Proofs.Catalogue.Stability
import EditorData.Proofs.Generation.Stages
import EditorData.Proofs.Storage.Rereading
import EditorData.Proofs.Text.Decoding

/-!
# Steps performed again

What a step renders depends on the files that it sees only by the one that it is made from
(`rendering_of_input`). Behind a run all files that its steps are made from and go to can be
followed to (`performAll_shows`), so the steps can be performed again, and do what they render by
the files that the run has left (`performAll_again`). That is what they rendered in the run itself,
unless it is the table in the README, which is made from what it was written into (`renders_again`).
-/

namespace EditorData.Generation

open Storage (AgreeOutside Alike Grows)

/-- The path of the snapshot that a step reads, if it reads one. -/
def Step.snapshot? : Step -> Option Text
  | .versionData _ _ snapshot => snapshot.map Storage.Path.tidy
  | _ => none

/-- The path of the file that the output of a step is made from, if there is one: a snapshot, or the
README that the table goes to. -/
def Step.input? : Step -> Option Text
  | .table path => path
  | step => step.snapshot?

variable {settings : Settings} {material : Material} {logs : List Storage.Place}
  {job next : Job} {step : Step} {seen other : Storage} {path : Text}

/-- What an output is made from is a snapshot, or the README that the table goes to. -/
theorem snapshot_of_input (made : step.input? = some path) :
    step = .table (some path) ∨ step.snapshot? = some path := by
  cases step with
  | configFile path => cases made
  | schema path => cases made
  | table path => exact .inl (congrArg Step.table made)
  | editorProperties path => cases made
  | versionData version output snapshot => exact .inr made

section Machine

variable [Limits]

section Renderings

variable [Download.Retrying]

/-- What a step renders depends on the files that are seen by the one that it is made from. -/
theorem rendering_of_input
    (same : ∀ path, step.input? = some path → other.readDocument path = seen.readDocument path) :
    step.rendering material other = step.rendering material seen := by
  cases step with
  | configFile path => rfl
  | schema path => rfl
  | table path =>
      cases path with
      | none => rfl
      | some path => simp only [Step.rendering, Material.readme, same path rfl]
  | editorProperties path => rfl
  | versionData version path snapshot =>
      cases path with
      | none => rfl
      | some path =>
          cases snapshot with
          | none => rfl
          | some snapshot =>
              simp only [Step.rendering, Material.versionData, Material.reference,
                Reference.readSnapshot, same _ rfl]

/-- What is rendered is made from a file that can be read. -/
theorem read_of_rendering {writing : Text × Text}
    (rendered : step.rendering material seen = .ok writing) (made : step.input? = some path) :
    ∃ document, seen.readDocument path = .ok document := by
  cases found : seen.readDocument path with
  | ok document => exact ⟨document, rfl⟩
  | error fault =>
      cases step with
      | configFile path => cases made
      | schema path => cases made
      | table path =>
          cases made
          simp only [Step.rendering, Material.readme, found] at rendered
          cases rendered
      | editorProperties path => cases made
      | versionData version output snapshot =>
          obtain ⟨given, rfl, rfl⟩ := Option.map_eq_some_iff.mp made
          cases output with
          | none => cases rendered
          | some output =>
              simp only [Step.rendering, Material.versionData, Material.reference,
                Reference.readSnapshot, found] at rendered
              cases rendered

end Renderings

/-- An output that has been saved is shown by its path, and nothing has been lost. -/
theorem save_shows {output : Output} (ready : Ready settings logs job)
    (apart : job.storage.placeOf output.path ∉ logs)
    (done : output.save job = (next, none)) :
    next.storage.Shows output.path .file ∧ Grows job.storage next.storage := by
  unfold Output.save at done
  split at done
  · next storage saving =>
      cases done
      have reporting := (reportAll_reported (ready.of_save apart saving)
        [⟨.info, output.report⟩]).alike.grows
      have saved :=
        Storage.save_grows job.storage Limits.outputFolders output.path output.content
      rw [saving] at saved
      exact ⟨(Storage.save_shows saving).of_grows reporting, saved.trans reporting⟩
  · cases done

variable [Settings.EnvironmentFiles] [Download.Retrying]

/-- Behind a step that has been completed, the paths of its output and of what it was made from show
files, and nothing has been lost. -/
theorem perform_shows (ready : Ready material.settings logs job)
    (fresh : job.script = material.script)
    (apart : ∀ path, step.path? = some path → job.storage.placeOf path ∉ logs)
    (done : step.perform material.entries job = (next, none)) :
    Grows job.storage next.storage ∧
      ∀ path, step.path? = some path ∨ step.input? = some path →
        next.storage.Shows path .file := by
  obtain ⟨rendered, output, content, seen, reported, -, alike, writes, -, saving⟩ :=
    perform_ok ready fresh done
  have given := path_of_rendering writes
  have place := reported.alike.agree.placeOf output.path
  obtain ⟨shown, saved⟩ := save_shows (reported.ready ready)
    (by rw [place]; exact apart output.path given) saving
  have grows := reported.alike.grows.trans saved
  refine ⟨grows, fun path either => ?_⟩
  rcases either with goes | made
  · rw [given] at goes
    cases goes
    exact shown
  · obtain ⟨document, reading⟩ := read_of_rendering writes made
    exact (Storage.shows_of_readDocument reading).of_grows (alike.symm.grows.trans grows)

/-- Behind steps that have been completed, the paths of their outputs and of what these were made
from show files, and nothing has been lost. -/
theorem performAll_shows {entries : List Catalogue.Entry} {steps : List Step} {last : Job}
    (ready : Ready settings logs job) (apart : Apart job.storage logs steps)
    (done : performAll entries job steps = (last, none)) :
    Grows job.storage last.storage ∧
      ∀ step ∈ steps, ∀ path, step.path? = some path ∨ step.input? = some path →
        last.storage.Shows path .file := by
  induction steps generalizing job with
  | nil =>
      cases done
      exact ⟨.refl _, fun _ none => absurd none List.not_mem_nil⟩
  | cons step rest inductionHypothesis =>
      simp only [performAll] at done
      split at done
      · cases done
      · next next completing =>
          have readyHere :
              Ready (Material.mk settings job.script entries).settings logs job := ready
          have noLog : ∀ path, step.path? = some path → job.storage.placeOf path ∉ logs :=
            fun path given => apart.noLog given
          obtain ⟨seen, path, content, -, -, -, agree, readyNext, -⟩ :=
            perform_done readyHere rfl noLog completing
          obtain ⟨grows, shown⟩ := perform_shows readyHere rfl noLog completing
          obtain ⟨further, later⟩ :=
            inductionHypothesis readyNext (apart.tail.of_current agree.current) done
          refine ⟨grows.trans further, fun other within path either => ?_⟩
          rcases List.mem_cons.mp within with rfl | behind
          · exact (shown path either).of_grows further
          · exact later other behind path either

/-- A step that renders something for a path that shows a file is completed. -/
theorem perform_again {writing : Text × Text} (ready : Ready material.settings logs job)
    (fresh : job.script = material.script)
    (rendered : ∀ seen, Alike logs job.storage seen →
      step.rendering material seen = .ok writing)
    (shown : job.storage.Shows writing.1 .file) :
    ∃ next, step.perform material.entries job = (next, none) := by
  have reported := render_reported ready material.entries step
  obtain ⟨seen, alike, result⟩ := render_renders ready fresh step
  rw [rendered seen alike] at result
  obtain ⟨output, found, same⟩ := ok_of_map result
  obtain ⟨path, codes⟩ := Prod.mk.inj same
  obtain ⟨saved, saving⟩ := Storage.save_of_shows (shown.of_grows reported.alike.grows)
    Limits.outputFolders (Text.utf8OfCodes?_codes writing.2)
  have rendering : step.render material.entries job =
      ((step.render material.entries job).1, .ok output) := Prod.ext rfl found
  unfold Step.perform
  rw [rendering]
  dsimp only [Output.save]
  rw [path, codes, saving]
  exact ⟨_, rfl⟩

end Machine

/-- The outputs of steps go to different places, and what the steps read is not among them, except
for the README that the table goes to. None of all these is the place of a log file. -/
structure Detached (storage : Storage) (logs : List Storage.Place) (steps : List Step) : Prop where
  apart : Apart storage logs steps
  snapshots : ∀ step ∈ steps, ∀ path, step.snapshot? = some path →
    storage.placeOf path ∉ logs ∧
      ∀ output ∈ steps.filterMap Step.path?, storage.placeOf output ≠ storage.placeOf path

namespace Detached

variable {storage later : Storage} {steps rest : List Step}

/-- The later steps are detached. -/
theorem tail (detached : Detached storage logs (step :: rest)) : Detached storage logs rest := by
  refine ⟨detached.apart.tail, fun later within path source => ?_⟩
  obtain ⟨noLog, others⟩ := detached.snapshots later (List.mem_cons_of_mem step within) path source
  have behind := (List.sublist_cons_self step rest).filterMap Step.path?
  exact ⟨noLog, fun output given => others output (behind.subset given)⟩

/-- Steps stay detached as long as the current folder stays. -/
theorem of_current (detached : Detached storage logs steps)
    (current : later.current = storage.current) : Detached later logs steps := by
  have same : later.placeOf = storage.placeOf := funext (Storage.placeOf_of_current current)
  exact ⟨detached.apart.of_current current, by rw [same]; exact detached.snapshots⟩

/-- What a step is made from is no log file. -/
theorem noLog (detached : Detached storage logs steps) (within : step ∈ steps)
    (made : step.input? = some path) : storage.placeOf path ∉ logs := by
  rcases snapshot_of_input made with table | source
  · exact detached.apart.noLogs path (List.mem_filterMap.mpr ⟨step, within, table ▸ rfl⟩)
  · exact (detached.snapshots step within path source).1

/-- The output of the first step is not what a later one is made from. -/
theorem different (detached : Detached storage logs (step :: rest)) {behind : Step}
    (within : behind ∈ rest) {output input : Text} (given : step.path? = some output)
    (made : behind.input? = some input) : storage.placeOf output ≠ storage.placeOf input := by
  rcases snapshot_of_input made with table | source
  · have apart : Apart storage logs ([step] ++ rest) := detached.apart
    exact apart.different (List.mem_singleton_self step) within given (table ▸ rfl)
  · refine (detached.snapshots behind (List.mem_cons_of_mem step within) input source).2 output ?_
    exact List.mem_filterMap.mpr ⟨step, List.mem_cons_self, given⟩

end Detached

variable [Limits] [Download.Retrying]

/-- Steps that can be performed again from the files `base` that a run has left: they render
something by these files, for paths that show files. The job at hand has lost nothing of them, and
the files that the steps are made from are still the same. -/
structure Renewable (material : Material) (logs : List Storage.Place) (base : Storage) (job : Job)
    (steps : List Step) : Prop where
  ready : Ready material.settings logs job
  fresh : steps ≠ [] → job.script = material.script
  ordered : steps.Pairwise fun earlier _ => earlier.isLocal
  grows : Grows base job.storage
  detached : Detached base logs steps
  unchanged : ∀ step ∈ steps, ∀ path, step.input? = some path →
    job.storage.file? (base.placeOf path) = base.file? (base.placeOf path)
  renders : ∀ step ∈ steps, ∃ path content,
    step.rendering material base = .ok (path, content) ∧ base.Shows path .file

namespace Renewable

variable {base : Storage} {rest : List Step}

/-- By all files that the first step may see it renders the same. -/
theorem rendering (renewable : Renewable material logs base job (step :: rest))
    (alike : Alike logs job.storage seen) :
    step.rendering material seen = step.rendering material base := by
  obtain ⟨output, content, rendered, -⟩ := renewable.renders step List.mem_cons_self
  refine rendering_of_input fun path made => ?_
  obtain ⟨document, reading⟩ := read_of_rendering rendered made
  have noLog := renewable.detached.noLog List.mem_cons_self made
  have same : seen.file? (base.placeOf path) = base.file? (base.placeOf path) :=
    (alike.agree.files _ noLog).trans (renewable.unchanged step List.mem_cons_self path made)
  have read := (Storage.shows_of_readDocument reading).read_again
    (renewable.grows.trans alike.grows) same
  unfold Storage.readDocument
  rw [read]

variable [Settings.EnvironmentFiles]

/-- The first step is completed, and the others can be performed again behind it. -/
theorem first (renewable : Renewable material logs base job (step :: rest)) :
    ∃ next path content, step.perform material.entries job = (next, none) ∧
      step.rendering material base = .ok (path, content) ∧
      next.storage.file? (job.storage.placeOf path) = some (Text.utf8 content) ∧
      AgreeOutside (job.storage.placeOf path :: logs) job.storage next.storage ∧
      Renewable material logs base next rest := by
  obtain ⟨path, content, rendered, shown⟩ := renewable.renders step List.mem_cons_self
  have fresh := renewable.fresh (List.cons_ne_nil step rest)
  have same := renewable.grows.placeOf
  obtain ⟨next, done⟩ := perform_again renewable.ready fresh
    (fun seen alike => (renewable.rendering alike).trans rendered)
    (shown.of_grows renewable.grows)
  have noLog : ∀ path, step.path? = some path → job.storage.placeOf path ∉ logs :=
    fun path given => by
      rw [same]
      exact renewable.detached.apart.noLog given
  obtain ⟨seen, path', content', alike, writes, output, agree, ready, script⟩ :=
    perform_done renewable.ready fresh noLog done
  rw [renewable.rendering alike, rendered] at writes
  cases writes
  have further := (perform_shows renewable.ready fresh noLog done).1
  obtain ⟨alone, ordered⟩ := List.pairwise_cons.mp renewable.ordered
  refine ⟨next, path, content, done, rendered, output, agree, ready, ?_, ordered,
    renewable.grows.trans further, renewable.detached.tail, ?_, ?_⟩
  · intro more
    obtain ⟨later, within⟩ := List.exists_mem_of_ne_nil rest more
    exact script (alone later within)
  · intro later within input made
    have elsewhere : base.placeOf input ∉ job.storage.placeOf path :: logs := by
      rw [same]
      intro held
      rcases List.mem_cons.mp held with equal | logged
      · exact renewable.detached.different within (path_of_rendering rendered) made equal.symm
      · exact renewable.detached.noLog (List.mem_cons_of_mem step within) made logged
    rw [agree.files _ elsewhere]
    exact renewable.unchanged later (List.mem_cons_of_mem step within) input made
  · exact fun later within => renewable.renders later (List.mem_cons_of_mem step within)

end Renewable

variable [Settings.EnvironmentFiles]

/-- Steps that can be performed again are completed, and do what they render by the files that have
been left. -/
theorem performAll_again {base : Storage} {steps : List Step}
    (renewable : Renewable material logs base job steps) :
    ∃ stages last, performAll material.entries job steps = (last, none) ∧
      Ready material.settings logs last ∧ stages.map Stage.step = steps ∧
      (∀ stage ∈ stages, stage.step.rendering material base = .ok (stage.path, stage.content)) ∧
      Overwritten logs job.storage stages last.storage := by
  induction steps generalizing job with
  | nil =>
      exact ⟨[], job, rfl, renewable.ready, rfl, fun _ none => absurd none List.not_mem_nil,
        .nil (.refl logs job.storage)⟩
  | cons step rest inductionHypothesis =>
      obtain ⟨next, path, content, done, rendered, output, agree, renewed⟩ := renewable.first
      obtain ⟨stages, last, performed, ready, steps, renders, written⟩ :=
        inductionHypothesis renewed
      have same := renewable.grows.placeOf
      have given := path_of_rendering rendered
      have apart : Apart base logs ([step] ++ rest) := renewable.detached.apart
      refine ⟨⟨step, base, path, content⟩ :: stages, last, ?_, ready, by simp [steps],
        List.forall_mem_cons.mpr ⟨rendered, renders⟩, .cons ?_ ?_ output agree written⟩
      · rw [performAll, done]
        exact performed
      · rw [same]
        exact renewable.detached.apart.noLog given
      · intro later held
        have behind : later.step ∈ rest := steps ▸ List.mem_map_of_mem held
        rw [same, same]
        exact apart.different (List.mem_singleton_self step) behind given
          (path_of_rendering (renders later held))

/-- The table that a run has put in the README is rendered again from the README that the run has
left, and comes out differently if a text of an option has the marker that ends it. -/
theorem Conducted.table_again {before after : Storage} {steps : List Step} {stages : List Stage}
    {outcome : Option Failure}
    (conducted : Conducted material logs before job steps stages outcome after)
    (apart : Apart before logs steps) {stage : Stage} (held : stage ∈ stages)
    (shown : after.Shows stage.path .file) (table : stage.step = .table (some stage.path)) :
    ∃ content, stage.step.rendering material after = .ok (stage.path, content) ∧
      (content = stage.content ↔ ¬ ∃ entry ∈ material.entries, entry.Marked) := by
  obtain ⟨bytes, document, -, decoded, updating⟩ := conducted.readme apart held table
  have whole : '\r' ∉ document := by
    obtain ⟨text, -, rfl⟩ := Option.map_eq_some_iff.mp decoded
    exact Text.return_not_mem_normalizeNewlines text
  obtain ⟨again, updated, same⟩ := Catalogue.updateReadme_reread whole updating
  have kept : after.file? (after.placeOf stage.path) = some (Text.utf8 stage.content) := by
    rw [Storage.placeOf_of_current conducted.written.current]
    exact conducted.written.outputs stage held
  have reading : after.readDocument stage.path = .ok (Text.normalizeNewlines stage.content) := by
    refine shown.readDocument kept ?_
    rw [Storage.documentOfBytes?, Text.ofUtf8?_utf8]
    rfl
  refine ⟨again, ?_, same⟩
  rw [table]
  simp only [Step.rendering, Material.readme, reading, updated]

/-- A step that makes no table renders what it has rendered in the run again: the snapshot that it
reads is no output of the run. -/
theorem Conducted.untabled_again {before after : Storage} {steps : List Step} {stages : List Stage}
    {outcome : Option Failure}
    (conducted : Conducted material logs before job steps stages outcome after)
    (detached : Detached before logs steps) {stage : Stage} (held : stage ∈ stages)
    (shown : ∀ path, stage.step.input? = some path → after.Shows path .file)
    (noTable : ¬ ∃ path, stage.step = .table path) :
    stage.step.rendering material after = .ok (stage.path, stage.content) := by
  have writes := conducted.rendered stage held
  refine (rendering_of_input fun path made => ?_).trans writes
  rcases snapshot_of_input made with table | source
  · exact absurd ⟨_, table⟩ noTable
  obtain ⟨document, reading⟩ := read_of_rendering writes made
  obtain ⟨bytes, isFile, decoded⟩ := Storage.readDocument_ok reading
  obtain ⟨earlier, later, split⟩ := List.append_of_mem held
  have seen := conducted.seen earlier stage later split
  obtain ⟨noLog, others⟩ :=
    detached.snapshots stage.step (conducted.mem_steps held) path source
  have elsewhere : ∀ first ∈ stages, before.placeOf first.path ≠ before.placeOf path :=
    fun first among => others first.path (List.mem_filterMap.mpr
      ⟨first.step, conducted.mem_steps among, path_of_rendering (conducted.rendered first among)⟩)
  rw [Storage.placeOf_of_current seen.current, seen.others _ noLog fun first inFront =>
    elsewhere first (split ▸ List.mem_append_left _ inFront)] at isFile
  rw [reading]
  refine (shown path made).readDocument ?_ decoded
  rw [Storage.placeOf_of_current conducted.written.current,
    conducted.written.others _ noLog elsewhere]
  exact isFile

/-- What the steps of a run have rendered they render again by the files that the run has left. The
table in the README alone is made from something else than in the run, and comes out differently if
a text of an option has the marker that ends it. -/
theorem Conducted.renders_again {before after : Storage} {steps : List Step}
    {stages : List Stage} {outcome : Option Failure}
    (conducted : Conducted material logs before job steps stages outcome after)
    (detached : Detached before logs steps)
    (shown : ∀ step ∈ steps, ∀ path, step.path? = some path ∨ step.input? = some path →
      after.Shows path .file)
    {stage : Stage} (held : stage ∈ stages) :
    ∃ content, stage.step.rendering material after = .ok (stage.path, content) ∧
      (content = stage.content ↔
        ¬ ((∃ path, stage.step = .table path) ∧ ∃ entry ∈ material.entries, entry.Marked)) := by
  have shownHere := shown stage.step (conducted.mem_steps held)
  have given := path_of_rendering (conducted.rendered stage held)
  by_cases isTable : ∃ path, stage.step = .table path
  · obtain ⟨path, table⟩ := isTable
    obtain rfl : path = some stage.path := by
      rw [table] at given
      exact given
    obtain ⟨content, rendered, same⟩ :=
      conducted.table_again detached.apart held (shownHere stage.path (.inl given)) table
    exact ⟨content, rendered, by rw [same, and_iff_right ⟨_, table⟩]⟩
  · exact ⟨stage.content,
      conducted.untabled_again detached held (fun path made => shownHere path (.inr made)) isTable,
      iff_of_true rfl fun both => isTable both.1⟩

end EditorData.Generation
