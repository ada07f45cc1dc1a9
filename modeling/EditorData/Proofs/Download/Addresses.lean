import EditorData.Download.Fetch
import EditorData.Proofs.Settings.Caching
import EditorData.Proofs.Template.Braces
import EditorData.Settings.EnvFile

/-!
# Addresses of the reference

Settings are accepted if a place for the version stands in the template of their address. The
address of a version is that template filled as a whole, so a place may turn out not to be a field,
and other braces have a meaning of their own. The addresses are as they should be (`Works`) for all
plain templates, and for no others whose fields show the version itself.
-/

namespace EditorData.Download

open Template (Plain Direct replaced)

/-- Addresses are made of a template by putting the version in its places, and are different for
different versions. -/
structure Works [Settings.EnvironmentFiles] (session : Settings.Session) (storage : Storage)
    (template : Text) : Prop where
  filled : ∀ version, (url session storage version none).2 = .ok (replaced template version)
  injective : ∀ version other,
    (url session storage version none).2 = (url session storage other none).2 → version = other

section Addresses

variable [Settings.EnvironmentFiles] {environment : Settings.Environment}
  {session : Settings.Session} {storage : Storage} {issue : Settings.Issue} {version text : Text}

/-- The address of a version is the filled template of the settings that are obtained. -/
theorem url_eq (obtained : (session.obtain storage none).result = .ok issue) (version : Text) :
    (url session storage version none).2 =
      (Template.fill issue.settings.urlTemplate version).mapError .template := by
  unfold url
  dsimp only
  rw [obtained]
  dsimp only
  cases Template.fill issue.settings.urlTemplate version <;> rfl

/-- An address is had exactly if the template is filled. -/
theorem url_eq_ok_iff (obtained : (session.obtain storage none).result = .ok issue) :
    (url session storage version none).2 = .ok text ↔
      Template.fill issue.settings.urlTemplate version = .ok text := by
  rw [url_eq obtained]
  cases Template.fill issue.settings.urlTemplate version with
  | error fault => exact ⟨nofun, nofun⟩
  | ok filled =>
      constructor
      · intro same
        exact congrArg Except.ok (Except.ok.inj same)
      · intro same
        exact congrArg Except.ok (Except.ok.inj same)

/-- The template of accepted settings is plain exactly if its fields are direct and its addresses
work: they are made without fault by putting the version in the places for it, and are different for
different versions. -/
theorem plain_iff_works (accepted : Settings.ofEnvironment environment = .ok issue.settings)
    (obtained : (session.obtain storage none).result = .ok issue) :
    Plain issue.settings.urlTemplate ↔
      Direct issue.settings.urlTemplate ∧ Works session storage issue.settings.urlTemplate := by
  constructor
  · intro plain
    have filled (version : Text) : (url session storage version none).2 =
        .ok (replaced issue.settings.urlTemplate version) :=
      (url_eq_ok_iff obtained).2 (plain.fill_eq version)
    refine ⟨plain.direct, filled, fun version other same => ?_⟩
    rw [filled, filled] at same
    exact Template.replaced_injective (Settings.ofEnvironment_ok accepted).1.versionField
      (Except.ok.inj same)
  · rintro ⟨direct, works⟩
    exact Template.plain_of_fill_eq direct fun version =>
      (url_eq_ok_iff obtained).1 (works.filled version)

end Addresses

/-- Files for the environment that are looked for nowhere. -/
@[reducible] def noFiles : Settings.EnvironmentFiles :=
  Settings.EnvFile.library []

section Templates

attribute [local instance] noFiles

/-- A session that keeps no settings makes those that its environment gives. -/
theorem obtain_of_accepted {environment : Settings.Environment} {settings : Settings}
    (accepted : Settings.ofEnvironment environment = .ok settings) (storage : Storage) :
    (Settings.Session.obtain ⟨environment, none, 0⟩ storage none).result = .ok ⟨0, settings⟩ := by
  have made : (Settings.Session.make ⟨environment, none, 0⟩ storage none).result =
      .ok ⟨0, settings⟩ := by
    have nothing : (Settings.EnvFile.load false environment .nothing).environment = environment ∧
        (Settings.EnvFile.load false environment .nothing).fault = none := by
      unfold Settings.EnvFile.load
      split <;> exact ⟨rfl, rfl⟩
    have unchanged : (Settings.Session.loadFile ⟨environment, none, 0⟩ storage none).1 =
          ⟨environment, none, 0⟩ ∧
        (Settings.Session.loadFile ⟨environment, none, 0⟩ storage none).2.2 = none :=
      ⟨congrArg (Settings.Session.mk · none 0) nothing.1, nothing.2⟩
    unfold Settings.Session.make
    split
    · next found =>
        rw [found] at unchanged
        cases unchanged.2
    · next found =>
        rw [found] at unchanged
        obtain rfl := unchanged.1
        unfold Settings.Session.issue
        dsimp only
        rw [accepted]
  unfold Settings.Session.obtain
  dsimp only
  rw [made]

/-- The template in force when none is set is plain, so its addresses work. -/
theorem defaultTemplate_works :
    ∃ issue : Settings.Issue, Settings.ofEnvironment [] = .ok issue.settings ∧
      (Settings.Session.initial.obtain (.empty []) none).result = .ok issue ∧
      Plain issue.settings.urlTemplate ∧ Direct issue.settings.urlTemplate ∧
      Works .initial (.empty []) issue.settings.urlTemplate := by
  have accepted : Settings.ofEnvironment [] = .ok
      ⟨Settings.defaultUrlTemplate, Settings.defaultRoot, 30, 3, 2, "INFO".toList, none⟩ := by rfl
  have obtained := obtain_of_accepted accepted (.empty [])
  have front : Template.Unbraced "https://raw.githubusercontent.com/ziglang/zig/".toList := by
    decide
  have back : Template.Unbraced "/doc/langref.html.in".toList := by decide
  have spelled : Settings.defaultUrlTemplate =
      "https://raw.githubusercontent.com/ziglang/zig/".toList ++
        (Settings.versionField ++ "/doc/langref.html.in".toList) := by decide +kernel
  have plain : Plain Settings.defaultUrlTemplate := by
    rw [Plain, spelled, Template.pieces_append front, Template.pieces_of_unbraced back]
    intro piece member
    rcases List.mem_cons.1 member with rfl | last
    · exact front
    · exact List.mem_singleton.1 last ▸ back
  have works := (plain_iff_works accepted obtained).1 plain
  exact ⟨_, accepted, obtained, plain, works⟩

/-- An environment with a template alone gives the template with the defaults of everything else, if
a place for the version stands in it. -/
theorem ofEnvironment_template {template : Text}
    (place : (Text.cut? Settings.versionField template).isNone = false) :
    Settings.ofEnvironment [(Settings.urlVariable, template)] =
      .ok ⟨template, Settings.defaultRoot, 30, 3, 2, "INFO".toList, none⟩ := by
  have checked : Settings.ofEnvironment [(Settings.urlVariable, template)] =
      if (Text.cut? Settings.versionField template).isNone then .error (.missingVersion template)
      else .ok ⟨template, Settings.defaultRoot, 30, 3, 2, "INFO".toList, none⟩ := rfl
  rw [checked, place]
  rfl

/-- A template of which the only place is not a field, since its braces are doubled. -/
def escapedPlace : Text :=
  "https://example.org/\x7b\x7bversion\x7d\x7d/langref.html.in".toList

/-- A template with a place, and with a field of another name. -/
def otherField : Text :=
  "https://example.org/\x7bversion\x7d/\x7bbranch\x7d".toList

/-- Both templates are accepted. The addresses of the one are the same for different versions, and
those of the other are not made at all. -/
theorem escapedPlace_not_works :
    let escaped : Settings.Session := ⟨[(Settings.urlVariable, escapedPlace)], none, 0⟩
    let other : Settings.Session := ⟨[(Settings.urlVariable, otherField)], none, 0⟩
    (Settings.ofEnvironment [(Settings.urlVariable, escapedPlace)]).toOption.isSome = true ∧
      (url escaped (.empty []) "0.11.0".toList none).2 =
        .ok "https://example.org/\x7bversion\x7d/langref.html.in".toList ∧
      (url escaped (.empty []) "0.12.0".toList none).2 =
        .ok "https://example.org/\x7bversion\x7d/langref.html.in".toList ∧
      ¬ Works escaped (.empty []) escapedPlace ∧
      (Settings.ofEnvironment [(Settings.urlVariable, otherField)]).toOption.isSome = true ∧
      (url other (.empty []) "0.11.0".toList none).2 =
        .error (.template (.unknownField "branch".toList)) ∧
      ¬ Works other (.empty []) otherField := by
  intro escaped other
  have acceptedEscaped := @ofEnvironment_template escapedPlace (by decide)
  have acceptedOther := @ofEnvironment_template otherField (by decide)
  have same (version : Text) : (url escaped (.empty []) version none).2 =
      .ok "https://example.org/\x7bversion\x7d/langref.html.in".toList := by
    have parts : Template.parse escapedPlace =
        ("https://example.org/\x7bversion\x7d/langref.html.in".toList.map .char, none) := by
      decide +kernel
    apply (url_eq_ok_iff (obtain_of_accepted acceptedEscaped _)).2
    apply Template.fill_eq_ok_iff.2
    rw [parts]
    exact ⟨rfl, rfl⟩
  have failed : (url other (.empty []) "0.11.0".toList none).2 =
      .error (.template (.unknownField "branch".toList)) := by
    have parts : Template.parse otherField =
        ("https://example.org/".toList.map .char ++
          [.field Template.place, .char '/', .field ⟨"branch".toList, none, []⟩], none) := by
      decide +kernel
    rw [url_eq (obtain_of_accepted acceptedOther _), Template.fill, Template.fillAt, parts]
    rfl
  refine ⟨by rw [acceptedEscaped]; rfl, same _, same _, ?_, by rw [acceptedOther]; rfl, failed, ?_⟩
  · intro works
    have equal := works.injective _ _ ((same "0.11.0".toList).trans (same "0.12.0".toList).symm)
    exact absurd equal (by decide)
  · intro works
    have made := works.filled "0.11.0".toList
    rw [failed] at made
    cases made

end Templates

end EditorData.Download
