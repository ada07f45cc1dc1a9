import EditorData.Proofs.Reference.CleanDocumentation
import EditorData.Proofs.ZigSource.Reader

/-!
# Documentation in version data

A multiline string loses the spaces at the ends of its lines. The documentation of a finished
builtin has none (`IsClean`), so it is written line for line as it is (`multiline_clean`) and is
read back unchanged.
-/

namespace EditorData.ZigSource

open EditorData.Reference

/-- The lines of a multiline string, with everything that stands in them. -/
def wholeLines (indent : Nat) (text : Text) : Text :=
  (Text.lines text).flatMap fun part => line indent ('\\' :: '\\' :: part)

/-- A clean text is written with everything that stands in its lines. -/
theorem multiline_clean {text : Text} (clean : IsClean text) (indent : Nat) :
    multiline indent text = wholeLines indent text := by
  rw [multiline, wholeLines, List.flatMap_def, List.flatMap_def]
  refine congrArg List.flatten (List.map_congr_left fun part member => ?_)
  rw [clean.trimEnd_line member]

/-- Version data holds a clean documentation as it is. -/
theorem documentation_stored {builtin : Builtin} (clean : IsClean builtin.documentation) :
    (Stored.ofBuiltin builtin).documentation = builtin.documentation := by
  rw [Stored.ofBuiltin, joined_map_trimEnd, clean.trimLines_eq]

/-- The documentation of every finished builtin has no line feed at its ends and no space at the end
of a line, so trimming the ends of its lines again changes nothing. Every documentation that has
been collected is written to version data line for line as it is, and read back unchanged. -/
theorem documentation_exact :
    (∀ raw builtin, finish raw = .ok builtin →
      IsClean builtin.documentation ∧
        Text.joined ['\n'] ((Text.lines builtin.documentation).map (Text.trimEnd (· == ' '))) =
          builtin.documentation) ∧
    ∀ version documentationRoot document builtins,
      collect version documentationRoot document = .ok builtins →
        (∀ builtin ∈ builtins, ∀ indent,
          multiline indent builtin.documentation = wholeLines indent builtin.documentation) ∧
        ∀ label, '\n' ∉ label → ∃ stored,
          readVersionData (renderVersionData builtins label) = some stored ∧
            stored.map Stored.documentation = builtins.map Builtin.documentation := by
  constructor
  · intro raw builtin finished
    have clean := isClean_documentation finished
    exact ⟨clean, by rw [joined_map_trimEnd, clean.trimLines_eq]⟩
  · intro version documentationRoot document builtins collected
    have clean : ∀ builtin ∈ builtins, IsClean builtin.documentation := by
      intro builtin member
      obtain ⟨raw, finished⟩ := exists_finish_of_collect collected builtin member
      exact isClean_documentation finished
    refine ⟨fun builtin member => multiline_clean (clean builtin member), fun label oneLine => ?_⟩
    refine ⟨_, (read_renderVersionData builtins oneLine).1, ?_⟩
    rw [List.map_map]
    exact List.map_congr_left fun builtin member => documentation_stored (clean builtin member)

/-- A reference with one entry, of which the body is a line of spaces and a list with an empty
item. -/
def emptyItem : Text :=
  ("\x7b#header_open|Builtin Functions#\x7d\x7b#header_open|@a#\x7d\x7b#syntax#\x7d@a()" ++
    "\x7b#endsyntax#\x7d</pre>\n  \n<ul><li> </li></ul>\n\x7b#header_close#\x7d" ++
    "\x7b#header_close#\x7d").toList

/-- The documentation of the entry is the mark of the item, with the space in front of it and
without the one behind it. -/
theorem documentation_exact_emptyItem :
    ∃ raw builtin,
      finish raw = .ok builtin ∧ collect [] [] emptyItem = .ok [builtin] ∧ '\n' ∉ ['1'] ∧
        builtin.documentation = " -".toList ∧ IsClean builtin.documentation ∧
        multiline 8 builtin.documentation = wholeLines 8 builtin.documentation ∧
        ∃ stored, readVersionData (renderVersionData [builtin] ['1']) = some stored ∧
          stored.map Stored.documentation = [builtin.documentation] := by
  have finished :
      finish ⟨"@a".toList, "@a()".toList, ["</pre>\n  \n<ul><li> </li></ul>\n".toList]⟩ =
      .ok ⟨"@a".toList, "@a()".toList, "@a()".toList, " -".toList, []⟩ := by
    decide +kernel
  have collected : collect [] [] emptyItem =
      .ok [⟨"@a".toList, "@a()".toList, "@a()".toList, " -".toList, []⟩] := by
    decide +kernel
  have oneLine : '\n' ∉ ['1'] := by decide
  obtain ⟨written, readBack⟩ := documentation_exact.2 [] [] emptyItem _ collected
  exact ⟨_, _, finished, collected, oneLine, rfl, (documentation_exact.1 _ _ finished).1,
    written _ List.mem_cons_self 8, readBack ['1'] oneLine⟩

end EditorData.ZigSource
