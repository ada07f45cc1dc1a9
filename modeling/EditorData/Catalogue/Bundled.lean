import EditorData.Catalogue.Entry

/-!
# The bundled catalogue

The options of the language server as they are known without a catalogue file.
-/

namespace EditorData.Catalogue

/-- What the bundled catalogue is called in reports. -/
def bundledName : Text :=
  "<bundled config.json>".toList

/-- The options used when no catalogue file is named. -/
def bundled : List Entry := [
  { name := "enable_snippets".toList
    description :=
      "Enables snippet completions when the client also supports them".toList
    zigType := "bool".toList
    initializer := "false".toList },
  { name := "enable_ast_check_diagnostics".toList
    description :=
      "Whether to enable ast-check diagnostics".toList
    zigType := "bool".toList
    initializer := "true".toList },
  { name := "enable_autofix".toList
    description :=
      "Whether to automatically fix errors on save. Currently supports adding ".toList ++
        "and removing discards.".toList
    zigType := "bool".toList
    initializer := "false".toList },
  { name := "enable_import_embedfile_argument_completions".toList
    description :=
      "Whether to enable import/embedFile argument completions".toList
    zigType := "bool".toList
    initializer := "false".toList },
  { name := "operator_completions".toList
    description :=
      "Enables `*` and `?` operators in completion lists".toList
    zigType := "bool".toList
    initializer := "true".toList },
  { name := "include_at_in_builtins".toList
    description :=
      "Whether the @ sign should be part of the completion of builtins".toList
    zigType := "bool".toList
    initializer := "false".toList },
  { name := "skip_std_references".toList
    description :=
      "When true, skips searching for references in std. Improves lookup speed ".toList ++
        "for functions in user's code. Renaming and go-to-definition will ".toList ++
        "continue to work as is".toList
    zigType := "bool".toList
    initializer := "false".toList },
  { name := "max_detail_length".toList
    description :=
      "The detail field of completions is truncated to be no longer than this ".toList ++
        "(in bytes)".toList
    zigType := "usize".toList
    initializer := "1048576".toList },
  { name := "zig_lib_path".toList
    description :=
      "Zig library path, e.g. `/path/to/zig/lib/zig`, used to analyze std ".toList ++
        "library imports".toList
    zigType := "?[]const u8".toList
    initializer := "null".toList },
  { name := "zig_exe_path".toList
    description :=
      "Zig executable path, e.g. `/path/to/zig/zig`, used to run the custom ".toList ++
        "build runner. If `null`, zig is looked up in `PATH`. Will be used to ".toList ++
        "infer the zig standard library path if none is provided".toList
    zigType := "?[]const u8".toList
    initializer := "null".toList },
  { name := "builtin_path".toList
    description :=
      "Path to 'builtin;' useful for debugging, automatically set if let null".toList
    zigType := "?[]const u8".toList
    initializer := "null".toList }]

end EditorData.Catalogue
