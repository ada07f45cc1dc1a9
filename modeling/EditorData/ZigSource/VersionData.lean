import EditorData.Reference.Builtin
import EditorData.ZigSource.Literal

/-!
# Version data

The Zig source file with the builtins of one version. Each builtin is an initializer with
one field on a line; the documentation is a multiline string, of which every line begins
with two backslashes behind the indentation.
-/

namespace EditorData.ZigSource

open EditorData.Reference

/-- A line of the file, indented by the given number of spaces. -/
def line (indent : Nat) (content : Text) : Text :=
  List.replicate indent ' ' ++ content ++ ['\n']

/-- The lines of a multiline string. -/
def multiline (indent : Nat) (text : Text) : Text :=
  (Text.lines text).flatMap fun part =>
    line indent ('\\' :: '\\' :: Text.trimEnd (· == ' ') part)

/-- The initializer of one builtin. -/
def renderBuiltin (builtin : Builtin) : Text :=
  line 4 ".\x7b".toList ++
  line 8 (".name = ".toList ++ literal builtin.name ++ [',']) ++
  line 8 (".signature = ".toList ++ literal builtin.signature ++ [',']) ++
  line 8 (".snippet = ".toList ++ literal builtin.snippet ++ [',']) ++
  line 8 ".documentation =".toList ++
  multiline 8 builtin.documentation ++
  line 8 [','] ++
  (if builtin.arguments.isEmpty then line 8 ".arguments = &.\x7b\x7d,".toList
   else
    line 8 ".arguments = &.\x7b".toList ++
    (builtin.arguments.flatMap fun argument => line 12 (literal argument ++ [','])) ++
    line 8 "\x7d,".toList) ++
  line 4 "\x7d,".toList

/-- The head of the file: how to update it, and the type of its entries. -/
def versionDataHeader (version : Text) : Text :=
  "//! DO NOT EDIT\n".toList ++
  "//! If you want to update this file run:\n".toList ++
  "//! `zig build gen -- --generate-version-data ".toList ++ version ++
    "` (requires an internet connection)\n".toList ++
  "//! GENERATED BY zls_gen\n".toList ++
  "\n".toList ++
  "const Builtin = struct \x7b\n".toList ++
  "    name: []const u8,\n".toList ++
  "    signature: []const u8,\n".toList ++
  "    snippet: []const u8,\n".toList ++
  "    documentation: []const u8,\n".toList ++
  "    arguments: []const []const u8,\n".toList ++
  "\x7d;\n".toList ++
  "\n".toList ++
  "pub const builtins = [_]Builtin\x7b\n".toList

/-- The foot of the file. -/
def versionDataFooter : Text :=
  "\x7d;\n\n// DO NOT EDIT\n".toList

/-- The source file with the builtins of a version. -/
def renderVersionData (builtins : List Builtin) (version : Text) : Text :=
  versionDataHeader version ++ builtins.flatMap renderBuiltin ++ versionDataFooter

end EditorData.ZigSource
