/-!
# Templates of configuration files

The files that are written for a start. Every setting in them is there, but commented out.
-/

namespace ContextQuery.Config

/-- The lines of the template for a project. -/
def projectLines : List String :=
  ["# cql project configuration.",
   "#",
   "# Settings here apply to queries parsed from this directory and below. Files",
   "# closer to the working directory override those further up, and ~/.cql.toml",
   "# is consulted last.",
   "",
   "# Stop looking for parent and global configuration files.",
   "root = false",
   "",
   "[parser]",
   "# CQL grammar version: \"1.1\" uses \"scr\" as the server-choice relation, \"1.2\" uses \"=\".",
   "version = \"1.2\"",
   "",
   "# Reject empty terms such as title = \"\".",
   "error_on_empty_term = false",
   "",
   "# Reject quoted index, relation and modifier names such as \"dc.title\" = x.",
   "error_on_quoted_identifier = false",
   "",
   "# Reject a prefix declared twice on one node, or named \"cql\" or \"srw\".",
   "error_on_duplicate_prefix = false",
   "",
   "# Only report a result set id for a boolean query when every clause names the same one.",
   "full_result_set_name_check = true",
   "",
   "# Maximum nesting of parenthesized or prefixed sub-queries.",
   "max_depth = 256",
   "",
   "[prefixes]",
   "# Context sets available to every query without a > declaration.",
   "dc = \"info:srw/cql-context-set/1/dc-v1.1\""]

/-- The lines of the template for the home directory. -/
def globalLines : List String :=
  ["# cql global configuration (~/.cql.toml).",
   "#",
   "# Lowest precedence: any project .cql.toml overrides these values.",
   "",
   "[parser]",
   "version = \"1.2\"",
   "error_on_empty_term = false",
   "error_on_quoted_identifier = false",
   "error_on_duplicate_prefix = false",
   "",
   "[prefixes]",
   "# Context sets you use everywhere.",
   "dc = \"info:srw/cql-context-set/1/dc-v1.1\"",
   "bath = \"http://zing.z3950.org/cql/bath/2.0/\""]

/-- A line as a comment; empty lines and comments stay. -/
def commentOut (line : String) : String :=
  if line.isEmpty || line.toList.head? = some '#' then line else "# " ++ line

/-- The text of a template. -/
def templateText (lines : List String) : String :=
  lines.foldr (fun line text => commentOut line ++ "\n" ++ text) ""

/-- The template for a project. -/
def projectTemplate : String :=
  templateText projectLines

/-- The template for the home directory. -/
def globalTemplate : String :=
  templateText globalLines

end ContextQuery.Config
