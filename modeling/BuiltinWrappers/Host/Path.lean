/-!
# Joining paths

A relative path is placed under a base with one slash between them, unless the
base is empty or already ends in a slash.  An absolute path stands for itself.
-/

namespace BuiltinWrappers.Path

def isAbsolute (path : String) : Bool := path.toList.head? = some '/'

def join (base path : String) : String :=
  if isAbsolute path then path
  else if base.toList.getLast?.all (· = '/') then base ++ path
  else base ++ "/" ++ path

/-! ## Examples -/

example : join "/opt/chapel" "util/x" = "/opt/chapel/util/x" := by decide

example : join "/opt/chapel/" "util/x" = "/opt/chapel/util/x" := by decide

example : join "" "util/x" = "util/x" := by decide

end BuiltinWrappers.Path
