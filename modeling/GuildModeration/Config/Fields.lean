import GuildModeration.Yaml.Document
import GuildModeration.Yaml.Reading

/-!
# Named fields

Records are written as maps from field names to values. A field may be left out, which means its
default; given twice it is an error, while names that mean nothing to the record may be repeated.
-/

namespace GuildModeration

/-- The entries of a record by name. -/
abbrev Fields (α : Type) := List (String × α)

namespace Fields

variable {α β : Type}

/-- All values given under one of some names. -/
def all (fs : Fields α) (names : List String) : List α :=
  (fs.filter fun f ↦ names.contains f.1).map (·.2)

/-- The value of a field that goes by any of some names, read by `read`, or its default if it is
left out; `none` if it is given twice or cannot be read. -/
def get? (fs : Fields α) (names : List String) (default : β) (read : α → Option β) : Option β :=
  match fs.all names with
  | [] => some default
  | [a] => read a
  | _ => none

/-- The entries that go by none of some names. -/
def without (fs : Fields α) (names : List String) : Fields α :=
  fs.filter fun f ↦ !names.contains f.1

end Fields

end GuildModeration
