/-
**Ready-made wrappers of sources.**

Each of them makes a new source that asks the inner one. The known names stay those of the inner
source.

* `Wrapper.keep`: leaves the instance as it is;
* `Wrapper.rename` and `Wrapper.rank`: another name or rank;
* `Wrapper.append` and `Wrapper.hide`: other values;
* `Wrapper.strip`: other names.
-/

import LayeredConfig.Source.Basic

namespace LayeredConfig.Source.Wrapper

/-- The instance itself. -/
def keep : Wrapper := fun handle => .existing handle

/-- The source under another name. -/
def rename (name : String) : Wrapper := fun handle => .fresh { handle.source with name }

/-- The source with another rank. -/
def rank (ordinal : Int) : Wrapper := fun handle => .fresh { handle.source with ordinal }

/-- The source with a text behind each of its values. -/
def append (ending : String) : Wrapper := fun handle =>
  .fresh { handle.source with value := fun name => (handle.source.value name).map (· ++ ending) }

/-- The source without a value for one name. -/
def hide (hidden : String) : Wrapper := fun handle =>
  .fresh { handle.source with
    value := fun name => if name = hidden then none else handle.source.value name }

/-- What follows a text at the start of a name. -/
def behind? (start name : String) : Option String :=
  if start.toList.isPrefixOf name.toList then
    some (String.ofList (name.toList.drop start.toList.length))
  else none

/-- The source of which every name begins with a text that the inner source does not know. -/
def strip (start : String) : Wrapper := fun handle =>
  .fresh { handle.source with value := fun name => (behind? start name).bind handle.source.value }

end LayeredConfig.Source.Wrapper
