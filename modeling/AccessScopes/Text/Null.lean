/-!
# The null character

The system takes a name or a value to end at its first null character, so a text that holds one is
refused wherever it would be handed to the system.
-/

namespace AccessScopes.Text

def hasNull (text : String) : Bool :=
  text.toList.contains '\x00'

/-- What is said of a text that is refused for the null character in it. -/
def nullMessage : String := "embedded null byte"

end AccessScopes.Text
