/-!
# Environments

What a program finds under the names of its variables.
-/

namespace Gatehouse

/-- What an environment holds under a name. -/
abbrev Environment := String → Option String

end Gatehouse
