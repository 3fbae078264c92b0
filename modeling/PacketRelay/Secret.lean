/-
  Secrets, which are never shown.

  `Secret.shown` and `Secret.inspected` are the only texts a log or a dump may hold; both are the
  same for every secret.
-/
namespace PacketRelay

/-- A text that is kept out of logs and dumps. -/
structure Secret where
  exposed : String
deriving DecidableEq

namespace Secret

/-- What is shown instead of the text. -/
def redacted : String := "***REDACTED***"

/-- How a secret is printed and written. -/
def shown (_ : Secret) : String := redacted

/-- How a secret is printed in diagnostics. -/
def inspected (_ : Secret) : String := "SecretString(" ++ redacted ++ ")"

/-- Whether the text is empty. -/
def isEmpty (s : Secret) : Bool := s.exposed.isEmpty

end Secret

end PacketRelay
