/-
  Cancellation by signal or deadline.

  Time is counted in milliseconds.  A `CancelToken` is known by the instants at which it fires: that
  of its signal and that of its deadline, either of which may never come.

  * `check` says what a token reports at an instant;
  * `firing?` is the first instant at which a token fires;
  * `interruption?` says whether a wait is cut short.  A wait that would end at the instant at which
    the token fires is cut short, and a wait of no length never is.
-/
namespace PacketRelay

/-- Milliseconds since the start. -/
abbrev Instant := Nat

/-- Why an operation stopped early. -/
inductive CancelReason where
  /-- The signal was given. -/
  | cancelled
  /-- The deadline passed. -/
  | deadlineExceeded
deriving Repr, DecidableEq

/-- The wording of a reason. -/
def CancelReason.message : CancelReason → String
  | cancelled => "operation cancelled"
  | deadlineExceeded => "deadline exceeded"

/-- A token that can stop operations. -/
structure CancelToken where
  /-- When the signal is given. -/
  signal : Option Instant
  deadline : Option Instant
deriving Repr, DecidableEq

namespace CancelToken

/-- A token that never fires. -/
def never : CancelToken := ⟨none, none⟩

/-- The token with a deadline; an earlier one is kept. -/
def withDeadline (t : CancelToken) (deadline : Instant) : CancelToken :=
  { t with deadline := some (match t.deadline with
    | some existing => min existing deadline
    | none => deadline) }

/-- Why the token has fired by an instant, the signal before the deadline. -/
def check (t : CancelToken) (now : Instant) : Option CancelReason :=
  if t.signal.any (· ≤ now) then some .cancelled
  else if t.deadline.any (· ≤ now) then some .deadlineExceeded
  else none

/-- When the token fires first, and why. -/
def firing? (t : CancelToken) : Option (Instant × CancelReason) :=
  match t.signal, t.deadline with
  | none, none => none
  | some s, none => some (s, .cancelled)
  | none, some d => some (d, .deadlineExceeded)
  | some s, some d => if s ≤ d then some (s, .cancelled) else some (d, .deadlineExceeded)

/-- The instant and reason by which a wait of a length from `now` on is cut short, for a token that
    has not fired yet. -/
def interruption? (t : CancelToken) (now : Instant) (length : Nat) :
    Option (Instant × CancelReason) :=
  if length = 0 then none
  else t.firing?.filter fun (instant, _) => instant ≤ now + length

end CancelToken

end PacketRelay
