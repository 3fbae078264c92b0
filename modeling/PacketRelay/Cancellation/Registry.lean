/-
  Handles that give signals, and the tokens that listen to them.

  A `Registry` lists handles and tokens, which are named by their indices, and keeps the time.  A
  token made from another one listens to the same handle.
-/
import PacketRelay.Cancellation

namespace PacketRelay

/-- A listed token. -/
structure RegisteredToken where
  /-- The handle it listens to. -/
  handle : Option Nat
  deadline : Option Instant

/-- Handles, tokens and the time. -/
structure Registry where
  now : Instant := 0
  /-- When each handle gives its signal. -/
  handles : List (Option Instant) := []
  tokens : List RegisteredToken := []

namespace Registry

/-- The token at an index; there is none that fires elsewhere. -/
def token (r : Registry) (i : Nat) : CancelToken :=
  match r.tokens[i]? with
  | none => .never
  | some t => ⟨t.handle.bind fun h => (r.handles[h]?).join, t.deadline⟩

/-- Adds a token and gives its index. -/
def addToken (r : Registry) (t : RegisteredToken) : Nat × Registry :=
  (r.tokens.length, { r with tokens := r.tokens ++ [t] })

/-- Adds a handle and a token that listens to it. -/
def addPair (r : Registry) : Nat × Registry :=
  { r with handles := r.handles ++ [none] }.addToken ⟨some r.handles.length, none⟩

/-- Adds a token that listens to no handle. -/
def addNever (r : Registry) : Nat × Registry := r.addToken ⟨none, none⟩

/-- Adds a copy of a token. -/
def addClone (r : Registry) (i : Nat) : Nat × Registry :=
  r.addToken ((r.tokens[i]?).getD ⟨none, none⟩)

/-- Adds a copy of a token that also fires some time from now. -/
def addTimeout (r : Registry) (i length : Nat) : Nat × Registry :=
  let t := (r.tokens[i]?).getD ⟨none, none⟩
  r.addToken { t with deadline := ((r.token i).withDeadline (r.now + length)).deadline }

/-- Lets a handle give its signal some time from now; a signal given before counts. -/
def signalAfter (r : Registry) (handle length : Nat) : Registry :=
  let handles := r.handles.modify handle fun s =>
    some (min (s.getD (r.now + length)) (r.now + length))
  { r with handles }

/-- Moves the time to an instant, unless it has passed. -/
def advanceTo (r : Registry) (instant : Instant) : Registry := { r with now := max r.now instant }

/-- Looks at a token. -/
def check (r : Registry) (i : Nat) : Option CancelReason := (r.token i).check r.now

/-- Waits some time under a token. -/
def wait (r : Registry) (i length : Nat) : Except CancelReason Unit × Registry :=
  match r.check i with
  | some reason => (.error reason, r)
  | none => match (r.token i).interruption? r.now length with
    | some (instant, reason) => (.error reason, r.advanceTo instant)
    | none => (.ok (), r.advanceTo (r.now + length))

/-- Waits for a token to fire, for some time at most. -/
def awaitFiring (r : Registry) (i length : Nat) : Option CancelReason × Registry :=
  match r.check i with
  | some reason => (some reason, r)
  | none => match (r.token i).interruption? r.now length with
    | some (instant, reason) => (some reason, r.advanceTo instant)
    | none => (none, r.advanceTo (r.now + length))

end Registry

end PacketRelay
