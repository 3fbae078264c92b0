/-
  What the operations of a scanner call.

  All that a search does before it moves its checkpoint, and all that a look at the channel does, is
  guarded by the token, and the peers are only asked (`guarded_candidates`, `guarded_keepUnreceived`,
  `guarded_isChannelOpen`).
-/
import PacketRelay.Discovery.Scan
import PacketRelay.Proofs.Session.Guarded

namespace PacketRelay.Scanner

open Session

variable {σ : Type} [Node σ] [Counterparty σ] (k : Scanner) (token : CancelToken)

/-- The peers are only asked. -/
abbrev Asking (_ : Call) : σ → σ → Prop := After

theorem guarded_query (q : Query) :
    Guarded (σ := σ) token Asking .cancelled (query token q) :=
  .adapt (fun _ => rfl) (.ask q fun _ => .node q .refl)

theorem guarded_askCounterparty (q : CounterpartyQuery) :
    Guarded (σ := σ) token Asking .cancelled (askCounterparty token q) :=
  .askCounterparty q fun _ => .counterparty q .refl

omit [Counterparty σ] in
/-- While windows are read, logs are all that is asked for. -/
theorem guarded_windowLogs_of (allowed : Call → σ → σ → Prop)
    (h : ∀ (q : LogQuery) (p : σ), allowed (.node (.logs q)) p (Node.reply (.logs q) p).2)
    (topic : Hash) (ws : List (Nat × Nat)) :
    Guarded (σ := σ) token allowed .cancelled (k.windowLogs token topic ws) := by
  induction ws with
  | nil => exact .pure []
  | cons w ws ih =>
    exact .bind (.adapt (fun _ => rfl) (.ask _ (h _))) fun _ => .bind ih fun _ => .pure _

theorem guarded_windowLogs (topic : Hash) (ws : List (Nat × Nat)) :
    Guarded (σ := σ) token Asking .cancelled (k.windowLogs token topic ws) :=
  k.guarded_windowLogs_of token Asking (fun _ _ => .node _ .refl) topic ws

theorem guarded_scanLogs (event : Contract.Event) (first last : Nat) :
    Guarded (σ := σ) token Asking .cancelled (k.scanLogs token event first last) :=
  k.guarded_windowLogs token _ _

theorem guarded_commitment (sequence height : Nat) :
    Guarded (σ := σ) token Asking .cancelled (k.commitment token sequence height) :=
  .bind (guarded_query token _) fun _ => .result _

theorem guarded_keepCommitted (height : Nat) (ps : List Packet) :
    Guarded (σ := σ) token Asking .cancelled (k.keepCommitted token height ps) := by
  induction ps with
  | nil => exact .pure []
  | cons p ps ih =>
    exact .bind (k.guarded_commitment token _ _) fun _ => .bind ih fun _ => .pure _

theorem guarded_candidates (d : Direction) (first last : Nat) :
    Guarded (σ := σ) token Asking .cancelled (k.candidates token d first last) := by
  cases d with
  | sent =>
    exact .bind (k.guarded_scanLogs token _ _ _) fun _ => .bind (.result _) fun _ =>
      k.guarded_keepCommitted token _ _
  | received =>
    refine .bind (k.guarded_scanLogs token _ _ _) fun _ => .bind (.result _) fun received => ?_
    cases Packet.earliestHeight? received with
    | none => exact .pure []
    | some earliest =>
      exact .bind (k.guarded_scanLogs token _ _ _) fun _ => .bind (.result _) fun _ => .pure _

theorem guarded_keepUnreceived (d : Direction) (found : List Packet) :
    Guarded (σ := σ) token Asking .cancelled (keepUnreceived token d found) := by
  cases found with
  | nil => exact .pure []
  | cons p ps =>
    refine .bind (guarded_askCounterparty token _) fun _ => .bind ?_ fun _ => .pure _
    cases d <;> exact guarded_askCounterparty token _

theorem guarded_isChannelOpen (height : Option Nat) :
    Guarded (σ := σ) token Asking .cancelled (k.isChannelOpen token height) := by
  have hget : Guarded (σ := σ) token Asking .cancelled
      (get : Run σ DiscoveryError (Session σ)) := .view fun s => .ok s
  refine .bind hget fun s => ?_
  cases s.channelOpen with
  | true => exact .pure _
  | false =>
    refine .bind (guarded_query token _) fun answer => .bind (.result _) fun state => ?_
    cases state with
    | none => exact .fail _
    | some state =>
      dsimp only
      split
      · exact .bind (.remember true) fun _ => .pure _
      · exact .pure _

end PacketRelay.Scanner
