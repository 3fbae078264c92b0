/-
  What a search finds.

  * `Scanner.sentEvents`, `receivedEvents` and `acknowledgementEvents` are the events of the channel
    among the logs of a chain;
  * `Stands` and `Listed` name the answers of the peers during a search: which sequences have a
    commitment at a block, and which the counterparty lists;
  * `found_sent`: a search for sent packets keeps the events of its range that are open;
  * `found_received`: a search for received packets keeps those that are listed, with the last
    acknowledgement written for them up to the target.
-/
import PacketRelay.Proofs.Discovery.Logs

namespace PacketRelay

open Session

/-! ## Events -/

/-- Whether the event of a packet lies in a range of blocks, both ends included. -/
def Packet.within (first last : Nat) (p : Packet) : Bool :=
  first ≤ p.eventHeight && p.eventHeight ≤ last

theorem Packet.within_iff {first last : Nat} {p : Packet} :
    p.within first last = true ↔ first ≤ p.eventHeight ∧ p.eventHeight ≤ last := by
  simp [within]

/-- All of a list can be read, or an element of it is the reason why not. -/
theorem mapM_cases {ε α β : Type} (f : α → Except ε β) (xs : List α) :
    xs.mapM f = .ok (xs.filterMap fun x => (f x).toOption) ∨
      ∃ x ∈ xs, ∃ e, f x = .error e ∧ xs.mapM f = .error e := by
  induction xs with
  | nil => exact .inl rfl
  | cons x xs ih =>
    rw [List.mapM_cons]
    cases hx : f x with
    | error e => exact .inr ⟨x, List.mem_cons_self, e, hx, rfl⟩
    | ok y =>
      rcases ih with hxs | ⟨x', hx', e, he, hxs⟩
      · rw [hxs, List.filterMap_cons, hx]
        exact .inl rfl
      · rw [hxs]
        exact .inr ⟨x', List.mem_cons_of_mem x hx', e, he, rfl⟩

/-- Reading logs and keeping what belongs to the channel. -/
theorem mapM_filter_cases {ε α β : Type} (f : α → Except ε β) (own : β → Bool) (xs : List α) :
    (do let ys ← xs.mapM f; pure (ys.filter own)) =
        Except.ok ((xs.filterMap fun x => (f x).toOption).filter own) ∨
      ∃ x ∈ xs, ∃ e, f x = .error e ∧
        (do let ys ← xs.mapM f; pure (ys.filter own)) = Except.error e := by
  rcases mapM_cases f xs with h | ⟨x, hx, e, he, h⟩
  · rw [h]
    exact .inl rfl
  · rw [h]
    exact .inr ⟨x, hx, e, he, rfl⟩

theorem mapM_filter_ok {ε α β : Type} {f : α → Except ε β} {own : β → Bool} {xs : List α}
    {ys : List β} (h : (do let zs ← xs.mapM f; pure (zs.filter own)) = Except.ok ys) :
    ys = (xs.filterMap fun x => (f x).toOption).filter own := by
  rcases mapM_filter_cases f own xs with hok | ⟨_, _, _, _, herror⟩
  · exact Except.ok.inj (h.symm.trans hok)
  · cases h.symm.trans herror

/-- Reading events and cutting out a range can be done in either order. -/
theorem filterMap_within {f : Log → Option Packet}
    (hf : ∀ l p, f l = some p → l.block = some p.eventHeight) (logs : List Log)
    (first last : Nat) :
    (logs.filter (Log.within first last)).filterMap f =
      (logs.filterMap f).filter (Packet.within first last) := by
  induction logs with
  | nil => rfl
  | cons l logs ih =>
    cases h : f l with
    | none => by_cases hw : l.within first last = true <;> simp [hw, h, ih]
    | some p =>
      have hp : l.within first last = p.within first last := by
        simp only [Log.within, hf l p h, Packet.within]
      by_cases hw : l.within first last = true
      · have hw' := hp ▸ hw
        simp [hw, hw', h, ih]
      · have hw' := hp ▸ hw
        simp [hw, hw', h, ih]

namespace Scanner

variable (k : Scanner)

/-- The packets sent on the channel. -/
def sentEvents (logs : List Log) : List Packet :=
  (logs.filterMap fun l => (Contract.sentPacket k.path l).toOption).filter fun p =>
    p.sourcePort == k.path.own.port && p.sourceChannel == k.path.own.channel

/-- The packets received on the channel. -/
def receivedEvents (logs : List Log) : List Packet :=
  (logs.filterMap fun l => (Contract.receivedPacket l).toOption).filter fun p =>
    p.destinationPort == k.path.own.port && p.destinationChannel == k.path.own.channel

/-- The acknowledgements written on the channel. -/
def acknowledgementEvents (logs : List Log) : List Contract.Acknowledgement :=
  (logs.filterMap fun l => (Contract.writtenAcknowledgement l).toOption).filter fun a =>
    a.port == k.path.own.port && a.channel == k.path.own.channel

variable {k} {logs : List Log}

theorem sentPackets_ok {ps : List Packet} (h : k.sentPackets logs = .ok ps) :
    ps = k.sentEvents logs := mapM_filter_ok h

theorem receivedPackets_ok {ps : List Packet} (h : k.receivedPackets logs = .ok ps) :
    ps = k.receivedEvents logs := mapM_filter_ok h

theorem acknowledgements_ok {written : List Contract.Acknowledgement}
    (h : k.acknowledgements logs = .ok written) : written = k.acknowledgementEvents logs :=
  mapM_filter_ok h

theorem block_of_heightOf {l : Log} {height : Nat} (h : Contract.heightOf l = .ok height) :
    l.block = some height := by
  cases hb : l.block with
  | none => simp [Contract.heightOf, hb] at h
  | some b => simpa [Contract.heightOf, hb] using h

theorem block_of_sentPacket {path : ChannelPath} {l : Log} {p : Packet}
    (h : (Contract.sentPacket path l).toOption = some p) : l.block = some p.eventHeight := by
  simp only [Contract.sentPacket] at h
  cases ha : Contract.sendPacket.arguments l with
  | error e =>
    rw [ha] at h
    cases h
  | ok v =>
    cases hb : Contract.heightOf l with
    | error e =>
      rw [ha, hb] at h
      cases h
    | ok height =>
      rw [ha, hb] at h
      obtain rfl := Option.some.inj h
      exact block_of_heightOf hb

theorem block_of_receivedPacket {l : Log} {p : Packet}
    (h : (Contract.receivedPacket l).toOption = some p) : l.block = some p.eventHeight := by
  simp only [Contract.receivedPacket] at h
  cases ha : Contract.recvPacket.arguments l with
  | error e =>
    rw [ha] at h
    cases h
  | ok v =>
    cases hb : Contract.heightOf l with
    | error e =>
      rw [ha, hb] at h
      cases h
    | ok height =>
      rw [ha, hb] at h
      obtain rfl := Option.some.inj h
      exact block_of_heightOf hb

theorem sentEvents_within (first last : Nat) :
    k.sentEvents (logs.filter (Log.within first last)) =
      (k.sentEvents logs).filter (Packet.within first last) := by
  simp only [sentEvents]
  rw [filterMap_within fun _ _ => block_of_sentPacket, List.filter_filter, List.filter_filter]
  exact List.filter_congr fun _ _ => Bool.and_comm _ _

theorem receivedEvents_within (first last : Nat) :
    k.receivedEvents (logs.filter (Log.within first last)) =
      (k.receivedEvents logs).filter (Packet.within first last) := by
  simp only [receivedEvents]
  rw [filterMap_within fun _ _ => block_of_receivedPacket, List.filter_filter, List.filter_filter]
  exact List.filter_congr fun _ _ => Bool.and_comm _ _

end Scanner

/-! ## The answers of the peers -/

section
variable {σ : Type} [Node σ] [Counterparty σ]

/-- From `p` on a commitment read at a block, if it can be read, is not zero for exactly the
    sequences that stand. -/
def Stands (k : Scanner) (block : Nat) (stands : Nat → Bool) (p : σ) : Prop :=
  ∀ p', After p p' → ∀ sequence, ∀ answer : Bytes, ∀ c : Hash,
    (Node.reply (.call k.contract (Contract.commitmentInput
      (Contract.commitmentKey k.path.own.port k.path.own.channel sequence)) (some block)) p').1 =
        .ok answer →
    Contract.commitmentOf answer = .ok c → c.isZero = !stands sequence

/-- The query for the packets of a direction that the counterparty has not received. -/
def unreceivedQuery (height : Nat) (sequences : List Nat) : Direction → CounterpartyQuery
  | .sent => .unreceivedPackets height sequences
  | .received => .unreceivedAcknowledgements height sequences

/-- Which sequences an answer lists. -/
def listedIn (height : Nat) (sequences : List Nat) :
    (d : Direction) → (unreceivedQuery height sequences d).Answer → List Nat
  | .sent, listed => listed
  | .received, listed => listed

/-- From `p` on the counterparty, if it answers, lists exactly the sequences that it is asked for
    and that are listed. -/
def Listed (d : Direction) (lists : Nat → Bool) (p : σ) : Prop :=
  ∀ p', After p p' → ∀ height sequences, ∀ answer,
    (Counterparty.reply (unreceivedQuery height sequences d) p').1 = .ok answer →
      ∀ q ∈ sequences, (listedIn height sequences d answer).contains q = lists q

namespace Scanner

variable {k : Scanner} {token : CancelToken} {logs : List Log} {target : Nat} {p : σ}

theorem keepUnreceived_ok {d : Direction} {lists : Nat → Bool} (hl : Listed d lists p)
    {s s' : Session σ} (hs : After p s.peers) {found ps : List Packet}
    (h : run (keepUnreceived token d found) s = (.ok ps, s')) :
    ps = found.filter fun q => lists q.sequence := by
  cases found with
  | nil => exact (Except.ok.inj (congrArg Prod.fst h)).symm
  | cons q found =>
    obtain ⟨height, s₁, hh, h⟩ := run_bind_ok h
    obtain ⟨listed, s₂, ha, h⟩ := run_bind_ok h
    obtain rfl := Except.ok.inj (congrArg Prod.fst h)
    have hs₁ := (guarded_askCounterparty token .latestFinalizedHeight).onlyAsks.after hh hs
    refine List.filter_congr fun r hr => ?_
    cases d with
    | sent =>
      exact hl _ hs₁ height _ listed (askCounterparty_ok ha) _ (List.mem_map_of_mem hr)
    | received =>
      exact hl _ hs₁ height _ listed (askCounterparty_ok ha) _ (List.mem_map_of_mem hr)

/-! ## Sent packets -/

theorem keepCommitted_ok {stands : Nat → Bool} (hc : Stands k target stands p) {s s' : Session σ}
    (hs : After p s.peers) {found ps : List Packet}
    (h : run (k.keepCommitted token target found) s = (.ok ps, s')) :
    ps = found.filter fun q => stands q.sequence := by
  induction found generalizing s s' ps with
  | nil => exact (Except.ok.inj (congrArg Prod.fst h)).symm
  | cons q found ih =>
    obtain ⟨c, s₁, hq, h⟩ := run_bind_ok h
    obtain ⟨more, s₂, hr, h⟩ := run_bind_ok h
    obtain rfl := Except.ok.inj (congrArg Prod.fst h)
    obtain ⟨answer, s₃, ha, hd⟩ := run_bind_ok hq
    have hs₁ := (k.guarded_commitment token q.sequence target).onlyAsks.after hq hs
    have hzero := hc _ hs q.sequence answer c (query_ok ha) (congrArg Prod.fst hd)
    rw [ih hs₁ hr, hzero]
    cases hst : stands q.sequence <;> simp [hst]

/-- Whether a sent packet is open: its commitment stands and it is listed. -/
def isOpen (stands lists : Nat → Bool) (q : Packet) : Bool :=
  stands q.sequence && lists q.sequence

theorem height_guard {keep : Packet → Bool} {q r : Packet} (h : Option.guard keep q = some r) :
    r.eventHeight = q.eventHeight := by
  rw [(Option.guard_eq_some_iff.1 h).1]

/-- Before the counterparty is asked, the events in the range that stand are candidates. -/
theorem candidates_sent_ok {stands : Nat → Bool} (ho : Ordered logs)
    (hx : Exact k.contract Contract.sendPacket.topic logs target p)
    (hc : Stands k target stands p) {m : Nat} {s s₁ : Session σ} (hs : After p s.peers)
    {found : List Packet} (hf : run (k.candidates token .sent m target) s = (.ok found, s₁)) :
    found = ((k.sentEvents logs).filter (Packet.within m target)).filter
      fun q => stands q.sequence := by
  obtain ⟨answer, s₂, hscan, hf⟩ := run_bind_ok hf
  obtain ⟨sent, s₃, hsent, hf⟩ := run_bind_ok hf
  have hs₂ := (k.guarded_scanLogs token Contract.sendPacket m target).onlyAsks.after hscan hs
  have hs₃ : s₃ = s₂ := (congrArg Prod.snd hsent).symm
  rw [← hs₃] at hs₂
  have hsent := sentPackets_ok (congrArg Prod.fst hsent)
  rw [scanLogs_ok ho hx (Nat.le_refl _) hs hscan, sentEvents_within] at hsent
  rw [keepCommitted_ok hc hs₂ hf, hsent]

/-- **What a search for sent packets finds.** -/
theorem found_sent {stands lists : Nat → Bool} (ho : Ordered logs)
    (hx : Exact k.contract Contract.sendPacket.topic logs target p)
    (hc : Stands k target stands p) (hl : Listed .sent lists p) {m : Nat} {s s₁ s₂ : Session σ}
    (hs : After p s.peers) {found ps : List Packet}
    (hf : run (k.candidates token .sent m target) s = (.ok found, s₁))
    (hk : run (keepUnreceived token .sent found) s₁ = (.ok ps, s₂)) :
    ps = ((k.sentEvents logs).filter (Packet.within m target)).filterMap
      (Option.guard (isOpen stands lists)) := by
  have hs₁ := (k.guarded_candidates token .sent m target).onlyAsks.after hf hs
  rw [keepUnreceived_ok hl hs₁ hk, candidates_sent_ok ho hx hc hs hf, List.filterMap_eq_filter,
    List.filter_filter]
  exact List.filter_congr fun _ _ => Bool.and_comm _ _

/-! ## Received packets -/

/-- The acknowledgements written up to a block. -/
def writtenBy (k : Scanner) (logs : List Log) (block : Nat) : List Contract.Acknowledgement :=
  k.acknowledgementEvents (logs.filter (Log.within 0 block))

/-- No packet is acknowledged before it is received. -/
def InOrder (k : Scanner) (received written : List Log) : Prop :=
  ∀ q ∈ k.receivedEvents received, ∀ l ∈ written, ∀ a ∈ k.acknowledgementEvents [l],
    a.sequence = q.sequence → ∀ b ∈ l.block, q.eventHeight ≤ b

/-- What a search keeps of a received packet: the packet with the last of the acknowledgements
    written for it, if it is listed. -/
def receivedAnswer (written : List Contract.Acknowledgement) (lists : Nat → Bool) (q : Packet) :
    Option Packet :=
  if lists q.sequence then acknowledged? written q else none

theorem acknowledged_eq_some {written : List Contract.Acknowledgement} {q r : Packet}
    (h : acknowledged? written q = some r) :
    r.sequence = q.sequence ∧ r.eventHeight = q.eventHeight := by
  obtain ⟨a, -, rfl⟩ := Option.map_eq_some_iff.1 h
  exact ⟨rfl, rfl⟩

theorem height_receivedAnswer {written : List Contract.Acknowledgement} {lists : Nat → Bool}
    {q r : Packet} (h : receivedAnswer written lists q = some r) : r.eventHeight = q.eventHeight := by
  simp only [receivedAnswer] at h
  split_ifs at h
  exact (acknowledged_eq_some h).2

theorem acknowledgementEvents_append (a b : List Log) :
    k.acknowledgementEvents (a ++ b) = k.acknowledgementEvents a ++ k.acknowledgementEvents b := by
  simp [acknowledgementEvents]

theorem mem_acknowledgementEvents {a : Contract.Acknowledgement} :
    a ∈ k.acknowledgementEvents logs ↔ ∃ l ∈ logs, a ∈ k.acknowledgementEvents [l] := by
  induction logs with
  | nil => simp [acknowledgementEvents]
  | cons l logs ih =>
    rw [← List.singleton_append, acknowledgementEvents_append, List.mem_append, ih]
    simp

/-- Acknowledgements from before a packet has been received do not matter. -/
theorem acknowledged_of_le {received written : List Log} (ho : Ordered written)
    (hr : InOrder k received written) {q : Packet} (hq : q ∈ k.receivedEvents received)
    {first last : Nat} (hfirst : first ≤ q.eventHeight) (hlast : first ≤ last) :
    acknowledged? (k.acknowledgementEvents (written.filter (Log.within first last))) q =
      acknowledged? (k.writtenBy written last) q := by
  rw [writtenBy]
  cases first with
  | zero => rfl
  | succ n =>
    rw [← Log.filter_within_append ho (Nat.zero_le (n + 1)) (Nat.le_of_succ_le hlast),
      acknowledgementEvents_append, acknowledged?, acknowledged?, List.reverse_append,
      List.find?_append]
    have hnone : (k.acknowledgementEvents (written.filter (Log.within 0 n))).reverse.find?
        (fun a => a.sequence == q.sequence) = none := by
      refine List.find?_eq_none.2 fun a ha hs => ?_
      obtain ⟨l, hl, ha⟩ := mem_acknowledgementEvents.1 (List.mem_reverse.1 ha)
      obtain ⟨hl, hw⟩ := List.mem_filter.1 hl
      obtain ⟨b, hb, -, hbn⟩ := Log.within_iff.1 hw
      have := hr q hq l hl a ha (by simpa using hs) b hb
      omega
    rw [hnone, Option.or_none]

theorem earliestHeight_le {ps : List Packet} {q : Packet} (hq : q ∈ ps) :
    ∃ e, Packet.earliestHeight? ps = some e ∧ e ≤ q.eventHeight := by
  induction ps with
  | nil => cases hq
  | cons r ps ih =>
    rw [Packet.earliestHeight?]
    rcases List.mem_cons.1 hq with rfl | hq
    · cases Packet.earliestHeight? ps with
      | none => exact ⟨_, rfl, Nat.le_refl _⟩
      | some e => exact ⟨_, rfl, Nat.min_le_left _ _⟩
    · obtain ⟨e, he, hle⟩ := ih hq
      rw [he]
      exact ⟨_, rfl, Nat.le_trans (Nat.min_le_right _ _) hle⟩

theorem earliestHeight_mem {ps : List Packet} {e : Nat} (h : Packet.earliestHeight? ps = some e) :
    ∃ q ∈ ps, q.eventHeight = e := by
  induction ps generalizing e with
  | nil => cases h
  | cons r ps ih =>
    rw [Packet.earliestHeight?] at h
    cases hp : Packet.earliestHeight? ps with
    | none =>
      rw [hp] at h
      exact ⟨r, List.mem_cons_self, Option.some.inj h⟩
    | some e' =>
      rw [hp] at h
      obtain ⟨q, hq, hqe⟩ := ih hp
      rcases Nat.le_total r.eventHeight e' with hle | hle
      · exact ⟨r, List.mem_cons_self, by rw [← Option.some.inj h, Nat.min_eq_left hle]⟩
      · refine ⟨q, List.mem_cons_of_mem _ hq, ?_⟩
        rw [← Option.some.inj h, Nat.min_eq_right hle, hqe]

theorem eq_nil_of_earliestHeight {ps : List Packet} (h : Packet.earliestHeight? ps = none) :
    ps = [] := by
  refine List.eq_nil_iff_forall_not_mem.2 fun q hq => ?_
  obtain ⟨e, he, -⟩ := earliestHeight_le hq
  rw [h] at he
  cases he

/-- It makes no difference to the receipts in a range that acknowledgements are searched from the
    earliest of these receipts only. -/
theorem filterMap_acknowledged {received written : List Log} (ho : Ordered written)
    (hr : InOrder k received written) {first last e : Nat}
    (he : Packet.earliestHeight? ((k.receivedEvents received).filter (Packet.within first last)) =
      some e) :
    ((k.receivedEvents received).filter (Packet.within first last)).filterMap
        (acknowledged? (k.acknowledgementEvents (written.filter (Log.within e last)))) =
      ((k.receivedEvents received).filter (Packet.within first last)).filterMap
        (acknowledged? (k.writtenBy written last)) := by
  obtain ⟨q₀, hq₀, rfl⟩ := earliestHeight_mem he
  refine List.filterMap_congr fun q hq => ?_
  obtain ⟨e, he', hle⟩ := earliestHeight_le hq
  rw [he] at he'
  obtain rfl := Option.some.inj he'
  have hlast := (Packet.within_iff.1 (List.mem_filter.1 hq₀).2).2
  exact acknowledged_of_le ho hr (List.mem_filter.1 hq).1 hle hlast

/-- Before the counterparty is asked, the receipts in the range that are acknowledged up to the target
    are candidates. -/
theorem candidates_received_ok {received written : List Log} (ho : Ordered received)
    (ho' : Ordered written) (hr : InOrder k received written)
    (hx : Exact k.contract Contract.recvPacket.topic received target p)
    (hx' : Exact k.contract Contract.writeAcknowledgement.topic written target p)
    {m : Nat} {s s₁ : Session σ} (hs : After p s.peers) {found : List Packet}
    (hf : run (k.candidates token .received m target) s = (.ok found, s₁)) :
    found = ((k.receivedEvents received).filter (Packet.within m target)).filterMap
      (acknowledged? (k.writtenBy written target)) := by
  obtain ⟨answer, s₂, hscan, hf⟩ := run_bind_ok hf
  obtain ⟨events, s₃, hevents, hf⟩ := run_bind_ok hf
  have hs₂ := (k.guarded_scanLogs token Contract.recvPacket m target).onlyAsks.after hscan hs
  have hs₃ : s₃ = s₂ := (congrArg Prod.snd hevents).symm
  rw [← hs₃] at hs₂
  have hevents := receivedPackets_ok (congrArg Prod.fst hevents)
  rw [scanLogs_ok ho hx (Nat.le_refl _) hs hscan, receivedEvents_within] at hevents
  rw [← hevents]
  cases he : Packet.earliestHeight? events with
  | none =>
    rw [he] at hf
    obtain rfl := Except.ok.inj (congrArg Prod.fst hf)
    rw [eq_nil_of_earliestHeight he]
    rfl
  | some e =>
    rw [he] at hf
    obtain ⟨answer', s₄, hscan', hf⟩ := run_bind_ok hf
    obtain ⟨acks, s₅, hacks, hf⟩ := run_bind_ok hf
    obtain rfl := Except.ok.inj (congrArg Prod.fst hf)
    have hacks := acknowledgements_ok (congrArg Prod.fst hacks)
    rw [scanLogs_ok ho' hx' (Nat.le_refl _) hs₂ hscan'] at hacks
    rw [hevents] at he ⊢
    rw [hacks]
    exact filterMap_acknowledged ho' hr he

/-- **What a search for received packets finds.** -/
theorem found_received {received written : List Log} {lists : Nat → Bool} (ho : Ordered received)
    (ho' : Ordered written) (hr : InOrder k received written)
    (hx : Exact k.contract Contract.recvPacket.topic received target p)
    (hx' : Exact k.contract Contract.writeAcknowledgement.topic written target p)
    (hl : Listed .received lists p) {m : Nat} {s s₁ s₂ : Session σ} (hs : After p s.peers)
    {found ps : List Packet} (hf : run (k.candidates token .received m target) s = (.ok found, s₁))
    (hk : run (keepUnreceived token .received found) s₁ = (.ok ps, s₂)) :
    ps = ((k.receivedEvents received).filter (Packet.within m target)).filterMap
      (receivedAnswer (k.writtenBy written target) lists) := by
  have hs₁ := (k.guarded_candidates token .received m target).onlyAsks.after hf hs
  rw [keepUnreceived_ok hl hs₁ hk, candidates_received_ok ho ho' hr hx hx' hs hf,
    List.filter_filterMap]
  refine List.filterMap_congr fun q _ => ?_
  rw [receivedAnswer]
  cases ha : acknowledged? (k.writtenBy written target) q with
  | none => simp
  | some r =>
    rw [Option.filter_some, (acknowledged_eq_some ha).1]

end Scanner

end

end PacketRelay
