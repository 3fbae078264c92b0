/-
  Settings that have been written are read.

  * `Represented`: the numbers of settings that have been read are in range;
  * `rewritten_answer`: what is read of the settings for transactions after they have been written.
    Amounts are written as numbers, of which those from `2 ^ 63` on cannot be read.
-/
import PacketRelay.Config.Reading
import PacketRelay.Proofs.Document.Reader
import PacketRelay.Proofs.Json.Exact
import PacketRelay.Proofs.Json.Reading

namespace PacketRelay

/-! ## Ranges -/

/-- Both parts of a fraction are in range. -/
structure Fraction.Represented (f : Fraction) : Prop where
  numerator : f.numerator ≤ countMax
  denominator : f.denominator ≤ countMax

/-- The numbers that say how to wait for a receipt are in range. -/
structure ReceiptSettings.Represented (r : ReceiptSettings) : Prop where
  attempts : r.attempts ≤ smallMax
  intervalSecs : r.intervalSecs ≤ countMax

/-- The numbers that say how to sample fees are in range. -/
structure DynamicFeeSettings.Represented (s : DynamicFeeSettings) : Prop where
  tipRate : s.tipRate.Represented
  baseFeeRate : s.baseFeeRate.Represented
  retries : s.retries ≤ smallMax

/-- The times that say when to replace a transaction are in range. -/
structure ReplaceSettings.Represented (s : ReplaceSettings) : Prop where
  checkSecs : s.checkSecs ≤ countMax
  pendingSecs : s.pendingSecs ≤ countMax

/-- The numbers of settings are in range. -/
structure TransactionSettings.Represented (s : TransactionSettings) : Prop where
  priceBump : ∀ n ∈ s.priceBump, n ≤ countMax
  gasLimit : ∀ n ∈ s.gasLimit, n ≤ countMax
  receipt : s.receipt.Represented
  dynamic : s.dynamic.Represented
  replace : ∀ r ∈ s.replace, r.Represented

section
open Fields Reader

theorem Fraction.yields_represented (form : Notation) :
    (Fraction.reader form).Yields Fraction.Represented := by
  refine Fields.Yields.reader ?_ form
  refine .seq (.map ?_ (yields_required (natural_yields countMax)))
    (yields_required (natural_yields countMax))
  exact fun n hn d hd => ⟨hn, hd⟩

theorem ReceiptSettings.yields_represented (form : Notation) :
    (ReceiptSettings.reader form).Yields ReceiptSettings.Represented := by
  refine Fields.Yields.reader ?_ form
  refine .seq (.map ?_ (yields_defaulted (natural_yields smallMax) (by decide)))
    (yields_defaulted (natural_yields countMax) (by decide))
  exact fun n hn d hd => ⟨hn, hd⟩

theorem Fraction.represented_one : Fraction.one.Represented := ⟨by decide, by decide⟩

theorem DynamicFeeSettings.yields_represented (form : Notation) :
    (DynamicFeeSettings.reader form).Yields DynamicFeeSettings.Represented := by
  refine Fields.Yields.reader ?_ form
  refine .seq (.seq (.seq (.seq (.seq (.map ?_
    (yields_defaulted (yields_trivial _) trivial))
    (yields_defaulted (Fraction.yields_represented form) Fraction.represented_one))
    (yields_defaulted (yields_trivial _) trivial))
    (yields_defaulted (Fraction.yields_represented form) Fraction.represented_one))
    (yields_defaulted (yields_trivial _) trivial))
    (yields_defaulted (natural_yields smallMax) (by decide))
  exact fun _ _ _ htip _ _ _ hbase _ _ _ hretries => ⟨htip, hbase, hretries⟩

theorem ReplaceSettings.yields_represented (form : Notation) :
    (ReplaceSettings.reader form).Yields ReplaceSettings.Represented := by
  refine Fields.Yields.reader ?_ form
  have hwei : ∀ name, (Fields.defaulted name 0 Reader.wei).Yields fun _ => True :=
    fun name => yields_defaulted (yields_trivial _) trivial
  refine .seq (.seq (.seq (.seq (.seq (.seq (.seq (.map ?_
    (yields_required (natural_yields countMax)))
    (yields_required (natural_yields countMax)))
    (hwei _)) (hwei _)) (hwei _)) (hwei _)) (hwei _)) (hwei _)
  exact fun _ hcheck _ hpending _ _ _ _ _ _ _ _ _ _ _ _ => ⟨hcheck, hpending⟩

theorem TransactionSettings.yields_represented (form : Notation) :
    (TransactionSettings.reader form).Yields TransactionSettings.Represented := by
  refine Fields.Yields.reader ?_ form
  refine .seq (.seq (.seq (.seq (.seq (.map ?_
    (yields_defaulted (yields_trivial _) trivial))
    (yields_optional (natural_yields countMax)))
    (yields_optional (natural_yields countMax)))
    (yields_defaulted (ReceiptSettings.yields_represented form) ⟨by decide, by decide⟩))
    (yields_defaulted (DynamicFeeSettings.yields_represented form)
      ⟨Fraction.represented_one, Fraction.represented_one, by decide⟩))
    (yields_optional (ReplaceSettings.yields_represented form))
  exact fun _ _ _ hbump _ hgas _ hreceipt _ hdynamic _ hreplace =>
    ⟨hbump, hgas, hreceipt, hdynamic, hreplace⟩

end

/-! ## Values -/

namespace Json

theorem reread_natural {n : Nat} (h : n ≤ countMax) :
    reread (.natural n) = .integer n := document_integerNumeral_of_le h

/-- A number above 64 bits may be unreadable. -/
theorem reread_natural_cases (n : Nat) :
    reread (.natural n) = .integer n ∨ reread (.natural n) = .unreadable := by
  have hdocument := document_integerNumeral n
  split at hdocument
  · exact .inl hdocument
  · exact .inr hdocument

end Json

theorem Reader.natural_reread {limit n : Nat} (hlimit : limit ≤ countMax) (h : n ≤ limit) :
    Reader.natural limit (Json.reread (.natural n)) = .ok n := by
  rw [Json.reread_natural (Nat.le_trans h hlimit)]
  exact if_pos ⟨Int.natCast_nonneg n, h⟩

/-- Amounts are read as numbers of 64 bits with a sign. -/
def readableAmount (n : Nat) : Option Wei := if n < 1 <<< 63 then some n else none

theorem Reader.wei_reread (n : Nat) :
    Reader.wei (Json.reread (.natural n)) = orMismatch (readableAmount n) := by
  unfold readableAmount
  have hbound : ((1 <<< 63 : Nat) : Int) = 9223372036854775808 := rfl
  by_cases hn : n < 1 <<< 63
  · have hin : ¬ ((n : Int) < -(1 <<< 63 : Nat) ∨ (1 <<< 63 : Nat) ≤ (n : Int)) := by omega
    have hpos : ¬ (n : Int) < 0 := by omega
    have hle : n ≤ countMax := Nat.le_trans (Nat.le_of_lt hn) (by decide)
    rw [Json.reread_natural hle, if_pos hn]
    simp only [Reader.wei, if_neg hin, if_neg hpos]
    rfl
  · have hout : (n : Int) < -(1 <<< 63 : Nat) ∨ (1 <<< 63 : Nat) ≤ (n : Int) := by omega
    rw [if_neg hn]
    rcases Json.reread_natural_cases n with h | h
    · rw [h]
      exact if_pos hout
    · rw [h]
      rfl

theorem Reader.optional_reread {α : Type} {r : Reader α} {f : α → Document} {g : α → Option α}
    (hne : ∀ a, Json.reread (f a) ≠ .null) (h : ∀ a, r (Json.reread (f a)) = orMismatch (g a))
    (a : Option α) : r.optional (Json.reread (.optional f a)) =
      orMismatch (a.elim (some none) fun a => (g a).map some) := by
  cases a with
  | none => rfl
  | some a =>
    change r.optional (Json.reread (f a)) = _
    rw [optional_of_ne r (hne a), h a, map_orMismatch]
    rfl

/-! ## Structures -/

theorem isSome_seq {α β : Type} (g : Option (α → β)) (a : Option α) :
    (g <*> a).isSome = (g.isSome && a.isSome) := by
  cases g <;> cases a <;> rfl

namespace Json

/-- What is read of a number that has been written. -/
def rereadNumber (x : Binary64) : Option Binary64 :=
  match parse (text (.float x)) with
  | some (.float y) => some y
  | _ => none

theorem rereadNumber_short {x : Binary64} (h : IsShortNumber x) : rereadNumber x = some x := by
  obtain ⟨negative, m, p, rfl, hshort⟩ := h
  have hread : reread (.float (.finite negative m p)) = .float (.finite negative m p) :=
    document_short negative hshort
  rw [rereadNumber, parse_text, hread]

/-- A number of 16 digits, 99.99999999999999, is read as 100. -/
example : rereadNumber (.finite false 7036874417766399 1028) =
    some (.finite false 7036874417766400 1028) := by
  rw [rereadNumber, parse_text]
  decide +kernel

end Json

/-- Limits that are read after they have been written. -/
def readableLimit (limit : Option Wei) : Option (Option Wei) :=
  limit.elim (some none) fun n => (readableAmount n).map some

theorem Reader.number_reread {x : Binary64} (hx : x.isFinite = true) :
    Reader.number .json (Json.reread (.float x)) = orMismatch (Json.rereadNumber x) := by
  obtain ⟨negative, m, p, rfl⟩ : ∃ negative m p, x = .finite negative m p := by
    cases x with
    | finite negative m p => exact ⟨negative, m, p, rfl⟩
    | _ => cases hx
  have hreread : Json.reread (.float (.finite negative m p)) =
      (Json.floatNumeral negative m p).document := rfl
  rw [Json.rereadNumber, Json.parse_text, hreread]
  rcases Json.document_floatNumeral negative m p with ⟨y, hy⟩ | hunreadable
  · rw [hy]
    rfl
  · rw [hunreadable]
    rfl

theorem Reader.limit_reread (limit : Option Wei) :
    Reader.wei.optional (Json.reread (.optional .natural limit)) =
      orMismatch (readableLimit limit) := by
  refine optional_reread (fun n hnull => ?_) wei_reread limit
  rcases Json.reread_natural_cases n with h | h <;> rw [h] at hnull <;> cases hnull

theorem Fraction.reader_reread {f : Fraction} (h : f.Represented) :
    Fraction.reader .json (Json.reread f.document) = .ok f := by
  refine Fields.reader_table (a := some f) (by decide) rfl ?_
  have hnumber : ∀ n, n ≤ countMax →
      Reader.natural countMax (Json.reread (.natural n)) = orMismatch (some n) :=
    fun n hn => Reader.natural_reread (Nat.le_refl _) hn
  exact .seq (.map Fraction.mk (Fields.answers_field _ rfl (hnumber _ h.numerator)))
    (Fields.answers_field _ rfl (hnumber _ h.denominator))

namespace DynamicFeeSettings

/-- What is read of settings that have been written. -/
def rewritten (s : DynamicFeeSettings) : Option DynamicFeeSettings :=
  DynamicFeeSettings.mk <$> readableLimit s.tipLimit <*> some s.tipRate
    <*> readableLimit s.feeLimit <*> some s.baseFeeRate
    <*> Json.rereadNumber s.percentile <*> some s.retries

theorem reader_reread {s : DynamicFeeSettings} (h : s.Represented)
    (hfinite : s.percentile.isFinite = true) :
    DynamicFeeSettings.reader .json (Json.reread s.document) = orMismatch s.rewritten := by
  refine Fields.reader_table (by decide) rfl ?_
  have hretries : Reader.natural smallMax (Json.reread (.natural s.retries)) =
      orMismatch (some s.retries) := Reader.natural_reread (by decide) h.retries
  exact .seq (.seq (.seq (.seq (.seq (.map DynamicFeeSettings.mk
    (Fields.answers_field _ rfl (Reader.limit_reread s.tipLimit)))
    (Fields.answers_field _ rfl (Fraction.reader_reread h.tipRate)))
    (Fields.answers_field _ rfl (Reader.limit_reread s.feeLimit)))
    (Fields.answers_field _ rfl (Fraction.reader_reread h.baseFeeRate)))
    (Fields.answers_field _ rfl (Reader.number_reread hfinite)))
    (Fields.answers_field _ rfl hretries)

end DynamicFeeSettings

theorem ReceiptSettings.reader_reread {r : ReceiptSettings} (h : r.Represented) :
    ReceiptSettings.reader .json (Json.reread r.document) = .ok r := by
  refine Fields.reader_table (a := some r) (by decide) rfl ?_
  have hattempts : Reader.natural smallMax (Json.reread (.natural r.attempts)) =
      orMismatch (some r.attempts) := Reader.natural_reread (by decide) h.attempts
  have hinterval : Reader.natural countMax (Json.reread (.natural r.intervalSecs)) =
      orMismatch (some r.intervalSecs) := Reader.natural_reread (Nat.le_refl _) h.intervalSecs
  exact .seq (.map ReceiptSettings.mk (Fields.answers_field _ rfl hattempts))
    (Fields.answers_field _ rfl hinterval)

namespace ReplaceSettings

/-- What is read of settings that have been written. -/
def rewritten (s : ReplaceSettings) : Option ReplaceSettings :=
  (fun checkSecs pendingSecs a b c d e f => ⟨checkSecs, pendingSecs, ⟨a, b, c, d, e, f⟩⟩)
    <$> some s.checkSecs <*> some s.pendingSecs
    <*> readableAmount s.bounds.gasPriceIncrement <*> readableAmount s.bounds.maxGasPrice
    <*> readableAmount s.bounds.tipCapIncrement <*> readableAmount s.bounds.maxTipCap
    <*> readableAmount s.bounds.feeCapIncrement <*> readableAmount s.bounds.maxFeeCap

theorem reader_reread {s : ReplaceSettings} (h : s.Represented) :
    ReplaceSettings.reader .json (Json.reread s.document) = orMismatch s.rewritten := by
  refine Fields.reader_table (by decide) rfl ?_
  have hsecs : ∀ n, n ≤ countMax →
      Reader.natural countMax (Json.reread (.natural n)) = orMismatch (some n) :=
    fun n hn => Reader.natural_reread (Nat.le_refl _) hn
  exact .seq (.seq (.seq (.seq (.seq (.seq (.seq (.map _
    (Fields.answers_field _ rfl (hsecs _ h.checkSecs)))
    (Fields.answers_field _ rfl (hsecs _ h.pendingSecs)))
    (Fields.answers_field _ rfl (Reader.wei_reread _)))
    (Fields.answers_field _ rfl (Reader.wei_reread _)))
    (Fields.answers_field _ rfl (Reader.wei_reread _)))
    (Fields.answers_field _ rfl (Reader.wei_reread _)))
    (Fields.answers_field _ rfl (Reader.wei_reread _)))
    (Fields.answers_field _ rfl (Reader.wei_reread _))

end ReplaceSettings

theorem PricingKind.reader_reread (kind : PricingKind) :
    PricingKind.reader .json (Json.reread kind.document) = .ok kind := by
  cases kind <;> rfl

namespace TransactionSettings

/-- The amounts among the settings. -/
def amounts (s : TransactionSettings) : List Wei :=
  s.dynamic.tipLimit.toList ++ s.dynamic.feeLimit.toList ++
    s.replace.elim [] fun r => [r.bounds.gasPriceIncrement, r.bounds.maxGasPrice,
      r.bounds.tipCapIncrement, r.bounds.maxTipCap, r.bounds.feeCapIncrement, r.bounds.maxFeeCap]

/-- All amounts are below `2 ^ 63`. -/
def AmountsFit (s : TransactionSettings) : Prop := ∀ n ∈ s.amounts, n < (1 <<< 63 : Nat)

/-- The settings with another percentile. -/
def withPercentile (s : TransactionSettings) (x : Binary64) : TransactionSettings :=
  { s with dynamic := { s.dynamic with percentile := x } }

/-- What is read of settings that have been written. -/
def rewritten (s : TransactionSettings) : Option TransactionSettings :=
  TransactionSettings.mk <$> some s.kind <*> some s.priceBump <*> some s.gasLimit
    <*> some s.receipt <*> s.dynamic.rewritten
    <*> s.replace.elim (some none) fun r => r.rewritten.map some

theorem reader_reread {s : TransactionSettings} (h : s.Represented)
    (hfinite : s.dynamic.percentile.isFinite = true) :
    TransactionSettings.reader .json (Json.reread s.document) = orMismatch s.rewritten := by
  refine Fields.reader_table (by decide) rfl ?_
  have hcount : ∀ n : Option Nat, (∀ a ∈ n, a ≤ countMax) →
      (Reader.natural countMax).optional (Json.reread (.optional .natural n)) =
        orMismatch (some n) := by
    intro n hn
    cases n with
    | none => rfl
    | some a =>
      change (Reader.natural countMax).optional (Json.reread (.natural a)) = _
      have hread := Reader.natural_reread (Nat.le_refl _) (hn a rfl)
      rw [Json.reread_natural (hn a rfl)] at hread ⊢
      rw [Reader.optional_of_ne _ (by simp), hread]
      rfl
  have hreplace : (ReplaceSettings.reader .json).optional
      (Json.reread (.optional ReplaceSettings.document s.replace)) =
        orMismatch (s.replace.elim (some none) fun r => r.rewritten.map some) := by
    cases hr : s.replace with
    | none => rfl
    | some r =>
      change (ReplaceSettings.reader .json).optional (Json.reread r.document) = _
      have hne : Json.reread r.document ≠ .null := by
        intro hnull
        cases hnull
      rw [Reader.optional_of_ne _ hne, ReplaceSettings.reader_reread (h.replace r hr),
        map_orMismatch]
      rfl
  exact .seq (.seq (.seq (.seq (.seq (.map TransactionSettings.mk
    (Fields.answers_field _ (a := some s.kind) rfl (PricingKind.reader_reread s.kind)))
    (Fields.answers_field _ rfl (hcount _ h.priceBump)))
    (Fields.answers_field _ rfl (hcount _ h.gasLimit)))
    (Fields.answers_field _ (a := some s.receipt) rfl (ReceiptSettings.reader_reread h.receipt)))
    (Fields.answers_field _ rfl (DynamicFeeSettings.reader_reread h.dynamic hfinite)))
    (Fields.answers_field _ rfl hreplace)

theorem rewritten_of_fit {s : TransactionSettings} (hfit : s.AmountsFit) :
    s.rewritten = (Json.rereadNumber s.dynamic.percentile).map s.withPercentile := by
  have h : ∀ n ∈ s.amounts, readableAmount n = some n := fun n hn => if_pos (hfit n hn)
  clear hfit
  obtain ⟨kind, priceBump, gasLimit, receipt, ⟨tip, tipRate, fee, feeRate, percentile, retries⟩,
    replace⟩ := s
  have hlimit : ∀ limit : Option Wei, (∀ n ∈ limit.toList, readableAmount n = some n) →
      readableLimit limit = some limit := by
    intro limit hall
    cases limit with
    | none => rfl
    | some n => exact congrArg (Option.map some) (hall n (by simp))
  have htip : readableLimit tip = some tip :=
    hlimit tip fun n hn => h n (List.mem_append_left _ (List.mem_append_left _ hn))
  have hfee : readableLimit fee = some fee :=
    hlimit fee fun n hn => h n (List.mem_append_left _ (List.mem_append_right _ hn))
  have hreplace : (replace.elim (some none) fun r => r.rewritten.map some) = some replace := by
    cases replace with
    | none => rfl
    | some r =>
      have hr := fun n hn => h n (List.mem_append_right _ hn)
      simp only [Option.elim, List.forall_mem_cons] at hr
      obtain ⟨h₁, h₂, h₃, h₄, h₅, h₆, -⟩ := hr
      simp only [Option.elim, ReplaceSettings.rewritten, h₁, h₂, h₃, h₄, h₅, h₆]
      rfl
  simp only [rewritten, DynamicFeeSettings.rewritten, htip, hfee, hreplace]
  cases Json.rereadNumber percentile <;> rfl

/-- Only settings whose amounts fit are read. -/
theorem fit_of_rewritten {s : TransactionSettings} (h : s.rewritten.isSome = true) :
    s.AmountsFit := by
  obtain ⟨kind, priceBump, gasLimit, receipt, ⟨tip, tipRate, fee, feeRate, percentile, retries⟩,
    replace⟩ := s
  have hamount : ∀ n : Nat, (readableAmount n).isSome = true → n < 1 <<< 63 := by
    intro n hn
    unfold readableAmount at hn
    split at hn
    · next hlt => exact hlt
    · cases hn
  have hlimit : ∀ limit : Option Wei, (readableLimit limit).isSome = true →
      ∀ n ∈ limit.toList, n < (1 <<< 63 : Nat) := by
    intro limit hsome n hn
    obtain rfl := Option.mem_toList.1 hn
    exact hamount n (by rwa [readableLimit, Option.elim, Option.isSome_map] at hsome)
  simp only [rewritten, DynamicFeeSettings.rewritten, isSome_seq, Option.map_eq_map,
    Option.isSome_map, Bool.and_eq_true] at h
  obtain ⟨⟨-, ⟨⟨⟨⟨htip, -⟩, hfee⟩, -⟩, -⟩, -⟩, hreplace⟩ := h
  intro n hn
  rcases List.mem_append.1 hn with hn | hn
  · exact (List.mem_append.1 hn).elim (hlimit tip htip n) (hlimit fee hfee n)
  · cases replace with
    | none => cases hn
    | some r =>
      simp only [Option.elim, ReplaceSettings.rewritten, isSome_seq, Option.map_eq_map,
        Option.isSome_map, Bool.and_eq_true] at hreplace
      obtain ⟨⟨⟨⟨⟨⟨-, h₁⟩, h₂⟩, h₃⟩, h₄⟩, h₅⟩, h₆⟩ := hreplace
      simp only [Option.elim, List.mem_cons, List.not_mem_nil, or_false] at hn
      rcases hn with rfl | rfl | rfl | rfl | rfl | rfl <;> exact hamount _ ‹_›

/-! ## Texts -/

/-- Settings as a text. -/
def text (s : TransactionSettings) : String := Json.text s.document

/-- Reads settings from a text. -/
def ofText (t : String) : Except DocumentError TransactionSettings :=
  match Json.parse t with
  | some d => TransactionSettings.reader .json d
  | none => .error .mismatch

theorem ofText_text_eq {form : Notation} {d : Document} {s : TransactionSettings}
    (h : TransactionSettings.reader form d = .ok s)
    (hfinite : s.dynamic.percentile.isFinite = true) :
    ofText s.text = orMismatch s.rewritten := by
  have hparse := Json.parse_text s.document
  rw [ofText, text, hparse]
  exact reader_reread (yields_represented form d s h) hfinite

/-- **What is read of settings that have been written.**  They are the same exactly if all amounts
    are below `2 ^ 63` and the percentile is read as it was, which is so if it has few digits; if
    an amount is not, nothing is read. -/
theorem ofText_text {form : Notation} {d : Document} {s : TransactionSettings}
    (h : TransactionSettings.reader form d = .ok s)
    (hfinite : s.dynamic.percentile.isFinite = true) :
    (ofText s.text = .ok s ↔
      s.AmountsFit ∧ Json.rereadNumber s.dynamic.percentile = some s.dynamic.percentile) ∧
    (¬ s.AmountsFit → ofText s.text = .error .mismatch) ∧
    (∀ x, s.AmountsFit → Json.rereadNumber s.dynamic.percentile = some x →
      ofText s.text = .ok (s.withPercentile x)) ∧
    (s.AmountsFit → Json.IsShortNumber s.dynamic.percentile → ofText s.text = .ok s) := by
  have hread := ofText_text_eq h hfinite
  have hfit : ∀ x, s.AmountsFit → Json.rereadNumber s.dynamic.percentile = some x →
      ofText s.text = .ok (s.withPercentile x) := by
    intro x hfit hx
    rw [hread, rewritten_of_fit hfit, hx]
    rfl
  refine ⟨⟨fun hok => ?_, fun hs => hfit _ hs.1 hs.2⟩, fun hnot => ?_, hfit, fun hs hshort => ?_⟩
  · rw [hread] at hok
    cases hr : s.rewritten with
    | none =>
      rw [hr] at hok
      cases hok
    | some t =>
      rw [hr] at hok
      obtain rfl : t = s := Except.ok.inj hok
      have hs := fit_of_rewritten (Option.isSome_of_eq_some hr)
      refine ⟨hs, ?_⟩
      rw [rewritten_of_fit hs] at hr
      obtain ⟨x, hx, hpercentile⟩ := Option.map_eq_some_iff.1 hr
      rw [hx]
      exact congrArg (fun t => some t.dynamic.percentile) hpercentile
  · cases hr : s.rewritten with
    | none => rw [hread, hr]; rfl
    | some t => exact absurd (fit_of_rewritten (Option.isSome_of_eq_some hr)) hnot
  · exact hfit _ hs (Json.rereadNumber_short hshort)

/-- Settings with a limit of `2 ^ 63` wei and a percentile of 50. -/
def largeLimit : TransactionSettings :=
  ⟨.dynamic, none, none, .default,
    ⟨none, .one, some 9223372036854775808, .one, .finite false 7036874417766400 1027, 5⟩, none⟩

/-- How `largeLimit` can be given: the limit as a text. -/
def largeLimitDocument : Document :=
  .table [("dynamic", .table [("limit_fee_per_gas", .text "9223372036854775808"),
    ("fee_history_reward_percentile", .float (.finite false 7036874417766400 1027))])]

theorem reader_largeLimit : TransactionSettings.reader .json largeLimitDocument = .ok largeLimit :=
  rfl

theorem ofText_text_largeLimit_error :
    TransactionSettings.reader .json largeLimitDocument = .ok largeLimit ∧
      largeLimit.dynamic.percentile.isFinite = true ∧
        ofText largeLimit.text = .error .mismatch :=
  ⟨reader_largeLimit, rfl, ofText_text_eq reader_largeLimit rfl⟩

theorem ofText_text_largeLimit :
    TransactionSettings.reader .json largeLimitDocument = .ok largeLimit ∧
      ¬ largeLimit.AmountsFit ∧ ofText largeLimit.text ≠ .ok largeLimit := by
  obtain ⟨hsame, hnot, -⟩ := ofText_text reader_largeLimit rfl
  have hlarge : ¬ largeLimit.AmountsFit := by
    intro hfit
    exact absurd (hfit 9223372036854775808 (by decide)) (by decide)
  refine ⟨reader_largeLimit, hlarge, fun h => ?_⟩
  exact hlarge (hsame.1 h).1

end TransactionSettings

end PacketRelay
