/-
  MmIotEsp32.Umac.Rc.FeedbackCredits

  Which rows the feedback is credited to.
-/
import MmIotEsp32.Umac.Rc.UmacRc
import Mathlib.Algebra.BigOperators.Group.Finset.Piecewise
import Mathlib.Algebra.Order.BigOperators.Group.List

namespace MmIotEsp32.Umac.Rc

open Lib Mmrc

/-! ## What the entries of a chain earn -/

/-- The counters of a row. -/
structure RowCounters where
  sent : U16
  sentSuccess : U16
  backMpduSuccess : U16
  backMpduFailure : U16
  deriving DecidableEq

def rowCounters (row : MmrcStatsTable) : RowCounters :=
  ⟨row.sent, row.sentSuccess, row.backMpduSuccess, row.backMpduFailure⟩

/-- An entry that was attempted: how often, and whether the last attempt ended the frame. -/
structure Attempted where
  rate : MmrcRate
  sent : Nat
  success : Bool
  deriving DecidableEq

/-- The entries that were attempted, of `ind` attempts in all. -/
def attempted : List MmrcRate → Int → List Attempted
  | [], _ => []
  | rate :: rates, ind =>
    if (rate.attempts.toNat : Int) < ind then
      if rate.attempts = 0 then attempted rates ind
      else ⟨rate, rate.attempts.toNat, false⟩ :: attempted rates (ind - rate.attempts.toNat)
    else [⟨rate, ind.toNat, true⟩]

/-- The counters of a row that is credited with an entry. -/
def RowCounters.credit (wasAggregated : Bool) (c : RowCounters) (e : Attempted) : RowCounters :=
  { sent := c.sent + BitVec.ofNat 16 e.sent
    sentSuccess := if e.success then c.sentSuccess + 1 else c.sentSuccess
    backMpduSuccess :=
      if wasAggregated && e.success then c.backMpduSuccess + 1 else c.backMpduSuccess
    backMpduFailure :=
      if wasAggregated then
        c.backMpduFailure + BitVec.ofNat 16 (if e.success then e.sent - 1 else e.sent)
      else c.backMpduFailure }

/-- The counters of the row `k` after the entries that are credited to it. -/
def earned (wasAggregated : Bool) (k : Nat) :
    List (Attempted × Option Nat) → RowCounters → RowCounters
  | [], c => c
  | (e, row) :: entries, c =>
    earned wasAggregated k entries (if row = some k then c.credit wasAggregated e else c)

/-- Some row of the table is the rate. -/
def InTable (caps : MmrcStaCapabilities) (rate : MmrcRate) : Prop :=
  rate.rate ≠ mmrcMcsUnused ∧ ∃ k < rowsFromStaCaps caps, (getRateRow caps k).SameRate rate

/-- The row that an attempted entry is credited to: one that is its rate, and none if the
entry is unused or not in the table. -/
def CreditedTo (caps : MmrcStaCapabilities) (e : Attempted) : Option Nat → Prop
  | some k => k < rowsFromStaCaps caps ∧ e.rate.rate ≠ mmrcMcsUnused
      ∧ (getRateRow caps k).SameRate e.rate
  | none => ¬ InTable caps e.rate

/-- The feedback is credited to the rates that were used. -/
def CreditsUsedRates (tb : MmrcTable) (rates : MmrcRateTable) (retryCount : Int)
    (wasAggregated : Bool) : Prop :=
  ∃ rows, List.Forall₂ (CreditedTo tb.caps) (attempted rates.rates retryCount) rows
    ∧ ∀ k, rowCounters ((mmrcFeedback tb rates retryCount wasAggregated).table k)
      = earned wasAggregated k ((attempted rates.rates retryCount).zip rows)
          (rowCounters (tb.table k))

/-! ## What the feedback credits -/

/-- The row that the feedback takes for an entry. -/
def withIndex (caps : MmrcStaCapabilities) (e : Attempted) : Attempted × Option Nat :=
  (e, some (rateUpdateIndex caps e.rate).index)

theorem rowCounters_modifyRow (tb : MmrcTable) (index k : Nat)
    (f g : MmrcStatsTable → MmrcStatsTable) :
    rowCounters (((tb.modifyRow index f).modifyRow index g).table k)
      = if k = index then rowCounters (g (f (tb.table k))) else rowCounters (tb.table k) := by
  unfold MmrcTable.modifyRow
  dsimp only
  by_cases hk : k = index
  · rw [if_pos hk, if_pos hk, if_pos hk]
  · rw [if_neg hk, if_neg hk, if_neg hk]

theorem rowCounters_failed (wasAggregated : Bool) (row : MmrcStatsTable) (rate : MmrcRate) :
    rowCounters
        { row with
          haveSentAmpdus := row.haveSentAmpdus || wasAggregated
          sent := row.sent + rate.attempts.setWidth 16
          backMpduFailure :=
            if wasAggregated then row.backMpduFailure + rate.attempts.setWidth 16
            else row.backMpduFailure }
      = (rowCounters row).credit wasAggregated ⟨rate, rate.attempts.toNat, false⟩ := by
  unfold rowCounters RowCounters.credit
  cases wasAggregated with
  | false | true => simp

theorem rowCounters_succeeded (wasAggregated : Bool) (row : MmrcStatsTable) (rate : MmrcRate)
    {n : Nat} (hn : 0 < n) :
    rowCounters
        { row with
          haveSentAmpdus := row.haveSentAmpdus || wasAggregated
          sent := row.sent + BitVec.ofInt 16 n
          sentSuccess := row.sentSuccess + 1
          backMpduSuccess :=
            if wasAggregated then row.backMpduSuccess + 1 else row.backMpduSuccess
          backMpduFailure :=
            if wasAggregated then
              row.backMpduFailure + (if 1 < (n : Int) then BitVec.ofInt 16 (n - 1) else 0)
            else row.backMpduFailure }
      = (rowCounters row).credit wasAggregated ⟨rate, n, true⟩ := by
  have hfailed : (if 1 < (n : Int) then BitVec.ofInt 16 (n - 1) else 0)
      = BitVec.ofNat 16 (n - 1) := by
    by_cases hone : 1 < (n : Int)
    · have hsub : (n : Int) - 1 = ((n - 1 : Nat) : Int) := by omega
      rw [if_pos hone, hsub, BitVec.ofInt_natCast]
    · have hsub : n - 1 = 0 := by omega
      rw [if_neg hone, hsub]
      rfl
  unfold rowCounters RowCounters.credit
  rw [hfailed, BitVec.ofInt_natCast]
  cases wasAggregated <;> rfl

variable {entries : List (Attempted × Option Nat)}

theorem earned_cons {wasAggregated : Bool} {k index : Nat} {e : Attempted} {c : RowCounters} :
    earned wasAggregated k ((e, some index) :: entries) c = earned wasAggregated k entries
          (if k = index then c.credit wasAggregated e else c) := by
  show earned wasAggregated k entries (if some index = some k then _ else c) = _
  by_cases h : k = index
  · rw [if_pos h, if_pos (congrArg some h.symm)]
  · rw [if_neg h, if_neg fun h' => h (Option.some.inj h').symm]

theorem credit_zero (wasAggregated : Bool) (c : RowCounters) (rate : MmrcRate) :
    c.credit wasAggregated ⟨rate, 0, false⟩ = c := by
  unfold RowCounters.credit
  have hsent : c.sent + BitVec.ofNat 16 0 = c.sent := BitVec.add_zero _
  have hfailure : c.backMpduFailure + BitVec.ofNat 16 0 = c.backMpduFailure := BitVec.add_zero _
  cases wasAggregated with
  | false | true => simp

theorem rowCounters_mmrcFeedbackLoop (wasAggregated : Bool) (k : Nat) (rates : List MmrcRate)
    (ind : Int) (hind : 0 < ind) (tb : MmrcTable) :
    rowCounters ((mmrcFeedbackLoop wasAggregated rates ind tb).table k)
      = earned wasAggregated k ((attempted rates ind).map (withIndex tb.caps))
          (rowCounters (tb.table k)) := by
  induction rates generalizing ind tb with
  | nil => rfl
  | cons rate rates ih =>
    unfold mmrcFeedbackLoop attempted
    dsimp only
    by_cases hmore : (rate.attempts.toNat : Int) < ind
    · rw [if_pos hmore, if_pos hmore, ih _ (by omega), rowCounters_modifyRow]
      have hrow := rowCounters_failed wasAggregated (tb.table k) rate
      dsimp only at hrow ⊢
      rw [hrow]
      show earned wasAggregated k (List.map (withIndex tb.caps) _) _ = _
      by_cases hzero : rate.attempts = 0
      · have hnat : rate.attempts.toNat = 0 := by rw [hzero]; rfl
        rw [if_pos hzero, hnat, credit_zero, ite_self]
        simp
      · rw [if_neg hzero, List.map_cons]
        exact earned_cons.symm
    obtain ⟨n, rfl⟩ := Int.eq_ofNat_of_zero_le (Int.le_of_lt hind)
    have hrow := rowCounters_succeeded wasAggregated (tb.table k) rate (n := n) (by omega)
    rw [if_neg hmore, if_neg hmore, rowCounters_modifyRow]
    dsimp only at hrow ⊢
    rw [hrow]
    show _ = earned wasAggregated k
      [(⟨rate, n, true⟩, some (rateUpdateIndex tb.caps rate).index)] _
    rw [earned_cons]
    rfl

/-! ## Attempts are conserved -/

/-- The attempts among the entries that are credited to the row `k`. -/
def sentFor (k : Nat) (entries : List (Attempted × Option Nat)) : Nat :=
  (entries.map fun entry => if entry.2 = some k then entry.1.sent else 0).sum

/-- The attempts of all the entries. -/
def sentTotal (entries : List (Attempted × Option Nat)) : Nat :=
  (entries.map fun entry => entry.1.sent).sum

theorem sent_earned (wasAggregated : Bool) (k : Nat) (entries : List (Attempted × Option Nat))
    (c : RowCounters) :
    (earned wasAggregated k entries c).sent = c.sent + BitVec.ofNat 16 (sentFor k entries) := by
  induction entries generalizing c with
  | nil => exact (BitVec.add_zero c.sent).symm
  | cons entry entries ih =>
    obtain ⟨e, row⟩ := entry
    show (earned wasAggregated k entries _).sent = c.sent
      + BitVec.ofNat 16 ((if row = some k then e.sent else 0) + sentFor k entries)
    rw [ih]
    by_cases hrow : row = some k
    · rw [if_pos hrow, if_pos hrow, BitVec.ofNat_add, ← BitVec.add_assoc]
      rfl
    · rw [if_neg hrow, if_neg hrow, Nat.zero_add]

theorem sentFor_le_sentTotal (k : Nat) (entries : List (Attempted × Option Nat)) :
    sentFor k entries ≤ sentTotal entries := by
  induction entries with
  | nil => exact Nat.le_refl 0
  | cons entry entries ih =>
    show (if entry.2 = some k then entry.1.sent else 0) + sentFor k entries
      ≤ entry.1.sent + sentTotal entries
    split <;> omega

theorem sum_sentFor (n : Nat) (entries : List (Attempted × Option Nat)) :
    ∑ k ∈ Finset.range n, sentFor k entries
      = (entries.map fun entry =>
          if ∃ k < n, entry.2 = some k then entry.1.sent else 0).sum := by
  induction entries with
  | nil => simp [sentFor]
  | cons entry entries ih =>
    have hsplit : ∀ k, sentFor k (entry :: entries)
        = (if entry.2 = some k then entry.1.sent else 0) + sentFor k entries := fun _ => rfl
    simp only [hsplit]
    rw [Finset.sum_add_distrib, ih, List.map_cons, List.sum_cons]
    congr 1
    cases hrow : entry.2 with
    | none => simp
    | some index =>
      simp only [Option.some.injEq]
      rw [Finset.sum_ite_eq]
      by_cases hlt : index < n
      · rw [if_pos (Finset.mem_range.mpr hlt), if_pos ⟨index, hlt, rfl⟩]
      · rw [if_neg fun h => hlt (Finset.mem_range.mp h), if_neg]
        rintro ⟨k, hk, rfl⟩
        exact hlt hk

theorem sum_assigned_le (n : Nat) (entries : List (Attempted × Option Nat)) :
    (entries.map fun entry => if ∃ k < n, entry.2 = some k then entry.1.sent else 0).sum
      ≤ sentTotal entries := by
  induction entries with
  | nil => exact Nat.le_refl 0
  | cons entry entries ih =>
    rw [List.map_cons, List.sum_cons]
    show _ ≤ entry.1.sent + sentTotal entries
    split <;> omega

theorem assigned_of_sum_eq {n : Nat} (hpos : ∀ entry ∈ entries, 0 < entry.1.sent)
    (hsum : (entries.map fun entry => if ∃ k < n, entry.2 = some k then entry.1.sent else 0).sum
      = sentTotal entries) : ∀ entry ∈ entries, ∃ k < n, entry.2 = some k := by
  induction entries with
  | nil => exact fun _ h => absurd h List.not_mem_nil
  | cons entry entries ih =>
    rw [List.map_cons, List.sum_cons] at hsum
    change _ = entry.1.sent + sentTotal entries at hsum
    have hle := sum_assigned_le n entries
    have hfirst := hpos entry (List.mem_cons_self ..)
    by_cases hassigned : ∃ k < n, entry.2 = some k
    · rw [if_pos hassigned] at hsum
      intro other hother
      rcases List.mem_cons.mp hother with rfl | hother
      · exact hassigned
      · apply ih (fun e he => hpos e (List.mem_cons_of_mem _ he)) _ other hother
        omega
    · rw [if_neg hassigned] at hsum
      omega

theorem attempted_sent {rates : List MmrcRate} {ind : Int} (hind : 0 < ind) :
    ∀ e ∈ attempted rates ind, 0 < e.sent ∧ e.sent < 8 := by
  induction rates generalizing ind with
  | nil => exact fun _ h => absurd h List.not_mem_nil
  | cons rate rates ih =>
    have hwidth := rate.attempts.isLt
    unfold attempted
    by_cases hmore : (rate.attempts.toNat : Int) < ind
    · rw [if_pos hmore]
      by_cases hzero : rate.attempts = 0
      · rw [if_pos hzero]
        exact ih hind
      rw [if_neg hzero]
      have hpos : 0 < rate.attempts.toNat := by
        apply Nat.pos_of_ne_zero
        intro h
        exact hzero (BitVec.eq_of_toNat_eq h)
      intro e he
      rcases List.mem_cons.mp he with rfl | he
      · exact ⟨hpos, hwidth⟩
      · exact ih (by omega) e he
    rw [if_neg hmore]
    intro e he
    rw [List.mem_singleton] at he
    rw [he]
    constructor
    · show 0 < ind.toNat
      omega
    · show ind.toNat < 8
      omega

theorem length_attempted (rates : List MmrcRate) (ind : Int) :
    (attempted rates ind).length ≤ rates.length := by
  induction rates generalizing ind with
  | nil => exact Nat.le_refl 0
  | cons rate rates ih =>
    unfold attempted
    split
    · split
      · exact Nat.le_succ_of_le (ih ind)
      · exact Nat.succ_le_succ (ih _)
    · exact Nat.succ_le_succ (Nat.zero_le _)

theorem sentTotal_lt {rates : MmrcRateTable} {ind : Int} (hind : 0 < ind)
    (hentries : entries.map Prod.fst = attempted rates.rates ind) : sentTotal entries < 2 ^ 16 := by
  have hlength := length_attempted rates.rates ind
  rw [rates.length_rates, ← hentries, List.length_map] at hlength
  have hbound : ∀ n ∈ entries.map (fun entry => entry.1.sent), n ≤ 7 := by
    intro n hn
    obtain ⟨entry, hentry, rfl⟩ := List.mem_map.mp hn
    have hmem : entry.1 ∈ attempted rates.rates ind := hentries ▸ List.mem_map_of_mem hentry
    have hsent := (attempted_sent hind entry.1 hmem).2
    omega
  have hsum : _ ≤ _ * 7 := List.sum_le_card_nsmul _ 7 hbound
  rw [List.length_map] at hsum
  have hfour : entries.length ≤ 4 := hlength
  unfold sentTotal
  omega

/-! ## Credits and rates -/

theorem InTable.index {caps : MmrcStaCapabilities} (h : caps.Usable) {rate : MmrcRate}
    (hin : InTable caps rate) :
    (rateUpdateIndex caps rate).index < rowsFromStaCaps caps
      ∧ (getRateRow caps (rateUpdateIndex caps rate).index).SameRate rate := by
  obtain ⟨_, k, hk, hsame⟩ := hin
  obtain ⟨hsupports, hguard, _⟩ := getRateRow_supports h hk
  have hrate : caps.Supports rate :=
    ⟨hsame.rate ▸ hsupports.rates, hsame.bw ▸ hsupports.bandwidth,
      hsame.ss ▸ hsupports.spatialStreams, hsame.guard ▸ hsupports.guard⟩
  have hallowed : rate.guard = mmrcGuardShort → caps.sgiPerBw.getLsbD rate.bw = true := by
    rw [← hsame.guard, ← hsame.bw]
    exact hguard
  rw [rateUpdateIndex_eq h]
  dsimp only
  rw [getRateRow_rateIndex h hrate hallowed]
  exact ⟨rateIndex_lt h rate, rfl, rfl, rfl, rfl⟩

theorem creditsUsedRates_iff {tb : MmrcTable} (h : tb.caps.Usable) (rates : MmrcRateTable)
    {retryCount : Int} (hcount : 0 < retryCount) (wasAggregated : Bool) :
    CreditsUsedRates tb rates retryCount wasAggregated
      ↔ ∀ e ∈ attempted rates.rates retryCount, InTable tb.caps e.rate := by
  have hcode := fun k => rowCounters_mmrcFeedbackLoop wasAggregated k rates.rates retryCount
    hcount tb
  constructor
  · intro ⟨rows, hrows, hcounters⟩
    have hlength := hrows.length_eq
    have hfst : ((attempted rates.rates retryCount).zip rows).map Prod.fst
        = attempted rates.rates retryCount := List.map_fst_zip (Nat.le_of_eq hlength)
    have hcodeFst : ((attempted rates.rates retryCount).map (withIndex tb.caps)).map Prod.fst
        = attempted rates.rates retryCount := by
      rw [List.map_map]
      exact List.map_id _
    have hspecTotal := sentTotal_lt hcount hfst
    have hcodeTotal := sentTotal_lt hcount hcodeFst
    -- Every row gets the same number of attempts in both accounts.
    have hsame : ∀ k, sentFor k ((attempted rates.rates retryCount).map (withIndex tb.caps))
        = sentFor k ((attempted rates.rates retryCount).zip rows) := by
      intro k
      have hsent := congrArg RowCounters.sent ((hcode k).symm.trans (hcounters k))
      rw [sent_earned, sent_earned] at hsent
      have hofNat := congrArg BitVec.toNat ((BitVec.add_right_inj _).mp hsent)
      have hcodeLe := sentFor_le_sentTotal k
        ((attempted rates.rates retryCount).map (withIndex tb.caps))
      have hspecLe := sentFor_le_sentTotal k ((attempted rates.rates retryCount).zip rows)
      rw [BitVec.toNat_ofNat, BitVec.toNat_ofNat, Nat.mod_eq_of_lt (by omega),
        Nat.mod_eq_of_lt (by omega)] at hofNat
      exact hofNat
    -- The code credits every attempt to some row, so the other account does too.
    have hsums := Finset.sum_congr rfl fun k (_ : k ∈ Finset.range (rowsFromStaCaps tb.caps)) =>
      hsame k
    rw [sum_sentFor, sum_sentFor] at hsums
    have hcodeAll : ((attempted rates.rates retryCount).map (withIndex tb.caps)).map
        (fun entry => if ∃ k < rowsFromStaCaps tb.caps, entry.2 = some k
          then entry.1.sent else 0)
          = (attempted rates.rates retryCount).map Attempted.sent := by
      rw [List.map_map]
      apply List.map_congr_left
      intro e _
      have hlt : (rateUpdateIndex tb.caps e.rate).index < rowsFromStaCaps tb.caps := by
        rw [rateUpdateIndex_eq h]
        exact rateIndex_lt h e.rate
      exact if_pos ⟨_, hlt, rfl⟩
    have htotal : sentTotal ((attempted rates.rates retryCount).zip rows)
        = ((attempted rates.rates retryCount).map Attempted.sent).sum := by
      conv_rhs => rw [← hfst, List.map_map]
      rfl
    rw [hcodeAll, ← htotal] at hsums
    have hassigned := assigned_of_sum_eq
      (fun entry hentry => (attempted_sent hcount entry.1 (hfst ▸ List.mem_map_of_mem hentry)).1)
      hsums.symm
    intro e he
    rw [← hfst] at he
    obtain ⟨⟨e, row⟩, hentry, rfl⟩ := List.mem_map.mp he
    obtain ⟨k, _, hrow⟩ := hassigned _ hentry
    have hcredited := List.forall₂_zip hrows hentry
    rw [show row = some k from hrow] at hcredited
    exact ⟨hcredited.2.1, k, hcredited.1, hcredited.2.2⟩
  intro hall
  refine ⟨(attempted rates.rates retryCount).map fun e =>
    some (rateUpdateIndex tb.caps e.rate).index, ?_, ?_⟩
  · rw [List.forall₂_map_right_iff]
    apply List.forall₂_same.mpr
    intro e he
    obtain ⟨hlt, hrow⟩ := (hall e he).index h
    exact ⟨hlt, (hall e he).1, hrow⟩
  intro k
  have hzip : (attempted rates.rates retryCount).zip
      ((attempted rates.rates retryCount).map fun e =>
        some (rateUpdateIndex tb.caps e.rate).index)
      = (attempted rates.rates retryCount).map (withIndex tb.caps) := by
    exact List.map_prod_left_eq_zip.symm
  rw [hzip]
  exact hcode k

/-! ## Started tables -/

/-- Of every table that `umac_rc_start` has started and every chain that is reported: the
feedback is credited to the rates that were used exactly when every attempted entry is in
the table. -/
theorem mmrcFeedback_credits_iff {start : RcStart} {tb : MmrcTable}
    (hcaps : umacRcStart start = some tb.caps) (rates : MmrcRateTable) {attempts : U8}
    (hattempts : attempts ≠ 0) (wasAggregated : Bool) :
    CreditsUsedRates tb rates attempts.toNat wasAggregated
      ↔ ∀ e ∈ attempted rates.rates attempts.toNat, InTable tb.caps e.rate := by
  have hcount : (0 : Int) < attempts.toNat := by
    have hne : attempts.toNat ≠ 0 := fun h => hattempts (BitVec.eq_of_toNat_eq h)
    omega
  exact creditsUsedRates_iff (umacRcStart_usable hcaps) rates hcount wasAggregated

instance (a b : MmrcRate) : Decidable (a.SameRate b) :=
  decidable_of_iff (a.rate = b.rate ∧ a.bw = b.bw ∧ a.ss = b.ss ∧ a.guard = b.guard)
    ⟨fun h => ⟨h.1, h.2.1, h.2.2.1, h.2.2.2⟩, fun h => ⟨h.rate, h.bw, h.ss, h.guard⟩⟩

instance (caps : MmrcStaCapabilities) (rate : MmrcRate) : Decidable (InTable caps rate) :=
  inferInstanceAs (Decidable (_ ∧ _))

/-- A peer on a channel of 1 MHz. -/
def narrowStart : RcStart :=
  ⟨⟨true, true, true, false, false, false⟩, true, true, 1, 0, 7⟩

def narrowCaps : MmrcStaCapabilities := ⟨4, 2, 0b00001, 0b0001, 0b00011111111, 0b01, 0⟩

/-- Its table after the start, with a strong signal. -/
def narrowTable : MmrcTable := mmrcStaInit (fun _ => 0) narrowCaps (-60)

/-- The chain of its first frame. -/
def narrowChain (mode : MmwlanMcs10Mode) : MmrcRateTable :=
  (umacRcInitRateTableData (fun _ => 0) ⟨some narrowTable, 0⟩ ⟨none, none, none⟩ mode 1
    ⟨[zeroRate, zeroRate, zeroRate, zeroRate], rfl⟩ false 1200 (fun _ => 0)).2

theorem mmrcFeedback_credits_narrow :
    umacRcStart narrowStart = some narrowCaps
      ∧ CreditsUsedRates narrowTable (narrowChain .disabled) (8 : U8).toNat false := by
  have hstart : umacRcStart narrowStart = some narrowTable.caps := by decide
  have hall : ∀ e ∈ attempted (narrowChain .disabled).rates (8 : U8).toNat,
      InTable narrowTable.caps e.rate := by decide +kernel
  exact ⟨hstart, (mmrcFeedback_credits_iff hstart _ (by decide) false).mpr hall⟩

/-- With MCS10 for retries the last attempts are credited to the row of MCS 7. -/
theorem mmrcFeedback_miscredits_mcs10 :
    umacRcStart narrowStart = some narrowCaps
      ∧ ¬ CreditsUsedRates narrowTable (narrowChain .auto) (8 : U8).toNat false
      ∧ (mmrcFeedback narrowTable (narrowChain .auto) (8 : U8).toNat false).table 7
          ≠ (mmrcFeedback narrowTable (narrowChain .disabled) (8 : U8).toNat false).table 7 := by
  have hstart : umacRcStart narrowStart = some narrowTable.caps := by decide
  refine ⟨hstart, fun h => ?_, fun h => ?_⟩
  · have hiff := creditsUsedRates_iff (umacRcStart_usable hstart) (narrowChain .auto)
      (show (0 : Int) < (8 : U8).toNat by decide) false
    exact absurd (hiff.mp h) (by decide +kernel)
  · exact absurd (congrArg MmrcStatsTable.sent h) (by decide +kernel)

end MmIotEsp32.Umac.Rc
