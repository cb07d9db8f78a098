/-
  MmIotEsp32.Umac.Rc.FailedFrames

  What the feedback makes of a frame that was not acknowledged.
-/
import MmIotEsp32.Umac.Rc.FeedbackCredits

namespace MmIotEsp32.Umac.Rc

open Mmrc

/-! ## The transmit status -/

def mmdrvTxStatusFlagNoAck : U8 := 0x10

def mmdrvTxStatusWasAggregated : U8 := 0x80

/-- The fields of `struct mmdrv_tx_metadata` that the feedback reads. -/
structure TxStatus where
  rcData : MmrcRateTable
  statusFlags : U8
  attempts : U8

/-- The status of a frame that was not acknowledged. -/
structure FailedTx extends TxStatus where
  noAck : statusFlags &&& mmdrvTxStatusFlagNoAck ≠ 0

def TxStatus.wasAggregated (status : TxStatus) : Bool :=
  status.statusFlags &&& mmdrvTxStatusWasAggregated ≠ 0

/-- The attempts of the first entry of the chain. -/
def TxStatus.firstAttempts (status : TxStatus) : Option (BitVec 3) :=
  status.rcData.rates.head?.map fun rate => rate.attempts

/-- `umac_rc_feedback`, with the status as the driver leaves it. -/
def umacRcFeedbackTx (beyond : MmrcRate → U32) (staData : UmacRcStaData) (status : TxStatus)
    (now : U32) : UmacRcStaData :=
  umacRcFeedback beyond staData status.rcData status.attempts status.wasAggregated now

/-- What `umac_rc_feedback` makes of the table, before the update that may be due. -/
def feedbackTable (tb : MmrcTable) (status : TxStatus) : MmrcTable :=
  if status.firstAttempts = some 0 ∨ status.attempts = 0 then tb
  else mmrcFeedback tb status.rcData status.attempts.toNat status.wasAggregated

/-! ## What should be counted -/

/-- `n` attempts, distributed over the entries of a chain: an entry has none before the one
in front of it has had all of its own. -/
structure Distribution (rates : List MmrcRate) (n : Nat) (shares : List Nat) : Prop where
  length : shares.length = rates.length
  total : shares.sum = n
  inOrder : ∀ i j, i < j → 0 < shares.getD j 0 →
    (rates.getD i zeroRate).attempts.toNat ≤ shares.getD i 0

/-- The shares, each with the row of its entry. -/
def shareEntries (caps : MmrcStaCapabilities) (rates : List MmrcRate) (shares : List Nat) :
    List (Attempted × Option Nat) :=
  (rates.zip shares).map fun (rate, share) => withIndex caps ⟨rate, share, false⟩

/-- The frame is counted as failed: no row has a success more, and the rows have exactly the
attempts more, distributed over the chain. -/
structure FailureCounted (tb tb' : MmrcTable) (status : TxStatus) : Prop where
  sentSuccess : ∀ k, (tb'.table k).sentSuccess = (tb.table k).sentSuccess
  backMpduSuccess : ∀ k, (tb'.table k).backMpduSuccess = (tb.table k).backMpduSuccess
  sent : ∃ shares, Distribution status.rcData.rates status.attempts.toNat shares
    ∧ ∀ k, (tb'.table k).sent = (tb.table k).sent
        + BitVec.ofNat 16 (sentFor k (shareEntries tb.caps status.rcData.rates shares))

theorem sentTotal_shareEntries (caps : MmrcStaCapabilities) {rates : List MmrcRate}
    {shares : List Nat} (h : shares.length = rates.length) :
    sentTotal (shareEntries caps rates shares) = shares.sum := by
  unfold sentTotal shareEntries
  rw [List.map_map]
  show ((rates.zip shares).map Prod.snd).sum = shares.sum
  rw [List.map_snd_zip (Nat.le_of_eq h)]

theorem withIndex_row (caps : MmrcStaCapabilities) (e : Attempted) :
    ∃ k < rowsFromStaCaps caps + 1, (withIndex caps e).2 = some k := by
  refine ⟨(rateUpdateIndex caps e.rate).index, ?_, rfl⟩
  show (if rowsFromStaCaps caps ≤ rateIndex caps e.rate then 0 else rateIndex caps e.rate) < _
  split <;> omega

theorem sum_sentFor_eq {n : Nat} {entries : List (Attempted × Option Nat)}
    (h : ∀ entry ∈ entries, ∃ k < n, entry.2 = some k) :
    ∑ k ∈ Finset.range n, sentFor k entries = sentTotal entries := by
  rw [sum_sentFor]
  unfold sentTotal
  congr 1
  exact List.map_congr_left fun entry hentry => if_pos (h entry hentry)

theorem sentTotal_eq_of_counters {caps : MmrcStaCapabilities} {a b : List Attempted}
    {before after : Nat → U16}
    (ha : ∀ k, after k = before k + BitVec.ofNat 16 (sentFor k (a.map (withIndex caps))))
    (hb : ∀ k, after k = before k + BitVec.ofNat 16 (sentFor k (b.map (withIndex caps))))
    (hlta : sentTotal (a.map (withIndex caps)) < 2 ^ 16)
    (hltb : sentTotal (b.map (withIndex caps)) < 2 ^ 16) :
    sentTotal (a.map (withIndex caps)) = sentTotal (b.map (withIndex caps)) := by
  have hrows : ∀ l : List Attempted, ∀ entry ∈ l.map (withIndex caps),
      ∃ k < rowsFromStaCaps caps + 1, entry.2 = some k := by
    intro l entry hentry
    obtain ⟨e, -, rfl⟩ := List.mem_map.mp hentry
    exact withIndex_row caps e
  rw [← sum_sentFor_eq (hrows a), ← sum_sentFor_eq (hrows b)]
  apply Finset.sum_congr rfl
  intro k _
  have heq := congrArg BitVec.toNat ((BitVec.add_right_inj _).mp ((ha k).symm.trans (hb k)))
  have hlea := sentFor_le_sentTotal k (a.map (withIndex caps))
  have hleb := sentFor_le_sentTotal k (b.map (withIndex caps))
  rw [BitVec.toNat_ofNat, BitVec.toNat_ofNat, Nat.mod_eq_of_lt (by omega),
    Nat.mod_eq_of_lt (by omega)] at heq
  exact heq

/-! ## What is counted -/

/-- The attempts of a chain. -/
def chainTotal (rates : List MmrcRate) : Nat := (rates.map fun rate => rate.attempts.toNat).sum

theorem attempted_counts (rates : List MmrcRate) {ind : Int} (hind : 0 < ind) :
    ((attempted rates ind).map Attempted.sent).sum = min ind.toNat (chainTotal rates)
      ∧ ((∃ e ∈ attempted rates ind, e.success = true) ↔ ind ≤ chainTotal rates) := by
  induction rates generalizing ind with
  | nil =>
    refine ⟨(Nat.min_zero _).symm, fun ⟨e, he, _⟩ => absurd he List.not_mem_nil, fun hle => ?_⟩
    have hzero : ind ≤ 0 := hle
    omega
  | cons rate rates ih =>
    have htotal : chainTotal (rate :: rates) = rate.attempts.toNat + chainTotal rates := rfl
    unfold attempted
    rw [htotal]
    by_cases hmore : (rate.attempts.toNat : Int) < ind
    · rw [if_pos hmore]
      obtain ⟨hsum, hsuccess⟩ := @ih (ind - rate.attempts.toNat) (by omega)
      by_cases hzero : rate.attempts = 0
      · have hnat : rate.attempts.toNat = 0 := by
          rw [hzero]
          rfl
        rw [if_pos hzero]
        rw [hnat, Nat.cast_zero, Int.sub_zero] at hsum hsuccess
        rw [hnat, Nat.zero_add]
        exact ⟨hsum, hsuccess⟩
      rw [if_neg hzero]
      constructor
      · rw [List.map_cons, List.sum_cons, hsum]
        show rate.attempts.toNat + _ = _
        omega
      constructor
      · rintro ⟨e, he, hes⟩
        rcases List.mem_cons.mp he with rfl | he
        · cases hes
        · have hle := hsuccess.mp ⟨e, he, hes⟩
          omega
      · intro hle
        obtain ⟨e, he, hes⟩ := hsuccess.mpr (by omega)
        exact ⟨e, List.mem_cons_of_mem _ he, hes⟩
    rw [if_neg hmore]
    constructor
    · show ind.toNat + 0 = _
      omega
    · exact ⟨fun _ => by omega, fun _ => ⟨_, List.mem_singleton_self _, rfl⟩⟩

/-- The successes among the entries that are credited to the row `k`. -/
def successFor (k : Nat) (entries : List (Attempted × Option Nat)) : Nat :=
  entries.countP fun entry => entry.2 = some k && entry.1.success

theorem sentSuccess_earned (wasAggregated : Bool) (k : Nat)
    (entries : List (Attempted × Option Nat)) (c : RowCounters) :
    (earned wasAggregated k entries c).sentSuccess
      = c.sentSuccess + BitVec.ofNat 16 (successFor k entries) := by
  induction entries generalizing c with
  | nil => exact (BitVec.add_zero c.sentSuccess).symm
  | cons entry entries ih =>
    obtain ⟨e, row⟩ := entry
    have hcount : successFor k ((e, row) :: entries)
        = successFor k entries + if (row = some k && e.success) = true then 1 else 0 :=
      List.countP_cons
    show (earned wasAggregated k entries _).sentSuccess = _
    rw [ih, hcount]
    by_cases hrow : row = some k
    · rw [if_pos hrow, decide_eq_true hrow, Bool.true_and]
      show (if e.success then c.sentSuccess + 1 else c.sentSuccess) + _ = _
      cases e.success with
      | false => simp
      | true =>
        simp only [if_true, BitVec.ofNat_add]
        rw [BitVec.add_assoc, BitVec.add_comm 1]
        rfl
    · rw [if_neg hrow, decide_eq_false hrow, Bool.false_and, if_neg (by simp), Nat.add_zero]

theorem eq_zero_of_counter_unchanged {c : U16} {n : Nat} (hn : n < 2 ^ 16)
    (h : c + BitVec.ofNat 16 n = c) : n = 0 := by
  have hzero : BitVec.ofNat 16 n = 0 :=
    (BitVec.add_right_inj c).mp (h.trans (BitVec.add_zero c).symm)
  have hnat := congrArg BitVec.toNat hzero
  rw [BitVec.toNat_ofNat, Nat.mod_eq_of_lt hn] at hnat
  exact hnat

theorem sentSuccess_unchanged_iff {tb : MmrcTable} (rates : MmrcRateTable) {n : Nat} (hn : 0 < n)
    (wasAggregated : Bool) :
    (∀ k, ((mmrcFeedback tb rates n wasAggregated).table k).sentSuccess
        = (tb.table k).sentSuccess)
      ↔ chainTotal rates.rates < n := by
  have hpos : (0 : Int) < n := by omega
  have hlength := length_attempted rates.rates n
  rw [rates.length_rates] at hlength
  have hcode : ∀ k, ((mmrcFeedback tb rates n wasAggregated).table k).sentSuccess
      = (tb.table k).sentSuccess
        + BitVec.ofNat 16 (successFor k ((attempted rates.rates n).map (withIndex tb.caps))) := by
    intro k
    have hcounters := rowCounters_mmrcFeedbackLoop wasAggregated k rates.rates n hpos tb
    exact (congrArg RowCounters.sentSuccess hcounters).trans (sentSuccess_earned ..)
  have hcounts := (attempted_counts rates.rates hpos).2
  constructor
  · intro hsame
    by_contra hle
    obtain ⟨e, he, hsuccess⟩ := hcounts.mpr (by omega)
    -- The row of the success has one more.
    have hrow := hsame (rateUpdateIndex tb.caps e.rate).index
    rw [hcode] at hrow
    have hsmall := List.countP_le_length (p := fun entry : Attempted × Option Nat =>
      entry.2 = some (rateUpdateIndex tb.caps e.rate).index && entry.1.success)
      (l := (attempted rates.rates n).map (withIndex tb.caps))
    rw [List.length_map] at hsmall
    have hfour : mmrcMaxChainLength = 4 := rfl
    have hzero := eq_zero_of_counter_unchanged (by unfold successFor; omega) hrow
    have hnone := List.countP_eq_zero.mp hzero _ (List.mem_map_of_mem he)
    apply hnone
    rw [Bool.and_eq_true, decide_eq_true_eq]
    exact ⟨rfl, hsuccess⟩
  intro hlt k
  rw [hcode]
  have hnone : successFor k ((attempted rates.rates n).map (withIndex tb.caps)) = 0 := by
    apply List.countP_eq_zero.mpr
    intro entry hentry hboth
    obtain ⟨e, he, rfl⟩ := List.mem_map.mp hentry
    rw [Bool.and_eq_true] at hboth
    have hle := hcounts.mp ⟨e, he, hboth.2⟩
    omega
  rw [hnone]
  exact BitVec.add_zero _

theorem success_unchanged_iff (tb : MmrcTable) (status : TxStatus) :
    (∀ k, ((feedbackTable tb status).table k).sentSuccess = (tb.table k).sentSuccess)
      ↔ status.firstAttempts = some 0 ∨ status.attempts = 0
        ∨ chainTotal status.rcData.rates < status.attempts.toNat := by
  unfold feedbackTable
  by_cases hfirst : status.firstAttempts = some 0
  · rw [if_pos (Or.inl hfirst)]
    exact ⟨fun _ => Or.inl hfirst, fun _ _ => rfl⟩
  by_cases hnone : status.attempts = 0
  · rw [if_pos (Or.inr hnone)]
    exact ⟨fun _ => Or.inr (Or.inl hnone), fun _ _ => rfl⟩
  have hpos : 0 < status.attempts.toNat :=
    Nat.pos_of_ne_zero fun h => hnone (BitVec.eq_of_toNat_eq h)
  rw [if_neg (not_or.mpr ⟨hfirst, hnone⟩), sentSuccess_unchanged_iff status.rcData hpos]
  exact ⟨fun h => Or.inr (Or.inr h), fun h => (h.resolve_left hfirst).resolve_left hnone⟩

/-! ## Failed frames -/

theorem sent_feedbackTable (tb : MmrcTable) (status : TxStatus) :
    ∃ entries : List Attempted,
      (∀ k, ((feedbackTable tb status).table k).sent = (tb.table k).sent
          + BitVec.ofNat 16 (sentFor k (entries.map (withIndex tb.caps))))
        ∧ sentTotal (entries.map (withIndex tb.caps))
            ≤ min status.attempts.toNat (chainTotal status.rcData.rates) := by
  unfold feedbackTable
  by_cases hquiet : status.firstAttempts = some 0 ∨ status.attempts = 0
  · rw [if_pos hquiet]
    exact ⟨[], fun k => (BitVec.add_zero _).symm, Nat.zero_le _⟩
  rw [if_neg hquiet]
  have hpos : (0 : Int) < status.attempts.toNat := by
    have hne : status.attempts.toNat ≠ 0 := fun h =>
      (not_or.mp hquiet).2 (BitVec.eq_of_toNat_eq h)
    omega
  refine ⟨attempted status.rcData.rates status.attempts.toNat, fun k => ?_, ?_⟩
  · have hcounters := rowCounters_mmrcFeedbackLoop status.wasAggregated k status.rcData.rates
      status.attempts.toNat hpos tb
    exact (congrArg RowCounters.sent hcounters).trans (sent_earned ..)
  have hsum := (attempted_counts status.rcData.rates hpos).1
  rw [Int.toNat_natCast] at hsum
  unfold sentTotal
  rw [List.map_map]
  exact Nat.le_of_eq hsum

/-- A frame that was not acknowledged is counted as a failure exactly when it reports no
attempts: otherwise one of them is a success, or some are not counted. -/
theorem failure_counted_iff (tb : MmrcTable) (status : FailedTx) :
    FailureCounted tb (feedbackTable tb status.toTxStatus) status.toTxStatus
      ↔ status.attempts = 0 := by
  constructor
  · rintro ⟨hsuccess, -, shares, hshares, hsent⟩
    by_contra hsome
    have hlt := status.attempts.isLt
    have hpos : status.attempts.toNat ≠ 0 := fun h => hsome (BitVec.eq_of_toNat_eq h)
    obtain ⟨entries, hcode, htotal⟩ := sent_feedbackTable tb status.toTxStatus
    -- All the attempts are counted, so the chain has them all and the frame was fed back.
    have hentries : shareEntries tb.caps status.rcData.rates shares
        = ((status.rcData.rates.zip shares).map fun e => (⟨e.1, e.2, false⟩ : Attempted)).map
            (withIndex tb.caps) := by
      rw [List.map_map]
      rfl
    have hall := sentTotal_shareEntries tb.caps hshares.length
    rw [hshares.total] at hall
    rw [hentries] at hall
    have heq := sentTotal_eq_of_counters (fun k => (hsent k).trans (by rw [hentries])) hcode
      (by omega) (by omega)
    rcases (success_unchanged_iff tb status.toTxStatus).mp hsuccess with hfirst | hnone | hbeyond
    · have hsame : feedbackTable tb status.toTxStatus = tb := if_pos (Or.inl hfirst)
      have hempty := @sentTotal_eq_of_counters tb.caps _ [] _ _ hcode
        (fun k => by rw [hsame]; exact (BitVec.add_zero _).symm) (by omega)
        (Nat.two_pow_pos 16)
      have hzero : sentTotal (([] : List Attempted).map (withIndex tb.caps)) = 0 := rfl
      omega
    · exact hsome hnone
    · omega
  intro hnone
  have hsame : feedbackTable tb status.toTxStatus = tb := if_pos (Or.inr hnone)
  rw [hsame]
  have hzeros : ∀ n j, (List.replicate n 0).getD j 0 = 0 := by
    intro n j
    rw [List.getD_eq_getElem?_getD, List.getElem?_replicate]
    split <;> rfl
  refine ⟨fun _ => rfl, fun _ => rfl,
    List.replicate status.rcData.rates.length 0, ⟨List.length_replicate, ?_, ?_⟩, fun k => ?_⟩
  · rw [List.sum_replicate, hnone]
    rfl
  · intro i j _ hpos
    rw [hzeros] at hpos
    exact absurd hpos (Nat.lt_irrefl 0)
  have hle := sentFor_le_sentTotal k (shareEntries tb.caps status.rcData.rates
    (List.replicate status.rcData.rates.length 0))
  rw [sentTotal_shareEntries tb.caps List.length_replicate, List.sum_replicate] at hle
  rw [Nat.le_zero.mp hle]
  exact (BitVec.add_zero _).symm

/-- One attempt that was not acknowledged, on the first chain of the narrow table, is a
success of the row of MCS 7. -/
theorem failed_frame_is_success :
    ¬ FailureCounted narrowTable
        (feedbackTable narrowTable ⟨narrowChain .disabled, mmdrvTxStatusFlagNoAck, 1⟩)
        ⟨narrowChain .disabled, mmdrvTxStatusFlagNoAck, 1⟩
      ∧ ((feedbackTable narrowTable
          ⟨narrowChain .disabled, mmdrvTxStatusFlagNoAck, 1⟩).table 7).sentSuccess = 1 := by
  have hsuccess : ((feedbackTable narrowTable
      ⟨narrowChain .disabled, mmdrvTxStatusFlagNoAck, 1⟩).table 7).sentSuccess = 1 := by
    decide +kernel
  refine ⟨fun h => ?_, hsuccess⟩
  have hsame := h.sentSuccess 7
  rw [hsuccess] at hsame
  exact absurd hsame (by decide +kernel)

end MmIotEsp32.Umac.Rc
