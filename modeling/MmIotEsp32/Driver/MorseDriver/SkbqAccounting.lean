/-
  MmIotEsp32.Driver.MorseDriver.SkbqAccounting

  The accounts of a transmit queue: its octets and its packets.
-/
import MmIotEsp32.Driver.MorseDriver.SkbqMoves

namespace MmIotEsp32.Driver

open Lib

/-! ## The accounts -/

/-- The octets of a list of packets. -/
def octetsOf (l : List TxPkt) : Nat := (l.map fun p => p.dataLength.toNat).sum

/-- The accounts are right: `skbq_size` is the sum of the lengths on the queue;
`__morse_skbq_space` does not underflow; and every packet that was given is once on one of
the lists, or has left once. -/
structure MorseSkbq.Accounts (mq : MorseSkbq) : Prop where
  size : mq.skbqSize.toNat = octetsOf mq.skbq
  space : mq.skbqSize ≤ morseSkbqSize
  conserved : mq.Conserved

theorem octetsOf_cons (p : TxPkt) (l : List TxPkt) :
    octetsOf (p :: l) = p.dataLength.toNat + octetsOf l := rfl

theorem octetsOf_append (l l' : List TxPkt) : octetsOf (l ++ l') = octetsOf l + octetsOf l' := by
  unfold octetsOf
  rw [List.map_append, List.sum_append]

theorem SkbqMove.accounts {mq mq' : MorseSkbq} (h : SkbqMove mq mq') (ha : mq.Accounts) :
    mq'.Accounts := by
  have hsize := ha.size
  have hspace : mq.skbqSize.toNat ≤ 524288 := ha.space
  have hc := h.conserved ha.conserved
  cases h with
  | take p rest hskbq =>
    rw [hskbq, octetsOf_cons] at hsize
    have hsub : (mq.skbqSize - p.dataLength).toNat = octetsOf rest := by
      rw [BitVec.toNat_sub_of_le (BitVec.le_def.mpr (by omega))]
      omega
    refine ⟨hsub, ?_, hc⟩
    show (mq.skbqSize - p.dataLength).toNat ≤ 524288
    omega
  | complete | fail q | finish before behind p x hpending hx => exact ⟨ha.size, ha.space, hc⟩

theorem SkbqMoves.accounts {mq mq' : MorseSkbq} (h : SkbqMoves mq mq') (ha : mq.Accounts) :
    mq'.Accounts :=
  h.keeps (fun _ _ hmove ha => hmove.accounts ha) ha

/-! ## What the accounts need -/

/-- The bad cases: a packet comes back to a queue without room for it; the queue is flushed
while packets wait; a packet is refused while others are pending, or a command is refused. -/
def SkbqAccountsOk (mq : MorseSkbq) : SkbqEvent → Prop
  | .mmpktTx mmpkt channel now => ∀ p, morseSkbqFrame mmpkt channel now = .ok p →
      morseSkbqFull mq p = true → mq.pending = [] ∧ mq.isCommand = false
  | .txStatus txSts _ => ∀ p, mq.TakesBack txSts p →
      mq.skbqSize.toNat + p.dataLength.toNat ≤ morseSkbqSize.toNat
  | .txFlush => mq.skbqSize = 0
  | _ => True

/-- The failure path looks for a packet on a list it is not on. -/
def SkbqListsOk (mq : MorseSkbq) (e : SkbqEvent) : Prop := skbqStep mq e ≠ .error .notOnList

variable {mq : MorseSkbq}

theorem conserved_count (hc : mq.Conserved) (p : TxPkt) : ((mq.count p).given : Multiset Nat)
      = mq.held.map TxPkt.addr + ↑(mq.gone.map TxPktGone.addr) + {p.addr} := by
  show ((mq.given ++ [p.addr] : List Nat) : Multiset Nat) = _
  rw [← Multiset.coe_add, hc, Multiset.coe_singleton]

theorem accounts_put (ha : mq.Accounts) {p : TxPkt}
    (hroom : morseSkbqFull mq p = false) : (mq.put p).Accounts := by
  have hsize := ha.size
  have hspace : mq.skbqSize.toNat ≤ 524288 := ha.space
  have hfits : p.dataLength.toNat ≤ 524288 - mq.skbqSize.toNat := by
    have hle : p.dataLength ≤ morseSkbqSpace mq := by simpa [morseSkbqFull] using hroom
    rw [BitVec.le_def] at hle
    unfold morseSkbqSpace at hle
    rw [BitVec.toNat_sub_of_le ha.space] at hle
    exact hle
  have hadd : (mq.skbqSize + p.dataLength).toNat = mq.skbqSize.toNat + p.dataLength.toNat := by
    rw [BitVec.toNat_add, Nat.mod_eq_of_lt (by omega)]
  refine ⟨?_, ?_, ?_⟩
  · show (mq.skbqSize + p.dataLength).toNat = octetsOf (mq.skbq ++ [mq.numbered p])
    rw [hadd, octetsOf_append, hsize]
    rfl
  · show (mq.skbqSize + p.dataLength).toNat ≤ 524288
    omega
  have hheld : (mq.put p).held = mq.numbered p ::ₘ mq.held := by
    show (↑(mq.skbq ++ [mq.numbered p]) : Multiset TxPkt) + ↑mq.pending + ↑mq.taken = _
    rw [← Multiset.coe_add, Multiset.coe_singleton, ← Multiset.singleton_add]
    unfold MorseSkbq.held
    ac_rfl
  unfold MorseSkbq.Conserved
  rw [hheld, Multiset.map_cons, ← Multiset.singleton_add]
  refine (conserved_count ha.conserved p).trans ?_
  show _ = {p.addr} + mq.held.map TxPkt.addr + ↑(mq.gone.map TxPktGone.addr)
  ac_rfl

theorem accounts_refuse (ha : mq.Accounts) (p : TxPkt) : (mq.refuse p).Accounts := by
  refine ⟨ha.size, ha.space, ?_⟩
  refine (conserved_count ha.conserved p).trans ?_
  show _ = mq.held.map TxPkt.addr
    + ((mq.gone ++ [TxPktGone.released (mq.numbered p)]).map TxPktGone.addr : Multiset Nat)
  rw [List.map_append, ← Multiset.coe_add, add_assoc]
  rfl

theorem not_accounts_count (ha : mq.Accounts) (p : TxPkt) : ¬ (mq.count p).Accounts := by
  intro h
  have hcount := (conserved_count ha.conserved p).symm.trans h.conserved
  have hcard := congrArg Multiset.card hcount
  rw [Multiset.card_add, Multiset.card_singleton] at hcard
  exact absurd hcard (Nat.succ_ne_self _)

theorem accounts_putBack_iff (ha : mq.Accounts) {p : TxPkt}
    {before behind : List TxPkt} (hpending : mq.pending = before ++ p :: behind) :
    (mq.putBack p (before ++ behind)).Accounts
      ↔ mq.skbqSize.toNat + p.dataLength.toNat ≤ morseSkbqSize.toNat := by
  have hoctets : octetsOf (mq.putBack p (before ++ behind)).skbq
      = mq.skbqSize.toNat + p.dataLength.toNat := by
    rw [ha.size]
    unfold MorseSkbq.putBack
    dsimp only
    split
    · rw [octetsOf_append]
      rfl
    · rw [octetsOf_cons, Nat.add_comm]
  have hspace : mq.skbqSize.toNat ≤ 524288 := ha.space
  have hmax : morseSkbqSize.toNat = 524288 := rfl
  constructor
  · intro h
    have hsize := h.size
    have hle : (mq.putBack p (before ++ behind)).skbqSize.toNat ≤ 524288 := h.space
    rw [hoctets] at hsize
    omega
  intro h
  have hadd : (mq.skbqSize + p.dataLength).toNat = mq.skbqSize.toNat + p.dataLength.toNat := by
    rw [BitVec.toNat_add, Nat.mod_eq_of_lt (by omega)]
  refine ⟨hadd.trans hoctets.symm, ?_, ?_⟩
  · show (mq.skbqSize + p.dataLength).toNat ≤ 524288
    omega
  · unfold MorseSkbq.Conserved
    rw [held_putBack hpending]
    exact ha.conserved

theorem accounts_flush_iff (ha : mq.Accounts) :
    (morseSkbqTxFlush mq).Accounts ↔ mq.skbqSize = 0 := by
  constructor
  · intro h
    exact BitVec.eq_of_toNat_eq h.size
  intro h
  refine ⟨?_, ha.space, ?_⟩
  · show mq.skbqSize.toNat = 0
    rw [h]
    rfl
  have hc := ha.conserved
  unfold MorseSkbq.Conserved MorseSkbq.held at hc ⊢
  show (mq.given : Multiset Nat) = _
  rw [hc]
  unfold morseSkbqTxFlush
  dsimp only
  rw [List.map_append, List.map_append, List.map_map, List.map_map, ← Multiset.coe_add,
    ← Multiset.coe_add, Multiset.map_add, Multiset.map_add, Multiset.map_add,
    Multiset.map_add, Multiset.map_coe, Multiset.map_coe]
  have hreleased : TxPktGone.addr ∘ TxPktGone.released = TxPkt.addr := rfl
  rw [hreleased]
  simp only [Multiset.coe_nil, Multiset.map_zero, zero_add, Multiset.map_coe]
  ac_rfl

instance : (mq : MorseSkbq) → (e : SkbqEvent) → Decidable (SkbqAccountsOk mq e)
  | mq, .mmpktTx mmpkt channel now =>
    match h : morseSkbqFrame mmpkt channel now with
    | .error _ => isTrue fun _ hframe => absurd (h.symm.trans hframe) (by simp)
    | .ok p =>
      decidable_of_iff (morseSkbqFull mq p = true → mq.pending = [] ∧ mq.isCommand = false)
        ⟨fun hok _ hframe => by
          obtain rfl := Except.ok.inj (h.symm.trans hframe)
          exact hok, fun hok => hok p h⟩
  | mq, .txStatus txSts _ =>
    decidable_of_iff (∀ p ∈ mq.pending, mq.TakesBack txSts p →
        mq.skbqSize.toNat + p.dataLength.toNat ≤ morseSkbqSize.toNat)
      ⟨fun hok p hp => hok p hp.mem_pending.1 hp, fun hok p _ hp => hok p hp⟩
  | mq, .txFlush => inferInstanceAs (Decidable (mq.skbqSize = 0))
  | _, .deq _ | _, .deqNumItems _ | _, .txComplete | _, .txFailed _ | _, .checkForStaleTx _ =>
    isTrue trivial

/-! ## Every run -/

theorem listsOk_of_accountsOk {e : SkbqEvent} (hd : mq.Distinct)
    (hcaller : SkbqCallerOk mq e) (hok : SkbqAccountsOk mq e) : SkbqListsOk mq e := by
  intro herror
  cases e with
  | mmpktTx mmpkt channel now =>
    change morseSkbqMmpktTx mq mmpkt channel now = _ at herror
    rw [morseSkbqMmpktTx_eq mq hcaller] at herror
    cases hframe : morseSkbqFrame mmpkt channel now with
    | error a =>
      rw [hframe, exceptBind_error] at herror
      have hsame : a = .notOnList := Except.error.inj herror
      rw [morseSkbqFrame_error hframe] at hsame
      exact absurd hsame (by decide)
    | ok p =>
      rw [hframe, exceptBind_ok] at herror
      cases hfull : morseSkbqFull mq p with
      | false =>
        rw [if_pos hfull] at herror
        exact absurd herror (by simp)
      | true =>
        obtain ⟨hpending, hdata⟩ := hok p hframe hfull
        rw [if_neg (by simp [hfull]), if_neg (not_not.mpr hpending), if_pos hdata] at herror
        exact absurd herror (by simp)
  | txStatus txSts now =>
    change morseSkbqTxStatusProcess mq txSts now = _ at herror
    rcases morseSkbqTxStatusProcess_cases hd txSts now with
      ⟨_, _, _, _, _, _, _, _, hstep⟩ | ⟨_, ⟨_, hstep, _⟩ | hstep⟩
    · rw [hstep] at herror
      exact absurd herror (by simp)
    · rw [hstep] at herror
      exact absurd herror (by simp)
    · rw [hstep] at herror
      exact absurd herror (by simp)
  | checkForStaleTx now =>
    change morseSkbqCheckForStaleTx mq now = _ at herror
    obtain ⟨_, hstep, _⟩ :=
      morseSkbqCheckForStaleTxLoop_moves now hd (fun _ h => h) hd.pending
    unfold morseSkbqCheckForStaleTx at herror
    rw [hstep] at herror
    exact absurd herror (by simp)
  | deq | deqNumItems | txComplete | txFailed | txFlush => exact absurd herror (by simp [skbqStep])

theorem skbqNext_accounts_iff {e : SkbqEvent} (hd : mq.Distinct)
    (ha : mq.Accounts) (hcaller : SkbqCallerOk mq e) :
    (SkbqListsOk mq e ∧ ∀ mq', skbqNext mq e = some mq' → mq'.Accounts) ↔ SkbqAccountsOk mq e := by
  have hback : ∀ {p : TxPkt} {before behind : List TxPkt} {gone : List TxPktGone},
      SkbqMoves mq { mq with pending := before ++ p :: behind, gone := gone } →
      ((MorseSkbq.putBack { mq with pending := before ++ p :: behind, gone := gone } p
          (before ++ behind)).Accounts
        ↔ mq.skbqSize.toNat + p.dataLength.toNat ≤ morseSkbqSize.toNat) := by
    intro p before behind gone hmoves
    exact accounts_putBack_iff (hmoves.accounts ha) rfl
  constructor
  · intro ⟨hlists, hnext⟩
    cases e with
    | mmpktTx mmpkt channel now =>
      intro p hframe hfull
      have hstep : skbqStep mq (.mmpktTx mmpkt channel now) = morseSkbqMmpktTx mq mmpkt channel now :=
        rfl
      rw [morseSkbqMmpktTx_eq mq hcaller, hframe, exceptBind_ok, hfull,
        if_neg (by simp)] at hstep
      by_cases hpending : mq.pending = []
      · rw [if_neg (not_not.mpr hpending)] at hstep
        refine ⟨hpending, ?_⟩
        by_contra hcommand
        rw [if_neg hcommand] at hstep
        by_cases hskbq : mq.skbq = []
        · rw [if_neg (not_not.mpr hskbq)] at hstep
          apply not_accounts_count ha p
          apply hnext
          unfold skbqNext
          rw [hstep]
          rfl
        · rw [if_pos hskbq] at hstep
          exact absurd hstep hlists
      · rw [if_pos hpending] at hstep
        exact absurd hstep hlists
    | txStatus txSts now =>
      intro q hq
      rcases morseSkbqTxStatusProcess_cases hd txSts now with
        ⟨p, before, behind, pending, gone, htakes, hmoves, hpending, hok⟩ | ⟨hnone, _⟩
      · subst hpending
        obtain rfl := Option.some.inj (hq.2.2.2.2.symm.trans htakes.2.2.2.2)
        apply (hback hmoves).mp
        apply hnext
        show (morseSkbqTxStatusProcess mq txSts now).toOption = _
        rw [hok]
        rfl
      · exact absurd hq (hnone q)
    | txFlush => exact (accounts_flush_iff ha).mp (hnext _ rfl)
    | _ => trivial
  intro hok
  refine ⟨listsOk_of_accountsOk hd hcaller hok, ?_⟩
  · intro mq' h
    cases skbqNext_effect hd hcaller h with
    | moves h => exact SkbqMoves.accounts h ha
    | put _ hroom => exact accounts_put ha hroom
    | refuse => exact accounts_refuse ha _
    | lose hframe hfull hcommand =>
      have hdata := (hok _ hframe hfull).2
      rw [hcommand] at hdata
      exact absurd hdata (by simp)
    | putBack htakes hmoves => exact (hback hmoves).mpr (hok _ htakes)
    | flush => exact (accounts_flush_iff ha).mpr hok

theorem morseSkbqInit_accounts (kind : SkbqKind) : (morseSkbqInit kind).Accounts :=
  ⟨rfl, by show (0 : U32) ≤ morseSkbqSize; decide, rfl⟩

/-- Of every run: the accounts are right in every state, no packet is on two lists, and no
event looks for a packet on a list it is not on, exactly when no event is a bad case. -/
theorem skbq_accounts_iff (kind : SkbqKind) (es : List SkbqEvent)
    (hcaller : Along skbqNext SkbqCallerOk (morseSkbqInit kind) es) :
    (Throughout skbqNext (fun mq => mq.Accounts ∧ mq.Distinct) (morseSkbqInit kind) es
        ∧ Along skbqNext SkbqListsOk (morseSkbqInit kind) es)
      ↔ Along skbqNext SkbqAccountsOk (morseSkbqInit kind) es := by
  have hdistinct : Throughout skbqNext MorseSkbq.Distinct (morseSkbqInit kind) es :=
    throughout_of_step (fun _ _ _ hd hcaller h => skbqNext_distinct hd hcaller h)
      (morseSkbqInit_distinct kind) hcaller
  have hiff := throughout_and_along_iff (P := SkbqListsOk) (C := SkbqAccountsOk)
    (fun _ _ _ hd hcaller h => skbqNext_distinct hd hcaller h)
    (fun _ _ hd ha hcaller => skbqNext_accounts_iff hd ha hcaller)
    (morseSkbqInit_accounts kind) (morseSkbqInit_distinct kind) hcaller
  constructor
  · intro h
    exact hiff.mp ⟨h.1.mono fun _ h => h.1, h.2⟩
  · intro h
    obtain ⟨haccounts, hlists⟩ := hiff.mpr h
    exact ⟨haccounts.and hdistinct, hlists⟩

instance (mq : MorseSkbq) : Decidable mq.Accounts :=
  decidable_of_iff (mq.skbqSize.toNat = octetsOf mq.skbq ∧ mq.skbqSize ≤ morseSkbqSize
      ∧ (mq.given : Multiset Nat) = mq.held.map TxPkt.addr + ↑(mq.gone.map TxPktGone.addr))
    ⟨fun h => ⟨h.1, h.2.1, h.2.2⟩, fun h => ⟨h.size, h.space, h.conserved⟩⟩

instance (mq : MorseSkbq) : Decidable mq.Distinct :=
  inferInstanceAs (Decidable (Multiset.Nodup (mq.held.map TxPkt.addr)))

instance (mq : MorseSkbq) (e : SkbqEvent) : Decidable (SkbqListsOk mq e) :=
  match h : skbqStep mq e with
  | .ok _ => isTrue fun hne => absurd (h.symm.trans hne) (by simp)
  | .error a => decidable_of_iff (a ≠ .notOnList) (by
      unfold SkbqListsOk
      rw [h]
      simp)

/-- A packet is sent, comes back, is sent again, and reported. -/
theorem skbq_accounts_psFiltered :
    Throughout skbqNext (fun mq => mq.Accounts ∧ mq.Distinct) (morseSkbqInit (.data 0))
        [.mmpktTx (barePkt 1 60) morseSkbChanData 0, .deqNumItems 1, .txComplete,
          .txStatus (psFilteredStatus 0) 0, .deqNumItems 1, .txComplete,
          .txStatus ⟨0, 0, 0, morseSkbChanData, []⟩ 0]
      ∧ Along skbqNext SkbqListsOk (morseSkbqInit (.data 0))
        [.mmpktTx (barePkt 1 60) morseSkbChanData 0, .deqNumItems 1, .txComplete,
          .txStatus (psFilteredStatus 0) 0, .deqNumItems 1, .txComplete,
          .txStatus ⟨0, 0, 0, morseSkbChanData, []⟩ 0] :=
  (skbq_accounts_iff _ _ (by decide +kernel)).mpr (by decide +kernel)

/-- A packet of 60 octets is pending, the queue holds one of 524200. -/
def fullQueue : List SkbqEvent :=
  [.mmpktTx (barePkt 1 60) morseSkbChanData 0, .deqNumItems 1, .txComplete,
    .mmpktTx (barePkt 2 524200) morseSkbChanData 0]

/-- The accounts after a flush and after a packet has come back to a full queue, and the
failure path of a full queue. -/
theorem skbq_accounts_wrong :
    ¬ Throughout skbqNext MorseSkbq.Accounts (morseSkbqInit (.data 0))
        [.mmpktTx (barePkt 1 60) morseSkbChanData 0, .txFlush]
      ∧ ¬ Throughout skbqNext MorseSkbq.Accounts (morseSkbqInit (.data 0))
        (fullQueue ++ [.txStatus (psFilteredStatus 0) 0])
      ∧ ¬ Along skbqNext SkbqListsOk (morseSkbqInit (.data 0))
        (fullQueue ++ [.mmpktTx (barePkt 3 60) morseSkbChanData 0]) := by
  decide +kernel

end MmIotEsp32.Driver
