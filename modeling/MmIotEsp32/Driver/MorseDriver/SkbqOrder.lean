/-
  MmIotEsp32.Driver.MorseDriver.SkbqOrder

  The order of a transmit queue.
-/
import MmIotEsp32.Driver.MorseDriver.SkbqMoves

namespace MmIotEsp32.Driver

open Lib

/-! ## Ids -/

/-- The id of a packet. -/
def TxPkt.id (p : TxPkt) : U32 := p.hdr.pktId

/-- No two packets of a queue have one id, and the next id is a new one. -/
structure MorseSkbq.Numbered (mq : MorseSkbq) : Prop where
  distinct : mq.Distinct
  seq : mq.pktSeq = BitVec.ofNat 32 mq.given.length
  below : ∀ p ∈ mq.held, p.id.toNat < mq.given.length
  ids : (mq.held.map TxPkt.id).Nodup

def SkbqEvent.isMmpktTx : SkbqEvent → Bool
  | .mmpktTx _ _ _ => true
  | _ => false

/-- The callers keep to the rules, and the ids have not run out. -/
def SkbqFewPackets (mq : MorseSkbq) (e : SkbqEvent) : Prop :=
  SkbqCallerOk mq e ∧ (e.isMmpktTx = true → mq.given.length < 2 ^ 32)

variable {mq mq' : MorseSkbq}

theorem SkbqEffect.given {e : SkbqEvent} (h : SkbqEffect mq e mq') :
    (mq'.given = mq.given ∧ mq'.pktSeq = mq.pktSeq)
      ∨ e.isMmpktTx = true ∧ mq'.given.length = mq.given.length + 1
        ∧ mq'.pktSeq = mq.pktSeq + 1 := by
  have hmoves : ∀ {mq mq' : MorseSkbq}, SkbqMoves mq mq' →
      mq'.given = mq.given ∧ mq'.pktSeq = mq.pktSeq := by
    intro mq mq' h
    induction h with
    | refl => exact ⟨rfl, rfl⟩
    | tail _ hmove ih =>
      obtain ⟨hgiven, hseq, _⟩ := hmove.given_eq
      exact ⟨hgiven.trans ih.1, hseq.trans ih.2⟩
  have hcount : ∀ p : TxPkt, (mq.given ++ [p.addr]).length = mq.given.length + 1 := by
    intro p
    rw [List.length_append, List.length_singleton]
  cases h with
  | moves h => exact Or.inl (hmoves h)
  | put | refuse | lose => exact Or.inr ⟨rfl, hcount _, rfl⟩
  | putBack htakes h =>
    obtain ⟨hgiven, hseq⟩ := hmoves h
    exact Or.inl ⟨hgiven, hseq⟩
  | flush => exact Or.inl ⟨rfl, rfl⟩

theorem skbqNext_numbered {e : SkbqEvent} (hn : mq.Numbered)
    (hfew : SkbqFewPackets mq e) (h : skbqNext mq e = some mq') : mq'.Numbered := by
  have heffect := skbqNext_effect hn.distinct hfew.1 h
  have hseq : mq'.pktSeq = BitVec.ofNat 32 mq'.given.length
      ∧ mq.given.length ≤ mq'.given.length := by
    rcases heffect.given with ⟨hgiven, hpktSeq⟩ | ⟨_, hgiven, hpktSeq⟩
    · rw [hgiven, hpktSeq]
      exact ⟨hn.seq, le_refl _⟩
    · rw [hgiven, hpktSeq, hn.seq, BitVec.ofNat_add]
      exact ⟨rfl, Nat.le_succ _⟩
  refine ⟨skbqNext_distinct hn.distinct hfew.1 h, hseq.1, ?_, ?_⟩
  · rcases heffect.held with hle | ⟨mmpkt, p, channel, now, rfl, _, rfl, hheld⟩
    · intro p hp
      exact Nat.lt_of_lt_of_le (hn.below p (Multiset.mem_of_le hle hp)) hseq.2
    have hlen : (mq.put p).given.length = mq.given.length + 1 := List.length_append
    have hlt := hfew.2 rfl
    rw [hheld, hlen]
    intro q hq
    rcases Multiset.mem_cons.mp hq with rfl | hq
    · show mq.pktSeq.toNat < mq.given.length + 1
      rw [hn.seq, BitVec.toNat_ofNat]
      exact Nat.lt_succ_of_le (Nat.mod_le _ _)
    · exact Nat.lt_succ_of_lt (hn.below q hq)
  rcases heffect.held with hle | ⟨mmpkt, p, channel, now, rfl, _, _, hheld⟩
  · exact Multiset.nodup_of_le (Multiset.map_le_map hle) hn.ids
  rw [hheld, Multiset.map_cons, Multiset.nodup_cons]
  refine ⟨?_, hn.ids⟩
  intro hmem
  obtain ⟨q, hq, hid⟩ := Multiset.mem_map.mp hmem
  have hbelow := hn.below q hq
  have hlt := hfew.2 rfl
  rw [hid] at hbelow
  change mq.pktSeq.toNat < mq.given.length at hbelow
  rw [hn.seq, BitVec.toNat_ofNat, Nat.mod_eq_of_lt hlt] at hbelow
  exact Nat.lt_irrefl _ hbelow

theorem morseSkbqInit_numbered (kind : SkbqKind) : (morseSkbqInit kind).Numbered where
  distinct := morseSkbqInit_distinct kind
  seq := rfl
  below p hp := absurd hp (Multiset.notMem_zero p)
  ids := Multiset.nodup_zero

variable {mq : MorseSkbq}

theorem along_fewPackets {es : List SkbqEvent} (hd : mq.Distinct)
    (hcaller : Along skbqNext SkbqCallerOk mq es)
    (hfew : mq.given.length + es.countP SkbqEvent.isMmpktTx < 2 ^ 32) :
    Along skbqNext SkbqFewPackets mq es := by
  induction es generalizing mq with
  | nil => trivial
  | cons e es ih =>
    rw [List.countP_cons] at hfew
    refine ⟨⟨hcaller.1, fun _ => by omega⟩, fun mq' h => ?_⟩
    apply ih (skbqNext_distinct hd hcaller.1 h) (hcaller.2 mq' h)
    rcases (skbqNext_effect hd hcaller.1 h).given with ⟨hgiven, _⟩ | ⟨htx, hgiven, _⟩
    · rw [hgiven]
      omega
    · rw [htx, if_pos rfl] at hfew
      omega

/-! ## Order -/

/-- The ids on the queue increase. -/
def MorseSkbq.Sorted (mq : MorseSkbq) : Prop := mq.skbq.Pairwise fun p q => p.id < q.id

theorem SkbqMove.skbq_sublist (h : SkbqMove mq mq') : mq'.skbq.Sublist mq.skbq := by
  cases h with
  | take p rest hskbq =>
    rw [hskbq]
    exact List.sublist_cons_self p rest
  | complete | fail q | finish before behind p x hpending hx => exact List.Sublist.refl _

theorem SkbqMoves.sorted (h : SkbqMoves mq mq') (hs : mq.Sorted) : mq'.Sorted :=
  h.keeps (fun _ _ hmove hs => hs.sublist hmove.skbq_sublist) hs

/-- A packet with this id belongs at one of the ends of the queue. -/
def MorseSkbq.BelongsAtAnEnd (mq : MorseSkbq) (id : U32) : Prop :=
  (∀ tail ∈ mq.skbq.getLast?, tail.id ≤ id) ∨ ∀ head ∈ mq.skbq.head?, id ≤ head.id

/-- A packet that the queue gets back belongs at one of its ends. -/
def SkbqOrderOk (mq : MorseSkbq) : SkbqEvent → Prop
  | .txStatus txSts _ => (∃ p, mq.TakesBack txSts p) → mq.BelongsAtAnEnd txSts.pktId
  | _ => True

theorem MorseSkbq.Sorted.le_tail (hs : mq.Sorted) {p tail : TxPkt}
    (hp : p ∈ mq.skbq) (htail : tail ∈ mq.skbq.getLast?) : p.id ≤ tail.id := by
  obtain ⟨l, hl⟩ := List.getLast?_eq_some_iff.mp htail
  unfold MorseSkbq.Sorted at hs
  rw [hl] at hs hp
  rcases List.mem_append.mp hp with hp | hp
  · exact BitVec.le_of_lt ((List.pairwise_append.mp hs).2.2 p hp tail (List.mem_singleton.mpr rfl))
  · rw [List.mem_singleton.mp hp]
    exact BitVec.le_refl _

theorem sorted_putBack_iff {p : TxPkt} {pending : List TxPkt} (hs : mq.Sorted)
    (hne : ∀ q ∈ mq.skbq, q.id ≠ p.id) :
    (mq.putBack p pending).Sorted ↔ mq.BelongsAtAnEnd p.id := by
  have hlt : ∀ q ∈ mq.skbq, q.id ≤ p.id → q.id < p.id := by
    intro q hq hle
    exact BitVec.lt_of_le_ne hle (hne q hq)
  by_cases hfits : mq.FitsAtTail p
  · refine iff_of_true ?_ (Or.inl hfits)
    unfold MorseSkbq.Sorted MorseSkbq.putBack
    rw [if_pos hfits]
    refine List.pairwise_append.mpr ⟨hs, List.pairwise_singleton .., ?_⟩
    intro q hq r hr
    rw [List.mem_singleton.mp hr]
    apply hlt q hq
    cases hlast : mq.skbq.getLast? with
    | none => exact absurd (List.getLast?_eq_none_iff.mp hlast ▸ hq) (by simp)
    | some tail => exact BitVec.le_trans (hs.le_tail hq hlast) (hfits tail hlast)
  have hskbq : (mq.putBack p pending).skbq = p :: mq.skbq := if_neg hfits
  unfold MorseSkbq.Sorted
  rw [hskbq, List.pairwise_cons]
  constructor
  · intro h
    right
    intro head hhead
    exact BitVec.le_of_lt (h.1 head (List.mem_of_mem_head? hhead))
  intro h
  refine ⟨?_, hs⟩
  intro q hq
  have hhead := h.resolve_left hfits
  unfold MorseSkbq.Sorted at hs
  cases hskbq : mq.skbq with
  | nil =>
    rw [hskbq] at hq
    exact absurd hq (by simp)
  | cons head rest =>
    rw [hskbq] at hs hq hhead hne
    have hfirst : p.id < head.id := by
      apply BitVec.lt_of_le_ne (hhead head rfl)
      exact fun h => hne head (List.mem_cons_self ..) h.symm
    rcases List.mem_cons.mp hq with rfl | hq
    · exact hfirst
    · exact BitVec.lt_trans hfirst ((List.pairwise_cons.mp hs).1 q hq)

theorem sorted_put (hn : mq.Numbered) (hlt : mq.given.length < 2 ^ 32)
    (hs : mq.Sorted) (p : TxPkt) : (mq.put p).Sorted := by
  refine List.pairwise_append.mpr ⟨hs, List.pairwise_singleton .., ?_⟩
  intro q hq r hr
  rw [List.mem_singleton.mp hr]
  have hheld : q ∈ mq.held :=
    Multiset.mem_add.mpr (Or.inl (Multiset.mem_add.mpr (Or.inl hq)))
  have hbelow := hn.below q hheld
  show q.id < mq.pktSeq
  rw [hn.seq, BitVec.lt_def, BitVec.toNat_ofNat, Nat.mod_eq_of_lt hlt]
  exact hbelow

theorem MorseSkbq.Numbered.ne_of_pending (hn : mq.Numbered) {p q : TxPkt}
    (hp : p ∈ mq.pending) (hq : q ∈ mq.skbq) : q.id ≠ p.id := by
  intro heq
  have hids := hn.ids
  unfold MorseSkbq.held at hids
  rw [Multiset.map_add, Multiset.map_add] at hids
  have hdisjoint := (Multiset.nodup_add.mp (Multiset.nodup_add.mp hids).1).2.2
  apply Multiset.disjoint_left.mp hdisjoint (Multiset.mem_map_of_mem TxPkt.id hq)
  rw [heq]
  exact Multiset.mem_map_of_mem TxPkt.id hp

theorem skbqNext_sorted_iff {e : SkbqEvent} (hn : mq.Numbered)
    (hs : mq.Sorted) (hfew : SkbqFewPackets mq e) :
    (∀ mq', skbqNext mq e = some mq' → mq'.Sorted) ↔ SkbqOrderOk mq e := by
  have hback : ∀ {txSts : MorseSkbTxStatus} {p : TxPkt} {pending : List TxPkt}
      {before behind : List TxPkt} {gone : List TxPktGone}, mq.TakesBack txSts p →
      ((MorseSkbq.putBack { mq with pending := pending, gone := gone } p (before ++ behind)).Sorted
        ↔ mq.BelongsAtAnEnd txSts.pktId) := by
    intro txSts p pending before behind gone htakes
    obtain ⟨hp, hid⟩ := htakes.mem_pending
    rw [← hid]
    let mq₁ : MorseSkbq := { mq with pending := pending, gone := gone }
    have hs₁ : mq₁.Sorted := hs
    exact sorted_putBack_iff hs₁
      fun q hq => hn.ne_of_pending hp hq
  constructor
  · intro h
    cases e with
    | txStatus txSts now =>
      intro ⟨q, hq⟩
      rcases morseSkbqTxStatusProcess_cases hn.distinct txSts now with
        ⟨p, before, behind, pending, gone, htakes, _, _, hok⟩ | ⟨hnone, _⟩
      · apply (hback htakes).mp
        apply h
        show (morseSkbqTxStatusProcess mq txSts now).toOption = _
        rw [hok]
        rfl
      · exact absurd hq (hnone q)
    | _ => trivial
  intro hok mq' h
  cases skbqNext_effect hn.distinct hfew.1 h with
  | moves h => exact SkbqMoves.sorted h hs
  | put => exact sorted_put hn (hfew.2 rfl) hs _
  | refuse | lose => exact hs
  | putBack htakes _ => exact (hback htakes).mpr (hok ⟨_, htakes⟩)
  | flush => exact List.Pairwise.nil

/-- Of every run that hands over fewer than 2^32 packets: the queue is sorted in every state
exactly when every packet that it gets back belongs at one of its ends. -/
theorem skbq_sorted_iff (kind : SkbqKind) (es : List SkbqEvent)
    (hcaller : Along skbqNext SkbqCallerOk (morseSkbqInit kind) es)
    (hfew : es.countP SkbqEvent.isMmpktTx < 2 ^ 32) :
    Throughout skbqNext MorseSkbq.Sorted (morseSkbqInit kind) es
      ↔ Along skbqNext SkbqOrderOk (morseSkbqInit kind) es := by
  have hrun := along_fewPackets (morseSkbqInit_distinct kind) hcaller
    (by rw [show (morseSkbqInit kind).given.length = 0 from rfl, Nat.zero_add]; exact hfew)
  have hsorted : (morseSkbqInit kind).Sorted := List.Pairwise.nil
  have hiff := throughout_and_along_iff (P := fun _ _ => True) (C := SkbqOrderOk)
    (fun _ _ _ hn hfew h => skbqNext_numbered hn hfew h)
    (fun _ _ hn hs hfew =>
      ⟨fun h => (skbqNext_sorted_iff hn hs hfew).mp h.2,
        fun h => ⟨trivial, (skbqNext_sorted_iff hn hs hfew).mpr h⟩⟩)
    hsorted (morseSkbqInit_numbered kind) hrun
  exact ⟨fun h => hiff.mp ⟨h, along_of_forall_mem fun _ _ _ => trivial⟩, fun h => (hiff.mpr h).1⟩

/-! ## Runs -/

instance (mq : MorseSkbq) : Decidable mq.Sorted := inferInstanceAs (Decidable (List.Pairwise _ _))

instance (mq : MorseSkbq) (id : U32) : Decidable (mq.BelongsAtAnEnd id) :=
  inferInstanceAs (Decidable ((∀ tail ∈ mq.skbq.getLast?, _) ∨ ∀ head ∈ mq.skbq.head?, _))

theorem exists_takesBack_iff (mq : MorseSkbq) (txSts : MorseSkbTxStatus) :
    (∃ p, mq.TakesBack txSts p) ↔ ∃ p ∈ mq.pending, mq.TakesBack txSts p :=
  ⟨fun ⟨p, hp⟩ => ⟨p, hp.mem_pending.1, hp⟩, fun ⟨p, _, hp⟩ => ⟨p, hp⟩⟩

instance : (mq : MorseSkbq) → (e : SkbqEvent) → Decidable (SkbqOrderOk mq e)
  | mq, .txStatus txSts _ =>
    decidable_of_iff ((∃ p ∈ mq.pending, mq.TakesBack txSts p) → mq.BelongsAtAnEnd txSts.pktId)
      (imp_congr_left (exists_takesBack_iff mq txSts).symm)
  | _, .mmpktTx _ _ _ | _, .deq _ | _, .deqNumItems _ | _, .txComplete | _, .txFailed _
  | _, .checkForStaleTx _ | _, .txFlush => isTrue trivial

/-- Three packets are sent, two of them to the chip. -/
def sendTwoOfThree : List SkbqEvent :=
  [.mmpktTx (barePkt 1 60) morseSkbChanData 0, .mmpktTx (barePkt 2 60) morseSkbChanData 0,
    .mmpktTx (barePkt 3 60) morseSkbChanData 0, .deqNumItems 2, .txComplete]

/-- The chip hands back the newer packet first. -/
theorem skbq_sorted_newerFirst :
    Throughout skbqNext MorseSkbq.Sorted (morseSkbqInit (.data 0))
      (sendTwoOfThree ++ [.txStatus (psFilteredStatus 1) 0, .txStatus (psFilteredStatus 0) 0]) :=
  (skbq_sorted_iff _ _ (by decide +kernel) (by decide +kernel)).mpr (by decide +kernel)

/-- The chip hands the older packet back first, and the newer one is put in front of it. -/
theorem skbq_unsorted_olderFirst :
    Along skbqNext SkbqCallerOk (morseSkbqInit (.data 0))
        (sendTwoOfThree ++ [.txStatus (psFilteredStatus 0) 0, .txStatus (psFilteredStatus 1) 0])
      ∧ ¬ Throughout skbqNext MorseSkbq.Sorted (morseSkbqInit (.data 0))
        (sendTwoOfThree ++ [.txStatus (psFilteredStatus 0) 0, .txStatus (psFilteredStatus 1) 0]) := by
  decide +kernel

end MmIotEsp32.Driver
