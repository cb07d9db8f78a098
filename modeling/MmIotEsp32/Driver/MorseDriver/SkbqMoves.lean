/-
  MmIotEsp32.Driver.MorseDriver.SkbqMoves

  What the operations of a transmit queue do to its packets.
-/
import Mathlib.Algebra.Order.Group.Multiset
import Mathlib.Logic.Relation
import MmIotEsp32.Driver.MorseDriver.Skbq
import MmIotEsp32.Lib.Transition

namespace MmIotEsp32.Driver

open Lib

/-! ## Moves -/

/-- The packets that a queue holds. -/
def MorseSkbq.held (mq : MorseSkbq) : Multiset TxPkt :=
  (mq.skbq : Multiset TxPkt) + (mq.pending : Multiset TxPkt) + (mq.taken : Multiset TxPkt)

/-- No two packets of a queue have one address. -/
def MorseSkbq.Distinct (mq : MorseSkbq) : Prop := (mq.held.map TxPkt.addr).Nodup

variable {mq : MorseSkbq}

theorem MorseSkbq.Distinct.pending (h : mq.Distinct) : (mq.pending.map TxPkt.addr).Nodup := by
  have hle : (mq.pending : Multiset TxPkt) ≤ mq.held :=
    (Multiset.le_add_left _ _).trans (Multiset.le_add_right _ _)
  exact Multiset.coe_nodup.mp (Multiset.nodup_of_le (Multiset.map_le_map hle) h)

/-- An elementary move. -/
inductive SkbqMove : MorseSkbq → MorseSkbq → Prop where
  /-- the head of the queue is taken -/
  | take (mq : MorseSkbq) (p : TxPkt) (rest : List TxPkt) (hskbq : mq.skbq = p :: rest) :
      SkbqMove mq { mq with
        skbq := rest
        taken := mq.taken ++ [p]
        skbqSize := mq.skbqSize - p.dataLength }
  /-- the packets taken wait for their statuses -/
  | complete (mq : MorseSkbq) :
      SkbqMove mq { mq with pending := mq.pending ++ mq.taken, taken := [] }
  /-- some of the packets taken are released -/
  | fail (mq : MorseSkbq) (q : TxPkt → Bool) :
      SkbqMove mq { mq with
        taken := mq.taken.filter fun p => !q p
        gone := mq.gone ++ (mq.taken.filter q).map .released }
  /-- a pending packet leaves -/
  | finish (mq : MorseSkbq) (before behind : List TxPkt) (p : TxPkt) (x : TxPktGone)
      (hpending : mq.pending = before ++ p :: behind) (hx : x.addr = p.addr) :
      SkbqMove mq { mq with pending := before ++ behind, gone := mq.gone ++ [x] }

/-- A series of moves. -/
abbrev SkbqMoves := Relation.ReflTransGen SkbqMove

variable {mq mq' : MorseSkbq}

theorem SkbqMove.held_le (h : SkbqMove mq mq') : mq'.held ≤ mq.held := by
  cases h with
  | take p rest hskbq =>
    show (↑rest : Multiset TxPkt) + ↑mq.pending + ↑(mq.taken ++ [p])
      ≤ ↑mq.skbq + ↑mq.pending + ↑mq.taken
    rw [hskbq, ← Multiset.coe_add, Multiset.coe_singleton, ← Multiset.cons_coe,
      ← Multiset.singleton_add]
    apply le_of_eq
    ac_rfl
  | complete =>
    show (↑mq.skbq : Multiset TxPkt) + ↑(mq.pending ++ mq.taken) + ↑([] : List TxPkt)
      ≤ ↑mq.skbq + ↑mq.pending + ↑mq.taken
    rw [← Multiset.coe_add, Multiset.coe_nil, add_zero, add_assoc]
  | fail q =>
    show (↑mq.skbq : Multiset TxPkt) + ↑mq.pending + ↑(mq.taken.filter fun p => !q p) ≤ _
    apply add_le_add_right
    exact Multiset.coe_le.mpr List.filter_sublist.subperm
  | finish before behind p x hpending hx =>
    show (↑mq.skbq : Multiset TxPkt) + ↑(before ++ behind) + ↑mq.taken
      ≤ ↑mq.skbq + ↑mq.pending + ↑mq.taken
    rw [hpending]
    apply add_le_add_left
    apply add_le_add_right
    apply Multiset.coe_le.mpr
    exact ((List.Sublist.refl before).append (List.sublist_cons_self p behind)).subperm

theorem SkbqMove.distinct (h : SkbqMove mq mq') (hd : mq.Distinct) : mq'.Distinct :=
  Multiset.nodup_of_le (Multiset.map_le_map h.held_le) hd

/-- Every packet that was given is held or gone, as often as it was given. -/
def MorseSkbq.Conserved (mq : MorseSkbq) : Prop :=
  (mq.given : Multiset Nat) = mq.held.map TxPkt.addr + ↑(mq.gone.map TxPktGone.addr)

theorem SkbqMove.conserved (h : SkbqMove mq mq') (hc : mq.Conserved) : mq'.Conserved := by
  unfold MorseSkbq.Conserved MorseSkbq.held at hc ⊢
  rw [Multiset.map_add, Multiset.map_add] at hc ⊢
  cases h with
  | take p rest hskbq =>
    rw [hskbq, ← Multiset.cons_coe, ← Multiset.singleton_add] at hc
    dsimp only
    rw [← Multiset.coe_add, hc]
    simp only [Multiset.map_add, Multiset.coe_singleton, Multiset.map_singleton]
    ac_rfl
  | complete =>
    dsimp only
    rw [← Multiset.coe_add, hc]
    simp only [Multiset.map_add, Multiset.coe_nil, Multiset.map_zero, add_zero]
    ac_rfl
  | fail q =>
    have hsplit : (mq.taken : Multiset TxPkt).map TxPkt.addr
        = (↑(mq.taken.filter fun p => !q p) : Multiset TxPkt).map TxPkt.addr
          + (↑(mq.taken.filter q) : Multiset TxPkt).map TxPkt.addr := by
      rw [← Multiset.map_add, Multiset.coe_add]
      congr 1
      apply Multiset.coe_eq_coe.mpr
      have h := List.filter_append_perm (fun p => !q p) mq.taken
      simp only [Bool.not_not] at h
      exact h.symm
    have hgone : ((mq.taken.filter q).map TxPktGone.released).map TxPktGone.addr
        = (mq.taken.filter q).map TxPkt.addr := by
      rw [List.map_map]
      rfl
    dsimp only
    rw [List.map_append, hgone, ← Multiset.coe_add, hc, hsplit, Multiset.map_coe, Multiset.map_coe,
      Multiset.map_coe, Multiset.map_coe]
    ac_rfl
  | finish before behind p x hpending hx =>
    rw [hpending, ← Multiset.coe_add, ← Multiset.cons_coe, ← Multiset.singleton_add] at hc
    dsimp only
    rw [List.map_append, ← Multiset.coe_add, ← Multiset.coe_add, hc]
    simp only [Multiset.map_add, Multiset.coe_singleton, Multiset.map_singleton, List.map_cons,
      List.map_nil, hx]
    ac_rfl

theorem SkbqMove.given_eq (h : SkbqMove mq mq') :
    mq'.given = mq.given ∧ mq'.pktSeq = mq.pktSeq ∧ mq'.kind = mq.kind := by
  cases h <;> exact ⟨rfl, rfl, rfl⟩

theorem SkbqMoves.keeps {I : MorseSkbq → Prop} (hI : ∀ mq mq', SkbqMove mq mq' → I mq → I mq')
    (h : SkbqMoves mq mq') (hmq : I mq) : I mq' := by
  induction h with
  | refl => exact hmq
  | tail _ hmove ih => exact hI _ _ hmove ih

/-! ## Pending packets that leave -/

variable {p q : TxPkt}

theorem skbListRemove_of_mem {list : List TxPkt} (hp : p ∈ list)
    (hnodup : (list.map TxPkt.addr).Nodup) (hq : q.addr = p.addr) :
    ∃ before behind, list = before ++ p :: behind
      ∧ skbListRemove list q = .ok (before ++ behind) := by
  obtain ⟨before, behind, hlist, hremove⟩ := mmpktListRemove_of_mem hp hnodup
  refine ⟨before, behind, hlist, ?_⟩
  unfold skbListRemove
  rw [hq, hremove]

theorem skbListRemove_of_notMem {list : List TxPkt} {q : TxPkt} (hne : list ≠ [])
    (hq : ∀ p ∈ list, p.addr ≠ q.addr) : skbListRemove list q = .error .notOnList := by
  unfold skbListRemove
  rw [mmpktListRemove_of_notMem hne hq]

theorem mem_of_mem_split {before behind : List TxPkt}
    (hq : q ∈ before ++ p :: behind) (hne : q ≠ p) : q ∈ before ++ behind := by
  rcases List.mem_append.mp hq with hbefore | hbehind
  · exact List.mem_append_left _ hbefore
  · rcases List.mem_cons.mp hbehind with heq | hbehind
    · exact absurd heq hne
    · exact List.mem_append_right _ hbehind

theorem skbqDataTxFinish_of_mem (hd : mq.Distinct)
    (hp : p ∈ mq.pending) (hq : q.addr = p.addr) (txSts : Option MorseSkbTxStatus) :
    ∃ before behind gone, mq.pending = before ++ p :: behind ∧ skbqDataTxFinish mq q txSts
        = .ok { mq with pending := before ++ behind, gone := gone }
      ∧ SkbqMove mq { mq with pending := before ++ behind, gone := gone } := by
  obtain ⟨before, behind, hlist, hremove⟩ := skbListRemove_of_mem hp hd.pending hq
  refine ⟨before, behind, _, hlist, by unfold skbqDataTxFinish; rw [hremove]; rfl, ?_⟩
  apply SkbqMove.finish mq before behind p (skbqDataTxGone q txSts) hlist
  rw [← hq]
  unfold skbqDataTxGone
  split
  · rfl
  · split <;> rfl

theorem skbqGetPendingById_eq (pktId now : U32) {l : List TxPkt}
    (hd : mq.Distinct) (hl : ∀ p ∈ l, p ∈ mq.pending) (hnodup : (l.map TxPkt.addr).Nodup) :
    ∃ pending gone, skbqGetPendingById pktId now mq l
          = .ok ({ mq with pending := pending, gone := gone },
            l.find? fun p => p.hdr.pktId == pktId)
        ∧ SkbqMoves mq { mq with pending := pending, gone := gone }
        ∧ ∀ p, (l.find? fun p => p.hdr.pktId == pktId) = some p → p ∈ pending := by
  induction l generalizing mq with
  | nil => exact ⟨mq.pending, mq.gone, rfl, .refl, fun _ h => absurd h (by simp)⟩
  | cons pfirst rest ih =>
    rw [List.map_cons, List.nodup_cons] at hnodup
    have hrest : ∀ p ∈ rest, p ∈ mq.pending := fun p hp => hl p (List.mem_cons_of_mem _ hp)
    rw [skbqGetPendingById]
    by_cases hfound : pfirst.hdr.pktId = pktId
    · rw [if_pos hfound, List.find?_cons_of_pos (by simpa using hfound)]
      refine ⟨mq.pending, mq.gone, rfl, .refl, ?_⟩
      intro p hp
      cases hp
      exact hl pfirst (List.mem_cons_self ..)
    rw [if_neg hfound, List.find?_cons_of_neg (by simpa using hfound)]
    split
    · obtain ⟨before, behind, gone, hpending, hfinish, hmove⟩ :=
        skbqDataTxFinish_of_mem hd (hl pfirst (List.mem_cons_self ..)) rfl none
      have hrest' : ∀ p ∈ rest, p ∈ before ++ behind := by
        intro p hp
        apply mem_of_mem_split (hpending ▸ hrest p hp)
        rintro rfl
        exact hnodup.1 (List.mem_map_of_mem hp)
      obtain ⟨pending', gone', hwalk, hmoves, hmem⟩ := ih (hmove.distinct hd) hrest' hnodup.2
      refine ⟨pending', gone', ?_, .head hmove hmoves, hmem⟩
      rw [hfinish]
      exact hwalk
    · exact ih hd hrest hnodup.2

theorem morseSkbqCheckForStaleTxLoop_moves (now : U32) {l : List TxPkt}
    (hd : mq.Distinct) (hl : ∀ p ∈ l, p ∈ mq.pending) (hnodup : (l.map TxPkt.addr).Nodup) :
    ∃ mq', morseSkbqCheckForStaleTxLoop now mq l = .ok mq' ∧ SkbqMoves mq mq' := by
  induction l generalizing mq with
  | nil => exact ⟨mq, rfl, .refl⟩
  | cons pfirst rest ih =>
    rw [List.map_cons, List.nodup_cons] at hnodup
    have hrest : ∀ p ∈ rest, p ∈ mq.pending := fun p hp => hl p (List.mem_cons_of_mem _ hp)
    rw [morseSkbqCheckForStaleTxLoop]
    split
    · obtain ⟨before, behind, gone, hpending, hfinish, hmove⟩ :=
        skbqDataTxFinish_of_mem hd (hl pfirst (List.mem_cons_self ..)) rfl none
      have hrest' : ∀ p ∈ rest, p ∈ before ++ behind := by
        intro p hp
        apply mem_of_mem_split (hpending ▸ hrest p hp)
        rintro rfl
        exact hnodup.1 (List.mem_map_of_mem hp)
      obtain ⟨mq', hloop, hmoves⟩ := ih (hmove.distinct hd) hrest' hnodup.2
      refine ⟨mq', ?_, .head hmove hmoves⟩
      rw [hfinish]
      exact hloop
    · exact ih hd hrest hnodup.2

/-! ## Packets that are taken -/

theorem skbqTakeHead_moves (mq : MorseSkbq) : SkbqMoves mq (skbqTakeHead mq) := by
  unfold skbqTakeHead
  split
  · exact .refl
  · rename_i pfirst skbq hskbq
    exact .single (.take mq pfirst skbq hskbq)

theorem morseSkbqDeqNumItems_moves (mq : MorseSkbq) (numItems : Nat) :
    SkbqMoves mq (morseSkbqDeqNumItems mq numItems) := by
  induction numItems generalizing mq with
  | zero => exact .refl
  | succ numItems ih =>
    rw [morseSkbqDeqNumItems]
    split
    · exact .refl
    · exact (skbqTakeHead_moves mq).trans (ih _)

theorem morseSkbqDeqLoop_moves (mq : MorseSkbq) (size : U32) (l : List TxPkt) :
    SkbqMoves mq (morseSkbqDeqLoop mq size l) := by
  induction l generalizing mq size with
  | nil => exact .refl
  | cons pfirst rest ih =>
    rw [morseSkbqDeqLoop]
    split
    · exact .refl
    · exact (skbqTakeHead_moves mq).trans (ih _ _)

/-! ## Packets that come back -/

/-- A packet is put back behind the last one of the queue. -/
def MorseSkbq.FitsAtTail (mq : MorseSkbq) (p : TxPkt) : Prop :=
  ∀ tail ∈ mq.skbq.getLast?, tail.hdr.pktId ≤ p.hdr.pktId

instance (mq : MorseSkbq) (p : TxPkt) : Decidable (mq.FitsAtTail p) :=
  inferInstanceAs (Decidable (∀ tail ∈ mq.skbq.getLast?, _))

/-- The queue with a packet that it got back. -/
def MorseSkbq.putBack (mq : MorseSkbq) (p : TxPkt) (pending : List TxPkt) : MorseSkbq :=
  { mq with
    pending := pending
    skbqSize := mq.skbqSize + p.dataLength
    skbq := if mq.FitsAtTail p then mq.skbq ++ [p] else p :: mq.skbq }

theorem insertPendingWalk_ok {insertionId : U32} {l : List TxPkt}
    (hq : q ∈ l) (hid : insertionId ≤ q.hdr.pktId) :
    insertPendingWalk mq p insertionId l = .ok { mq with skbq := p :: mq.skbq } := by
  induction l with
  | nil => exact absurd hq (by simp)
  | cons pfirst rest ih =>
    rw [insertPendingWalk]
    split
    · rfl
    rename_i hlt
    rcases List.mem_cons.mp hq with rfl | hq
    · exact absurd hid hlt
    · exact ih hq

variable {p : TxPkt}

theorem insertPendingMmpktToSkbq_eq (hd : mq.Distinct) (hp : p ∈ mq.pending) :
    ∃ before behind, mq.pending = before ++ p :: behind
      ∧ insertPendingMmpktToSkbq mq p p.hdr.pktId = .ok (mq.putBack p (before ++ behind)) := by
  obtain ⟨before, behind, hpending, hremove⟩ := skbListRemove_of_mem hp hd.pending rfl
  refine ⟨before, behind, hpending, ?_⟩
  unfold insertPendingMmpktToSkbq MorseSkbq.putBack
  rw [hremove]
  dsimp only [Except.bind]
  by_cases hfits : mq.FitsAtTail p
  · rw [if_pos hfits]
    cases hlast : mq.skbq.getLast? with
    | none => rfl
    | some tail =>
      dsimp only
      rw [if_pos (hfits tail hlast)]
      rfl
  rw [if_neg hfits]
  cases hlast : mq.skbq.getLast? with
  | none =>
    refine absurd (fun tail h => ?_) hfits
    rw [hlast] at h
    exact absurd h (by simp)
  | some tail =>
    have hlt : ¬ tail.hdr.pktId ≤ p.hdr.pktId := by
      intro hle
      apply hfits
      intro t ht
      obtain rfl := Option.some.inj (hlast.symm.trans ht)
      exact hle
    dsimp only
    rw [if_neg hlt]
    exact insertPendingWalk_ok (List.mem_of_getLast? hlast)
      (BitVec.le_of_lt (BitVec.not_le.mp hlt))

/-- The status makes the queue take this packet back. -/
def MorseSkbq.TakesBack (mq : MorseSkbq) (txSts : MorseSkbTxStatus) (p : TxPkt) : Prop :=
  morseSkbqMatchTxStatusToSkbq txSts = some mq.kind
    ∧ txSts.has morseTxStatusPageInvalid = false
    ∧ txSts.has morseTxStatusFlagsPsFiltered = true
    ∧ (txSts.channel = morseSkbChanData ∨ txSts.channel = morseSkbChanMgmt)
    ∧ (mq.pending.find? fun q => q.hdr.pktId == txSts.pktId) = some p

variable {txSts : MorseSkbTxStatus}

theorem MorseSkbq.TakesBack.mem_pending
    (h : mq.TakesBack txSts p) : p ∈ mq.pending ∧ p.hdr.pktId = txSts.pktId :=
  ⟨List.mem_of_find?_eq_some h.2.2.2.2, by simpa using List.find?_some h.2.2.2.2⟩

theorem isCommand_of_match
    (h : morseSkbqMatchTxStatusToSkbq txSts = some mq.kind) : mq.isCommand = false := by
  unfold MorseSkbq.isCommand
  apply beq_false_of_ne
  intro hcmd
  rw [hcmd] at h
  unfold morseSkbqMatchTxStatusToSkbq at h
  split at h
  · exact absurd h (by simp)
  split at h
  · exact absurd h (by simp)
  · split at h <;> exact absurd h (by simp)

theorem addr_removePadding (p : TxPkt) : (morseSkbRemovePaddingAfterSentToChip p).addr = p.addr := by
  unfold morseSkbRemovePaddingAfterSentToChip
  dsimp only
  split <;> split <;> rfl

/-- What a transmit status does with the packet that is found: the queue takes it back; or
it leaves; or it is not one that can be filtered. -/
theorem morseSkbqTxStatusFound_cases (hd : mq.Distinct)
    (hp : p ∈ mq.pending) (hid : p.hdr.pktId = txSts.pktId) (hcmd : mq.isCommand = false) :
    if txSts.has morseTxStatusPageInvalid = false ∧ txSts.has morseTxStatusFlagsPsFiltered = true
    then if txSts.channel = morseSkbChanData ∨ txSts.channel = morseSkbChanMgmt then
        ∃ before behind, mq.pending = before ++ p :: behind
          ∧ morseSkbqTxStatusFound mq p txSts = .ok (mq.putBack p (before ++ behind))
      else morseSkbqTxStatusFound mq p txSts = .error .psFiltered
    else ∃ mq', morseSkbqTxStatusFound mq p txSts = .ok mq' ∧ SkbqMove mq mq' := by
  have hfinish : ∀ (q : TxPkt) (sts : Option MorseSkbTxStatus), q.addr = p.addr →
      ∃ mq', skbqDataTxFinish mq q sts = .ok mq' ∧ SkbqMove mq mq' := by
    intro q sts hq
    obtain ⟨before, behind, gone, _, hok, hmove⟩ := skbqDataTxFinish_of_mem hd hp hq sts
    exact ⟨_, hok, hmove⟩
  unfold morseSkbqTxStatusFound
  cases hinvalid : txSts.has morseTxStatusPageInvalid with
  | true =>
    rw [if_neg (by simp), if_pos rfl]
    exact hfinish p none rfl
  | false =>
    rw [if_neg (by simp : ¬ false = true)]
    cases hfiltered : txSts.has morseTxStatusFlagsPsFiltered with
    | false =>
      rw [if_neg (by simp), if_neg (by simp)]
      unfold morseSkbqTxFinish
      rw [hcmd, if_neg (by simp)]
      exact hfinish _ _ (addr_removePadding p)
    | true =>
      rw [if_pos ⟨rfl, rfl⟩, if_pos rfl]
      unfold txMmpktIsPsFiltered
      by_cases hchannel : txSts.channel = morseSkbChanData ∨ txSts.channel = morseSkbChanMgmt
      · have hpass : (decide (txSts.channel = morseSkbChanData)
            || decide (txSts.channel = morseSkbChanMgmt)) = true := by
          rw [Bool.or_eq_true, decide_eq_true_eq, decide_eq_true_eq]
          exact hchannel
        rw [if_pos hchannel, hpass, if_neg (by simp), hcmd, if_neg (by simp), ← hid]
        exact insertPendingMmpktToSkbq_eq hd hp
      · rw [if_neg hchannel, if_pos (by simpa using hchannel)]

theorem morseSkbqTxStatusProcess_cases (hd : mq.Distinct) (txSts : MorseSkbTxStatus) (now : U32) :
    (∃ p before behind pending gone, mq.TakesBack txSts p
        ∧ SkbqMoves mq { mq with pending := pending, gone := gone }
        ∧ pending = before ++ p :: behind
        ∧ morseSkbqTxStatusProcess mq txSts now
          = .ok (MorseSkbq.putBack { mq with pending := pending, gone := gone } p
              (before ++ behind)))
      ∨ ((∀ p, ¬ mq.TakesBack txSts p)
          ∧ ((∃ mq', morseSkbqTxStatusProcess mq txSts now = .ok mq' ∧ SkbqMoves mq mq')
            ∨ morseSkbqTxStatusProcess mq txSts now = .error .psFiltered)) := by
  unfold morseSkbqTxStatusProcess
  by_cases hmatch : morseSkbqMatchTxStatusToSkbq txSts = some mq.kind
  · rw [if_pos hmatch]
    obtain ⟨pending, gone, hget, hmoves, hmem⟩ :=
      skbqGetPendingById_eq txSts.pktId now hd (fun _ h => h) hd.pending
    have hd₁ : MorseSkbq.Distinct { mq with pending := pending, gone := gone } :=
      hmoves.keeps (fun _ _ h => h.distinct) hd
    rw [hget]
    cases hfind : mq.pending.find? (fun q => q.hdr.pktId == txSts.pktId) with
    | none =>
      right
      refine ⟨fun p h => ?_, Or.inl ⟨_, rfl, hmoves⟩⟩
      exact absurd (hfind.symm.trans h.2.2.2.2) (by simp)
    | some p =>
      have hid : p.hdr.pktId = txSts.pktId := by simpa using List.find?_some hfind
      have hcases := morseSkbqTxStatusFound_cases hd₁ (hmem p hfind) hid
        (isCommand_of_match hmatch)
      dsimp only
      by_cases hback : txSts.has morseTxStatusPageInvalid = false
          ∧ txSts.has morseTxStatusFlagsPsFiltered = true
      · rw [if_pos hback] at hcases
        by_cases hchannel : txSts.channel = morseSkbChanData ∨ txSts.channel = morseSkbChanMgmt
        · rw [if_pos hchannel] at hcases
          obtain ⟨before, behind, hpending, hok⟩ := hcases
          left
          exact ⟨p, before, behind, pending, gone,
            ⟨hmatch, hback.1, hback.2, hchannel, hfind⟩, hmoves, hpending, hok⟩
        · rw [if_neg hchannel] at hcases
          right
          exact ⟨fun q h => hchannel h.2.2.2.1, Or.inr hcases⟩
      rw [if_neg hback] at hcases
      obtain ⟨mq', hok, hmove⟩ := hcases
      right
      exact ⟨fun q h => hback ⟨h.2.1, h.2.2.1⟩, Or.inl ⟨mq', hok, hmoves.tail hmove⟩⟩
  · rw [if_neg hmatch]
    right
    exact ⟨fun p h => hmatch h.1, Or.inl ⟨mq, rfl, .refl⟩⟩

/-! ## Packets that are sent -/

/-- The packet with the number it gets. -/
def MorseSkbq.numbered (mq : MorseSkbq) (p : TxPkt) : TxPkt :=
  { p with hdr := { p.hdr with pktId := mq.pktSeq } }

/-- The queue that has given a packet its number. -/
def MorseSkbq.count (mq : MorseSkbq) (p : TxPkt) : MorseSkbq :=
  { mq with pktSeq := mq.pktSeq + 1, given := mq.given ++ [p.addr] }

/-- The queue with a packet at its end. -/
def MorseSkbq.put (mq : MorseSkbq) (p : TxPkt) : MorseSkbq :=
  { mq.count p with
    skbq := mq.skbq ++ [mq.numbered p]
    skbqSize := mq.skbqSize + p.dataLength }

/-- The queue that has released a packet it has no room for. -/
def MorseSkbq.refuse (mq : MorseSkbq) (p : TxPkt) : MorseSkbq :=
  { mq.count p with gone := mq.gone ++ [.released (mq.numbered p)] }

theorem addr_txPktPrepend {len : U32} (h : txPktPrepend p len = .ok q) : q.addr = p.addr := by
  unfold txPktPrepend at h
  split at h
  · cases h
    rfl
  · exact absurd h (by simp)

theorem addr_morseSkbqAlignStart (h : morseSkbqAlignStart p = .ok q) : q.addr = p.addr := by
  unfold morseSkbqAlignStart at h
  dsimp only at h
  split at h
  · exact addr_txPktPrepend h
  · cases h
    rfl

theorem addr_morseSkbqAlignEnd (h : morseSkbqAlignEnd p = .ok q) : q.addr = p.addr := by
  unfold morseSkbqAlignEnd txPktAppend at h
  dsimp only at h
  split at h
  · split at h
    · cases h
      rfl
    · exact absurd h (by simp [Except.map])
  · cases h
    rfl

theorem addr_morseSkbqFrame {mmpkt p : TxPkt} {channel : U8} {now : U32}
    (h : morseSkbqFrame mmpkt channel now = .ok p) : p.addr = mmpkt.addr := by
  unfold morseSkbqFrame morseSkbqEnsureWordAlignment at h
  cases hprepend : txPktPrepend { mmpkt with timeoutAbsMs := now + txStatusLifetimeMs }
      sizeofMorseBuffSkbHeader with
  | error a =>
    rw [hprepend] at h
    exact absurd h (by simp [Except.bind])
  | ok unaligned =>
    rw [hprepend] at h
    cases hstart : morseSkbqAlignStart unaligned with
    | error a => exact absurd h (by simp [Except.bind, Except.map, hstart])
    | ok start =>
      cases hend : morseSkbqAlignEnd start with
      | error a => exact absurd h (by simp [Except.bind, Except.map, hstart, hend])
      | ok aligned =>
        simp only [Except.bind, Except.map, hstart, hend] at h
        cases h
        show aligned.addr = mmpkt.addr
        rw [addr_morseSkbqAlignEnd hend, addr_morseSkbqAlignStart hstart,
          addr_txPktPrepend hprepend]

theorem morseSkbqFrame_error {mmpkt : TxPkt} {channel : U8} {now : U32} {a : SkbqAssertion}
    (h : morseSkbqFrame mmpkt channel now = .error a) : a = .noSpace := by
  have hprepend : ∀ {p : TxPkt} {len : U32} {a : SkbqAssertion},
      txPktPrepend p len = .error a → a = .noSpace := by
    intro p len a h
    unfold txPktPrepend at h
    split at h
    · exact absurd h (by simp)
    · exact (Except.error.inj h).symm
  have hend : ∀ {p : TxPkt} {a : SkbqAssertion}, morseSkbqAlignEnd p = .error a →
      a = .noSpace := by
    intro p a h
    unfold morseSkbqAlignEnd txPktAppend at h
    dsimp only at h
    split at h
    · split at h
      · exact absurd h (by simp [Except.map])
      · exact (Except.error.inj h).symm
    · exact absurd h (by simp)
  unfold morseSkbqFrame morseSkbqEnsureWordAlignment at h
  cases hunaligned : txPktPrepend { mmpkt with timeoutAbsMs := now + txStatusLifetimeMs }
      sizeofMorseBuffSkbHeader with
  | error b =>
    rw [hunaligned] at h
    obtain rfl := Except.error.inj h
    exact hprepend hunaligned
  | ok unaligned =>
    rw [hunaligned] at h
    cases hstart : morseSkbqAlignStart unaligned with
    | error b =>
      simp only [Except.bind, Except.map, hstart] at h
      obtain rfl := Except.error.inj h
      unfold morseSkbqAlignStart at hstart
      dsimp only at hstart
      split at hstart
      · exact hprepend hstart
      · exact absurd hstart (by simp)
    | ok start =>
      cases haligned : morseSkbqAlignEnd start with
      | error b =>
        simp only [Except.bind, Except.map, hstart, haligned] at h
        obtain rfl := Except.error.inj h
        exact hend haligned
      | ok aligned =>
        exact absurd h (by simp [Except.bind, Except.map, hstart, haligned])

theorem morseSkbqTx_eq (mq : MorseSkbq) (p : TxPkt) :
    morseSkbqTx mq p
      = if morseSkbqFull mq p = false then (mq.put p, mq.numbered p, true)
        else (mq.count p, mq.numbered p, false) := by
  unfold morseSkbqTx
  cases morseSkbqFull mq p <;> rfl

theorem morseSkbqTxFinish_of_full (hpending : ∀ q ∈ mq.pending, q.addr ≠ (mq.numbered p).addr)
    (hskbq : ∀ q ∈ mq.skbq, q.addr ≠ (mq.numbered p).addr) :
    morseSkbqTxFinish (mq.count p) (mq.numbered p) none = if mq.pending ≠ [] then .error .notOnList
        else if mq.isCommand = false then .ok (mq.refuse p)
        else if mq.skbq ≠ [] then .error .notOnList else .ok (mq.count p) := by
  show (if mq.isCommand then skbqCmdFinish (mq.count p) (mq.numbered p)
    else skbqDataTxFinish (mq.count p) (mq.numbered p) none) = _
  by_cases hnone : mq.pending = []
  · have hremove : skbListRemove mq.pending (mq.numbered p) = .ok [] := by
      rw [hnone]
      rfl
    rw [if_neg (not_not.mpr hnone)]
    cases hcmd : mq.isCommand with
    | false =>
      show (skbListRemove mq.pending (mq.numbered p)).map _ = Except.ok (mq.refuse p)
      rw [hremove]
      show Except.ok { mq.refuse p with pending := [] } = Except.ok (mq.refuse p)
      rw [← hnone]
      rfl
    | true =>
      rw [if_pos rfl, if_neg (by simp)]
      unfold skbqCmdFinish
      show (if !mq.pending.isEmpty then _ else if !mq.skbq.isEmpty then
        (skbListRemove mq.skbq (mq.numbered p)).map _ else _) = _
      rw [hnone, if_neg (by simp)]
      by_cases hempty : mq.skbq = []
      · rw [if_neg (not_not.mpr hempty), hempty]
        rfl
      · rw [if_pos hempty, skbListRemove_of_notMem hempty hskbq, if_pos (by simpa using hempty)]
        rfl
  rw [if_pos hnone]
  have hremove := skbListRemove_of_notMem hnone hpending
  cases hcmd : mq.isCommand with
  | false =>
    show (skbListRemove mq.pending (mq.numbered p)).map _ = _
    rw [hremove]
    rfl
  | true =>
    rw [if_pos rfl]
    unfold skbqCmdFinish
    show (if !mq.pending.isEmpty then
      (skbListRemove mq.pending (mq.numbered p)).map _ else _) = _
    rw [if_pos (by simpa using hnone), hremove]
    rfl

theorem exceptBind_ok {ε α β : Type*} (a : α) (f : α → Except ε β) :
    (Except.ok a).bind f = f a := rfl

theorem exceptBind_error {ε α β : Type*} (e : ε) (f : α → Except ε β) :
    (Except.error e).bind f = .error e := rfl

theorem morseSkbqMmpktTx_eq (mq : MorseSkbq) {mmpkt : TxPkt} {channel : U8} {now : U32}
    (hfresh : mmpkt.addr ∉ mq.held.map TxPkt.addr) :
    morseSkbqMmpktTx mq mmpkt channel now
      = (morseSkbqFrame mmpkt channel now).bind fun p =>
          if morseSkbqFull mq p = false then .ok (mq.put p)
          else if mq.pending ≠ [] then .error .notOnList
          else if mq.isCommand = false then .ok (mq.refuse p)
          else if mq.skbq ≠ [] then .error .notOnList
          else .ok (mq.count p) := by
  unfold morseSkbqMmpktTx
  cases hframe : morseSkbqFrame mmpkt channel now with
  | error a => rw [exceptBind_error, exceptBind_error]
  | ok p =>
    have hother : ∀ q, q ∈ mq.held → q.addr ≠ (mq.numbered p).addr := by
      intro q hq heq
      apply hfresh
      rw [← addr_morseSkbqFrame hframe]
      show (mq.numbered p).addr ∈ _
      rw [← heq]
      exact Multiset.mem_map_of_mem _ hq
    have hpendingOther : ∀ q ∈ mq.pending, q.addr ≠ (mq.numbered p).addr := by
      intro q hq
      apply hother q
      exact Multiset.mem_add.mpr (Or.inl (Multiset.mem_add.mpr (Or.inr hq)))
    have hskbqOther : ∀ q ∈ mq.skbq, q.addr ≠ (mq.numbered p).addr := by
      intro q hq
      apply hother q
      exact Multiset.mem_add.mpr (Or.inl (Multiset.mem_add.mpr (Or.inl hq)))
    rw [exceptBind_ok, exceptBind_ok, morseSkbqTx_eq]
    by_cases hroom : morseSkbqFull mq p = false
    · rw [if_pos hroom, if_pos hroom]
    · rw [if_neg hroom, if_neg hroom]
      exact morseSkbqTxFinish_of_full hpendingOther hskbqOther

/-! ## One event -/

/-- What the callers of a queue see to: a packet that is handed to it is not in it. -/
def SkbqCallerOk (mq : MorseSkbq) : SkbqEvent → Prop
  | .mmpktTx mmpkt _ _ => mmpkt.addr ∉ mq.held.map TxPkt.addr
  | _ => True

/-- What an event does to a queue when it comes back. -/
inductive SkbqEffect (mq : MorseSkbq) : SkbqEvent → MorseSkbq → Prop where
  | moves {e : SkbqEvent} {mq' : MorseSkbq} (h : SkbqMoves mq mq') : SkbqEffect mq e mq'
  | put {mmpkt p : TxPkt} {channel : U8} {now : U32}
      (hframe : morseSkbqFrame mmpkt channel now = .ok p) (hroom : morseSkbqFull mq p = false) :
      SkbqEffect mq (.mmpktTx mmpkt channel now) (mq.put p)
  | refuse {mmpkt p : TxPkt} {channel : U8} {now : U32}
      (hframe : morseSkbqFrame mmpkt channel now = .ok p) (hfull : morseSkbqFull mq p = true)
      (hpending : mq.pending = []) (hdata : mq.isCommand = false) :
      SkbqEffect mq (.mmpktTx mmpkt channel now) (mq.refuse p)
  | lose {mmpkt p : TxPkt} {channel : U8} {now : U32}
      (hframe : morseSkbqFrame mmpkt channel now = .ok p) (hfull : morseSkbqFull mq p = true)
      (hcommand : mq.isCommand = true) :
      SkbqEffect mq (.mmpktTx mmpkt channel now) (mq.count p)
  | putBack {txSts : MorseSkbTxStatus} {now : U32} {p : TxPkt} {before behind : List TxPkt}
      {gone : List TxPktGone} (htakes : mq.TakesBack txSts p)
      (h : SkbqMoves mq { mq with pending := before ++ p :: behind, gone := gone }) :
      SkbqEffect mq (.txStatus txSts now)
        (MorseSkbq.putBack { mq with pending := before ++ p :: behind, gone := gone } p
          (before ++ behind))
  | flush : SkbqEffect mq .txFlush (morseSkbqTxFlush mq)

theorem skbqNext_effect {e : SkbqEvent} (hd : mq.Distinct)
    (hcaller : SkbqCallerOk mq e) (h : skbqNext mq e = some mq') : SkbqEffect mq e mq' := by
  cases e with
  | mmpktTx mmpkt channel now =>
    change (morseSkbqMmpktTx mq mmpkt channel now).toOption = some mq' at h
    rw [morseSkbqMmpktTx_eq mq hcaller] at h
    cases hframe : morseSkbqFrame mmpkt channel now with
    | error a =>
      rw [hframe, exceptBind_error] at h
      cases h
    | ok p =>
      rw [hframe, exceptBind_ok] at h
      cases hfull : morseSkbqFull mq p with
      | false =>
        rw [if_pos hfull] at h
        cases h
        exact .put hframe hfull
      | true =>
        rw [if_neg (by simp [hfull])] at h
        split at h
        · exact absurd h (by simp [Except.toOption])
        rename_i hpending
        split at h
        · rename_i hdata
          cases h
          exact .refuse hframe hfull (not_not.mp hpending) hdata
        rename_i hcommand
        split at h
        · exact absurd h (by simp [Except.toOption])
        · cases h
          exact .lose hframe hfull (by simpa using hcommand)
  | deq size =>
    cases h
    exact .moves (morseSkbqDeqLoop_moves mq size mq.skbq)
  | deqNumItems numItems =>
    cases h
    exact .moves (morseSkbqDeqNumItems_moves mq numItems)
  | txComplete =>
    cases h
    exact .moves (.single (.complete mq))
  | txFailed failed =>
    cases h
    exact .moves (.single (.fail mq fun p => failed.contains p.addr))
  | txStatus txSts now =>
    change (morseSkbqTxStatusProcess mq txSts now).toOption = some mq' at h
    rcases morseSkbqTxStatusProcess_cases hd txSts now with
      ⟨p, before, behind, pending, gone, htakes, hmoves, hpending, hok⟩
      | ⟨_, ⟨mq'', hok, hmoves⟩ | herror⟩
    · rw [hok] at h
      cases h
      subst hpending
      exact .putBack htakes hmoves
    · rw [hok] at h
      cases h
      exact .moves hmoves
    · rw [herror] at h
      exact absurd h (by simp [Except.toOption])
  | checkForStaleTx now =>
    obtain ⟨mq'', hok, hmoves⟩ :=
      morseSkbqCheckForStaleTxLoop_moves now hd (fun _ h => h) hd.pending
    change (morseSkbqCheckForStaleTx mq now).toOption = some mq' at h
    unfold morseSkbqCheckForStaleTx at h
    rw [hok] at h
    cases h
    exact .moves hmoves
  | txFlush =>
    cases h
    exact .flush

theorem held_putBack {before behind : List TxPkt} (hpending : mq.pending = before ++ p :: behind) :
    (mq.putBack p (before ++ behind)).held = mq.held := by
  have hskbq : ((if mq.FitsAtTail p then mq.skbq ++ [p] else p :: mq.skbq : List TxPkt) :
      Multiset TxPkt) = {p} + ↑mq.skbq := by
    split
    · rw [← Multiset.coe_add, Multiset.coe_singleton]
      ac_rfl
    · rw [← Multiset.cons_coe, Multiset.singleton_add]
  unfold MorseSkbq.held MorseSkbq.putBack
  dsimp only
  rw [hskbq, hpending, ← Multiset.coe_add, ← Multiset.coe_add, ← Multiset.cons_coe,
    ← Multiset.singleton_add]
  ac_rfl

theorem SkbqEffect.held {e : SkbqEvent} (h : SkbqEffect mq e mq') : mq'.held ≤ mq.held
      ∨ ∃ mmpkt p channel now, e = .mmpktTx mmpkt channel now
        ∧ morseSkbqFrame mmpkt channel now = .ok p
        ∧ mq' = mq.put p ∧ mq'.held = mq.numbered p ::ₘ mq.held := by
  have hmoves : ∀ {mq mq' : MorseSkbq}, SkbqMoves mq mq' → mq'.held ≤ mq.held := by
    intro mq mq' h
    induction h with
    | refl => exact le_refl _
    | tail _ hmove ih => exact hmove.held_le.trans ih
  cases h with
  | moves h => exact Or.inl (hmoves h)
  | @put mmpkt p channel now hframe hroom =>
    right
    refine ⟨mmpkt, p, channel, now, rfl, hframe, rfl, ?_⟩
    show (↑(mq.skbq ++ [mq.numbered p]) : Multiset TxPkt) + ↑mq.pending + ↑mq.taken
      = mq.numbered p ::ₘ (↑mq.skbq + ↑mq.pending + ↑mq.taken)
    rw [← Multiset.coe_add, Multiset.coe_singleton, ← Multiset.singleton_add]
    ac_rfl
  | refuse | lose => exact Or.inl (le_refl _)
  | putBack htakes h =>
    left
    rw [held_putBack rfl]
    exact hmoves h
  | flush =>
    left
    show (↑([] : List TxPkt) : Multiset TxPkt) + ↑([] : List TxPkt) + ↑mq.taken ≤ _
    rw [Multiset.coe_nil, zero_add, zero_add]
    exact Multiset.le_add_left _ _

theorem skbqNext_distinct {e : SkbqEvent} (hd : mq.Distinct)
    (hcaller : SkbqCallerOk mq e) (h : skbqNext mq e = some mq') : mq'.Distinct := by
  rcases (skbqNext_effect hd hcaller h).held with hle | ⟨mmpkt, p, channel, now, rfl, hframe, _, hheld⟩
  · exact Multiset.nodup_of_le (Multiset.map_le_map hle) hd
  unfold MorseSkbq.Distinct
  rw [hheld, Multiset.map_cons, Multiset.nodup_cons]
  refine ⟨?_, hd⟩
  show p.addr ∉ _
  rw [addr_morseSkbqFrame hframe]
  exact hcaller

theorem morseSkbqInit_distinct (kind : SkbqKind) : (morseSkbqInit kind).Distinct :=
  Multiset.nodup_zero

/-! ## Evaluation -/

instance : (mq : MorseSkbq) → (e : SkbqEvent) → Decidable (SkbqCallerOk mq e)
  | mq, .mmpktTx mmpkt _ _ => inferInstanceAs (Decidable (mmpkt.addr ∉ mq.held.map TxPkt.addr))
  | _, .deq _ | _, .deqNumItems _ | _, .txComplete | _, .txFailed _ | _, .txStatus _ _
  | _, .checkForStaleTx _ | _, .txFlush => isTrue trivial

instance (mq : MorseSkbq) (txSts : MorseSkbTxStatus) (p : TxPkt) :
    Decidable (mq.TakesBack txSts p) := inferInstanceAs (Decidable (_ ∧ _))

/-- A packet of `len` octets at the address `addr`. -/
def barePkt (addr : Nat) (len : U32) : TxPkt where
  addr := addr
  dataStart := 0x1000
  dataLength := len
  spaceAtStart := 64
  spaceAtEnd := 64
  hdr := ⟨0, 0, 0, 0, 0⟩
  timeoutAbsMs := 0
  tailPadding := 0
  statusFlags := 0
  attempts := 0

/-- The status that hands back the best-effort packet with this id. -/
def psFilteredStatus (pktId : U32) : MorseSkbTxStatus :=
  ⟨morseTxStatusFlagsPsFiltered, pktId, 0, morseSkbChanData, []⟩

end MmIotEsp32.Driver
