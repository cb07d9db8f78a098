/-
  MmIotEsp32.Umac.Datapath.ReplayOrder

  The replay check of data frames, over a whole run.
-/
import MmIotEsp32.Umac.StadRuns

namespace MmIotEsp32.Umac.Datapath

open Lib Dot11 Keys Ba SupplicantShim

variable {env : UmacEnv} {slot : KeySlot} {c₀ : Nat} {u u' : UmacData}

/-! ## The counter of a key -/

/-- The packet number, if it was checked against the key of the slot. -/
def checkedNumber (slot : KeySlot) (ccmp : Option (KeySlot × U64 × Bool)) : Option U64 :=
  ccmp.bind fun check => if check.1 = slot then some check.2.1 else none

/-- The counter after the frames of a log, which started at `c₀`. -/
def counterAfter (slot : KeySlot) (c₀ : Nat) : List RxRecord → Nat
  | [] => c₀
  | r :: earlier =>
    match checkedNumber slot r.ccmp with
    | none => counterAfter slot c₀ earlier
    | some packetNumber => max packetNumber.toNat (counterAfter slot c₀ earlier)

/-- Each frame was accepted exactly when its packet number was above the counter. -/
def AnswersRight (slot : KeySlot) (c₀ : Nat) : List RxRecord → Prop
  | [] => True
  | r :: earlier =>
    (∀ packetNumber valid, r.ccmp = some (slot, packetNumber, valid) →
      (valid = true ↔ counterAfter slot c₀ earlier < packetNumber.toNat))
    ∧ AnswersRight slot c₀ earlier

theorem checkedNumber_eq_some {ccmp : Option (KeySlot × U64 × Bool)} {packetNumber : U64} :
    checkedNumber slot ccmp = some packetNumber ↔
      ∃ valid, ccmp = some (slot, packetNumber, valid) := by
  unfold checkedNumber
  cases ccmp with
  | none => simp
  | some check =>
    obtain ⟨checkSlot, number, valid⟩ := check
    simp only [Option.bind_some]
    constructor
    · intro h
      split at h
      · next hslot =>
          subst hslot
          cases h
          exact ⟨valid, rfl⟩
      · cases h
    rintro ⟨valid', h⟩
    obtain ⟨rfl, hrest⟩ := Prod.mk.inj (Option.some.inj h)
    obtain ⟨rfl, -⟩ := Prod.mk.inj hrest
    rw [if_pos rfl]

theorem counterAfter_lt_iff {l : List RxRecord} {n : Nat} :
    counterAfter slot c₀ l < n ↔
      c₀ < n ∧ ∀ r ∈ l, ∀ packetNumber ∈ checkedNumber slot r.ccmp, packetNumber.toNat < n := by
  induction l with
  | nil =>
    show c₀ < n ↔ _
    simp
  | cons r earlier ih =>
    rw [List.forall_mem_cons]
    unfold counterAfter
    cases hnumber : checkedNumber slot r.ccmp with
    | none =>
      rw [ih]
      simp
    | some packetNumber =>
      simp only [Option.mem_some_iff, forall_eq']
      rw [max_lt_iff, ih]
      exact and_left_comm

theorem AnswersRight.of_append {later earlier : List RxRecord} {r : RxRecord}
    (h : AnswersRight slot c₀ (later ++ r :: earlier)) : AnswersRight slot c₀ (r :: earlier) := by
  induction later with
  | nil => exact h
  | cons r' later ih => exact ih h.2

/-! ## One frame -/

/-- The keychain is consistent, the counter of the slot's key is what the log says, and so
were the answers of the check. -/
structure ReplayInv (slot : KeySlot) (c₀ : Nat) (u : UmacData) : Prop where
  chains : FragChainsOk u
  slots : SlotsOk u.stad.keys
  counter : ∃ key, installedKey u.stad.keys slot = some key
    ∧ (key.rxSeq .default).toNat = counterAfter slot c₀ u.rxLog
  answers : AnswersRight slot c₀ u.rxLog

theorem ReplayInv.of_same (h : ReplayInv slot c₀ u)
    (hchains : u'.stad.datapath.fragChains = u.stad.datapath.fragChains)
    (hkeys : u'.stad.keys = u.stad.keys) (hlog : u'.rxLog = u.rxLog) : ReplayInv slot c₀ u' where
  chains := by
    unfold FragChainsOk
    rw [hchains]
    exact h.chains
  slots := by
    rw [hkeys]
    exact h.slots
  counter := by
    rw [hkeys, hlog]
    exact h.counter
  answers := by
    rw [hlog]
    exact h.answers

theorem ReplayInv.handOn (h : ReplayInv slot c₀ u) {x : Mmpkt}
    (heq : umacDatapathProcessRxDataFrameAfterReorder env u x = some u') :
    ReplayInv slot c₀ u' := by
  obtain ⟨record, hspec⟩ := afterReorder_of_eq_some heq h.chains
  obtain ⟨key, hkey, hcounter⟩ := h.counter
  rcases hspec.ccmp with ⟨hnone, hkeys⟩ | ⟨valid, hcheck, hvalid⟩
  · -- the frame was not checked
    have hnumber : checkedNumber slot record.ccmp = none := by rw [checkedNumber, hnone]; rfl
    refine ⟨hspec.chains, hkeys ▸ h.slots, ⟨key, hkeys ▸ hkey, ?_⟩, ?_⟩
    · rw [hspec.rxLog]
      unfold counterAfter
      rw [hnumber]
      exact hcounter
    rw [hspec.rxLog]
    refine ⟨fun packetNumber valid hccmp => ?_, h.answers⟩
    rw [hnone] at hccmp
    cases hccmp
  obtain ⟨hslots, hanswer, hinstalled⟩ := ccmpIsValid_installed h.slots hvalid
  generalize hslot : ccmpSlot (rxCcmpHeader x.dataStart) = checkedSlot at *
  generalize hnumber : parseCcmpPacketNumber (rxCcmpHeader x.dataStart) = number at *
  by_cases hsame : checkedSlot = slot
  · subst hsame
    have hchecked : checkedNumber checkedSlot record.ccmp = some number :=
      checkedNumber_eq_some.mpr ⟨valid, hcheck⟩
    have hanswer' : valid = true ↔ counterAfter checkedSlot c₀ u.rxLog < number.toNat := by
      rw [hanswer, ← hcounter]
      constructor
      · rintro ⟨key', hkey', hlt⟩
        obtain rfl := Option.some.inj (hkey.symm.trans hkey')
        exact hlt
      · intro hlt
        exact ⟨key, hkey, hlt⟩
    refine ⟨hspec.chains, hslots, ?_, ?_⟩
    · rw [hinstalled, hkey, hspec.rxLog]
      unfold counterAfter
      rw [hchecked]
      dsimp only
      by_cases haccepted : valid = true
      · rw [if_pos ⟨haccepted, rfl⟩]
        refine ⟨_, rfl, ?_⟩
        show (Function.update key.rxSeq .default number .default).toNat = _
        rw [Function.update_self, max_eq_left (Nat.le_of_lt (hanswer'.mp haccepted))]
      · rw [if_neg (fun h => haccepted h.1)]
        refine ⟨key, rfl, ?_⟩
        rw [hcounter, max_eq_right (Nat.le_of_not_lt fun hlt => haccepted (hanswer'.mpr hlt))]
    rw [hspec.rxLog]
    refine ⟨fun packetNumber valid' hccmp => ?_, h.answers⟩
    rw [hcheck] at hccmp
    obtain ⟨-, hrest⟩ := Prod.mk.inj (Option.some.inj hccmp)
    cases hrest
    exact hanswer'
  -- the frame was checked against another key
  have hnone : checkedNumber slot record.ccmp = none := by
    rw [checkedNumber, hcheck, Option.bind_some, if_neg hsame]
  refine ⟨hspec.chains, hslots, ⟨key, ?_, ?_⟩, ?_⟩
  · rw [hinstalled, if_neg (fun h => hsame h.2.symm), hkey]
  · rw [hspec.rxLog]
    unfold counterAfter
    rw [hnone]
    exact hcounter
  rw [hspec.rxLog]
  refine ⟨fun packetNumber valid' hccmp => ?_, h.answers⟩
  rw [hcheck] at hccmp
  obtain ⟨hslot', -⟩ := Prod.mk.inj (Option.some.inj hccmp)
  exact absurd hslot' hsame

/-! ## A run -/

theorem receiveInvariant_replay (env : UmacEnv) (slot : KeySlot) (c₀ : Nat) :
    ReceiveInvariant env (ReplayInv slot c₀) where
  handOn := fun h heq => h.handOn heq
  list := fun _ h => h.of_same rfl rfl rfl
  listTid := fun _ h => h.of_same rfl rfl rfl
  ticked := fun h => h.of_same rfl rfl rfl
  timeout := by
    intro u h
    unfold umacCoreRegisterTimeout
    split <;> exact h.of_same rfl rfl rfl
  outdated := fun _ h => h.of_same rfl rfl rfl

theorem keyedInvariant_replay (env : UmacEnv) (slot : KeySlot) (c₀ : Nat) :
    KeyedInvariant env (ReplayInv slot c₀) where
  sessions := fun h hsame => h.of_same (by rw [hsame.datapath]) hsame.keys hsame.rxLog
  rxDataFrame := fun h heq => (receiveInvariant_replay env slot c₀).processRxDataFrame h heq
  flushForTid := fun h heq => (receiveInvariant_replay env slot c₀).flushForTid h heq
  reorderTimeout := fun h heq => (receiveInvariant_replay env slot c₀).timeoutHandler h heq
  defragTimeout := by
    intro u i h _
    refine ⟨h.chains.update rfl fun buf hbuf => ?_, h.slots, h.counter, h.answers⟩
    cases hbuf

/-- The key of the slot stays the one that it is. -/
def KeepsKey (slot : KeySlot) (u : UmacData) : StadEvent → Prop
  | .keysChanged keys => SlotsOk keys ∧ installedKey keys slot = installedKey u.stad.keys slot
  | _ => True

theorem ReplayInv.step {e : StadEvent} (h : ReplayInv slot c₀ u) (hkeys : KeepsKey slot u e)
    (heq : stadStep env u e = some u') : ReplayInv slot c₀ u' := by
  by_cases hchanged : ∃ keys, e = .keysChanged keys
  · obtain ⟨keys, rfl⟩ := hchanged
    obtain ⟨hslots, hsame⟩ := hkeys
    cases heq
    obtain ⟨key, hkey, hcounter⟩ := h.counter
    exact ⟨h.chains, hslots, ⟨key, hsame.trans hkey, hcounter⟩, h.answers⟩
  · exact (keyedInvariant_replay env slot c₀).step h (fun keys he => hchanged ⟨keys, he⟩) heq

/-- A STA record with a pairwise key in the slot, whose counter is `c₀`, and no frame handed
on yet. -/
structure UnderPairwiseKey (slot : KeySlot) (c₀ : Nat) (u : UmacData) : Prop where
  chains : FragChainsOk u
  slots : SlotsOk u.stad.keys
  key : ∃ key, installedKey u.stad.keys slot = some key ∧ key.keyType = .pairwise
    ∧ (key.rxSeq .default).toNat = c₀
  rxLog : u.rxLog = []

theorem UnderPairwiseKey.replayInv (h : UnderPairwiseKey slot c₀ u) : ReplayInv slot c₀ u where
  chains := h.chains
  slots := h.slots
  counter := by
    obtain ⟨key, hkey, -, hcounter⟩ := h.key
    refine ⟨key, hkey, ?_⟩
    rw [h.rxLog]
    exact hcounter
  answers := by
    rw [h.rxLog]
    trivial

/-- The packet numbers are new, and those of each TID are handed on in order. -/
structure TidsInOrder (slot : KeySlot) (c₀ : Nat) (log : List RxRecord) : Prop where
  fresh : ∀ r ∈ log, ∀ n ∈ checkedNumber slot r.ccmp, c₀ < n.toNat
  ordered : log.Pairwise fun later earlier => later.tidIndex = earlier.tidIndex →
    ∀ m ∈ checkedNumber slot later.ccmp, ∀ n ∈ checkedNumber slot earlier.ccmp, n.toNat < m.toNat

/-- When the frames of each TID are handed on in order, a frame is accepted exactly when no
frame of another TID with a later packet number was handed on before it. -/
theorem replay_accepts_iff (env : UmacEnv) (slot : KeySlot) (c₀ : Nat) (u₀ u : UmacData)
    (hstart : UnderPairwiseKey slot c₀ u₀) (events : List StadEvent)
    (hkeys : Along (stadStep env) (KeepsKey slot) u₀ events)
    (hrun : runFrom (stadStep env) u₀ events = some u) (horder : TidsInOrder slot c₀ u.rxLog)
    (later earlier : List RxRecord) (r : RxRecord) (hlog : u.rxLog = later ++ r :: earlier)
    (packetNumber : U64) (valid : Bool) (hccmp : r.ccmp = some (slot, packetNumber, valid)) :
    valid = true ↔
      ∀ r' ∈ earlier, r'.tidIndex ≠ r.tidIndex →
        ∀ n ∈ checkedNumber slot r'.ccmp, n.toNat < packetNumber.toNat := by
  have hinv : ReplayInv slot c₀ u :=
    (throughout_of_step (fun _ _ _ h he heq => ReplayInv.step h he heq) hstart.replayInv
      hkeys).of_runFrom hrun
  have hanswers := hinv.answers
  rw [hlog] at hanswers horder
  have hnumber : checkedNumber slot r.ccmp = some packetNumber :=
    checkedNumber_eq_some.mpr ⟨valid, hccmp⟩
  rw [hanswers.of_append.1 packetNumber valid hccmp, counterAfter_lt_iff]
  constructor
  · rintro ⟨-, hall⟩ r' hr' - n hn
    exact hall r' hr' n hn
  intro hothers
  refine ⟨horder.fresh r (List.mem_append_right later (List.mem_cons_self ..)) packetNumber
    hnumber, fun r' hr' n hn => ?_⟩
  by_cases htid : r'.tidIndex = r.tidIndex
  · -- the frames of the same TID came in order
    have hpairs := (List.pairwise_append.mp horder.ordered).2.1
    exact (List.pairwise_cons.mp hpairs).1 r' hr' htid.symm packetNumber hnumber n hn
  · exact hothers r' hr' htid n hn

/-- A QoS data frame of the TID, protected under key 0, without payload. -/
def protectedMpdu (tid : U8) (seqCtrl : U16) (packetNumber : U8) : Mmpkt where
  startOffset := 0
  data := (bareHdr 0x4088 seqCtrl).take sizeofDot11Hdr ++ [tid, 0]
    ++ [packetNumber, 0, 0, 0, 0, 0, 0, 0] ++ List.replicate dot11Ccmp128MicLen 0
  behind := fun _ => 0
  tailroom := 0
  rx := ⟨true, 0⟩

/-- A STA record with a session for TID 0 and a pairwise key under key id 0. -/
def keyedSession : UmacData :=
  (umacStadInit.setBa (umacStadInit.stad.ba.setSession
    { UmacBaSession.zero with status := .success, bufferSize := 4 }
    (.recipient ⟨0, umacBaMaxSessions_pos⟩))).setKeys
      (connectionKeysInstallKey connectionKeysInit (bareKey 0 .pairwise)).1

theorem keyedSession_underPairwiseKey : UnderPairwiseKey ⟨0, by decide⟩ 0 keyedSession where
  chains := by
    intro i buf hbuf
    cases hbuf
  slots :=
    have hinstall : keychainStep connectionKeysInit (.install (bareKey 0 .pairwise))
        = some (connectionKeysInstallKey connectionKeysInit (bareKey 0 .pairwise)).1 := rfl
    keychainStep_slotsOk connectionKeysInit_inv.toSlotsOk hinstall
  key := ⟨_, rfl, rfl, rfl⟩
  rxLog := rfl

/-- What is kept of the check of each frame: its TID, and its packet number with the answer. -/
def checks (u : UmacData) : List (U8 × Option (KeySlot × U64 × Bool)) :=
  u.rxLog.map fun r => (r.tidIndex, r.ccmp)

theorem tidsInOrder_of_checks {l : List (U8 × Option (KeySlot × U64 × Bool))}
    (hchecks : checks u = l)
    (hfresh : l.all fun c => (checkedNumber slot c.2).all fun n => decide (c₀ < n.toNat))
    (hordered : l.Pairwise fun later earlier => later.1 = earlier.1 →
      (checkedNumber slot later.2).all fun m =>
        (checkedNumber slot earlier.2).all fun n => decide (n.toNat < m.toNat)) :
    TidsInOrder slot c₀ u.rxLog := by
  subst hchecks
  constructor
  · intro r hr n hn
    have hall := List.all_eq_true.mp hfresh _ (List.mem_map_of_mem hr)
    rw [Option.mem_def.mp hn, Option.all_some] at hall
    exact of_decide_eq_true hall
  refine (List.pairwise_map.mp hordered).imp fun h htid m hm n hn => ?_
  have hall := h htid
  rw [Option.mem_def.mp hm, Option.all_some, Option.mem_def.mp hn, Option.all_some] at hall
  exact of_decide_eq_true hall

theorem along_keepsKey (env : UmacEnv) (slot : KeySlot) (u : UmacData) (frames : List Mmpkt) :
    Along (stadStep env) (KeepsKey slot) u (frames.map .rxDataFrame) := by
  apply along_of_forall_mem
  intro e he s
  obtain ⟨x, -, rfl⟩ := List.mem_map.mp he
  trivial

/-- Two frames of a session arrive the wrong way round, are put back in order, and both are
accepted. -/
theorem replay_accepts_reordered :
    ∃ u r, runFrom (stadStep openEnv) keyedSession
        ([protectedMpdu 0 0x00 1, protectedMpdu 0 0x20 3, protectedMpdu 0 0x10 2].map
          .rxDataFrame) = some u
      ∧ u.rxLog.head? = some r ∧ r.ccmp = some (⟨0, by decide⟩, 3, true) := by
  have hend : (runFrom (stadStep openEnv) keyedSession
      ([protectedMpdu 0 0x00 1, protectedMpdu 0 0x20 3, protectedMpdu 0 0x10 2].map
        .rxDataFrame)).map checks
      = some [(0, some (⟨0, by decide⟩, 3, true)), (0, some (⟨0, by decide⟩, 2, true)),
        (0, some (⟨0, by decide⟩, 1, true))] := by decide +kernel
  obtain ⟨u, hrun, hchecks⟩ := Option.map_eq_some_iff.mp hend
  obtain ⟨r, earlier, hlog, hr, hearlier⟩ := List.map_eq_cons_iff.mp hchecks
  obtain ⟨htid, hccmp⟩ := Prod.mk.inj hr
  refine ⟨u, r, hrun, by rw [hlog]; rfl, ?_⟩
  obtain ⟨check, hcheck⟩ : ∃ valid, r.ccmp = some (⟨0, by decide⟩, 3, valid) := ⟨true, hccmp⟩
  rw [hcheck]
  have horder : TidsInOrder ⟨0, by decide⟩ 0 u.rxLog := by
    apply tidsInOrder_of_checks hchecks
    · decide +kernel
    · decide +kernel
  have haccepted := (replay_accepts_iff openEnv ⟨0, by decide⟩ 0 keyedSession u
    keyedSession_underPairwiseKey _ (along_keepsKey _ _ _ _) hrun horder [] earlier r hlog 3 check
    hcheck).mpr ?_
  · rw [haccepted]
  -- every frame before it is of the same TID
  intro r' hr' hother
  have hmem := List.mem_map_of_mem (f := fun r : RxRecord => (r.tidIndex, r.ccmp)) hr'
  rw [hearlier] at hmem
  have hzero : r'.tidIndex = 0 := by
    rcases List.mem_cons.mp hmem with h | h
    · exact (Prod.mk.inj h).1
    · exact (Prod.mk.inj (List.mem_singleton.mp h)).1
  exact absurd (hzero.trans htid.symm) hother

/-- A frame of TID 1 goes ahead of the second of three frames of TID 0, which is refused when
it arrives. -/
theorem replay_refuses_after_other_tid :
    ¬ ∀ (env : UmacEnv) (slot : KeySlot) (c₀ : Nat) (u₀ u : UmacData),
      UnderPairwiseKey slot c₀ u₀ → ∀ events : List StadEvent,
        Along (stadStep env) (KeepsKey slot) u₀ events →
          runFrom (stadStep env) u₀ events = some u → TidsInOrder slot c₀ u.rxLog →
            ∀ r ∈ u.rxLog, ∀ packetNumber valid,
              r.ccmp = some (slot, packetNumber, valid) → valid = true := by
  intro h
  have hend : (runFrom (stadStep openEnv) keyedSession
      ([protectedMpdu 0 0x00 1, protectedMpdu 0 0x20 3, protectedMpdu 1 0x00 4,
        protectedMpdu 0 0x10 2].map .rxDataFrame)).map checks
      = some [(0, some (⟨0, by decide⟩, 2, false)), (1, some (⟨0, by decide⟩, 4, true)),
        (0, some (⟨0, by decide⟩, 1, true))] := by decide +kernel
  obtain ⟨u, hrun, hchecks⟩ := Option.map_eq_some_iff.mp hend
  obtain ⟨r, earlier, hlog, hr, -⟩ := List.map_eq_cons_iff.mp hchecks
  have horder : TidsInOrder ⟨0, by decide⟩ 0 u.rxLog := by
    apply tidsInOrder_of_checks hchecks
    · decide +kernel
    · decide +kernel
  have hvalid := h openEnv ⟨0, by decide⟩ 0 keyedSession u keyedSession_underPairwiseKey _
    (along_keepsKey _ _ _ _) hrun horder r (by rw [hlog]; exact List.mem_cons_self ..) 2 false
    (Prod.mk.inj hr).2
  exact Bool.noConfusion hvalid

end MmIotEsp32.Umac.Datapath
