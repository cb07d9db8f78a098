/-
  MmIotEsp32.Umac.Datapath.ReorderOrder

  The order in which a block-ack session releases its frames.
-/
import Mathlib.Data.List.Chain
import MmIotEsp32.Umac.Datapath.Reorder

namespace MmIotEsp32.Umac.Datapath

open Dot11 Keys Ba Lib

/-! ## Positions -/

/-- The sequence control of a frame. -/
def seqOf (pkt : Mmpkt) : U16 := sequenceControl pkt.dataStart

/-- The sequence control that follows a frame. -/
def nextOf (pkt : Mmpkt) : U16 := dot11GetNextSequenceControl pkt.dataStart

/-- Where the frame starts, seen from `e`. -/
def startAt (e : U16) (pkt : Mmpkt) : Nat := serialDist e (seqOf pkt)

/-- Where the frame ends, seen from `e`. -/
def endAt (e : U16) (pkt : Mmpkt) : Nat := startAt e pkt + serialDist (seqOf pkt) (nextOf pkt)

/-- Half the sequence space. -/
def halfSpace : Nat := 0x8000

theorem startAt_lt_endAt (e : U16) (pkt : Mmpkt) : startAt e pkt < endAt e pkt := by
  have hlen := (serialDist_next pkt.dataStart).1
  unfold endAt
  show startAt e pkt < startAt e pkt + serialDist (sequenceControl pkt.dataStart)
    (dot11GetNextSequenceControl pkt.dataStart)
  omega

variable {e : U16}

theorem serialDist_nextOf {pkt : Mmpkt} (h : endAt e pkt < halfSpace) :
    serialDist e (nextOf pkt) = endAt e pkt := by
  unfold endAt startAt halfSpace at h
  exact serialDist_add (by omega)

theorem lt_iff_startAt {a b : Mmpkt} (ha : startAt e a < halfSpace) (hb : startAt e b < halfSpace) :
    dot11SequenceControlLt (seqOf a) (seqOf b) = true ↔ startAt e a < startAt e b := by
  unfold startAt halfSpace at *
  exact serialLt_iff_dist (by omega) (by omega)

theorem startAt_of_not_lt {pkt : Mmpkt}
    (h : dot11SequenceControlLt (seqOf pkt) e = false) : startAt e pkt < halfSpace := by
  have hdist := serialDist_of_not_serialLt h
  unfold startAt halfSpace
  omega

theorem startAt_shift {a b : Mmpkt} (ha : endAt e a < halfSpace)
    (hab : endAt e a ≤ startAt e b) : startAt (nextOf a) b = startAt e b - endAt e a := by
  unfold startAt at hab ⊢
  rw [← serialDist_nextOf ha] at hab ⊢
  exact serialDist_of_le hab

theorem endAt_shift {a b : Mmpkt} (ha : endAt e a < halfSpace)
    (hab : endAt e a ≤ startAt e b) : endAt (nextOf a) b = endAt e b - endAt e a := by
  have hstart := startAt_shift ha hab
  unfold endAt at hstart ⊢
  rw [hstart]
  unfold endAt at hab
  omega

theorem not_lt_of_forward {pkt : Mmpkt} (h : endAt e pkt < halfSpace) :
    dot11SequenceControlLt (nextOf pkt) e = false := by
  rw [Bool.eq_false_iff]
  intro hlt
  have hdist := (serialLt_iff (nextOf pkt) e).mp hlt
  rw [serialDist_nextOf h] at hdist
  unfold halfSpace at h
  omega

/-! ## What should hold of a run -/

/-- The sequence controls handed on, latest first. -/
def handedOn (u : UmacData) : List U16 := u.rxLog.map RxRecord.seqCtrl

/-- The next expected sequence number of the session. -/
abbrev expectedOf (tid : BaTid) (u : UmacData) : U16 :=
  (u.stad.ba.recipient tid).nextExpectedRxSeqNum

/-- The expected sequence numbers, latest first, down to the one at the start. -/
def expectedValues (e₀ : U16) (u : UmacData) : List U16 :=
  u.rxLog.filterMap RxRecord.expected ++ [e₀]

/-- The frames were handed on in order, and the expected sequence number, of which
`expectedValues` is the history, never moved backwards. -/
structure ReleasedInOrder (tid : BaTid) (e₀ : U16) (u : UmacData) : Prop where
  frames : (handedOn u).IsChain fun later earlier => dot11SequenceControlLt earlier later = true
  latest : (expectedValues e₀ u).head? = some (expectedOf tid u)
  window : (expectedValues e₀ u).IsChain fun later earlier =>
    dot11SequenceControlLt later earlier = false

/-- Every frame handed on passed the security checks. -/
def AllPassed (u : UmacData) : Prop := ∀ r ∈ u.rxLog, r.passedSecurity = true

/-! ## The invariant -/

/-- The frame moves the expected sequence number when it passes. -/
def MovesWindow (env : UmacEnv) (pkt : Mmpkt) : Prop :=
  dot11FrameControlGetProtected (frameControl pkt.dataStart) = true ∨ env.securityType = .open

/-- The buffered frames. -/
abbrev buffered (u : UmacData) : List Mmpkt := u.stad.datapath.rxReorderList

/-- A frame that may wait among the frames `l` when `e` is expected and `last` was
handed on last: whatever is released right before it, it is ahead of that. -/
structure Placeable (env : UmacEnv) (tid : BaTid) (e : U16) (last : Option U16) (l : List Mmpkt)
    (x : Mmpkt) : Prop where
  onTid : (rxTidIndex x.dataStart).toNat = tid.val
  moves : MovesWindow env x
  ahead : startAt e x < halfSpace
  endsNear : endAt e x < halfSpace
    ∨ ∃ y ∈ l, startAt e y < startAt e x ∧ endAt e x < endAt e y + halfSpace
  behindLast : (∀ s ∈ last, dot11SequenceControlLt s (seqOf x) = true)
    ∨ ∃ y ∈ l, startAt e y < startAt e x

variable {tid : BaTid} {env : UmacEnv} {x : Mmpkt} {last : Option U16}

theorem Placeable.mono {l l' : List Mmpkt} (h : Placeable env tid e last l x) (hsub : l ⊆ l') :
    Placeable env tid e last l' x where
  onTid := h.onTid
  moves := h.moves
  ahead := h.ahead
  endsNear := h.endsNear.imp_right fun ⟨y, hy, hlt⟩ => ⟨y, hsub hy, hlt⟩
  behindLast := h.behindLast.imp_right fun ⟨y, hy, hlt⟩ => ⟨y, hsub hy, hlt⟩

/-- The invariant of a session on one TID. -/
structure ReorderInv (env : UmacEnv) (tid : BaTid) (e₀ : U16) (u : UmacData) : Prop where
  status : (u.stad.ba.recipient tid).status = .success
  bufferSize : (u.stad.ba.recipient tid).bufferSize ≠ 0
  chains : FragChainsOk u
  listTid : buffered u ≠ [] → u.stad.datapath.rxReorderTid.toNat = tid.val
  spaced : (buffered u).Pairwise fun a b =>
    endAt (expectedOf tid u) a ≤ startAt (expectedOf tid u) b
  placed : ∀ x ∈ buffered u,
    Placeable env tid (expectedOf tid u) (handedOn u).head? (buffered u) x
  inOrder : ReleasedInOrder tid e₀ u

variable {rest : List Mmpkt}

theorem Placeable.of_head (h : Placeable env tid e last (x :: rest) x)
    (hrest : ∀ y ∈ rest, endAt e x ≤ startAt e y) :
    endAt e x < halfSpace ∧ ∀ s ∈ last, dot11SequenceControlLt s (seqOf x) = true := by
  have hnone : ∀ y ∈ x :: rest, ¬ startAt e y < startAt e x := by
    intro y hy
    rcases List.mem_cons.mp hy with rfl | hy
    · exact Nat.lt_irrefl _
    · have hxy := hrest y hy
      have hlen := startAt_lt_endAt e x
      omega
  constructor
  · rcases h.endsNear with hnear | ⟨y, hy, hlt, _⟩
    · exact hnear
    · exact absurd hlt (hnone y hy)
  · rcases h.behindLast with hlast | ⟨y, hy, hlt⟩
    · exact hlast
    · exact absurd hlt (hnone y hy)

theorem Placeable.behind_head {x z : Mmpkt} (hx : endAt e x < halfSpace)
    (hrest : ∀ y ∈ rest, endAt e x ≤ startAt e y) (hz : Placeable env tid e last (x :: rest) z)
    (hxz : endAt e x ≤ startAt e z) : Placeable env tid (nextOf x) (some (seqOf x)) rest z := by
  have hlen := startAt_lt_endAt e x
  have hstart := startAt_shift hx hxz
  have hend := endAt_shift hx hxz
  have hahead := hz.ahead
  refine ⟨hz.onTid, hz.moves, by omega, ?_, Or.inl ?_⟩
  · rcases hz.endsNear with hnear | ⟨y, hy, hlt, hnear⟩
    · exact Or.inl (by omega)
    rcases List.mem_cons.mp hy with rfl | hy
    · exact Or.inl (by omega)
    have hystart := startAt_shift hx (hrest y hy)
    have hyend := endAt_shift hx (hrest y hy)
    have hxy := hrest y hy
    have hleny := startAt_lt_endAt e y
    exact Or.inr ⟨y, hy, by omega, by omega⟩
  · intro s hs
    obtain rfl : seqOf x = s := Option.some.inj hs
    exact (lt_iff_startAt (by omega) hahead).mpr (by omega)

variable {e₀ : U16} {u : UmacData}

theorem ReorderInv.insert
    {before after : List Mmpkt} (h : ReorderInv env tid e₀ u) (hlist : buffered u = before ++ after)
    (hx : Placeable env tid (expectedOf tid u) (handedOn u).head? (buffered u) x)
    (hbefore : ∀ y ∈ before, endAt (expectedOf tid u) y ≤ startAt (expectedOf tid u) x)
    (hafter : ∀ y ∈ after, endAt (expectedOf tid u) x ≤ startAt (expectedOf tid u) y)
    (htid : u.stad.datapath.rxReorderTid.toNat = tid.val) :
    ReorderInv env tid e₀ (u.setRxReorderList (before ++ x :: after)) := by
  have hsub : buffered u ⊆ before ++ x :: after := by
    intro y hy
    rw [hlist, List.mem_append] at hy
    rw [List.mem_append, List.mem_cons]
    exact hy.imp_right Or.inr
  have hspaced := h.spaced
  rw [hlist, List.pairwise_append] at hspaced
  obtain ⟨hpre, hpost, hcross⟩ := hspaced
  exact
    { status := h.status
      bufferSize := h.bufferSize
      chains := h.chains
      listTid := fun _ => htid
      spaced := by
        show (before ++ x :: after).Pairwise _
        rw [List.pairwise_append, List.pairwise_cons]
        refine ⟨hpre, ⟨hafter, hpost⟩, ?_⟩
        intro a ha b hb
        rcases List.mem_cons.mp hb with rfl | hb
        · exact hbefore a ha
        · exact hcross a ha b hb
      placed := by
        intro y hy
        show Placeable env tid (expectedOf tid u) (handedOn u).head? (before ++ x :: after) y
        rcases List.mem_append.mp hy with hy | hy
        · exact (h.placed y (by rw [hlist]; exact List.mem_append_left _ hy)).mono hsub
        · rcases List.mem_cons.mp hy with rfl | hy
          · exact hx.mono hsub
          · exact (h.placed y (by rw [hlist]; exact List.mem_append_right _ hy)).mono hsub
      inOrder := ⟨h.inOrder.frames, h.inOrder.latest, h.inOrder.window⟩ }

variable {u u' : UmacData}

theorem ReorderInv.of_stad
    (h : ReorderInv env tid e₀ u) (hstad : u'.stad = u.stad) (hlog : u'.rxLog = u.rxLog) :
    ReorderInv env tid e₀ u' := by
  obtain ⟨stad, timeouts, tick, upcalls, rxLog, outdatedDrops⟩ := u
  obtain ⟨stad', timeouts', tick', upcalls', rxLog', outdatedDrops'⟩ := u'
  obtain rfl : stad' = stad := hstad
  obtain rfl : rxLog' = rxLog := hlog
  exact ⟨h.status, h.bufferSize, h.chains, h.listTid, h.spaced, h.placed,
    ⟨h.inOrder.frames, h.inOrder.latest, h.inOrder.window⟩⟩

/-! ## Handing a frame on -/

theorem rxExpected_of_moves
    (hmoves : MovesWindow env x) (htid : (rxTidIndex x.dataStart).toNat = tid.val) :
    rxExpected env x.dataStart (rxTidIndex x.dataStart) = some (nextOf x) := by
  have hlt : tid.val < umacBaMaxSessions := tid.isLt
  have hle : (rxTidIndex x.dataStart).toNat ≤ mmwlanMaxQosTid := by
    unfold umacBaMaxSessions at hlt
    unfold mmwlanMaxQosTid
    omega
  unfold rxExpected
  refine if_pos ?_
  rw [decide_eq_true hle, Bool.true_and, Bool.or_eq_true]
  rcases hmoves with hprot | hopen
  · exact Or.inl hprot
  · exact Or.inr (by rw [hopen]; rfl)

theorem recipient_of_moved {tidIndex : U8} {seqNum : U16}
    (htid : tidIndex.toNat = tid.val) (hstatus : (u.stad.ba.recipient tid).status = .success) :
    (moveExpected u tidIndex (some seqNum)).stad.ba.recipient tid
      = { u.stad.ba.recipient tid with nextExpectedRxSeqNum := seqNum } := by
  show (umacBaSetExpectedRxSeqNum u.stad.ba tidIndex seqNum).recipient tid = _
  rw [umacBaSetExpectedRxSeqNum_recipient, if_pos ⟨baTid?_eq_some.mpr htid, hstatus⟩]

theorem ReleasedInOrder.cons {record : RxRecord}
    (h : ReleasedInOrder tid e₀ u) (hlog : u'.rxLog = record :: u.rxLog)
    (hseq : record.seqCtrl = seqOf x) (hexpected : record.expected = some (nextOf x))
    (he : expectedOf tid u' = nextOf x)
    (hlast : ∀ l ∈ (handedOn u).head?, dot11SequenceControlLt l (seqOf x) = true)
    (hforward : endAt (expectedOf tid u) x < halfSpace) : ReleasedInOrder tid e₀ u' where
  frames := by
    unfold handedOn
    rw [hlog, List.map_cons, hseq]
    apply List.isChain_cons.mpr
    exact ⟨hlast, h.frames⟩
  latest := by
    unfold expectedValues
    rw [hlog, List.filterMap_cons_some hexpected, he]
    rfl
  window := by
    unfold expectedValues
    rw [hlog, List.filterMap_cons_some hexpected, List.cons_append]
    apply List.isChain_cons.mpr
    refine ⟨?_, h.window⟩
    intro l hl
    obtain rfl : expectedOf tid u = l := Option.some.inj (h.latest.symm.trans hl)
    exact not_lt_of_forward hforward

/-- The log only grows, and the fragment chains stay in order. -/
def LogFrom (log : List RxRecord) (u : UmacData) : Prop := FragChainsOk u ∧ log <:+ u.rxLog

theorem logFrom_invariant (env : UmacEnv) (log : List RxRecord) :
    ReceiveInvariant env (LogFrom log) where
  handOn := by
    intro u u' x hu heq
    obtain ⟨record, hspec⟩ := afterReorder_of_eq_some heq hu.1
    refine ⟨hspec.chains, ?_⟩
    rw [hspec.rxLog]
    exact hu.2.trans (List.suffix_cons record u.rxLog)
  list := fun _ hu => hu
  listTid := fun _ hu => hu
  ticked := fun hu => hu
  timeout := by
    intro u hu
    have hsame := umacCoreRegisterTimeout_same env u .umacDatapathRxReorderTimeoutHandler
    refine ⟨?_, ?_⟩
    · unfold FragChainsOk
      rw [umacCoreRegisterTimeout_stad]
      exact hu.1
    · rw [hsame.rxLog]
      exact hu.2
  outdated := fun _ hu => hu

theorem AllPassed.of_logFrom (hpassed : AllPassed u') (h : LogFrom u.rxLog u') :
    AllPassed u := fun r hr => hpassed r (h.2.subset hr)

theorem ReorderInv.handOn (h : ReorderInv env tid e₀ u) (hlist : buffered u = x :: rest)
    (heq : umacDatapathProcessRxDataFrameAfterReorder env (u.setRxReorderList rest) x = some u')
    (hpassed : AllPassed u') :
    ReorderInv env tid e₀ u' ∧ buffered u' = rest ∧ expectedOf tid u' = nextOf x
      ∧ (handedOn u').head? = some (seqOf x)
      ∧ u'.stad.datapath.rxReorderTid = u.stad.datapath.rxReorderTid := by
  obtain ⟨record, hspec⟩ := afterReorder_of_eq_some heq h.chains
  have hxmem : x ∈ buffered u := by
    rw [hlist]
    exact List.mem_cons_self ..
  have hspaced := h.spaced
  rw [hlist, List.pairwise_cons] at hspaced
  obtain ⟨hfirst, hspaced⟩ := hspaced
  have hplaced := h.placed x hxmem
  obtain ⟨hforward, hlast⟩ := Placeable.of_head (hlist ▸ hplaced) hfirst
  have hrecord : record.passedSecurity = true :=
    hpassed record (by rw [hspec.rxLog]; exact List.mem_cons_self ..)
  have hexpected : record.expected = some (nextOf x) := by
    rw [hspec.expected, if_pos hrecord]
    exact rxExpected_of_moves hplaced.moves hplaced.onTid
  have hsession : u'.stad.ba.recipient tid
      = { u.stad.ba.recipient tid with nextExpectedRxSeqNum := nextOf x } := by
    rw [hspec.ba, hexpected]
    exact recipient_of_moved hplaced.onTid h.status
  have he : expectedOf tid u' = nextOf x := by
    show (u'.stad.ba.recipient tid).nextExpectedRxSeqNum = nextOf x
    rw [hsession]
  have hrest : buffered u' = rest := hspec.rxReorderList
  have hlog : u'.rxLog = record :: u.rxLog := hspec.rxLog
  have hhead : (handedOn u').head? = some (seqOf x) := by
    unfold handedOn
    rw [hlog, List.map_cons, List.head?_cons, hspec.seqCtrl]
    rfl
  have htid : u'.stad.datapath.rxReorderTid = u.stad.datapath.rxReorderTid := hspec.rxReorderTid
  refine ⟨?_, hrest, he, hhead, htid⟩
  exact
    { status := by
        rw [hsession]
        exact h.status
      bufferSize := by
        rw [hsession]
        exact h.bufferSize
      chains := hspec.chains
      listTid := by
        intro _
        rw [htid]
        exact h.listTid (List.ne_nil_of_mem hxmem)
      spaced := by
        rw [hrest, he]
        refine hspaced.imp_of_mem ?_
        intro a b ha hb hab
        have hspace := hfirst a ha
        have hlen := startAt_lt_endAt (expectedOf tid u) a
        have hb' := hfirst b hb
        rw [endAt_shift hforward hspace, startAt_shift hforward hb']
        omega
      placed := by
        intro z hz
        rw [hrest] at hz ⊢
        rw [hhead, he]
        have hzplaced := h.placed z (by rw [hlist]; exact List.mem_cons_of_mem _ hz)
        rw [hlist] at hzplaced
        exact hzplaced.behind_head hforward hfirst (hfirst z hz)
      inOrder := h.inOrder.cons hlog hspec.seqCtrl hexpected he hlast hforward }

/-! ## The loops -/

theorem ReorderInv.evaluateLoop {l : List Mmpkt}
    (h : ReorderInv env tid e₀ u) (hlist : buffered u = l)
    (heq : evaluateRxReorderLoop env l u = some u') (hpassed : AllPassed u') :
    ReorderInv env tid e₀ u' := by
  induction l generalizing u with
  | nil =>
    obtain rfl : u = u' := Option.some.inj heq
    exact h
  | cons x rest ih =>
    obtain ⟨hstad, hlog⟩ := rxReorderDequeue_stad env u x
    unfold evaluateRxReorderLoop at heq
    generalize rxReorderDequeue env u x = answer at heq hstad hlog
    obtain ⟨u₁, leaves⟩ := answer
    have h₁ : ReorderInv env tid e₀ u₁ := h.of_stad hstad hlog
    have hlist₁ : buffered u₁ = x :: rest := by
      rw [← hlist]
      exact congrArg (fun stad : UmacStaData => stad.datapath.rxReorderList) hstad
    cases leaves with
    | false =>
      obtain rfl : u₁ = u' := Option.some.inj heq
      exact h₁
    | true =>
      obtain ⟨u₂, hx, hrest⟩ := Option.bind_eq_some_iff.mp heq
      obtain ⟨_, hspec⟩ := afterReorder_of_eq_some hx h₁.chains
      have hgrown : LogFrom u₂.rxLog u' :=
        (logFrom_invariant env u₂.rxLog).evaluateLoop ⟨hspec.chains, List.suffix_rfl⟩ hrest
      have hpassed₂ : AllPassed u₂ := hpassed.of_logFrom hgrown
      obtain ⟨h₂, hlist₂, _⟩ := h₁.handOn hlist₁ hx hpassed₂
      exact ih h₂ hlist₂ hrest

theorem ReorderInv.evaluate
    (h : ReorderInv env tid e₀ u) (heq : umacDatapathEvaluateRxReorderList env u = some u')
    (hpassed : AllPassed u') : ReorderInv env tid e₀ u' :=
  h.evaluateLoop rfl heq hpassed

theorem ReorderInv.timeoutHandler
    (h : ReorderInv env tid e₀ u) (heq : umacDatapathRxReorderTimeoutHandler env u = some u')
    (hpassed : AllPassed u') : ReorderInv env tid e₀ u' := by
  obtain ⟨u₁, heval, rfl⟩ := Option.map_eq_some_iff.mp heq
  have hsame := umacCoreRegisterTimeout_same env u₁ .umacDatapathRxReorderTimeoutHandler
  split at hpassed
  · rename_i hempty
    rw [if_pos hempty]
    exact h.evaluate heval hpassed
  rename_i hempty
  rw [if_neg hempty]
  have hpassed₁ : AllPassed u₁ := by
    unfold AllPassed at hpassed
    rw [hsame.rxLog] at hpassed
    exact hpassed
  exact (h.evaluate heval hpassed₁).of_stad (umacCoreRegisterTimeout_stad env u₁ _) hsame.rxLog

/-! ## A new frame -/

/-- The frame may wait among the buffered ones, and overlaps none of them. -/
structure Fits (env : UmacEnv) (tid : BaTid) (u : UmacData) (x : Mmpkt) : Prop where
  placeable : Placeable env tid (expectedOf tid u) (handedOn u).head? (buffered u) x
  apart : ∀ y ∈ buffered u, endAt (expectedOf tid u) y ≤ startAt (expectedOf tid u) x
    ∨ endAt (expectedOf tid u) x ≤ startAt (expectedOf tid u) y

/-- A frame of the same sequence control is buffered. -/
def Duplicate (u : UmacData) (x : Mmpkt) : Prop := ∃ y ∈ buffered u, seqOf y = seqOf x

/-- The list holds as many frames as the session allows. -/
def reorderListFull (tid : BaTid) (u : UmacData) : Prop :=
  (u.stad.ba.recipient tid).bufferSize.toNat ≤ (buffered u).length

/-- A frame that evicts the head of a full list belongs behind the next one too. -/
def BehindNewHead (tid : BaTid) (u : UmacData) (x : Mmpkt) : Prop :=
  reorderListFull tid u → ∀ head next rest, buffered u = head :: next :: rest →
    dot11SequenceControlLt (seqOf head) (seqOf x) = true →
      dot11SequenceControlLt (seqOf next) (seqOf x) = true

/-- The frames that keep the order. -/
inductive ReorderFrameOk (env : UmacEnv) (tid : BaTid) (u : UmacData) (x : Mmpkt) : Prop where
  /-- it has no data and is dropped -/
  | nullData (h : isNullData x.dataStart = true)
  /-- it is behind the window and is dropped -/
  | outdated (h : dot11SequenceControlLt (seqOf x) (expectedOf tid u) = true)
  /-- it is in front of a full list and is dropped -/
  | noRoom (hne : seqOf x ≠ expectedOf tid u) (hfull : reorderListFull tid u)
      (h : ∃ head ∈ (buffered u).head?, dot11SequenceControlLt (seqOf x) (seqOf head) = true)
  /-- it is buffered already and is dropped -/
  | duplicate (hne : seqOf x ≠ expectedOf tid u) (h : Duplicate u x) (hnew : BehindNewHead tid u x)
  /-- it finds its place -/
  | fits (h : Fits env tid u x) (hnew : BehindNewHead tid u x)

/-- The walk finds the frame, or the place for it. -/
theorem reorderInsertWalk_spec {l : List Mmpkt} (hne : l ≠ [])
    (hspaced : l.Pairwise fun a b => endAt e a ≤ startAt e b)
    (hahead : ∀ y ∈ l, startAt e y < halfSpace) (hx : startAt e x < halfSpace)
    (hfirst : ∀ a ∈ l.head?, startAt e a < startAt e x) :
    (reorderInsertWalk x (seqOf x) l = some none ∧ ∃ y ∈ l, seqOf y = seqOf x)
      ∨ ∃ before after, reorderInsertWalk x (seqOf x) l = some (some (before ++ x :: after))
        ∧ l = before ++ after ∧ (∀ y ∈ before, startAt e y < startAt e x)
        ∧ ∀ y ∈ after, startAt e x < startAt e y := by
  induction l with
  | nil => exact absurd rfl hne
  | cons walk rest ih =>
    have hwalk : startAt e walk < startAt e x := hfirst walk rfl
    cases rest with
    | nil =>
      refine Or.inr ⟨[walk], [], rfl, rfl, ?_, by simp⟩
      intro y hy
      obtain rfl : y = walk := List.mem_singleton.mp hy
      exact hwalk
    | cons next rest =>
      have hstep : reorderInsertWalk x (seqOf x) (walk :: next :: rest)
          = if seqOf next == seqOf x then some none
            else if dot11SequenceControlLt (seqOf x) (seqOf next) then
              some (some (walk :: x :: next :: rest))
            else (reorderInsertWalk x (seqOf x) (next :: rest)).map (Option.map (walk :: ·)) :=
        rfl
      rw [hstep]
      obtain ⟨_, htail⟩ := List.pairwise_cons.mp hspaced
      have hnext : startAt e next < halfSpace := hahead next (by simp)
      by_cases hsame : seqOf next = seqOf x
      · exact Or.inl ⟨if_pos (beq_iff_eq.mpr hsame), next, by simp, hsame⟩
      rw [if_neg (fun h => hsame (beq_iff_eq.mp h))]
      by_cases hlt : dot11SequenceControlLt (seqOf x) (seqOf next) = true
      · -- the place is in front of the next frame
        have hxnext := (lt_iff_startAt hx hnext).mp hlt
        refine Or.inr ⟨[walk], next :: rest, if_pos hlt, rfl, ?_, ?_⟩
        · intro y hy
          obtain rfl : y = walk := List.mem_singleton.mp hy
          exact hwalk
        intro y hy
        rcases List.mem_cons.mp hy with rfl | hy
        · exact hxnext
        · have hspace := (List.pairwise_cons.mp htail).1 y hy
          have hlen := startAt_lt_endAt e next
          omega
      -- the walk goes on behind it
      have hnextx : startAt e next < startAt e x := by
        have hnot : ¬ startAt e x < startAt e next :=
          fun h => hlt ((lt_iff_startAt hx hnext).mpr h)
        have hdiff : startAt e next ≠ startAt e x :=
          fun h => hsame (eq_of_serialDist_eq h)
        omega
      rw [if_neg hlt]
      rcases ih (by simp) htail (fun y hy => hahead y (List.mem_cons_of_mem _ hy))
          (fun a ha => by obtain rfl : next = a := Option.some.inj ha; exact hnextx) with
        ⟨hfound, y, hy, hdup⟩ | ⟨before, after, hplace, hsplit, hbefore, hafter⟩
      · rw [hfound]
        exact Or.inl ⟨rfl, y, List.mem_cons_of_mem _ hy, hdup⟩
      rw [hplace]
      refine Or.inr ⟨walk :: before, after, rfl, ?_, ?_, hafter⟩
      · rw [hsplit]
        rfl
      intro y hy
      rcases List.mem_cons.mp hy with rfl | hy
      · exact hwalk
      · exact hbefore y hy

theorem startAt_congr {x y : Mmpkt} (h : seqOf x = seqOf y) : startAt e x = startAt e y := by
  unfold startAt
  rw [h]

theorem ReorderInv.reorderInsert
    (h : ReorderInv env tid e₀ u) (hx : Fits env tid u x ∨ Duplicate u x)
    (hfirst : ∀ a ∈ (buffered u).head?, startAt (expectedOf tid u) a < startAt (expectedOf tid u) x)
    (htid : u.stad.datapath.rxReorderTid.toNat = tid.val)
    (heq : reorderInsert env u x (seqOf x) = some u') (hpassed : AllPassed u') :
    ReorderInv env tid e₀ u' := by
  have hahead : startAt (expectedOf tid u) x < halfSpace := by
    rcases hx with hfits | ⟨y, hy, hdup⟩
    · exact hfits.placeable.ahead
    · rw [← startAt_congr hdup]
      exact (h.placed y hy).ahead
  unfold Datapath.reorderInsert at heq
  by_cases hne : buffered u = []
  · rw [show u.stad.datapath.rxReorderList = [] from hne] at heq
    exact absurd heq (by simp [reorderInsertWalk])
  rcases reorderInsertWalk_spec hne h.spaced (fun y hy => (h.placed y hy).ahead) hahead
      hfirst with ⟨hfound, _⟩ | ⟨before, after, hplace, hsplit, hbefore, hafter⟩
  · rw [hfound] at heq
    obtain rfl : u = u' := Option.some.inj heq
    exact h
  rw [hplace] at heq
  rcases hx with hfits | ⟨y, hy, hdup⟩
  · apply ReorderInv.evaluate ?_ heq hpassed
    apply h.insert hsplit hfits.placeable ?_ ?_ htid
    · intro y hy
      have hlt := hbefore y hy
      have hlen := startAt_lt_endAt (expectedOf tid u) x
      rcases hfits.apart y (by rw [hsplit]; exact List.mem_append_left _ hy) with h' | h'
      · exact h'
      · omega
    intro y hy
    have hlt := hafter y hy
    have hlen := startAt_lt_endAt (expectedOf tid u) y
    rcases hfits.apart y (by rw [hsplit]; exact List.mem_append_right _ hy) with h' | h'
    · omega
    · exact h'
  -- a frame that is on the list has no place on it
  have hstart := startAt_congr (e := expectedOf tid u) hdup
  rw [hsplit] at hy
  rcases List.mem_append.mp hy with hy | hy
  · have hlt := hbefore y hy
    omega
  · have hlt := hafter y hy
    omega

theorem Fits.behind_head {head x : Mmpkt} (hx : Fits env tid u x) (h : ReorderInv env tid e₀ u)
    (hlist : buffered u = head :: rest)
    (hlt : startAt (expectedOf tid u) head < startAt (expectedOf tid u) x)
    (hrest : buffered u' = rest) (he : expectedOf tid u' = nextOf head)
    (hlast : (handedOn u').head? = some (seqOf head)) : Fits env tid u' x := by
  have hspaced := h.spaced
  rw [hlist, List.pairwise_cons] at hspaced
  obtain ⟨hfirst, _⟩ := hspaced
  have hplaced := h.placed head (by rw [hlist]; exact List.mem_cons_self ..)
  obtain ⟨hforward, _⟩ := Placeable.of_head (hlist ▸ hplaced) hfirst
  have hheadx : endAt (expectedOf tid u) head ≤ startAt (expectedOf tid u) x := by
    have hlen := startAt_lt_endAt (expectedOf tid u) x
    rcases hx.apart head (by rw [hlist]; exact List.mem_cons_self ..) with h' | h'
    · exact h'
    · omega
  refine ⟨?_, ?_⟩
  · have hplaceable := hx.placeable
    rw [hlist] at hplaceable
    rw [he, hlast, hrest]
    exact hplaceable.behind_head hforward hfirst hheadx
  intro y hy
  rw [hrest] at hy
  have hheady := hfirst y hy
  rw [he, startAt_shift hforward hheadx, startAt_shift hforward hheady,
    endAt_shift hforward hheadx, endAt_shift hforward hheady]
  have hy' := hx.apart y (by rw [hlist]; exact List.mem_cons_of_mem _ hy)
  omega

/-- Eviction of the head by a frame behind it. -/
theorem ReorderInv.evict {head x : Mmpkt} (h : ReorderInv env tid e₀ u)
    (hlist : buffered u = head :: rest) (hx : Fits env tid u x ∨ Duplicate u x)
    (hlt : startAt (expectedOf tid u) head < startAt (expectedOf tid u) x)
    (hnext : ∀ next ∈ rest.head?, dot11SequenceControlLt (seqOf next) (seqOf x) = true)
    (heq : ((umacDatapathProcessRxDataFrameAfterReorder env (u.setRxReorderList rest) head).bind
      fun u => Datapath.reorderInsert env u x (seqOf x)) = some u')
    (hpassed : AllPassed u') : ReorderInv env tid e₀ u' := by
  obtain ⟨u₁, hhead, hinsert⟩ := Option.bind_eq_some_iff.mp heq
  obtain ⟨_, hspec⟩ := afterReorder_of_eq_some hhead h.chains
  have hgrown : LogFrom u₁.rxLog u' :=
    (logFrom_invariant env u₁.rxLog).insert ⟨hspec.chains, List.suffix_rfl⟩ hinsert
  obtain ⟨h₁, hrest, he, hlast, htid⟩ := h.handOn hlist hhead (hpassed.of_logFrom hgrown)
  have hx₁ : Fits env tid u₁ x ∨ Duplicate u₁ x := by
    rcases hx with hfits | ⟨y, hy, hdup⟩
    · exact Or.inl (hfits.behind_head h hlist hlt hrest he hlast)
    have hstart := startAt_congr (e := expectedOf tid u) hdup
    rw [hlist] at hy
    rcases List.mem_cons.mp hy with rfl | hy
    · omega
    · exact Or.inr ⟨y, by rw [hrest]; exact hy, hdup⟩
  have hahead₁ : startAt (expectedOf tid u₁) x < halfSpace := by
    rcases hx₁ with hfits | ⟨y, hy, hdup⟩
    · exact hfits.placeable.ahead
    · rw [← startAt_congr hdup]
      exact (h₁.placed y hy).ahead
  apply h₁.reorderInsert hx₁ ?_ ?_ hinsert hpassed
  · intro next hmem
    have hnext₁ : next ∈ buffered u₁ := List.mem_of_mem_head? hmem
    rw [hrest] at hmem
    exact (lt_iff_startAt (h₁.placed next hnext₁).ahead hahead₁).mp (hnext next hmem)
  · rw [htid]
    exact h.listTid (by rw [hlist]; simp)

theorem ReorderFrameOk.kept
    (hok : ReorderFrameOk env tid u x) (hdata : isNullData x.dataStart = false)
    (hlt : dot11SequenceControlLt (seqOf x) (expectedOf tid u) = false)
    (hroom : ∀ head ∈ (buffered u).head?,
      dot11SequenceControlLt (seqOf x) (seqOf head) = true → ¬ reorderListFull tid u) :
    (Fits env tid u x ∨ Duplicate u x) ∧ BehindNewHead tid u x := by
  cases hok with
  | nullData h => exact absurd h (by rw [hdata]; simp)
  | outdated h => exact absurd h (by rw [hlt]; simp)
  | noRoom _ hfull h =>
    obtain ⟨head, hhead, hfront⟩ := h
    exact absurd hfull (hroom head hhead hfront)
  | duplicate _ h hnew => exact ⟨Or.inr h, hnew⟩
  | fits h hnew => exact ⟨Or.inl h, hnew⟩

theorem ReorderInv.prepend (h : ReorderInv env tid e₀ u) (hx : Fits env tid u x ∨ Duplicate u x)
    (hfront : ∀ y ∈ buffered u, startAt (expectedOf tid u) x < startAt (expectedOf tid u) y)
    (htid : u.stad.datapath.rxReorderTid.toNat = tid.val) :
    ReorderInv env tid e₀ (u.setRxReorderList (x :: buffered u)) := by
  have hfits : Fits env tid u x := by
    rcases hx with hfits | ⟨y, hy, hdup⟩
    · exact hfits
    · have hlt := hfront y hy
      rw [startAt_congr hdup] at hlt
      exact absurd hlt (Nat.lt_irrefl _)
  have hlist : buffered u = [] ++ buffered u := rfl
  have hinsert := h.insert hlist hfits.placeable (by simp) ?_ htid
  · exact hinsert
  intro y hy
  have hlt := hfront y hy
  have hlen := startAt_lt_endAt (expectedOf tid u) y
  have hapart := hfits.apart y hy
  omega

theorem ReorderInv.add
    {maxlen : U8} (h : ReorderInv env tid e₀ u) (hok : ReorderFrameOk env tid u x)
    (hdata : isNullData x.dataStart = false)
    (hlt : dot11SequenceControlLt (seqOf x) (expectedOf tid u) = false)
    (htid : u.stad.datapath.rxReorderTid.toNat = tid.val)
    (hmaxlen : maxlen.toNat = (u.stad.ba.recipient tid).bufferSize.toNat)
    (heq : umacDatapathAddRxMpduToReorderList env u x (seqOf x) maxlen = some u')
    (hpassed : AllPassed u') : ReorderInv env tid e₀ u' := by
  have hahead := startAt_of_not_lt hlt
  unfold umacDatapathAddRxMpduToReorderList at heq
  dsimp only at heq
  cases hlist : buffered u with
  | nil =>
    rw [show u.stad.datapath.rxReorderList = [] from hlist] at heq
    dsimp only at heq
    cases heq
    obtain ⟨hx, _⟩ := hok.kept hdata hlt (by rw [hlist]; simp)
    have hprepend := h.prepend hx (by rw [hlist]; simp) htid
    rw [hlist] at hprepend
    apply hprepend.of_stad
    · unfold UmacData.setRxReorderList
      rw [umacCoreRegisterTimeout_stad]
    · exact (umacCoreRegisterTimeout_same env u _).rxLog
  | cons head rest =>
    rw [show u.stad.datapath.rxReorderList = head :: rest from hlist] at heq
    dsimp only at heq
    have hspaced := h.spaced
    rw [hlist, List.pairwise_cons] at hspaced
    have hheadahead := (h.placed head (by rw [hlist]; exact List.mem_cons_self ..)).ahead
    have hfull : reorderListFull tid u ↔ maxlen.toNat ≤ (head :: rest).length := by
      unfold reorderListFull
      rw [hlist, hmaxlen]
    by_cases hsame : (sequenceControl head.dataStart == seqOf x) = true
    · rw [if_pos hsame] at heq
      obtain rfl : u = u' := Option.some.inj heq
      exact h
    rw [if_neg hsame] at heq
    have hdiff : startAt (expectedOf tid u) head ≠ startAt (expectedOf tid u) x :=
      fun h' => hsame (beq_iff_eq.mpr (eq_of_serialDist_eq h'))
    by_cases hfront : dot11SequenceControlLt (seqOf x) (sequenceControl head.dataStart) = true
    · -- in front of the head
      rw [if_pos hfront] at heq
      have hxhead := (lt_iff_startAt hahead hheadahead).mp hfront
      split at heq
      · obtain rfl : u = u' := Option.some.inj heq
        exact h
      rename_i hroom
      cases heq
      obtain ⟨hx, _⟩ := hok.kept hdata hlt fun _ _ _ hfull' =>
        hroom (decide_eq_true (hfull.mp hfull'))
      rw [← hlist]
      apply h.prepend hx ?_ htid
      intro y hy
      rw [hlist] at hy
      rcases List.mem_cons.mp hy with rfl | hy
      · exact hxhead
      · have hheady := hspaced.1 y hy
        have hlen := startAt_lt_endAt (expectedOf tid u) head
        omega
    -- behind the head
    rw [if_neg hfront] at heq
    have hbehind : startAt (expectedOf tid u) head < startAt (expectedOf tid u) x := by
      have hnot : ¬ startAt (expectedOf tid u) x < startAt (expectedOf tid u) head :=
        fun h' => hfront ((lt_iff_startAt hahead hheadahead).mpr h')
      omega
    obtain ⟨hx, hnew⟩ := hok.kept hdata hlt fun head' hhead' hfront' => by
      rw [hlist] at hhead'
      obtain rfl : head = head' := Option.some.inj hhead'
      exact absurd hfront' hfront
    split at heq
    · rename_i hfull'
      apply h.evict hlist hx hbehind ?_ heq hpassed
      intro next hnext
      obtain ⟨tail, rfl⟩ := List.head?_eq_some_iff.mp hnext
      apply hnew (hfull.mpr (of_decide_eq_true hfull')) head next tail hlist
      exact (lt_iff_startAt hheadahead hahead).mpr hbehind
    apply h.reorderInsert hx ?_ htid heq hpassed
    intro a ha
    rw [hlist] at ha
    obtain rfl : head = a := Option.some.inj ha
    exact hbehind

/-! ## A received frame -/

theorem rxReorderClaim_eq {tidIndex : U8} (htid : tidIndex.toNat = tid.val)
    (hlist : buffered u ≠ [] → u.stad.datapath.rxReorderTid.toNat = tid.val) :
    rxReorderClaim env u tidIndex = some (u.setRxReorderTid (tidIndex.setWidth 16)) := by
  have hlt := tid.isLt
  unfold rxReorderClaim
  by_cases hsame : u.stad.datapath.rxReorderTid = tidIndex.setWidth 16
  · rw [if_neg (by simpa using hsame), ← hsame]
    rfl
  have hempty : u.stad.datapath.rxReorderList = [] := by
    by_contra hne
    apply hsame
    apply BitVec.eq_of_toNat_eq
    rw [hlist hne, BitVec.toNat_setWidth, htid, Nat.mod_eq_of_lt]
    unfold umacBaMaxSessions at hlt
    omega
  rw [if_pos (by simpa using hsame)]
  unfold umacDatapathFlushRxReorderList
  rw [hempty]
  rfl

theorem dot11SequenceControlLt_self (s : U16) : dot11SequenceControlLt s s = false := by
  unfold dot11SequenceControlLt
  rw [Bool.eq_false_iff]
  intro h
  have hdist := (serialLt_iff s s).mp h
  rw [serialDist_self] at hdist
  omega

theorem ReorderInv.rxReorder {tidIndex maxlen : U8} (h : ReorderInv env tid e₀ u)
    (hok : ReorderFrameOk env tid u x) (hdata : isNullData x.dataStart = false)
    (htid : tidIndex.toNat = tid.val) (hlistTid : u.stad.datapath.rxReorderTid.toNat = tid.val)
    (hmaxlen : maxlen.toNat = (u.stad.ba.recipient tid).bufferSize.toNat)
    (heq : Datapath.rxReorder env u x tidIndex maxlen = some u') (hpassed : AllPassed u') :
    ReorderInv env tid e₀ u' := by
  have hexpected : umacBaGetExpectedRxSeqNum u.stad.ba tidIndex = some (expectedOf tid u) := by
    unfold umacBaGetExpectedRxSeqNum
    rw [baTid?_eq_some.mpr htid]
    exact if_neg (not_not_intro h.status)
  unfold Datapath.rxReorder at heq
  rw [hexpected] at heq
  dsimp only at heq
  rw [show sequenceControl x.dataStart = seqOf x from rfl] at heq
  by_cases hsame : seqOf x = expectedOf tid u
  · -- the expected frame goes in front of the list and is handed on from there
    rw [if_pos (by simpa using hsame)] at heq
    obtain ⟨u₁, hx, heval⟩ := Option.bind_eq_some_iff.mp heq
    have hfits : Fits env tid u x := by
      cases hok with
      | nullData h' => exact absurd h' (by rw [hdata]; simp)
      | outdated h' =>
        rw [hsame, dot11SequenceControlLt_self] at h'
        exact absurd h' (by simp)
      | noRoom hne _ _ | duplicate hne _ _ => exact absurd hsame hne
      | fits h' _ => exact h'
    have hzero : startAt (expectedOf tid u) x = 0 := serialDist_eq_zero.mpr hsame
    have hlist : buffered u = [] ++ buffered u := rfl
    have hfirst := h.insert hlist hfits.placeable (by simp) (by
      intro y hy
      have hlen := startAt_lt_endAt (expectedOf tid u) y
      have hapart := hfits.apart y hy
      omega) hlistTid
    obtain ⟨_, hspec⟩ := afterReorder_of_eq_some hx h.chains
    have hgrown : LogFrom u₁.rxLog u' :=
      (logFrom_invariant env u₁.rxLog).evaluate ⟨hspec.chains, List.suffix_rfl⟩ heval
    have hcons : buffered (u.setRxReorderList ([] ++ x :: buffered u)) = x :: buffered u := rfl
    obtain ⟨h₁, _⟩ := hfirst.handOn hcons hx (hpassed.of_logFrom hgrown)
    exact h₁.evaluate heval hpassed
  rw [if_neg (by simpa using hsame)] at heq
  by_cases hlt : dot11SequenceControlLt (seqOf x) (expectedOf tid u) = true
  · rw [if_pos hlt] at heq
    cases heq
    exact h.of_stad rfl rfl
  · rw [if_neg hlt] at heq
    exact h.add hok hdata (Bool.eq_false_iff.mpr hlt) hlistTid hmaxlen heq hpassed

theorem umacBaGetReorderBufferSize_of_eq_some {data : UmacBaStaData}
    {tidIndex size : U8} (htid : tidIndex.toNat = tid.val)
    (heq : umacBaGetReorderBufferSize data tidIndex = some size) :
    size.toNat = (data.recipient tid).bufferSize.toNat := by
  unfold umacBaGetReorderBufferSize at heq
  rw [baTid?_eq_some.mpr htid] at heq
  dsimp only at heq
  split at heq
  · cases heq
    rw [BitVec.toNat_setWidth, Nat.mod_eq_of_lt (by omega)]
  · exact absurd heq (by simp)

theorem ReorderInv.processRxDataFrame (h : ReorderInv env tid e₀ u)
    (htid : (rxTidIndex x.dataStart).toNat = tid.val) (hok : ReorderFrameOk env tid u x)
    (heq : umacDatapathProcessRxDataFrame env u x = some u') (hpassed : AllPassed u') :
    ReorderInv env tid e₀ u' := by
  unfold umacDatapathProcessRxDataFrame at heq
  dsimp only at heq
  by_cases hdata : isNullData x.dataStart = true
  · rw [if_pos hdata] at heq
    obtain rfl : u = u' := Option.some.inj heq
    exact h
  rw [if_neg hdata] at heq
  cases hsize : umacBaGetReorderBufferSize u.stad.ba (rxTidIndex x.dataStart) with
  | none =>
    rw [hsize] at heq
    exact absurd heq (by simp)
  | some size =>
    have hmaxlen := umacBaGetReorderBufferSize_of_eq_some htid hsize
    have hsize' : size ≠ 0 := by
      intro hzero
      apply h.bufferSize
      apply BitVec.eq_of_toNat_eq
      rw [← hmaxlen, hzero]
      rfl
    have hlt := tid.isLt
    have hqos : ¬ mmwlanMaxQosTid < (rxTidIndex x.dataStart).toNat := by
      unfold umacBaMaxSessions at hlt
      unfold mmwlanMaxQosTid
      omega
    rw [hsize] at heq
    dsimp only at heq
    rw [if_neg (by simpa using And.intro (Nat.le_of_not_lt hqos) hsize'),
      rxReorderClaim_eq htid h.listTid] at heq
    have hwidth : ((rxTidIndex x.dataStart).setWidth 16).toNat = tid.val := by
      rw [BitVec.toNat_setWidth, htid, Nat.mod_eq_of_lt]
      unfold umacBaMaxSessions at hlt
      omega
    have h₁ : ReorderInv env tid e₀
        (u.setRxReorderTid ((rxTidIndex x.dataStart).setWidth 16)) :=
      ⟨h.status, h.bufferSize, h.chains, fun _ => hwidth, h.spaced, h.placed,
        ⟨h.inOrder.frames, h.inOrder.latest, h.inOrder.window⟩⟩
    apply h₁.rxReorder ?_ (Bool.eq_false_iff.mpr hdata) htid hwidth hmaxlen heq hpassed
    cases hok with
    | nullData h' => exact .nullData h'
    | outdated h' => exact .outdated h'
    | noRoom hne hfull h' => exact .noRoom hne hfull h'
    | duplicate hne h' hnew => exact .duplicate hne h' hnew
    | fits h' hnew => exact .fits ⟨h'.placeable, h'.apart⟩ hnew

/-! ## Runs -/

/-- What can happen to a session. -/
inductive ReorderEvent where
  /-- a data frame of the TID is received -/
  | rx (pkt : Mmpkt)
  /-- the reorder timer fires -/
  | timer

/-- A frame of another TID is no event of the session. -/
def ReorderEvent.OnTid (tid : BaTid) : ReorderEvent → Prop
  | .rx pkt => (rxTidIndex pkt.dataStart).toNat = tid.val
  | .timer => True

instance (tid : BaTid) : DecidablePred (ReorderEvent.OnTid tid)
  | .rx pkt => inferInstanceAs (Decidable ((rxTidIndex pkt.dataStart).toNat = tid.val))
  | .timer => inferInstanceAs (Decidable True)

/-- The condition on an event. -/
def ReorderEvent.Ok (env : UmacEnv) (tid : BaTid) (u : UmacData) : ReorderEvent → Prop
  | .rx pkt => ReorderFrameOk env tid u pkt
  | .timer => True

def reorderStep (env : UmacEnv) (u : UmacData) : ReorderEvent → Option UmacData
  | .rx pkt => umacDatapathProcessRxDataFrame env u pkt
  | .timer => umacDatapathRxReorderTimeoutHandler env u

/-- A session with nothing buffered, of which nothing is recorded yet. -/
structure IdleSession (tid : BaTid) (u : UmacData) : Prop where
  status : (u.stad.ba.recipient tid).status = .success
  bufferSize : (u.stad.ba.recipient tid).bufferSize ≠ 0
  chains : FragChainsOk u
  empty : buffered u = []
  rxLog : u.rxLog = []

theorem IdleSession.reorderInv
    (h : IdleSession tid u) : ReorderInv env tid (expectedOf tid u) u where
  status := h.status
  bufferSize := h.bufferSize
  chains := h.chains
  listTid := fun hne => absurd h.empty hne
  spaced := by
    rw [h.empty]
    exact List.Pairwise.nil
  placed := by
    rw [h.empty]
    simp
  inOrder := by
    refine ⟨?_, ?_, ?_⟩
    · unfold handedOn
      rw [h.rxLog]
      exact List.isChain_nil
    · unfold expectedValues
      rw [h.rxLog]
      rfl
    · unfold expectedValues
      rw [h.rxLog]
      exact List.isChain_singleton _

theorem ReorderInv.step
    {event : ReorderEvent} (h : ReorderInv env tid e₀ u) (htid : event.OnTid tid)
    (hok : event.Ok env tid u) (heq : reorderStep env u event = some u')
    (hpassed : AllPassed u') : ReorderInv env tid e₀ u' := by
  cases event with
  | rx pkt => exact h.processRxDataFrame htid hok heq hpassed
  | timer => exact h.timeoutHandler heq hpassed

/-- Over any run of frames that keep the order and of timer firings, the frames of the
session are handed on in order and its window never moves backwards. -/
theorem reorder_releases_in_order (env : UmacEnv) (tid : BaTid) {u : UmacData}
    {events : List ReorderEvent} (hidle : IdleSession tid u)
    (htid : ∀ event ∈ events, event.OnTid tid)
    (hpassed : Throughout (reorderStep env) AllPassed u events)
    (hok : Along (reorderStep env) (ReorderEvent.Ok env tid) u events) :
    Throughout (reorderStep env) (ReleasedInOrder tid (expectedOf tid u)) u events := by
  have htids : Along (reorderStep env) (fun _ event => event.OnTid tid) u events :=
    along_of_forall_mem fun event hevent _ => htid event hevent
  have hrun : Throughout (reorderStep env) (ReorderInv env tid (expectedOf tid u)) u events := by
    apply throughout_of_step ?_ hidle.reorderInv ((hok.and htids).and hpassed.along_next)
    intro u₁ event u₂ h₁ hevent hstep
    exact h₁.step hevent.1.2 hevent.1.1 hstep (hevent.2 u₂ hstep)
  exact hrun.mono fun _ h₁ => h₁.inOrder

/-- A QoS data frame for TID 0 without payload. -/
def bareQosMpdu (seqCtrl : U16) : Mmpkt where
  startOffset := 0
  data := (bareHdr 0x0088 seqCtrl).take (sizeofDot11Hdr + sizeofDot11QosCtrl)
  behind := fun _ => 0
  tailroom := 0
  rx := ⟨false, 0⟩

/-- A new STA record with a session for TID 0. -/
def idleSession (bufferSize : U16) : UmacData :=
  umacStadInit.setBa (umacStadInit.stad.ba.setSession
    { UmacBaSession.zero with status := .success, bufferSize := bufferSize }
    (.recipient ⟨0, by decide⟩))

theorem idleSession_idle {bufferSize : U16} (h : bufferSize ≠ 0) :
    IdleSession ⟨0, by decide⟩ (idleSession bufferSize) where
  status := rfl
  bufferSize := h
  chains := by
    intro i buf hbuf
    exact absurd hbuf (by simp [idleSession, umacStadInit, UmacData.setBa])
  empty := rfl
  rxLog := rfl

/-- The second of two frames arrives first, and is handed on second. -/
theorem reorder_releases_two_frames :
    Throughout (reorderStep openEnv)
        (ReleasedInOrder ⟨0, by decide⟩ (expectedOf ⟨0, by decide⟩ (idleSession 4)))
        (idleSession 4) [.rx (bareQosMpdu 0x10), .rx (bareQosMpdu 0x00)]
      ∧ (runFrom (reorderStep openEnv) (idleSession 4)
          [.rx (bareQosMpdu 0x10), .rx (bareQosMpdu 0x00)]).map handedOn = some [0x10, 0x00] := by
  refine ⟨reorder_releases_in_order openEnv ⟨0, by decide⟩ (idleSession_idle (by decide)) ?_ ?_ ?_,
    ?_⟩
  · decide +kernel
  · apply throughout_of_inits
    unfold AllPassed
    decide +kernel
  · refine ⟨?_, ?_⟩
    · refine .fits ⟨⟨by decide, Or.inr rfl, by decide, Or.inl (by decide), Or.inl ?_⟩, ?_⟩ ?_
      · intro s hs
        rw [show (handedOn (idleSession 4)).head? = none from rfl] at hs
        exact absurd hs (by simp)
      · intro y hy
        rw [show buffered (idleSession 4) = [] from rfl] at hy
        exact absurd hy (by simp)
      · intro hfull
        exact absurd hfull (by unfold reorderListFull; decide)
    intro u hu
    refine ⟨?_, fun _ _ => trivial⟩
    have hsize : (u.stad.ba.recipient ⟨0, by decide⟩).bufferSize = 4 :=
      Option.some.inj ((congrArg (Option.map fun u : UmacData =>
        (u.stad.ba.recipient ⟨0, by decide⟩).bufferSize) hu).symm.trans rfl)
    have hexpected : expectedOf ⟨0, by decide⟩ u = 0 :=
      Option.some.inj ((congrArg (Option.map (expectedOf ⟨0, by decide⟩)) hu).symm.trans rfl)
    have hbuffered : buffered u = [bareQosMpdu 0x10] :=
      Option.some.inj ((congrArg (Option.map buffered) hu).symm.trans rfl)
    have hhandedOn : handedOn u = [] :=
      Option.some.inj ((congrArg (Option.map handedOn) hu).symm.trans rfl)
    refine .fits ⟨?_, ?_⟩ ?_
    · rw [hexpected, hhandedOn]
      exact ⟨by decide, Or.inr rfl, by decide, Or.inl (by decide), Or.inl (by simp)⟩
    · intro y hy
      rw [hbuffered] at hy
      rw [hexpected, List.mem_singleton.mp hy]
      decide
    intro hfull
    unfold reorderListFull at hfull
    rw [hsize, hbuffered] at hfull
    exact absurd hfull (by decide)
  · decide +kernel

/-- With two frames of room, the second of four frames that arrives after the third is
put behind it, and is handed on behind it. -/
theorem reorder_releases_out_of_order :
    ¬ ∀ (env : UmacEnv) (tid : BaTid) (u : UmacData) (events : List ReorderEvent),
      IdleSession tid u → (∀ event ∈ events, event.OnTid tid) →
        Throughout (reorderStep env) AllPassed u events →
          Throughout (reorderStep env) (ReleasedInOrder tid (expectedOf tid u)) u events := by
  intro h
  have hrun := h openEnv ⟨0, by decide⟩ (idleSession 2)
    [.rx (bareQosMpdu 0x10), .rx (bareQosMpdu 0x30), .rx (bareQosMpdu 0x20),
      .rx (bareQosMpdu 0x40), .rx (bareQosMpdu 0x50)]
    (idleSession_idle (by decide)) ?_ ?_
  · have hend : (runFrom (reorderStep openEnv) (idleSession 2)
        [.rx (bareQosMpdu 0x10), .rx (bareQosMpdu 0x30), .rx (bareQosMpdu 0x20),
          .rx (bareQosMpdu 0x40), .rx (bareQosMpdu 0x50)]).map handedOn
        = some [0x20, 0x30, 0x10] := by decide +kernel
    obtain ⟨t, ht, hhanded⟩ := Option.map_eq_some_iff.mp hend
    have horder := (hrun.of_runFrom ht).frames
    rw [hhanded] at horder
    have hlater := (List.isChain_cons.mp horder).1 0x30 rfl
    exact absurd hlater (by decide)
  · decide +kernel
  · apply throughout_of_inits
    unfold AllPassed
    decide +kernel

end MmIotEsp32.Umac.Datapath
