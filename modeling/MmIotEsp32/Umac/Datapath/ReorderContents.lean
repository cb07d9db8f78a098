/-
  MmIotEsp32.Umac.Datapath.ReorderContents

  What is on the reorder list.

  A frame on the list was put there by a received frame, so a property of the frames that
  are received is one of the frames that are buffered (`Contents`).  In particular all of
  them are of the TID that the list belongs to (`ListOfTid`).
-/
import MmIotEsp32.Umac.Datapath.Reorder

namespace MmIotEsp32.Umac.Datapath

open Dot11 Keys Ba

/-! ## The frames of the list -/

/-- The frames on the list satisfy `Q`, and the list belongs to `tid`. -/
structure Contents (Q : Mmpkt → Prop) (tid : U16) (u : UmacData) : Prop where
  chains : FragChainsOk u
  ofTid : u.stad.datapath.rxReorderTid = tid
  entries : ∀ pkt ∈ u.stad.datapath.rxReorderList, Q pkt

variable {env : UmacEnv} {Q : Mmpkt → Prop} {tid : U16} {u u' : UmacData}

theorem Contents.of_stad (h : Contents Q tid u) (hstad : u'.stad = u.stad) :
    Contents Q tid u' where
  chains := by
    unfold FragChainsOk
    rw [hstad]
    exact h.chains
  ofTid := by rw [hstad, h.ofTid]
  entries := by
    rw [hstad]
    exact h.entries

theorem Contents.setList (h : Contents Q tid u) {l : List Mmpkt} (hl : ∀ pkt ∈ l, Q pkt) :
    Contents Q tid (u.setRxReorderList l) :=
  ⟨h.chains, h.ofTid, hl⟩

variable {x : Mmpkt}

theorem Contents.handOn (h : Contents Q tid u)
    (heq : umacDatapathProcessRxDataFrameAfterReorder env u x = some u') : Contents Q tid u' := by
  obtain ⟨record, hspec⟩ := afterReorder_of_eq_some heq h.chains
  refine ⟨hspec.chains, hspec.rxReorderTid.trans h.ofTid, ?_⟩
  rw [hspec.rxReorderList]
  exact h.entries

theorem afterReorder_list (hchains : FragChainsOk u)
    (heq : umacDatapathProcessRxDataFrameAfterReorder env u x = some u') :
    u'.stad.datapath.rxReorderList = u.stad.datapath.rxReorderList := by
  obtain ⟨record, hspec⟩ := afterReorder_of_eq_some heq hchains
  exact hspec.rxReorderList

theorem Contents.flush (h : Contents Q tid u)
    (heq : umacDatapathFlushRxReorderList env u = some u') :
    Contents (fun _ => False) tid u' := by
  have hloop : ∀ {l : List Mmpkt} {v : UmacData}, Contents Q tid v →
      v.stad.datapath.rxReorderList = l → flushRxReorderLoop env l v = some u' →
        Contents (fun _ => False) tid u' := by
    intro l v hv hlist hrun
    induction l generalizing v with
    | nil =>
      cases hrun
      refine ⟨hv.chains, hv.ofTid, fun pkt hpkt => ?_⟩
      rw [hlist] at hpkt
      cases hpkt
    | cons x rest ih =>
      obtain ⟨v₁, hx, hrest⟩ := Option.bind_eq_some_iff.mp hrun
      have hv' : Contents Q tid (v.setRxReorderList rest) :=
        hv.setList fun pkt hpkt => hv.entries pkt (hlist ▸ List.mem_cons_of_mem x hpkt)
      exact ih (hv'.handOn hx) (afterReorder_list (u := v.setRxReorderList rest) hv.chains hx)
        hrest
  exact hloop h rfl heq

theorem Contents.evaluate (h : Contents Q tid u)
    (heq : umacDatapathEvaluateRxReorderList env u = some u') : Contents Q tid u' := by
  have hloop : ∀ {l : List Mmpkt} {v : UmacData}, Contents Q tid v →
      v.stad.datapath.rxReorderList = l → evaluateRxReorderLoop env l v = some u' →
        Contents Q tid u' := by
    intro l v hv hlist hrun
    induction l generalizing v with
    | nil =>
      cases hrun
      exact hv
    | cons x rest ih =>
      have hdequeue : (rxReorderDequeue env v x).1.stad = v.stad := by
        unfold rxReorderDequeue
        dsimp only
        split
        · rfl
        · split <;> rfl
      unfold evaluateRxReorderLoop at hrun
      generalize rxReorderDequeue env v x = answer at hrun hdequeue
      obtain ⟨v₁, leaves⟩ := answer
      have hv₁ := hv.of_stad hdequeue
      cases leaves with
      | false =>
        cases hrun
        exact hv₁
      | true =>
        obtain ⟨v₂, hx, hrest⟩ := Option.bind_eq_some_iff.mp hrun
        have hv' : Contents Q tid (v₁.setRxReorderList rest) :=
          hv₁.setList fun pkt hpkt => hv.entries pkt (hlist ▸ List.mem_cons_of_mem x hpkt)
        exact ih (hv'.handOn hx)
          (afterReorder_list (u := v₁.setRxReorderList rest) hv₁.chains hx) hrest
  exact hloop h rfl heq

theorem Contents.registerTimeout (h : Contents Q tid u) (timeout : UmacTimeout) :
    Contents Q tid (umacCoreRegisterTimeout env u timeout).1 :=
  h.of_stad (umacCoreRegisterTimeout_stad env u timeout)

theorem Contents.timeoutHandler (h : Contents Q tid u)
    (heq : umacDatapathRxReorderTimeoutHandler env u = some u') : Contents Q tid u' := by
  obtain ⟨u₁, heval, rfl⟩ := Option.map_eq_some_iff.mp heq
  split
  · exact h.evaluate heval
  · exact (h.evaluate heval).registerTimeout _

/-! ## A frame that enters -/

theorem mem_reorderInsertWalk {x y : Mmpkt} {s : U16} {l l' : List Mmpkt}
    (heq : reorderInsertWalk x s l = some (some l')) (hy : y ∈ l') : y = x ∨ y ∈ l := by
  induction l generalizing l' with
  | nil => cases heq
  | cons walk rest ih =>
    cases rest with
    | nil =>
      cases heq
      rcases List.mem_cons.mp hy with rfl | hy
      · exact Or.inr (List.mem_cons_self ..)
      · exact Or.inl (List.mem_singleton.mp hy)
    | cons next rest =>
      unfold reorderInsertWalk at heq
      dsimp only at heq
      split_ifs at heq
      · cases Option.some.inj heq
      · cases heq
        simp only [List.mem_cons] at hy ⊢
        tauto
      obtain ⟨inserted, hwalk, hmap⟩ := Option.map_eq_some_iff.mp heq
      obtain ⟨l₁, rfl, rfl⟩ := Option.map_eq_some_iff.mp hmap
      rcases List.mem_cons.mp hy with rfl | hy
      · exact Or.inr (List.mem_cons_self ..)
      · rcases ih hwalk hy with rfl | hy
        · exact Or.inl rfl
        · exact Or.inr (List.mem_cons_of_mem walk hy)

theorem Contents.insert (h : Contents Q tid u) (hx : Q x) {s : U16}
    (heq : reorderInsert env u x s = some u') : Contents Q tid u' := by
  unfold reorderInsert at heq
  split at heq
  · cases heq
  · cases heq
    exact h
  next l hwalk =>
    refine (h.setList fun y hy => ?_).evaluate heq
    rcases mem_reorderInsertWalk hwalk hy with rfl | hy
    · exact hx
    · exact h.entries y hy

theorem Contents.add (h : Contents Q tid u) (hx : Q x) {s : U16} {maxlen : U8}
    (heq : umacDatapathAddRxMpduToReorderList env u x s maxlen = some u') : Contents Q tid u' := by
  unfold umacDatapathAddRxMpduToReorderList at heq
  dsimp only at heq
  split at heq
  · -- the first frame on the list
    cases heq
    refine (h.registerTimeout _).setList fun y hy => ?_
    rw [List.mem_singleton.mp hy]
    exact hx
  next head rest hlist =>
    have hrest : ∀ y ∈ rest, Q y :=
      fun y hy => h.entries y (hlist ▸ List.mem_cons_of_mem head hy)
    split_ifs at heq
    · cases heq
      exact h
    · cases heq
      exact h
    · cases heq
      refine h.setList fun y hy => ?_
      rcases List.mem_cons.mp hy with rfl | hy
      · exact hx
      · exact h.entries y (hlist ▸ hy)
    · -- the list is full: its head makes room
      obtain ⟨u₁, hhead, hinsert⟩ := Option.bind_eq_some_iff.mp heq
      exact ((h.setList hrest).handOn hhead).insert hx hinsert
    · exact h.insert hx heq

theorem Contents.reorder (h : Contents Q tid u) (hx : Q x) {tidIndex reorderBufSize : U8}
    (heq : rxReorder env u x tidIndex reorderBufSize = some u') : Contents Q tid u' := by
  unfold rxReorder at heq
  dsimp only at heq
  split at heq
  · exact h.handOn heq
  split_ifs at heq
  · obtain ⟨u₁, hx, heval⟩ := Option.bind_eq_some_iff.mp heq
    exact (h.handOn hx).evaluate heval
  · cases heq
    exact h.of_stad rfl
  · exact h.add hx heq

/-! ## The TID of the list -/

/-- The TID of a frame, as the list keeps it. -/
def tidOf (pkt : Mmpkt) : U16 := (rxTidIndex pkt.dataStart).setWidth 16

/-- Every frame on the list satisfies `Q` and is of the TID that the list belongs to. -/
def ListOfTid (Q : Mmpkt → Prop) (u : UmacData) : Prop :=
  Contents (fun pkt => Q pkt ∧ tidOf pkt = u.stad.datapath.rxReorderTid)
    u.stad.datapath.rxReorderTid u

theorem ListOfTid.of_contents
    (h : Contents (fun pkt => Q pkt ∧ tidOf pkt = tid) tid u) : ListOfTid Q u := by
  obtain rfl := h.ofTid
  exact h

theorem ListOfTid.claim (h : ListOfTid Q u) {tidIndex : U8}
    (heq : rxReorderClaim env u tidIndex = some u') :
    Contents (fun pkt => Q pkt ∧ tidOf pkt = tidIndex.setWidth 16) (tidIndex.setWidth 16) u' := by
  unfold rxReorderClaim at heq
  split at heq
  · obtain ⟨u₁, hflush, rfl⟩ := Option.map_eq_some_iff.mp heq
    have hempty := Contents.flush h hflush
    exact ⟨hempty.chains, rfl, fun pkt hpkt => absurd hpkt (hempty.entries pkt)⟩
  next hsame =>
    cases heq
    have htid : u.stad.datapath.rxReorderTid = tidIndex.setWidth 16 := by simpa using hsame
    rw [← htid]
    exact h

theorem ListOfTid.processRxDataFrame (h : ListOfTid Q u) (hx : Q x)
    (heq : umacDatapathProcessRxDataFrame env u x = some u') : ListOfTid Q u' := by
  unfold umacDatapathProcessRxDataFrame at heq
  dsimp only at heq
  split at heq
  · cases heq
    exact h
  split at heq
  · cases heq
  split at heq
  · exact .of_contents (Contents.handOn h heq)
  · obtain ⟨u₁, hclaim, hreorder⟩ := Option.bind_eq_some_iff.mp heq
    exact .of_contents ((h.claim hclaim).reorder ⟨hx, rfl⟩ hreorder)

theorem ListOfTid.flushForTid (h : ListOfTid Q u) {flushTid : U16}
    (heq : umacDatapathFlushRxReorderListForTid env u flushTid = some u') : ListOfTid Q u' := by
  unfold umacDatapathFlushRxReorderListForTid at heq
  split at heq
  · cases heq
    exact h
  obtain ⟨u₁, hfirst, hsecond⟩ := Option.bind_eq_some_iff.mp heq
  have hempty := (Contents.flush h hfirst).flush hsecond
  exact .of_contents ⟨hempty.chains, hempty.ofTid,
    fun pkt hpkt => absurd hpkt (hempty.entries pkt)⟩

end MmIotEsp32.Umac.Datapath
