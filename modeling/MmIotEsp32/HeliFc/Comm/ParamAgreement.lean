/-
  MmIotEsp32.HeliFc.Comm.ParamAgreement

  When the parameters that the ground station is shown are those that are flown.
-/
import MmIotEsp32.HeliFc.Comm.ParamProtocol

namespace MmIotEsp32.HeliFc

open Lib

section

variable {F D : Type*} [CFloat F]

/-! ## Core 0 answers -/

/-- What was sent to the ground station, and what is on its way there. -/
def ParamSystem.shown (s : ParamSystem F D) : List (ParamValueMsg F) :=
  s.sent ++ s.valueQueue ++ s.telemQueue

/-- The last message about a name. -/
def lastNamed (msgs : List (ParamValueMsg F)) (name : String) : Option (ParamValueMsg F) :=
  (msgs.filter fun msg => msg.name == name).getLast?

omit [CFloat F] in
theorem lastNamed_concat_self (msgs : List (ParamValueMsg F)) (msg : ParamValueMsg F) :
    lastNamed (msgs ++ [msg]) msg.name = some msg := by
  unfold lastNamed
  rw [List.filter_append, List.filter_cons_of_pos (by simp)]
  exact List.getLast?_concat ..

omit [CFloat F] in
theorem lastNamed_concat_of_ne (msgs : List (ParamValueMsg F)) {msg : ParamValueMsg F}
    {name : String} (hne : msg.name ≠ name) : lastNamed (msgs ++ [msg]) name = lastNamed msgs name := by
  unfold lastNamed
  rw [List.filter_append, List.filter_cons_of_neg (by simpa using hne), List.filter_nil,
    List.append_nil]

/-- The store is as it was initialised, or is still to be. -/
def StoreUntouched (s : ParamSystem F D) : Prop :=
  (s.paramsInitialized = false ∧ s.store = []) ∨
    (s.paramsInitialized = true ∧ s.store = initialStore F)

/-- Everything that is shown comes from core 0, and of each parameter the last value that is
shown is the one in force. -/
structure Core0Answers (s : ParamSystem F D) : Prop where
  quiet : s.listPending = false
  store : StoreUntouched s
  flight : ∀ msg ∈ s.shown, ∃ id value, msg = flightValueMsg id value
  last : ∀ id, ∀ msg ∈ lastNamed s.shown (paramTable id).name, msg.value = s.sysmon.params id

theorem Core0Answers.init [CFloat D] (params : Params F) :
    Core0Answers (paramSystemInit params : ParamSystem F D) where
  quiet := rfl
  store := Or.inl ⟨rfl, rfl⟩
  flight := fun msg hmsg => by cases hmsg
  last := fun id msg hmsg => by cases hmsg

variable {s : ParamSystem F D}

theorem StoreUntouched.init (h : StoreUntouched s) :
    paramStoreInit s = { s with paramsInitialized := true, store := initialStore F } := by
  unfold paramStoreInit
  rcases h with ⟨hinit, hstore⟩ | ⟨hinit, hstore⟩
  · rw [hinit, if_neg (by decide)]
    rfl
  · rw [hinit, if_pos rfl, ← hstore, ← hinit]

theorem storeFind_initialStore {name : String} (h : storeName name = false) :
    storeFind (initialStore F) name = none := by
  unfold storeFind
  rw [List.findIdx?_eq_none_iff]
  intro entry hentry
  have hname : entry.name ∈ paramStoreDefaults.map Prod.fst := by
    rw [← initialStore_names (F := F)]
    exact List.mem_map_of_mem hentry
  obtain ⟨param, hparam, heq⟩ := List.mem_map.mp hname
  -- an entry with the name would be one of the defaults
  rw [storeName, List.any_eq_false] at h
  have hne := h param hparam
  rw [← heq]
  simpa using hne

omit [CFloat F] in
theorem sendParamCommand_cases (s : ParamSystem F D) (name : String) (value : F) :
    sendParamCommand s name value = s ∨
      sendParamCommand s name value = { s with cmdQueue := s.cmdQueue ++ [(name, value)] } := by
  unfold sendParamCommand
  split_ifs
  · exact Or.inr rfl
  · exact Or.inl rfl

theorem processParamMessage_core0 (hstore : StoreUntouched s) {targetSystem : U8}
    {msg : ParamMessage F} (h : AddressedToUs targetSystem → OnlyCore0 msg) :
    processParamMessage s targetSystem msg = s ∨ ∃ cmdQueue, processParamMessage s targetSystem msg
      = { s with paramsInitialized := true, store := initialStore F, cmdQueue := cmdQueue } := by
  unfold processParamMessage
  by_cases hto : AddressedToUs targetSystem
  · rw [if_pos hto]
    specialize h hto
    right
    -- the store is made first, and then the message looks for its entry
    cases msg with
    | paramSet name value =>
      have hfind : storeFind (initialStore F) name = none := storeFind_initialStore h
      unfold handleParamSet
      rw [hstore.init]
      generalize initialStore F = store at hfind ⊢
      dsimp only
      rw [paramSetValue, hfind]
      dsimp only
      rw [hfind]
      dsimp only [replyFromStore]
      rcases sendParamCommand_cases { s with paramsInitialized := true, store := store } name value
        with heq | heq
      · exact ⟨s.cmdQueue, heq⟩
      · exact ⟨s.cmdQueue ++ [(name, value)], heq⟩
    | paramRequestRead name index =>
      have hidx : requestedIdx (initialStore F) name index = none := h
      unfold handleParamRequestRead
      rw [hstore.init]
      generalize initialStore F = store at hidx ⊢
      dsimp only
      rw [hidx]
      exact ⟨s.cmdQueue, rfl⟩
    | paramRequestList => exact h.elim
  · rw [if_neg hto]
    exact Or.inl rfl

theorem commandParamSet_cases (s : Sysmon F D) (name : String) (value : F) :
    (paramFind name = none ∧ commandParamSet s name value = s) ∨
      ∃ id, paramFind name = some id ∧ commandParamSet s name value = { s with
        params := paramSet s.params id value
        sent := s.sent ++ [.paramValue id (paramSet s.params id value id)] } := by
  unfold commandParamSet
  cases hfind : paramFind name with
  | none => exact Or.inl ⟨rfl, rfl⟩
  | some id => exact Or.inr ⟨id, rfl, rfl⟩

theorem paramSet_of_ne (params : Params F) {id id' : ParamId} (value : F) (hne : id' ≠ id) :
    paramSet params id value id' = params id' := by
  unfold paramSet
  split_ifs
  · rfl
  · exact Function.update_of_ne hne ..

theorem Core0Answers.command {s : ParamSystem F D} (h : Core0Answers s)
    (hroom : s.telemQueue.length < rpcTelemQueueDepth) : Core0Answers (takeParamCommand s) := by
  unfold takeParamCommand
  cases hqueue : s.cmdQueue with
  | nil => exact h
  | cons cmd rest =>
    obtain ⟨name, value⟩ := cmd
    dsimp only
    rcases commandParamSet_cases { s.sysmon with sent := [] } name value with
      ⟨-, hset⟩ | ⟨id, -, hset⟩
    · rw [hset]
      exact ⟨h.quiet, h.store, h.flight, h.last⟩
    rw [hset]
    have hshown : ∀ msg, s.sent ++ s.valueQueue ++ (s.telemQueue ++ [msg]) = s.shown ++ [msg] :=
      fun msg => (List.append_assoc ..).symm
    have hpush : ∀ msg, pushTelemetry s.telemQueue msg = s.telemQueue ++ [msg] :=
      fun msg => if_pos hroom
    refine ⟨h.quiet, h.store, ?_, ?_⟩
    · intro msg hmsg
      change msg ∈ s.sent ++ s.valueQueue ++ pushTelemetry s.telemQueue _ at hmsg
      rw [hpush, hshown] at hmsg
      rcases List.mem_append.mp hmsg with hold | hnew
      · exact h.flight msg hold
      · exact ⟨_, _, List.mem_singleton.mp hnew⟩
    intro id' msg hmsg
    change msg ∈ lastNamed (s.sent ++ s.valueQueue ++ pushTelemetry s.telemQueue
      (flightValueMsg id (paramSet s.sysmon.params id value id))) _ at hmsg
    show msg.value = paramSet s.sysmon.params id value id'
    rw [hpush, hshown] at hmsg
    -- the new message is the last one about the parameter that was set, and about no other
    by_cases hid : id' = id
    · subst hid
      rw [show (paramTable id').name = (flightValueMsg id'
        (paramSet s.sysmon.params id' value id')).name from rfl, lastNamed_concat_self] at hmsg
      cases hmsg
      rfl
    · rw [lastNamed_concat_of_ne _ fun heq => hid (paramTable_name_injective heq).symm] at hmsg
      rw [paramSet_of_ne _ _ hid]
      exact h.last id' msg hmsg

theorem Core0Answers.moves (h : Core0Answers s)
    {sent valueQueue telemQueue : List (ParamValueMsg F)}
    (hshown : sent ++ valueQueue ++ telemQueue = s.shown) :
    Core0Answers { s with sent, valueQueue, telemQueue } where
  quiet := h.quiet
  store := h.store
  flight := by
    show ∀ msg ∈ sent ++ valueQueue ++ telemQueue, _
    rw [hshown]
    exact h.flight
  last := by
    show ∀ id, ∀ msg ∈ lastNamed (sent ++ valueQueue ++ telemQueue) _, _
    rw [hshown]
    exact h.last

theorem Core0Answers.step {s s' : ParamSystem F D} {e : ParamEvent F} (h : Core0Answers s)
    (hroom : NoParamOverflow s e)
    (hmsg : ∀ targetSystem msg, e = .receive targetSystem msg → AddressedToUs targetSystem →
      OnlyCore0 msg)
    (hs' : paramStep s e = some s') : Core0Answers s' := by
  cases e with
  | receive targetSystem msg =>
    cases hs'
    -- core 1 keeps silent: the answer will come from core 0
    rcases processParamMessage_core0 h.store (hmsg targetSystem msg rfl) with heq | ⟨cmdQueue, heq⟩
    · rw [heq]
      exact h
    · generalize hstore : initialStore F = store at heq
      rw [heq]
      exact ⟨h.quiet, Or.inr ⟨rfl, hstore.symm⟩, h.flight, h.last⟩
  | command =>
    cases hs'
    exact h.command hroom
  | receiveTelemetry =>
    cases hs'
    unfold takeParamTelemetry
    cases hqueue : s.telemQueue with
    | nil => exact h
    | cons msg rest =>
      dsimp only
      rw [if_pos (show s.valueQueue.length < paramValueQueueDepth from hroom)]
      refine h.moves ?_
      rw [ParamSystem.shown, hqueue]
      simp
  | sendParamValues nowMs =>
    cases hs'
    unfold sendParamValues
    rw [if_neg (by rw [h.quiet]; decide)]
    refine h.moves ?_
    rw [List.append_nil, ParamSystem.shown]

theorem Core0Answers.shownFlown (h : Core0Answers s) : ShownFlown s := by
  have hflight : ∀ msg ∈ s.sent, ∃ id value, msg = flightValueMsg id value := fun msg hmsg =>
    h.flight msg (List.mem_append_left _ (List.mem_append_left _ hmsg))
  refine ⟨?_, ?_, ?_⟩
  -- nothing is under way, so what is shown has been sent
  · rintro ⟨-, htelem, hvalue⟩ id msg hmsg
    apply h.last id msg
    rw [ParamSystem.shown, htelem, hvalue, List.append_nil, List.append_nil]
    exact hmsg
  · intro msg hmsg msg' hmsg'
    obtain ⟨id, value, rfl⟩ := hflight msg hmsg
    obtain ⟨id', value', rfl⟩ := hflight msg' hmsg'
    rfl
  intro msg hmsg msg' hmsg'
  obtain ⟨id, value, rfl⟩ := hflight msg hmsg
  obtain ⟨id', value', rfl⟩ := hflight msg' hmsg'
  constructor
  · intro hname
    rw [show id = id' from paramTable_name_injective hname]
    rfl
  · intro hindex
    rw [show id = id' from paramIndex_injective hindex]
    rfl

/-! ## Core 1 answers -/

/-- The store has its names, and the values of those that core 0 has too. -/
structure StoreKept (store : List (ParamEntry F)) : Prop where
  names : store.map ParamEntry.name = paramStoreDefaults.map Prod.fst
  shared : ∀ (idx : Nat) (entry : ParamEntry F) (param : String × ℚ), store[idx]? = some entry →
    paramStoreDefaults[idx]? = some param → ∀ id, (paramTable id).name = param.1 →
      entry.value = lit param.2

/-- A message about an entry of the store, with the value of core 0 if core 0 has the name. -/
def StoreMsg (params : Params F) (msg : ParamValueMsg F) : Prop :=
  ∃ (idx : Nat) (param : String × ℚ), paramStoreDefaults[idx]? = some param ∧ msg.name = param.1
    ∧ msg.count = BitVec.ofNat 16 paramStoreDefaults.length ∧ msg.index = BitVec.ofNat 16 idx
    ∧ ∀ id, (paramTable id).name = param.1 → msg.value = params id

theorem StoreKept.initialStore : StoreKept (initialStore F) where
  names := initialStore_names
  shared := by
    intro idx entry param hentry hparam id _
    rw [initialStore_eq, List.getElem?_map, hparam] at hentry
    cases hentry
    rfl

variable {store : List (ParamEntry F)} {entry : ParamEntry F}

theorem StoreKept.default (h : StoreKept store) {idx : Nat} (hentry : store[idx]? = some entry) :
    ∃ param, paramStoreDefaults[idx]? = some param ∧ entry.name = param.1 := by
  have hname : (store.map ParamEntry.name)[idx]? = some entry.name := by
    rw [List.getElem?_map, hentry]
    rfl
  rw [h.names, List.getElem?_map, Option.map_eq_some_iff] at hname
  obtain ⟨param, hparam, heq⟩ := hname
  exact ⟨param, hparam, heq.symm⟩

theorem StoreKept.length_eq (h : StoreKept store) : store.length = paramStoreDefaults.length := by
  have hlen := congrArg List.length h.names
  rwa [List.length_map, List.length_map] at hlen

theorem StoreKept.requestedIdx (h : StoreKept store) (name : String)
    (index : U16) : requestedIdx store name index = requestedIdx (HeliFc.initialStore F) name index := by
  have hfind : ∀ store' : List (ParamEntry F),
      storeFind store' name = (store'.map ParamEntry.name).findIdx? (· == name) := by
    intro store'
    rw [List.findIdx?_map]
    rfl
  -- the names are those of the defaults, before and after any set
  unfold HeliFc.requestedIdx
  rw [hfind store, hfind (HeliFc.initialStore F), h.names, h.length_eq, initialStore_names,
    StoreKept.initialStore.length_eq]

theorem ne_of_paramFind_none {name : String} (h : paramFind name = none) (id : ParamId) :
    (paramTable id).name ≠ name := by
  intro heq
  exact paramFind_name_ne_none id (heq ▸ h)

theorem StoreKept.set (h : StoreKept store) {name : String}
    (hname : paramFind name = none) (value : F) : StoreKept (paramSetValue store name value) := by
  unfold paramSetValue
  cases hfind : storeFind store name with
  | none => exact h
  | some i =>
    dsimp only
    have hmatch := (List.findIdx?_eq_some_iff_getElem.mp hfind)
    obtain ⟨hi, heq, -⟩ := hmatch
    constructor
    · rw [← h.names]
      -- a set changes the value of an entry, and no name
      apply List.ext_getElem?
      intro j
      rw [List.getElem?_map, List.getElem?_map, List.getElem?_modify]
      cases store[j]? with
      | none => rfl
      | some other =>
        simp only [Option.map_eq_map, Option.map_some]
        split_ifs <;> rfl
    intro idx entry param hentry hparam id hid
    rw [List.getElem?_modify] at hentry
    by_cases hij : i = idx
    · -- the entry that is set is not shared
      subst hij
      obtain ⟨param', hparam', hname'⟩ := h.default (List.getElem?_eq_getElem hi)
      rw [hparam] at hparam'
      cases hparam'
      exact absurd (hid.trans (hname'.symm.trans (eq_of_beq heq)))
        (ne_of_paramFind_none hname id)
    · simp only [if_neg hij, Option.map_eq_map, Option.map_id'] at hentry
      exact h.shared idx entry param hentry hparam id hid

/-- Everything that is shown comes from the store, and core 0 keeps what it has. -/
structure Core1Answers (params : Params F) (s : ParamSystem F D) : Prop where
  unchanged : s.sysmon.params = params
  commands : ∀ cmd ∈ s.cmdQueue, paramFind cmd.1 = none
  telem : s.telemQueue = []
  values : s.valueQueue = []
  store : (s.paramsInitialized = false ∧ s.store = []) ∨
    (s.paramsInitialized = true ∧ StoreKept s.store)
  pending : s.listPending = true → ∀ param ∈ paramStoreDefaults, EntryAgrees params param
  sent : ∀ msg ∈ s.sent, StoreMsg params msg

theorem Core1Answers.init [CFloat D] (params : Params F) :
    Core1Answers params (paramSystemInit params : ParamSystem F D) where
  unchanged := rfl
  commands := fun cmd hcmd => by cases hcmd
  telem := rfl
  values := rfl
  store := Or.inl ⟨rfl, rfl⟩
  pending := fun hpending => by cases hpending
  sent := fun msg hmsg => by cases hmsg

variable {params : Params F}

theorem Core1Answers.storeInit (h : Core1Answers params s) :
    Core1Answers params (paramStoreInit s) ∧ StoreKept (paramStoreInit s).store := by
  unfold paramStoreInit
  rcases h.store with ⟨hinit, hstore⟩ | ⟨hinit, hkept⟩
  · rw [if_neg (by rw [hinit]; decide)]
    have hkept : StoreKept (paramStoreDefaults.foldl addParam [] : List (ParamEntry F)) :=
      StoreKept.initialStore
    generalize (paramStoreDefaults.foldl addParam [] : List (ParamEntry F)) = store at hkept ⊢
    exact ⟨{ h with store := Or.inr ⟨rfl, hkept⟩ }, hkept⟩
  · rw [if_pos hinit]
    exact ⟨h, hkept⟩

theorem StoreKept.storeMsg (h : StoreKept store) {idx : Nat} (hentry : store[idx]? = some entry)
    (hagrees : ∀ id, (paramTable id).name = entry.name → entry.value = params id) :
    StoreMsg params (storeValueMsg store idx entry) := by
  obtain ⟨param, hparam, hname⟩ := h.default hentry
  refine ⟨idx, param, hparam, hname, ?_, rfl, ?_⟩
  · show BitVec.ofNat 16 store.length = _
    rw [h.length_eq]
  · intro id hid
    exact hagrees id (hid.trans hname.symm)

theorem Core1Answers.sends (h : Core1Answers params s)
    {msg : ParamValueMsg F} (hmsg : StoreMsg params msg) :
    ∀ m ∈ s.sent ++ [msg], StoreMsg params m := by
  intro m hm
  rcases List.mem_append.mp hm with hold | hnew
  · exact h.sent m hold
  · rw [List.mem_singleton.mp hnew]
    exact hmsg

theorem Core1Answers.reply (h : Core1Answers params s)
    (hkept : StoreKept s.store) {idx : Option Nat}
    (hagrees : ∀ i ∈ idx, ∀ entry ∈ s.store[i]?, ∀ id, (paramTable id).name = entry.name →
      entry.value = params id) : Core1Answers params (replyFromStore s idx) := by
  unfold replyFromStore
  cases idx with
  | none => exact h
  | some i =>
    dsimp only
    cases hentry : s.store[i]? with
    | none => exact h
    | some entry =>
      have hmsg := hkept.storeMsg hentry (hagrees i rfl entry hentry)
      exact { h with sent := h.sends hmsg }

theorem StoreKept.agrees (h : StoreKept store) {idx : Nat} (hentry : store[idx]? = some entry)
    (hdefault : ∀ param ∈ paramStoreDefaults[idx]?, EntryAgrees params param) (id : ParamId)
    (hid : (paramTable id).name = entry.name) : entry.value = params id := by
  obtain ⟨param, hparam, hname⟩ := h.default hentry
  rw [h.shared idx entry param hentry hparam id (hid.trans hname)]
  exact hdefault param hparam id (hid.trans hname)

theorem Core1Answers.receive (h : Core1Answers params s) {targetSystem : U8} {msg : ParamMessage F}
    (hmsg : AddressedToUs targetSystem → OnlyCore1 params msg) :
    Core1Answers params (processParamMessage s targetSystem msg) := by
  obtain ⟨hinit, hkept⟩ := h.storeInit
  unfold processParamMessage
  by_cases hto : AddressedToUs targetSystem
  · rw [if_pos hto]
    specialize hmsg hto
    cases msg with
    | paramSet name value =>
      have hname : paramFind name = none := hmsg
      have hset := hkept.set hname value
      have hreply : Core1Answers params (replyFromStore
          { paramStoreInit s with store := paramSetValue (paramStoreInit s).store name value }
          (storeFind (paramSetValue (paramStoreInit s).store name value) name)) := by
        have hsystem : Core1Answers params { paramStoreInit s with
            store := paramSetValue (paramStoreInit s).store name value } := by
          refine { hinit with store := ?_ }
          rcases hinit.store with ⟨hno, hempty⟩ | ⟨hyes, -⟩
          · have hlength := hkept.length_eq
            rw [hempty] at hlength
            cases hlength
          · exact Or.inr ⟨hyes, hset⟩
        refine hsystem.reply hset fun i hi entry hentry id hid => ?_
        -- the entry that is found has the name, which core 0 does not
        obtain ⟨hlt, hname', -⟩ := List.findIdx?_eq_some_iff_getElem.mp hi
        obtain rfl := Option.some.inj ((List.getElem?_eq_getElem hlt).symm.trans hentry)
        exact absurd (hid.trans (eq_of_beq hname')) (ne_of_paramFind_none hname id)
      unfold handleParamSet
      dsimp only
      generalize replyFromStore _ _ = s' at hreply ⊢
      rcases sendParamCommand_cases s' name value with heq | heq
      · rw [heq]
        exact hreply
      rw [heq]
      refine { hreply with commands := ?_ }
      intro cmd hcmd
      rcases List.mem_append.mp hcmd with hold | hnew
      · exact hreply.commands cmd hold
      · rw [List.mem_singleton.mp hnew]
        exact hname
    | paramRequestRead name index =>
      refine hinit.reply hkept fun i hi entry hentry id hid => ?_
      rw [hkept.requestedIdx] at hi
      exact hkept.agrees hentry (hmsg i hi) id hid
    | paramRequestList => exact { hinit with pending := fun _ => hmsg }
  · rw [if_neg hto]
    exact h

theorem Core1Answers.command {params : Params F} {s : ParamSystem F D}
    (h : Core1Answers params s) : Core1Answers params (takeParamCommand s) := by
  unfold takeParamCommand
  cases hqueue : s.cmdQueue with
  | nil => exact h
  | cons cmd rest =>
    obtain ⟨name, value⟩ := cmd
    have hcommands := h.commands
    rw [hqueue] at hcommands
    have hname : paramFind name = none := hcommands (name, value) (List.mem_cons_self ..)
    have hset : commandParamSet { s.sysmon with sent := [] } name value
        = { s.sysmon with sent := [] } := by
      unfold commandParamSet
      rw [hname]
    dsimp only
    rw [hset]
    exact { h with commands := fun cmd hcmd => hcommands cmd (List.mem_cons_of_mem _ hcmd) }

theorem Core1Answers.sendValues
    (h : Core1Answers params s) (nowMs : U32) : Core1Answers params (sendParamValues s nowMs) := by
  unfold sendParamValues
  by_cases hpending : s.listPending = true
  · rw [if_pos hpending]
    by_cases hpaced : paramSendIntervalMs ≤ (nowMs - s.lastSendMs).toNat
    · rw [if_pos hpaced]
      cases hentry : s.store[s.sendIdx]? with
      | some entry =>
        refine { h with sent := h.sends ?_ }
        rcases h.store with ⟨-, hempty⟩ | ⟨-, hkept⟩
        · rw [hempty] at hentry
          cases hentry
        · refine hkept.storeMsg hentry fun id hid => hkept.agrees hentry ?_ id hid
          exact fun param hparam => h.pending hpending param (List.mem_of_getElem? hparam)
      | none =>
        dsimp only
        split_ifs
        · exact { h with }
        · exact { h with pending := fun hfalse => by cases hfalse }
    · rw [if_neg hpaced]
      exact h
  rw [if_neg hpending]
  refine { h with values := rfl, sent := ?_ }
  show ∀ msg ∈ s.sent ++ s.valueQueue, _
  rw [h.values, List.append_nil]
  exact h.sent

theorem Core1Answers.step {s s' : ParamSystem F D} {e : ParamEvent F} (h : Core1Answers params s)
    (hmsg : ∀ targetSystem msg, e = .receive targetSystem msg → AddressedToUs targetSystem →
      OnlyCore1 params msg) (hs' : paramStep s e = some s') : Core1Answers params s' := by
  cases e with
  | receive targetSystem msg =>
    cases hs'
    exact h.receive (hmsg targetSystem msg rfl)
  | command =>
    cases hs'
    exact h.command
  | receiveTelemetry =>
    cases hs'
    unfold takeParamTelemetry
    rw [h.telem]
    exact h
  | sendParamValues nowMs =>
    cases hs'
    exact h.sendValues nowMs

theorem storeIndex_injective {idx idx' : Nat} {param param' : String × ℚ}
    (h : paramStoreDefaults[idx]? = some param) (h' : paramStoreDefaults[idx']? = some param')
    (heq : BitVec.ofNat 16 idx = BitVec.ofNat 16 idx') : idx = idx' := by
  have hlength : paramStoreDefaults.length = 55 := rfl
  have hlt := (List.getElem?_eq_some_iff.mp h).1
  have hlt' := (List.getElem?_eq_some_iff.mp h').1
  have hidx := congrArg BitVec.toNat heq
  rw [BitVec.toNat_ofNat, BitVec.toNat_ofNat, Nat.mod_eq_of_lt (by omega),
    Nat.mod_eq_of_lt (by omega)] at hidx
  exact hidx

theorem storeName_injective {idx idx' : Nat} {param param' : String × ℚ}
    (h : paramStoreDefaults[idx]? = some param) (h' : paramStoreDefaults[idx']? = some param')
    (heq : param.1 = param'.1) : idx = idx' := by
  have hname : (paramStoreDefaults.map Prod.fst)[idx]? = some param.1 := by
    rw [List.getElem?_map, h]
    rfl
  have hname' : (paramStoreDefaults.map Prod.fst)[idx']? = some param.1 := by
    rw [List.getElem?_map, h', heq]
    rfl
  obtain ⟨hlt, -⟩ := List.getElem?_eq_some_iff.mp hname
  exact (List.getElem?_inj hlt paramStoreDefaults_names_nodup).mp (hname.trans hname'.symm)

theorem Core1Answers.shownFlown (h : Core1Answers params s) : ShownFlown s := by
  refine ⟨?_, ?_, ?_⟩
  · intro _ id msg hmsg
    -- every message that was sent has the value of core 0, the last one too
    have hmem := List.mem_of_getLast? hmsg
    rw [List.mem_filter] at hmem
    obtain ⟨idx, param, -, hname, -, -, hvalue⟩ := h.sent msg hmem.1
    show msg.value = s.sysmon.params id
    rw [h.unchanged]
    exact hvalue id ((eq_of_beq hmem.2).symm.trans hname)
  · intro msg hmsg msg' hmsg'
    obtain ⟨idx, param, -, -, hcount, -, -⟩ := h.sent msg hmsg
    obtain ⟨idx', param', -, -, hcount', -, -⟩ := h.sent msg' hmsg'
    rw [hcount, hcount']
  intro msg hmsg msg' hmsg'
  obtain ⟨idx, param, hparam, hname, -, hindex, -⟩ := h.sent msg hmsg
  obtain ⟨idx', param', hparam', hname', -, hindex', -⟩ := h.sent msg' hmsg'
  rw [hname, hname', hindex, hindex']
  constructor
  · intro heq
    rw [storeName_injective hparam hparam' heq]
  intro heq
  obtain rfl := storeIndex_injective hparam hparam' heq
  obtain rfl := Option.some.inj (hparam.symm.trans hparam')
  rfl

/-! ## Runs -/

theorem Messages.along {P : ParamMessage F → Prop} {es : List (ParamEvent F)} (h : Messages P es) :
    Along paramStep (fun _ e => ∀ targetSystem msg, e = .receive targetSystem msg →
      AddressedToUs targetSystem → P msg) s es := by
  apply along_of_forall_mem
  rintro e he s targetSystem msg rfl
  exact h targetSystem msg he

/-- In every run without overflow over messages that are all answered by one table, with values
that agree if it is the one of core 1, what the ground station is shown is what is flown. -/
theorem shown_is_flown [CFloat D] (params : Params F) (es : List (ParamEvent F))
    (hroom : Along paramStep NoParamOverflow (paramSystemInit params : ParamSystem F D) es)
    (hone : OneTable params es) :
    Throughout paramStep ShownFlown (paramSystemInit params : ParamSystem F D) es := by
  rcases hone with hcore0 | hcore1
  -- the messages are all for one table, and the invariant is that of its side
  · have hrun : Throughout paramStep Core0Answers (paramSystemInit params : ParamSystem F D) es :=
      throughout_of_step (fun s e s' h hC hs' => h.step hC.1 hC.2 hs') (Core0Answers.init params)
        (hroom.and hcore0.along)
    exact hrun.mono fun s h => h.shownFlown
  have hrun : Throughout paramStep (Core1Answers params)
      (paramSystemInit params : ParamSystem F D) es :=
    throughout_of_step (fun s e s' h hC hs' => h.step hC hs') (Core1Answers.init params)
      hcore1.along
  exact hrun.mono fun s h => h.shownFlown

end

/-- A gain that only core 0 has is set, and then out of its range. -/
theorem shown_is_flown_set :
    Throughout paramStep ShownFlown
      (paramSystemInit (paramInit fun _ => none) : ParamSystem ℚ ℚ)
      [.receive 1 (.paramSet "H_YAW_CCW" 1), .command, .receiveTelemetry, .sendParamValues 5,
       .receive 1 (.paramSet "H_YAW_CCW" 7), .command, .receiveTelemetry, .sendParamValues 9] := by
  refine shown_is_flown _ _ ?_ (Or.inl ?_)
  · decide +kernel
  intro targetSystem msg hmem _
  simp only [List.mem_cons, ParamEvent.receive.injEq, reduceCtorEq, false_or, List.not_mem_nil,
    or_false] at hmem
  rcases hmem with ⟨-, rfl⟩ | ⟨-, rfl⟩
  · show storeName _ = false
    decide +kernel
  · show storeName _ = false
    decide +kernel

/-- The ground station asks for the roll gain: core 1 answers 6.5, and core 0 flies with 4.5. -/
theorem shown_is_not_flown :
    ¬ ∀ (params : Params ℚ) (es : List (ParamEvent ℚ)),
      Along paramStep NoParamOverflow (paramSystemInit params : ParamSystem ℚ ℚ) es →
        Throughout paramStep ShownFlown (paramSystemInit params : ParamSystem ℚ ℚ) es := by
  intro h
  obtain ⟨s, hrun, hdrained, hshown, hflown⟩ : ∃ s : ParamSystem ℚ ℚ,
      runFrom paramStep (paramSystemInit (paramInit fun _ => none) : ParamSystem ℚ ℚ)
        [.receive 1 (.paramRequestRead "MC_ROLL_P" 65535)] = some s
        ∧ s.Drained ∧ s.lastShown "MC_ROLL_P" = some ⟨"MC_ROLL_P", 6.5, 9, 55, 41⟩
        ∧ s.sysmon.params .attRollKp = 4.5 := by
    refine ⟨processParamMessage (paramSystemInit (paramInit fun _ => none)) 1
      (.paramRequestRead "MC_ROLL_P" 65535), rfl, ?_, ?_, ?_⟩
    · unfold ParamSystem.Drained
      decide +kernel
    · decide +kernel
    · decide +kernel
  have hvalue := ((h (paramInit fun _ => none) _ (by decide +kernel)).of_runFrom hrun).flown
    hdrained .attRollKp _ hshown
  rw [paramGet, hflown] at hvalue
  norm_num at hvalue

end MmIotEsp32.HeliFc
