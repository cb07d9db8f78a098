/-
  MmIotEsp32.HeliFc.Uorb.OrbDelivery

  What the callers of `uorb/uorb.c` get, whatever other tasks do in between.
-/
import MmIotEsp32.HeliFc.Uorb.OrbInterleaving
import MmIotEsp32.Lib.Mutex

namespace MmIotEsp32.HeliFc

open Lib Function

variable {α : Type*}

/-! ## Tasks and mutexes -/

/-- What a task knows at the place where it is. -/
def OrbCall.PlaceOk (topics : U8 → OrbSlot α) : OrbCall α → Prop
  | .filled t _ => (topics t).advertised = false
  | .publish t _ => (topics t).advertised = true
  | .publishing t i data =>
    (topics t).advertised = true ∧ i ≤ (topics t).subscriberQueues.length
      ∧ (topics t).published.getLast? = some data
  | .registering t =>
    (topics t).advertised = true ∧ (topics t).subscriberQueues.length < orbMaxSubscribers
  | _ => True

/-- The mutexes exclude what they guard, and every topic has delivered what it should. -/
structure OrbBus.Consistent (s : OrbBus α) : Prop where
  global : HeldBy OrbCall.HoldsGlobal s.calls s.globalMutex
  mutex : ∀ t, HeldBy (OrbCall.HoldsTopic t) s.calls (s.topics t).mutex
  place : ∀ k, (s.calls k).PlaceOk s.topics
  delivered : ∀ t, (s.topics t).Delivered (s.reached t)

theorem OrbBus.Consistent.init : (OrbBus.init : OrbBus α).Consistent where
  global := HeldBy.of_free fun _ h => h
  mutex := fun _ => HeldBy.of_free fun _ h => h
  place := fun _ => trivial
  delivered := fun _ => .of_nil rfl

variable {c : OrbCall α}

theorem reachedOf_update {mutex : Option Nat} {calls : Nat → OrbCall α} {k : Nat}
    (h : mutex = some k → c.loopIndex = (calls k).loopIndex) :
    reachedOf mutex (update calls k c) = reachedOf mutex calls := by
  cases mutex with
  | none => rfl
  | some j =>
    show (update calls k c j).loopIndex = (calls j).loopIndex
    by_cases hj : j = k
    · subst hj
      rw [update_self]
      exact h rfl
    · rw [update_of_ne hj]

theorem reachedOf_owner {calls : Nat → OrbCall α} {k : Nat} :
    reachedOf (some k) (update calls k c) = c.loopIndex := by
  show (update calls k c k).loopIndex = c.loopIndex
  rw [update_self]

theorem OrbBus.reached_of_free (s : OrbBus α) {t : U8} (h : (s.topics t).mutex = none) :
    s.reached t = none := by
  unfold OrbBus.reached
  rw [h]
  rfl

theorem OrbBus.not_holdsTopic (s : OrbBus α) {k : Nat} (hk : s.calls k = c)
    (hc : ∀ t, ¬ c.HoldsTopic t) (t : U8) : ¬ (s.calls k).HoldsTopic t := by
  rw [hk]
  exact hc t

theorem OrbCall.PlaceOk.of_slot {topics : U8 → OrbSlot α} {t : U8} {slot : OrbSlot α}
    (h : c.PlaceOk topics) (hglobal : ¬ c.HoldsGlobal ∨ (slot.advertised = (topics t).advertised
      ∧ slot.subscriberQueues.length = (topics t).subscriberQueues.length))
    (hmutex : ¬ c.HoldsTopic t ∨ slot.published = (topics t).published)
    (hkeeps : (topics t).advertised = true → slot.advertised = true
      ∧ (topics t).subscriberQueues.length ≤ slot.subscriberQueues.length) :
    c.PlaceOk (update topics t slot) := by
  -- a place is about one topic, and if it is another one nothing changes
  have hother : ∀ t', t' ≠ t → update topics t slot t' = topics t' :=
    fun t' hne => update_of_ne hne _ _
  cases c with
  | filled t' n =>
    show (update topics t slot t').advertised = false
    by_cases ht : t' = t
    · subst ht
      rw [update_self, (hglobal.resolve_left fun hnot => hnot trivial).1]
      exact h
    · rw [hother t' ht]
      exact h
  | publish t' data =>
    show (update topics t slot t').advertised = true
    by_cases ht : t' = t
    · subst ht
      rw [update_self]
      exact (hkeeps h).1
    · rw [hother t' ht]
      exact h
  | publishing t' i data =>
    show (update topics t slot t').advertised = true ∧ _ ∧ _
    by_cases ht : t' = t
    · subst ht
      rw [update_self]
      obtain ⟨hadvertised, hi, hlast⟩ := h
      refine ⟨(hkeeps hadvertised).1, hi.trans (hkeeps hadvertised).2, ?_⟩
      rw [hmutex.resolve_left fun hnot => hnot rfl]
      exact hlast
    · rw [hother t' ht]
      exact h
  | registering t' =>
    show (update topics t slot t').advertised = true ∧ _
    by_cases ht : t' = t
    · subst ht
      obtain ⟨hadvertised, hcount⟩ := h
      obtain ⟨hsame, hlen⟩ := hglobal.resolve_left fun hnot => hnot trivial
      rw [update_self, hsame, hlen]
      exact ⟨hadvertised, hcount⟩
    · rw [hother t' ht]
      exact h
  | _ => trivial

namespace OrbBus.Consistent

variable {s : OrbBus α} {k : Nat} {t : U8}

theorem reached_of_owner (h : s.Consistent) (hk : (s.calls k).HoldsTopic t) :
    s.reached t = (s.calls k).loopIndex := by
  unfold OrbBus.reached
  rw [(h.mutex t).owner hk]
  rfl

variable {c : OrbCall α}

theorem goes (h : s.Consistent) {g : Option Nat}
    (hglobal : HeldBy OrbCall.HoldsGlobal (update s.calls k c) g)
    (hmutex : ∀ t, c.HoldsTopic t ↔ (s.calls k).HoldsTopic t)
    (hloop : c.loopIndex = (s.calls k).loopIndex) (hplace : c.PlaceOk s.topics) :
    OrbBus.Consistent ⟨g, s.topics, update s.calls k c⟩ where
  global := hglobal
  mutex := fun t => (h.mutex t).keep (hmutex t)
  place := by
    intro j
    -- the others know what they knew, as no topic has changed
    show (update s.calls k c j).PlaceOk s.topics
    by_cases hj : j = k
    · subst hj
      rw [update_self]
      exact hplace
    · rw [update_of_ne hj]
      exact h.place j
  delivered := by
    intro t
    show (s.topics t).Delivered (reachedOf (s.topics t).mutex (update s.calls k c))
    rw [reachedOf_update fun _ => hloop]
    exact h.delivered t

/-- A task goes on and changes one topic, the only one it has to do with. -/
theorem writes (h : s.Consistent) {slot : OrbSlot α}
    (hglobal : c.HoldsGlobal ↔ (s.calls k).HoldsGlobal)
    (hmutex : HeldBy (OrbCall.HoldsTopic t) (update s.calls k c) slot.mutex)
    (honly : ∀ t', t' ≠ t → ¬ c.HoldsTopic t' ∧ ¬ (s.calls k).HoldsTopic t')
    (hplace : c.PlaceOk (update s.topics t slot))
    (hothers : ∀ j, j ≠ k → (s.calls j).PlaceOk (update s.topics t slot))
    (hdelivered : slot.Delivered (reachedOf slot.mutex (update s.calls k c))) :
    OrbBus.Consistent ((s.setTopic t slot).goTo k c) where
  global := h.global.keep hglobal
  mutex := by
    intro t'
    show HeldBy _ (update s.calls k c) (update s.topics t slot t').mutex
    by_cases ht : t' = t
    · subst ht
      rw [update_self]
      exact hmutex
    · rw [update_of_ne ht]
      exact (h.mutex t').keep (iff_of_false (honly t' ht).1 (honly t' ht).2)
  place := by
    intro j
    show (update s.calls k c j).PlaceOk _
    by_cases hj : j = k
    · subst hj
      rw [update_self]
      exact hplace
    · rw [update_of_ne hj]
      exact hothers j hj
  delivered := by
    intro t'
    show (update s.topics t slot t').Delivered
      (reachedOf (update s.topics t slot t').mutex (update s.calls k c))
    by_cases ht : t' = t
    · subst ht
      rw [update_self]
      exact hdelivered
    rw [update_of_ne ht, reachedOf_update]
    · exact h.delivered t'
    · -- the task that publishes another topic is another one
      intro howner
      exact absurd (((h.mutex t') k).mpr howner) (honly t' ht).2

theorem takes (h : s.Consistent) (hc : c.HoldsGlobal)
    (hmutex : ∀ t, c.HoldsTopic t ↔ (s.calls k).HoldsTopic t)
    (hloop : c.loopIndex = (s.calls k).loopIndex) (hplace : c.PlaceOk s.topics) :
    (s.takeGlobal k c).Consistent := by
  unfold OrbBus.takeGlobal
  split
  · exact h
  next hfree =>
    have hglobal := h.global
    rw [hfree] at hglobal
    exact h.goes (hglobal.take hc) hmutex hloop hplace

theorem gives (h : s.Consistent) (hk : (s.calls k).HoldsGlobal)
    (hmutex : ∀ t, ¬ (s.calls k).HoldsTopic t) (hloop : (s.calls k).loopIndex = none) :
    (s.giveGlobal k).Consistent :=
  h.goes (h.global.give hk fun hidle => hidle)
    (fun t => iff_of_false (fun hidle => hidle) (hmutex t)) hloop.symm trivial

theorem calls (h : s.Consistent) (k : Nat) {ok : Bool}
    (hglobal : ¬ c.HoldsGlobal) (hmutex : ∀ t, ¬ c.HoldsTopic t) (hloop : c.loopIndex = none)
    (hplace : ok = true → c.PlaceOk s.topics) : (s.call k c ok).Consistent := by
  unfold OrbBus.call
  split
  · next hidle =>
      split
      · next hok =>
          refine h.goes (h.global.keep (iff_of_false hglobal ?_)) (fun t => ?_) ?_ (hplace hok)
          · rw [hidle]
            exact fun hno => hno
          · rw [hidle]
            exact iff_of_false (hmutex t) fun hno => hno
          · rw [hidle]
            exact hloop
      · exact h
  · exact h

variable {s' : OrbBus α} {heap : OrbHeap}

theorem advertising (h : s.Consistent) {n : Nat}
    (hk : s.calls k = .advertising t n) (hs' : s.advance k heap = some s') : s'.Consistent := by
  have hholds : (s.calls k).HoldsGlobal := by
    rw [hk]
    trivial
  have hthere := s.not_holdsTopic hk fun _ hno => hno
  -- nobody else is in the middle of an advertisement or a subscription
  have hothers : ∀ j, j ≠ k → ¬ (s.calls j).HoldsGlobal :=
    fun j hj hj' => hj (h.global.unique hj' hholds)
  simp only [OrbBus.advance, hk] at hs'
  split at hs'
  · cases hs'
    -- it is advertised already: only the return value is decided
    refine h.goes (h.global.keep ?_) (fun t' => ?_) ?_ trivial
    · exact iff_of_true trivial hholds
    · exact iff_of_false (fun hno => hno) (hthere t')
    · rw [hk]
      rfl
  next hnot =>
    have hadvertised : (s.topics t).advertised = false := Bool.eq_false_of_not_eq_true hnot
    split at hs'
    · cases hs'
      -- without memory the size is all that has changed
      refine h.writes (iff_of_true trivial hholds) ?_ (fun t' _ => ⟨fun hno => hno, hthere t'⟩)
        trivial (fun j hj => ?_) ?_
      · exact (h.mutex t).keep (iff_of_false (fun hno => hno) (hthere t))
      · exact (h.place j).of_slot (.inl (hothers j hj)) (.inr rfl) fun hyes => ⟨hyes, le_refl _⟩
      · rw [reachedOf_update fun _ => by rw [hk]; rfl]
        exact ⟨(h.delivered t).count, (h.delivered t).accounted, (h.delivered t).waiting⟩
    split at hs'
    · cases hs'
    cases hs'
    -- who holds the mutex of a topic has found it advertised
    have hfree : ∀ j, ¬ (update s.calls k (.filled t n) j).HoldsTopic t := by
      intro j hj
      by_cases hjk : j = k
      · subst hjk
        rw [update_self] at hj
        exact hj
      rw [update_of_ne hjk] at hj
      have hplace := h.place j
      have hglobal := hothers j hjk
      cases hcall : s.calls j <;> rw [hcall] at hj hplace hglobal <;> try exact hj
      · obtain rfl : _ = t := hj
        exact absurd (hplace.1.symm.trans hadvertised) (by decide)
      · exact hglobal trivial
    refine h.writes (iff_of_true trivial hholds) (.of_free hfree)
      (fun t' _ => ⟨fun hno => hno, hthere t'⟩) ?_ (fun j hj => ?_) (.of_nil rfl)
    · show (update s.topics t _ t).advertised = false
      rw [update_self]
      exact hadvertised
    · refine (h.place j).of_slot (.inl (hothers j hj)) (.inr rfl) fun hyes => ?_
      exact absurd (hyes.symm.trans hadvertised) (by decide)

theorem publishing (h : s.Consistent) {i : Nat} {data : α}
    (hk : s.calls k = .publishing t i data) (hs' : s.advance k heap = some s') : s'.Consistent := by
  have hholds : (s.calls k).HoldsTopic t := by
    rw [hk]
    exact rfl
  have honly : ∀ t', t' ≠ t → ¬ (s.calls k).HoldsTopic t' := by
    intro t' ht hno
    rw [hk] at hno
    exact ht hno.symm
  have hglobal : ¬ (s.calls k).HoldsGlobal := by
    rw [hk]
    exact fun hno => hno
  have howner : (s.topics t).mutex = some k := (h.mutex t).owner hholds
  have hreached : s.reached t = some i := by
    rw [h.reached_of_owner hholds, hk]
    rfl
  obtain ⟨hadvertised, hi, hlast⟩ : (OrbCall.publishing t i data).PlaceOk s.topics := hk ▸ h.place k
  have hdelivered := h.delivered t
  rw [hreached] at hdelivered
  simp only [OrbBus.advance, hk] at hs'
  split at hs'
  · next hlt =>
      cases hs'
      -- the sample goes to the next queue
      refine h.writes (iff_of_false (fun hno => hno) hglobal) ?_
        (fun t' ht => ⟨fun hno => ht hno.symm, honly t' ht⟩) ?_ (fun j _ => ?_) ?_
      · exact (h.mutex t).keep (iff_of_true rfl hholds)
      · show (update s.topics t _ t).advertised = true ∧ _ ∧ _
        rw [update_self]
        refine ⟨hadvertised, ?_, hlast⟩
        show i + 1 ≤ ((s.topics t).subscriberQueues.set i (some data)).length
        rw [List.length_set]
        exact hlt
      · refine (h.place j).of_slot (.inr ⟨rfl, List.length_set ..⟩) (.inr rfl)
          fun hyes => ⟨hyes, ?_⟩
        exact le_of_eq (List.length_set ..).symm
      have hnext : reachedOf (s.topics t).mutex
          (update s.calls k (.publishing t (i + 1) data)) = some (i + 1) := by
        rw [howner]
        exact reachedOf_owner
      show OrbSlot.Delivered _ (reachedOf (s.topics t).mutex _)
      rw [hnext]
      exact hdelivered.pushes hlast
  next hge =>
    cases hs'
    -- all queues have it
    refine h.writes (iff_of_false (fun hno => hno) hglobal) ?_
      (fun t' ht => ⟨fun hno => hno, honly t' ht⟩) trivial (fun j _ => ?_) ?_
    · exact (h.mutex t).give hholds fun hno => hno
    · exact (h.place j).of_slot (.inr ⟨rfl, rfl⟩) (.inr rfl) fun hyes => ⟨hyes, le_refl _⟩
    · exact hdelivered.ends (Nat.le_of_not_lt hge)

theorem publish (h : s.Consistent) {data : α}
    (hk : s.calls k = .publish t data) (hs' : s.advance k heap = some s') : s'.Consistent := by
  have hthere := s.not_holdsTopic hk fun _ hno => hno
  have hglobal : ¬ (s.calls k).HoldsGlobal := by
    rw [hk]
    exact fun hno => hno
  have hadvertised : (OrbCall.publish t data).PlaceOk s.topics := hk ▸ h.place k
  simp only [OrbBus.advance, hk] at hs'
  split at hs'
  · cases hs'
    exact h
  next hfree =>
    cases hs'
    have hheld := h.mutex t
    rw [hfree] at hheld
    have hdelivered := h.delivered t
    rw [s.reached_of_free hfree] at hdelivered
    -- with the mutex free nobody is inside, so the publication is the only one under way
    refine h.writes (iff_of_false (fun hno => hno) hglobal) (hheld.take rfl)
      (fun t' ht => ⟨fun hno => ht hno.symm, hthere t'⟩) ?_ (fun j _ => ?_) ?_
    · show (update s.topics t _ t).advertised = true ∧ _ ∧ _
      rw [update_self]
      exact ⟨hadvertised, Nat.zero_le _, List.getLast?_concat ..⟩
    · refine (h.place j).of_slot (.inr ⟨rfl, rfl⟩) (.inl ?_) fun hyes => ⟨hyes, le_refl _⟩
      exact hheld.not_of_free j
    · show OrbSlot.Delivered _ (reachedOf (some k) _)
      rw [reachedOf_owner]
      exact hdelivered.begins k data

theorem registering (h : s.Consistent)
    (hk : s.calls k = .registering t) (hs' : s.advance k heap = some s') : s'.Consistent := by
  have hholds : (s.calls k).HoldsGlobal := by
    rw [hk]
    trivial
  have hthere := s.not_holdsTopic hk fun _ hno => hno
  obtain ⟨hadvertised, hcount⟩ : (OrbCall.registering t).PlaceOk s.topics := hk ▸ h.place k
  simp only [OrbBus.advance, hk] at hs'
  split at hs'
  · cases hs'
    exact h
  next hfree =>
    cases hs'
    have hheld := h.mutex t
    rw [hfree] at hheld
    have hdelivered := h.delivered t
    rw [s.reached_of_free hfree] at hdelivered
    -- the list grows, which no publication sees, as it would have the mutex
    refine h.writes (iff_of_true trivial hholds) (hheld.take rfl)
      (fun t' ht => ⟨fun hno => ht hno.symm, hthere t'⟩) trivial (fun j hj => ?_) ?_
    · refine (h.place j).of_slot (.inl fun hj' => hj (h.global.unique hj' hholds)) (.inr rfl)
        fun hyes => ⟨hyes, ?_⟩
      show _ ≤ ((s.topics t).subscriberQueues ++ [none]).length
      rw [List.length_append]
      exact Nat.le_add_right _ _
    · show OrbSlot.Delivered _ (reachedOf (some k) _)
      rw [reachedOf_owner]
      exact hdelivered.registers k hcount

theorem registered (h : s.Consistent) {sub : Nat}
    (hk : s.calls k = .registered t sub) (hs' : s.advance k heap = some s') : s'.Consistent := by
  have hholds : (s.calls k).HoldsGlobal := by
    rw [hk]
    trivial
  have htopic : (s.calls k).HoldsTopic t := by
    rw [hk]
    exact rfl
  have hdelivered := h.delivered t
  have hreached : s.reached t = none := by
    rw [h.reached_of_owner htopic, hk]
    rfl
  rw [hreached] at hdelivered
  simp only [OrbBus.advance, hk] at hs'
  cases hs'
  refine h.writes (iff_of_true trivial hholds) ((h.mutex t).give htopic fun hno => hno)
    (fun t' ht => ⟨fun hno => hno, fun hno => ?_⟩) trivial (fun j _ => ?_) ?_
  · rw [hk] at hno
    exact ht hno.symm
  · exact (h.place j).of_slot (.inr ⟨rfl, rfl⟩) (.inr rfl) fun hyes => ⟨hyes, le_refl _⟩
  · exact ⟨hdelivered.count, hdelivered.accounted, hdelivered.waiting⟩

theorem filled (h : s.Consistent) {n : Nat}
    (hk : s.calls k = .filled t n) (hs' : s.advance k heap = some s') : s'.Consistent := by
  have hholds : (s.calls k).HoldsGlobal := by
    rw [hk]
    trivial
  have hthere := s.not_holdsTopic hk fun _ hno => hno
  simp only [OrbBus.advance, hk] at hs'
  cases hs'
  refine h.writes (iff_of_true trivial hholds) ?_ (fun t' _ => ⟨fun hno => hno, hthere t'⟩) trivial
    (fun j hj => ?_) ?_
  · exact (h.mutex t).keep (iff_of_false (fun hno => hno) (hthere t))
  · exact (h.place j).of_slot (.inl fun hj' => hj (h.global.unique hj' hholds)) (.inr rfl)
      fun _ => ⟨rfl, le_refl _⟩
  · show OrbSlot.Delivered _ (reachedOf (s.topics t).mutex _)
    rw [reachedOf_update fun _ => by rw [hk]; rfl]
    exact ⟨(h.delivered t).count, (h.delivered t).accounted, (h.delivered t).waiting⟩

theorem advance (h : s.Consistent) (hs' : s.advance k heap = some s') : s'.Consistent := by
  cases hk : s.calls k with
  | idle =>
    simp only [OrbBus.advance, hk] at hs'
    cases hs'
    exact h
  | advertise t n | subscribe t =>
    simp only [OrbBus.advance, hk] at hs'
    cases hs'
    refine h.takes trivial (fun t' => iff_of_false (fun hno => hno) ?_) ?_ trivial
    · exact s.not_holdsTopic hk (fun _ hno => hno) t'
    · rw [hk]
      rfl
  | advertising t n => exact h.advertising hk hs'
  | filled t n => exact h.filled hk hs'
  | advertised t n ok | subscribed sub =>
    simp only [OrbBus.advance, hk] at hs'
    cases hs'
    refine h.gives ?_ (s.not_holdsTopic hk fun _ hno => hno) ?_ <;> rw [hk]
    · trivial
    · rfl
  | publish t data => exact h.publish hk hs'
  | publishing t i data => exact h.publishing hk hs'
  | subscribing t =>
    have hholds : (s.calls k).HoldsGlobal := by
      rw [hk]
      trivial
    have hthere := s.not_holdsTopic hk fun _ hno => hno
    have hloop : none = (s.calls k).loopIndex := by
      rw [hk]
      rfl
    simp only [OrbBus.advance, hk] at hs'
    split at hs'
    · cases hs'
      exact h.goes (h.global.keep (iff_of_true trivial hholds))
        (fun t' => iff_of_false (fun hno => hno) (hthere t')) hloop trivial
    next sub hsub =>
      cases hs'
      refine h.goes (h.global.keep (iff_of_true trivial hholds))
        (fun t' => iff_of_false (fun hno => hno) (hthere t')) hloop ?_
      obtain hno | hyes := orbSubscribe_cases heap (s.topics t).toOrbTopicMeta
      · rw [hno.1] at hsub
        cases hsub
      · exact ⟨hyes.2.1, hyes.2.2.1⟩
  | registering t => exact h.registering hk hs'
  | registered t sub => exact h.registered hk hs'

theorem copy (h : s.Consistent) (t : U8) (sub : Nat) : (s.copy t sub).Consistent := by
  unfold OrbBus.copy
  split
  · exact h
  next data topic hcopy =>
    have hdelivered := (h.delivered t).copies hcopy
    obtain ⟨hadvertised, hlen⟩ := orbCopy_subs hcopy
    -- it takes no mutex, so it may come in between any two steps of a publication
    constructor
    · exact h.global
    · intro t'
      show HeldBy _ s.calls (update s.topics t _ t').mutex
      by_cases ht : t' = t
      · subst ht
        rw [update_self]
        exact h.mutex t'
      · rw [update_of_ne ht]
        exact h.mutex t'
    · intro j
      exact (h.place j).of_slot (.inr ⟨hadvertised, hlen⟩) (.inr rfl)
        fun hyes => ⟨hadvertised.trans hyes, le_of_eq hlen.symm⟩
    intro t'
    show (update s.topics t _ t').Delivered
      (reachedOf (update s.topics t _ t').mutex s.calls)
    by_cases ht : t' = t
    · subst ht
      rw [update_self]
      exact hdelivered
    · rw [update_of_ne ht]
      exact h.delivered t'

theorem step (h : s.Consistent) {e : OrbEvent α} (hs' : orbStep s e = some s') : s'.Consistent := by
  cases e with
  | advertise k t n | subscribe k t =>
    cases hs'
    exact h.calls k (fun hno => hno) (fun _ hno => hno) rfl fun _ => trivial
  | publish k t data =>
    cases data with
    | none =>
      cases hs'
      exact h
    | some data =>
      cases hs'
      refine h.calls k (fun hno => hno) (fun _ hno => hno) rfl fun hok => ?_
      exact (Bool.and_eq_true_iff.mp hok).2
  | run k heap => exact h.advance hs'
  | copy t sub =>
    cases hs'
    exact h.copy t sub
  | check t sub =>
    cases hs'
    exact h

end OrbBus.Consistent

theorem consistent_throughout (es : List (OrbEvent α)) :
    Throughout orbStep OrbBus.Consistent OrbBus.init es :=
  throughout_of_invariant (fun _ _ _ h hs' => h.step hs') .init es

/-! ## What the callers see -/

variable {s : OrbBus α}

theorem OrbBus.Consistent.reached_publishing (h : s.Consistent) {k : Nat} {t : U8}
    {i : Nat} {data : α} (hk : s.calls k = .publishing t i data) : s.reached t = some i := by
  have hholds : (s.calls k).HoldsTopic t := by
    rw [hk]
    exact rfl
  rw [h.reached_of_owner hholds, hk]
  rfl

/-- A copy returns 0 exactly when there is a publication after the subscription and after the
previous copy that returned 0, and it yields the latest one; a check tells the same.  A
publication has happened for every subscriber when `orb_publish` returns. -/
def OrbBus.Delivers (s : OrbBus α) : OrbEvent α → Prop
  | .copy t sub => sub < (s.topics t).subscriberQueues.length →
      ((orbCopy (s.topics t).toOrbTopic sub ≠ none ↔ s.fresh t sub ≠ [])
        ∧ ∀ data ∈ (s.topics t).waiting sub, (s.happened t sub).getLast? = some data)
  | .check t sub => sub < (s.topics t).subscriberQueues.length →
      (orbCheck (s.topics t).toOrbTopic sub = true ↔ s.fresh t sub ≠ [])
  | .run k _ => ∀ t i data, s.calls k = .publishing t i data →
      (s.topics t).subscriberQueues.length ≤ i →
      ∀ sub < (s.topics t).subscriberQueues.length, (s.happened t sub).getLast? = some data
  | _ => True

theorem OrbBus.Consistent.delivers (h : s.Consistent) (e : OrbEvent α) : s.Delivers e := by
  cases e with
  | copy t sub =>
    intro hsub
    have hcopy := (h.delivered t).orbCopy_eq hsub
    constructor
    -- a copy fails exactly when nothing is new
    · rw [← not_iff_not, not_not, not_not, ← Option.map_eq_none_iff, hcopy,
        List.getLast?_eq_none_iff]
      rfl
    intro data hdata
    have hlast : ((s.happened t sub).drop ((s.topics t).accounted sub)).getLast? = some data :=
      hcopy.symm.trans hdata
    rw [List.getLast?_drop] at hlast
    split at hlast
    · cases hlast
    · exact hlast
  | check t sub =>
    intro hsub
    unfold orbCheck
    rw [(h.delivered t).waiting sub hsub]
    show (s.fresh t sub).getLast?.isSome = true ↔ _
    rw [List.getLast?_isSome]
  | run k heap =>
    intro t i data hk hi sub hsub
    have hplace : (OrbCall.publishing t i data).PlaceOk s.topics := hk ▸ h.place k
    -- at the return the loop is past every queue
    unfold OrbBus.happened
    rw [h.reached_publishing hk]
    show (if sub < i then (s.topics t).published else _).getLast? = some data
    rw [if_pos (Nat.lt_of_lt_of_le hsub hi)]
    exact hplace.2.2
  | _ => trivial

/-- The steps of a subscriber. -/
def OrbBus.BySubscriber (s : OrbBus α) : OrbEvent α → Prop
  | .subscribe .. | .copy .. | .check .. => True
  | .run k _ =>
    match s.calls k with
    | .subscribe .. | .subscribing .. | .registering .. | .registered .. | .subscribed .. => True
    | _ => False
  | _ => False

/-- A step of a subscriber leaves what waits for every other one. -/
def OrbBus.SubscribersApart (s : OrbBus α) (e : OrbEvent α) : Prop :=
  s.BySubscriber e → ∀ s', orbStep s e = some s' → ∀ t,
    ∀ sub < (s.topics t).subscriberQueues.length, e ≠ .copy t sub →
      (s'.topics t).waiting sub = (s.topics t).waiting sub

theorem OrbTopic.waiting_eq (topic : OrbTopic α) (sub : Nat) :
    topic.waiting sub = topic.subscriberQueues[sub]?.join := by
  unfold OrbTopic.waiting orbCopy
  split
  · next hget =>
      rw [hget]
      rfl
  next hget =>
    cases hq : topic.subscriberQueues[sub]? with
    | none => rfl
    | some q =>
      cases q with
      | none => rfl
      | some d => exact absurd hq (hget d)

theorem waiting_setTopic {t : U8} {slot : OrbSlot α} {t' : U8} {sub : Nat}
    (h : t' = t → slot.subscriberQueues[sub]? = (s.topics t).subscriberQueues[sub]?) :
    ((s.setTopic t slot).topics t').waiting sub = (s.topics t').waiting sub := by
  rw [OrbTopic.waiting_eq, OrbTopic.waiting_eq]
  show (update s.topics t slot t').subscriberQueues[sub]?.join = _
  by_cases ht : t' = t
  · subst ht
    rw [update_self, h rfl]
  · rw [update_of_ne ht]

theorem takeGlobal_topics (s : OrbBus α) (k : Nat) (c : OrbCall α) :
    (s.takeGlobal k c).topics = s.topics := by
  unfold OrbBus.takeGlobal
  split <;> rfl

theorem call_topics (s : OrbBus α) (k : Nat) (c : OrbCall α) (ok : Bool) :
    (s.call k c ok).topics = s.topics := by
  unfold OrbBus.call
  split
  · split <;> rfl
  · rfl

theorem subscribersApart (s : OrbBus α) (e : OrbEvent α) : s.SubscribersApart e := by
  intro hby s' hs' t sub hsub hne
  cases e with
  | advertise | publish => exact hby.elim
  | subscribe k t' =>
    cases hs'
    rw [call_topics]
  | check t' sub' =>
    cases hs'
    rfl
  | copy t' sub' =>
    cases hs'
    unfold OrbBus.copy
    split
    · rfl
    next data topic hcopy =>
      refine waiting_setTopic fun ht => ?_
      subst ht
      have hsub' : sub' ≠ sub := fun heq => hne (by rw [heq])
      unfold orbCopy at hcopy
      split at hcopy
      · obtain ⟨-, rfl⟩ := Prod.mk.inj (Option.some.inj hcopy)
        exact List.getElem?_set_ne hsub'
      · cases hcopy
  | run k heap =>
    change s.advance k heap = some s' at hs'
    simp only [OrbBus.BySubscriber] at hby
    cases hk : s.calls k <;> simp only [hk] at hby <;> simp only [OrbBus.advance, hk] at hs'
    case subscribe t' =>
      cases hs'
      rw [takeGlobal_topics]
    case subscribing t' =>
      split at hs' <;> cases hs' <;> rfl
    case registering t' =>
      split at hs'
      · cases hs'
        rfl
      cases hs'
      refine waiting_setTopic fun ht => ?_
      subst ht
      exact List.getElem?_append_left hsub
    case registered t' sub' =>
      cases hs'
      exact waiting_setTopic fun ht => by rw [← ht]
    case subscribed =>
      cases hs'
      rfl

/-- What a call of `orb_advertise` is for. -/
def OrbCall.advertises : OrbCall α → Option (U8 × Nat)
  | .advertise t n | .advertising t n | .filled t n | .advertised t n _ => some (t, n)
  | _ => none

/-- No step of an advertisement of an advertised topic with another size changes a topic, and
the call returns the error. -/
def OrbBus.ReadvertiseKeeps (s : OrbBus α) : OrbEvent α → Prop
  | .advertise k t n => ∀ s', orbStep s (.advertise k t n) = some s' → s'.topics = s.topics
  | .run k heap => ∀ t n, (s.calls k).advertises = some (t, n) →
      (s.topics t).advertised = true → (s.topics t).dataSize ≠ n →
      ∃ s', s.advance k heap = some s' ∧ s'.topics = s.topics
        ∧ ∀ ok, s'.calls k = .advertised t n ok → ok = false
  | _ => True

theorem OrbBus.Consistent.readvertiseKeeps (h : s.Consistent) (e : OrbEvent α) :
    s.ReadvertiseKeeps e := by
  cases e with
  | advertise k t n =>
    intro s' hs'
    cases hs'
    exact call_topics ..
  | run k heap =>
    intro t n hfor hadvertised hsize
    have hplace := h.place k
    cases hk : s.calls k <;> rw [hk] at hfor hplace
    case advertise t' n' =>
      obtain ⟨rfl, rfl⟩ := Prod.mk.inj (Option.some.inj hfor)
      refine ⟨s.takeGlobal k (.advertising t' n'), by simp only [OrbBus.advance, hk],
        takeGlobal_topics .., fun ok hok => ?_⟩
      unfold OrbBus.takeGlobal at hok
      split at hok
      · rw [hk] at hok
        cases hok
      · rw [show OrbBus.calls _ k = update s.calls k _ k from rfl,
          update_self] at hok
        cases hok
    case advertising t' n' =>
      obtain ⟨rfl, rfl⟩ := Prod.mk.inj (Option.some.inj hfor)
      refine ⟨s.goTo k (.advertised t' n' false), ?_, rfl, fun ok hok => ?_⟩
      · simp only [OrbBus.advance, hk]
        rw [if_pos hadvertised, decide_eq_false hsize]
      · rw [show OrbBus.calls _ k = update s.calls k _ k from rfl,
          update_self] at hok
        exact (OrbCall.advertised.inj hok).2.2.symm
    case filled t' n' =>
      cases hfor
      -- this call has found the topic not advertised, and still has the mutex
      exact absurd (hadvertised.symm.trans hplace) (by decide)
    case advertised t' n' ok' =>
      refine ⟨s.giveGlobal k, by simp only [OrbBus.advance, hk], rfl, fun ok hok => ?_⟩
      rw [show OrbBus.calls _ k = update s.calls k _ k from rfl,
        update_self] at hok
      cases hok
    all_goals cases hfor
  | _ => trivial

/-- In every interleaving of the calls by any tasks a subscriber gets the latest publication
once, no subscriber affects another one, there are at most `ORB_MAX_SUBSCRIBERS` of them, and a
topic that is advertised again with another size stays as it is. -/
theorem orb_delivers_latest (es : List (OrbEvent α)) :
    Along orbStep OrbBus.Delivers OrbBus.init es
      ∧ Along orbStep OrbBus.SubscribersApart OrbBus.init es
      ∧ Throughout orbStep
          (fun s => ∀ t, (s.topics t).subscriberQueues.length ≤ orbMaxSubscribers)
          OrbBus.init es
      ∧ Along orbStep OrbBus.ReadvertiseKeeps OrbBus.init es := by
  have hall : Throughout orbStep OrbBus.Consistent OrbBus.init es := consistent_throughout es
  refine ⟨hall.along_of fun s e h => h.delivers e, hall.along_of fun s e _ => subscribersApart s e,
    hall.mono fun s h t => (h.delivered t).count, hall.along_of fun s e h => h.readvertiseKeeps e⟩

/-- A topic, two subscriptions, and a publication that has come to the first queue only. -/
example :
    let heap : OrbHeap := ⟨true, true, true, true⟩
    let run (k : Nat) : OrbEvent Nat := .run k heap
    ((runFrom orbStep OrbBus.init
      [.advertise 0 5 4, run 0, run 0, run 0, run 0,
        .subscribe 1 5, run 1, run 1, run 1, run 1, run 1,
        .subscribe 2 5, run 2, run 2, run 2, run 2, run 2,
        .publish 0 5 (some 7), run 0, run 0]).map fun s =>
          ((s.topics 5).waiting 0, (s.topics 5).waiting 1)) = some (some 7, none) := by
  decide

end MmIotEsp32.HeliFc
