/-
  MmIotEsp32.HeliFc.Uorb.OrbInterleaving

  The calls of `uorb/uorb.c` by many tasks at once.
-/
import MmIotEsp32.HeliFc.Uorb.Uorb
import MmIotEsp32.Lib.Transition

namespace MmIotEsp32.HeliFc

open Lib Function

variable {α : Type*}

/-! ## Tasks and topics -/

def orbMaxTopics : Nat := 16

/-- Where a task is: outside the calls, or before the named step of one. -/
inductive OrbCall (α : Type*) where
  | idle
  /-- `orb_advertise`, before `s_global_mutex` is taken. -/
  | advertise (topic : U8) (dataSize : Nat)
  /-- It holds `s_global_mutex`. -/
  | advertising (topic : U8) (dataSize : Nat)
  /-- The entry is filled in, but not yet marked. -/
  | filled (topic : U8) (dataSize : Nat)
  /-- It gives `s_global_mutex` back and returns. -/
  | advertised (topic : U8) (dataSize : Nat) (ok : Bool)
  /-- `orb_publish`, before the mutex of the topic is taken. -/
  | publish (topic : U8) (data : α)
  /-- It holds the mutex of the topic; `i` is the next queue. -/
  | publishing (topic : U8) (i : Nat) (data : α)
  /-- `orb_subscribe`, before `s_global_mutex` is taken. -/
  | subscribe (topic : U8)
  /-- It holds `s_global_mutex`. -/
  | subscribing (topic : U8)
  /-- The queue is made; the mutex of the topic is to be taken. -/
  | registering (topic : U8)
  /-- The queue is in the list, and both mutexes are held. -/
  | registered (topic : U8) (sub : Nat)
  /-- It gives `s_global_mutex` back and returns. -/
  | subscribed (sub : Option Nat)

/-- The parts of the code that `s_global_mutex` guards. -/
def OrbCall.HoldsGlobal : OrbCall α → Prop
  | .advertising .. | .filled .. | .advertised .. => True
  | .subscribing .. | .registering .. | .registered .. | .subscribed .. => True
  | _ => False

/-- The parts of the code that the mutex of a topic guards. -/
def OrbCall.HoldsTopic (topic : U8) : OrbCall α → Prop
  | .publishing t .. | .registered t .. => t = topic
  | _ => False

/-- The number of queues that a publication is past. -/
def OrbCall.loopIndex : OrbCall α → Option Nat
  | .publishing _ i _ => some i
  | _ => none

/-- `orb_topic_meta_t`.  The last two fields are bookkeeping that no step reads: the
publications in the order in which they took the mutex, and how many of them each subscriber
has behind it, by its subscription or by a copy that returned 0. -/
structure OrbSlot (α : Type*) extends OrbTopicMeta α where
  mutex : Option Nat
  published : List α
  accounted : Nat → Nat

/-- `s_global_mutex`, `s_topics`, and where each task is. -/
structure OrbBus (α : Type*) where
  globalMutex : Option Nat
  topics : U8 → OrbSlot α
  calls : Nat → OrbCall α

/-- `orb_init`. -/
def OrbBus.init : OrbBus α :=
  ⟨none, fun _ => ⟨.zero, none, [], fun _ => 0⟩, fun _ => .idle⟩

/-- How far the publication that holds the mutex of a topic has come. -/
def reachedOf (mutex : Option Nat) (calls : Nat → OrbCall α) : Option Nat :=
  mutex.bind fun k => (calls k).loopIndex

def OrbBus.reached (s : OrbBus α) (topic : U8) : Option Nat :=
  reachedOf (s.topics topic).mutex s.calls

/-- The publications that have happened for a subscriber: each one happens for it when it comes
to its queue, so the one that is still under way may be missing. -/
def OrbSlot.happened (slot : OrbSlot α) (reached : Option Nat) (sub : Nat) : List α :=
  match reached with
  | some i => if sub < i then slot.published else slot.published.dropLast
  | none => slot.published

/-- Those after the subscription and after the previous copy that returned 0. -/
def OrbSlot.fresh (slot : OrbSlot α) (reached : Option Nat) (sub : Nat) : List α :=
  (slot.happened reached sub).drop (slot.accounted sub)

def OrbBus.happened (s : OrbBus α) (topic : U8) (sub : Nat) : List α :=
  (s.topics topic).happened (s.reached topic) sub

def OrbBus.fresh (s : OrbBus α) (topic : U8) (sub : Nat) : List α :=
  (s.topics topic).fresh (s.reached topic) sub

/-! ## The steps of the calls -/

def OrbBus.goTo (s : OrbBus α) (k : Nat) (c : OrbCall α) : OrbBus α :=
  { s with calls := update s.calls k c }

def OrbBus.setTopic (s : OrbBus α) (topic : U8) (slot : OrbSlot α) : OrbBus α :=
  { s with topics := update s.topics topic slot }

/-- `xSemaphoreTake(s_global_mutex, portMAX_DELAY)`; the task stays where it is while another
one has it. -/
def OrbBus.takeGlobal (s : OrbBus α) (k : Nat) (c : OrbCall α) : OrbBus α :=
  match s.globalMutex with
  | some _ => s
  | none => { s with globalMutex := some k }.goTo k c

/-- `xSemaphoreGive(s_global_mutex)`, and the return. -/
def OrbBus.giveGlobal (s : OrbBus α) (k : Nat) : OrbBus α :=
  { s with globalMutex := none }.goTo k .idle

/-- The next step of the call that a task is in; `none` when `configASSERT` stops the
program. -/
def OrbBus.advance (s : OrbBus α) (k : Nat) (heap : OrbHeap) : Option (OrbBus α) :=
  match s.calls k with
  | .idle => some s
  | .advertise topic dataSize => some (s.takeGlobal k (.advertising topic dataSize))
  | .advertising topic dataSize =>
    let slot := s.topics topic
    if slot.advertised then
      -- only the size is compared
      some (s.goTo k (.advertised topic dataSize (decide (slot.dataSize = dataSize))))
    else if heap.latestData = false then
      some ((s.setTopic topic { slot with dataSize }).goTo k (.advertised topic dataSize false))
    else if heap.mutex = false then none
    else
      some ((s.setTopic topic
        { slot with dataSize, latestData := none, mutex := none, subscriberQueues := [] }).goTo k
          (.filled topic dataSize))
  | .filled topic dataSize =>
    -- a publisher looks at this without `s_global_mutex`, so it is set last
    some ((s.setTopic topic { s.topics topic with advertised := true }).goTo k
      (.advertised topic dataSize true))
  | .advertised .. => some (s.giveGlobal k)
  | .publish topic data =>
    let slot := s.topics topic
    match slot.mutex with
    | some _ => some s
    | none =>
      some ((s.setTopic topic
        { slot with
          mutex := some k
          latestData := some data
          published := slot.published ++ [data] }).goTo k (.publishing topic 0 data))
  | .publishing topic i data =>
    let slot := s.topics topic
    if i < slot.subscriberQueues.length then
      -- `xQueueOverwrite`
      some ((s.setTopic topic
        { slot with subscriberQueues := slot.subscriberQueues.set i (some data) }).goTo k
          (.publishing topic (i + 1) data))
    else some ((s.setTopic topic { slot with mutex := none }).goTo k .idle)
  | .subscribe topic => some (s.takeGlobal k (.subscribing topic))
  | .subscribing topic =>
    -- what `orb_subscribe` checks and allocates before it registers the queue
    match (orbSubscribe heap (s.topics topic).toOrbTopicMeta).1 with
    | none => some (s.goTo k (.subscribed none))
    | some _ => some (s.goTo k (.registering topic))
  | .registering topic =>
    let slot := s.topics topic
    match slot.mutex with
    | some _ => some s
    | none =>
      let sub := slot.subscriberQueues.length
      some ((s.setTopic topic
        { slot with
          mutex := some k
          subscriberQueues := slot.subscriberQueues ++ [none]
          accounted := update slot.accounted sub slot.published.length }).goTo k
            (.registered topic sub))
  | .registered topic sub =>
    some ((s.setTopic topic { s.topics topic with mutex := none }).goTo k
      (.subscribed (some sub)))
  | .subscribed _ => some (s.giveGlobal k)

/-- What the tasks do. -/
inductive OrbEvent (α : Type*) where
  /-- A task calls `orb_advertise`. -/
  | advertise (k : Nat) (topic : U8) (dataSize : Nat)
  /-- A task calls `orb_publish`; `none` is `NULL`. -/
  | publish (k : Nat) (topic : U8) (data : Option α)
  /-- A task calls `orb_subscribe`. -/
  | subscribe (k : Nat) (topic : U8)
  /-- A task goes on in its call. -/
  | run (k : Nat) (heap : OrbHeap)
  /-- `orb_copy` of a subscription. -/
  | copy (topic : U8) (sub : Nat)
  /-- `orb_check` of a subscription. -/
  | check (topic : U8) (sub : Nat)

def orbCheck (topic : OrbTopic α) (sub : Nat) : Bool :=
  match topic.subscriberQueues[sub]? with
  | some q => q.isSome
  | none => false

/-- A call begins when its task is in no other one; the arguments are checked first. -/
def OrbBus.call (s : OrbBus α) (k : Nat) (c : OrbCall α) (ok : Bool) : OrbBus α :=
  match s.calls k with
  | .idle => if ok then s.goTo k c else s
  | _ => s

/-- `orb_copy`, with the bookkeeping. -/
def OrbBus.copy (s : OrbBus α) (topic : U8) (sub : Nat) : OrbBus α :=
  match orbCopy (s.topics topic).toOrbTopic sub with
  | none => s
  | some (_, t) =>
    s.setTopic topic
      { s.topics topic with
        toOrbTopic := t
        accounted :=
          update (s.topics topic).accounted sub (s.happened topic sub).length }

/-- One step of the bus. -/
def orbStep (s : OrbBus α) : OrbEvent α → Option (OrbBus α)
  | .advertise k topic dataSize =>
    some (s.call k (.advertise topic dataSize)
      (decide (topic.toNat < orbMaxTopics ∧ dataSize ≠ 0)))
  | .publish k topic data =>
    match data with
    | none => some s
    | some data =>
      -- `advertised` is read without a mutex
      some (s.call k (.publish topic data)
        (decide (topic.toNat < orbMaxTopics) && (s.topics topic).advertised))
  | .subscribe k topic => some (s.call k (.subscribe topic) (decide (topic.toNat < orbMaxTopics)))
  | .run k heap => s.advance k heap
  | .copy topic sub => some (s.copy topic sub)
  | .check _ _ => some s

/-! ## One topic -/

/-- What waits for each subscriber, at some place of a publication. -/
structure OrbSlot.Delivered (slot : OrbSlot α) (reached : Option Nat) : Prop where
  count : slot.subscriberQueues.length ≤ orbMaxSubscribers
  accounted : ∀ sub < slot.subscriberQueues.length,
    slot.accounted sub ≤ (slot.happened reached sub).length
  waiting : ∀ sub < slot.subscriberQueues.length,
    slot.subscriberQueues[sub]? = some (slot.fresh reached sub).getLast?

namespace OrbSlot.Delivered

variable {slot : OrbSlot α} {reached : Option Nat}

theorem of_nil (h : slot.subscriberQueues = []) : slot.Delivered reached where
  count := by rw [h]; exact Nat.zero_le _
  accounted := by
    intro sub hsub
    rw [h] at hsub
    exact absurd hsub (Nat.not_lt_zero _)
  waiting := by
    intro sub hsub
    rw [h] at hsub
    exact absurd hsub (Nat.not_lt_zero _)

theorem begins (h : slot.Delivered none) (k : Nat) (data : α) :
    OrbSlot.Delivered { slot with
      mutex := some k
      latestData := some data
      published := slot.published ++ [data] } (some 0) := by
  have hsame : ∀ sub, OrbSlot.happened { slot with
      mutex := some k
      latestData := some data
      published := slot.published ++ [data] } (some 0) sub = slot.happened none sub := by
    intro sub
    show (if sub < 0 then slot.published ++ [data] else (slot.published ++ [data]).dropLast)
      = slot.published
    -- the new publication is the one that may still be missing, for everybody
    rw [if_neg (Nat.not_lt_zero _), List.dropLast_concat]
  constructor
  · exact h.count
  · intro sub hsub
    rw [hsame]
    exact h.accounted sub hsub
  intro sub hsub
  unfold OrbSlot.fresh
  rw [hsame]
  exact h.waiting sub hsub

theorem pushes {i : Nat} {data : α} (h : slot.Delivered (some i))
    (hlast : slot.published.getLast? = some data) :
    OrbSlot.Delivered { slot with
      subscriberQueues := slot.subscriberQueues.set i (some data) } (some (i + 1)) := by
  -- for the other subscribers the publication is where it was
  have hother : ∀ sub, sub ≠ i →
      slot.happened (some (i + 1)) sub = slot.happened (some i) sub := by
    intro sub hne
    show (if sub < i + 1 then _ else _) = if sub < i then _ else _
    by_cases hlt : sub < i
    · rw [if_pos hlt, if_pos (by omega)]
    · rw [if_neg hlt, if_neg (by omega)]
  have hbefore : slot.happened (some i) i = slot.published.dropLast :=
    if_neg (Nat.lt_irrefl i)
  have hafter : slot.happened (some (i + 1)) i = slot.published := if_pos (Nat.lt_succ_self i)
  have hsplit : slot.published = slot.published.dropLast ++ [data] :=
    (List.dropLast_append_getLast? data hlast).symm
  constructor
  · show (slot.subscriberQueues.set i (some data)).length ≤ _
    rw [List.length_set]
    exact h.count
  · intro sub hsub
    change sub < (slot.subscriberQueues.set i (some data)).length at hsub
    rw [List.length_set] at hsub
    show slot.accounted sub ≤ (slot.happened (some (i + 1)) sub).length
    by_cases hne : sub = i
    · subst hne
      have hle := h.accounted sub hsub
      rw [hbefore] at hle
      rw [hafter, hsplit, List.length_append]
      exact Nat.le_add_right_of_le hle
    · rw [hother sub hne]
      exact h.accounted sub hsub
  intro sub hsub
  change sub < (slot.subscriberQueues.set i (some data)).length at hsub
  rw [List.length_set] at hsub
  show (slot.subscriberQueues.set i (some data))[sub]?
    = some ((slot.happened (some (i + 1)) sub).drop (slot.accounted sub)).getLast?
  by_cases hne : sub = i
  · subst hne
    have hle := h.accounted sub hsub
    rw [hbefore] at hle
    -- for this subscriber it is the latest, whatever it had read before
    rw [List.getElem?_set_self hsub, hafter, hsplit, List.drop_append_of_le_length hle,
      List.getLast?_concat]
  · rw [List.getElem?_set_ne (Ne.symm hne), hother sub hne]
    exact h.waiting sub hsub

theorem ends {i : Nat} (h : slot.Delivered (some i)) (hi : slot.subscriberQueues.length ≤ i) :
    OrbSlot.Delivered { slot with mutex := none } none := by
  have hsame : ∀ sub < slot.subscriberQueues.length,
      slot.happened (some i) sub = slot.published :=
    -- it is past every queue, so for everybody it has happened
    fun sub hsub => if_pos (Nat.lt_of_lt_of_le hsub hi)
  constructor
  · exact h.count
  · intro sub hsub
    have hle := h.accounted sub hsub
    rwa [hsame sub hsub] at hle
  intro sub hsub
  have hwaiting := h.waiting sub hsub
  unfold OrbSlot.fresh at hwaiting
  rwa [hsame sub hsub] at hwaiting

theorem registers (h : slot.Delivered none) (k : Nat)
    (hcount : slot.subscriberQueues.length < orbMaxSubscribers) :
    OrbSlot.Delivered { slot with
      mutex := some k
      subscriberQueues := slot.subscriberQueues ++ [none]
      accounted := update slot.accounted slot.subscriberQueues.length
        slot.published.length } none := by
  constructor
  · show (slot.subscriberQueues ++ [none]).length ≤ _
    rw [List.length_append]
    exact hcount
  · intro sub hsub
    change sub < (slot.subscriberQueues ++ [none]).length at hsub
    rw [List.length_append] at hsub
    show update slot.accounted _ _ sub ≤ slot.published.length
    by_cases hne : sub = slot.subscriberQueues.length
    · rw [hne, update_self]
    · rw [update_of_ne hne]
      exact h.accounted sub (Nat.lt_of_le_of_ne (Nat.le_of_lt_succ hsub) hne)
  intro sub hsub
  change sub < (slot.subscriberQueues ++ [none]).length at hsub
  rw [List.length_append] at hsub
  show (slot.subscriberQueues ++ [none])[sub]?
    = some (slot.published.drop (update slot.accounted _ _ sub)).getLast?
  by_cases hne : sub = slot.subscriberQueues.length
  -- the new queue is empty, and everything published is behind it
  · rw [hne, update_self, List.drop_length, List.getElem?_concat_length]
    rfl
  · have hlt := Nat.lt_of_le_of_ne (Nat.le_of_lt_succ hsub) hne
    rw [update_of_ne hne, List.getElem?_append_left hlt]
    exact h.waiting sub hlt

theorem copies {sub : Nat} {data : α} {t : OrbTopic α} (h : slot.Delivered reached)
    (hcopy : orbCopy slot.toOrbTopic sub = some (data, t)) :
    OrbSlot.Delivered { slot with
      toOrbTopic := t
      accounted := update slot.accounted sub (slot.happened reached sub).length }
      reached := by
  unfold orbCopy at hcopy
  split at hcopy
  case h_2 => cases hcopy
  case h_1 d hget =>
    obtain ⟨-, rfl⟩ := Prod.mk.inj (Option.some.inj hcopy)
    constructor
    · show (slot.subscriberQueues.set sub none).length ≤ _
      rw [List.length_set]
      exact h.count
    · intro sub' hsub
      change sub' < (slot.subscriberQueues.set sub none).length at hsub
      rw [List.length_set] at hsub
      show update slot.accounted sub _ sub' ≤ (slot.happened reached sub').length
      by_cases hne : sub' = sub
      · rw [hne, update_self]
      · rw [update_of_ne hne]
        exact h.accounted sub' hsub
    intro sub' hsub
    change sub' < (slot.subscriberQueues.set sub none).length at hsub
    rw [List.length_set] at hsub
    show (slot.subscriberQueues.set sub none)[sub']? = some ((slot.happened reached sub').drop
      (update slot.accounted sub _ sub')).getLast?
    by_cases hne : sub' = sub
    · subst hne
      -- the queue that was read is empty, and nothing is new to its subscriber
      rw [List.getElem?_set_self hsub, update_self, List.drop_length]
      rfl
    · rw [List.getElem?_set_ne (Ne.symm hne), update_of_ne hne]
      exact h.waiting sub' hsub

theorem orbCopy_eq (h : slot.Delivered reached) {sub : Nat}
    (hsub : sub < slot.subscriberQueues.length) :
    (orbCopy slot.toOrbTopic sub).map Prod.fst = (slot.fresh reached sub).getLast? := by
  have hwaiting := h.waiting sub hsub
  unfold orbCopy
  rw [hwaiting]
  cases (slot.fresh reached sub).getLast? <;> rfl

end OrbSlot.Delivered

/-! ## A publication that nobody interrupts -/

end MmIotEsp32.HeliFc
