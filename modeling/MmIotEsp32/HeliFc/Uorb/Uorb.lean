/-
  MmIotEsp32.HeliFc.Uorb.Uorb

  Topics (`uorb/uorb.c`): a publisher overwrites what each subscriber has not read yet.

  The mutex of a topic makes a publication one step; a copy is one receive from a queue that
  holds one sample at most.
-/
import Mathlib.Data.List.Basic
import MmIotEsp32.Common.Mmosal

namespace MmIotEsp32.HeliFc

variable {α : Type*}

/-- `orb_topic_meta_t`, with the queues of the subscribers. -/
structure OrbTopic (α : Type*) where
  advertised : Bool
  latestData : Option α
  subscriberQueues : List (Option α)

/-- `orb_publish`; `none` is the error return, which leaves the topic as it is. -/
def orbPublish (topic : OrbTopic α) (data : α) : Option (OrbTopic α) :=
  if topic.advertised then
    some { topic with
      latestData := some data
      subscriberQueues := topic.subscriberQueues.map fun _ => some data }
  else none

/-- `orb_copy` of a subscriber: the sample that is waiting, which is taken. -/
def orbCopy (topic : OrbTopic α) (sub : Nat) : Option (α × OrbTopic α) :=
  match topic.subscriberQueues[sub]? with
  | some (some data) =>
    some (data, { topic with subscriberQueues := topic.subscriberQueues.set sub none })
  | _ => none

/-- What an `orb_copy` finds. -/
def OrbTopic.waiting (topic : OrbTopic α) (sub : Nat) : Option α :=
  (orbCopy topic sub).map Prod.fst

/-- The topic after an `orb_copy`. -/
def OrbTopic.copied (topic : OrbTopic α) (sub : Nat) : OrbTopic α :=
  ((orbCopy topic sub).map Prod.snd).getD topic

/-- The topic after an `orb_publish`. -/
def OrbTopic.published (topic : OrbTopic α) (data : α) : OrbTopic α :=
  (orbPublish topic data).getD topic

/-- The sample waits for some subscriber. -/
def OrbTopic.Holds (topic : OrbTopic α) (data : α) : Prop := some data ∈ topic.subscriberQueues

variable {topic topic' : OrbTopic α}

theorem OrbTopic.Holds.of_publish {data d : α}
    (hpublish : orbPublish topic data = some topic') (h : topic'.Holds d) : d = data := by
  unfold orbPublish at hpublish
  split at hpublish
  · cases hpublish
    obtain ⟨-, -, heq⟩ := List.mem_map.mp h
    exact (Option.some.inj heq).symm
  · cases hpublish

theorem orbCopy_eq_some {sub : Nat} {data : α} (h : orbCopy topic sub = some (data, topic')) :
    topic.Holds data ∧ ∀ d, topic'.Holds d → topic.Holds d := by
  unfold orbCopy at h
  split at h
  · next d hget =>
      cases h
      refine ⟨List.mem_of_getElem? hget, fun d hd => ?_⟩
      exact (List.mem_or_eq_of_mem_set hd).resolve_right (by simp)
  · cases h

theorem orbPublish_subs {data : α} (h : orbPublish topic data = some topic') :
    topic'.advertised = true ∧ topic'.subscriberQueues.length = topic.subscriberQueues.length := by
  unfold orbPublish at h
  split at h
  · next hadvertised =>
      cases h
      exact ⟨hadvertised, List.length_map ..⟩
  · cases h

theorem orbCopy_subs {sub : Nat} {data : α} (h : orbCopy topic sub = some (data, topic')) :
    topic'.advertised = topic.advertised
      ∧ topic'.subscriberQueues.length = topic.subscriberQueues.length := by
  unfold orbCopy at h
  split at h
  · obtain ⟨-, rfl⟩ := Prod.mk.inj (Option.some.inj h)
    exact ⟨rfl, List.length_set ..⟩
  · cases h

/-! ## Topics with their memory. -/

/-- `ORB_ID_…`; all are below `ORB_MAX_TOPICS`. -/
inductive OrbId where
  | sensorImu
  | sensorBaro
  | sensorMag
  | sensorGps
  | vehicleAttitude
  | vehicleLocalPosition
  | actuatorControls
  | batteryStatus
  | vehicleStatus
  | rcChannels
  | airspeed
  deriving Repr, DecidableEq

/-- The size of the samples of a topic, in octets. -/
def orbDataSize : OrbId → Nat
  | .sensorImu => 40
  | .sensorBaro => 24
  | .sensorMag => 24
  | .sensorGps => 48
  | .vehicleAttitude => 48
  | .vehicleLocalPosition => 48
  | .actuatorControls => 32
  | .batteryStatus => 32
  | .vehicleStatus => 32
  | .rcChannels => 80
  | .airspeed => 24

def orbMaxSubscribers : Nat := 4

/-- `orb_topic_meta_t`, with the size of a sample. -/
structure OrbTopicMeta (α : Type*) extends OrbTopic α where
  dataSize : Nat

/-- An entry of `s_topics` after `orb_init`. -/
def OrbTopicMeta.zero : OrbTopicMeta α := ⟨⟨false, none, []⟩, 0⟩

/-- Which allocations of a call succeed. -/
structure OrbHeap where
  latestData : Bool
  mutex : Bool
  sub : Bool
  queue : Bool
  deriving Repr, DecidableEq

/-- `orb_advertise`: whether it returns 0, and the topic; `none` when `configASSERT` stops the
program. -/
def orbAdvertise (heap : OrbHeap) (topic : OrbTopicMeta α) (dataSize : Nat) :
    Option (Bool × OrbTopicMeta α) :=
  if dataSize = 0 then some (false, topic)
  else if topic.advertised then
    -- advertised before: only the size is compared
    some (decide (topic.dataSize = dataSize), topic)
  else if heap.latestData = false then some (false, { topic with dataSize })
  else if heap.mutex = false then none
  else some (true, ⟨⟨true, none, []⟩, dataSize⟩)

/-- `orb_subscribe`: the number of the new queue, or `NULL`. -/
def orbSubscribe (heap : OrbHeap) (topic : OrbTopicMeta α) : Option Nat × OrbTopicMeta α :=
  if topic.advertised = false then (none, topic)
  else if orbMaxSubscribers ≤ topic.subscriberQueues.length then (none, topic)
  else if heap.sub = false then (none, topic)
  else if heap.queue = false then (none, topic)
  else (some topic.subscriberQueues.length,
    { topic with subscriberQueues := topic.subscriberQueues ++ [none] })

theorem orbSubscribe_cases (heap : OrbHeap) (topic : OrbTopicMeta α) :
    (orbSubscribe heap topic = (none, topic)
        ∧ ¬ (topic.advertised = true ∧ topic.subscriberQueues.length < orbMaxSubscribers
          ∧ heap.sub = true ∧ heap.queue = true))
      ∨ (orbSubscribe heap topic = (some topic.subscriberQueues.length,
          { topic with subscriberQueues := topic.subscriberQueues ++ [none] })
        ∧ topic.advertised = true ∧ topic.subscriberQueues.length < orbMaxSubscribers
        ∧ heap.sub = true ∧ heap.queue = true) := by
  unfold orbSubscribe
  split
  · next h => exact Or.inl ⟨rfl, fun hall => by rw [h] at hall; cases hall.1⟩
  next hadvertised =>
    split
    · next h => exact Or.inl ⟨rfl, fun hall => absurd hall.2.1 (Nat.not_lt.mpr h)⟩
    next hcount =>
      split
      · next h => exact Or.inl ⟨rfl, fun hall => by rw [h] at hall; cases hall.2.2.1⟩
      next hsub =>
        split
        · next h => exact Or.inl ⟨rfl, fun hall => by rw [h] at hall; cases hall.2.2.2⟩
        next hqueue =>
          refine Or.inr ⟨rfl, ?_, Nat.lt_of_not_le hcount, ?_, ?_⟩
          · exact Bool.eq_true_of_not_eq_false hadvertised
          · exact Bool.eq_true_of_not_eq_false hsub
          · exact Bool.eq_true_of_not_eq_false hqueue

theorem orbAdvertise_keeps {heap : OrbHeap} {topic topic' : OrbTopicMeta α} {dataSize : Nat}
    {ok : Bool} (h : orbAdvertise heap topic dataSize = some (ok, topic')) :
    (topic.advertised = true → topic' = topic)
      ∧ topic'.subscriberQueues.length ≤ topic.subscriberQueues.length := by
  unfold orbAdvertise at h
  split at h
  · obtain ⟨-, rfl⟩ := Prod.mk.inj (Option.some.inj h)
    exact ⟨fun _ => rfl, le_refl _⟩
  split at h
  · obtain ⟨-, rfl⟩ := Prod.mk.inj (Option.some.inj h)
    exact ⟨fun _ => rfl, le_refl _⟩
  next hnot =>
    split at h
    · obtain ⟨-, rfl⟩ := Prod.mk.inj (Option.some.inj h)
      exact ⟨fun hyes => absurd hyes hnot, le_refl _⟩
    split at h
    · cases h
    · obtain ⟨-, rfl⟩ := Prod.mk.inj (Option.some.inj h)
      exact ⟨fun hyes => absurd hyes hnot, Nat.zero_le _⟩

end MmIotEsp32.HeliFc
