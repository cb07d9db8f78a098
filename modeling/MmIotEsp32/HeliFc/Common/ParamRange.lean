/-
  MmIotEsp32.HeliFc.Common.ParamRange

  The parameters over a run of sets, resets, saves and boots (`common/param.c`).
-/
import MmIotEsp32.HeliFc.Common.Param
import MmIotEsp32.Lib.Transition

namespace MmIotEsp32.HeliFc

open Lib Function

/-! ## The store -/

/-- `param_set` returns true. -/
def paramSetReturns {F : Type*} [CFloat F] (params : Params F) (id : ParamId) (value : F) : Bool :=
  !CFloat.beq (params id) (paramClamp id value)

/-- The default of a parameter. -/
def paramDefault (id : ParamId) : Binary32 := lit (paramTable id).defaultVal

/-- `s_values`, and the flash. -/
structure ParamStore where
  values : Params Binary32
  nvs : ParamId → Option (BitVec 32)
  /-- The value in force when a parameter was last written to the flash. -/
  lastSaved : ParamId → Option Binary32

inductive ParamStoreEvent where
  /-- PARAM_SET, on core 0. -/
  | paramSet (name : String) (bits : BitVec 32)
  | reset (id : ParamId)
  | resetAll
  /-- `param_save_all`; the writes that reach the flash. -/
  | save (written : ParamId → Bool)
  /-- The next boot; the keys that can be read. -/
  | reboot (readable : ParamId → Bool)

/-- What `nvs_get_u32` finds. -/
def nvsValues (nvs : ParamId → Option (BitVec 32)) (readable : ParamId → Bool) :
    ParamId → Option Binary32 := fun id =>
  if readable id then (nvs id).map Binary32.mk else none

/-- The first boot, with any content of the flash. -/
def paramStoreBoot (nvs : ParamId → Option (BitVec 32)) : ParamStore where
  values := paramInit (nvsValues nvs fun _ => true)
  nvs := nvs
  lastSaved := fun _ => none

/-- `RPC_CMD_PARAM_SET` of `sysmon_task`. -/
def ParamStore.set (s : ParamStore) (name : String) (bits : BitVec 32) : ParamStore :=
  match paramFind name with
  | none => s
  | some id => { s with values := HeliFc.paramSet s.values id ⟨bits⟩ }

def paramStoreStep (s : ParamStore) : ParamStoreEvent → Option ParamStore
  | .paramSet name bits => some (s.set name bits)
  | .reset id => some { s with values := update s.values id (paramDefault id) }
  | .resetAll => some { s with values := paramDefault }
  | .save written =>
    some { s with
      nvs := fun id => if written id then some (s.values id).bits else s.nvs id
      lastSaved := fun id => if written id then some (s.values id) else s.lastSaved id }
  | .reboot readable => some { s with values := paramInit (nvsValues s.nvs readable) }

/-! ## What is promised -/

/-- A value is at least the minimum of its parameter and at most the maximum. -/
def InRange (id : ParamId) (value : Binary32) : Prop :=
  CFloat.le (lit (paramTable id).minVal) value = true
    ∧ CFloat.le value (lit (paramTable id).maxVal) = true

instance decidableParamInRange (id : ParamId) (value : Binary32) : Decidable (InRange id value) :=
  inferInstanceAs (Decidable (_ ∧ _))

/-- Every value that `param_get` returns is in its range, and so is a number. -/
def ValuesInRange (s : ParamStore) : Prop :=
  ∀ id, InRange id (paramGet s.values id) ∧ (paramGet s.values id).isNaN = false

/-- `param_set` reports a change exactly when the stored value changes. -/
def ChangeReported (s : ParamStore) : ParamStoreEvent → Prop
  | .paramSet name bits => ∀ id ∈ paramFind name,
      paramSetReturns s.values id ⟨bits⟩ = true ↔ (s.set name bits).values id ≠ s.values id
  | _ => True

/-- A value that was saved, and that the boot can read, is in force again. -/
def SavedReloaded (s : ParamStore) : ParamStoreEvent → Prop
  | .reboot readable => ∀ id, readable id = true → ∀ value ∈ s.lastSaved id,
      paramInit (nvsValues s.nvs readable) id = value
  | _ => True

/-- A value that is set under the name of a parameter is a number, or an infinity. -/
def NumberSet (_ : ParamStore) : ParamStoreEvent → Prop
  | .paramSet name bits => paramFind name ≠ none → (Binary32.mk bits).isNaN = false
  | _ => True

/-! ## The clamp, and the load -/

theorem paramDefault_inRange (id : ParamId) : InRange id (paramDefault id) := by
  cases id <;> decide +kernel

theorem paramBounds_le (id : ParamId) :
    CFloat.le (lit (paramTable id).minVal : Binary32) (lit (paramTable id).maxVal) = true := by
  cases id <;> decide +kernel

variable {id : ParamId} {value : Binary32}

theorem InRange.number (h : InRange id value) : value.isNaN = false := (Binary32.isNaN_of_le h.1).2

theorem paramClamp_low (h : CFloat.lt value (lit (paramTable id).minVal) = true) :
    paramClamp id value = paramClamp id (lit (paramTable id).minVal) := by
  have hself : CFloat.lt (lit (paramTable id).minVal : Binary32) (lit (paramTable id).minVal)
      = false := Binary32.lt_self _
  unfold paramClamp
  dsimp only
  rw [h, hself]
  rfl

theorem paramClamp_high
    (h : CFloat.lt value (lit (paramTable id).minVal) = false) : paramClamp id value
      = if CFloat.lt (lit (paramTable id).maxVal) value then lit (paramTable id).maxVal
        else value := by
  unfold paramClamp
  dsimp only
  rw [h]
  rfl

theorem paramClamp_inRange_iff (id : ParamId) (value : Binary32) :
    InRange id (paramClamp id value) ↔ value.isNaN = false := by
  have hbounds := paramBounds_le id
  obtain ⟨hmin, hmax⟩ := Binary32.isNaN_of_le hbounds
  -- a number that is not less than the minimum ends in the range
  have hhigh : ∀ v : Binary32, v.isNaN = false → CFloat.lt v (lit (paramTable id).minVal) = false →
      InRange id (paramClamp id v) := by
    intro v hnumber hlow
    rw [paramClamp_high hlow]
    split_ifs with hlt
    · exact ⟨hbounds, Binary32.le_iff.mpr ⟨hmax, hmax, le_refl _⟩⟩
    · exact ⟨Binary32.le_total_of_numbers hnumber hmin hlow,
        Binary32.le_total_of_numbers hmax hnumber (Bool.eq_false_iff.mpr hlt)⟩
  constructor
  · intro hrange
    by_contra hnan
    rw [Bool.not_eq_false] at hnan
    -- both comparisons with such a pattern are false, so the clamp keeps it
    have hkept : paramClamp id value = value := by
      rw [paramClamp_high (Binary32.lt_nan (Or.inl hnan))]
      rw [show CFloat.lt _ value = false from Binary32.lt_nan (Or.inr hnan)]
      rfl
    rw [hkept] at hrange
    rw [hrange.number] at hnan
    cases hnan
  intro hnumber
  cases hlow : CFloat.lt value (lit (paramTable id).minVal) with
  | false => exact hhigh value hnumber hlow
  | true =>
    -- the minimum itself is clamped as a number that is not less than it
    rw [paramClamp_low hlow]
    exact hhigh _ hmin (Binary32.lt_self _)

theorem paramInit_loads_inRange (nvs : ParamId → Option Binary32) (id : ParamId) :
    InRange id (paramInit nvs id) := by
  unfold paramInit
  cases nvs id with
  | none => exact paramDefault_inRange id
  | some value =>
    dsimp only
    split_ifs with hrange
    · exact Bool.and_eq_true_iff.mp hrange
    · exact paramDefault_inRange id

theorem paramInit_of_inRange {nvs : ParamId → Option Binary32}
    (hnvs : nvs id = some value) (hrange : InRange id value) : paramInit nvs id = value := by
  unfold paramInit
  rw [hnvs]
  dsimp only
  rw [if_pos (Bool.and_eq_true_iff.mpr hrange)]

/-! ## A set -/

variable {s : ParamStore}

theorem ParamStore.set_of_find {name : String} (h : paramFind name = some id) (bits : BitVec 32) :
    s.set name bits = { s with values := HeliFc.paramSet s.values id ⟨bits⟩ } := by
  unfold ParamStore.set
  rw [h]

theorem paramSet_apply (params : Params Binary32) (id id' : ParamId) (value : Binary32) :
    HeliFc.paramSet params id value id'
      = if id' = id ∧ paramSetReturns params id value = true then paramClamp id value
        else params id' := by
  unfold HeliFc.paramSet paramSetReturns
  cases CFloat.beq (params id) (paramClamp id value) with
  | true =>
    rw [if_pos rfl, if_neg (by simp)]
  | false =>
    rw [if_neg (by decide)]
    by_cases hid : id' = id
    · subst hid
      rw [update_self, if_pos ⟨rfl, rfl⟩]
    · rw [update_of_ne hid, if_neg fun hboth => hid hboth.1]

theorem set_number {name : String} {bits : BitVec 32} (h : ValuesInRange s)
    (hnumber : paramFind name ≠ none → (Binary32.mk bits).isNaN = false) :
    ValuesInRange (s.set name bits) ∧ ChangeReported s (.paramSet name bits) := by
  cases hfind : paramFind name with
  | none =>
    refine ⟨?_, fun id hid => ?_⟩
    · unfold ParamStore.set
      rw [hfind]
      exact h
    · rw [hfind] at hid
      cases hid
  | some id =>
    have hclamp := (paramClamp_inRange_iff id ⟨bits⟩).mpr
      (hnumber (by rw [hfind]; exact Option.some_ne_none id))
    constructor
    · intro id'
      -- the others keep their values, and this one is clamped
      rw [s.set_of_find hfind]
      show InRange id' (HeliFc.paramSet s.values id ⟨bits⟩ id') ∧ _
      show _ ∧ (HeliFc.paramSet s.values id ⟨bits⟩ id').isNaN = false
      rw [paramSet_apply]
      split_ifs with hset
      · obtain ⟨rfl, -⟩ := hset
        exact ⟨hclamp, hclamp.number⟩
      · exact h id'
    intro id' hid'
    rw [hfind] at hid'
    cases hid'
    rw [s.set_of_find hfind]
    show _ ↔ HeliFc.paramSet s.values id ⟨bits⟩ id ≠ s.values id
    rw [paramSet_apply]
    constructor
    · intro hreturns
      rw [if_pos ⟨rfl, hreturns⟩]
      intro heq
      -- equal patterns that are numbers compare as equal
      have hbeq : CFloat.beq (s.values id) (paramClamp id ⟨bits⟩) = true :=
        Binary32.beq_of_eq (h id).2 heq.symm
      rw [paramSetReturns, hbeq] at hreturns
      cases hreturns
    intro hne
    by_contra hno
    rw [if_neg fun hboth => hno hboth.2] at hne
    exact hne rfl

theorem set_nan {name : String} {bits : BitVec 32}
    (hfind : paramFind name = some id) (hnan : (Binary32.mk bits).isNaN = true) :
    ¬ ValuesInRange (s.set name bits) := by
  intro h
  have hrange := (h id).1
  rw [s.set_of_find hfind] at hrange
  change InRange id (HeliFc.paramSet s.values id ⟨bits⟩ id) at hrange
  have hclamp : ¬ InRange id (paramClamp id ⟨bits⟩) := by
    rw [paramClamp_inRange_iff, hnan]
    decide
  have hnumber : (paramClamp id (Binary32.mk bits)).isNaN = true := by
    rw [paramClamp_high (Binary32.lt_nan (Or.inl hnan)),
      show CFloat.lt _ (Binary32.mk bits) = false from Binary32.lt_nan (Or.inr hnan)]
    exact hnan
  have hreturns : paramSetReturns s.values id ⟨bits⟩ = true := by
    -- such a pattern is equal to nothing, so it is always stored
    rw [paramSetReturns, show CFloat.beq _ _ = false from Binary32.beq_nan (Or.inr hnumber)]
    rfl
  have hset : HeliFc.paramSet s.values id ⟨bits⟩ id = paramClamp id ⟨bits⟩ := by
    rw [paramSet_apply, if_pos (And.intro rfl hreturns)]
  rw [hset] at hrange
  exact hclamp hrange

/-! ## Runs -/

/-- The values are in their ranges, and so is what was saved, which the flash has. -/
structure StoreInRange (s : ParamStore) : Prop where
  values : ValuesInRange s
  saved : ∀ id, ∀ value ∈ s.lastSaved id, InRange id value ∧ s.nvs id = some value.bits

theorem InRange.valuesInRange (h : ∀ id, InRange id (s.values id)) :
    ValuesInRange s := fun id => ⟨h id, (h id).number⟩

theorem StoreInRange.boot (nvs : ParamId → Option (BitVec 32)) :
    StoreInRange (paramStoreBoot nvs) where
  values := InRange.valuesInRange fun id => paramInit_loads_inRange _ id
  saved := fun id value hvalue => by cases hvalue

theorem StoreInRange.step {s s' : ParamStore} {e : ParamStoreEvent} (h : StoreInRange s)
    (hnumber : NumberSet s e) (hs' : paramStoreStep s e = some s') : StoreInRange s' := by
  cases e with
  | paramSet name bits =>
    cases hs'
    refine ⟨(set_number h.values hnumber).1, ?_⟩
    unfold ParamStore.set
    split <;> exact h.saved
  | reset id =>
    cases hs'
    refine ⟨InRange.valuesInRange fun id' => ?_, h.saved⟩
    show InRange id' (update s.values id (paramDefault id) id')
    by_cases hid : id' = id
    · subst hid
      rw [update_self]
      exact paramDefault_inRange id'
    · rw [update_of_ne hid]
      exact (h.values id').1
  | resetAll =>
    cases hs'
    exact ⟨InRange.valuesInRange fun id => paramDefault_inRange id, h.saved⟩
  | save written =>
    cases hs'
    refine ⟨h.values, fun id value hvalue => ?_⟩
    dsimp only at hvalue ⊢
    by_cases hwritten : written id = true
    -- what is written now is in its range, what was written before stays
    · rw [if_pos hwritten] at hvalue ⊢
      cases hvalue
      exact ⟨(h.values id).1, rfl⟩
    · rw [if_neg hwritten] at hvalue ⊢
      exact h.saved id value hvalue
  | reboot readable =>
    cases hs'
    exact ⟨InRange.valuesInRange fun id => paramInit_loads_inRange _ id, h.saved⟩

theorem StoreInRange.reloaded (h : StoreInRange s) (e : ParamStoreEvent) : SavedReloaded s e := by
  cases e with
  | reboot readable =>
    intro id hreadable value hvalue
    obtain ⟨hrange, hnvs⟩ := h.saved id value hvalue
    refine paramInit_of_inRange ?_ hrange
    unfold nvsValues
    rw [if_pos hreadable, hnvs]
    rfl
  | _ => trivial

/-- For every content of the flash and every run: every value is in its range, every change is
reported and every saved value comes back, exactly when no PARAM_SET of a parameter carries a
pattern that is not a number. -/
theorem params_in_range_iff (nvs : ParamId → Option (BitVec 32)) (es : List ParamStoreEvent) :
    (Throughout paramStoreStep ValuesInRange (paramStoreBoot nvs) es
        ∧ Along paramStoreStep ChangeReported (paramStoreBoot nvs) es
        ∧ Along paramStoreStep SavedReloaded (paramStoreBoot nvs) es)
      ↔ Along paramStoreStep NumberSet (paramStoreBoot nvs) es := by
  constructor
  · rintro ⟨hrange, -, -⟩
    refine hrange.along fun s e hnext => ?_
    cases e with
    | paramSet name bits =>
      intro hfound
      obtain ⟨id, hfind⟩ := Option.ne_none_iff_exists'.mp hfound
      by_contra hnan
      exact set_nan hfind (Bool.eq_true_of_not_eq_false hnan) (hnext _ rfl)
    | _ => trivial
  intro hnumber
  have hrun : Throughout paramStoreStep StoreInRange (paramStoreBoot nvs) es :=
    throughout_of_step (fun s e s' h hC hs' => h.step hC hs') (StoreInRange.boot nvs) hnumber
  refine ⟨hrun.mono fun s h => h.values, ?_, hrun.along_of fun s e h => h.reloaded e⟩
  have hboth := (hrun.along_of fun s e (h : StoreInRange s) (hC : NumberSet s e) =>
    (show ChangeReported s e from by
      cases e with
      | paramSet name bits => exact (set_number h.values hC).2
      | _ => trivial)).and hnumber
  exact hboth.mono fun s e h => h.1 h.2

/-- The roll gain is set to a pattern that is not a number, and that is what `param_get` returns. -/
theorem nan_passes_the_clamp :
    ¬ ∀ (nvs : ParamId → Option (BitVec 32)) (es : List ParamStoreEvent),
      Throughout paramStoreStep ValuesInRange (paramStoreBoot nvs) es
        ∧ Along paramStoreStep ChangeReported (paramStoreBoot nvs) es
        ∧ Along paramStoreStep SavedReloaded (paramStoreBoot nvs) es := by
  intro h
  have hrange := (h (fun _ => none) [.paramSet "MC_ROLL_P" 0x7FC00000]).1.of_runFrom rfl
  have hnan : (((paramStoreBoot fun _ => none).set "MC_ROLL_P" 0x7FC00000).values .attRollKp).isNaN
      = true := by
    decide +kernel
  have hnumber := (hrange .attRollKp).2
  rw [paramGet, hnan] at hnumber
  cases hnumber

end MmIotEsp32.HeliFc
