/-
  MmIotEsp32.Mmpktmem.TxMemory

  Transmission and the two packet memories.
-/
import MmIotEsp32.Mmpktmem.MmpktmemHeap
import MmIotEsp32.Mmpktmem.MmpktmemStatic

namespace MmIotEsp32.Mmpktmem

open Lib

/-- Each of the memories serves transmission in every run in which somebody is left to resume: the
last one to resume does not give up, and nobody pauses who has nothing to free. -/
theorem tx_memory_serves (ι : Type*) [Fintype ι] [DecidableEq ι] (nBlocks : Nat)
    (events : List (PktmemEvent ι)) :
    (Along (heapStep nBlocks) (HeapResumes nBlocks) (heapInit ι) events →
      Throughout (heapStep nBlocks) (HeapServes nBlocks) (heapInit ι) events)
    ∧ (Along (fun s e => some (staticStep s e)) StaticResumes (staticInit ι nBlocks) events →
      Throughout (fun s e => some (staticStep s e)) (StaticServes nBlocks) (staticInit ι nBlocks)
        events) :=
  ⟨heap_serves ι nBlocks events, static_serves ι nBlocks events⟩

-- Runs.

/-- The next `n` steps of a call. -/
def runs {ι : Type*} (k : ι) (n : Nat) : List (PktmemEvent ι) := List.replicate n (.run k true)

/-- A call for a packet of `len` bytes, and its first `n` steps. -/
def allocs {ι : Type*} (k : ι) (len : U32) (n : Nat) : List (PktmemEvent ι) :=
  .alloc k ⟨0, 0, len, 0⟩ :: runs k n

/-- A free, and its first `n` steps. -/
def frees {ι : Type*} (k : ι) (n : Nat) : List (PktmemEvent ι) := .free k :: runs k n

/-- Three packets are allocated, which pauses, and freed, which resumes. -/
theorem tx_memory_serves_three :
    Throughout (heapStep 3) (HeapServes 3) (heapInit (Fin 2))
        (allocs 0 100 3 ++ allocs 0 100 3 ++ allocs 1 100 5 ++ frees 0 2 ++ frees 0 2 ++ frees 1 4)
      ∧ Throughout (fun s e => some (staticStep s e)) (StaticServes 3) (staticInit (Fin 2) 3)
        (allocs 0 100 3 ++ allocs 0 100 4 ++ allocs 1 100 3 ++ frees 0 1 ++ frees 0 2
          ++ frees 1 1) :=
  ⟨(tx_memory_serves (Fin 2) 3 _).1 (by decide), (tx_memory_serves (Fin 2) 3 _).2 (by decide)⟩

/-- The heap refuses a packet while the last one is freed, and the free finds the counter at the
threshold.  Two packets that are too big keep the list short while the last packet is freed, or
while a third one fails, which pauses. -/
theorem tx_memory_stays_paused :
    ¬ Throughout (heapStep 3) (HeapServes 3) (heapInit (Fin 2))
        (allocs 0 100 3 ++ allocs 0 100 3 ++ allocs 0 100 5 ++ frees 0 2 ++ frees 0 2 ++ frees 0 1
          ++ allocs 1 100 1 ++ runs 0 1 ++ [.run 1 false, .run 1 false])
      ∧ ¬ Throughout (fun s e => some (staticStep s e)) (StaticServes 3) (staticInit (Fin 3) 3)
        (allocs 0 100 3 ++ allocs 0 100 4 ++ allocs 1 2000 1 ++ frees 0 1 ++ allocs 2 2000 1
          ++ frees 0 1 ++ runs 1 3 ++ runs 2 3)
      ∧ ¬ Throughout (fun s e => some (staticStep s e)) (StaticServes 3) (staticInit (Fin 3) 3)
        (allocs 0 2000 1 ++ allocs 1 2000 1 ++ allocs 2 2000 5 ++ runs 0 3 ++ runs 1 3) := by
  refine ⟨fun h => ?_, fun h => ?_, fun h => ?_⟩
  · exact absurd ((h.of_runFrom rfl).ready (by decide)) (by decide)
  · exact absurd ((h.of_runFrom rfl).ready (by decide)) (by decide)
  · exact absurd ((h.of_runFrom rfl).ready (by decide)) (by decide)

end MmIotEsp32.Mmpktmem
