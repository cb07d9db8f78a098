/-
  MmIotEsp32.Driver.MorseDriver.Mm6108.Pageset

  The pages of the chip that the driver holds (`driver/morse_driver/mm6108/pageset.c`).
-/
import MmIotEsp32.Driver.MorseDriver.Skbq
import MmIotEsp32.Lib.RingBuffer

namespace MmIotEsp32.Driver

open Lib

/-! ## Pages and rings -/

def cmdRsvedPagesMax : Nat := 2
def cmdRsvedFifoLen : Nat := 2
def cachedPagesFifoLen : Nat := 32

-- The error numbers of the C library.
def efault : Int := 14
def enospc : Int := 28
def emsgsize : Int := 90

structure MorsePage where
  addr : U32
  sizeBytes : U32
  deriving DecidableEq

/-- `struct page_fifo_hdr` with its pages. -/
abbrev PageFifo (slots : Nat) := RingBuffer MorsePage slots

def fifoHasPage {slots : Nat} (hdr : PageFifo slots) (page : MorsePage) : Bool := hdr.has page

def fifoIsEmpty {slots : Nat} (hdr : PageFifo slots) : Bool := hdr.wr = hdr.rd

def fifoLen {slots : Nat} (hdr : PageFifo slots) : Nat := hdr.len

def fifoSize {slots : Nat} (_ : PageFifo slots) : Nat := slots

/-- `fifo_put`; `none` is its answer 0. -/
def fifoPut {slots : Nat} (hdr : PageFifo slots) (page : MorsePage) : Option (PageFifo slots) :=
  hdr.put page

/-- `fifo_get`; `none` is its answer 0. -/
def fifoGet {slots : Nat} (hdr : PageFifo slots) : Option (MorsePage × PageFifo slots) := hdr.get

/-- A page that `morse_pageset_write` took. -/
structure PageUse where
  channel : U8
  fromRsvd : Bool
  page : MorsePage
  deriving DecidableEq

/-- The rings of `struct morse_pageset`, with the history of the pages: `popped` from the
return pager and not dropped as duplicates, `taken` by `morse_pageset_write`, `populated`
as the populated pager accepted them; `puts` counts the calls of its `put`. -/
structure MorsePageset where
  reservedPages : PageFifo (cmdRsvedFifoLen + 1)
  cachedPages : PageFifo (cachedPagesFifoLen + 1)
  popped : List MorsePage
  taken : List PageUse
  populated : List MorsePage
  puts : Nat

def morsePagesetInit : MorsePageset where
  reservedPages := RingBuffer.empty _ (Nat.succ_pos _) ⟨0, 0⟩
  cachedPages := RingBuffer.empty _ (Nat.succ_pos _) ⟨0, 0⟩
  popped := []
  taken := []
  populated := []
  puts := 0

/-! ## Pages that come back -/

def morsePagesetPageIsCached (pageset : MorsePageset) (page : MorsePage) : Bool :=
  if fifoHasPage pageset.reservedPages page then true
  else if fifoHasPage pageset.cachedPages page then true
  else false

/-- A new page is put into `reserved_pages`; a full ring only warns. -/
def MorsePageset.putReserved (pageset : MorsePageset) (page : MorsePage) : MorsePageset :=
  { pageset with
    reservedPages := (fifoPut pageset.reservedPages page).getD pageset.reservedPages
    popped := pageset.popped ++ [page] }

/-- A new page is put into `cached_pages`; a full ring only warns. -/
def MorsePageset.putCached (pageset : MorsePageset) (page : MorsePage) : MorsePageset :=
  { pageset with
    cachedPages := (fifoPut pageset.cachedPages page).getD pageset.cachedPages
    popped := pageset.popped ++ [page] }

/-- Where the first loop of the return handler ends. -/
structure ReservedFilled where
  pageset : MorsePageset
  popped : Nat
  pagerEmpty : Bool
  /-- what the return pager still has -/
  pops : List MorsePage

/-- The first loop of the return handler. -/
def fillReserved (pageset : MorsePageset) (popped : Nat) : List MorsePage → ReservedFilled
  | [] =>
    if fifoLen pageset.reservedPages < cmdRsvedPagesMax then ⟨pageset, popped, true, []⟩
    else ⟨pageset, popped, false, []⟩
  | page :: pops =>
    if fifoLen pageset.reservedPages < cmdRsvedPagesMax then
      if morsePagesetPageIsCached pageset page then fillReserved pageset (popped + 1) pops
      else fillReserved (pageset.putReserved page) (popped + 1) pops
    else ⟨pageset, popped, false, page :: pops⟩

/-- The second loop of the return handler. -/
def fillCached (pageset : MorsePageset) (popped : Nat) : List MorsePage → MorsePageset
  | [] => pageset
  | page :: pops =>
    if popped < fifoSize pageset.cachedPages * 2 then
      if morsePagesetPageIsCached pageset page then fillCached pageset (popped + 1) pops
      else fillCached (pageset.putCached page) (popped + 1) pops
    else pageset

/-- `morse_pageset_to_chip_return_handler_no_lock`; the return pager gives `pops` and fails
after them. -/
def morsePagesetToChipReturnHandlerNoLock (pageset : MorsePageset) (pops : List MorsePage) :
    MorsePageset :=
  let filled := fillReserved pageset 0 pops
  if filled.pagerEmpty then filled.pageset
  else fillCached filled.pageset filled.popped filled.pops

/-- `morse_pageset_to_chip_return_handler`; `lockFree` says whether `pageset_lock` succeeds. -/
def morsePagesetToChipReturnHandler (pageset : MorsePageset) (haveLock lockFree : Bool)
    (pops : List MorsePage) : MorsePageset :=
  if !haveLock && !lockFree then pageset
  else morsePagesetToChipReturnHandlerNoLock pageset pops

/-! ## Frames that are sent -/

/-- `morse_pageset_rsved_page_is_avail`, called with the lock. -/
def morsePagesetRsvedPageIsAvail (pageset : MorsePageset) (channel : U8)
    (pops : List MorsePage) : Bool × MorsePageset :=
  if channel = morseSkbChanBeacon then
    if fifoLen pageset.reservedPages ≤ 1 then (false, pageset) else (true, pageset)
  else if channel = morseSkbChanCommand then
    let pageset :=
      if fifoIsEmpty pageset.reservedPages then
        morsePagesetToChipReturnHandler pageset true false pops
      else pageset
    (!fifoIsEmpty pageset.reservedPages, pageset)
  else (false, pageset)

/-- A call of `morse_pageset_write`: whether `pageset_lock` succeeds, the frame, the pages
that the return pager would give, and the outcomes of the transfers. -/
structure PagesetWrite where
  lockFree : Bool
  channel : U8
  dataLength : U32
  pops : List MorsePage
  /-- the transfer of `write_page` -/
  writeRet : Int
  /-- the transfer of the first `put` -/
  putRet : Int
  /-- the transfer of the second `put` -/
  putAgainRet : Int

/-- `write_page` (`morse_pager_hw_page_write`) of the whole frame. -/
def PagesetWrite.writePage (w : PagesetWrite) (page : MorsePage) : Int :=
  if page.sizeBytes < w.dataLength then -emsgsize
  else if page.addr = 0 then -efault
  else w.writeRet

/-- The page is taken from the ring that is chosen for the frame. -/
def MorsePageset.getPage (pageset : MorsePageset) (channel : U8) (fromRsvd : Bool) :
    Option (MorsePage × MorsePageset) :=
  if fromRsvd then
    (fifoGet pageset.reservedPages).map fun (page, ring) =>
      (page, { pageset with
        reservedPages := ring, taken := pageset.taken ++ [⟨channel, fromRsvd, page⟩] })
  else
    (fifoGet pageset.cachedPages).map fun (page, ring) =>
      (page, { pageset with
        cachedPages := ring, taken := pageset.taken ++ [⟨channel, fromRsvd, page⟩] })

/-- A page that could not be written goes back to the ring it came from. -/
def MorsePageset.putBack (pageset : MorsePageset) (fromRsvd : Bool) (page : MorsePage) :
    MorsePageset :=
  if fromRsvd then
    { pageset with
      reservedPages := (fifoPut pageset.reservedPages page).getD pageset.reservedPages }
  else
    { pageset with cachedPages := (fifoPut pageset.cachedPages page).getD pageset.cachedPages }

/-- `put` of the populated pager. -/
def MorsePageset.put (pageset : MorsePageset) (page : MorsePage) (ret : Int) : MorsePageset :=
  { pageset with
    populated := if ret = 0 then pageset.populated ++ [page] else pageset.populated
    puts := pageset.puts + 1 }

/-- `morse_pageset_write` behind its `fifo_get`. -/
def morsePagesetWritePage (pageset : MorsePageset) (w : PagesetWrite) (fromRsvd : Bool)
    (page : MorsePage) : Int × MorsePageset :=
  if page.sizeBytes < w.dataLength then (-enospc, pageset)
  else if w.writePage page ≠ 0 then (w.writePage page, pageset.putBack fromRsvd page)
  else if w.putRet ≠ 0 then
    -- The header is written again without its sync octet; the second put goes unchecked.
    (w.putRet, (pageset.put page w.putRet).put page w.putAgainRet)
  else (0, pageset.put page w.putRet)

def morsePagesetWrite (pageset : MorsePageset) (w : PagesetWrite) : Int × MorsePageset :=
  if !w.lockFree then (-1, pageset)
  else
    let avail := morsePagesetRsvedPageIsAvail pageset w.channel w.pops
    match avail.2.getPage w.channel avail.1 with
    | none => (-enospc, avail.2)
    | some (page, pageset) => morsePagesetWritePage pageset w avail.1 page

/-! ## Runs -/

inductive PagesetEvent where
  | returnHandler (haveLock lockFree : Bool) (pops : List MorsePage)
  | write (w : PagesetWrite)

def pagesetStep (pageset : MorsePageset) : PagesetEvent → Option MorsePageset
  | .returnHandler haveLock lockFree pops =>
    some (morsePagesetToChipReturnHandler pageset haveLock lockFree pops)
  | .write w => some (morsePagesetWrite pageset w).2

end MmIotEsp32.Driver
