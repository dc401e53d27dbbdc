import VirtualLte.Mbim.Wire
import VirtualLte.Lib.WriteLog

/-!
# NCM transfer blocks

The framing of IP datagrams on the MBIM data endpoints (`mbim_ntb.c`): a header (NTH16),
then datagrams and tables of datagrams (NDP16).  Each table names the next one by its
offset, and each of its entries is an offset and a length.

* `mbimNtb16Deframe` walks through a block of the host.  Offsets and lengths are 32-bit
  sums, as in the source, and the two loops run on fuel.  What it reads, which tables it
  visits and which datagrams it hands on is kept in a `Deframed`.
* `mbimNtb16FrameSingle` lays out a block with one datagram.  The memory it writes is the
  list of its writes, so that a write past the returned length stays visible.
-/

namespace VirtualLte.Mbim

def mbimNth16Signature : UInt32 := 0x484D434E
def mbimNdp16Signature : UInt32 := 0x00535049
def mbimNdp16SigMask : UInt32 := 0x00FFFFFF

/-! ## Words -/

/-- `rd16(b + i)`. -/
def rd16 (b : Bytes) (i : Nat) : UInt16 :=
  (octet b i).toUInt16 ||| ((octet b (i + 1)).toUInt16 <<< 8)

/-- `rd32(b + i)`. -/
abbrev rd32 (b : Bytes) (i : Nat) : UInt32 := getLe32 b i

def wr16 (v : UInt16) : Bytes := [v.toUInt8, (v >>> 8).toUInt8]

abbrev wr32 (v : UInt32) : Bytes := putLe32 v

/-! ## Deframing -/

/-- What `mbim_ntb16_deframe` has done: its count, the offsets it has read, the tables
whose header it has read, and the offset and length of each datagram handed to the
callback. -/
structure Deframed where
  count : Int32 := 0
  reads : List Nat := []
  visited : List Nat := []
  calls : List (Nat × Nat) := []
  deriving DecidableEq, Repr

namespace Deframed

instance : Append Deframed where
  append r s :=
    { count := r.count + s.count, reads := r.reads ++ s.reads, visited := r.visited ++ s.visited,
      calls := r.calls ++ s.calls }

/-- Read `n` octets from `off` on. -/
def reading (r : Deframed) (off n : Nat) : Deframed :=
  { r with reads := r.reads ++ List.range' off n }

/-- `cb(user, ntb + off, len); count++;` -/
def call (r : Deframed) (off len : UInt32) : Deframed :=
  { r with calls := r.calls ++ [(off.toNat, len.toNat)], count := r.count + 1 }

def enter (r : Deframed) (ndpIndex : UInt32) : Deframed :=
  { r with visited := r.visited ++ [ndpIndex.toNat] }

end Deframed

/-- The entries of one table, from `p` on. -/
def deframeEntries (ntb : Bytes) (blockLen ndpEnd : UInt32) :
    Nat → UInt32 → Deframed → Option Deframed
  | 0, _, _ => none
  | fuel + 1, p, r =>
    if p + 4 ≤ ndpEnd then
      let dgIndex := (rd16 ntb p.toNat).toUInt32
      let dgLen := (rd16 ntb (p.toNat + 2)).toUInt32
      let r := r.reading p.toNat 4
      if dgIndex = 0 ∧ dgLen = 0 then
        some r
      else if dgLen = 0 ∨ dgIndex + dgLen > blockLen then
        deframeEntries ntb blockLen ndpEnd fuel (p + 4) r
      else
        deframeEntries ntb blockLen ndpEnd fuel (p + 4) (r.call dgIndex dgLen)
    else
      some r

/-- The tables, from the one at `ndpIndex` on. -/
def deframeNdps (ntb : Bytes) (blockLen : UInt32) : Nat → UInt32 → Deframed → Option Deframed
  | 0, _, _ => none
  | fuel + 1, ndpIndex, r =>
    if ndpIndex ≠ 0 ∧ ndpIndex + 8 ≤ blockLen then
      let sig := rd32 ntb ndpIndex.toNat
      let ndpLen := (rd16 ntb (ndpIndex.toNat + 4)).toUInt32
      let nextNdp := (rd16 ntb (ndpIndex.toNat + 6)).toUInt32
      let r := (r.enter ndpIndex).reading ndpIndex.toNat 8
      if sig &&& mbimNdp16SigMask ≠ mbimNdp16Signature then
        some r
      else do
        let ndpEnd :=
          if ndpLen < 8 ∨ ndpIndex + ndpLen > blockLen then blockLen else ndpIndex + ndpLen
        let r ← deframeEntries ntb blockLen ndpEnd fuel (ndpIndex + 8) r
        if nextNdp = 0 ∨ nextNdp ≤ ndpIndex then
          some r
        else
          deframeNdps ntb blockLen fuel nextNdp r
    else
      some r

/-- The octets of the header that are read: its signature, block length and first table. -/
def nth16Reads : List Nat := [0, 1, 2, 3, 8, 9, 10, 11]

/-- The returned number beside what was done; nothing where the fuel runs out. -/
def mbimNtb16Deframe (fuel : Nat) (ntb : Bytes) (len : UInt32) : Option (Int32 × Deframed) :=
  if len < 12 then
    some (-1, {})
  else if rd32 ntb 0 ≠ mbimNth16Signature then
    some (-1, { reads := List.range 4 })
  else
    let blockLen := (rd16 ntb 8).toUInt32
    let blockLen := if blockLen = 0 ∨ blockLen > len then len else blockLen
    let ndpIndex := (rd16 ntb 10).toUInt32
    (deframeNdps ntb blockLen fuel ndpIndex { reads := nth16Reads }).map fun r => (r.count, r)

/-! ## Framing -/

/-- The writes to `out` behind the `memset`, newest first. -/
def frameWrites (ip : Bytes) (ipLen : UInt32) (sequence : UInt16) (ndpOff total : UInt32) :
    WriteLog.Log UInt8 :=
  [(ndpOff.toNat + 14, wr16 0),
   (ndpOff.toNat + 12, wr16 0),
   (ndpOff.toNat + 10, wr16 ipLen.toUInt16),
   (ndpOff.toNat + 8, wr16 12),
   (ndpOff.toNat + 6, wr16 0),
   (ndpOff.toNat + 4, wr16 16),
   (ndpOff.toNat, wr32 mbimNdp16Signature),
   (12, slice ip 0 ipLen.toNat),
   (10, wr16 ndpOff.toUInt16),
   (8, wr16 total.toUInt16),
   (6, wr16 sequence),
   (4, wr16 12),
   (0, wr32 mbimNth16Signature)]

/-- The returned length and the writes to `out`. -/
def mbimNtb16FrameSingle (cap : UInt32) (ip : Bytes) (ipLen : UInt32) (sequence : UInt16) :
    UInt32 × WriteLog.Log UInt8 :=
  let dgOff : UInt32 := 12
  let ndpOff := (dgOff + ipLen + 3) &&& ~~~3
  let ndpLen : UInt32 := 16
  let total := ndpOff + ndpLen
  if ipLen = 0 ∨ total > cap ∨ total > 0xFFFF then
    (0, [])
  else
    (total, frameWrites ip ipLen sequence ndpOff total ++ WriteLog.clear 0 0 total.toNat [])

end VirtualLte.Mbim
