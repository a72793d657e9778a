import Libfluid.Library.Bytes

/-!
# Matches and their comparison

The OpenFlow 1.0 match structure and the comparisons of `flow.hh`. A match carries the fields of
`ofp_match`; the wildcards word of a match that stands for a packet is never read.
-/

namespace Libfluid.Switch
open Library

structure EthAddress where
  octet0 : Byte
  octet1 : Byte
  octet2 : Byte
  octet3 : Byte
  octet4 : Byte
  octet5 : Byte
deriving DecidableEq, Repr

/-- The first four octets, read through a `uint32_t` pointer. -/
def EthAddress.load32 (a : EthAddress) : BitVec 32 :=
  Library.load32 a.octet0 a.octet1 a.octet2 a.octet3

def EthAddress.load16 (a : EthAddress) : BitVec 16 := Library.load16 a.octet4 a.octet5

structure Match where
  wildcards : BitVec 32
  inPort : BitVec 16
  dlSrc : EthAddress
  dlDst : EthAddress
  dlVlan : BitVec 16
  dlVlanPcp : BitVec 8
  dlType : BitVec 16
  nwTos : BitVec 8
  nwProto : BitVec 8
  nwSrc : BitVec 32
  nwDst : BitVec 32
  tpSrc : BitVec 16
  tpDst : BitVec 16
deriving DecidableEq, Repr

def ofpfwInPort : BitVec 32 := 1 <<< 0
def ofpfwDlVlan : BitVec 32 := 1 <<< 1
def ofpfwDlSrc : BitVec 32 := 1 <<< 2
def ofpfwDlDst : BitVec 32 := 1 <<< 3
def ofpfwDlType : BitVec 32 := 1 <<< 4
def ofpfwNwProto : BitVec 32 := 1 <<< 5
def ofpfwTpSrc : BitVec 32 := 1 <<< 6
def ofpfwTpDst : BitVec 32 := 1 <<< 7
def ofpfwNwSrcShift : Nat := 8
def ofpfwNwSrcBits : Nat := 6
def ofpfwNwDstShift : Nat := 14
def ofpfwNwDstBits : Nat := 6
def ofpfwDlVlanPcp : BitVec 32 := 1 <<< 20
def ofpfwNwTos : BitVec 32 := 1 <<< 21
def ofpfwAll : BitVec 32 := (1 <<< 22) - 1

def wc (wildcards field : BitVec 32) : Bool := wildcards &&& field != 0

/-- A truth value as the integer it is promoted to before `~` is applied. -/
def promote (b : Bool) : BitVec 32 := if b then 1 else 0

def truth (word : BitVec 32) : Bool := word != 0

def strictWild {w : Nat} (a b : BitVec w) (aw bw f : BitVec 32) : Bool :=
  (wc aw f && wc bw f) || (truth (~~~promote (wc aw f)) && truth (~~~promote (wc bw f)) && a == b)

def strictWild8 (a b : BitVec 8) (aw bw f : BitVec 32) : Bool := strictWild a b aw bw f

def strictWild16 (a b : BitVec 16) (aw bw f : BitVec 32) : Bool := strictWild a b aw bw f

def strictWild32 (a b aw bw f : BitVec 32) : Bool := strictWild a b aw bw f

def strictNw (a b am bm : BitVec 32) : Bool := am == bm && (a ^^^ b) &&& ~~~am == 0

def strictDladdr (a b : EthAddress) (aw bw f : BitVec 32) : Bool :=
  strictWild32 a.load32 b.load32 aw bw f && strictWild16 a.load16 b.load16 aw bw f

def matchStdStrict (a b : Match) (nwSrcMaskA nwSrcMaskB nwDstMaskA nwDstMaskB : BitVec 32) : Bool :=
  strictWild16 a.inPort b.inPort a.wildcards b.wildcards ofpfwInPort &&
  strictDladdr a.dlSrc b.dlSrc a.wildcards b.wildcards ofpfwDlSrc &&
  strictDladdr a.dlDst b.dlDst a.wildcards b.wildcards ofpfwDlDst &&
  strictWild16 a.dlVlan b.dlVlan a.wildcards b.wildcards ofpfwDlVlan &&
  strictWild16 (a.dlVlanPcp.setWidth 16) (b.dlVlanPcp.setWidth 16) a.wildcards b.wildcards ofpfwDlVlanPcp &&
  strictWild16 a.dlType b.dlType a.wildcards b.wildcards ofpfwDlType &&
  strictWild8 a.nwTos b.nwTos a.wildcards b.wildcards ofpfwNwTos &&
  strictWild8 a.nwProto b.nwProto a.wildcards b.wildcards ofpfwNwProto &&
  strictNw a.nwSrc b.nwSrc nwSrcMaskA nwSrcMaskB &&
  strictNw a.nwDst b.nwDst nwDstMaskA nwDstMaskB &&
  strictWild16 a.tpSrc b.tpSrc a.wildcards b.wildcards ofpfwTpSrc &&
  strictWild16 a.tpDst b.tpDst a.wildcards b.wildcards ofpfwTpDst

def nonstrictWild {w : Nat} (a b : BitVec w) (aw bw f : BitVec 32) : Bool :=
  (wc bw f && wc aw f) || (truth (~~~promote (wc bw f)) && (wc aw f || a == b))

def nonstrictWild8 (a b : BitVec 8) (aw bw f : BitVec 32) : Bool := nonstrictWild a b aw bw f

def nonstrictWild16 (a b : BitVec 16) (aw bw f : BitVec 32) : Bool := nonstrictWild a b aw bw f

def nonstrictWild32 (a b aw bw f : BitVec 32) : Bool := nonstrictWild a b aw bw f

def nonstrictNw (a b am bm : BitVec 32) : Bool :=
  ~~~am &&& (~~~a ||| ~~~b ||| bm) &&& (a ||| b ||| bm) == 0

def nonstrictDladdr (a b : EthAddress) (aw bw f : BitVec 32) : Bool :=
  nonstrictWild32 a.load32 b.load32 aw bw f && nonstrictWild16 a.load16 b.load16 aw bw f

def matchStdNonstrict (a b : Match) (nwSrcMaskA nwSrcMaskB nwDstMaskA nwDstMaskB : BitVec 32) : Bool :=
  nonstrictWild16 a.inPort b.inPort a.wildcards b.wildcards ofpfwInPort &&
  nonstrictDladdr a.dlSrc b.dlSrc a.wildcards b.wildcards ofpfwDlSrc &&
  nonstrictDladdr a.dlDst b.dlDst a.wildcards b.wildcards ofpfwDlDst &&
  nonstrictWild16 a.dlVlan b.dlVlan a.wildcards b.wildcards ofpfwDlVlan &&
  nonstrictWild8 a.dlVlanPcp b.dlVlanPcp a.wildcards b.wildcards ofpfwDlVlanPcp &&
  nonstrictWild16 a.dlType b.dlType a.wildcards b.wildcards ofpfwDlType &&
  nonstrictWild8 a.nwTos b.nwTos a.wildcards b.wildcards ofpfwNwTos &&
  nonstrictWild8 a.nwProto b.nwProto a.wildcards b.wildcards ofpfwNwProto &&
  nonstrictNw a.nwSrc b.nwSrc nwSrcMaskA nwSrcMaskB &&
  nonstrictNw a.nwDst b.nwDst nwDstMaskA nwDstMaskB &&
  nonstrictWild16 a.tpSrc b.tpSrc a.wildcards b.wildcards ofpfwTpSrc &&
  nonstrictWild16 a.tpDst b.tpDst a.wildcards b.wildcards ofpfwTpDst

def pktWild {w : Nat} (a b : BitVec w) (aw f : BitVec 32) : Bool := wc aw f || a == b

def pktWild8 (a b : BitVec 8) (aw f : BitVec 32) : Bool := pktWild a b aw f

def pktWild16 (a b : BitVec 16) (aw f : BitVec 32) : Bool := pktWild a b aw f

def pktWild32 (a b aw f : BitVec 32) : Bool := pktWild a b aw f

def pktNw (a b am : BitVec 32) : Bool := ~~~am &&& (a ^^^ b) == 0

def pktDladdr (a b : EthAddress) (am f : BitVec 32) : Bool :=
  pktWild32 a.load32 b.load32 am f && pktWild16 a.load16 b.load16 am f

def matchStdPkt (a b : Match) (nwSrcMask nwDstMask : BitVec 32) : Bool :=
  pktWild16 a.inPort b.inPort a.wildcards ofpfwInPort &&
  pktDladdr a.dlSrc b.dlSrc a.wildcards ofpfwDlSrc &&
  pktDladdr a.dlDst b.dlDst a.wildcards ofpfwDlDst &&
  pktWild16 a.dlVlan b.dlVlan a.wildcards ofpfwDlVlan &&
  pktWild8 a.dlVlanPcp b.dlVlanPcp a.wildcards ofpfwDlVlanPcp &&
  pktWild16 a.dlType b.dlType a.wildcards ofpfwDlType &&
  pktWild8 a.nwTos b.nwTos a.wildcards ofpfwNwTos &&
  pktWild8 a.nwProto b.nwProto a.wildcards ofpfwNwProto &&
  pktNw a.nwSrc b.nwSrc nwSrcMask &&
  pktNw a.nwDst b.nwDst nwDstMask &&
  pktWild16 a.tpSrc b.tpSrc a.wildcards ofpfwTpSrc &&
  pktWild16 a.tpDst b.tpDst a.wildcards ofpfwTpDst

def matchStdOverlap (a b : Match) (nwSrcMaskA nwSrcMaskB nwDstMaskA nwDstMaskB : BitVec 32) : Bool :=
  matchStdNonstrict a b nwSrcMaskA nwSrcMaskB nwDstMaskA nwDstMaskB ||
  -- The last argument of the second call is a mask of the source in the original too.
  matchStdNonstrict b a nwSrcMaskB nwSrcMaskA nwDstMaskB nwSrcMaskB

end Libfluid.Switch
