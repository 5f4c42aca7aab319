/-
Clock values and the per-session statistics shared by both ends.

Time is counted in nanoseconds.  An instant may lie before the start of the
clock, so instants are integers; an elapsed time never is negative, because
the standard library clamps it at zero.
-/

import Mathlib.Algebra.Order.Ring.Nat
import Mathlib.Data.Int.Basic

namespace Udpix.Protocol

abbrev Duration := Nat

abbrev Instant := Int

def Duration.fromSecs (secs : Nat) : Duration := secs * 1000000000

def Duration.fromMillis (millis : Nat) : Duration := millis * 1000000

def Duration.fromMicros (micros : Nat) : Duration := micros * 1000

def Instant.elapsed (now since : Instant) : Duration := (now - since).toNat

structure SessionStats where
  srttUs : Nat
  rttvarUs : Nat
  packetsSent : Nat
  packetsAcked : Nat
  bytesSent : Nat
  bytesAcked : Nat
  retransmits : Nat
deriving DecidableEq, Repr

namespace SessionStats

def new : SessionStats :=
  { srttUs := 0
    rttvarUs := 5000
    packetsSent := 0
    packetsAcked := 0
    bytesSent := 0
    bytesAcked := 0
    retransmits := 0 }

/-- Feed one round-trip sample into the smoothed estimators. -/
def updateRtt (stats : SessionStats) (rttUs : Nat) : SessionStats :=
  if stats.srttUs = 0 then
    { stats with srttUs := rttUs, rttvarUs := rttUs / 2 }
  else
    let deviation := ((stats.srttUs : Int) - (rttUs : Int)).natAbs
    { stats with
      rttvarUs := 3 * stats.rttvarUs / 4 + deviation / 4
      srttUs := 7 * stats.srttUs / 8 + rttUs / 8 }

/-- `SRTT + 4 · RTTVAR`, saturating in 64 bits and clamped to 200 ms and 10 s. -/
def rto (stats : SessionStats) : Duration :=
  let rtoUs := min (stats.srttUs + 4 * stats.rttvarUs) (2 ^ 64 - 1)
  Duration.fromMicros (min (max rtoUs 200000) 10000000)

end SessionStats

/-- Turn an echoed timestamp into a sample; one from the future is dropped. -/
def handlePong (stats : SessionStats) (nowUs pongTsUs : Nat) : SessionStats :=
  if pongTsUs ≤ nowUs then stats.updateRtt (nowUs - pongTsUs) else stats

end Udpix.Protocol
