import MinotaurSubnet.Library.Dict
import MinotaurSubnet.Python.Value

/-! # The relayer's safeguards

`Safeguards` of `relayer/safeguards.py`: the state the relayer keeps between requests
and the checks that read and extend it. A check either refuses with a text or returns
the next state; a refused check changes nothing but the pruned or rolled-over part of
the state. `now` is the clock in whole seconds.
-/

namespace MinotaurSubnet.Relayer

open Library Python

structure SafeguardLimits where
  perCallerLimit : Nat := 60
  perCallerWindowSeconds : Int := 3600
  dailyGasCapWei : Int := 500000000000000000
  dedupGraceSeconds : Int := 600
  dedupMaxTtlSeconds : Int := 900

structure Safeguards where
  seenPlanHashes : Dict String Int := Dict.empty
  callerHistory : Dict String (List Int) := Dict.empty
  nonceHighWater : Dict String Int := Dict.empty
  dayStartUtc : Int := 0
  gasUsedWei : Int := 0

namespace Safeguards

def checkDeadline (now planDeadline : Int) : Option String :=
  if planDeadline ≤ now then some s!"plan deadline expired ({planDeadline} <= now {now})" else none

variable (limits : SafeguardLimits) (lower : String → String) (now : Int)

/-- A new UTC day starts from an empty budget. `eth` formats an amount of wei. -/
def checkDailyGasRoom (eth : Int → String) (s : Safeguards) : Safeguards × Option String :=
  let today := now - now % 86400
  let rolled := if s.dayStartUtc = today then s else { s with dayStartUtc := today, gasUsedWei := 0 }
  (rolled, if limits.dailyGasCapWei ≤ rolled.gasUsedWei then
    some (s!"daily gas cap hit: {eth rolled.gasUsedWei} / {eth limits.dailyGasCapWei} ETH used today; "
      ++ "halting submissions until next UTC day") else none)

def checkSignerNonce (signer : String) (nonce : Int) (s : Safeguards) : Safeguards × Option String :=
  let last := (s.nonceHighWater.get? (lower signer)).getD 0
  if nonce ≤ last then
    (s, some (s!"non-monotonic nonce from {slice signer 0 10}: "
      ++ s!"claimed {nonce}, last accepted {last}"))
  else ({ s with nonceHighWater := s.nonceHighWater.set (lower signer) nonce }, none)

def checkCallerRate (caller : String) (s : Safeguards) : Safeguards × Option String :=
  let recent := ((s.callerHistory.get? (lower caller)).getD []).filter
    (now - limits.perCallerWindowSeconds < ·)
  if limits.perCallerLimit ≤ recent.length then
    ({ s with callerHistory := s.callerHistory.set (lower caller) recent },
      some (s!"caller {slice caller 0 10} exceeded per-window limit: "
        ++ s!"{recent.length}/{limits.perCallerLimit} in last {limits.perCallerWindowSeconds}s"))
  else ({ s with callerHistory := s.callerHistory.set (lower caller) (recent ++ [now]) }, none)

def checkPlanHashUnseen (dedupKey : String) (planDeadline : Int) (s : Safeguards) :
    Safeguards × Option String :=
  let evictAt := min planDeadline (now + limits.dedupMaxTtlSeconds) + limits.dedupGraceSeconds
  let kept := s.seenPlanHashes.filter fun _ expiry => decide (now < expiry)
  match kept.get? dedupKey with
  | some existing =>
    ({ s with seenPlanHashes := kept },
      some s!"plan_hash already submitted (re-submittable after {existing - now}s)")
  | none => ({ s with seenPlanHashes := kept.set dedupKey evictAt }, none)

def releasePlanHash (dedupKey : String) (s : Safeguards) : Safeguards :=
  { s with seenPlanHashes := s.seenPlanHashes.erase dedupKey }

def recordGasUsed (gasUsed gasPriceWei : Int) (s : Safeguards) : Safeguards :=
  { s with gasUsedWei := s.gasUsedWei + gasUsed * gasPriceWei }

end Safeguards

end MinotaurSubnet.Relayer
