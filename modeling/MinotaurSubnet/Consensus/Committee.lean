import MinotaurSubnet.Library.FirstSeen
import MinotaurSubnet.Library.Fallible
import MinotaurSubnet.Python.Value
import Mathlib.Data.List.Sort

/-! # The validator committee

The validator set, the authorization rule, the quorum size and the signer order that
the order and the champion consensus managers share. Addresses are compared through the host's
`str.lower`; nothing here depends on which function that is.
-/

namespace MinotaurSubnet.Consensus

open Library Python

/-- The fields of `ProtocolConfig` the managers read; a peer is its EVM address. -/
structure ProtocolConfig where
  quorumBps : Int
  onChainValidatorCount : Nat := 0
  onChainValidators : List String := []
  peers : List String := []
  deriving DecidableEq

/-- What a manager knows about the committee. -/
structure Membership where
  validatorId : String
  validatorsOverride : Option (List String) := none
  protocolConfig : Option ProtocolConfig := none
  deriving DecidableEq

namespace Membership

variable (lower : String → String)

/-- The addresses in source order: self, the pinned set, the discovered peers. -/
def sources (m : Membership) : List String :=
  m.validatorId ::
    (m.validatorsOverride.getD [] ++ (m.protocolConfig.map (·.peers)).getD [])

/-- The `validators` property: deduplicated by lower-cased address, first seen wins. -/
def validators (m : Membership) : List String := firstSeen lower m.sources

/-- `_is_authorized_signer`: the on-chain set when there is one, else the union. -/
def isAuthorizedSigner (m : Membership) (address : String) : Bool :=
  let onChain := (m.protocolConfig.map (·.onChainValidators)).getD []
  if onChain.isEmpty then (m.validators lower).any (fun v => lower v == lower address)
  else onChain.any (fun a => lower a == lower address)

def committeeSize (m : Membership) : Nat :=
  let n := (m.protocolConfig.map (·.onChainValidatorCount)).getD 0
  if n = 0 then (m.validators lower).length else n

/-- `quorum_required` at a given threshold: a ceiling division, at least one. -/
def quorumRequired (m : Membership) (quorumBps : Int) : Int :=
  max 1 (((m.committeeSize lower : Int) * quorumBps + 9999) / 10000)

theorem validators_pin_same (m : Membership) :
    ({ m with validatorsOverride := some (m.validators lower) } : Membership).validators lower =
      m.validators lower := by
  refine firstSeen_again lower m.validatorId _ _ ?_
  intro peer member
  exact List.mem_cons_of_mem _ (List.mem_append_right _ member)

end Membership

/-- `now or time.time()`. -/
def orClock (now : Option ℚ) (clock : ℚ) : ℚ :=
  match now with
  | some t => if t = 0 then clock else t
  | none => clock

section

variable {α : Type} (validatorId : α → String)

/-- The sort key `int(validator_id.replace("0x", ""), 16)`; raises on other ids. -/
def sortKey (x : α) : Except PyError Int :=
  match hexOfStr (removeHexMarks (validatorId x)) with
  | some key => .ok key
  | none => .error .valueError

/-- `sorted(approvals, key=...)`: the keys first, then a stable sort. -/
def sortById (xs : List α) : Except PyError (List α) := do
  let keyed ← xs.mapM fun x => return (← sortKey validatorId x, x)
  return (keyed.insertionSort fun x y => x.1 ≤ y.1).map Prod.snd

theorem sortById_perm {xs sorted} (done : sortById validatorId xs = .ok sorted) :
    sorted.Perm xs := by
  obtain ⟨keyed, mapped, returned⟩ := bind_eq_ok.mp done
  obtain rfl := pure_eq_ok.mp returned
  have plain : keyed.map Prod.snd = xs := mapM_keyed_snd mapped
  have ordered := (List.perm_insertionSort (fun x y : Int × α => x.1 ≤ y.1) keyed).map Prod.snd
  rwa [plain] at ordered

end

end MinotaurSubnet.Consensus
