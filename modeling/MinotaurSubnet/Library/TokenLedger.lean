import Mathlib.Logic.Function.Basic

/-! # Fungible tokens as exact balances

What every holder has of every token, and what every owner lets a spender take.
A transfer that is not covered fails; every other one moves exactly its amount.
-/

namespace MinotaurSubnet.Library

universe u v

/-- Balances and allowances of tokens named by `τ` and accounts named by `ι`. -/
structure TokenLedger (τ : Type u) (ι : Type v) where
  balance : τ → ι → Nat
  allowance : τ → ι → ι → Nat

namespace TokenLedger

variable {τ : Type u} {ι : Type v} [DecidableEq τ] [DecidableEq ι]

def setBalance (t : TokenLedger τ ι) (token : τ) (holder : ι) (amount : Nat) : TokenLedger τ ι :=
  { t with
    balance := Function.update t.balance token (Function.update (t.balance token) holder amount) }

def credit (t : TokenLedger τ ι) (token : τ) (holder : ι) (amount : Nat) : TokenLedger τ ι :=
  t.setBalance token holder (t.balance token holder + amount)

def transfer (t : TokenLedger τ ι) (token : τ) (source target : ι) (amount : Nat) :
    Option (TokenLedger τ ι) :=
  if t.balance token source < amount then none
  else some ((t.setBalance token source (t.balance token source - amount)).credit token target amount)

def transferFrom (t : TokenLedger τ ι) (token : τ) (spender source target : ι) (amount : Nat) :
    Option (TokenLedger τ ι) :=
  if t.allowance token source spender < amount then none
  else
    let spent := Function.update t.allowance token (Function.update (t.allowance token) source
      (Function.update (t.allowance token source) spender (t.allowance token source spender - amount)))
    { t with allowance := spent }.transfer token source target amount

theorem balance_setBalance (t : TokenLedger τ ι) (token token' : τ) (holder holder' : ι)
    (amount : Nat) :
    (t.setBalance token holder amount).balance token' holder' =
      if token' = token ∧ holder' = holder then amount else t.balance token' holder' := by
  by_cases sameToken : token' = token
  · subst sameToken
    by_cases sameHolder : holder' = holder
    · simp [setBalance, sameHolder]
    · simp [setBalance, sameHolder]
  · simp [setBalance, sameToken]

@[simp] theorem balance_credit (t : TokenLedger τ ι) (token token' : τ) (holder holder' : ι)
    (amount : Nat) :
    (t.credit token holder amount).balance token' holder' =
      t.balance token' holder' + if token' = token ∧ holder' = holder then amount else 0 := by
  unfold credit
  rw [balance_setBalance]
  split
  next same => rw [same.1, same.2]
  next => simp

theorem transfer_isSome {t : TokenLedger τ ι} {token source target amount} :
    (t.transfer token source target amount).isSome ↔ amount ≤ t.balance token source := by
  unfold transfer
  split
  next short => simp; omega
  next covered => simp; omega

/-- The source loses at most the amount of that token, and nothing of any other. -/
theorem balance_source_of_transfer {t t' : TokenLedger τ ι} {token source target amount}
    (moved : t.transfer token source target amount = some t') (token' : τ) :
    t.balance token' source ≤ t'.balance token' source + if token' = token then amount else 0 := by
  unfold transfer at moved
  split at moved
  · cases moved
  · cases moved
    rw [balance_credit, balance_setBalance]
    by_cases same : token' = token
    · subst same
      simp
      omega
    · simp [same]

end TokenLedger

end MinotaurSubnet.Library
