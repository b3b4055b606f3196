import Mathlib.Data.Finset.Card
import Mathlib.Data.Prod.Lex
import Mathlib.Data.String.Basic
import MinotaurSubnet.Library.Dict
import MinotaurSubnet.Library.SortedBy

/-! # Round-entry rotation

At round close the leader benches the candidates that were benched longest ago. The
ledger remembers, per hotkey, when a submission of that hotkey was last selected. With
an actor resolver the seniority is the actor's and the first pass seats one submission
per actor.

Timestamps are any linear order with a zero. The salted tie-break is a parameter: no
property of the hash is used.
-/

namespace MinotaurSubnet.Harness

open Library

structure Candidate where
  submissionId : String
  hotkey : String
  deriving DecidableEq

/-- `actor_of(hotkey) or hotkey`; without a resolver every hotkey stands for itself. -/
def actorKey (actorOf : Option (String → String)) (hotkey : String) : String :=
  match actorOf with
  | none => hotkey
  | some resolve => if resolve hotkey = "" then hotkey else resolve hotkey

section

variable {τ : Type} [LinearOrder τ] [Zero τ]

/-- The hotkey ledger aggregated to the latest positive selection of each actor. -/
def actorLastSelected (lastSelected : Dict String τ) (resolve : String → String) :
    Dict String τ :=
  lastSelected.entries.foldl
    (fun out entry =>
      let actor := actorKey (some resolve) entry.1
      if (out.get? actor).getD 0 < entry.2 then out.set actor entry.2 else out)
    Dict.empty

variable (sha256Hex : String → String)

def rotationSortKey (hotkey roundId : String) (lastSelected : Dict String τ) : τ ×ₗ String :=
  toLex ((lastSelected.get? hotkey).getD 0, sha256Hex (hotkey ++ ":" ++ roundId))

def actorRotationSortKey (hotkey roundId : String) (actorLast : Dict String τ)
    (resolve : String → String) : τ ×ₗ String ×ₗ String :=
  let actor := actorKey (some resolve) hotkey
  toLex ((actorLast.get? actor).getD 0,
    toLex (sha256Hex (actor ++ ":" ++ roundId), sha256Hex (hotkey ++ ":" ++ roundId)))

/-- What the first pass over the ordered candidates has decided so far. -/
structure Slate where
  selected : List Candidate
  overflow : List Candidate
  seatedActors : List String
  deriving DecidableEq

def Slate.empty : Slate := ⟨[], [], []⟩

def Slate.offer (resolve : String → String) (slots : ℕ) (slate : Slate) (sub : Candidate) :
    Slate :=
  let actor := actorKey (some resolve) sub.hotkey
  if slate.selected.length < slots ∧ actor ∉ slate.seatedActors then
    { slate with
      selected := slate.selected ++ [sub]
      seatedActors := slate.seatedActors ++ [actor] }
  else { slate with overflow := slate.overflow ++ [sub] }

def fillSeats (slots : ℕ) (selected : List Candidate) :
    List Candidate → List Candidate × List Candidate
  | [] => (selected, [])
  | sub :: rest =>
    if selected.length < slots then fillSeats slots (selected ++ [sub]) rest
    else (selected, sub :: rest)

def selectRotationSlate (candidates : List Candidate) (slots : Int)
    (lastSelected : Dict String τ) (roundId : String) (actorOf : Option (String → String)) :
    List Candidate × List Candidate :=
  let slots := slots.toNat
  match actorOf with
  | none =>
    let ordered :=
      sortedBy (fun s => rotationSortKey sha256Hex s.hotkey roundId lastSelected) candidates
    (ordered.take slots, ordered.drop slots)
  | some resolve =>
    let actorLast := actorLastSelected lastSelected resolve
    let ordered :=
      sortedBy (fun s => actorRotationSortKey sha256Hex s.hotkey roundId actorLast resolve)
        candidates
    let slate := ordered.foldl (Slate.offer resolve slots) Slate.empty
    fillSeats slots slate.selected slate.overflow

end

/-- What the file system does to one close: whether each of the two loads succeeds and
    whether the replacement of the file lands. Failures are logged and swallowed. -/
structure LedgerAccess where
  slateLoads : Bool
  markLoads : Bool
  markLands : Bool
  deriving DecidableEq

def LedgerAccess.sound : LedgerAccess := ⟨true, true, true⟩

section

variable {τ : Type}

/-- `RotationLedger.load`: an unreadable file is an empty ledger. -/
def load (readable : Bool) (file : Dict String τ) : Dict String τ :=
  if readable then file else Dict.empty

/-- `RotationLedger.mark_selected`; empty hotkeys leave no mark. -/
def markSelected (access : LedgerAccess) (file : Dict String τ) (hotkeys : List String) (ts : τ) :
    Dict String τ :=
  let data := hotkeys.foldl
    (fun data hotkey => if hotkey = "" then data else data.set hotkey ts)
    (load access.markLoads file)
  if access.markLands then data else file

/-- The inputs of one close. -/
structure RotationRound (τ : Type) where
  roundId : String
  candidates : List Candidate
  time : τ
  access : LedgerAccess

variable [LinearOrder τ] [Zero τ] (sha256Hex : String → String) (slots : Int)
  (actorOf : Option (String → String))

def RotationRound.selected (round : RotationRound τ) (file : Dict String τ) : List Candidate :=
  (selectRotationSlate sha256Hex round.candidates slots (load round.access.slateLoads file)
    round.roundId actorOf).1

/-- The ledger step of `apply_rotation_slate`: the ledger is touched only if somebody is
    selected. -/
def RotationRound.apply (round : RotationRound τ) (file : Dict String τ) : Dict String τ :=
  let selected := round.selected sha256Hex slots actorOf file
  if selected = [] then file
  else markSelected round.access file (selected.map Candidate.hotkey) round.time

/-- The ledger before round `i` of a run. -/
def ledgerBefore (rounds : ℕ → RotationRound τ) (initial : Dict String τ) : ℕ → Dict String τ
  | 0 => initial
  | i + 1 => (rounds i).apply sha256Hex slots actorOf (ledgerBefore rounds initial i)

end

end MinotaurSubnet.Harness
