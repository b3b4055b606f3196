import MinotaurSubnet.Harness.StoreAgreement

/-! # The token sidecar of several stores

Every store keeps a copy of the encrypted-token file and rewrites the whole file from it.
`purge_token` and `get_repo_token` read the file again when it has been modified since,
`create` does not. As long as nobody rewrites it from an old copy, a created token stays and a
purged one stays away.
-/

namespace MinotaurSubnet.Harness

open Library Python

structure SidecarFile where
  entries : Dict String String
  mtime : Nat

inductive TokenFate where
  | created (blob : String)
  | purged
  deriving DecidableEq

def TokenFate.blob? : TokenFate → Option String
  | .created blob => some blob
  | .purged => none

/-- Stores over one database and one sidecar. No step reads `fates`. -/
structure TokenFleet where
  db : SubmissionDb
  store : String → StoreInstance
  /-- `_tokens_mtime_ns`. -/
  seen : String → Option Nat
  file : Option SidecarFile
  fates : String → Option TokenFate

/-- Every call holds the file lock; `mtime` is what the file system stamps on a file it writes. -/
inductive TokenEvent where
  /-- A store is opened and reads the database and the sidecar, with record retention off. -/
  | start (me : String)
  | call (me : String) (op : StoreOp) (now : ℚ) (mtime : Nat)
  | getRepoToken (me submissionId : String)

def StoreOp.purges (m : StoreMemory) : StoreOp → Option String
  | .purgeToken id => some id
  | .reject id _ _ | .waitlist id _ _ _ _ _ | .adopt id => (m.get id).map fun _ => id
  | .setScreeningResult id _ passed _ _ _ => if passed then none else (m.get id).map fun _ => id
  | .setBenchmarkResult id valid _ _ => (m.get id).bind fun sub =>
    if noResurrectionStatuses.contains sub.status || valid then none else some id
  | _ => none

def StoreOp.stashes (host : StoreHost) (m : StoreMemory) : StoreOp → Option (String × String)
  | .create request id =>
    match m.capError host request (RoundId.ofRaw (stripText (request.roundId.getD "")) request.epoch) with
    | some _ => none
    | none => (request.repoToken.filter (· ≠ "")).map fun token => (id.text, token)
  | _ => none

namespace StoreMemory

def withEncTokens (m : StoreMemory) (encTokens : Dict String String) : StoreMemory :=
  { m with encTokens }

@[simp] theorem get_withEncTokens (m : StoreMemory) (encTokens : Dict String String) (id : String) :
    (m.withEncTokens encTokens).get id = m.get id := rfl

@[simp] theorem encTokens_withEncTokens (m : StoreMemory) (encTokens : Dict String String) :
    (m.withEncTokens encTokens).encTokens = encTokens := rfl

/-- `_persist_tokens` keeps the tokens of the submissions the store has. -/
def knownTokens (m : StoreMemory) : Dict String String :=
  m.encTokens.filter fun id _ => (m.get id).isSome

theorem get?_knownTokens (m : StoreMemory) (id : String) :
    m.knownTokens.get? id = if (m.get id).isSome then m.encTokens.get? id else none :=
  Dict.get?_filter_key m.encTokens (fun id => (m.get id).isSome) id

end StoreMemory

/-- What a call leaves in memory and in the database; one that does not persist leaves the
    database. -/
def Mutation.persist (ran : Mutation) (cap : Int) (me : String) (db : SubmissionDb) :
    StoreMemory × SubmissionDb :=
  match ran.result with
  | .ok (some touched) => StoreInstance.persistRecords cap me ran.state touched db
  | _ => (ran.state, db)

namespace TokenFleet

def blob? (s : TokenFleet) (id : String) : Option String := s.file.bind (·.entries.get? id)

/-- The sidecar was modified after the store had last read or written it. -/
def newer (s : TokenFleet) (me : String) : Bool :=
  s.file.any fun file => (s.seen me).all fun seen => decide (seen < file.mtime)

/-- The records a call of `me` runs on: those of the guard's reload. -/
def records (s : TokenFleet) (me : String) : StoreMemory := ((s.store me).maybeReload me s.db).memory

/-- `_maybe_reload_tokens`: the copy, and the time of the file it was read from. -/
def reloadTokens (s : TokenFleet) (me : String) : Dict String String × Option Nat :=
  match s.file with
  | some file =>
    if s.newer me then (file.entries, some file.mtime) else ((s.store me).memory.encTokens, s.seen me)
  | none => ((s.store me).memory.encTokens, s.seen me)

variable (host : StoreHost) (cap : Int)

/-- The copy a call changes; only `purge_token` reloads. -/
def copyFor (s : TokenFleet) (me : String) (op : StoreOp) : Dict String String × Option Nat :=
  if host.encryptToken.isSome ∧ (op.purges (s.records me)).isSome then s.reloadTokens me
  else ((s.store me).memory.encTokens, s.seen me)

def body (s : TokenFleet) (me : String) (op : StoreOp) (now : ℚ) : Mutation :=
  op.run host now ((s.records me).withEncTokens (s.copyFor host me op).1)

/-- Does a call rewrite the sidecar? A purge does if the copy has the token, `create` with a
    token always does; without a key there is no sidecar. -/
def rewrites (s : TokenFleet) (me : String) (op : StoreOp) : Bool :=
  host.encryptToken.isSome &&
    ((op.purges (s.records me)).any (fun id => ((s.copyFor host me op).1.get? id).isSome) ||
      (op.stashes host (s.records me)).isSome)

def fatesAfter (s : TokenFleet) (me : String) (op : StoreOp) : String → Option TokenFate :=
  match host.encryptToken, op.purges (s.records me), op.stashes host (s.records me) with
  | some _, some id, _ => Function.update s.fates id (some .purged)
  | some encrypt, none, some (id, token) =>
    Function.update s.fates id (some (.created (encrypt token)))
  | _, _, _ => s.fates

/-- A write-locked method: the guard's reload, the body with its part on the sidecar, and
    `_persist_records`. -/
def call (s : TokenFleet) (me : String) (op : StoreOp) (now : ℚ) (mtime : Nat) : TokenFleet :=
  let inst := (s.store me).maybeReload me s.db
  let persisted := (s.body host me op now).persist cap me s.db
  if s.rewrites host me op then
    { db := persisted.2
      store := Function.update s.store me
        { inst with memory := persisted.1.withEncTokens persisted.1.knownTokens }
      seen := Function.update s.seen me (some mtime)
      file := some ⟨persisted.1.knownTokens, mtime⟩
      fates := s.fatesAfter host me op }
  else
    { db := persisted.2
      store := Function.update s.store me { inst with memory := persisted.1 }
      seen := Function.update s.seen me (s.copyFor host me op).2
      file := s.file
      fates := s.fatesAfter host me op }

/-- `get_repo_token`: a token that decrypts goes to the plain copies. -/
def getRepoToken (s : TokenFleet) (me submissionId : String) : TokenFleet × Option String :=
  let inst := s.store me
  match inst.memory.tokens.get? submissionId, host.encryptToken with
  | some token, _ => (s, some token)
  | none, none => (s, none)
  | none, some _ =>
    let copy := s.reloadTokens me
    let token := (copy.1.get? submissionId).bind host.decryptToken
    let memory := inst.memory.withEncTokens copy.1
    let cached := match token with
      | some token => { memory with tokens := memory.tokens.set submissionId token }
      | none => memory
    ({ s with
        store := Function.update s.store me { inst with memory := cached }
        seen := Function.update s.seen me copy.2 }, token)

def opened (db : SubmissionDb) (file : Option SidecarFile) : StoreInstance × Option Nat :=
  let inst := (StoreInstance.load 0 db).1
  match host.encryptToken, file with
  | some _, some file => ({ inst with memory := inst.memory.withEncTokens file.entries }, some file.mtime)
  | _, _ => (inst, none)

def start (s : TokenFleet) (me : String) : TokenFleet :=
  { s with
    db := (StoreInstance.load 0 s.db).2
    store := Function.update s.store me (opened host s.db s.file).1
    seen := Function.update s.seen me (opened host s.db s.file).2 }

/-- One step, and the answer of a `get_repo_token`. -/
def step (s : TokenFleet) : TokenEvent → TokenFleet × Option String
  | .start me => (s.start host me, none)
  | .call me op now mtime => (s.call host cap me op now mtime, none)
  | .getRepoToken me submissionId => s.getRepoToken host me submissionId

def fresh (db : SubmissionDb) (file : Option SidecarFile) : TokenFleet where
  db := db
  store _ := (opened host db file).1
  seen _ := (opened host db file).2
  file := file
  fates _ := none

/-- What was created is in the sidecar, what was purged is not. -/
def KeepsFates (s : TokenFleet) : Prop := ∀ id fate, s.fates id = some fate → s.blob? id = fate.blob?

/-- Apart from `submissionId`, the copy has the tokens of known submissions as the sidecar does. -/
def OthersAgree (s : TokenFleet) (me submissionId : String) : Prop :=
  ∀ id, id ≠ submissionId → ((s.records me).get id).isSome →
    (s.store me).memory.encTokens.get? id = s.blob? id

/-- Nobody rewrites the sidecar from an old copy, and nobody takes an old copy's word that there
    is nothing to purge. -/
def InDate (s : TokenFleet) : TokenEvent → Prop
  | .call me op _ _ => host.encryptToken.isSome →
      (∀ id token, op.stashes host (s.records me) = some (id, token) → s.OthersAgree me id) ∧
        ∀ id, op.purges (s.records me) = some id → s.newer me = true ∨
          if ((s.store me).memory.encTokens.get? id).isSome then s.OthersAgree me id else s.blob? id = none
  | _ => True

end TokenFleet

end MinotaurSubnet.Harness
