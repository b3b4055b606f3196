import MinotaurSubnet.Library.AbiWords
import MinotaurSubnet.Relayer.AdminCalls

/-! # The contents that are hashed for a wrapper

The leader's wrapper signs one 32-byte hash, of a plan, a deployment, the finalization of a champion or
a contract call. The hash of a plan is over digests, that of a call over JSON, and those of a deployment
and of a finalization both over two byte strings.
-/

namespace MinotaurSubnet.Relayer

open Library Python Consensus Shared

inductive WrappedRequest where
  | plan (plan : ExecutionPlan)
  | deploy (bytecode constructorArgs : Value)
  | finalize (roundId candidateSubmissionId : String)
  | call (request : CallRequest)

/-- A number that a word holds. -/
abbrev Uint256 : Type := { i : Int // 0 ≤ i ∧ i < 2 ^ 256 }

theorem Uint256.word_inj {i j : Uint256} (same : abiWord i.1.toNat = abiWord j.1.toNat) : i = j := by
  obtain ⟨positive, small⟩ := i.2
  obtain ⟨positive', small'⟩ := j.2
  have numbers : i.1.toNat = j.1.toNat := abiWord_inj (by omega) (by omega) same
  exact Subtype.ext (by omega)

structure PlanCall where
  target : List UInt8
  target_length : target.length = 20
  value : Uint256
  data : List UInt8

/-- The content a hash is over; the JSON of a call is that of an object. -/
inductive Bound where
  | plan (calls : List PlanCall) (deadline nonce : Uint256) (metadata : List UInt8)
  | deploy (code : List UInt8) (arguments : String)
  | finalize (roundId candidate : String)
  | call (canonical : String) (object : ∃ rest, canonical = "\x7b" ++ rest)

section

variable (keccak : List UInt8 → List UInt8)

def PlanCall.text (call : PlanCall) : List UInt8 :=
  List.replicate 12 0 ++ call.target ++ abiWord call.value.1.toNat ++ keccak call.data

def packedCalls (calls : List PlanCall) : List UInt8 :=
  (calls.map fun call => keccak (call.text keccak)).flatten

inductive RequestKind where
  | plan
  | deploy
  | finalize
  | call
  deriving DecidableEq

def WrappedRequest.kind : WrappedRequest → RequestKind
  | .plan _ => .plan
  | .deploy _ _ => .deploy
  | .finalize _ _ => .finalize
  | .call _ => .call

namespace Bound

def kind : Bound → RequestKind
  | .plan _ _ _ _ => .plan
  | .deploy _ _ => .deploy
  | .finalize _ _ => .finalize
  | .call _ _ => .call

def text : Bound → List UInt8
  | .plan calls deadline nonce metadata =>
    keccak (packedCalls keccak calls) ++ abiWord deadline.1.toNat ++ abiWord nonce.1.toNat ++
      keccak metadata
  | .deploy code arguments => abiPair code (utf8 arguments)
  | .finalize roundId candidate => abiPair (utf8 roundId) (utf8 candidate)
  | .call canonical _ => utf8 canonical

def parts : Bound → List (List UInt8)
  | .plan calls _ _ metadata =>
    calls.flatMap (fun call => [call.data, call.text keccak]) ++ [packedCalls keccak calls, metadata]
  | _ => []

def plain : Bound → List (List UInt8)
  | .plan _ _ _ _ => []
  | b => [b.text keccak]

def hashed (b : Bound) : List (List UInt8) := b.parts keccak ++ [b.text keccak]

end Bound

/-- The digests of two contents do not coincide by accident: different texts have different digests, and no
    digest is where a plain text begins. A text fits in memory. -/
structure Collisionless (b b' : Bound) : Prop where
  size : ∀ text ∈ b.hashed keccak ++ b'.hashed keccak, text.length < 2 ^ 63
  injective : ∀ text ∈ b.hashed keccak ++ b'.hashed keccak, ∀ text' ∈ b.hashed keccak ++ b'.hashed keccak,
    keccak text = keccak text' → text = text'
  fresh : ∀ text ∈ b.hashed keccak ++ b'.hashed keccak, ∀ plain ∈ b.plain keccak ++ b'.plain keccak,
    ¬ keccak text <+: plain

end

/-- A deployment and a finalization of the same two byte strings. -/
def SamePair (code : List UInt8) (arguments roundId candidate : String) : Prop :=
  code = utf8 roundId ∧ arguments = candidate

section

variable {keccak : List UInt8 → List UInt8}

/-- A content is what it is hashed from, except that a deployment and a finalization may be the same pair. -/
inductive Indistinct : Bound → Bound → Prop where
  | same (b : Bound) : Indistinct b b
  | deployed {code : List UInt8} {arguments roundId candidate : String}
      (same : SamePair code arguments roundId candidate) :
      Indistinct (.deploy code arguments) (.finalize roundId candidate)
  | finalized {code : List UInt8} {arguments roundId candidate : String}
      (same : SamePair code arguments roundId candidate) :
      Indistinct (.finalize roundId candidate) (.deploy code arguments)

theorem Indistinct.text_eq {b b'} (indistinct : Indistinct b b') :
    b.text keccak = b'.text keccak := by
  cases indistinct with
  | same => rfl
  | deployed same => rw [Bound.text, Bound.text, same.1, same.2]
  | finalized same => rw [Bound.text, Bound.text, same.1, same.2]

theorem byteArray_loop (bytes : ByteArray) (i : Nat) (read : List UInt8) :
    ByteArray.toList.loop bytes i read = read.reverse ++ bytes.data.toList.drop i := by
  fun_induction ByteArray.toList.loop bytes i read with
  | case1 i read more ih =>
    have inside : i < bytes.data.toList.length := by simpa using more
    have here : bytes.get! i = bytes.data.toList[i] := by
      have inside' : i < bytes.data.size := by simpa using more
      show bytes.data[i]! = _
      rw [getElem!_pos bytes.data i inside', Array.getElem_toList]
    rw [ih, List.reverse_cons, List.append_assoc, here, List.drop_eq_getElem_cons inside]
    rfl
  | case2 i read done =>
    have past : bytes.data.toList.length ≤ i := by simpa using done
    rw [List.drop_eq_nil_of_le past, List.append_nil]

theorem utf8_eq_data (s : String) : utf8 s = s.toUTF8.data.toList := by
  rw [utf8, ByteArray.toList, byteArray_loop]
  rfl

theorem utf8_append (s t : String) : utf8 (s ++ t) = utf8 s ++ utf8 t := by
  simp [utf8_eq_data]

theorem utf8_inj {s t} (same : utf8 s = utf8 t) : s = t := by
  rw [utf8_eq_data, utf8_eq_data] at same
  have bytes : s.toUTF8 = t.toUTF8 := ByteArray.ext (Array.toList_inj.mp same)
  exact String.toByteArray_inj.mp bytes

theorem head_utf8_object {canonical} (object : ∃ rest, canonical = "\x7b" ++ rest) :
    (utf8 canonical).head? = some 0x7b := by
  obtain ⟨rest, rfl⟩ := object
  have brace : utf8 "\x7b" = [0x7b] := by
    rw [utf8_eq_data]
    decide
  rw [utf8_append, brace]
  rfl

theorem map_inj_of_mem {α β : Type} {f g : α → β} {xs ys : List α}
    (inj : ∀ x ∈ xs, ∀ y ∈ ys, f x = g y → x = y) (same : xs.map f = ys.map g) : xs = ys := by
  induction xs generalizing ys with
  | nil => exact (List.map_eq_nil_iff.mp same.symm).symm
  | cons x xs ih =>
    obtain ⟨y, ys, rfl, here, later⟩ := List.map_eq_cons_iff.mp same.symm
    rw [inj x List.mem_cons_self y List.mem_cons_self here.symm,
      ih (fun x inside y inside' => inj x (List.mem_cons_of_mem _ inside) y
        (List.mem_cons_of_mem _ inside')) later.symm]

variable {b b' : Bound}

theorem Collisionless.symm (sound : Collisionless keccak b b') : Collisionless keccak b' b := by
  have swap {α : Type} {xs ys : List α} {x : α} (inside : x ∈ ys ++ xs) : x ∈ xs ++ ys :=
    List.mem_append.mpr (List.mem_append.mp inside).symm
  exact ⟨fun text inside => sound.size text (swap inside),
    fun text inside text' inside' => sound.injective text (swap inside) text' (swap inside'),
    fun text inside plain inside' => sound.fresh text (swap inside) plain (swap inside')⟩

theorem PlanCall.text_inj {call call' : PlanCall}
    (same : call.text keccak = call'.text keccak) :
    call.target = call'.target ∧ call.value = call'.value ∧ keccak call.data = keccak call'.data := by
  simp only [PlanCall.text, List.append_assoc, List.append_cancel_left_eq] at same
  obtain ⟨targets, rest⟩ := List.append_inj same (by rw [call.target_length, call'.target_length])
  obtain ⟨values, digests⟩ := List.append_inj rest (by simp)
  exact ⟨targets, Uint256.word_inj values, digests⟩

theorem plan_inj (length : ∀ text, (keccak text).length = 32) {calls calls' : List PlanCall}
    {deadline nonce deadline' nonce' : Uint256} {metadata metadata' : List UInt8}
    (sound : Collisionless keccak (.plan calls deadline nonce metadata)
      (.plan calls' deadline' nonce' metadata'))
    (same : (Bound.plan calls deadline nonce metadata).text keccak =
      (Bound.plan calls' deadline' nonce' metadata').text keccak) :
    Bound.plan calls deadline nonce metadata = Bound.plan calls' deadline' nonce' metadata' := by
  have first {text : List UInt8} (inside : text ∈ (Bound.plan calls deadline nonce metadata).parts keccak) :
      text ∈ (Bound.plan calls deadline nonce metadata).hashed keccak ++
        (Bound.plan calls' deadline' nonce' metadata').hashed keccak :=
    List.mem_append_left _ (List.mem_append_left _ inside)
  have second {text : List UInt8}
      (inside : text ∈ (Bound.plan calls' deadline' nonce' metadata').parts keccak) :
      text ∈ (Bound.plan calls deadline nonce metadata).hashed keccak ++
        (Bound.plan calls' deadline' nonce' metadata').hashed keccak :=
    List.mem_append_right _ (List.mem_append_left _ inside)
  have callPart {calls : List PlanCall} {deadline nonce : Uint256} {metadata text : List UInt8}
      {call : PlanCall} (listed : call ∈ calls) (part : text = call.data ∨ text = call.text keccak) :
      text ∈ (Bound.plan calls deadline nonce metadata).parts keccak :=
    List.mem_append_left _ (List.mem_flatMap.mpr ⟨call, listed, by simpa using part⟩)
  simp only [Bound.text, List.append_assoc] at same
  obtain ⟨packed, rest⟩ := List.append_inj same (by rw [length, length])
  obtain ⟨deadlines, rest⟩ := List.append_inj rest (by simp)
  obtain ⟨nonces, metadatas⟩ := List.append_inj rest (by simp)
  have metadata_eq : metadata = metadata' :=
    sound.injective _ (first (by simp [Bound.parts])) _ (second (by simp [Bound.parts])) metadatas
  have packed_eq : packedCalls keccak calls = packedCalls keccak calls' :=
    sound.injective _ (first (by simp [Bound.parts])) _ (second (by simp [Bound.parts])) packed
  have digests : calls.map (fun call => keccak (call.text keccak)) =
      calls'.map fun call => keccak (call.text keccak) := by
    refine @flatten_inj_of_length _ 32 (by decide) _ _ ?_ ?_ packed_eq
    · intro digest listed
      obtain ⟨call, -, rfl⟩ := List.mem_map.mp listed
      exact length _
    · intro digest listed
      obtain ⟨call, -, rfl⟩ := List.mem_map.mp listed
      exact length _
  have calls_eq : calls = calls' := by
    refine map_inj_of_mem (fun call listed call' listed' digest => ?_) digests
    have texts := sound.injective _ (first (callPart listed (.inr rfl))) _
      (second (callPart listed' (.inr rfl))) digest
    obtain ⟨target, value, data⟩ := PlanCall.text_inj texts
    have data := sound.injective _ (first (callPart listed (.inl rfl))) _
      (second (callPart listed' (.inl rfl))) data
    obtain ⟨_, _, _, _⟩ := call
    obtain ⟨_, _, _, _⟩ := call'
    obtain rfl := target
    obtain rfl := value
    obtain rfl := data
    rfl
  rw [calls_eq, metadata_eq, Uint256.word_inj deadlines, Uint256.word_inj nonces]

theorem plan_apart {calls deadline nonce metadata}
    (sound : Collisionless keccak (.plan calls deadline nonce metadata) b)
    (plain : b.plain keccak = [b.text keccak]) :
    (Bound.plan calls deadline nonce metadata).text keccak ≠ b.text keccak := by
  intro same
  have packed : packedCalls keccak calls ∈ (Bound.plan calls deadline nonce metadata).hashed keccak :=
    List.mem_append_left _ (by simp [Bound.parts])
  refine sound.fresh _ (List.mem_append_left _ packed) (b.text keccak)
    (List.mem_append_right _ (by simp [plain])) ?_
  rw [← same, Bound.text, List.append_assoc, List.append_assoc]
  exact List.prefix_append _ _

theorem pair_ne_object {a c canonical} (object : ∃ rest, canonical = "\x7b" ++ rest) :
    abiPair a c ≠ utf8 canonical := by
  intro same
  have heads := head_abiPair a c
  rw [same, head_utf8_object object] at heads
  exact absurd heads (by decide)

theorem pair_inj {a c d e} (small : (abiPair a c).length < 2 ^ 63)
    (small' : (abiPair d e).length < 2 ^ 63) (same : abiPair a c = abiPair d e) :
    a = d ∧ c = e := by
  have bounds := length_le_abiPair a c
  have bounds' := length_le_abiPair d e
  exact abiPair_inj (by omega) (by omega) (by omega) (by omega) same

theorem indistinct_of_digest (length : ∀ text, (keccak text).length = 32)
    (sound : Collisionless keccak b b') (same : keccak (b.text keccak) = keccak (b'.text keccak)) :
    Indistinct b b' := by
  have here : b.text keccak ∈ b.hashed keccak ++ b'.hashed keccak :=
    List.mem_append_left _ (List.mem_append_right _ List.mem_cons_self)
  have there : b'.text keccak ∈ b.hashed keccak ++ b'.hashed keccak :=
    List.mem_append_right _ (List.mem_append_right _ List.mem_cons_self)
  have texts := sound.injective _ here _ there same
  have small := sound.size _ here
  have small' := sound.size _ there
  cases b with
  | plan calls deadline nonce metadata =>
    cases b' with
    | plan calls' deadline' nonce' metadata' =>
      rw [plan_inj length sound texts]
      exact .same _
    | deploy | finalize | call => exact absurd texts (plan_apart sound rfl)
  | deploy code arguments =>
    cases b' with
    | plan => exact absurd texts.symm (plan_apart sound.symm rfl)
    | deploy code' arguments' =>
      obtain ⟨codes, texts⟩ := pair_inj small small' texts
      rw [codes, utf8_inj texts]
      exact .same _
    | finalize roundId candidate =>
      obtain ⟨codes, texts⟩ := pair_inj small small' texts
      exact .deployed ⟨codes, utf8_inj texts⟩
    | call canonical object => exact absurd texts (pair_ne_object object)
  | finalize roundId candidate =>
    cases b' with
    | plan => exact absurd texts.symm (plan_apart sound.symm rfl)
    | deploy code arguments =>
      obtain ⟨codes, texts⟩ := pair_inj small small' texts
      exact .finalized ⟨codes.symm, (utf8_inj texts).symm⟩
    | finalize roundId' candidate' =>
      obtain ⟨rounds, candidates⟩ := pair_inj small small' texts
      rw [utf8_inj rounds, utf8_inj candidates]
      exact .same _
    | call canonical object => exact absurd texts (pair_ne_object object)
  | call canonical object =>
    cases b' with
    | plan => exact absurd texts.symm (plan_apart sound.symm rfl)
    | deploy | finalize => exact absurd texts.symm (pair_ne_object object)
    | call canonical' object' =>
      obtain rfl : canonical = canonical' := utf8_inj texts
      exact .same _

end

end MinotaurSubnet.Relayer
