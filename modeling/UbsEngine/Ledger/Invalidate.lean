import UbsEngine.Ledger.ExportCallback

/-!
# The invalidation of decoders

The memory that a node takes from another is reached through decoders, and the ledger says of each
decoder whether it is valid. A request to change this reads the object, changes the decoders in
the hardware as far as the transition of their states is allowed, on a copy of the object, and
only then takes the new states over into the object that the ledger has by that time: between the
two, anything may have happened to it.

A decoder that is invalid for good stays so, whatever the requests (`permanent_kept`). But a
request takes over the target state also for a decoder that it has *found* in that state, and not
put there: `UbsEngine.Ledger.requests_proper_iff` says exactly when the requests that the check of
the transitions turns down leave the ledger alone.
-/

namespace UbsEngine

namespace Ledger

open Mem Debt

def DECODER_PERMANENT_INVALID : UbseDecoderState := ⟨0⟩
def DECODER_TEMP_INVALID : UbseDecoderState := ⟨1⟩
def DECODER_VALID : UbseDecoderState := ⟨2⟩

def isValidDecoderStateTransition (src dst : UbseDecoderState) : Bool :=
  if src = DECODER_NONE then true
  else if src = DECODER_TEMP_INVALID then
    dst = DECODER_VALID || dst = DECODER_PERMANENT_INVALID
  else if src = DECODER_VALID then
    dst = DECODER_TEMP_INVALID || dst = DECODER_PERMANENT_INVALID
  else false

/-! ### The hardware -/

/-- The answers to one request. -/
structure Hardware where
  getChipAndDieId : uint32_t
  /-- The answer for the decoder at each position. -/
  invalidateDecoderEntry : Nat → uint32_t

/-- The loop over the decoders. It ends at the first that the hardware fails for. -/
def invalidateEntries (hw : Nat → uint32_t) (targetState : UbseDecoderState) :
    Nat → List UbseMamiMemImportResult → uint32_t × List UbseMamiMemImportResult
  | _, [] => (UBSE_OK, [])
  | i, d :: ds =>
    if !isValidDecoderStateTransition d.state targetState then
      let rest := invalidateEntries hw targetState (i + 1) ds
      (rest.1, d :: rest.2)
    else if hw i ≠ UBSE_OK then (hw i, d :: ds)
    else
      let rest := invalidateEntries hw targetState (i + 1) ds
      (rest.1, { d with state := targetState } :: rest.2)

def agentInvalidateDecoderEntry (hw : Hardware) (status : UbseMemImportStatus)
    (targetState : UbseDecoderState) : uint32_t × UbseMemImportStatus :=
  if hw.getChipAndDieId ≠ UBSE_OK then (hw.getChipAndDieId, status)
  else
    let entries := invalidateEntries hw.invalidateDecoderEntry targetState 0 status.decoderResult
    (entries.1, { status with decoderResult := entries.2 })

/-! ### The requests -/

/-- The imports of a kind. -/
structure ImportKind (I : Type) where
  status : I → UbseMemImportStatus
  withStatus : I → UbseMemImportStatus → I
  status_withStatus : ∀ obj s, status (withStatus obj s) = s
  withStatus_status : ∀ obj, withStatus obj (status obj) = obj

/-- A request that the hardware has dealt with, and that is still to be written back. -/
structure Invalidation where
  nodeId : string
  name : string
  targetState : UbseDecoderState
  /-- The status of the object when it was read. -/
  status : UbseMemImportStatus
  hw : Hardware
  done : (agentInvalidateDecoderEntry hw status targetState).1 = UBSE_OK

/-- The copy of the status after the hardware has dealt with it. -/
def Invalidation.copyStatus (r : Invalidation) : UbseMemImportStatus :=
  (agentInvalidateDecoderEntry r.hw r.status r.targetState).2

def absorbOne (targetState : UbseDecoderState) (invalidated latestDec : UbseMamiMemImportResult) :
    UbseMamiMemImportResult :=
  if latestDec.marId = invalidated.marId ∧ latestDec.handle = invalidated.handle ∧
      isValidDecoderStateTransition latestDec.state targetState then
    { latestDec with state := targetState }
  else latestDec

/-- The loops that take the states of the copy over. -/
def absorbEntries (targetState : UbseDecoderState) (copy latest : List UbseMamiMemImportResult) :
    List UbseMamiMemImportResult :=
  copy.foldl (fun latest invalidated =>
    if invalidated.state ≠ targetState then latest
    else latest.map (absorbOne targetState invalidated)) latest

section Requests

variable {I : Type} (k : ImportKind I)

/-- The change that is given to the ledger. An object that is destroyed is not written back. -/
def absorbStatus (r : Invalidation) (latest : I) : Bool × I :=
  if (k.status latest).state = UBSE_MEM_IMPORT_DESTROYED then (false, latest)
  else
    (true, k.withStatus latest { k.status latest with
      decoderResult :=
        absorbEntries r.targetState r.copyStatus.decoderResult (k.status latest).decoderResult })

/-- The ledger of a kind of imports, and the requests between the hardware and the ledger. -/
structure AgentImports (I : Type) where
  ledger : UbseMemTypeDebtMap string string I
  inFlight : List Invalidation

inductive ImportEvent (I : Type) where
  /-- A request comes, and the hardware deals with it. -/
  | invalidate (nodeId name : string) (targetState : UbseDecoderState) (hw : Hardware)
  /-- A request, by its position, is written back. -/
  | writeBack (i : Nat)
  /-- Something else writes the ledger. -/
  | other (ledger : UbseMemTypeDebtMap string string I)

/-- `AgentInvalidateImportDebtHelper`, in its two parts, beside everything else. -/
def importStep (s : AgentImports I) : ImportEvent I → AgentImports I
  | .invalidate nodeId name targetState hw =>
    match s.ledger.getResource nodeId name with
    | none => s
    | some obj =>
      if h : (agentInvalidateDecoderEntry hw (k.status obj) targetState).1 = UBSE_OK then
        { s with inFlight := s.inFlight ++ [⟨nodeId, name, targetState, k.status obj, hw, h⟩] }
      else s
  | .writeBack i =>
    match s.inFlight[i]? with
    | none => s
    | some r =>
      { ledger := (s.ledger.updateResource r.nodeId r.name (some (absorbStatus k r))).2
        inFlight := s.inFlight.eraseIdx i }
  | .other ledger => { s with ledger := ledger }

end Requests

/-! ### The kinds -/

def borrowImportKind {Req : Type} : ImportKind (ImportObj Req) where
  status obj := obj.base.status
  withStatus obj status := { obj with base.status := status }
  status_withStatus _ _ := rfl
  withStatus_status _ := rfl

def fdImportKind : ImportKind UbseMemFdBorrowImportObj := borrowImportKind
def numaImportKind : ImportKind UbseMemNumaBorrowImportObj := borrowImportKind
def addrImportKind : ImportKind UbseMemAddrBorrowImportObj := borrowImportKind

def shareImportKind : ImportKind UbseMemShareBorrowImportObj where
  status obj := obj.base.status
  withStatus obj status := { obj with base.status := status }
  status_withStatus _ _ := rfl
  withStatus_status _ := rfl

/-! ### What is asked of the requests -/

section Spec

variable {I : Type} (k : ImportKind I)

/-- An import of the ledger has this decoder at this position. -/
def DecoderAt (L : UbseMemTypeDebtMap string string I) (nodeId name : string) (i : Nat)
    (d : UbseMamiMemImportResult) : Prop :=
  ∃ obj, L.getResource nodeId name = some obj ∧ (k.status obj).decoderResult[i]? = some d

/-- Decoders that are invalid for good stay as they are. -/
def KeepsPermanent (L L' : UbseMemTypeDebtMap string string I) : Prop :=
  ∀ nodeId name i d, d.state = DECODER_PERMANENT_INVALID → DecoderAt k L nodeId name i d →
    DecoderAt k L' nodeId name i d

/-- The check of the transitions turns a request down: for every decoder. -/
def Invalidation.Rejected (r : Invalidation) : Prop :=
  ∀ d ∈ r.status.decoderResult, isValidDecoderStateTransition d.state r.targetState = false

instance (r : Invalidation) : Decidable r.Rejected :=
  inferInstanceAs (Decidable (∀ d ∈ r.status.decoderResult,
    isValidDecoderStateTransition d.state r.targetState = false))

def ImportEvent.IsRequest : ImportEvent I → Prop
  | .other _ => False
  | _ => True

/-- **What is asked of a request**: it does not touch what is invalid for good, and nothing at
all if the check turns it down. -/
structure RequestProper (s : AgentImports I) (e : ImportEvent I) : Prop where
  permanent : e.IsRequest → KeepsPermanent k s.ledger (importStep k s e).ledger
  rejected : ∀ i r, e = .writeBack i → s.inFlight[i]? = some r → r.Rejected →
    ∀ nodeId name, (importStep k s e).ledger.getResource nodeId name =
      s.ledger.getResource nodeId name

/-- Where a decoder was in the target state already, the ledger does not have it in a state from
which the target state can be reached. -/
def Invalidation.NothingStale (r : Invalidation) (latest : I) : Prop :=
  ∀ d ∈ r.status.decoderResult, d.state = r.targetState →
    ∀ latestDec ∈ (k.status latest).decoderResult,
      latestDec.marId = d.marId → latestDec.handle = d.handle →
        isValidDecoderStateTransition latestDec.state r.targetState = false

/-- **When a request that is turned down is harmless**: no decoder that it has found in the target
state has left this state since. -/
def RejectedNotStale (s : AgentImports I) (e : ImportEvent I) : Prop :=
  ∀ i r, e = .writeBack i → s.inFlight[i]? = some r → r.Rejected →
    ∀ latest, s.ledger.getResource r.nodeId r.name = some latest →
      (k.status latest).state ≠ UBSE_MEM_IMPORT_DESTROYED → r.NothingStale k latest

end Spec

/-! ### The states -/

theorem not_valid_of_permanent (dst : UbseDecoderState) :
    isValidDecoderStateTransition DECODER_PERMANENT_INVALID dst = false := rfl

/-- A transition to the same state is allowed for the initial state only. -/
theorem valid_self_iff (state : UbseDecoderState) :
    isValidDecoderStateTransition state state = true ↔ state = DECODER_NONE := by
  rw [isValidDecoderStateTransition]
  split
  next h => exact iff_of_true rfl h
  next hnone =>
    refine iff_of_false ?_ hnone
    split
    next h => subst h; decide
    next =>
      split
      next h => subst h; decide
      next => exact Bool.false_ne_true

/-! ### The loops -/

section Loops

variable {targetState : UbseDecoderState} {hw : Nat → uint32_t}

/-- A request that is turned down does nothing to the copy. -/
theorem invalidateEntries_of_rejected {ds : List UbseMamiMemImportResult}
    (h : ∀ d ∈ ds, isValidDecoderStateTransition d.state targetState = false) (i : Nat) :
    invalidateEntries hw targetState i ds = (UBSE_OK, ds) := by
  induction ds generalizing i with
  | nil => rfl
  | cons d ds ih =>
    rw [invalidateEntries, h d List.mem_cons_self]
    rw [if_pos Bool.not_false, ih fun d hd => h d (List.mem_cons_of_mem _ hd)]

theorem copyStatus_of_rejected {r : Invalidation} (h : r.Rejected) :
    r.copyStatus.decoderResult = r.status.decoderResult := by
  rw [Invalidation.copyStatus, agentInvalidateDecoderEntry]
  split
  · rfl
  · dsimp only
    rw [invalidateEntries_of_rejected h]

/-- What the loops make of a decoder of the ledger. -/
def absorbDec (targetState : UbseDecoderState) (copy : List UbseMamiMemImportResult)
    (latestDec : UbseMamiMemImportResult) : UbseMamiMemImportResult :=
  if (∃ d ∈ copy, d.state = targetState ∧ latestDec.marId = d.marId ∧ latestDec.handle = d.handle) ∧
      isValidDecoderStateTransition latestDec.state targetState then
    { latestDec with state := targetState }
  else latestDec

theorem absorbDec_nil (latestDec : UbseMamiMemImportResult) :
    absorbDec targetState [] latestDec = latestDec :=
  if_neg fun h => by
    obtain ⟨⟨d, hd, -⟩, -⟩ := h
    nomatch hd

/-- A state that is taken over twice is taken over. -/
theorem absorbDec_set (copy : List UbseMamiMemImportResult) (latestDec : UbseMamiMemImportResult) :
    absorbDec targetState copy { latestDec with state := targetState } =
      { latestDec with state := targetState } := by
  rw [absorbDec]
  split <;> rfl

theorem absorbDec_cons (d : UbseMamiMemImportResult) (copy : List UbseMamiMemImportResult)
    (latestDec : UbseMamiMemImportResult) :
    absorbDec targetState (d :: copy) latestDec =
      absorbDec targetState copy
        (if d.state ≠ targetState then latestDec else absorbOne targetState d latestDec) := by
  by_cases hd : d.state = targetState
  · rw [if_neg (not_not_intro hd), absorbOne]
    split
    next hone =>
      rw [absorbDec_set, absorbDec, if_pos ⟨⟨d, List.mem_cons_self, hd, hone.1, hone.2.1⟩, hone.2.2⟩]
    next hone =>
      rw [absorbDec, absorbDec]
      refine if_congr ⟨?_, ?_⟩ rfl rfl
      · rintro ⟨⟨d', hd', hstate, hmar, hhandle⟩, hvalid⟩
        rcases List.mem_cons.mp hd' with rfl | hd'
        · exact absurd ⟨hmar, hhandle, hvalid⟩ hone
        · exact ⟨⟨d', hd', hstate, hmar, hhandle⟩, hvalid⟩
      · rintro ⟨⟨d', hd', h⟩, hvalid⟩
        exact ⟨⟨d', List.mem_cons_of_mem _ hd', h⟩, hvalid⟩
  · rw [if_pos hd, absorbDec, absorbDec]
    refine if_congr ⟨?_, ?_⟩ rfl rfl
    · rintro ⟨⟨d', hd', hstate, h⟩, hvalid⟩
      rcases List.mem_cons.mp hd' with rfl | hd'
      · exact absurd hstate hd
      · exact ⟨⟨d', hd', hstate, h⟩, hvalid⟩
    · rintro ⟨⟨d', hd', h⟩, hvalid⟩
      exact ⟨⟨d', List.mem_cons_of_mem _ hd', h⟩, hvalid⟩

theorem absorbEntries_eq (copy latest : List UbseMamiMemImportResult) :
    absorbEntries targetState copy latest = latest.map (absorbDec targetState copy) := by
  induction copy generalizing latest with
  | nil =>
    have hid : absorbDec targetState [] = id := funext absorbDec_nil
    rw [hid, List.map_id]
    rfl
  | cons d copy ih =>
    rw [funext (absorbDec_cons d copy)]
    refine (ih _).trans ?_
    by_cases hd : d.state = targetState
    · simp only [hd, ne_eq, not_true_eq_false, if_false, List.map_map]
      rfl
    · simp only [hd, ne_eq, not_false_eq_true, if_true]

end Loops

/-! ### One step -/

section Step

variable {I : Type} {k : ImportKind I} {s : AgentImports I} {r : Invalidation}

/-- The object that a request leaves in the ledger. -/
def written (k : ImportKind I) (r : Invalidation) (latest : I) : I :=
  if (absorbStatus k r latest).1 then (absorbStatus k r latest).2 else latest

theorem written_of_destroyed {latest : I}
    (h : (k.status latest).state = UBSE_MEM_IMPORT_DESTROYED) : written k r latest = latest := by
  rw [written, absorbStatus, if_pos h]
  rfl

theorem written_eq {latest : I} (h : (k.status latest).state ≠ UBSE_MEM_IMPORT_DESTROYED) :
    written k r latest = k.withStatus latest { k.status latest with
      decoderResult := (k.status latest).decoderResult.map
        (absorbDec r.targetState r.copyStatus.decoderResult) } := by
  rw [written, absorbStatus, if_neg h, if_pos rfl, absorbEntries_eq]

theorem getResource_writeBack {i : Nat} (hr : s.inFlight[i]? = some r) (nodeId name : string) :
    (importStep k s (.writeBack i)).ledger.getResource nodeId name =
      if nodeId = r.nodeId ∧ name = r.name then
        (s.ledger.getResource r.nodeId r.name).map (written k r)
      else s.ledger.getResource nodeId name := by
  rw [importStep, hr]
  exact s.ledger.getResource_updateResource r.nodeId nodeId r.name name (absorbStatus k r)

/-- A decoder that is invalid for good is not touched. -/
theorem decoderAt_written {latest : I} {i : Nat} {d : UbseMamiMemImportResult}
    (hd : (k.status latest).decoderResult[i]? = some d)
    (hperm : d.state = DECODER_PERMANENT_INVALID) :
    (k.status (written k r latest)).decoderResult[i]? = some d := by
  by_cases hdest : (k.status latest).state = UBSE_MEM_IMPORT_DESTROYED
  · rw [written_of_destroyed hdest]
    exact hd
  · rw [written_eq hdest, k.status_withStatus]
    dsimp only
    rw [List.getElem?_map, hd, Option.map_some, absorbDec, if_neg]
    rintro ⟨-, hvalid⟩
    rw [hperm, not_valid_of_permanent] at hvalid
    nomatch hvalid

/-- **No request touches what is invalid for good.** -/
theorem keepsPermanent_step {e : ImportEvent I} (he : e.IsRequest) :
    KeepsPermanent k s.ledger (importStep k s e).ledger := by
  cases e with
  | other => exact he.elim
  | invalidate nodeId name targetState hw =>
    have hledger : (importStep k s (.invalidate nodeId name targetState hw)).ledger = s.ledger := by
      rw [importStep]
      split
      · rfl
      · split <;> rfl
    rw [hledger]
    exact fun _ _ _ _ _ h => h
  | writeBack i =>
    cases hr : s.inFlight[i]? with
    | none =>
      rw [importStep, hr]
      exact fun _ _ _ _ _ h => h
    | some r =>
      rintro nodeId name j d hperm ⟨obj, hobj, hd⟩
      by_cases hat : nodeId = r.nodeId ∧ name = r.name
      · refine ⟨written k r obj, ?_, decoderAt_written hd hperm⟩
        rw [getResource_writeBack hr, if_pos hat, ← hat.1, ← hat.2, hobj]
        rfl
      · refine ⟨obj, ?_, hd⟩
        rw [getResource_writeBack hr, if_neg hat]
        exact hobj

/-- A request that is turned down leaves an object alone if nothing is stale, and only then. -/
theorem written_eq_self_iff (hrej : r.Rejected) {latest : I}
    (hlive : (k.status latest).state ≠ UBSE_MEM_IMPORT_DESTROYED) :
    written k r latest = latest ↔ r.NothingStale k latest := by
  have hdec : written k r latest = latest ↔
      (k.status latest).decoderResult.map
        (absorbDec r.targetState r.status.decoderResult) = (k.status latest).decoderResult := by
    rw [written_eq hlive, copyStatus_of_rejected hrej]
    constructor
    · intro h
      have hstatus := congrArg (fun obj => (k.status obj).decoderResult) h
      rw [k.status_withStatus] at hstatus
      exact hstatus
    · intro h
      rw [h]
      exact k.withStatus_status latest
  have hmap : (k.status latest).decoderResult =
      (k.status latest).decoderResult.map id := (List.map_id _).symm
  rw [hdec]
  conv_lhs => rhs; rw [hmap]
  rw [List.map_inj_left]
  constructor
  · intro h d hd hstate latestDec hlatest hmar hhandle
    by_contra hvalid
    rw [Bool.not_eq_false] at hvalid
    have hsame := h latestDec hlatest
    rw [absorbDec, if_pos ⟨⟨d, hd, hstate, hmar, hhandle⟩, hvalid⟩] at hsame
    have htarget : r.targetState = latestDec.state :=
      congrArg UbseMamiMemImportResult.state hsame
    rw [← htarget, valid_self_iff] at hvalid
    have hself := hrej d hd
    rw [hstate, hvalid] at hself
    exact absurd hself (by decide)
  · intro h latestDec hlatest
    refine if_neg ?_
    rintro ⟨⟨d, hd, hstate, hmar, hhandle⟩, hvalid⟩
    rw [h d hd hstate latestDec hlatest hmar hhandle] at hvalid
    nomatch hvalid

/-- **One step.** -/
theorem requestProper_iff (e : ImportEvent I) :
    RequestProper k s e ↔ RejectedNotStale k s e := by
  constructor
  · rintro ⟨-, hrejected⟩ i r rfl hr hrej latest hlatest hlive
    rw [← written_eq_self_iff hrej hlive]
    have hsame := hrejected i r rfl hr hrej r.nodeId r.name
    rw [getResource_writeBack hr, if_pos ⟨rfl, rfl⟩, hlatest] at hsame
    exact Option.some.inj hsame
  · intro h
    refine ⟨keepsPermanent_step, ?_⟩
    rintro i r rfl hr hrej nodeId name
    rw [getResource_writeBack hr]
    split
    next hat =>
      rw [hat.1, hat.2]
      cases hlatest : s.ledger.getResource r.nodeId r.name with
      | none => rfl
      | some latest =>
        refine congrArg some ?_
        by_cases hlive : (k.status latest).state = UBSE_MEM_IMPORT_DESTROYED
        · exact written_of_destroyed hlive
        · exact (written_eq_self_iff hrej hlive).mpr (h i r rfl hr hrej latest hlatest hlive)
    · rfl

end Step

/-! ### Runs -/

section Runs

variable {I : Type} (k : ImportKind I)

/-- What else writes the ledger does not touch what is invalid for good. -/
def OthersKeepPermanent (s : AgentImports I) (e : ImportEvent I) : Prop :=
  ¬e.IsRequest → KeepsPermanent k s.ledger (importStep k s e).ledger

/-- **Permanent invalidation is absorbing**: in every run in which nothing else brings a decoder
back, the requests do not either, however they are interleaved. -/
theorem permanent_kept {s : AgentImports I} {es : List (ImportEvent I)}
    (h : System.Guarded (OthersKeepPermanent k) (System.trace (importStep k) s es)) :
    KeepsPermanent k s.ledger (es.foldl (importStep k) s).ledger := by
  refine (System.run_trace s (importStep k) s es).invariant
    (I := fun t => KeepsPermanent k s.ledger t.ledger) ?_ (fun _ _ _ _ _ h => h) h
  rintro t e _ ht hG rfl nodeId name i d hperm hd
  by_cases he : e.IsRequest
  · exact keepsPermanent_step he nodeId name i d hperm (ht nodeId name i d hperm hd)
  · exact hG he nodeId name i d hperm (ht nodeId name i d hperm hd)

/-- **When the requests are proper**, over every run: no matter what, a decoder that is invalid
for good is not brought back by a request; and the requests that are turned down leave the ledger
alone if none of them writes a stale state back, and only then. -/
theorem requests_proper_iff (s : AgentImports I) (es : List (ImportEvent I)) :
    (System.Guarded (RequestProper k) (System.trace (importStep k) s es) ↔
      System.Guarded (RejectedNotStale k) (System.trace (importStep k) s es)) ∧
    (System.Guarded (OthersKeepPermanent k) (System.trace (importStep k) s es) →
      KeepsPermanent k s.ledger (es.foldl (importStep k) s).ledger) := by
  refine ⟨forall₂_congr fun x _ => requestProper_iff x.event, ?_⟩
  exact permanent_kept k

end Runs

/-! ### Two requests that cross -/

/-- The hardware does what it is told. -/
def obedient : Hardware := ⟨UBSE_OK, fun _ => UBSE_OK⟩

/-- An import with one decoder, which is valid. -/
def oneDecoder : UbseMemImportStatus where
  decoderResult := [{ marId := num 1, handle := num 5, state := DECODER_VALID }]
  state := UBSE_MEM_IMPORT_SUCCESS

/-- Node "1" has the import "m". -/
def oneImport : AgentImports UbseMemFdBorrowImportObj where
  ledger := UbseMemTypeDebtMap.empty.putResource false [49] [109] (some {
    base := { status := oneDecoder }
    req := { base := { name := [109] }, importNodeId := [49] } })
  inFlight := []

/-- The request to make the decoder valid, which it is. -/
def turnedDown : Invalidation :=
  ⟨[49], [109], DECODER_VALID, oneDecoder, obedient, by decide +kernel⟩

/-- A request to make the decoder valid is turned down, and before it is written back the decoder
is made invalid for a time. -/
def crossing : List (ImportEvent UbseMemFdBorrowImportObj) :=
  [.invalidate [49] [109] DECODER_VALID obedient,
    .invalidate [49] [109] DECODER_TEMP_INVALID obedient, .writeBack 1, .writeBack 0]

/-- The states of the decoders of the import. -/
def decoderStates (s : AgentImports UbseMemFdBorrowImportObj) : Option (List UbseDecoderState) :=
  (s.ledger.getResource [49] [109]).map fun obj =>
    (fdImportKind.status obj).decoderResult.map (·.state)

/-- **A request that is turned down makes the decoder valid again**, in the ledger only. -/
theorem not_requests_proper :
    decoderStates ((crossing.take 3).foldl (importStep fdImportKind) oneImport) =
        some [DECODER_TEMP_INVALID] ∧
      decoderStates (crossing.foldl (importStep fdImportKind) oneImport) = some [DECODER_VALID] ∧
      ¬System.Guarded (RequestProper fdImportKind)
        (System.trace (importStep fdImportKind) oneImport crossing) := by
  refine ⟨by decide +kernel, by decide +kernel, fun h => ?_⟩
  have hlast := h _ (.tail _ (.tail _ (.tail _ (.head _))))
  have hsame := hlast.rejected 0 turnedDown rfl rfl (by decide +kernel) [49] [109]
  exact absurd hsame (by decide +kernel)

/-- A decoder is made invalid for good, and a later request does not bring it back. -/
theorem requests_proper_forGood :
    let es := [.invalidate [49] [109] DECODER_PERMANENT_INVALID obedient, .writeBack 0,
      .invalidate [49] [109] DECODER_VALID obedient, .writeBack 0]
    KeepsPermanent fdImportKind oneImport.ledger
      (es.foldl (importStep fdImportKind) oneImport).ledger := by
  refine (requests_proper_iff fdImportKind oneImport _).2 ?_
  rintro x (_ | ⟨_, _ | ⟨_, _ | ⟨_, _ | ⟨_, ⟨⟩⟩⟩⟩⟩) hnot <;> exact absurd trivial hnot

end Ledger

end UbsEngine
