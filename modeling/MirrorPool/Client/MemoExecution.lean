import MirrorPool.Actions.Templates
import MirrorPool.Client.Builders
import MirrorPool.Client.Opening

/-!
# Execution of a memo action

A participant's client sends one memo action from a file.  It asks an RPC node
five questions; the last one submits the transaction.  The node is arbitrary:
its answers may depend on everything it was asked before.  The guards look at the
properties that the action declares, and not at its payload.

Main results:

- Definition {lit}`executeLocalMemo`: the guards, the questions, and the
  submission.
- Theorem {lit}`executeLocalMemo_submits_iff`: when a transaction is submitted.
- Theorem {lit}`run_submits_canonical_iff`: for which runs only a canonical memo is
  submitted.
- Theorem {lit}`submits_canonical_iff`: for which actions only canonical memos are
  ever submitted.
- Theorem {lit}`submits_other_payload`: a submission of three bytes that are no
  text.
-/

namespace MirrorPool

open Fallible Sessions

/-! ## The node -/

/-- What is signed: the instructions, who pays, and a recent block. -/
structure Message where
  instructions : List Instruction
  payer : Pubkey
  recentBlockhash : Bytes32
deriving DecidableEq, Repr

/-- A message with the key that signed it. -/
structure Transaction where
  message : Message
  signer : Pubkey
deriving DecidableEq, Repr

/-- A question to the RPC node.  The last kind submits a transaction. -/
inductive RpcCall where
  | getSlot
  | getLatestBlockhash
  | simulateTransaction (transaction : Transaction)
  | getFeeForMessage (message : Message)
  | sendAndConfirmTransaction (transaction : Transaction)
deriving DecidableEq, Repr

/-- The answers of a node, which may depend on all questions so far, the present
one included.  A question may fail. -/
structure RpcNode where
  slot : List RpcCall → Option UInt64
  latestBlockhash : List RpcCall → Option Bytes32
  simulationSucceeded : List RpcCall → Option Bool
  feeForMessage : List RpcCall → Option UInt64
  signature : List RpcCall → Option String

/-- A computation that asks a node, with the list of its questions. -/
abbrev RpcSession (α : Type) : Type := Session (List RpcCall) ClientError α

/-- Ask the node. -/
def ask {α : Type} (answer : List RpcCall → Option α) (call : RpcCall) : RpcSession α := do
  update fun calls => calls ++ [call]
  let calls ← current
  okOr (answer calls) ClientError.rpc

/-! ## Execution -/

/-- Receipt of an execution, without the payload. -/
structure LocalExecutionReceipt where
  signature : String
  observedSlot : UInt64
  estimatedFeeLamports : UInt64
deriving DecidableEq, Repr

/-- The memo program as it is written in the client. -/
def memoProgramText : String := "MemoSq4gqABAXKb96qnH8TysNcWxMyWCqXgDLGmfcHr"

/-- The policy of an execution. -/
def memoPolicy (memoProgram : Pubkey) : SafetyPolicy :=
  { SafetyPolicy.default with
    dryRun := false
    sendingEnabled := true
    allowedProgramIds := [memoProgram]
    allowedTemplates := ["memo-v1"] }

/-- The signed transaction of a payload. -/
def memoTransaction (memoProgram wallet : Pubkey) (payload : List UInt8) (blockhash : Bytes32) :
    Transaction where
  message :=
    { instructions := [{ programId := memoProgram, accounts := [], data := payload }]
      payer := wallet
      recentBlockhash := blockhash }
  signer := wallet

/-- What an execution is started with, besides the action: whether the build has
the feature {lit}`public-cluster-execution`, the node, the key in the wallet file
if it can be read, and the arguments. -/
structure MemoRun where
  publicClusterExecution : Bool
  node : RpcNode
  wallet : Option Pubkey
  rpcUrl : Url
  windowStart : UInt64
  windowEnd : UInt64
  explicitConfirmation : Bool
  sendingEnabled : Bool

/-- Simulate, safety-check, sign locally, submit, and confirm one memo action.
Texts are read as addresses by the given function. -/
def executeLocalMemo (fromStr : String → Option Pubkey) (run : MemoRun)
    (action : PreparedAction) : RpcSession LocalExecutionReceipt := do
  failIf (run.explicitConfirmation = false ∨ run.sendingEnabled = false)
    ClientError.executionDisabled
  failIf (action.templateId ≠ "memo-v1") ClientError.unsupportedAction
  let memoProgram ← okOr (fromStr memoProgramText) ClientError.invalidProgram
  failIf (action.programIds ≠ [memoProgram]) ClientError.invalidProgram
  let slot ← ask run.node.slot .getSlot
  failIf (slot < run.windowStart ∨ run.windowEnd < slot) ClientError.outsideExecutionWindow
  let policy := memoPolicy memoProgram
  ((policy.validate run.publicClusterExecution action run.rpcUrl false false 0 false).mapError
    fun _ => ClientError.safetyPolicy)
  let wallet ← okOr run.wallet ClientError.wallet
  let blockhash ← ask run.node.latestBlockhash .getLatestBlockhash
  let transaction := memoTransaction memoProgram wallet action.payload blockhash
  let succeeded ← ask run.node.simulationSucceeded (.simulateTransaction transaction)
  let fee ← ask run.node.feeForMessage (.getFeeForMessage transaction.message)
  ((policy.validate run.publicClusterExecution action run.rpcUrl true succeeded fee true).mapError
    fun _ => ClientError.safetyPolicy)
  let signature ← ask run.node.signature (.sendAndConfirmTransaction transaction)
  return { signature, observedSlot := slot, estimatedFeeLamports := fee }

/-! ## Submissions -/

/-- The session ends with the transaction among the submitted ones. -/
def Submits {α : Type} (session : RpcSession α) (calls : List RpcCall) (t : Transaction) : Prop :=
  .sendAndConfirmTransaction t ∈ (session calls).2

section Rules

variable {α β : Type} {calls : List RpcCall} {t : Transaction}

/-- Nothing is submitted before a check that fails. -/
theorem submits_lift_bind {result : Except ClientError α} {next : α → RpcSession β}
    (hcalls : .sendAndConfirmTransaction t ∉ calls) :
    Submits ((liftM result : RpcSession α) >>= next) calls t ↔
      ∃ a, result = .ok a ∧ Submits (next a) calls t := by
  rcases result with e | a
  · refine iff_of_false hcalls ?_
    rintro ⟨a, herror, -⟩
    contradiction
  · constructor
    · intro hsubmits
      exact ⟨a, rfl, hsubmits⟩
    · rintro ⟨a', ha, hsubmits⟩
      rcases Except.ok.inj ha with rfl
      exact hsubmits

/-- A question is recorded, whatever the node answers. -/
theorem ask_apply (answer : List RpcCall → Option α) (call : RpcCall) (calls : List RpcCall) :
    ask answer call calls = (okOr (answer (calls ++ [call])) .rpc, calls ++ [call]) :=
  rfl

/-- Another question submits nothing. -/
theorem submits_ask_bind {answer : List RpcCall → Option α} {call : RpcCall}
    {next : α → RpcSession β} (hcalls : .sendAndConfirmTransaction t ∉ calls ++ [call]) :
    Submits (ask answer call >>= next) calls t ↔
      ∃ a, answer (calls ++ [call]) = some a ∧ Submits (next a) (calls ++ [call]) t := by
  rw [Submits, Sessions.bind_eq, ask_apply]
  rcases hanswer : answer (calls ++ [call]) with _ | a
  · refine iff_of_false hcalls ?_
    rintro ⟨a, hsome, -⟩
    contradiction
  · constructor
    · intro hsubmits
      exact ⟨a, rfl, hsubmits⟩
    · rintro ⟨a', ha, hsubmits⟩
      rcases Option.some.inj ha with rfl
      exact hsubmits

/-- The last question submits its transaction, whatever the node answers. -/
theorem submits_ask_send {answer : List RpcCall → Option α} {sent : Transaction} {f : α → β}
    (hcalls : .sendAndConfirmTransaction t ∉ calls) :
    Submits (ask answer (.sendAndConfirmTransaction sent) >>= fun a => pure (f a)) calls t ↔
      t = sent := by
  have hlog : ((ask answer (.sendAndConfirmTransaction sent) >>= fun a => pure (f a)) calls).2 =
      calls ++ [.sendAndConfirmTransaction sent] := by
    rw [Sessions.bind_eq, ask_apply]
    cases answer (calls ++ [.sendAndConfirmTransaction sent]) <;> rfl
  rw [Submits, hlog, List.mem_append, List.mem_singleton,
    RpcCall.sendAndConfirmTransaction.injEq, or_iff_right hcalls]

end Rules

/-- The properties that a memo action has to declare. -/
structure DeclaresMemo (memoProgram : Pubkey) (action : PreparedAction) : Prop where
  template : action.templateId = "memo-v1"
  programs : action.programIds = [memoProgram]
  instructionCount : action.instructionCount = 1
  computeUnits : action.computeUnits ≤ 200000
  priorityFee : action.priorityFeeMicroLamports ≤ 1000
  value : action.value ≤ 1000000
  size : action.estimatedSize ≤ 1232

/-- The checks on declared properties, on the path that leads to a submission. -/
theorem declaresMemo_iff {memoProgram : Pubkey} {action : PreparedAction} :
    DeclaresMemo memoProgram action ↔
      action.templateId = "memo-v1" ∧ action.programIds = [memoProgram] ∧
        (memoPolicy memoProgram).Declares action := by
  constructor
  · intro h
    refine ⟨h.template, h.programs, ?_, ?_, h.computeUnits, h.priorityFee, h.value, ?_, h.size⟩
    · rw [h.template]
      exact List.mem_singleton_self _
    · rw [h.programs]
      exact fun _ hprogram => hprogram
    · rw [h.programs]
      exact ⟨h.instructionCount, rfl⟩
  · rintro ⟨htemplate, hprograms, h⟩
    exact ⟨htemplate, hprograms, h.shape.1, h.computeUnits, h.priorityFee, h.value, h.size⟩

/-- The check before the simulation. -/
theorem memoPolicy_admits {publicClusterExecution : Bool} {memoProgram : Pubkey}
    {action : PreparedAction} {rpcUrl : Url} {u : Unit} :
    (memoPolicy memoProgram).validate publicClusterExecution action rpcUrl false false 0 false =
        .ok u ↔
      (memoPolicy memoProgram).Declares action ∧ isLoopback rpcUrl = true := by
  rw [SafetyPolicy.validate_eq_ok]
  constructor
  · rintro ⟨-, hdeclares, -, hloopback, -⟩
    exact ⟨hdeclares, hloopback rfl⟩
  · rintro ⟨hdeclares, hloopback⟩
    exact ⟨rfl, hdeclares, UInt64.zero_le, fun _ => hloopback, nofun⟩

/-- The check before the submission. -/
theorem memoPolicy_admits_sending {publicClusterExecution succeeded : Bool}
    {memoProgram : Pubkey} {action : PreparedAction} {rpcUrl : Url} {fee : UInt64} {u : Unit} :
    (memoPolicy memoProgram).validate publicClusterExecution action rpcUrl true succeeded fee true =
        .ok u ↔
      (memoPolicy memoProgram).Declares action ∧ isLoopback rpcUrl = true ∧ succeeded = true ∧
        fee ≤ 20000 := by
  rw [SafetyPolicy.validate_eq_ok]
  constructor
  · rintro ⟨-, hdeclares, hfee, hloopback, hsending⟩
    exact ⟨hdeclares, hloopback rfl, (hsending rfl).2.1 rfl, hfee⟩
  · rintro ⟨hdeclares, hloopback, hsucceeded, hfee⟩
    exact ⟨rfl, hdeclares, hfee, fun _ => hloopback,
      fun _ => ⟨⟨rfl, rfl⟩, fun _ => hsucceeded, rfl, fun _ => hloopback⟩⟩

/-- Everything that has to hold before a submission, with the answers of the
node. -/
structure MemoGates (fromStr : String → Option Pubkey) (run : MemoRun) (action : PreparedAction)
    (memoProgram : Pubkey) (wallet : Pubkey) (blockhash : Bytes32) : Prop where
  confirmed : run.explicitConfirmation = true ∧ run.sendingEnabled = true
  program : fromStr memoProgramText = some memoProgram
  declares : DeclaresMemo memoProgram action
  window : ∃ slot, run.node.slot [.getSlot] = some slot ∧ run.windowStart ≤ slot ∧
    slot ≤ run.windowEnd
  loopback : isLoopback run.rpcUrl = true
  wallet_eq : run.wallet = some wallet
  blockhash_eq : run.node.latestBlockhash [.getSlot, .getLatestBlockhash] = some blockhash
  simulated : run.node.simulationSucceeded [.getSlot, .getLatestBlockhash,
    .simulateTransaction (memoTransaction memoProgram wallet action.payload blockhash)] = some true
  fee : ∃ fee, run.node.feeForMessage [.getSlot, .getLatestBlockhash,
      .simulateTransaction (memoTransaction memoProgram wallet action.payload blockhash),
      .getFeeForMessage (memoTransaction memoProgram wallet action.payload blockhash).message] =
    some fee ∧ fee ≤ 20000

variable {fromStr : String → Option Pubkey} {run : MemoRun} {action : PreparedAction}
  {t : Transaction}

/-- A transaction is submitted exactly when all gates are passed, and it carries
the payload as it is. -/
theorem executeLocalMemo_submits_iff :
    Submits (executeLocalMemo fromStr run action) [] t ↔
      ∃ memoProgram wallet blockhash,
        MemoGates fromStr run action memoProgram wallet blockhash ∧
        t = memoTransaction memoProgram wallet action.payload blockhash := by
  simp (disch := simp) only [executeLocalMemo, submits_lift_bind, submits_ask_bind,
    submits_ask_send, failIf_eq_ok, okOr_eq_ok, mapError_eq_ok, memoPolicy_admits,
    memoPolicy_admits_sending, exists_const, not_or, not_not, ne_eq, Bool.not_eq_false,
    UInt64.not_lt]
  constructor
  · rintro ⟨hconfirmed, htemplate, memoProgram, hprogram, hprograms, slot, hslot, hwindow,
      ⟨hdeclares, hloopback⟩, wallet, hwallet, blockhash, hblockhash, succeeded, hsimulated, fee,
      hfee, ⟨-, -, hsucceeded, hlimit⟩, hsent⟩
    refine ⟨memoProgram, wallet, blockhash, ?_, hsent⟩
    exact
      { confirmed := hconfirmed
        program := hprogram
        declares := declaresMemo_iff.mpr ⟨htemplate, hprograms, hdeclares⟩
        window := ⟨slot, hslot, hwindow⟩
        loopback := hloopback
        wallet_eq := hwallet
        blockhash_eq := hblockhash
        simulated := hsucceeded ▸ hsimulated
        fee := ⟨fee, hfee, hlimit⟩ }
  · rintro ⟨memoProgram, wallet, blockhash, gates, hsent⟩
    rcases declaresMemo_iff.mp gates.declares with ⟨htemplate, hprograms, hdeclares⟩
    rcases gates.window with ⟨slot, hslot, hwindow⟩
    rcases gates.fee with ⟨fee, hfee, hlimit⟩
    exact ⟨gates.confirmed, htemplate, memoProgram, gates.program, hprograms, slot, hslot, hwindow,
      ⟨hdeclares, gates.loopback⟩, wallet, gates.wallet_eq, blockhash, gates.blockhash_eq, true,
      gates.simulated, fee, hfee, ⟨hdeclares, gates.loopback, rfl, hlimit⟩, hsent⟩

/-! ## The shape of what is submitted -/

/-- A run only submits its action as a canonical memo exactly when the action is
one, or when one of the gates of this run is closed. -/
theorem run_submits_canonical_iff :
    (∀ t, Submits (executeLocalMemo fromStr run action) [] t → action.IsCanonicalMemo) ↔
      action.IsCanonicalMemo ∨
        ∀ memoProgram wallet blockhash,
          ¬MemoGates fromStr run action memoProgram wallet blockhash := by
  constructor
  · intro hcanonical
    by_cases hmemo : action.IsCanonicalMemo
    · exact .inl hmemo
    · refine .inr fun memoProgram wallet blockhash gates => hmemo ?_
      exact hcanonical _ (executeLocalMemo_submits_iff.mpr ⟨_, _, _, gates, rfl⟩)
  · rintro (hmemo | hclosed) t hsubmits
    · exact hmemo
    · rcases executeLocalMemo_submits_iff.mp hsubmits with ⟨_, _, _, gates, -⟩
      exact absurd gates (hclosed _ _ _)

/-- A run that passes every gate: both acknowledgements, a local node that
answers every question, and a readable wallet. -/
def MemoRun.permissive : MemoRun where
  publicClusterExecution := false
  node :=
    { slot := fun _ => some 0
      latestBlockhash := fun _ => some (Vector.replicate 32 0)
      simulationSucceeded := fun _ => some true
      feeForMessage := fun _ => some 5000
      signature := fun _ => none }
  wallet := some (Vector.replicate 32 1)
  rpcUrl := ⟨some "127.0.0.1"⟩
  windowStart := 0
  windowEnd := 0
  explicitConfirmation := true
  sendingEnabled := true

/-- An action that declares a memo is submitted in some run. -/
theorem submits_of_declaresMemo {memoProgram : Pubkey}
    (hprogram : fromStr memoProgramText = some memoProgram)
    (hdeclares : DeclaresMemo memoProgram action) :
    ∃ t, Submits (executeLocalMemo fromStr .permissive action) [] t := by
  have hgates : MemoGates fromStr .permissive action memoProgram (Vector.replicate 32 1)
      (Vector.replicate 32 0) :=
    { confirmed := ⟨rfl, rfl⟩
      program := hprogram
      declares := hdeclares
      window := ⟨0, rfl, UInt64.le_refl _, UInt64.le_refl _⟩
      loopback := by decide
      wallet_eq := rfl
      blockhash_eq := rfl
      simulated := rfl
      fee := ⟨5000, rfl, by decide⟩ }
  exact ⟨_, executeLocalMemo_submits_iff.mpr ⟨_, _, _, hgates, rfl⟩⟩

/-- Whatever the run is, an action is only submitted as a canonical memo exactly
when it is one, or when a property it declares is refused. -/
theorem submits_canonical_iff (fromStr : String → Option Pubkey) (action : PreparedAction) :
    (∀ run t, isLoopback run.rpcUrl = true →
      Submits (executeLocalMemo fromStr run action) [] t → action.IsCanonicalMemo) ↔
      action.IsCanonicalMemo ∨
        ∀ memoProgram, fromStr memoProgramText = some memoProgram →
          ¬DeclaresMemo memoProgram action := by
  constructor
  · intro hcanonical
    by_cases hmemo : action.IsCanonicalMemo
    · exact .inl hmemo
    · refine .inr fun memoProgram hprogram hdeclares => ?_
      rcases submits_of_declaresMemo hprogram hdeclares with ⟨t, hsubmits⟩
      exact hmemo (hcanonical _ t (by decide) hsubmits)
  · intro hcondition run t _ hsubmits
    refine run_submits_canonical_iff.mpr (hcondition.imp_right ?_) t hsubmits
    intro hrefused memoProgram _ _ gates
    exact hrefused memoProgram gates.program gates.declares

/-- A reading of texts that knows one address. -/
def demoFromStr (_ : String) : Option Pubkey := some (Vector.replicate 32 5)

/-- An action with three bytes that are no text, and the declared size of a memo
of sixteen bytes. -/
def demoTampered : PreparedAction where
  templateId := "memo-v1"
  programIds := [Vector.replicate 32 5]
  instructionCount := 1
  payload := [0xff, 0, 7]
  computeUnits := 10000
  priorityFeeMicroLamports := 0
  value := 0
  estimatedSize := 116
  safety := .lowRisk

/-- The three bytes are submitted. -/
theorem submits_other_payload :
    isLoopback MemoRun.permissive.rpcUrl = true ∧
      (∃ t, Submits (executeLocalMemo demoFromStr .permissive demoTampered) [] t) ∧
      ¬demoTampered.IsCanonicalMemo := by
  have hdeclares : DeclaresMemo (Vector.replicate 32 5) demoTampered :=
    ⟨rfl, rfl, rfl, by decide, by decide, by decide, by decide⟩
  refine ⟨by decide, submits_of_declaresMemo rfl hdeclares, fun hcanonical => ?_⟩
  have hlength := hcanonical.length_payload
  exact absurd hlength (by decide)

end MirrorPool
