import MirrorPool.Client.MemoExecution

/-!
# Sending fails closed

Whatever the node answers, an execution ends in one of two ways.  All gates were
passed, and the five questions were asked in order about one transaction, the
last of them submitting it.  Or nothing was submitted, and the execution reports
an error.

Main results:

- Definition {lit}`submissionCalls`: the questions of an execution that submits.
- Structure {lit}`SendingGates`: what holds before a submission, in terms of the
  default policy.
- Theorem {lit}`sending_fails_closed`: the two ways.
-/

namespace MirrorPool

open Fallible Sessions

/-- The questions of an execution that submits: the slot comes first, and the
transaction is simulated, priced, and submitted. -/
def submissionCalls (t : Transaction) : List RpcCall :=
  [.getSlot, .getLatestBlockhash, .simulateTransaction t, .getFeeForMessage t.message,
    .sendAndConfirmTransaction t]

/-- What holds before the transaction of an action is submitted.  The limits are
those of the default policy, and every answer of the node belongs to the
questions asked up to it. -/
structure SendingGates (fromStr : String → Option Pubkey) (run : MemoRun)
    (action : PreparedAction) (memoProgram wallet : Pubkey) (blockhash : Bytes32) : Prop where
  confirmed : run.explicitConfirmation = true
  enabled : run.sendingEnabled = true
  loopback : isLoopback run.rpcUrl = true
  template : action.templateId = "memo-v1"
  memo_program : fromStr memoProgramText = some memoProgram
  programs : action.programIds = [memoProgram]
  instruction_count : action.instructionCount = 1
  size : action.estimatedSize ≤ 1232
  compute_units : action.computeUnits ≤ SafetyPolicy.default.maxComputeUnits
  priority_fee :
    action.priorityFeeMicroLamports ≤ SafetyPolicy.default.maxPriorityFeeMicroLamports
  value : action.value ≤ SafetyPolicy.default.maxLocalValue
  signer : run.wallet = some wallet
  window : ∃ slot, run.node.slot [.getSlot] = some slot ∧ run.windowStart ≤ slot ∧
    slot ≤ run.windowEnd
  blockhash_read : run.node.latestBlockhash [.getSlot, .getLatestBlockhash] = some blockhash
  simulated : run.node.simulationSucceeded [.getSlot, .getLatestBlockhash,
    .simulateTransaction (memoTransaction memoProgram wallet action.payload blockhash)] = some true
  fee : ∃ fee, run.node.feeForMessage [.getSlot, .getLatestBlockhash,
      .simulateTransaction (memoTransaction memoProgram wallet action.payload blockhash),
      .getFeeForMessage (memoTransaction memoProgram wallet action.payload blockhash).message] =
    some fee ∧ fee ≤ SafetyPolicy.default.maxTransactionFeeLamports

variable {fromStr : String → Option Pubkey} {run : MemoRun} {action : PreparedAction}
  {memoProgram wallet : Pubkey} {blockhash : Bytes32} {t : Transaction}

/-- The gates of an execution in terms of the default policy. -/
theorem MemoGates.sendingGates
    (gates : MemoGates fromStr run action memoProgram wallet blockhash) :
    SendingGates fromStr run action memoProgram wallet blockhash where
  confirmed := gates.confirmed.1
  enabled := gates.confirmed.2
  loopback := gates.loopback
  template := gates.declares.template
  memo_program := gates.program
  programs := gates.declares.programs
  instruction_count := gates.declares.instructionCount
  size := gates.declares.size
  compute_units := gates.declares.computeUnits
  priority_fee := gates.declares.priorityFee
  value := gates.declares.value
  signer := gates.wallet_eq
  window := gates.window
  blockhash_read := gates.blockhash_eq
  simulated := gates.simulated
  fee := gates.fee

/-- The outcome of an execution that fails closed. -/
def FailsClosed (fromStr : String → Option Pubkey) (run : MemoRun) (action : PreparedAction)
    (result : Except ClientError LocalExecutionReceipt) (calls : List RpcCall) : Prop :=
  (∃ memoProgram wallet blockhash,
    SendingGates fromStr run action memoProgram wallet blockhash ∧
      calls = submissionCalls (memoTransaction memoProgram wallet action.payload blockhash)) ∨
    ((∀ t, .sendAndConfirmTransaction t ∉ calls) ∧ ∃ error, result = .error error)

/-- A question either ends the execution, or hands its answer over; it is
recorded in both cases. -/
theorem ensures_ask_bind {α β : Type} {answer : List RpcCall → Option α} {call : RpcCall}
    {next : α → RpcSession β} {calls : List RpcCall}
    {Q : Except ClientError β → List RpcCall → Prop}
    (herror : answer (calls ++ [call]) = none → Q (.error .rpc) (calls ++ [call]))
    (hnext : ∀ a, answer (calls ++ [call]) = some a → Ensures (next a) (calls ++ [call]) Q) :
    Ensures (ask answer call >>= next) calls Q := by
  rw [Ensures, Sessions.bind_eq, ask_apply]
  rcases hanswer : answer (calls ++ [call]) with _ | a
  · exact herror hanswer
  · exact hnext a hanswer

/-- An error before the submission leaves nothing submitted. -/
theorem failsClosed_of_error {error : ClientError} {calls : List RpcCall}
    (hcalls : ∀ t, .sendAndConfirmTransaction t ∉ calls) :
    FailsClosed fromStr run action (.error error) calls :=
  .inr ⟨hcalls, error, rfl⟩

/-- Whatever the action, the arguments, and the answers of the node: at most one
transaction is submitted, and only with every gate passed; in every other case
nothing is submitted and an error is reported. -/
theorem sending_fails_closed (fromStr : String → Option Pubkey) (run : MemoRun)
    (action : PreparedAction) :
    FailsClosed fromStr run action (executeLocalMemo fromStr run action []).1
      (executeLocalMemo fromStr run action []).2 := by
  show Ensures (executeLocalMemo fromStr run action) [] (FailsClosed fromStr run action)
  unfold executeLocalMemo
  -- one rule for each guard and each question, in the order of the source
  refine ensures_lift_bind (fun _ _ => failsClosed_of_error (by simp)) fun _ hconfirmed => ?_
  refine ensures_lift_bind (fun _ _ => failsClosed_of_error (by simp)) fun _ htemplate => ?_
  refine ensures_lift_bind (fun _ _ => failsClosed_of_error (by simp)) fun memoProgram hprogram =>
    ?_
  refine ensures_lift_bind (fun _ _ => failsClosed_of_error (by simp)) fun _ hprograms => ?_
  refine ensures_ask_bind (fun _ => failsClosed_of_error (by simp)) fun slot hslot => ?_
  refine ensures_lift_bind (fun _ _ => failsClosed_of_error (by simp)) fun _ hwindow => ?_
  refine ensures_lift_bind (fun _ _ => failsClosed_of_error (by simp)) fun _ _ => ?_
  refine ensures_lift_bind (fun _ _ => failsClosed_of_error (by simp)) fun wallet hwallet => ?_
  refine ensures_ask_bind (fun _ => failsClosed_of_error (by simp)) fun blockhash hblockhash => ?_
  refine ensures_ask_bind (fun _ => failsClosed_of_error (by simp)) fun succeeded hsimulated => ?_
  refine ensures_ask_bind (fun _ => failsClosed_of_error (by simp)) fun fee hfee => ?_
  refine ensures_lift_bind (fun _ _ => failsClosed_of_error (by simp)) fun _ hsending => ?_
  rw [failIf_eq_ok] at hconfirmed htemplate hprograms hwindow
  rw [okOr_eq_ok] at hprogram hwallet
  rw [mapError_eq_ok, memoPolicy_admits_sending] at hsending
  simp only [not_or, not_not, ne_eq, Bool.not_eq_false] at hconfirmed htemplate hprograms
  simp only [not_or, UInt64.not_lt] at hwindow
  rcases hsending with ⟨hdeclares, hloopback, rfl, hlimit⟩
  have gates : MemoGates fromStr run action memoProgram wallet blockhash :=
    { confirmed := hconfirmed
      program := hprogram
      declares := declaresMemo_iff.mpr ⟨htemplate, hprograms, hdeclares⟩
      window := ⟨slot, hslot, hwindow⟩
      loopback := hloopback
      wallet_eq := hwallet
      blockhash_eq := hblockhash
      simulated := hsimulated
      fee := ⟨fee, hfee, hlimit⟩ }
  have hsent : ∀ result, FailsClosed fromStr run action result
      (submissionCalls (memoTransaction memoProgram wallet action.payload blockhash)) :=
    fun _ => .inl ⟨memoProgram, wallet, blockhash, gates.sendingGates, rfl⟩
  -- the transaction counts as submitted whether or not the node confirms it
  exact ensures_ask_bind (fun _ => hsent _) fun signature _ => ensures_pure (hsent _)

end MirrorPool
