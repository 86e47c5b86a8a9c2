import MirrorPool.Library.Fallible

/-!
# Database sessions

A session reads and writes a database and may stop with an error.  What it has
written before the error stays, unless it runs in a transaction: a transaction
that stops with an error leaves the database as it was.

Main results:

- Theorem {lit}`bind_eq_ok`: a sequence succeeds exactly when both halves do,
  the second one on the database the first one leaves.
- Theorem {lit}`transaction_eq_ok`: a transaction succeeds as its body does.
- Theorems {lit}`forM_invariant` and {lit}`exists_forM`: the rules of loops.
- Theorem {lit}`ensures_lift_bind`: the rule for outcomes, failures included.
- Theorem {lit}`Returns.bind`: the rule for sessions that never stop.
- Theorems {lit}`atomic_transaction` and {lit}`ReadOnly.bind`: transactions, and
  reads before an atomic session, leave no trace of a failure.
- Theorems {lit}`Leaves.bind` and {lit}`leaves_forM`: the rules for sessions that
  leave the database related to what it was.
- Theorems {lit}`Respects.bind` and {lit}`respects_forM`: the rules for sessions
  that cannot tell related databases apart.
-/

namespace Sessions

universe u

variable {σ ε : Type u} {α β : Type u}

/-- A computation on a database that may stop with an error. -/
def Session (σ ε α : Type u) : Type u := σ → Except ε α × σ

namespace Session

/-- Run the second session on what the first one leaves, unless it stopped. -/
def andThen (first : Session σ ε α) (next : α → Session σ ε β) : Session σ ε β := fun s =>
  match first s with
  | (.ok a, t) => next a t
  | (.error e, t) => (.error e, t)

/-- Sessions are run one after the other. -/
instance : Monad (Session σ ε) where
  pure a := fun s => (.ok a, s)
  bind := andThen

/-- A computation without a database stops the session when it fails. -/
instance : MonadLift (Except ε) (Session σ ε) where
  monadLift result := fun s => (result, s)

end Session

/-- Read from the database. -/
def query (read : σ → Except ε α) : Session σ ε α := fun s => (read s, s)

/-- Write to the database, all or nothing. -/
def statement (write : σ → Except ε σ) : Session σ ε PUnit := fun s =>
  match write s with
  | .ok t => (.ok ⟨⟩, t)
  | .error e => (.error e, s)

/-- The database as it is. -/
def current : Session σ ε σ := fun s => (.ok s, s)

/-- Change the database. -/
def update (change : σ → σ) : Session σ ε PUnit := fun s => (.ok ⟨⟩, change s)

/-- Run a session in a transaction, which is rolled back on an error. -/
def transaction (body : Session σ ε α) : Session σ ε α := fun s =>
  match body s with
  | (.ok a, t) => (.ok a, t)
  | (.error e, _) => (.error e, s)

/-- Report the errors of a session in another way. -/
def reportAs {ε' : Type u} (session : Session σ ε α) (report : ε → ε') : Session σ ε' α := fun s =>
  ((session s).1.mapError report, (session s).2)

/-! ## Successful sessions -/

/-- A result alone leaves the database as it is. -/
@[simp] theorem pure_eq_ok {a b : α} {s t : σ} :
    (pure a : Session σ ε α) s = (.ok b, t) ↔ a = b ∧ s = t := by
  simp [pure]

/-- A sequence succeeds exactly when both halves do. -/
theorem bind_eq_ok {first : Session σ ε α} {next : α → Session σ ε β} {s t : σ} {b : β} :
    (first >>= next) s = (.ok b, t) ↔
      ∃ a u, first s = (.ok a, u) ∧ next a u = (.ok b, t) := by
  simp only [bind, Session.andThen]
  rcases first s with ⟨e | a, u⟩
  · simp
  · simp

/-- A sequence goes on with the result of its first half. -/
theorem bind_of_eq_ok {first : Session σ ε α} {next : α → Session σ ε β} {s t : σ} {a : α}
    (hfirst : first s = (.ok a, t)) : (first >>= next) s = next a t := by
  simp only [bind, Session.andThen, hfirst]

/-- A sequence stops where its first half does. -/
theorem bind_of_eq_error {first : Session σ ε α} {next : α → Session σ ε β} {s t : σ} {e : ε}
    (hfirst : first s = (.error e, t)) : (first >>= next) s = (.error e, t) := by
  simp only [bind, Session.andThen, hfirst]

/-- A computation without a database leaves it as it is. -/
@[simp] theorem lift_eq_ok {result : Except ε α} {s t : σ} {a : α} :
    (liftM result : Session σ ε α) s = (.ok a, t) ↔ result = .ok a ∧ s = t := by
  simp [liftM, monadLift, MonadLift.monadLift]

/-- A read leaves the database as it is. -/
@[simp] theorem query_eq_ok {read : σ → Except ε α} {s t : σ} {a : α} :
    query read s = (.ok a, t) ↔ read s = .ok a ∧ s = t := by
  simp [query]

/-- A statement succeeds exactly when its write does. -/
@[simp] theorem statement_eq_ok {write : σ → Except ε σ} {s t : σ} {u : PUnit} :
    statement write s = (.ok u, t) ↔ write s = .ok t := by
  unfold statement
  split <;> simp_all

/-- The database is handed over unchanged. -/
@[simp] theorem current_eq_ok {s t u : σ} :
    (current : Session σ ε σ) s = (.ok u, t) ↔ s = u ∧ s = t := by
  simp [current]

/-- A change always succeeds. -/
@[simp] theorem update_eq_ok {change : σ → σ} {s t : σ} {u : PUnit} :
    (update change : Session σ ε PUnit) s = (.ok u, t) ↔ change s = t := by
  simp [update]

/-- A transaction succeeds as its body does. -/
@[simp] theorem transaction_eq_ok {body : Session σ ε α} {s t : σ} {a : α} :
    transaction body s = (.ok a, t) ↔ body s = (.ok a, t) := by
  unfold transaction
  split <;> simp_all

/-- The other way of reporting makes no difference to a success. -/
@[simp] theorem reportAs_eq_ok {ε' : Type u} {session : Session σ ε α} {report : ε → ε'}
    {s t : σ} {a : α} :
    reportAs session report s = (.ok a, t) ↔ session s = (.ok a, t) := by
  simp [reportAs, Prod.ext_iff]

/-- The rule of loops: what every successful step extends from the items done
so far to one item more holds of all items after a successful loop. -/
theorem forM_invariant (Inv : List α → σ → Prop) {body : α → Session σ ε PUnit}
    (hbody : ∀ done a s u t, Inv done s → body a s = (.ok u, t) → Inv (done ++ [a]) t)
    {done items : List α} {s t : σ} {u : PUnit} (hstart : Inv done s)
    (hloop : (forM items body : Session σ ε PUnit) s = (.ok u, t)) : Inv (done ++ items) t := by
  induction items generalizing done s with
  | nil =>
      rw [List.forM_nil, pure_eq_ok] at hloop
      rw [List.append_nil, ← hloop.2]
      exact hstart
  | cons a items ih =>
      rw [List.forM_cons, bind_eq_ok] at hloop
      rcases hloop with ⟨u', s', hfirst, hrest⟩
      rw [List.append_cons]
      exact ih (hbody done a s u' s' hstart hfirst) hrest

/-- The rule of loops that return: from a state in which the first item succeeds,
and leaves a state for the rest, the loop runs through. -/
theorem exists_forM (Inv : List α → σ → Prop) {body : α → Session σ ε PUnit}
    (hbody : ∀ a items s, Inv (a :: items) s → ∃ t, body a s = (.ok ⟨⟩, t) ∧ Inv items t)
    {items : List α} {s : σ} (hstart : Inv items s) :
    ∃ t, (forM items body : Session σ ε PUnit) s = (.ok ⟨⟩, t) := by
  induction items generalizing s with
  | nil => exact ⟨s, rfl⟩
  | cons a items ih =>
      rcases hbody a items s hstart with ⟨t, hfirst, hnext⟩
      rcases ih hnext with ⟨u, hrest⟩
      exact ⟨u, by rw [List.forM_cons, bind_of_eq_ok hfirst, hrest]⟩

/-! ## Sessions that stop -/

/-- A computation without a database fails without a trace. -/
theorem lift_of_eq_error {result : Except ε α} {s : σ} {e : ε} (hresult : result = .error e) :
    (liftM result : Session σ ε α) s = (.error e, s) := by
  rw [hresult]
  rfl

/-- A statement that fails writes nothing. -/
theorem statement_of_eq_error {write : σ → Except ε σ} {s : σ} {e : ε}
    (hwrite : write s = .error e) : statement write s = (.error e, s) := by
  rw [statement, hwrite]

/-- A transaction that fails is rolled back. -/
theorem transaction_of_eq_error {body : Session σ ε α} {s t : σ} {e : ε}
    (hbody : body s = (.error e, t)) : transaction body s = (.error e, s) := by
  rw [transaction, hbody]

/-- The error is the reported one, the database that of the session. -/
theorem reportAs_of_eq_error {ε' : Type u} {session : Session σ ε α} {report : ε → ε'} {s t : σ}
    {e : ε} (hsession : session s = (.error e, t)) :
    reportAs session report s = (.error (report e), t) := by
  rw [reportAs, hsession]
  rfl

/-! ## Outcomes -/

/-- What holds of the outcome of a session: of its result, and of the database
it leaves. -/
def Ensures (session : Session σ ε α) (s : σ) (Q : Except ε α → σ → Prop) : Prop :=
  Q (session s).1 (session s).2

/-- The rule for results. -/
theorem ensures_pure {a : α} {s : σ} {Q : Except ε α → σ → Prop} (hok : Q (.ok a) s) :
    Ensures (pure a : Session σ ε α) s Q :=
  hok

/-- A computation without a database either ends the session with its error, or
hands its value over. -/
theorem ensures_lift_bind {result : Except ε α} {next : α → Session σ ε β} {s : σ}
    {Q : Except ε β → σ → Prop} (herror : ∀ e, result = .error e → Q (.error e) s)
    (hnext : ∀ a, result = .ok a → Ensures (next a) s Q) :
    Ensures ((liftM result : Session σ ε α) >>= next) s Q := by
  rcases result with e | a
  · exact herror e rfl
  · exact hnext a rfl

/-! ## Sessions that return -/

/-- From every state the session returns a result with a property. -/
def Returns (P : α → Prop) (session : Session σ ε α) : Prop :=
  ∀ s, ∃ a t, session s = (.ok a, t) ∧ P a

/-- A result with the property is returned. -/
theorem returns_pure {P : α → Prop} {a : α} (ha : P a) :
    Returns P (pure a : Session σ ε α) :=
  fun s => ⟨a, s, rfl, ha⟩

/-- The value of a computation without a database is returned. -/
theorem returns_lift {P : α → Prop} {result : Except ε α} {a : α} (hresult : result = .ok a)
    (ha : P a) : Returns P (liftM result : Session σ ε α) := by
  rw [hresult]
  exact fun s => ⟨a, s, rfl, ha⟩

/-- A sequence returns when both halves do, the second one on every result of the
first. -/
theorem Returns.bind {P : α → Prop} {Q : β → Prop} {first : Session σ ε α}
    {next : α → Session σ ε β} (hfirst : Returns P first)
    (hnext : ∀ a, P a → Returns Q (next a)) : Returns Q (first >>= next) := by
  intro s
  rcases hfirst s with ⟨a, t, hrun, ha⟩
  rcases hnext a ha t with ⟨b, u, hrest, hb⟩
  exact ⟨b, u, bind_eq_ok.mpr ⟨a, t, hrun, hrest⟩, hb⟩

/-! ## Failed sessions -/

/-- A failure leaves the database as it was. -/
def Atomic (session : Session σ ε α) : Prop :=
  ∀ s e t, session s = (.error e, t) → t = s

/-- A success leaves the database as it was, too. -/
def ReadOnly (session : Session σ ε α) : Prop :=
  ∀ s, (session s).2 = s

/-- A read only reads. -/
theorem readOnly_query (read : σ → Except ε α) : ReadOnly (query read) :=
  fun _ => rfl

/-- A result alone writes nothing. -/
theorem readOnly_pure (a : α) : ReadOnly (pure a : Session σ ε α) :=
  fun _ => rfl

/-- A computation without a database writes nothing. -/
theorem readOnly_lift (result : Except ε α) : ReadOnly (liftM result : Session σ ε α) :=
  fun _ => rfl

/-- Handing the database over writes nothing. -/
theorem readOnly_current : ReadOnly (current : Session σ ε σ) :=
  fun _ => rfl

/-- What never writes leaves no trace of a failure. -/
theorem ReadOnly.atomic {session : Session σ ε α} (hread : ReadOnly session) :
    Atomic session := by
  intro s e t hfail
  have hs := hread s
  rw [hfail] at hs
  exact hs

/-- A change never fails. -/
theorem atomic_update (change : σ → σ) : Atomic (update change : Session σ ε PUnit) := by
  intro s e t hfail
  simp [update] at hfail

/-- A statement writes all or nothing. -/
theorem atomic_statement (write : σ → Except ε σ) : Atomic (statement write) := by
  intro s e t hfail
  unfold statement at hfail
  split at hfail
  · simp at hfail
  · simp only [Prod.mk.injEq] at hfail
    exact hfail.2.symm

/-- A transaction leaves no trace of a failure. -/
theorem atomic_transaction (body : Session σ ε α) : Atomic (transaction body) := by
  intro s e t hfail
  unfold transaction at hfail
  split at hfail
  · simp at hfail
  · simp only [Prod.mk.injEq] at hfail
    exact hfail.2.symm

/-- A sequence runs the second session on what the first one leaves. -/
theorem bind_eq (first : Session σ ε α) (next : α → Session σ ε β) (s : σ) :
    (first >>= next) s =
      match first s with
      | (.ok a, t) => next a t
      | (.error e, t) => (.error e, t) :=
  rfl

/-! ## Sequences that start with one step -/

/-- What follows gets the database and runs on it. -/
theorem current_bind (next : σ → Session σ ε β) (s : σ) :
    ((current : Session σ ε σ) >>= next) s = next s s :=
  rfl

/-- What follows runs on the changed database. -/
theorem update_bind (change : σ → σ) (next : PUnit → Session σ ε β) (s : σ) :
    ((update change : Session σ ε PUnit) >>= next) s = next ⟨⟩ (change s) :=
  rfl

/-- What follows a check runs unless the check fails. -/
theorem failIf_bind {σ ε β : Type} (bad : Prop) [Decidable bad] (error : ε)
    (next : Unit → Session σ ε β) (s : σ) :
    ((liftM (Fallible.failIf bad error) : Session σ ε Unit) >>= next) s =
      if bad then (.error error, s) else next () s := by
  unfold Fallible.failIf
  split <;> rfl

/-- What follows gets the value, if there is one. -/
theorem okOr_bind (value : Option α) (error : ε) (next : α → Session σ ε β) (s : σ) :
    ((liftM (Fallible.okOr value error) : Session σ ε α) >>= next) s =
      match value with
      | some a => next a s
      | none => (.error error, s) := by
  cases value <;> rfl

/-- Reporting errors in another way writes nothing. -/
theorem ReadOnly.reportAs {ε' : Type u} {session : Session σ ε α} (hread : ReadOnly session)
    (report : ε → ε') : ReadOnly (reportAs session report) :=
  hread

/-- Reporting errors in another way keeps a session atomic. -/
theorem Atomic.reportAs {ε' : Type u} {session : Session σ ε α} (hatomic : Atomic session)
    (report : ε → ε') : Atomic (reportAs session report) := by
  intro s e t hfail
  simp only [Sessions.reportAs, Prod.mk.injEq] at hfail
  rcases hrun : session s with ⟨e' | a, u⟩
  · rw [← hfail.2, hrun]
    exact hatomic s e' u hrun
  · simp [hrun, Except.mapError] at hfail

/-- Reads in a row are a read. -/
theorem ReadOnly.bind_readOnly {first : Session σ ε α} {next : α → Session σ ε β}
    (hfirst : ReadOnly first) (hnext : ∀ a, ReadOnly (next a)) : ReadOnly (first >>= next) := by
  intro s
  have hread := hfirst s
  rw [bind_eq]
  rcases hrun : first s with ⟨e | a, t⟩
  · rw [hrun] at hread
    exact hread
  · rw [hrun] at hread
    simp only [hnext a t]
    exact hread

/-- A read after a session leaves the database as the session does. -/
theorem bind_readOnly_state {first : Session σ ε α} {next : α → Session σ ε β}
    (hnext : ∀ a, ReadOnly (next a)) (s : σ) : ((first >>= next) s).2 = (first s).2 := by
  rw [bind_eq]
  rcases first s with ⟨e | a, t⟩
  · rfl
  · exact hnext a t

/-- Reads before an atomic session keep it atomic. -/
theorem ReadOnly.bind {first : Session σ ε α} {next : α → Session σ ε β}
    (hfirst : ReadOnly first) (hnext : ∀ a, Atomic (next a)) : Atomic (first >>= next) := by
  intro s e t hfail
  have hread := hfirst s
  rw [bind_eq] at hfail
  rcases hrun : first s with ⟨e' | a, u⟩
  · simp only [hrun, Prod.mk.injEq] at hfail hread
    rw [← hfail.2, hread]
  · simp only [hrun] at hfail hread
    rw [hnext a u e t hfail, hread]

/-- A result computed from an atomic session keeps it atomic. -/
theorem Atomic.bind_pure {first : Session σ ε α} (hfirst : Atomic first) (f : α → β) :
    Atomic (first >>= fun a => pure (f a)) := by
  intro s e t hfail
  rw [bind_eq] at hfail
  rcases hrun : first s with ⟨e' | a, u⟩
  · simp only [hrun, Prod.mk.injEq] at hfail
    rw [← hfail.2, hfirst s e' u hrun]
  · simp [hrun, pure] at hfail

/-! ## What a session leaves -/

/-- The database that the session leaves is related to the one it found. -/
def Leaves (R : σ → σ → Prop) (session : Session σ ε α) : Prop :=
  ∀ s, R s (session s).2

section Leaves

variable {R : σ → σ → Prop}

/-- A session that only reads leaves the database in every reflexive relation. -/
theorem ReadOnly.leaves (hrefl : ∀ s, R s s) {session : Session σ ε α}
    (hread : ReadOnly session) : Leaves R session := by
  intro s
  rw [hread s]
  exact hrefl s

/-- A statement leaves what its write leaves, or nothing new. -/
theorem leaves_statement (hrefl : ∀ s, R s s) {write : σ → Except ε σ}
    (hwrite : ∀ s t, write s = .ok t → R s t) : Leaves R (statement write) := by
  intro s
  rcases hs : write s with e | t
  · rw [statement_of_eq_error hs]
    exact hrefl s
  · have hrun : statement write s = (.ok ⟨⟩, t) := statement_eq_ok.mpr hs
    rw [hrun]
    exact hwrite s t hs

/-- A sequence leaves what its halves leave, one after the other. -/
theorem Leaves.bind (htrans : ∀ s t u, R s t → R t u → R s u) {first : Session σ ε α}
    {next : α → Session σ ε β} (hfirst : Leaves R first) (hnext : ∀ a, Leaves R (next a)) :
    Leaves R (first >>= next) := by
  intro s
  have hs := hfirst s
  rw [bind_eq]
  rcases hrun : first s with ⟨e | a, t⟩
  · rw [hrun] at hs
    exact hs
  · rw [hrun] at hs
    exact htrans s t _ hs (hnext a t)

/-- A computation without a database in front. -/
theorem leaves_lift_bind (hrefl : ∀ s, R s s) {result : Except ε α} {next : α → Session σ ε β}
    (hnext : ∀ a, result = .ok a → Leaves R (next a)) :
    Leaves R ((liftM result : Session σ ε α) >>= next) := by
  rcases result with e | a
  · exact fun s => hrefl s
  · exact hnext a rfl

/-- A transaction leaves what its body leaves, or nothing new. -/
theorem leaves_transaction (hrefl : ∀ s, R s s) {body : Session σ ε α} (hbody : Leaves R body) :
    Leaves R (transaction body) := by
  intro s
  have hs := hbody s
  rcases hrun : body s with ⟨e | a, t⟩
  · rw [transaction_of_eq_error hrun]
    exact hrefl s
  · rw [transaction_eq_ok.mpr hrun]
    rw [hrun] at hs
    exact hs

/-- A loop leaves what its steps leave, one after the other. -/
theorem leaves_forM (hrefl : ∀ s, R s s) (htrans : ∀ s t u, R s t → R t u → R s u)
    {body : α → Session σ ε PUnit} (hbody : ∀ a, Leaves R (body a)) (items : List α) :
    Leaves R (forM items body : Session σ ε PUnit) := by
  induction items with
  | nil => exact (readOnly_pure _).leaves hrefl
  | cons a items ih =>
      rw [List.forM_cons]
      exact (hbody a).bind htrans fun _ => ih

end Leaves

/-! ## Sessions on related databases -/

/-- On related databases the session has the same result, and it leaves related
databases. -/
def Respects (R : σ → σ → Prop) (session : Session σ ε α) : Prop :=
  ∀ s t, R s t → (session s).1 = (session t).1 ∧ R (session s).2 (session t).2

section Respects

variable {R : σ → σ → Prop}

/-- A result alone is the same on related databases. -/
theorem respects_pure (a : α) : Respects R (pure a : Session σ ε α) :=
  fun _ _ hrelated => ⟨rfl, hrelated⟩

/-- A computation without a database is the same on related databases. -/
theorem respects_lift (result : Except ε α) : Respects R (liftM result : Session σ ε α) :=
  fun _ _ hrelated => ⟨rfl, hrelated⟩

/-- A read that finds the same on related databases. -/
theorem respects_query {read : σ → Except ε α} (hread : ∀ s t, R s t → read s = read t) :
    Respects R (query read) :=
  fun s t hrelated => ⟨hread s t hrelated, hrelated⟩

/-- A statement that fails alike, and writes alike where it does not fail. -/
theorem respects_statement {write : σ → Except ε σ}
    (hwrite : ∀ s t, R s t → (∃ e, write s = .error e ∧ write t = .error e) ∨
      ∃ s' t', write s = .ok s' ∧ write t = .ok t' ∧ R s' t') :
    Respects R (statement write) := by
  intro s t hrelated
  rcases hwrite s t hrelated with ⟨e, hs, ht⟩ | ⟨s', t', hs, ht, hnext⟩
  · simp only [statement, hs, ht, true_and]
    exact hrelated
  · simp only [statement, hs, ht, true_and]
    exact hnext

/-- A sequence respects what its halves respect. -/
theorem Respects.bind {first : Session σ ε α} {next : α → Session σ ε β}
    (hfirst : Respects R first) (hnext : ∀ a, Respects R (next a)) :
    Respects R (first >>= next) := by
  intro s t hrelated
  rcases hfirst s t hrelated with ⟨hsame, hstates⟩
  rw [bind_eq, bind_eq]
  rcases hs : first s with ⟨e | a, s'⟩ <;> rcases ht : first t with ⟨e' | a', t'⟩ <;>
    simp only [hs, ht, Except.error.injEq, Except.ok.injEq, reduceCtorEq] at hsame hstates
  · subst hsame
    exact ⟨rfl, hstates⟩
  · subst hsame
    exact hnext a s' t' hstates

/-- A computation without a database in front. -/
theorem respects_lift_bind {result : Except ε α} {next : α → Session σ ε β}
    (hnext : ∀ a, result = .ok a → Respects R (next a)) :
    Respects R ((liftM result : Session σ ε α) >>= next) := by
  rcases result with e | a
  · exact fun _ _ hrelated => ⟨rfl, hrelated⟩
  · exact hnext a rfl

/-- A transaction that fails is rolled back on both sides. -/
theorem respects_transaction {body : Session σ ε α} (hbody : Respects R body) :
    Respects R (transaction body) := by
  intro s t hrelated
  rcases hbody s t hrelated with ⟨hsame, hstates⟩
  simp only [transaction]
  rcases hs : body s with ⟨e | a, s'⟩ <;> rcases ht : body t with ⟨e' | a', t'⟩ <;>
    simp only [hs, ht, Except.error.injEq, Except.ok.injEq, reduceCtorEq] at hsame hstates
  · subst hsame
    exact ⟨rfl, hrelated⟩
  · subst hsame
    exact ⟨rfl, hstates⟩

/-- A loop respects what each of its steps respects. -/
theorem respects_forM {body : α → Session σ ε PUnit} (hbody : ∀ a, Respects R (body a))
    (items : List α) : Respects R (forM items body : Session σ ε PUnit) := by
  induction items with
  | nil => exact respects_pure _
  | cons a items ih =>
      rw [List.forM_cons]
      exact (hbody a).bind fun _ => ih

end Respects

end Sessions
