import Mathlib.Data.UInt
import Mathlib.Logic.Equiv.Basic
import Mathlib.Tactic.Common

/-!
# Prefix codecs

A prefix codec reads one value from the front of a byte string and returns what
follows it.  Each codec carries the law that reading succeeds exactly on the
encoding of the value it returns, so that round trips, injectivity and the
uniqueness of the parse hold for every format built from the combinators below.
A fixed codec also carries the length shared by all its encodings.

Main results:

- Theorem {lit}`PrefixCodec.decode_append`: what was encoded is read back, with
  the following bytes untouched.
- Theorem {lit}`PrefixCodec.encode_append_inj`: two encodings inside one byte
  string agree.
- Definitions {lit}`FixedCodec.pair` and {lit}`FixedCodec.iso`: records are
  products of their fields in order.
- Theorems {lit}`FixedCodec.read_padded` and {lit}`FixedCodec.getElem?_padded`: a
  value written into a larger zero-filled buffer is read back, and there are only
  zeros behind it.
-/

universe u

/-- A reader and a writer for values at the front of a byte string. -/
structure PrefixCodec (α : Type u) where
  encode : α → List UInt8
  decode : List UInt8 → Option (α × List UInt8)
  decode_eq_some : ∀ {bytes : List UInt8} {a : α} {rest : List UInt8},
    decode bytes = some (a, rest) ↔ bytes = encode a ++ rest

/-- A prefix codec all of whose encodings have the same length. -/
structure FixedCodec (α : Type u) (width : Nat) extends PrefixCodec α where
  length_encode : ∀ a, (encode a).length = width

namespace PrefixCodec

variable {α : Type u}

/-- Reading returns the encoded value and the bytes after it. -/
@[simp] theorem decode_append (codec : PrefixCodec α) (a : α) (rest : List UInt8) :
    codec.decode (codec.encode a ++ rest) = some (a, rest) :=
  codec.decode_eq_some.mpr rfl

/-- One byte string starts with the encoding of at most one value. -/
theorem encode_append_inj (codec : PrefixCodec α) {a b : α} {rest rest' : List UInt8}
    (heq : codec.encode a ++ rest = codec.encode b ++ rest') :
    a = b ∧ rest = rest' := by
  have hread := codec.decode_append a rest
  rw [heq, codec.decode_append] at hread
  simp only [Option.some.injEq, Prod.mk.injEq] at hread
  exact ⟨hread.1.symm, hread.2.symm⟩

/-- Read one value from the front and ignore what follows it. -/
def read (codec : PrefixCodec α) (bytes : List UInt8) : Option α :=
  (codec.decode bytes).map Prod.fst

/-- Read one value that must use up the whole byte string. -/
def readAll (codec : PrefixCodec α) (bytes : List UInt8) : Option α :=
  match codec.decode bytes with
  | some (a, []) => some a
  | _ => none

theorem read_eq_some (codec : PrefixCodec α) {bytes : List UInt8} {a : α} :
    codec.read bytes = some a ↔ ∃ rest, bytes = codec.encode a ++ rest := by
  simp only [read, Option.map_eq_some_iff, Prod.exists, exists_and_right, exists_eq_right,
    codec.decode_eq_some]

@[simp] theorem read_append (codec : PrefixCodec α) (a : α) (rest : List UInt8) :
    codec.read (codec.encode a ++ rest) = some a :=
  codec.read_eq_some.mpr ⟨rest, rfl⟩

theorem readAll_eq_some (codec : PrefixCodec α) {bytes : List UInt8} {a : α} :
    codec.readAll bytes = some a ↔ bytes = codec.encode a := by
  unfold readAll
  constructor
  · intro hread
    split at hread
    · rename_i b hdecode
      simp only [Option.some.injEq] at hread
      subst hread
      simpa using codec.decode_eq_some.mp hdecode
    · contradiction
  · intro heq
    have hdecode : codec.decode bytes = some (a, []) :=
      codec.decode_eq_some.mpr (by simpa using heq)
    rw [hdecode]

end PrefixCodec

namespace FixedCodec

variable {α β : Type u} {m n : Nat}

/-! ## Reading and writing inside a buffer -/

/-- A readable buffer is at least as long as the encoding. -/
theorem width_le_of_read (codec : FixedCodec α n) {bytes : List UInt8} {a : α}
    (hread : codec.read bytes = some a) : n ≤ bytes.length := by
  rcases codec.read_eq_some.mp hread with ⟨rest, rfl⟩
  rw [List.length_append, codec.length_encode]
  omega

/-- The encoding of a value followed by zeros up to the length of the buffer. -/
def padded (codec : FixedCodec α n) (a : α) (size : Nat) : List UInt8 :=
  codec.encode a ++ List.replicate (size - n) 0

/-- A value written into a larger zero-filled buffer is read back. -/
@[simp] theorem read_padded (codec : FixedCodec α n) (a : α) (size : Nat) :
    codec.read (codec.padded a size) = some a :=
  codec.read_append a _

/-- Writing keeps the length of a buffer that is large enough. -/
theorem length_padded (codec : FixedCodec α n) (a : α) {size : Nat} (hsize : n ≤ size) :
    (codec.padded a size).length = size := by
  rw [padded, List.length_append, codec.length_encode, List.length_replicate]
  omega

/-- Behind the encoding there are only zeros. -/
theorem getElem?_padded (codec : FixedCodec α n) (a : α) {size i : Nat} (hpast : n ≤ i)
    (hi : i < size) : (codec.padded a size)[i]? = some 0 := by
  have hlength := codec.length_encode a
  rw [padded, List.getElem?_append_right (by omega), hlength,
    List.getElem?_replicate_of_lt (by omega)]

/-! ## Combinators -/

/-- Read a fixed number of bytes with a partial inverse of the writer. -/
def ofBytes (n : Nat) (write : α → List UInt8) (parse : List UInt8 → Option α)
    (length_write : ∀ a, (write a).length = n)
    (parse_eq_some : ∀ {bytes : List UInt8} {a : α}, bytes.length = n →
      (parse bytes = some a ↔ bytes = write a)) : FixedCodec α n where
  encode := write
  decode bytes :=
    if n ≤ bytes.length then
      (parse (bytes.take n)).map fun a => (a, bytes.drop n)
    else none
  decode_eq_some := by
    intro bytes a rest
    constructor
    · intro hdecode
      split at hdecode
      · rename_i hlong
        rcases Option.map_eq_some_iff.mp hdecode with ⟨b, hparse, hpair⟩
        simp only [Prod.mk.injEq] at hpair
        rcases hpair with ⟨rfl, rfl⟩
        have htake : (bytes.take n).length = n := by
          rw [List.length_take]
          omega
        rw [← (parse_eq_some htake).mp hparse, List.take_append_drop]
      · contradiction
    · rintro rfl
      have hlen := length_write a
      have hlong : n ≤ (write a ++ rest).length := by
        rw [List.length_append]
        omega
      rw [if_pos hlong, List.take_left' hlen, List.drop_left' hlen,
        (parse_eq_some hlen).mpr rfl]
      rfl
  length_encode := length_write

/-- Two values one after the other. -/
def pair (first : FixedCodec α m) (second : FixedCodec β n) : FixedCodec (α × β) (m + n) where
  encode value := first.encode value.1 ++ second.encode value.2
  decode bytes := do
    let (a, rest) ← first.decode bytes
    let (b, rest) ← second.decode rest
    return ((a, b), rest)
  decode_eq_some := by
    rintro bytes ⟨a, b⟩ rest
    simp only [Option.pure_def, Option.bind_eq_bind, Option.bind_eq_some_iff, Option.some.injEq,
      Prod.exists, Prod.mk.injEq, first.decode_eq_some, second.decode_eq_some]
    constructor
    · rintro ⟨a', rest', rfl, b', rest'', rfl, ⟨rfl, rfl⟩, rfl⟩
      rw [List.append_assoc]
    · rintro rfl
      exact ⟨a, second.encode b ++ rest, List.append_assoc _ _ _, b, rest, rfl, ⟨rfl, rfl⟩, rfl⟩
  length_encode value := by
    rw [List.length_append, first.length_encode, second.length_encode]

/-- Transport a codec along a bijection, such as a record and its fields. -/
def iso (codec : FixedCodec α n) (e : α ≃ β) : FixedCodec β n where
  encode value := codec.encode (e.symm value)
  decode bytes := (codec.decode bytes).map fun (a, rest) => (e a, rest)
  decode_eq_some := by
    intro bytes b rest
    simp only [Option.map_eq_some_iff, Prod.exists, Prod.mk.injEq, codec.decode_eq_some]
    constructor
    · rintro ⟨a, rest', rfl, rfl, rfl⟩
      rw [e.symm_apply_apply]
    · rintro rfl
      exact ⟨e.symm b, rest, rfl, e.apply_symm_apply b, rfl⟩
  length_encode value := codec.length_encode _

/-! ## Primitive formats -/

/-- A single byte that names one value of a finite set. -/
def tag (write : α → UInt8) (parse : UInt8 → Option α)
    (parse_eq_some : ∀ {byte : UInt8} {a : α}, parse byte = some a ↔ byte = write a) :
    FixedCodec α 1 :=
  ofBytes 1 (fun a => [write a]) (fun bytes => bytes.head?.bind parse) (fun _ => rfl) (by
    intro bytes a hlen
    rcases List.length_eq_one_iff.mp hlen with ⟨byte, rfl⟩
    simp [parse_eq_some])

/-- A byte stands for itself. -/
def u8 : FixedCodec UInt8 1 :=
  tag id some (by intro byte a; simp)

/-- A truth value is the byte zero or one; every other byte is refused. -/
def bool : FixedCodec Bool 1 :=
  tag (fun b => if b then 1 else 0)
    (fun byte => if byte = 0 then some false else if byte = 1 then some true else none) (by
      intro byte b
      split
      · cases b <;> simp_all
      · split
        · cases b <;> simp_all
        · cases b <;> simp_all)

/-- A byte array of a fixed length, without a length prefix. -/
def bytes (n : Nat) : FixedCodec (Vector UInt8 n) n :=
  ofBytes n Vector.toList
    (fun list => if h : list.length = n then some ⟨list.toArray, by simpa using h⟩ else none)
    (fun v => v.length_toList) (by
      intro list v hlen
      simp only [hlen, dif_pos, Option.some.injEq]
      constructor
      · rintro rfl
        rfl
      · rintro rfl
        rfl)

/-! ## Little-endian words -/

/-- The lowest bytes of a number, least significant first. -/
def leBytes : Nat → Nat → List UInt8
  | 0, _ => []
  | n + 1, v => UInt8.ofNat (v % 256) :: leBytes n (v / 256)

/-- The number with the given bytes, least significant first. -/
def ofLeBytes : List UInt8 → Nat
  | [] => 0
  | byte :: rest => byte.toNat + 256 * ofLeBytes rest

theorem length_leBytes (n v : Nat) : (leBytes n v).length = n := by
  induction n generalizing v with
  | zero => rfl
  | succ n ih => simp [leBytes, ih]

theorem ofLeBytes_lt (list : List UInt8) : ofLeBytes list < 256 ^ list.length := by
  induction list with
  | nil => simp [ofLeBytes]
  | cons byte rest ih =>
      have hbyte := byte.toNat_lt
      rw [ofLeBytes, List.length_cons, Nat.pow_succ]
      omega

/-- Writing a number that fits and reading it back returns it. -/
theorem ofLeBytes_leBytes {n v : Nat} (hfit : v < 256 ^ n) : ofLeBytes (leBytes n v) = v := by
  induction n generalizing v with
  | zero => simp_all [leBytes, ofLeBytes]
  | succ n ih =>
      have hquot : v / 256 < 256 ^ n := by
        rw [Nat.div_lt_iff_lt_mul (by decide)]
        rwa [← Nat.pow_succ]
      have hlow : (UInt8.ofNat (v % 256)).toNat = v % 256 :=
        UInt8.toNat_ofNat_of_lt' (Nat.mod_lt _ (by decide))
      rw [leBytes, ofLeBytes, ih hquot, hlow]
      omega

/-- Reading bytes and writing the number back returns the bytes. -/
theorem leBytes_ofLeBytes (list : List UInt8) :
    leBytes list.length (ofLeBytes list) = list := by
  induction list with
  | nil => rfl
  | cons byte rest ih =>
      have hbyte := byte.toNat_lt
      have hlow : (byte.toNat + 256 * ofLeBytes rest) % 256 = byte.toNat := by
        omega
      have hhigh : (byte.toNat + 256 * ofLeBytes rest) / 256 = ofLeBytes rest := by
        omega
      rw [List.length_cons, ofLeBytes, leBytes, hlow, hhigh, ih, UInt8.ofNat_toNat]

/-- A 32-bit word, least significant byte first. -/
def u32 : FixedCodec UInt32 4 :=
  ofBytes 4 (fun v => leBytes 4 v.toNat) (fun list => some (UInt32.ofNat (ofLeBytes list)))
    (fun _ => length_leBytes 4 _) (by
      intro list v hlen
      have hlt : ofLeBytes list < 2 ^ 32 := by
        simpa [hlen] using ofLeBytes_lt list
      rw [Option.some.injEq]
      constructor
      · rintro rfl
        rw [UInt32.toNat_ofNat_of_lt' hlt]
        exact (hlen ▸ leBytes_ofLeBytes list).symm
      · rintro rfl
        rw [ofLeBytes_leBytes v.toNat_lt, UInt32.ofNat_toNat])

/-- A 64-bit word, least significant byte first. -/
def u64 : FixedCodec UInt64 8 :=
  ofBytes 8 (fun v => leBytes 8 v.toNat) (fun list => some (UInt64.ofNat (ofLeBytes list)))
    (fun _ => length_leBytes 8 _) (by
      intro list v hlen
      have hlt : ofLeBytes list < 2 ^ 64 := by
        simpa [hlen] using ofLeBytes_lt list
      rw [Option.some.injEq]
      constructor
      · rintro rfl
        rw [UInt64.toNat_ofNat_of_lt' hlt]
        exact (hlen ▸ leBytes_ofLeBytes list).symm
      · rintro rfl
        rw [ofLeBytes_leBytes v.toNat_lt, UInt64.ofNat_toNat])

end FixedCodec
