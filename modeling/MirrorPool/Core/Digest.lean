import MirrorPool.Library.JsonReading

/-!
# Domain-separated digests

Digests are an abstract type.  A digest is computed from the bytes that are fed
to the hash function: a fixed prefix, the name of a domain, a zero byte, and the
payload.  The hash function is a parameter; that it has no collisions is an
assumption of the results that need it.

Main results:

- Definition {lit}`Blake3.hash`: the digest of a payload in a domain.
- Theorem {lit}`Blake3.CollisionFree.hash_inj`: without collisions a digest
  determines its domain and its payload.
- Theorem {lit}`Blake3.verbatim_collisionFree`: such hash functions exist.
-/

namespace MirrorPool

/-- The hash function over an abstract type of digests, and the bytes of a
digest. -/
structure Blake3 (D : Type) where
  finalize : List UInt8 → D
  bytes : D → List UInt8

namespace Blake3

variable {D : Type}

/-- Hash domain-separated bytes, the source's {lit}`Digest32::hash`. -/
def hash (h : Blake3 D) (domain : String) (payload : List UInt8) : D :=
  h.finalize (ascii "mirror-pool/v1/" ++ (ascii domain ++ 0 :: payload))

/-- The hash function has no collisions, and two digests in a row can be told
apart, as arrays of one fixed length can. -/
structure CollisionFree (h : Blake3 D) : Prop where
  finalize_inj : ∀ {a b : List UInt8}, h.finalize a = h.finalize b → a = b
  bytes_pair : ∀ {a b c d : D}, h.bytes a ++ h.bytes b = h.bytes c ++ h.bytes d → a = c ∧ b = d

/-- Without collisions a digest determines its domain and its payload. -/
theorem CollisionFree.hash_inj {h : Blake3 D} (hfree : h.CollisionFree)
    {domain domain' : String} {payload payload' : List UInt8} (hdomain : 0 ∉ ascii domain)
    (hdomain' : 0 ∉ ascii domain') (hhash : h.hash domain payload = h.hash domain' payload') :
    ascii domain = ascii domain' ∧ payload = payload' := by
  have hbytes := List.append_cancel_left (hfree.finalize_inj hhash)
  exact append_separator_inj hdomain hdomain' hbytes

/-- Two digests are told apart by their bytes. -/
theorem CollisionFree.bytes_injective {h : Blake3 D} (hfree : h.CollisionFree) :
    Function.Injective h.bytes := by
  intro a b hsame
  exact (hfree.bytes_pair (congrArg₂ (· ++ ·) hsame hsame)).1

theorem readable_bytes {h : Blake3 D} (hbytes : Function.Injective h.bytes) :
    JsonText.Readable fun digest => JsonText.jsonBytes (h.bytes digest) :=
  JsonText.readable_jsonBytes.comp hbytes

/-! ## Two hash functions -/

/-- The bytes of a list of byte values, each one marked, with an end mark. -/
def markedBytes : List (Fin 256) → List UInt8
  | [] => [0]
  | value :: values => 1 :: UInt8.ofNat value.val :: markedBytes values

/-- The hash function whose digest is the whole message. -/
def verbatim : Blake3 (List (Fin 256)) where
  finalize message := message.map UInt8.toFin
  bytes := markedBytes

/-- The digest of one byte. -/
def oneByte (byte : UInt8) : List (Fin 256) :=
  verbatim.finalize [byte]

/-- A hash function for evaluation: the sum of the bytes. -/
def checksum : Blake3 Nat where
  finalize message := message.foldl (fun total byte => total + byte.toNat) 0
  bytes digest := JsonText.jsonNumber digest

/-- Marked bytes in a row can be told apart. -/
theorem markedBytes_append_inj {a b : List (Fin 256)} {s t : List UInt8}
    (happend : markedBytes a ++ s = markedBytes b ++ t) : a = b ∧ s = t := by
  induction a generalizing b with
  | nil =>
      cases b with
      | nil => simpa [markedBytes] using happend
      | cons y b => simp [markedBytes] at happend
  | cons x a ih =>
      cases b with
      | nil => simp [markedBytes] at happend
      | cons y b =>
          simp only [markedBytes, List.cons_append, List.cons.injEq, true_and] at happend
          rcases happend with ⟨hvalue, hrest⟩
          rcases ih hrest with ⟨rfl, hst⟩
          have hxy : x = y := by
            have hx := congrArg UInt8.toNat hvalue
            simp only [UInt8.toNat_ofNat'] at hx
            omega
          exact ⟨by rw [hxy], hst⟩

/-- Keeping the whole message leaves no collisions. -/
theorem verbatim_collisionFree : verbatim.CollisionFree where
  finalize_inj := by
    intro a b hab
    exact List.map_injective_iff.mpr (fun x y hxy => UInt8.toFin_inj.mp hxy) hab
  bytes_pair := by
    intro a b c d hpair
    rcases markedBytes_append_inj hpair with ⟨hac, hbd⟩
    rw [← List.append_nil (verbatim.bytes b), ← List.append_nil (verbatim.bytes d)] at hbd
    exact ⟨hac, (markedBytes_append_inj hbd).1⟩

end Blake3

end MirrorPool
