import Mathlib.Data.List.Lex
import Mathlib.Order.Fin.Basic
import MirrorPool.Core.Digest
import MirrorPool.Library.Hex

/-!
# Digests as arrays

The digests of the program: arrays of 32 bytes in lexicographic order, with
their hexadecimal text.  What is proved over an abstract type of digests holds
of these.

Main results:

- Structure {lit}`Digest32`: a digest, with its order.
- Definitions {lit}`Digest32.toHex` and {lit}`Digest32.parse`: a digest as text,
  and text as a digest.
- Theorem {lit}`Digest32.parse_eq_some_iff`: a text is read as some digest exactly
  when it is the text of the digest up to case.
-/

namespace MirrorPool

/-- A 32-byte digest. -/
structure Digest32 where
  bytes : Vector UInt8 32
deriving DecidableEq, Repr

namespace Digest32

/-- The bytes of a digest as they are compared. -/
def key (digest : Digest32) : List (Fin 256) :=
  digest.bytes.toList.map UInt8.toFin

theorem key_injective : Function.Injective key := by
  rintro ⟨first⟩ ⟨second⟩ hsame
  have hbytes := List.map_injective_iff.mpr (fun a b hab => UInt8.toFin_inj.mp hab) hsame
  exact congrArg Digest32.mk (Vector.toList_inj.mp hbytes)

/-- Digests are compared byte by byte. -/
instance : LinearOrder Digest32 :=
  LinearOrder.lift' key key_injective

/-- Lowercase hexadecimal representation. -/
def toHex (digest : Digest32) : List UInt8 :=
  Hex.encode digest.bytes.toList

/-- The digest of an array of the right length. -/
def ofBytes? (bytes : List UInt8) : Option Digest32 :=
  if hlength : bytes.length = 32 then some ⟨⟨bytes.toArray, by simpa using hlength⟩⟩ else none

/-- Read a digest from hexadecimal text. -/
def parse (text : List UInt8) : Option Digest32 := do
  let bytes ← Hex.decode text
  ofBytes? bytes

theorem ofBytes?_eq_some_iff {bytes : List UInt8} {digest : Digest32} :
    ofBytes? bytes = some digest ↔ digest.bytes.toList = bytes := by
  unfold ofBytes?
  split
  · rename_i hlength
    rw [Option.some.injEq]
    constructor
    · rintro rfl
      rfl
    · intro hbytes
      rcases digest with ⟨array⟩
      exact congrArg Digest32.mk (Vector.toList_inj.mp hbytes.symm)
  · rename_i hlength
    simp only [reduceCtorEq, false_iff]
    rintro rfl
    exact hlength (by simp)

/-- A text is read as some digest exactly when it is the text of the digest up to
case. -/
theorem parse_eq_some_iff {text : List UInt8} {digest : Digest32} :
    parse text = some digest ↔ text.map Hex.lower = digest.toHex := by
  simp only [parse, Option.bind_eq_bind, Option.bind_eq_some_iff, ofBytes?_eq_some_iff,
    Hex.decode_eq_some_iff, toHex]
  constructor
  · rintro ⟨bytes, htext, rfl⟩
    exact htext
  · intro htext
    exact ⟨_, htext, rfl⟩

/-- The text of a digest is read back. -/
@[simp] theorem parse_toHex (digest : Digest32) : parse digest.toHex = some digest :=
  parse_eq_some_iff.mpr (Hex.map_lower_encode _)

@[simp] theorem toHex_inj {first second : Digest32} :
    first.toHex = second.toHex ↔ first = second := by
  constructor
  · intro hsame
    exact Option.some.inj (by rw [← parse_toHex first, hsame, parse_toHex])
  · rintro rfl
    rfl

end Digest32

end MirrorPool
