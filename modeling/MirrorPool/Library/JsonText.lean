import Mathlib.Data.List.Basic
import Mathlib.Tactic.Common

/-!
# ASCII and compact JSON text

Byte strings of text: ASCII literals, and the compact JSON of a record, with
integers in decimal, byte arrays as lists of integers, and the fields of a
record in order.

Main results:

- Definitions {lit}`jsonNumber`, {lit}`jsonBytes`, and {lit}`jsonObject`: the
  parts of a compact JSON text.
- Theorem {lit}`append_separator_inj`: a separator that occurs in neither
  prefix splits a byte string in one way.
-/

/-- The bytes of an ASCII literal. -/
def ascii (text : String) : List UInt8 :=
  text.toList.map fun c => UInt8.ofNat c.toNat

/-- A separator that occurs in neither prefix splits a byte string in one way. -/
theorem append_separator_inj {α : Type} {separator : α} {a b s t : List α}
    (ha : separator ∉ a) (hb : separator ∉ b)
    (happend : a ++ separator :: s = b ++ separator :: t) : a = b ∧ s = t := by
  induction a generalizing b with
  | nil =>
      cases b with
      | nil => simpa using happend
      | cons y b =>
          simp only [List.nil_append, List.cons_append, List.cons.injEq] at happend
          exact absurd (by simp [happend.1]) hb
  | cons x a ih =>
      cases b with
      | nil =>
          simp only [List.nil_append, List.cons_append, List.cons.injEq] at happend
          exact absurd (by simp [happend.1]) ha
      | cons y b =>
          simp only [List.cons_append, List.cons.injEq] at happend
          simp only [List.mem_cons, not_or] at ha hb
          rcases ih ha.2 hb.2 happend.2 with ⟨rfl, rfl⟩
          exact ⟨by rw [happend.1], rfl⟩

namespace JsonText

/-- A natural number in decimal. -/
def jsonNumber (n : Nat) : List UInt8 :=
  (Nat.toDigits 10 n).map fun c => UInt8.ofNat c.toNat

/-- An integer in decimal, with a sign when it is negative. -/
def jsonInteger (n : Int) : List UInt8 :=
  if n < 0 then 45 :: jsonNumber n.natAbs else jsonNumber n.natAbs

/-- An ASCII literal in quotes. -/
def jsonString (text : String) : List UInt8 :=
  34 :: (ascii text ++ [34])

/-- Texts between two brackets, with commas between them. -/
def jsonSequence (opening closing : UInt8) (texts : List (List UInt8)) : List UInt8 :=
  opening :: ((texts.intersperse [44]).flatten ++ [closing])

/-- A list of values. -/
def jsonArray (texts : List (List UInt8)) : List UInt8 :=
  jsonSequence 91 93 texts

/-- A byte array as the list of its integers. -/
def jsonBytes (bytes : List UInt8) : List UInt8 :=
  jsonSequence 91 93 (bytes.map fun byte => jsonNumber byte.toNat)

/-- A record as the list of its named fields in order. -/
def jsonObject (fields : List (String × List UInt8)) : List UInt8 :=
  jsonSequence 123 125
    (fields.map fun (name, value) => 34 :: (ascii name ++ 34 :: 58 :: value))

end JsonText
