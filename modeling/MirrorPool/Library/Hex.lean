import Mathlib.Data.List.Basic
import Mathlib.Tactic.Common

/-!
# Hexadecimal text

Bytes are written as two lowercase digits each, and read in either case.  The
text is a byte string of its own.

Main results:

- Definitions {lit}`Hex.encode` and {lit}`Hex.decode`: bytes as text, and text
  as bytes.
- Theorem {lit}`Hex.decode_eq_some_iff`: a text is read as some bytes exactly
  when it is their lowercase text up to case.
- Theorem {lit}`Hex.encode_injective`: different bytes have different texts.
-/

namespace Hex

/-- The lowercase digit of a value below sixteen. -/
def digit (value : UInt8) : UInt8 :=
  if value < 10 then 48 + value else 87 + value

/-- Bytes as lowercase text, the high half of each byte first. -/
def encode (bytes : List UInt8) : List UInt8 :=
  bytes.flatMap fun byte => [digit (byte / 16), digit (byte % 16)]

/-- The value of a digit in either case. -/
def value (char : UInt8) : Option UInt8 :=
  if 65 ≤ char ∧ char ≤ 70 then some (char - 65 + 10)
  else if 97 ≤ char ∧ char ≤ 102 then some (char - 97 + 10)
  else if 48 ≤ char ∧ char ≤ 57 then some (char - 48)
  else none

/-- Text as bytes.  A text of odd length and a text with another character are
refused. -/
def decode : List UInt8 → Option (List UInt8)
  | [] => some []
  | [_] => none
  | high :: low :: text => do
      let high ← value high
      let low ← value low
      let bytes ← decode text
      return (high <<< 4 ||| low) :: bytes

/-- An ASCII letter in lowercase. -/
def lower (char : UInt8) : UInt8 :=
  if 65 ≤ char ∧ char ≤ 90 then char + 32 else char

/-! ## Digits -/

/-- What is decidable of each byte is decidable of all of them. -/
instance decidableForallByte {P : UInt8 → Prop} [DecidablePred P] : Decidable (∀ byte, P byte) :=
  decidable_of_iff (∀ n : Fin 256, P (UInt8.ofFin n))
    ⟨fun hall byte => hall byte.toFin, fun hall _ => hall _⟩

theorem value_digit : ∀ half < (16 : UInt8), value (digit half) = some half := by
  decide +kernel

theorem value_lower : ∀ char, value (lower char) = value char := by
  decide +kernel

/-- A digit of a value is its lowercase digit up to case. -/
theorem lower_of_value {char half : UInt8} (hvalue : value char = some half) :
    half < 16 ∧ lower char = digit half := by
  have hall : ∀ char, (value char).all fun half => half < 16 ∧ lower char = digit half := by
    decide +kernel
  simpa [hvalue] using hall char

/-- A character has a value exactly when it is the digit of the value up to
case. -/
theorem value_eq_some_iff {char half : UInt8} (hhalf : half < 16) :
    value char = some half ↔ lower char = digit half := by
  constructor
  · intro hvalue
    exact (lower_of_value hvalue).2
  · intro hlower
    rw [← value_lower, hlower, value_digit half hhalf]

/-! ## Bytes -/

/-- A byte is put together from its halves. -/
theorem halves_eq_iff {high low byte : UInt8} (hhigh : high < 16) (hlow : low < 16) :
    high <<< 4 ||| low = byte ↔ high = byte / 16 ∧ low = byte % 16 := by
  have hpair : ∀ low < (16 : UInt8), ∀ high < (16 : UInt8),
      (high <<< 4 ||| low) / 16 = high ∧ (high <<< 4 ||| low) % 16 = low := by
    decide +kernel
  have hbyte : ∀ byte : UInt8, (byte / 16) <<< 4 ||| byte % 16 = byte := by
    decide +kernel
  constructor
  · rintro rfl
    exact ⟨(hpair low hlow high hhigh).1.symm, (hpair low hlow high hhigh).2.symm⟩
  · rintro ⟨rfl, rfl⟩
    exact hbyte byte

theorem halves_lt : ∀ byte : UInt8, byte / 16 < 16 ∧ byte % 16 < 16 := by
  decide +kernel

@[simp] theorem encode_nil : encode [] = [] := rfl

theorem encode_cons (byte : UInt8) (bytes : List UInt8) :
    encode (byte :: bytes) = digit (byte / 16) :: digit (byte % 16) :: encode bytes := rfl

@[simp] theorem length_encode (bytes : List UInt8) : (encode bytes).length = 2 * bytes.length := by
  induction bytes with
  | nil => rfl
  | cons byte bytes ih =>
      rw [encode_cons, List.length_cons, List.length_cons, ih, List.length_cons]
      omega

/-- A text is read as some bytes exactly when it is their lowercase text up to
case. -/
theorem decode_eq_some_iff {text bytes : List UInt8} :
    decode text = some bytes ↔ text.map lower = encode bytes := by
  induction text using decode.induct generalizing bytes with
  | case1 =>
      cases bytes with
      | nil => simp [decode]
      | cons byte bytes => simp [decode, encode_cons]
  | case2 char =>
      cases bytes with
      | nil => simp [decode]
      | cons byte bytes => simp [decode, encode_cons]
  | case3 high low text ih =>
      constructor
      · intro hdecode
        simp only [decode, Option.bind_eq_bind, Option.bind_eq_some_iff, Option.pure_def] at hdecode
        rcases hdecode with ⟨first, hfirst, second, hsecond, rest, hrest, hbytes⟩
        rcases Option.some.inj hbytes with rfl
        rcases lower_of_value hfirst with ⟨hfirstLt, hhigh⟩
        rcases lower_of_value hsecond with ⟨hsecondLt, hlow⟩
        rcases (halves_eq_iff hfirstLt hsecondLt).mp rfl with ⟨hdiv, hmod⟩
        rw [encode_cons, ← hdiv, ← hmod, List.map_cons, List.map_cons, hhigh, hlow, ih.mp hrest]
      · intro htext
        cases bytes with
        | nil => simp at htext
        | cons byte bytes =>
            rw [encode_cons, List.map_cons, List.map_cons, List.cons.injEq, List.cons.injEq]
              at htext
            rcases htext with ⟨hhigh, hlow, hrest⟩
            rcases halves_lt byte with ⟨hdiv, hmod⟩
            have hbyte := (halves_eq_iff hdiv hmod).mpr ⟨rfl, rfl⟩
            simp only [decode, (value_eq_some_iff hdiv).mpr hhigh,
              (value_eq_some_iff hmod).mpr hlow,
              ih.mpr hrest, Option.bind_eq_bind, Option.bind_some, Option.pure_def, hbyte]

/-- Lowercase text has no uppercase letters. -/
theorem map_lower_encode (bytes : List UInt8) : (encode bytes).map lower = encode bytes := by
  have hdigit : ∀ half < (16 : UInt8), lower (digit half) = digit half := by
    decide +kernel
  induction bytes with
  | nil => rfl
  | cons byte bytes ih =>
      rcases halves_lt byte with ⟨hdiv, hmod⟩
      rw [encode_cons, List.map_cons, List.map_cons, ih, hdigit _ hdiv, hdigit _ hmod]

/-- What was written is read back. -/
@[simp] theorem decode_encode (bytes : List UInt8) : decode (encode bytes) = some bytes :=
  decode_eq_some_iff.mpr (map_lower_encode bytes)

/-- Different bytes have different texts. -/
theorem encode_injective : Function.Injective encode := by
  intro first second hsame
  have hdecode := congrArg decode hsame
  rwa [decode_encode, decode_encode, Option.some.injEq] at hdecode

end Hex
