import Mathlib.Data.List.Forall2
import MirrorPool.Library.JsonText

/-!
# Reading compact JSON text

A decimal number does not say where it ends, so a text is read together with
what follows it, which must not go on with a digit.  Under this condition the
texts of numbers, strings, lists and records determine their values.

Main results:

- Definition {lit}`JsonText.Readable`: values are read back from their texts.
- Theorem {lit}`JsonText.readable_jsonNumber`: decimal numbers are readable.
- Theorem {lit}`JsonText.Readable.array`: lists of readable values are readable.
- Theorem {lit}`JsonText.jsonObject_append_inj`: the text of a record determines
  the texts of its fields.
-/

namespace JsonText

universe u v

variable {α : Type u} {β : Type v}

/-! ## Decimal digits -/

/-- The byte is a decimal digit. -/
def isDigit (byte : UInt8) : Bool :=
  48 ≤ byte && byte ≤ 57

/-- The characters of a decimal number are digits. -/
theorem toNat_mem_range {n : Nat} {c : Char} (hc : c ∈ Nat.toDigits 10 n) :
    48 ≤ c.toNat ∧ c.toNat ≤ 57 :=
  Char.isDigit_iff_toNat.mp (Nat.isDigit_of_mem_toDigits (by decide) (by decide) hc)

/-- A digit character fits into one byte. -/
theorem toNat_ofNat_digit {n : Nat} {c : Char} (hc : c ∈ Nat.toDigits 10 n) :
    (UInt8.ofNat c.toNat).toNat = c.toNat := by
  have hrange := toNat_mem_range hc
  rw [UInt8.toNat_ofNat']
  omega

/-- A number is written with digits. -/
theorem isDigit_of_mem_jsonNumber {n : Nat} {byte : UInt8} (hbyte : byte ∈ jsonNumber n) :
    isDigit byte = true := by
  rcases List.mem_map.mp hbyte with ⟨c, hc, rfl⟩
  simp only [isDigit, Bool.and_eq_true, decide_eq_true_iff, UInt8.le_iff_toNat_le,
    toNat_ofNat_digit hc]
  exact toNat_mem_range hc

/-- A number has a digit. -/
theorem jsonNumber_ne_nil (n : Nat) : jsonNumber n ≠ [] := by
  rw [jsonNumber, ne_eq, List.map_eq_nil_iff]
  exact Nat.toDigits_ne_nil

/-- The digit characters are read back from the bytes. -/
theorem map_jsonNumber (n : Nat) :
    (jsonNumber n).map (fun byte => Char.ofNat byte.toNat) = Nat.toDigits 10 n := by
  rw [jsonNumber, List.map_map]
  conv_rhs => rw [← List.map_id (Nat.toDigits 10 n)]
  apply List.map_congr_left
  intro c hc
  rw [Function.comp_apply, toNat_ofNat_digit hc, Char.ofNat_toNat, id]

/-- A decimal text is the text of one number. -/
theorem jsonNumber_injective : Function.Injective jsonNumber := by
  intro m n hsame
  have hdigits := congrArg (List.map fun byte : UInt8 => Char.ofNat byte.toNat) hsame
  rw [map_jsonNumber, map_jsonNumber] at hdigits
  rw [← Nat.ofDigitChars_ten_toDigits (n := m), hdigits, Nat.ofDigitChars_ten_toDigits]

/-! ## Readable texts -/

/-- The text does not go on with a digit. -/
def Stops (text : List UInt8) : Prop :=
  ∀ byte ∈ text.head?, isDigit byte = false

/-- The end of the text ends a number. -/
theorem stops_nil : Stops [] := by
  intro byte hbyte
  cases hbyte

/-- Anything but a digit ends a number. -/
theorem stops_cons {byte : UInt8} {text : List UInt8} (hbyte : isDigit byte = false) :
    Stops (byte :: text) := by
  intro first hfirst
  rw [← Option.some.inj hfirst, hbyte]

/-- Two texts are told apart, whatever follows that is no digit. -/
def Separates (text text' : List UInt8) : Prop :=
  ∀ ⦃s t : List UInt8⦄, Stops s → Stops t → text ++ s = text' ++ t → text = text' ∧ s = t

/-- Values are read back from their texts, whatever follows that is no digit. -/
structure Readable (encode : α → List UInt8) : Prop where
  injective : Function.Injective encode
  separates : ∀ a b, Separates (encode a) (encode b)

/-- No text starts with a closing bracket, not even an empty one. -/
def Opens (encode : α → List UInt8) : Prop :=
  ∀ a s, (encode a ++ s).head? ≠ some 93

/-- Texts of values that are determined by readable values are readable. -/
theorem Readable.comp {encode : α → List UInt8} (hread : Readable encode) {f : β → α}
    (hf : Function.Injective f) : Readable fun b => encode (f b) where
  injective := hread.injective.comp hf
  separates a b := hread.separates (f a) (f b)

theorem Opens.comp {encode : α → List UInt8} (hopens : Opens encode) (f : β → α) :
    Opens fun b => encode (f b) :=
  fun b s => hopens (f b) s

/-- Readable values are told apart from the text and what follows it. -/
theorem Readable.append_inj {encode : α → List UInt8} (hread : Readable encode) {a b : α}
    {s t : List UInt8} (hs : Stops s) (ht : Stops t) (happend : encode a ++ s = encode b ++ t) :
    a = b ∧ s = t := by
  rcases hread.separates a b hs ht happend with ⟨hsame, hrest⟩
  exact ⟨hread.injective hsame, hrest⟩

/-- Texts of which none starts another one are readable. -/
theorem readable_of_prefixFree {encode : α → List UInt8}
    (hfree : ∀ a b, encode a <+: encode b → a = b) : Readable encode where
  injective a b hsame := hfree a b (hsame ▸ List.prefix_refl _)
  separates a b s t _ _ happend := by
    have hsame : a = b := by
      rcases List.prefix_or_prefix_of_prefix (List.prefix_append (encode a) s)
        (happend ▸ List.prefix_append (encode b) t) with hprefix | hprefix
      · exact hfree a b hprefix
      · exact (hfree b a hprefix).symm
    subst hsame
    exact ⟨rfl, List.append_cancel_left happend⟩

/-! ## Numbers -/

/-- A decimal number is what stands before the first byte that is no digit. -/
theorem takeWhile_jsonNumber_append (n : Nat) {s : List UInt8} (hs : Stops s) :
    (jsonNumber n ++ s).takeWhile isDigit = jsonNumber n := by
  have hrest : s.takeWhile isDigit = [] := by
    cases s with
    | nil => rfl
    | cons byte s => rw [List.takeWhile_cons_of_neg (by simp [hs byte rfl])]
  rw [List.takeWhile_append_of_pos fun byte hbyte => isDigit_of_mem_jsonNumber hbyte, hrest,
    List.append_nil]

/-- Numbers are read back, whatever follows that is no digit. -/
theorem readable_jsonNumber : Readable jsonNumber where
  injective := jsonNumber_injective
  separates m n s t hs ht happend := by
    have hsame : jsonNumber m = jsonNumber n := by
      rw [← takeWhile_jsonNumber_append m hs, happend, takeWhile_jsonNumber_append n ht]
    rw [hsame] at happend
    exact ⟨hsame, List.append_cancel_left happend⟩

/-- A decimal number starts with a digit. -/
theorem exists_jsonNumber_eq_cons (n : Nat) :
    ∃ byte rest, jsonNumber n = byte :: rest ∧ isDigit byte = true := by
  cases hnumber : jsonNumber n with
  | nil => exact absurd hnumber (jsonNumber_ne_nil n)
  | cons byte rest =>
      have hbyte : byte ∈ jsonNumber n := by
        rw [hnumber]
        exact List.mem_cons_self
      exact ⟨byte, rest, rfl, isDigit_of_mem_jsonNumber hbyte⟩

/-- No number starts with a closing bracket. -/
theorem opens_jsonNumber : Opens jsonNumber := by
  intro n s hhead
  rcases exists_jsonNumber_eq_cons n with ⟨byte, rest, hnumber, hdigit⟩
  rw [hnumber, List.cons_append, List.head?_cons, Option.some.injEq] at hhead
  rw [hhead] at hdigit
  exact absurd hdigit (by decide)

/-- Integers are read back by their sign and their digits. -/
theorem readable_jsonInteger : Readable jsonInteger := by
  have hsign (m n : Nat) (s t : List UInt8) :
      45 :: jsonNumber m ++ s ≠ jsonNumber n ++ t := by
    rcases exists_jsonNumber_eq_cons n with ⟨byte, rest, hnumber, hdigit⟩
    rw [hnumber]
    intro hsame
    rw [← (List.cons.inj hsame).1] at hdigit
    exact absurd hdigit (by decide)
  have happend : ∀ (m n : Int) (s t : List UInt8), Stops s → Stops t →
      jsonInteger m ++ s = jsonInteger n ++ t → m = n ∧ s = t := by
    intro m n s t hs ht hsame
    unfold jsonInteger at hsame
    split at hsame <;> split at hsame
    · rcases readable_jsonNumber.append_inj hs ht (List.cons.inj hsame).2 with ⟨habs, hrest⟩
      exact ⟨by omega, hrest⟩
    · exact (hsign _ _ _ _ hsame).elim
    · exact (hsign _ _ _ _ hsame.symm).elim
    · rcases readable_jsonNumber.append_inj hs ht hsame with ⟨habs, hrest⟩
      exact ⟨by omega, hrest⟩
  constructor
  · intro m n hsame
    exact (happend m n [] [] stops_nil stops_nil (by rw [hsame])).1
  · intro m n s t hs ht hsame
    rcases happend m n s t hs ht hsame with ⟨rfl, hrest⟩
    exact ⟨rfl, hrest⟩

/-! Machine integers are determined by their values. -/

theorem readable_uint16 : Readable fun n : UInt16 => jsonNumber n.toNat :=
  readable_jsonNumber.comp fun _ _ => UInt16.toNat_inj.mp

theorem readable_uint32 : Readable fun n : UInt32 => jsonNumber n.toNat :=
  readable_jsonNumber.comp fun _ _ => UInt32.toNat_inj.mp

theorem readable_uint64 : Readable fun n : UInt64 => jsonNumber n.toNat :=
  readable_jsonNumber.comp fun _ _ => UInt64.toNat_inj.mp

theorem readable_int64 : Readable fun n : Int64 => jsonInteger n.toInt :=
  readable_jsonInteger.comp fun _ _ => Int64.toInt_inj.mp

/-! ## Lists and records -/

/-- The texts of a sequence after its first one, each behind a comma, up to the
closing bracket. -/
def sequenceBody (closing : UInt8) : List (List UInt8) → List UInt8
  | [] => [closing]
  | text :: texts => 44 :: (text ++ sequenceBody closing texts)

theorem jsonSequence_nil (opening closing : UInt8) :
    jsonSequence opening closing [] = [opening, closing] := rfl

/-- After the first member each one follows a comma. -/
theorem jsonSequence_cons (opening closing : UInt8) (text : List UInt8)
    (texts : List (List UInt8)) :
    jsonSequence opening closing (text :: texts) =
      opening :: (text ++ sequenceBody closing texts) := by
  induction texts generalizing text with
  | nil => simp [jsonSequence, sequenceBody]
  | cons next texts ih =>
      have hnext := (List.cons.inj (ih next)).2
      rw [jsonSequence, List.intersperse_cons_cons, List.flatten_cons, List.flatten_cons,
        List.append_assoc, List.append_assoc, hnext, sequenceBody]
      rfl

/-- What follows a text in a sequence is a comma or the closing bracket. -/
theorem stops_sequenceBody {closing : UInt8} (hclosing : isDigit closing = false)
    (texts : List (List UInt8)) (s : List UInt8) : Stops (sequenceBody closing texts ++ s) := by
  cases texts with
  | nil => exact stops_cons hclosing
  | cons text texts => exact stops_cons (by decide)

/-- The rest of a list determines its values. -/
theorem sequenceBody_append_inj {encode : α → List UInt8} (hread : Readable encode) {xs ys : List α}
    {s t : List UInt8}
    (happend : sequenceBody 93 (xs.map encode) ++ s = sequenceBody 93 (ys.map encode) ++ t) :
    xs = ys ∧ s = t := by
  have hcomma : (93 : UInt8) ≠ 44 := by decide
  induction xs generalizing ys with
  | nil =>
      cases ys with
      | nil => exact ⟨rfl, (List.cons.inj happend).2⟩
      | cons y ys => exact absurd (List.cons.inj happend).1 hcomma
  | cons x xs ih =>
      cases ys with
      | nil => exact absurd (List.cons.inj happend).1.symm hcomma
      | cons y ys =>
          simp only [List.map_cons, sequenceBody, List.cons_append, List.append_assoc,
            List.cons.injEq, true_and] at happend
          rcases hread.append_inj (stops_sequenceBody (by decide) _ _)
            (stops_sequenceBody (by decide) _ _) happend with ⟨rfl, hbody⟩
          rcases ih hbody with ⟨rfl, hafter⟩
          exact ⟨rfl, hafter⟩

/-- The text of a list determines its values. -/
theorem jsonArray_append_inj {encode : α → List UInt8} (hread : Readable encode)
    (hopens : Opens encode) {xs ys : List α} {s t : List UInt8}
    (happend : jsonArray (xs.map encode) ++ s = jsonArray (ys.map encode) ++ t) :
    xs = ys ∧ s = t := by
  cases xs with
  | nil =>
      cases ys with
      | nil => exact ⟨rfl, (List.cons.inj (List.cons.inj happend).2).2⟩
      | cons y ys =>
          simp only [jsonArray, List.map_nil, List.map_cons, jsonSequence_nil, jsonSequence_cons,
            List.cons_append, List.append_assoc, List.cons.injEq, true_and] at happend
          exact absurd (congrArg List.head? happend.symm) (hopens y _)
  | cons x xs =>
      cases ys with
      | nil =>
          simp only [jsonArray, List.map_nil, List.map_cons, jsonSequence_nil, jsonSequence_cons,
            List.cons_append, List.append_assoc, List.cons.injEq, true_and] at happend
          exact absurd (congrArg List.head? happend) (hopens x _)
      | cons y ys =>
          rw [List.map_cons, List.map_cons, jsonArray, jsonArray, jsonSequence_cons,
            jsonSequence_cons] at happend
          exact sequenceBody_append_inj hread (congrArg (44 :: ·) (List.cons.inj happend).2)

/-- Lists of readable values are readable. -/
theorem Readable.array {encode : α → List UInt8} (hread : Readable encode)
    (hopens : Opens encode) : Readable fun xs : List α => jsonArray (xs.map encode) where
  injective xs ys hsame :=
    (jsonArray_append_inj hread hopens (congrArg (· ++ []) hsame)).1
  separates xs ys s t _ _ happend := by
    rcases jsonArray_append_inj hread hopens happend with ⟨rfl, hrest⟩
    exact ⟨rfl, hrest⟩

/-- No array starts with a closing bracket. -/
theorem opens_jsonArray (encode : α → List UInt8) :
    Opens fun xs : List α => jsonArray (xs.map encode) := by
  intro xs s hhead
  exact absurd (Option.some.inj hhead) (by decide)

/-- Byte arrays are readable. -/
theorem readable_jsonBytes : Readable jsonBytes :=
  (readable_jsonNumber.comp fun _ _ => UInt8.toNat_inj.mp).array (opens_jsonNumber.comp _)

/-- A field of a record: the name in quotes, a colon, and the text of the
value. -/
def fieldText (field : String × List UInt8) : List UInt8 :=
  34 :: (ascii field.1 ++ 34 :: 58 :: field.2)

/-- Two lists of fields have the same names in order, and texts that are told
apart. -/
abbrev SameNames (fields fields' : List (String × List UInt8)) : Prop :=
  List.Forall₂ (fun field field' => field.1 = field'.1 ∧ Separates field.2 field'.2) fields fields'

/-- The rest of a record determines the texts of its fields. -/
theorem recordBody_append_inj {fields fields' : List (String × List UInt8)} {s t : List UInt8}
    (hnames : SameNames fields fields')
    (happend : sequenceBody 125 (fields.map fieldText) ++ s =
      sequenceBody 125 (fields'.map fieldText) ++ t) : fields = fields' ∧ s = t := by
  induction hnames with
  | nil => exact ⟨rfl, (List.cons.inj happend).2⟩
  | @cons field field' fields fields' hfield _ ih =>
      rcases field with ⟨name, value⟩
      rcases field' with ⟨name', value'⟩
      rcases hfield with ⟨rfl : name = name', hvalue : Separates value value'⟩
      simp only [List.map_cons, sequenceBody, fieldText, List.cons_append, List.append_assoc,
        List.cons.injEq, true_and, List.append_cancel_left_eq] at happend
      rcases hvalue (stops_sequenceBody (by decide) _ _) (stops_sequenceBody (by decide) _ _)
        happend with ⟨rfl, hbody⟩
      rcases ih hbody with ⟨rfl, hafter⟩
      exact ⟨rfl, hafter⟩

/-- The text of a record determines the texts of its fields. -/
theorem jsonObject_append_inj {fields fields' : List (String × List UInt8)} {s t : List UInt8}
    (hnames : SameNames fields fields')
    (happend : jsonObject fields ++ s = jsonObject fields' ++ t) :
    fields = fields' ∧ s = t := by
  have hobject (field : String × List UInt8) (fields : List (String × List UInt8)) :
      jsonObject (field :: fields) = 123 :: (fieldText field ++ sequenceBody 125
        (fields.map fieldText)) :=
    jsonSequence_cons ..
  cases hnames with
  | nil => exact ⟨rfl, List.append_cancel_left happend⟩
  | cons hfield hrest =>
      rw [hobject, hobject] at happend
      exact recordBody_append_inj (.cons hfield hrest)
        (congrArg (44 :: ·) (List.cons.inj happend).2)

/-- A record with one readable field is readable. -/
theorem Readable.object {encode : α → List UInt8} (hread : Readable encode) (name : String) :
    Readable fun a => jsonObject [(name, encode a)] := by
  have happend : ∀ {a b : α} {s t : List UInt8},
      jsonObject [(name, encode a)] ++ s = jsonObject [(name, encode b)] ++ t → a = b ∧ s = t := by
    intro a b s t hsame
    have hnames : SameNames [(name, encode a)] [(name, encode b)] :=
      .cons ⟨rfl, hread.separates a b⟩ .nil
    rcases jsonObject_append_inj hnames hsame with ⟨hfields, hrest⟩
    simp only [List.cons.injEq, Prod.mk.injEq, true_and, and_true] at hfields
    exact ⟨hread.injective hfields, hrest⟩
  constructor
  · intro a b hsame
    exact (happend (s := []) (t := []) (congrArg (· ++ []) hsame)).1
  · intro a b s t _ _ hsame
    rcases happend hsame with ⟨rfl, hrest⟩
    exact ⟨rfl, hrest⟩

end JsonText
