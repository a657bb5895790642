import Mathlib.Data.Fin.Basic

/-!
# Identifiers of 128 bits and their texts

An identifier has one canonical text, of 32 lower-case hexadecimal digits in
groups of 8, 4, 4, 4 and 12.  Many more texts are read as that identifier: the
digits may be in upper case, a hyphen may stand after any four digits or be left
out, and braces may surround the whole.
-/

namespace ServiceTemplate

/-- The 32 hexadecimal digits of an identifier, the most significant one first. -/
structure Uuid where
  digits : List (Fin 16)
  size : digits.length = 32
  deriving DecidableEq

namespace Uuid

def hexValue (c : Char) : Option (Fin 16) :=
  if '0' ≤ c ∧ c ≤ '9' then some (Fin.ofNat 16 (c.toNat - 48))
  else if 'a' ≤ c ∧ c ≤ 'f' then some (Fin.ofNat 16 (c.toNat - 87))
  else if 'A' ≤ c ∧ c ≤ 'F' then some (Fin.ofNat 16 (c.toNat - 55))
  else none

def hexChar (digit : Fin 16) : Char :=
  Char.ofNat (if digit.val < 10 then digit.val + 48 else digit.val + 87)

@[simp]
theorem hexValue_hexChar (digit : Fin 16) : hexValue (hexChar digit) = some digit := by
  decide +revert

theorem hexChar_ne_hyphen (digit : Fin 16) : hexChar digit ≠ '-' := by
  decide +revert

theorem hexChar_ne_brace (digit : Fin 16) : hexChar digit ≠ '\x7b' := by
  decide +revert

/-- A hyphen is skipped after every second byte but the last. -/
def skipHyphen (remaining : Nat) : List Char → List Char
  | '-' :: rest => if 0 < remaining ∧ remaining % 2 = 0 then rest else '-' :: rest
  | chars => chars

/-- Read the digits of the remaining bytes; the unread characters are returned. -/
def parseBytes : (remaining : Nat) → List Char → Option (List (Fin 16) × List Char)
  | 0, chars => some ([], chars)
  | remaining + 1, first :: second :: rest => do
      let high ← hexValue first
      let low ← hexValue second
      let (digits, unread) ← parseBytes remaining (skipHyphen remaining rest)
      return (high :: low :: digits, unread)
  | _ + 1, _ => none

/-- The identifier of all the digits, if nothing is left but the given end. -/
def ofDigits (ending : List Char) : Option (List (Fin 16) × List Char) → Option Uuid
  | some (digits, unread) =>
      if size : digits.length = 32 then
        if unread = ending then some ⟨digits, size⟩ else none
      else none
  | none => none

/-- The identifier that a text denotes. -/
def parse (text : String) : Option Uuid :=
  match text.toList with
  | '\x7b' :: chars => ofDigits ['\x7d'] (parseBytes 16 chars)
  | chars => ofDigits [] (parseBytes 16 chars)

/-- Write the digits of the remaining bytes, with a hyphen after the bytes 4, 6,
8 and 10. -/
def printBytes : (remaining : Nat) → List (Fin 16) → List Char
  | remaining + 1, high :: low :: digits =>
      let rest := printBytes remaining digits
      hexChar high :: hexChar low ::
        (if remaining ∈ [12, 10, 8, 6] then '-' :: rest else rest)
  | _, _ => []

/-- The canonical text. -/
def text (uuid : Uuid) : String :=
  String.ofList (printBytes 16 uuid.digits)

theorem skipHyphen_printBytes (remaining : Nat) (digits : List (Fin 16)) :
    skipHyphen remaining (printBytes remaining digits) = printBytes remaining digits := by
  cases remaining with
  | zero => rfl
  | succ remaining =>
      match digits with
      | [] | [_] => rfl
      | high :: low :: digits =>
          simp only [printBytes, skipHyphen]
          split
          · next same => exact absurd (List.cons.inj same).1 (hexChar_ne_hyphen high)
          · rfl

theorem parseBytes_printBytes (remaining : Nat) (digits : List (Fin 16))
    (size : digits.length = 2 * remaining) :
    parseBytes remaining (printBytes remaining digits) = some (digits, []) := by
  induction remaining generalizing digits with
  | zero =>
      have empty : digits = [] := List.eq_nil_of_length_eq_zero size
      subst empty
      rfl
  | succ remaining ih =>
      match digits, size with
      | [], size => simp at size
      | [_], size => simp at size; omega
      | high :: low :: digits, size =>
          have shorter : digits.length = 2 * remaining := by
            simp only [List.length_cons] at size
            omega
          have skipped : skipHyphen remaining
              (if remaining ∈ [12, 10, 8, 6] then '-' :: printBytes remaining digits
                else printBytes remaining digits) = printBytes remaining digits := by
            split
            · next grouped =>
              have even : 0 < remaining ∧ remaining % 2 = 0 := by
                simp only [List.mem_cons, List.not_mem_nil, or_false] at grouped
                omega
              simp [skipHyphen, even]
            · exact skipHyphen_printBytes remaining digits
          simp only [printBytes, parseBytes, skipped, hexValue_hexChar, ih digits shorter]
          rfl

/-- The canonical text is read as the identifier. -/
@[simp]
theorem parse_text (uuid : Uuid) : parse uuid.text = some uuid := by
  obtain ⟨digits, size⟩ := uuid
  have read := parseBytes_printBytes 16 digits size
  match digits, size, read with
  | [], size, _ => simp at size
  | [_], size, _ => simp at size
  | high :: low :: digits, size, read =>
      unfold parse text
      rw [String.toList_ofList]
      split
      · next chars same =>
        simp only [printBytes] at same
        exact absurd (List.cons.inj same).1 (hexChar_ne_brace high)
      · rw [read]
        simp only [ofDigits, size, dite_true, if_true]

theorem text_injective : Function.Injective text := by
  intro first second same
  have read := congrArg parse same
  simpa using read

theorem mem_printBytes {remaining : Nat} {digits : List (Fin 16)} {char : Char}
    (member : char ∈ printBytes remaining digits) :
    char = '-' ∨ ∃ digit, char = hexChar digit := by
  induction remaining generalizing digits with
  | zero => simp [printBytes] at member
  | succ remaining ih =>
      match digits with
      | [] | [_] => simp [printBytes] at member
      | high :: low :: digits =>
          simp only [printBytes, List.mem_cons] at member
          obtain isHigh | isLow | inRest := member
          · exact .inr ⟨high, isHigh⟩
          · exact .inr ⟨low, isLow⟩
          · split at inRest
            · rw [List.mem_cons] at inRest
              cases inRest with
              | inl hyphen => exact .inl hyphen
              | inr inRest => exact ih inRest
            · exact ih inRest

/-- A canonical text consists of hyphens and digits. -/
theorem mem_text {uuid : Uuid} {char : Char} (member : char ∈ uuid.text.toList) :
    char = '-' ∨ ∃ digit, char = hexChar digit := by
  rw [text, String.toList_ofList] at member
  exact mem_printBytes member

end Uuid

end ServiceTemplate
