import Mathlib.Data.List.TakeWhile

/-!
# Request targets and the routes they select

A server cuts a request target at the query or the fragment, splits the path at
the slashes, percent-decodes the segments and compares them with the pattern of
each route.  A value that is put into a path as it is comes back unchanged
exactly if it is plain.
-/

namespace ServiceTemplate

namespace Url

section Decoding

/-- The value of a hexadecimal digit. -/
def hexDigit (digit : Char) : Option UInt8 :=
  if '0' ≤ digit ∧ digit ≤ '9' then some (digit.toNat - 48).toUInt8
  else if 'A' ≤ digit ∧ digit ≤ 'F' then some (digit.toNat - 55).toUInt8
  else if 'a' ≤ digit ∧ digit ≤ 'f' then some (digit.toNat - 87).toUInt8
  else none

/-- The octets of a text in which a percent sign and two hexadecimal digits
stand for one octet. -/
def octets : List Char → Option (List UInt8)
  | [] => some []
  | first :: text =>
      if first = '%' then
        match text with
        | high :: low :: text => do
            let upper ← hexDigit high
            let lower ← hexDigit low
            let rest ← octets text
            return (16 * upper + lower) :: rest
        | _ => none
      else do
        let rest ← octets text
        return String.utf8EncodeChar first ++ rest

/-- `decodeURIComponent`: there is no result if an escape is malformed or the
octets are not the encoding of a text. -/
def decodeURIComponent (text : List Char) : Option String := do
  let bytes ← octets text
  String.fromUTF8? bytes.toByteArray

theorem octets_cons {first : Char} (other : first ≠ '%') (text : List Char) :
    octets (first :: text) =
      (octets text).map (String.utf8EncodeChar first ++ ·) := by
  rw [octets.eq_def]
  simp only [if_neg other, Option.map_eq_bind]
  rfl

theorem octets_of_plain {text : List Char} (noPercent : '%' ∉ text) :
    octets text = some (text.flatMap String.utf8EncodeChar) := by
  induction text with
  | nil => rfl
  | cons first text ih =>
      simp only [List.mem_cons, not_or] at noPercent
      have other : first ≠ '%' := Ne.symm noPercent.1
      rw [octets_cons other, ih noPercent.2, Option.map_some, List.flatMap_cons]

/-- The number of octets that encode a text. -/
def encodedLength (text : List Char) : Nat :=
  (text.flatMap String.utf8EncodeChar).length

/-- No text has more octets than its encoding, and an escape makes them fewer. -/
theorem length_octets {text : List Char} {bytes : List UInt8}
    (decoded : octets text = some bytes) :
    bytes.length ≤ encodedLength text ∧
      ('%' ∈ text → bytes.length < encodedLength text) := by
  -- an escape takes three characters, so the recursion is that of `octets`
  induction text using octets.induct generalizing bytes with
  | case1 =>
      cases decoded
      simp
  | case2 high low text ih =>
      simp only [octets, if_true, Option.bind_eq_bind, Option.pure_def,
        Option.bind_eq_some_iff, Option.some.injEq] at decoded
      obtain ⟨upper, -, lower, -, rest, decodedRest, rfl⟩ := decoded
      have shorter := (ih decodedRest).1
      have highPositive := Char.utf8Size_pos high
      have lowPositive := Char.utf8Size_pos low
      simp only [encodedLength, List.flatMap_cons, List.length_append,
        String.length_utf8EncodeChar, List.length_cons] at shorter ⊢
      have percentSize : ('%').utf8Size = 1 := by decide
      omega
  | case3 text noEscape =>
      rw [octets.eq_def] at decoded
      simp at decoded
  | case4 first text other ih =>
      rw [octets_cons other, Option.map_eq_some_iff] at decoded
      obtain ⟨rest, decodedRest, rfl⟩ := decoded
      have shorter := ih decodedRest
      simp only [encodedLength, List.flatMap_cons, List.length_append,
        List.mem_cons, Ne.symm other, false_or] at shorter ⊢
      constructor
      · have := shorter.1
        omega
      · intro escaped
        have := shorter.2 escaped
        omega

theorem decodeURIComponent_of_plain {text : List Char} (noPercent : '%' ∉ text) :
    decodeURIComponent text = some (String.ofList text) := by
  simp only [decodeURIComponent, octets_of_plain noPercent, Option.bind_eq_bind,
    Option.bind_some]
  have valid : (text.flatMap String.utf8EncodeChar).toByteArray.IsValidUTF8 :=
    ⟨text, rfl⟩
  simp only [String.fromUTF8?, dif_pos valid, Option.some.injEq]
  rw [← String.toByteArray_inj]
  simp [String.fromUTF8, List.utf8Encode]

theorem bytes_of_fromUTF8 {bytes : List UInt8} {value : String}
    (valid : String.fromUTF8? bytes.toByteArray = some value) :
    bytes = value.toList.flatMap String.utf8EncodeChar := by
  simp only [String.fromUTF8?, Option.dite_none_right_eq_some,
    Option.some.injEq] at valid
  obtain ⟨isValid, same⟩ := valid
  have encoded := congrArg String.toByteArray same
  rw [← String.ofList_toList (s := value), String.toByteArray_ofList] at encoded
  exact List.toByteArray_inj.mp encoded

/-- A decoded text is not longer than the text itself, and it is shorter where
something was escaped. -/
theorem encodedLength_of_decodeURIComponent {text : List Char} {value : String}
    (decoded : decodeURIComponent text = some value) :
    encodedLength value.toList ≤ encodedLength text ∧
      ('%' ∈ text → encodedLength value.toList < encodedLength text) := by
  simp only [decodeURIComponent, Option.bind_eq_bind,
    Option.bind_eq_some_iff] at decoded
  obtain ⟨bytes, hasOctets, valid⟩ := decoded
  have shorter := length_octets hasOctets
  rw [bytes_of_fromUTF8 valid] at shorter
  exact shorter

end Decoding

section Matching

/-- The text before the first question mark or number sign. -/
def cut (text : List Char) : List Char :=
  text.takeWhile fun char => char ≠ '?' && char ≠ '#'

/-- The segments of the path of a request target. -/
def segments (target : String) : List (List Char) :=
  (cut target.toList).splitOn '/'

/-- One segment of the pattern of a route. -/
inductive PatternSegment where
  | literal (text : List Char)
  | parameter (name : List Char)
  deriving DecidableEq

def PatternSegment.ofText : List Char → PatternSegment
  | ':' :: name => .parameter name
  | text => .literal text

def pattern (path : String) : List PatternSegment :=
  (path.toList.splitOn '/').map PatternSegment.ofText

/-- Every segment of the path can be decoded. -/
def WellFormed (target : String) : Prop :=
  ∀ segment ∈ segments target, (decodeURIComponent segment).isSome = true

instance (target : String) : Decidable (WellFormed target) :=
  inferInstanceAs (Decidable (∀ segment ∈ segments target, _))

/-- The parameters that a list of segments gives to a pattern it matches. -/
def matchSegments :
    List PatternSegment → List (List Char) → Option (List (String × String))
  | [], [] => some []
  | .literal text :: pattern, segment :: segments =>
      if decodeURIComponent segment = some (String.ofList text) then
        matchSegments pattern segments
      else none
  | .parameter name :: pattern, segment :: segments => do
      let value ← decodeURIComponent segment
      let params ← matchSegments pattern segments
      return (String.ofList name, value) :: params
  | _, _ => none

variable {Method Handler : Type*} [DecidableEq Method]

structure Route (Method Handler : Type*) where
  method : Method
  url : String
  handler : Handler

/-- The route that a request selects, and the parameters it is given. -/
def dispatch (routes : List (Route Method Handler)) (method : Method)
    (target : String) : Option (Handler × List (String × String)) :=
  routes.findSome? fun route =>
    if route.method = method then
      (matchSegments (pattern route.url) (segments target)).map
        (fun params => (route.handler, params))
    else none

/-- The characters that have a meaning of their own in a request target do
not occur. -/
def Plain (value : String) : Prop :=
  '?' ∉ value.toList ∧ '#' ∉ value.toList ∧ '/' ∉ value.toList ∧
    '%' ∉ value.toList

instance (value : String) : Decidable (Plain value) :=
  inferInstanceAs (Decidable (_ ∧ _ ∧ _ ∧ _))

theorem cut_append {before : List Char} (kept : cut before = before)
    (after : List Char) : cut (before ++ after) = before ++ cut after := by
  rw [cut, List.takeWhile_eq_self_iff] at kept
  rw [cut, List.takeWhile_append_of_pos kept, cut]

theorem cut_eq_self_iff {text : List Char} :
    cut text = text ↔ '?' ∉ text ∧ '#' ∉ text := by
  rw [cut, List.takeWhile_eq_self_iff]
  constructor
  · intro kept
    constructor
    · intro member
      simpa using kept '?' member
    · intro member
      simpa using kept '#' member
  · intro absent char member
    have notQuery : char ≠ '?' := fun same => absent.1 (same ▸ member)
    have notFragment : char ≠ '#' := fun same => absent.2 (same ▸ member)
    simp [notQuery, notFragment]

/-- A text with a separator is split into several segments. -/
theorem splitOn_eq_singleton_iff {text segment : List Char} :
    text.splitOn '/' = [segment] ↔ text = segment ∧ '/' ∉ text := by
  constructor
  · intro split
    have joined : ['/'].intercalate (text.splitOn '/') = text := List.intercalate_splitOn '/'
    rw [split, List.intercalate_singleton] at joined
    apply And.intro joined.symm
    intro member
    obtain ⟨before, after, parts⟩ := List.append_of_mem member
    rw [parts, List.splitOn_append_cons_self] at split
    have beforePositive :=
      List.length_pos_iff.mpr (List.splitOn_ne_nil '/' before)
    have afterPositive :=
      List.length_pos_iff.mpr (List.splitOn_ne_nil '/' after)
    have := congrArg List.length split
    simp only [List.length_append, List.length_singleton] at this
    omega
  · rintro ⟨rfl, absent⟩
    exact List.splitOn_eq_singleton absent

/-- The segments of a target that puts a value behind a path. -/
theorem segments_append {path value : String}
    (kept : cut path.toList = path.toList)
    {before : List Char} (ends : path.toList = before ++ ['/']) :
    segments (path ++ value) =
      before.splitOn '/' ++ (cut value.toList).splitOn '/' := by
  rw [segments, String.toList_append, cut_append kept, ends, List.append_assoc,
    List.singleton_append, List.splitOn_append_cons_self]

theorem cut_eq_of_decodeURIComponent {value : String}
    (decoded : decodeURIComponent (cut value.toList) = some value) :
    cut value.toList = value.toList ∧ '%' ∉ value.toList := by
  have shorter : encodedLength (cut value.toList) ≤ encodedLength value.toList := by
    have isPrefix : cut value.toList <+: value.toList :=
      List.takeWhile_prefix _
    obtain ⟨behind, split⟩ := isPrefix
    have := congrArg encodedLength split
    simp only [encodedLength, List.flatMap_append, List.length_append] at this ⊢
    omega
  have noPercent : '%' ∉ cut value.toList := by
    intro escaped
    have := (encodedLength_of_decodeURIComponent decoded).2 escaped
    omega
  have same : cut value.toList = value.toList := by
    rw [decodeURIComponent_of_plain noPercent, Option.some.injEq] at decoded
    simpa using congrArg String.toList decoded
  rw [same] at noPercent
  exact ⟨same, noPercent⟩

/-- A segment without escapes is compared as it is. -/
theorem matchSegments_literal {text segment : List Char} (noPercent : '%' ∉ segment)
    (pattern : List PatternSegment) (segments : List (List Char)) :
    matchSegments (.literal text :: pattern) (segment :: segments) =
      if segment = text then matchSegments pattern segments else none := by
  rw [matchSegments, decodeURIComponent_of_plain noPercent]
  simp only [Option.some.injEq, String.ofList_inj]

/-- A pattern of one parameter matches a single segment only. -/
theorem matchSegments_parameter {name : List Char} {segments : List (List Char)}
    {params : List (String × String)}
    (matched : matchSegments [.parameter name] segments = some params) :
    ∃ segment value, segments = [segment] ∧
      decodeURIComponent segment = some value ∧
      params = [(String.ofList name, value)] := by
  cases segments with
  | nil => simp [matchSegments] at matched
  | cons segment others =>
      cases others with
      | nil =>
          simp only [matchSegments, Option.bind_eq_bind, Option.pure_def,
            Option.bind_some, Option.bind_eq_some_iff,
            Option.some.injEq] at matched
          obtain ⟨value, decoded, rfl⟩ := matched
          exact ⟨segment, value, rfl, decoded, rfl⟩
      | cons other others => simp [matchSegments] at matched

/-- A parameter at the end of a pattern is given a value as it was put into the
path exactly if the value is plain. -/
theorem matchSegments_parameter_eq_some_iff (name : List Char) (value : String) :
    matchSegments [.parameter name] ((cut value.toList).splitOn '/') =
        some [(String.ofList name, value)] ↔ Plain value := by
  constructor
  · intro matched
    obtain ⟨segment, decodedValue, split, decoded, params⟩ :=
      matchSegments_parameter matched
    obtain ⟨rfl, noSlash⟩ := splitOn_eq_singleton_iff.mp split
    have sameValue : decodedValue = value := by
      simpa using params.symm
    rw [sameValue] at decoded
    obtain ⟨same, noPercent⟩ := cut_eq_of_decodeURIComponent decoded
    rw [same] at noSlash
    obtain ⟨noQuery, noFragment⟩ := cut_eq_self_iff.mp same
    exact ⟨noQuery, noFragment, noSlash, noPercent⟩
  · rintro ⟨noQuery, noFragment, noSlash, noPercent⟩
    rw [cut_eq_self_iff.mpr ⟨noQuery, noFragment⟩,
      List.splitOn_eq_singleton noSlash]
    simp [matchSegments, decodeURIComponent_of_plain noPercent]

end Matching

end Url

end ServiceTemplate
