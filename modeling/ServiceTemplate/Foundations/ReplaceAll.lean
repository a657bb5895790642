import Mathlib.Data.List.Infix

/-!
# Replacing every occurrence of a separator

The replacement scans a text from left to right.  Where the separator starts,
it is replaced and the scan continues behind it, so that occurrences do not
overlap.  The symbols are of an arbitrary type, and the separator is given by
its first symbol and the rest, since it is never empty.
-/

namespace ServiceTemplate

namespace ReplaceAll

variable {α : Type*} [DecidableEq α]

/-- Scan a text whose first `skip` symbols belong to an occurrence that has
been replaced already. -/
def scan (first : α) (more replacement : List α) :
    (skip : Nat) → List α → List α
  | _, [] => []
  | skip + 1, _ :: rest => scan first more replacement skip rest
  | 0, symbol :: rest =>
      if (first :: more) <+: (symbol :: rest) then
        replacement ++ scan first more replacement more.length rest
      else
        symbol :: scan first more replacement 0 rest

end ReplaceAll

variable {α : Type*} [DecidableEq α]

/-- Replace every occurrence of the separator `first :: more`. -/
def replaceAll (first : α) (more replacement text : List α) : List α :=
  ReplaceAll.scan first more replacement 0 text

namespace ReplaceAll

variable {first : α} {more replacement : List α}

@[simp]
theorem replaceAll_nil : replaceAll first more replacement [] = [] := rfl

/-- What is skipped does not contribute to the result. -/
theorem scan_append (skipped text : List α) :
    scan first more replacement skipped.length (skipped ++ text) =
      replaceAll first more replacement text := by
  induction skipped with
  | nil => rfl
  | cons symbol skipped ih => simpa [scan] using ih

theorem replaceAll_separator (text : List α) :
    replaceAll first more replacement (first :: more ++ text) =
      replacement ++ replaceAll first more replacement text := by
  have occurs : (first :: more) <+: (first :: (more ++ text)) :=
    List.prefix_append (first :: more) text
  simp only [replaceAll, List.cons_append, scan, if_pos occurs]
  rw [scan_append, replaceAll]

theorem replaceAll_cons {symbol : α} {text : List α}
    (absent : ¬ (first :: more) <+: (symbol :: text)) :
    replaceAll first more replacement (symbol :: text) =
      symbol :: replaceAll first more replacement text := by
  simp only [replaceAll, scan, if_neg absent]

/-- The cases of the scan: the text is empty, starts with the separator, or
starts with a symbol that is kept. -/
theorem replaceAll_induction (first : α) (more : List α)
    {property : List α → Prop} (nil : property [])
    (separator : ∀ text, property text → property (first :: more ++ text))
    (cons : ∀ symbol text, ¬ (first :: more) <+: (symbol :: text) →
      property text → property (symbol :: text)) (text : List α) :
    property text := by
  -- the separator may be long, so the induction is on the length of the text
  induction lengthEq : text.length using Nat.strong_induction_on
    generalizing text with
  | _ length ih =>
      cases text with
      | nil => exact nil
      | cons symbol rest =>
          by_cases occurs : (first :: more) <+: (symbol :: rest)
          · obtain ⟨behind, split⟩ := occurs
            rw [← split]
            apply separator behind
            apply ih behind.length _ behind rfl
            have := congrArg List.length split
            simp only [List.length_append, List.length_cons] at this lengthEq
            omega
          · apply cons symbol rest occurs
            apply ih rest.length _ rest rfl
            simp only [List.length_cons] at lengthEq
            omega

/-- A text without the separator is left as it is. -/
theorem replaceAll_of_absent {text : List α}
    (absent : ¬ (first :: more) <:+: text) :
    replaceAll first more replacement text = text := by
  induction text with
  | nil => rfl
  | cons symbol text ih =>
      rw [List.infix_cons_iff, not_or] at absent
      rw [replaceAll_cons absent.1, ih absent.2]

/-- A separator of one symbol is replaced symbol by symbol. -/
theorem replaceAll_singleton (symbol : α) (text : List α) :
    replaceAll symbol [] replacement text =
      text.flatMap (fun other =>
        if other = symbol then replacement else [other]) := by
  induction text with
  | nil => rfl
  | cons other text ih =>
      by_cases same : other = symbol
      · subst same
        have replaced : replaceAll other [] replacement ([other] ++ text) =
            replacement ++ replaceAll other [] replacement text :=
          replaceAll_separator text
        simpa [ih] using replaced
      · have absent : ¬ [symbol] <+: (other :: text) := by
          simp [List.cons_prefix_cons, Ne.symm same]
        rw [replaceAll_cons absent, ih]
        simp [same]

/-- Replacing one symbol by a separator loses nothing, if the text does not
contain the first symbol of the separator. -/
theorem replaceAll_replaceAll {symbol : α} {text : List α}
    (absent : first ∉ text) :
    replaceAll first more [symbol]
        (replaceAll symbol [] (first :: more) text) = text := by
  rw [replaceAll_singleton]
  induction text with
  | nil => rfl
  | cons other text ih =>
      simp only [List.mem_cons, not_or] at absent
      have rest := ih absent.2
      by_cases same : other = symbol
      · simp only [List.flatMap_cons, if_pos same]
        rw [replaceAll_separator, rest, same, List.singleton_append]
      · have kept : ¬ (first :: more) <+: (other :: text.flatMap (fun other =>
            if other = symbol then first :: more else [other])) := by
          simp [List.cons_prefix_cons, absent.1]
        simp only [List.flatMap_cons, if_neg same, List.singleton_append]
        rw [replaceAll_cons kept, rest]

section Fresh

/-- A prefix that avoids the replacement comes from the text itself. -/
theorem prefix_of_prefix_replaceAll (replacementNonempty : replacement ≠ [])
    {found : List α} (fresh : ∀ symbol ∈ found, symbol ∉ replacement)
    {text : List α}
    (occurs : found <+: replaceAll first more replacement text) :
    found <+: text := by
  induction found generalizing text with
  | nil => exact List.nil_prefix
  | cons symbol found ih =>
      have freshFound : ∀ other ∈ found, other ∉ replacement :=
        fun other member => fresh other (List.mem_cons_of_mem _ member)
      cases text with
      | nil => simp at occurs
      | cons head text =>
          by_cases starts : (first :: more) <+: (head :: text)
          · obtain ⟨behind, split⟩ := starts
            rw [← split, replaceAll_separator] at occurs
            -- the replacement would give the first symbol of the prefix
            cases replacement with
            | nil => exact absurd rfl replacementNonempty
            | cons other replacement =>
                rw [List.cons_append, List.cons_prefix_cons] at occurs
                have := fresh symbol (by simp)
                simp [occurs.1] at this
          · rw [replaceAll_cons starts, List.cons_prefix_cons] at occurs
            rw [List.cons_prefix_cons]
            exact ⟨occurs.1, ih freshFound occurs.2⟩

omit [DecidableEq α] in
theorem infix_of_infix_append {found before after : List α}
    (nonempty : found ≠ []) (fresh : ∀ symbol ∈ found, symbol ∉ before)
    (occurs : found <:+: before ++ after) : found <:+: after := by
  induction before with
  | nil => exact occurs
  | cons symbol before ih =>
      rw [List.cons_append, List.infix_cons_iff] at occurs
      cases occurs with
      | inl starts =>
          cases found with
          | nil => exact absurd rfl nonempty
          | cons head found =>
              have same := (List.cons_prefix_cons.mp starts).1
              have := fresh head (by simp)
              simp [same] at this
      | inr later =>
          apply ih _ later
          intro other member inBefore
          exact fresh other member (List.mem_cons_of_mem _ inBefore)

/-- After the replacement the separator does not occur any more, if the
replacement is not empty and shares no symbol with it. -/
theorem separator_not_infix_replaceAll (replacementNonempty : replacement ≠ [])
    (fresh : ∀ symbol ∈ first :: more, symbol ∉ replacement)
    (text : List α) :
    ¬ (first :: more) <:+: replaceAll first more replacement text := by
  induction text using replaceAll_induction first more with
  | nil => simp
  | separator text ih =>
      rw [replaceAll_separator]
      intro occurs
      exact ih (infix_of_infix_append (by simp) fresh occurs)
  | cons symbol text starts ih =>
      rw [replaceAll_cons starts, List.infix_cons_iff]
      intro occurs
      cases occurs with
      | inl here =>
          rw [← replaceAll_cons starts] at here
          exact starts
            (prefix_of_prefix_replaceAll replacementNonempty fresh here)
      | inr later => exact ih later

end Fresh

end ReplaceAll

end ServiceTemplate
