import Mathlib.Data.List.TakeWhile
import Packfile.Text.Blank
import Packfile.Text.Lines

/-!
# Blanks and parts of a text

Trimming undoes padding: blanks put around a text that neither begins nor ends with one are taken
off again. It does not matter which end is trimmed first. A text occurs in another one exactly if it
is a contiguous part of it.
-/

namespace Packfile.Text

variable {s before after : List Char} {c separator : Char}

/-- No letter and no digit is blank. -/
theorem isBlank_of_isAlphanum (ascii : c.isAlphanum) : isBlank c = false := by
  have bounds : 48 ≤ c.toNat ∧ c.toNat ≤ 122 := by
    have classes : c.isAlphanum =
        ((decide (c.val ≥ 'A'.val ∧ c.val ≤ 'Z'.val) ||
          decide (c.val ≥ 'a'.val) && decide (c.val ≤ 'z'.val)) ||
            decide (c.val ≥ '0'.val) && decide (c.val ≤ '9'.val)) := rfl
    simp only [classes, Bool.or_eq_true, Bool.and_eq_true, decide_eq_true_eq, ge_iff_le,
      UInt32.le_iff_toNat_le] at ascii
    have value : c.toNat = c.val.toNat := rfl
    rcases ascii with (upper | lower) | digit
    · have : 'A'.val.toNat = 65 := rfl
      have : 'Z'.val.toNat = 90 := rfl
      omega
    · have : 'a'.val.toNat = 97 := rfl
      have : 'z'.val.toNat = 122 := rfl
      omega
    · have : '0'.val.toNat = 48 := rfl
      have : '9'.val.toNat = 57 := rfl
      omega
  simp [isBlank]
  omega

theorem trimStart_append_of_blank (blank : ∀ c ∈ before, isBlank c) (s : List Char) :
    trimStart (before ++ s) = trimStart s :=
  List.dropWhile_append_of_pos blank

theorem trimStart_cons_of_not_blank (solid : isBlank c = false) (s : List Char) :
    trimStart (c :: s) = c :: s := by
  simp [trimStart, solid]

theorem trimEnd_append_of_blanks (blank : ∀ c ∈ after, isBlank c) (s : List Char) :
    trimEnd (s ++ after) = trimEnd s := by
  have blank' : ∀ c ∈ after.reverse, isBlank c := fun c member =>
    blank c (List.mem_reverse.mp member)
  rw [trimEnd, trimEnd, List.reverse_append, List.dropWhile_append_of_pos blank']

/-- Padding around a text that begins and ends with characters that are not blank. -/
theorem trim_padded (blankBefore : ∀ c ∈ before, isBlank c) (blankAfter : ∀ c ∈ after, isBlank c)
    (first : ∃ c rest, s = c :: rest ∧ isBlank c = false)
    (last : ∃ init c, s = init ++ [c] ∧ isBlank c = false) :
    trim (before ++ s ++ after) = s := by
  obtain ⟨c, rest, start, solid⟩ := first
  obtain ⟨init, d, final, solid'⟩ := last
  rw [trim, List.append_assoc, trimStart_append_of_blank blankBefore]
  have kept : trimStart (s ++ after) = s ++ after := by
    rw [start]
    exact trimStart_cons_of_not_blank solid _
  rw [kept, trimEnd_append_of_blanks blankAfter, final]
  exact trimEnd_append_of_not_blank init solid'

/-- A text is its blanks at the front and what is left without them. -/
theorem exists_trimStart (s : List Char) :
    ∃ lead, (∀ c ∈ lead, isBlank c) ∧ s = lead ++ trimStart s :=
  ⟨s.takeWhile isBlank, fun _ => List.mem_takeWhile_imp, List.takeWhile_append_dropWhile.symm⟩

theorem exists_trimEnd (s : List Char) :
    ∃ tail, (∀ c ∈ tail, isBlank c) ∧ s = trimEnd s ++ tail := by
  obtain ⟨lead, blank, split⟩ := exists_trimStart s.reverse
  refine ⟨lead.reverse, fun c member => blank c (List.mem_reverse.mp member), ?_⟩
  have back := congrArg List.reverse split
  rwa [List.reverse_reverse, List.reverse_append] at back

/-- Trimming the end keeps everything up to a character that is not blank. -/
theorem trimEnd_append_cons (solid : isBlank c = false) (before after : List Char) :
    trimEnd (before ++ c :: after) = before ++ c :: trimEnd after := by
  cases last : after.reverse.dropWhile isBlank with
  | nil => simp [trimEnd, List.dropWhile_append, last, solid]
  | cons d rest => simp [trimEnd, List.dropWhile_append, last]

theorem trimEnd_trimStart (s : List Char) : trimEnd (trimStart s) = trimStart (trimEnd s) := by
  obtain ⟨lead, blank, split⟩ := exists_trimStart s
  cases solid : trimStart s with
  | nil =>
      rw [solid, List.append_nil] at split
      rw [← List.nil_append s, split, trimEnd_append_of_blanks blank]
      rfl
  | cons c rest =>
      have first : isBlank c = false := by
        have head := List.head?_dropWhile_not isBlank s
        rw [trimStart] at solid
        simpa [solid] using head
      rw [split, solid, trimEnd_append_cons first, trimStart_append_of_blank blank,
        trimStart_cons_of_not_blank first]
      exact trimEnd_append_cons first [] rest

/-- A trimmed text begins with no blank. -/
theorem isBlank_of_head?_trim (head : (trim s).head? = some c) : isBlank c = false := by
  rw [trim, trimEnd_trimStart, trimStart] at head
  have first := List.head?_dropWhile_not isBlank (trimEnd s)
  rw [head] at first
  simpa using first

/-- A trimmed text ends with no blank. -/
theorem isBlank_of_getLast?_trim (last : (trim s).getLast? = some c) : isBlank c = false := by
  rw [trim, trimEnd, List.getLast?_reverse] at last
  have first := List.head?_dropWhile_not isBlank (trimStart s).reverse
  rw [last] at first
  simpa using first

/-- A text without the separator is one field. -/
theorem fields_of_not_mem (absent : separator ∉ s) : fields separator s = [s] := by
  induction s with
  | nil => rfl
  | cons c s ih =>
      have different : c ≠ separator := (List.ne_of_not_mem_cons absent).symm
      rw [fields, if_neg different, ih (List.not_mem_of_not_mem_cons absent)]

/-- The cut is at the first separator. -/
theorem splitAtFirst_of_not_mem (absent : separator ∉ before) :
    splitAtFirst separator (before ++ separator :: after) = some (before, after) := by
  induction before with
  | nil => simp [splitAtFirst]
  | cons c before ih =>
      have different : c ≠ separator := (List.ne_of_not_mem_cons absent).symm
      simp [splitAtFirst, different, ih (List.not_mem_of_not_mem_cons absent)]

theorem splitAtFirst_eq_some :
    splitAtFirst separator s = some (before, after) ↔
      s = before ++ separator :: after ∧ separator ∉ before := by
  constructor
  · intro found
    induction s generalizing before with
    | nil => cases found
    | cons c s ih =>
        rw [splitAtFirst] at found
        split at found
        · next same =>
            cases found
            exact ⟨by rw [same]; rfl, List.not_mem_nil⟩
        · next different =>
            obtain ⟨⟨front, back⟩, later, same⟩ := Option.map_eq_some_iff.mp found
            cases same
            obtain ⟨rfl, absent⟩ := ih later
            exact ⟨rfl, List.not_mem_cons_of_ne_of_not_mem (Ne.symm different) absent⟩
  · rintro ⟨rfl, absent⟩
    exact splitAtFirst_of_not_mem absent

theorem splitAtFirst_eq_none : splitAtFirst separator s = none ↔ separator ∉ s := by
  induction s with
  | nil => simp [splitAtFirst]
  | cons c s ih =>
      rw [splitAtFirst, List.mem_cons, not_or]
      split
      · next same => simp [same]
      · next different => simp [ih, Ne.symm different]

/-- A separator parts the fields before it from those after it. -/
theorem fields_append (before after : List Char) :
    fields separator (before ++ separator :: after) =
      fields separator before ++ fields separator after := by
  induction before with
  | nil => simp [fields]
  | cons c before ih =>
      obtain ⟨first, others, split⟩ := List.exists_cons_of_ne_nil (fields_ne_nil separator before)
      simp only [List.cons_append, fields, ih, split]
      by_cases same : c = separator <;> simp [same]

/-- The fields, each behind a separator, are the text behind a separator. -/
theorem flatMap_fields (separator : Char) (s : List Char) :
    (fields separator s).flatMap (separator :: ·) = separator :: s := by
  induction s with
  | nil => rfl
  | cons c s ih =>
      obtain ⟨first, others, split⟩ := List.exists_cons_of_ne_nil (fields_ne_nil separator s)
      rw [split] at ih
      by_cases same : c = separator <;> simp_all [fields]

theorem fields_eq_singleton {field : List Char} :
    fields separator s = [field] ↔ s = field ∧ separator ∉ field := by
  constructor
  · intro single
    cases cut : splitAtFirst separator s with
    | none =>
        have absent := splitAtFirst_eq_none.mp cut
        obtain rfl : s = field := by simpa [fields_of_not_mem absent] using single
        exact ⟨rfl, absent⟩
    | some parts =>
        obtain ⟨rfl, absent⟩ := splitAtFirst_eq_some.mp cut
        rw [fields_append, fields_of_not_mem absent] at single
        exact absurd (List.cons.inj single).2 (fields_ne_nil _ _)
  · rintro ⟨rfl, absent⟩
    exact fields_of_not_mem absent

/-- Two fields are what stands around a single separator. -/
theorem fields_eq_pair {first second : List Char} :
    fields separator s = [first, second] ↔
      s = first ++ separator :: second ∧ separator ∉ first ∧ separator ∉ second := by
  constructor
  · intro pair
    cases cut : splitAtFirst separator s with
    | none => simp [fields_of_not_mem (splitAtFirst_eq_none.mp cut)] at pair
    | some parts =>
        obtain ⟨rfl, absent⟩ := splitAtFirst_eq_some.mp cut
        rw [fields_append, fields_of_not_mem absent] at pair
        obtain ⟨rfl, later⟩ := List.cons.inj pair
        obtain ⟨rfl, absent'⟩ := fields_eq_singleton.mp later
        exact ⟨rfl, absent, absent'⟩
  · rintro ⟨rfl, absent, absent'⟩
    rw [fields_append, fields_of_not_mem absent, fields_of_not_mem absent']
    rfl

theorem lines_cons (different : c ≠ '\n') (carriage : c = '\r' → s.head? ≠ some '\n') :
    lines (c :: s) =
      match lines s with
      | [] => [[c]]
      | first :: others => (c :: first) :: others := by
  refine lines.eq_4 c s different ?_
  rintro rest rfl rfl
  exact carriage rfl rfl

/-- A carriage return at the end of the line would be taken for a part of the newline. -/
theorem lines_append (newline : '\n' ∉ s) (carriage : s.getLast? ≠ some '\r') (rest : List Char) :
    lines (s ++ '\n' :: rest) = s :: lines rest := by
  induction s with
  | nil => exact lines_newline rest
  | cons c s ih =>
      have different : c ≠ '\n' := (List.ne_of_not_mem_cons newline).symm
      have later : '\n' ∉ s := List.not_mem_of_not_mem_cons newline
      have follows : c = '\r' → (s ++ '\n' :: rest).head? ≠ some '\n' := by
        rintro rfl
        cases s with
        | nil => exact absurd rfl carriage
        | cons d s =>
            intro same
            exact List.ne_of_not_mem_cons later (Option.some.inj same).symm
      have last : s.getLast? ≠ some '\r' := by
        intro same
        apply carriage
        rw [List.getLast?_cons, same]
        rfl
      rw [List.cons_append, lines_cons different follows, ih later last]

/-- A text without a newline is one line, unless it is empty. -/
theorem lines_of_not_mem (newline : '\n' ∉ s) (nonempty : s ≠ []) : lines s = [s] := by
  induction s with
  | nil => exact absurd rfl nonempty
  | cons c s ih =>
      have different : c ≠ '\n' := (List.ne_of_not_mem_cons newline).symm
      have later : '\n' ∉ s := List.not_mem_of_not_mem_cons newline
      have follows : c = '\r' → s.head? ≠ some '\n' := by
        intro _ head
        exact later (List.mem_of_mem_head? head)
      rw [lines_cons different follows]
      cases s with
      | nil => rfl
      | cons d s => rw [ih later (List.cons_ne_nil d s)]

theorem occursIn_iff {needle : List Char} : occursIn needle s ↔ needle <:+: s := by
  induction s with
  | nil => simp [occursIn]
  | cons c rest ih =>
      rw [occursIn, Bool.or_eq_true, ih, List.isPrefixOf_iff_prefix, List.infix_cons_iff]

end Packfile.Text
