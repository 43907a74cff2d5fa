import Packfile.Proofs.Template.Scan

/-!
# The extent of actions

Where an action ends is a question about the characters after its opening braces alone. What
surrounds a character follows from the characters before it, one at a time, so an action that is no
comment ends at the first closing braces whose surrounding is plain. A comment action ends at the
first end of a comment that blanks, a marker and closing braces follow. Between the actions a
template is left as it is: its texts and actions, written one after the other, are the template.
-/

namespace Packfile.Template

variable {s t inside after rest : List Char} {start : Surrounding} {c : Char}

/-! ## Surroundings -/

namespace Surrounding

/-- What surrounds the text after a character. -/
def next : Surrounding → Char → Surrounding
  | .plain, c => if c = '"' then .quoted else if c = '\x60' then .raw else .plain
  | .quoted, c => if c = '"' then .plain else if c = '\\' then .escaped else .quoted
  | .escaped, _ => .quoted
  | .raw, c => if c = '\x60' then .plain else .raw

/-- What surrounds the text after another one. -/
def past (start : Surrounding) (s : List Char) : Surrounding :=
  s.foldl next start

@[simp] theorem past_nil (start : Surrounding) : start.past [] = start := rfl

@[simp] theorem past_cons (start : Surrounding) (c : Char) (s : List Char) :
    start.past (c :: s) = (start.next c).past s := rfl

theorem past_append (start : Surrounding) (s t : List Char) :
    start.past (s ++ t) = (start.past s).past t :=
  List.foldl_append

theorem next_of_inert (inert : Inert c) : next .plain c = .plain := by
  simp [next, inert.2.1, inert.2.2]

/-- Only a quote and a backquote lead back to a plain surrounding. -/
theorem eq_plain_of_next (inert : Inert c) (plain : start.next c = .plain) : start = .plain := by
  cases start with
  | plain => rfl
  | quoted =>
      simp only [next, if_neg inert.2.1] at plain
      split at plain <;> cases plain
  | escaped => cases plain
  | raw => simp [next, inert.2.2] at plain

theorem past_of_inert (inert : ∀ c ∈ s, Inert c) : past .plain s = .plain := by
  induction s with
  | nil => rfl
  | cons c s ih =>
      obtain ⟨first, later⟩ := List.forall_mem_cons.mp inert
      rw [past_cons, next_of_inert first]
      exact ih later

theorem eq_plain_of_past (inert : ∀ c ∈ s, Inert c) (plain : start.past s = .plain) :
    start = .plain := by
  induction s generalizing start with
  | nil => exact plain
  | cons c s ih =>
      obtain ⟨first, later⟩ := List.forall_mem_cons.mp inert
      exact eq_plain_of_next first (ih later plain)

end Surrounding

/-! ## Actions that are no comments -/

/-- The inside of an action reaches up to the first closing braces that are neither quoted nor
raw. -/
structure Closes (start : Surrounding) (inside : List Char) : Prop where
  plain : start.past inside = .plain
  first : ∀ front, front ++ ['}', '}'] <+: inside ++ ['}', '}'] → start.past front = .plain →
    front = inside

theorem afterClosing?_eq_some : afterClosing? s = some after ↔ s = '}' :: '}' :: after := by
  unfold afterClosing?
  split
  · simp
  · next other => simp only [reduceCtorEq, false_iff]; exact other after

/-- Whether an action is closed at its front can be seen from the action alone. -/
theorem afterClosing?_eq_none (c : Char) (inside after : List Char) :
    afterClosing? (c :: (inside ++ '}' :: '}' :: after)) = none ↔
      ¬ ['}', '}'] <+: c :: (inside ++ ['}', '}']) := by
  have absent : afterClosing? (c :: (inside ++ '}' :: '}' :: after)) = none ↔
      ¬ ['}', '}'] <+: c :: (inside ++ '}' :: '}' :: after) := by
    rw [Option.eq_none_iff_forall_ne_some]
    simp only [ne_eq, afterClosing?_eq_some]
    exact ⟨fun none ⟨more, same⟩ => none more same.symm,
      fun none more same => none ⟨more, same.symm⟩⟩
  rw [absent]
  cases inside <;> simp [List.cons_prefix_cons]

/-- Where no closing braces stand in a plain surrounding, the scanner goes on by one character. -/
theorem untilClosing_cons (goesOn : start = .plain → afterClosing? (c :: rest) = none) :
    untilClosing start (c :: rest) = push c <$> untilClosing (start.next c) rest := by
  cases start with
  | plain =>
      simp only [untilClosing, goesOn rfl, Surrounding.next]
      split
      · rfl
      · split <;> rfl
  | quoted =>
      simp only [untilClosing, Surrounding.next]
      split
      · rfl
      · split <;> rfl
  | escaped => rfl
  | raw =>
      simp only [untilClosing, Surrounding.next]
      split <;> rfl

theorem closes_nil : Closes .plain [] where
  plain := rfl
  first front found _ := by
    have := found.length_le
    simp only [List.length_append, List.length_cons, List.length_nil] at this
    exact List.length_eq_zero_iff.mp (by omega)

theorem Closes.cons (later : Closes (start.next c) inside)
    (goesOn : start = .plain → ¬ ['}', '}'] <+: c :: (inside ++ ['}', '}'])) :
    Closes start (c :: inside) where
  plain := later.plain
  first front found plain := by
    cases front with
    | nil => exact absurd found (goesOn plain)
    | cons d front =>
        obtain ⟨rfl, shorter⟩ := List.cons_prefix_cons.mp found
        rw [later.first front shorter plain]

theorem Closes.tail (closes : Closes start (c :: inside)) : Closes (start.next c) inside where
  plain := closes.plain
  first front found plain := by
    have whole : c :: front ++ ['}', '}'] <+: c :: inside ++ ['}', '}'] :=
      List.cons_prefix_cons.mpr ⟨rfl, found⟩
    exact (List.cons.inj (closes.first (c :: front) whole plain)).2

/-- The scanner stops at the closing braces of an action, whatever follows them. -/
theorem untilClosing_of_closes (closes : Closes start inside) (after : List Char) :
    untilClosing start (inside ++ '}' :: '}' :: after) = some (inside, after) := by
  induction inside generalizing start with
  | nil =>
      obtain rfl : start = .plain := closes.plain
      rfl
  | cons c inside ih =>
      have goesOn : start = .plain →
          afterClosing? (c :: (inside ++ '}' :: '}' :: after)) = none := by
        intro plain
        rw [afterClosing?_eq_none]
        intro early
        cases closes.first [] early plain
      rw [List.cons_append, untilClosing_cons goesOn, ih closes.tail]
      rfl

theorem closes_of_untilClosing (found : untilClosing start s = some (inside, after)) :
    s = inside ++ '}' :: '}' :: after ∧ Closes start inside := by
  induction s generalizing start inside with
  | nil => simp [untilClosing] at found
  | cons c rest ih =>
      by_cases stop : start = .plain ∧ afterClosing? (c :: rest) ≠ none
      · obtain ⟨rfl, closing⟩ := stop
        obtain ⟨more, closing⟩ := Option.ne_none_iff_exists'.mp closing
        simp only [untilClosing, closing, Option.some.injEq, Prod.mk.injEq] at found
        obtain ⟨rfl, rfl⟩ := found
        exact ⟨afterClosing?_eq_some.mp closing, closes_nil⟩
      · have goesOn : start = .plain → afterClosing? (c :: rest) = none := fun plain =>
          Classical.not_not.mp fun closing => stop ⟨plain, closing⟩
        rw [untilClosing_cons goesOn] at found
        obtain ⟨⟨inner, more⟩, later, same⟩ := Option.map_eq_some_iff.mp found
        cases same
        obtain ⟨rfl, closes⟩ := ih later
        exact ⟨rfl, closes.cons fun plain => (afterClosing?_eq_none c _ _).mp (goesOn plain)⟩

theorem untilClosing_append (found : untilClosing start s = some (inside, after)) (t : List Char) :
    untilClosing start (s ++ t) = some (inside, after ++ t) := by
  obtain ⟨rfl, closes⟩ := closes_of_untilClosing found
  rw [List.append_assoc]
  exact untilClosing_of_closes closes (after ++ t)

/-! ## Comments -/

/-- What may stand between the end of a comment and the closing braces of its action. -/
def CommentTail (s : List Char) : Prop :=
  ∃ blanks : Written.Blanks, s = blanks.text ∨ s = blanks.text ++ ['-']

/-- What a comment action begins with. The marker needs no blank after it, though it then counts as
a part of the body. -/
def CommentOpening (s : List Char) : Prop :=
  ∃ blanks : Written.Blanks, s = blanks.text ++ ['/', '*'] ∨ s = '-' :: blanks.text ++ ['/', '*']

theorem CommentTail.char (tail : CommentTail s) (member : c ∈ s) : c = '-' ∨ Text.isBlank c := by
  obtain ⟨blanks, rfl | rfl⟩ := tail
  · exact .inr (blanks.blank c member)
  · rcases List.mem_append.mp member with member | member
    · exact .inr (blanks.blank c member)
    · exact .inl (List.mem_singleton.mp member)

theorem CommentTail.star_not_mem (tail : CommentTail s) : '*' ∉ s ++ ['}', '}'] := by
  intro member
  rcases List.mem_append.mp member with member | member
  · rcases tail.char member with star | blank
    · cases star
    · exact absurd blank (by decide)
  · revert member
    decide

theorem CommentOpening.inert (opening : CommentOpening s) : ∀ c ∈ s, Inert c := by
  have ends : ∀ c ∈ ['/', '*'], Inert c := by simp [Inert]
  obtain ⟨blanks, rfl | rfl⟩ := opening
  · exact List.forall_mem_append.mpr
      ⟨fun c member => inert_of_isBlank (blanks.blank c member), ends⟩
  · refine List.forall_mem_cons.mpr ⟨by simp [Inert], List.forall_mem_append.mpr ⟨?_, ends⟩⟩
    exact fun c member => inert_of_isBlank (blanks.blank c member)

theorem marker_cases (s : List Char) :
    marker s = ([], s) ∨ ∃ rest, s = '-' :: rest ∧ marker s = (['-'], rest) := by
  unfold marker
  split
  · next rest => exact .inr ⟨rest, rfl, rfl⟩
  · exact .inl rfl

theorem commentTail?_eq_some {tail : List Char} :
    commentTail? s = some (tail, after) ↔ s = tail ++ '}' :: '}' :: after ∧ CommentTail tail := by
  constructor
  · intro found
    obtain ⟨more, closing, same⟩ := Option.map_eq_some_iff.mp found
    cases same
    rw [afterClosing?_eq_some] at closing
    have split : s.takeWhile Text.isBlank ++ s.dropWhile Text.isBlank = s :=
      List.takeWhile_append_dropWhile
    let blanks : Written.Blanks := ⟨s.takeWhile Text.isBlank, fun _ => List.mem_takeWhile_imp⟩
    rcases marker_cases (s.dropWhile Text.isBlank) with none | ⟨rest, marked, some⟩
    · rw [none] at closing ⊢
      simp only [List.append_nil] at closing ⊢
      exact ⟨by rw [← closing, split], blanks, .inl rfl⟩
    · rw [some] at closing ⊢
      simp only at closing ⊢
      refine ⟨?_, blanks, .inr rfl⟩
      rw [List.append_assoc, List.singleton_append, ← closing, ← marked, split]
  · rintro ⟨rfl, blanks, rfl | rfl⟩
    · exact commentTail?_blanks blanks after
    · exact commentTail?_marked blanks after

theorem commentOpening?_eq_some {opening : List Char} :
    commentOpening? s = some (opening, rest) ↔ s = opening ++ rest ∧ CommentOpening opening := by
  constructor
  · intro found
    simp only [commentOpening?] at found
    split at found
    · next more start =>
        cases found
        have split : (marker s).2 = (marker s).2.takeWhile Text.isBlank ++ '/' :: '*' :: rest := by
          rw [← start, List.takeWhile_append_dropWhile]
        have blank : ∀ c ∈ (marker s).2.takeWhile Text.isBlank, Text.isBlank c := fun _ =>
          List.mem_takeWhile_imp
        generalize (marker s).2.takeWhile Text.isBlank = front at split blank ⊢
        rcases marker_cases s with none | ⟨more, marked, some⟩
        · rw [none] at split ⊢
          simp only [List.nil_append] at split ⊢
          exact ⟨by rw [split]; simp, ⟨front, blank⟩, .inl rfl⟩
        · rw [some] at split ⊢
          simp only at split ⊢
          exact ⟨by rw [marked, split]; simp, ⟨front, blank⟩, .inr rfl⟩
    · cases found
  · rintro ⟨rfl, blanks, rfl | rfl⟩ <;> rw [List.append_assoc]
    · exact commentOpening?_blanks blanks rest
    · exact commentOpening?_marked blanks rest

/-- A text that holds a character which the front of a longer one lacks reaches past that front. -/
theorem exists_of_append_eq {front more : List Char} (same : s ++ t = front ++ more)
    (member : c ∈ s) (absent : c ∉ front) : ∃ rest, s = front ++ rest ∧ more = rest ++ t := by
  rcases List.append_eq_append_iff.mp same with ⟨beyond, rfl, -⟩ | ⟨rest, split, rest'⟩
  · exact absurd (List.mem_append_left _ member) absent
  · exact ⟨rest, split, rest'⟩

/-- The end of a comment that is refused where another one follows is refused for good. -/
theorem commentTail?_append_eq_none (refused : commentTail? s = none) (member : '*' ∈ s)
    (t : List Char) : commentTail? (s ++ t) = none := by
  refine Option.eq_none_iff_forall_ne_some.mpr fun ⟨tail, more⟩ found => ?_
  obtain ⟨same, isTail⟩ := commentTail?_eq_some.mp found
  have same' : s ++ t = (tail ++ ['}', '}']) ++ more := by simpa using same
  obtain ⟨rest, split, -⟩ := exists_of_append_eq same' member isTail.star_not_mem
  have found' : commentTail? s = some (tail, rest) :=
    commentTail?_eq_some.mpr ⟨by simpa using split, isTail⟩
  rw [refused] at found'
  cases found'

theorem commentTail?_append {tail : List Char} (found : commentTail? s = some (tail, after))
    (t : List Char) : commentTail? (s ++ t) = some (tail, after ++ t) := by
  obtain ⟨rfl, isTail⟩ := commentTail?_eq_some.mp found
  exact commentTail?_eq_some.mpr ⟨by simp, isTail⟩

/-- A text that closes an action begins with a comment only if it does so within that action. -/
theorem commentOpening?_append_eq_none (refused : commentOpening? s = none) (member : '}' ∈ s)
    (t : List Char) : commentOpening? (s ++ t) = none := by
  refine Option.eq_none_iff_forall_ne_some.mpr fun ⟨opening, more⟩ found => ?_
  obtain ⟨same, isOpening⟩ := commentOpening?_eq_some.mp found
  have absent : '}' ∉ opening := fun member => (isOpening.inert _ member).1 rfl
  obtain ⟨rest, split, -⟩ := exists_of_append_eq same member absent
  have found' := commentOpening?_eq_some.mpr ⟨split, isOpening⟩
  rw [refused] at found'
  cases found'

theorem commentOpening?_append {opening : List Char}
    (found : commentOpening? s = some (opening, rest)) (t : List Char) :
    commentOpening? (s ++ t) = some (opening, rest ++ t) := by
  obtain ⟨rfl, isOpening⟩ := commentOpening?_eq_some.mp found
  exact commentOpening?_eq_some.mpr ⟨by simp, isOpening⟩

theorem untilCommentClosing_step (other : ∀ more, c = '*' → rest ≠ '/' :: more) :
    untilCommentClosing (c :: rest) = push c <$> untilCommentClosing rest := by
  rw [untilCommentClosing]
  exact other

theorem untilCommentClosing_end {tail more : List Char}
    (found : commentTail? s = some (tail, more)) :
    untilCommentClosing ('*' :: '/' :: s) = some ('*' :: '/' :: tail, more) := by
  rw [untilCommentClosing]
  simp only [found]
  rfl

theorem untilCommentClosing_refused (refused : commentTail? s = none) :
    untilCommentClosing ('*' :: '/' :: s) = push '*' <$> untilCommentClosing ('/' :: s) := by
  rw [untilCommentClosing]
  simp only [refused]
  rfl

/-- A comment action ends after its comment, which holds at least the end of one. -/
theorem split_of_untilCommentClosing (found : untilCommentClosing s = some (inside, after)) :
    s = inside ++ '}' :: '}' :: after ∧ '*' ∈ inside := by
  induction s generalizing inside with
  | nil => simp [untilCommentClosing] at found
  | cons c rest ih =>
      have step : push c <$> untilCommentClosing rest = some (inside, after) →
          c :: rest = inside ++ '}' :: '}' :: after ∧ '*' ∈ inside := by
        intro found
        obtain ⟨⟨inner, more⟩, later, same⟩ := Option.map_eq_some_iff.mp found
        cases same
        obtain ⟨rfl, star⟩ := ih later
        exact ⟨rfl, List.mem_cons_of_mem c star⟩
      by_cases ends : ∃ more, c = '*' ∧ rest = '/' :: more
      · obtain ⟨more, rfl, rfl⟩ := ends
        cases tried : commentTail? more with
        | none =>
            rw [untilCommentClosing_refused tried] at found
            exact step found
        | some tail =>
            rw [untilCommentClosing_end tried] at found
            cases found
            exact ⟨by simp [(commentTail?_eq_some.mp tried).1], List.mem_cons_self⟩
      · rw [untilCommentClosing_step fun more star slash => ends ⟨more, star, slash⟩] at found
        exact step found

theorem untilCommentClosing_append (found : untilCommentClosing s = some (inside, after))
    (t : List Char) : untilCommentClosing (s ++ t) = some (inside, after ++ t) := by
  induction s generalizing inside with
  | nil => simp [untilCommentClosing] at found
  | cons c rest ih =>
      by_cases ends : ∃ more, c = '*' ∧ rest = '/' :: more
      · obtain ⟨more, rfl, rfl⟩ := ends
        cases tried : commentTail? more with
        | none =>
            rw [untilCommentClosing_refused tried] at found
            obtain ⟨⟨inner, _⟩, later, same⟩ := Option.map_eq_some_iff.mp found
            cases same
            -- the comment goes on to a later end, so this one cannot be completed by what follows
            have star : '*' ∈ more := by
              obtain ⟨split, star⟩ := split_of_untilCommentClosing later
              have member : '*' ∈ '/' :: more := by
                rw [split]
                exact List.mem_append_left _ star
              simpa using member
            rw [List.cons_append, List.cons_append,
              untilCommentClosing_refused (commentTail?_append_eq_none tried star t),
              ← List.cons_append, ih later]
            rfl
        | some tail =>
            rw [untilCommentClosing_end tried] at found
            cases found
            exact untilCommentClosing_end (commentTail?_append tried t)
      · rw [untilCommentClosing_step fun more star slash => ends ⟨more, star, slash⟩] at found
        obtain ⟨⟨inner, _⟩, later, same⟩ := Option.map_eq_some_iff.mp found
        cases same
        have other : ∀ more, c = '*' → rest ++ t ≠ '/' :: more := by
          rintro more rfl slash
          cases rest with
          | nil => simp [untilCommentClosing] at later
          | cons d rest =>
              obtain ⟨rfl, -⟩ := List.cons.inj slash
              exact ends ⟨rest, rfl, rfl⟩
        rw [List.cons_append, untilCommentClosing_step other, ih later]
        rfl

/-- The end of a comment with closing braces after it is found, unless an earlier one is. -/
theorem untilCommentClosing_isSome {tail : List Char} (isTail : CommentTail tail)
    (body after : List Char) :
    (untilCommentClosing (body ++ '*' :: '/' :: (tail ++ '}' :: '}' :: after))).isSome := by
  induction body with
  | nil =>
      rw [List.nil_append, untilCommentClosing_end (commentTail?_eq_some.mpr ⟨rfl, isTail⟩)]
      rfl
  | cons c body ih =>
      generalize whole : body ++ '*' :: '/' :: (tail ++ '}' :: '}' :: after) = rest at ih
      rw [List.cons_append, whole]
      by_cases ends : ∃ more, c = '*' ∧ rest = '/' :: more
      · obtain ⟨more, rfl, rfl⟩ := ends
        cases tried : commentTail? more with
        | none => simpa [untilCommentClosing_refused tried] using ih
        | some found => simp [untilCommentClosing_end tried]
      · rw [untilCommentClosing_step fun more star slash => ends ⟨more, star, slash⟩]
        simpa using ih

/-! ## Actions -/

/-- An action is a comment, or no comment begins at its opening braces that ends anywhere. -/
theorem inside?_cases (found : inside? s = some (inside, after)) :
    (∃ opening rest body, commentOpening? s = some (opening, rest) ∧
      untilCommentClosing rest = some (body, after) ∧ inside = opening ++ body) ∨
    ((∀ opening rest, commentOpening? s = some (opening, rest) → untilCommentClosing rest = none) ∧
      untilClosing .plain s = some (inside, after)) := by
  unfold inside? at found
  cases opened : commentOpening? s with
  | none =>
      simp only [opened] at found
      exact .inr ⟨by simp, found⟩
  | some opening =>
      obtain ⟨opening, rest⟩ := opening
      simp only [opened] at found
      cases closed : untilCommentClosing rest with
      | none =>
          simp only [closed, Option.map_none] at found
          refine .inr ⟨?_, found⟩
          rintro _ _ same
          cases same
          exact closed
      | some body =>
          simp only [closed, Option.map_some] at found
          cases found
          exact .inl ⟨opening, rest, body.1, rfl, closed, rfl⟩

theorem inside?_of_comment {opening body : List Char}
    (opened : commentOpening? s = some (opening, rest))
    (closed : untilCommentClosing rest = some (body, after)) :
    inside? s = some (opening ++ body, after) := by
  simp [inside?, opened, closed]

theorem inside?_of_not_comment
    (unended : ∀ opening rest, commentOpening? s = some (opening, rest) →
      untilCommentClosing rest = none) : inside? s = untilClosing .plain s := by
  unfold inside?
  cases opened : commentOpening? s with
  | none => rfl
  | some opening => simp [unended _ _ opened]

/-- An action is followed by its closing braces. -/
theorem split_of_inside? (found : inside? s = some (inside, after)) :
    s = inside ++ '}' :: '}' :: after := by
  rcases inside?_cases found with ⟨opening, rest, body, opened, closed, rfl⟩ | ⟨-, closed⟩
  · rw [(commentOpening?_eq_some.mp opened).1, (split_of_untilCommentClosing closed).1,
      List.append_assoc]
  · exact (closes_of_untilClosing closed).1

theorem split_of_firstAction_none (none : firstAction s = (t, none)) : t = s := by
  induction s generalizing t with
  | nil => cases none; rfl
  | cons c rest ih =>
      rw [firstAction] at none
      split at none
      · cases none
      · obtain ⟨rfl, later⟩ := Prod.mk.inj none
        exact congrArg (c :: ·) (ih (Prod.ext rfl later))

theorem split_of_firstAction {text : List Char}
    (first : firstAction s = (text, some (inside, after))) :
    s = text ++ '{' :: '{' :: (inside ++ '}' :: '}' :: after) ∧
      inside? (inside ++ '}' :: '}' :: after) = some (inside, after) := by
  induction s generalizing text with
  | nil => cases first
  | cons c rest ih =>
      rw [firstAction] at first
      split at first
      · next opened =>
          cases first
          split at opened
          · next brace =>
              subst brace
              unfold insideBrace? at opened
              split at opened
              · next rest =>
                  have split := split_of_inside? opened
                  exact ⟨by rw [split]; rfl, split ▸ opened⟩
              · cases opened
          · cases opened
      · obtain ⟨rfl, later⟩ := Prod.mk.inj first
        obtain ⟨split, found⟩ := ih (Prod.ext rfl later)
        exact ⟨by rw [List.cons_append, ← split], found⟩

/-! ## Templates -/

/-- How the scanner cuts a template, from its first action on. -/
inductive Cut : List Char → List (List Char × List Char) → List Char → Prop
  | tail {text : List Char} (none : firstAction text = (text, none)) : Cut text [] text
  | action {text inside after tail : List Char} {actions : List (List Char × List Char)}
      (first : firstAction (text ++ '{' :: '{' :: (inside ++ '}' :: '}' :: after)) =
        (text, some (inside, after)))
      (found : inside? (inside ++ '}' :: '}' :: after) = some (inside, after))
      (later : Cut after actions tail) :
      Cut (text ++ '{' :: '{' :: (inside ++ '}' :: '}' :: after)) ((text, inside) :: actions) tail

theorem cut_ofText (s : List Char) :
    Cut s (Segments.ofText s).actions (Segments.ofText s).tail := by
  induction size : s.length using Nat.strong_induction_on generalizing s with
  | _ n ih =>
      cases first : firstAction s with
      | mk text found =>
          cases found with
          | none =>
              obtain rfl := split_of_firstAction_none first
              rw [ofText_of_none first]
              exact .tail first
          | some found =>
              obtain ⟨inside, after⟩ := found
              obtain ⟨split, found⟩ := split_of_firstAction first
              have later := ih after.length (size ▸ length_firstAction first) after rfl
              rw [ofText_of_some first]
              rw [split] at first ⊢
              exact .action first found later

namespace Segments

/-- The template that segments are cut from. -/
def text (segments : Segments) : List Char :=
  segments.actions.flatMap (fun action => action.1 ++ ['{', '{'] ++ action.2 ++ ['}', '}']) ++
    segments.tail

/-- The texts before, between and after the actions. -/
def texts (segments : Segments) : List (List Char) :=
  segments.actions.map Prod.fst ++ [segments.tail]

end Segments

theorem Cut.text {tail : List Char} {actions : List (List Char × List Char)}
    (cut : Cut s actions tail) : (Segments.mk actions tail).text = s := by
  induction cut with
  | tail => rfl
  | action first found later ih =>
      simp only [Segments.text, List.flatMap_cons, List.append_assoc] at ih ⊢
      rw [ih]
      rfl

/-- Cutting a template loses and adds nothing. -/
theorem text_ofText (s : List Char) : (Segments.ofText s).text = s :=
  (cut_ofText s).text

end Packfile.Template
