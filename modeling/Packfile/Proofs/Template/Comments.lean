import Packfile.Proofs.Template.Concatenation

/-!
# The end of a comment

An end of a comment closes its action only if blanks, a marker and closing braces follow it. One
that is followed by anything else belongs to the comment, together with all that stands between it
and the next end that counts, be it text or actions. So a comment action ends at the first end of a
comment in it just if that one is followed by closing braces; otherwise it reaches further, and the
template is refused only if no end counts at all.
-/

namespace Packfile.Template

variable {s t inside after rest : List Char}

/-! ## Ends of comments -/

/-- What follows an end of a comment lets it close the action. -/
def ClosesComment (s : List Char) : Prop :=
  ∃ tail after, CommentTail tail ∧ s = tail ++ '}' :: '}' :: after

/-- No end of a comment in a text can close the action. -/
def Unclosed (s : List Char) : Prop :=
  ∀ front back, s = front ++ '*' :: '/' :: back → ¬ ClosesComment back

/-- What follows the opening of a comment holds one end of a comment, the one that closes the
action. -/
def EndsAtFirst (s : List Char) : Prop :=
  ∃ comment tail, s = comment ++ '*' :: '/' :: tail ∧ ¬ ['*', '/'] <:+: comment ∧
    CommentTail tail

/-- The first end of a comment in a text, if there is one, can close the action. -/
def FirstEndCloses (s : List Char) : Prop :=
  ∀ front back, s = front ++ '*' :: '/' :: back → ¬ ['*', '/'] <:+: front → ClosesComment back

theorem closesComment_iff : ClosesComment s ↔ commentTail? s ≠ none := by
  rw [Option.ne_none_iff_exists']
  constructor
  · rintro ⟨tail, after, isTail, split⟩
    exact ⟨(tail, after), commentTail?_eq_some.mpr ⟨split, isTail⟩⟩
  · rintro ⟨⟨tail, after⟩, found⟩
    obtain ⟨split, isTail⟩ := commentTail?_eq_some.mp found
    exact ⟨tail, after, isTail, split⟩

theorem ClosesComment.append (closes : ClosesComment s) (t : List Char) :
    ClosesComment (s ++ t) := by
  obtain ⟨tail, after, isTail, rfl⟩ := closes
  exact ⟨tail, after ++ t, isTail, by simp⟩

/-- Whether an end can close the action is settled before the next star. -/
theorem ClosesComment.of_append (closes : ClosesComment (s ++ '*' :: t)) : ClosesComment s := by
  obtain ⟨tail, after, isTail, same⟩ := closes
  have same' : (s ++ ['*']) ++ t = (tail ++ ['}', '}']) ++ after := by simpa using same
  obtain ⟨rest, split, -⟩ := exists_of_append_eq same' (by simp) isTail.star_not_mem
  rcases List.eq_nil_or_concat rest with rfl | ⟨rest, last, rfl⟩
  · have last := congrArg List.getLast? split
    simp at last
  · have split' : s ++ ['*'] = (tail ++ '}' :: '}' :: rest) ++ [last] := by simpa using split
    exact ⟨tail, rest, isTail, List.append_inj_left' split' rfl⟩

theorem unclosed_nil : Unclosed [] := by
  intro front back split
  simp at split

/-- A text with a further end of a comment at its front. -/
theorem Unclosed.cons {c : Char} (later : Unclosed s)
    (first : ∀ back, c :: s = '*' :: '/' :: back → ¬ ClosesComment back) : Unclosed (c :: s) := by
  intro front back split
  cases front with
  | nil => exact first back split
  | cons d front => exact later front back (List.cons.inj split).2

/-! ## The first end -/

theorem exists_first_end (ended : ['*', '/'] <:+: s) :
    ∃ front back, s = front ++ '*' :: '/' :: back ∧ ¬ ['*', '/'] <:+: front := by
  induction s with
  | nil => simp at ended
  | cons c s ih =>
      by_cases here : ['*', '/'] <+: c :: s
      · obtain ⟨back, split⟩ := here
        exact ⟨[], back, split.symm, by simp⟩
      · obtain ⟨front, back, rfl, first⟩ :=
          ih ((List.infix_cons_iff.mp ended).resolve_left here)
        refine ⟨c :: front, back, rfl, ?_⟩
        intro inner
        rcases List.infix_cons_iff.mp inner with begins | inner
        · exact here (begins.trans (List.prefix_append (c :: front) _))
        · exact first inner

/-- There is only one first end. -/
theorem first_end_unique {front front' back back' : List Char}
    (same : front ++ '*' :: '/' :: back = front' ++ '*' :: '/' :: back')
    (first : ¬ ['*', '/'] <:+: front) (first' : ¬ ['*', '/'] <:+: front') :
    front = front' ∧ back = back' := by
  -- the end of the shorter front would be inside the longer one
  have shorter : ∀ {x y b b' : List Char}, x ++ '*' :: '/' :: b = y ++ '*' :: '/' :: b' →
      ¬ ['*', '/'] <:+: y → ∀ more, y = x ++ more → more = [] := by
    rintro x _ b b' same first more rfl
    rw [List.append_assoc, List.append_cancel_left_eq] at same
    rcases more with _ | ⟨c, _ | ⟨d, more⟩⟩
    · rfl
    · cases (List.cons.inj (List.cons.inj same).2).1
    · obtain ⟨star, same⟩ := List.cons.inj same
      obtain ⟨slash, -⟩ := List.cons.inj same
      exact absurd ⟨x, more, by simp [← star, ← slash]⟩ first
  rcases List.append_eq_append_iff.mp same with ⟨more, split, -⟩ | ⟨more, split, -⟩
  · obtain rfl := shorter same first' more split
    simp_all
  · obtain rfl := shorter same.symm first more split
    simp_all

/-- A comment that is closed by an end after it goes no further than the first end just if that one
is followed by what closes the action. -/
theorem endsAtFirst_iff {comment tail : List Char} (isTail : CommentTail tail)
    (unclosed : Unclosed comment) :
    EndsAtFirst (comment ++ '*' :: '/' :: tail) ↔
      FirstEndCloses (comment ++ '*' :: '/' :: tail ++ ['}', '}']) := by
  constructor
  · rintro ⟨comment', tail', split, first', isTail'⟩ front back split' first
    rw [split, List.append_assoc, List.cons_append, List.cons_append] at split'
    obtain ⟨-, rfl⟩ := first_end_unique split' first' first
    exact ⟨tail', [], isTail', rfl⟩
  · intro closes
    refine ⟨comment, tail, rfl, fun ended => ?_, isTail⟩
    obtain ⟨front, back, rfl, first⟩ := exists_first_end ended
    have closed : ClosesComment (back ++ '*' :: '/' :: (tail ++ ['}', '}'])) :=
      closes front _ (by simp) first
    exact unclosed front back rfl closed.of_append

/-! ## Comment actions -/

/-- The scanner ends a comment action at the first end that can close it. -/
theorem unclosed_of_untilCommentClosing (found : untilCommentClosing s = some (inside, after)) :
    ∃ comment tail, inside = comment ++ '*' :: '/' :: tail ∧ CommentTail tail ∧
      Unclosed comment := by
  induction s generalizing inside with
  | nil => simp [untilCommentClosing] at found
  | cons c rest ih =>
      -- the scanner has gone on by one character, since no end at this one closes the action
      have goesOn : push c <$> untilCommentClosing rest = some (inside, after) →
          (∀ more, c :: rest = '*' :: '/' :: more → commentTail? more = none) →
          ∃ comment tail, inside = comment ++ '*' :: '/' :: tail ∧ CommentTail tail ∧
            Unclosed comment := by
        intro found refused
        obtain ⟨⟨inner, more⟩, later, same⟩ := Option.map_eq_some_iff.mp found
        cases same
        obtain ⟨split, -⟩ := split_of_untilCommentClosing later
        obtain ⟨comment, tail, rfl, isTail, unclosed⟩ := ih later
        refine ⟨c :: comment, tail, rfl, isTail, unclosed.cons fun back start closes => ?_⟩
        have whole : c :: rest =
            '*' :: '/' :: (back ++ ('*' :: '/' :: tail ++ '}' :: '}' :: more)) := by
          rw [split, List.append_assoc, ← List.cons_append, start]
          rfl
        exact closesComment_iff.mp (closes.append _) (refused _ whole)
      by_cases ends : ∃ more, c = '*' ∧ rest = '/' :: more
      · obtain ⟨more, rfl, rfl⟩ := ends
        cases tried : commentTail? more with
        | none =>
            rw [untilCommentClosing_refused tried] at found
            refine goesOn found ?_
            rintro _ same
            cases same
            exact tried
        | some tail =>
            rw [untilCommentClosing_end tried] at found
            cases found
            exact ⟨[], tail.1, rfl, (commentTail?_eq_some.mp tried).2, unclosed_nil⟩
      · have other : ∀ more, c = '*' → rest ≠ '/' :: more := fun more star slash =>
          ends ⟨more, star, slash⟩
        rw [untilCommentClosing_step other] at found
        refine goesOn found ?_
        rintro more same
        obtain ⟨star, slash⟩ := List.cons.inj same
        exact absurd slash (other more star)

/-- The scanner finds no end of a comment only if none can close the action. -/
theorem untilCommentClosing_eq_none : untilCommentClosing s = none ↔ Unclosed s := by
  constructor
  · rintro none front back rfl ⟨tail, after, isTail, rfl⟩
    have found := untilCommentClosing_isSome isTail front after
    rw [none] at found
    cases found
  · intro unclosed
    refine Option.eq_none_iff_forall_ne_some.mpr fun ⟨inside, after⟩ found => ?_
    obtain ⟨split, -⟩ := split_of_untilCommentClosing found
    obtain ⟨comment, tail, rfl, isTail, -⟩ := unclosed_of_untilCommentClosing found
    exact unclosed comment (tail ++ '}' :: '}' :: after) (by simp [split])
      ⟨tail, after, isTail, rfl⟩

/-- An action of a template that can be read and that opens like a comment is one: it has no value,
and it ends at the first end of a comment that can close it. -/
theorem comment_of_command {opening more : List Char} {command? : Option Command}
    (isOpening : CommentOpening opening)
    (found : inside? s = some (opening ++ more, after))
    (read : (Action.ofInside (opening ++ more)).command? = .ok command?) :
    command? = none ∧
      ∃ comment tail, more = comment ++ '*' :: '/' :: tail ∧ CommentTail tail ∧
        Unclosed comment := by
  constructor
  · rcases command?_of_opening isOpening more with same | same | same <;>
      rw [read] at same <;> cases same
    rfl
  · have split : s = opening ++ (more ++ '}' :: '}' :: after) := by
      rw [split_of_inside? found, List.append_assoc]
    have opened := commentOpening?_eq_some.mpr ⟨split, isOpening⟩
    have closed := untilCommentClosing_of_command isOpening read after
    rcases inside?_cases found with ⟨opening', rest, body, opened', closed', same⟩ | ⟨unended, -⟩
    · rw [opened] at opened'
      cases opened'
      obtain rfl := List.append_cancel_left same
      exact unclosed_of_untilCommentClosing closed'
    · exact absurd (unended _ _ opened) closed

/-! ## Openings -/

/-- Reading a template from its front comes to opening braces that `rest` follows. -/
inductive Reaches : List Char → List Char → Prop
  | here {text rest : List Char} (plain : ¬ ['{', '{'] <:+: text)
      (closed : text.getLast? ≠ some '{') : Reaches (text ++ '{' :: '{' :: rest) rest
  | beyond {s text inside after rest : List Char}
      (first : firstAction s = (text, some (inside, after))) (later : Reaches after rest) :
      Reaches s rest

/-- Opening braces that open no action are left in a text. -/
theorem firstAction_of_unopened {text : List Char} (plain : ¬ ['{', '{'] <:+: text)
    (closed : text.getLast? ≠ some '{') (other : rest.head? ≠ some '{')
    (unopened : inside? rest = none) :
    ['{', '{'] <:+: (firstAction (text ++ '{' :: '{' :: rest)).1 := by
  have second : insideBrace? rest = none := by
    cases rest with
    | nil => rfl
    | cons c rest => exact insideBrace?_cons fun same => other (congrArg some same)
  have apart : Apart text ('{' :: '{' :: rest) := fun meet => closed meet.1
  have first : insideBrace? ('{' :: rest) = none := unopened
  rw [firstAction_append plain apart, firstAction_cons fun _ => first,
    firstAction_cons fun _ => second]
  exact ⟨text, (firstAction rest).1, by simp⟩

/-- A template whose first text holds opening braces is refused. -/
theorem not_accepted_of_firstAction (opened : ['{', '{'] <:+: (firstAction s).1) :
    ¬ Accepted (Segments.ofText s).actions (Segments.ofText s).tail := by
  intro accepted
  cases first : firstAction s with
  | mk text found =>
      rw [first] at opened
      cases found with
      | none =>
          rw [ofText_of_none first] at accepted
          exact accepted.1 opened
      | some found =>
          rw [ofText_of_some first] at accepted
          exact (accepted.2 _ List.mem_cons_self).1 opened

theorem CommentOpening.head?_ne {opening : List Char} (isOpening : CommentOpening opening)
    (more : List Char) : (opening ++ more).head? ≠ some '{' := by
  have solid : Text.isBlank '{' = false := by decide
  obtain ⟨blanks, rfl | rfl⟩ := isOpening
  · cases same : blanks.text with
    | nil => simp
    | cons c text =>
        have blank := blanks.blank c (same ▸ List.mem_cons_self)
        simp only [List.cons_append, List.head?_cons, ne_eq, Option.some.injEq]
        rintro rfl
        rw [solid] at blank
        cases blank
  · simp

/-- A comment that no end can close is not read past. -/
theorem not_unclosed_of_reaches {opening more : List Char} (isOpening : CommentOpening opening)
    (reached : Reaches s (opening ++ more))
    (accepted : Accepted (Segments.ofText s).actions (Segments.ofText s).tail) :
    ¬ Unclosed more := by
  generalize whole : opening ++ more = rest at reached
  induction reached with
  | @here text rest plain closed =>
      subst whole
      cases found : inside? (opening ++ more) with
      | none =>
          exact absurd accepted (not_accepted_of_firstAction
            (firstAction_of_unopened plain closed (isOpening.head?_ne more) found))
      | some found' =>
          obtain ⟨inside, after⟩ := found'
          rw [ofText_of_some (firstAction_text plain closed found)] at accepted
          obtain ⟨-, command?, read⟩ := accepted.2 _ List.mem_cons_self
          have absent : '}' ∉ opening := fun member => (isOpening.inert _ member).1 rfl
          obtain ⟨inner, rfl, rfl⟩ := exists_of_split (split_of_inside? found).symm absent
          intro unclosed
          exact untilCommentClosing_of_command isOpening read after
            (untilCommentClosing_eq_none.mpr unclosed)
  | beyond first later ih =>
      rw [ofText_of_some first] at accepted
      exact ih ⟨accepted.1, fun action member => accepted.2 action (List.mem_cons_of_mem _ member)⟩
        whole

/-- Where comments end. In a template that can be read, an action that opens like a comment has no
value and ends at the first end of a comment that blanks, a marker and closing braces follow. That
is the only end in it just if nothing else follows the first one; any text and any action between an
end that is followed by something else and the end that counts is left out with the comment. A
template is refused if no end counts in all that follows the opening of a comment. -/
theorem comment_of_parse (template : String) :
    (∀ nodes, parse template.toList = .ok nodes →
      ∀ action ∈ (Segments.ofText template.toList).actions, ∀ opening more,
        CommentOpening opening → action.2 = opening ++ more →
        (Action.ofInside action.2).command? = .ok none ∧
        (∃ comment tail, more = comment ++ '*' :: '/' :: tail ∧ CommentTail tail ∧
          Unclosed comment) ∧
        (EndsAtFirst more ↔ FirstEndCloses (more ++ ['}', '}']))) ∧
    ∀ opening more, CommentOpening opening → Reaches template.toList (opening ++ more) →
      Unclosed more → ∃ fault, parse template.toList = .error fault := by
  constructor
  · rintro nodes read ⟨text, _⟩ member opening more isOpening rfl
    obtain ⟨rest, after, found⟩ := (cut_ofText template.toList).found _ member
    obtain ⟨-, command?, made⟩ := (accepted_of_nodes read).2 _ member
    obtain ⟨rfl, comment, tail, rfl, isTail, unclosed⟩ := comment_of_command isOpening found made
    exact ⟨made, ⟨comment, tail, rfl, isTail, unclosed⟩, endsAtFirst_iff isTail unclosed⟩
  · intro opening more isOpening reached unclosed
    cases read : parse template.toList with
    | error fault => exact ⟨fault, rfl⟩
    | ok nodes =>
        exact absurd unclosed
          (not_unclosed_of_reaches isOpening reached (accepted_of_nodes read))

/-- An end of a comment that a field follows, with no further end in the template. -/
theorem comment_of_parse_unended :
    let template := "a \x7b\x7b- /* note */ .Env.DC \x7d\x7db\x7b"
    let opening := "- /*".toList
    let more := " note */ .Env.DC \x7d\x7db\x7b".toList
    CommentOpening opening ∧ Reaches template.toList (opening ++ more) ∧ Unclosed more ∧
      ∃ fault, parse template.toList = .error fault := by
  intro template opening more
  have isOpening : CommentOpening opening := ⟨⟨[' '], List.forall_mem_singleton.mpr rfl⟩, .inr rfl⟩
  have whole : template.toList = "a ".toList ++ '{' :: '{' :: (opening ++ more) := by
    decide +kernel
  have reached : Reaches template.toList (opening ++ more) := by
    rw [whole]
    exact .here (by decide +kernel) (by decide +kernel)
  have unclosed : Unclosed more := untilCommentClosing_eq_none.mp (by decide +kernel)
  exact ⟨isOpening, reached, unclosed,
    (comment_of_parse template).2 opening more isOpening reached unclosed⟩

/-- A comment that reaches over a text to the end of the next one. -/
theorem comment_beyond_first_end :
    let template := "a\x7b\x7b/* note */ .Env.DC \x7d\x7db\x7b\x7b/* end */\x7d\x7dc"
    let more := " note */ .Env.DC \x7d\x7db\x7b\x7b/* end */".toList
    (∀ context, resolve context template = .ok "ac") ∧
      ("a".toList, ['/', '*'] ++ more) ∈ (Segments.ofText template.toList).actions ∧
      CommentOpening ['/', '*'] ∧ ¬ EndsAtFirst more ∧ ¬ FirstEndCloses (more ++ ['}', '}']) := by
  intro template more
  have read : parse template.toList = .ok [.text "a".toList, .text "c".toList] := by
    decide +kernel
  have member : ("a".toList, ['/', '*'] ++ more) ∈ (Segments.ofText template.toList).actions := by
    decide +kernel
  have first : ¬ ['*', '/'] <:+: " note ".toList := by decide +kernel
  refine ⟨fun context => resolve_eq_ok.mpr ⟨_, read, rfl⟩, member,
    ⟨⟨[], List.forall_mem_nil _⟩, .inl rfl⟩, ?_, ?_⟩
  · rintro ⟨comment, tail, split, first', isTail⟩
    have whole : more = " note ".toList ++
        '*' :: '/' :: " .Env.DC \x7d\x7db\x7b\x7b/* end */".toList := rfl
    obtain ⟨-, rfl⟩ := first_end_unique (whole.symm.trans split) first first'
    have dot : '.' = '-' ∨ Text.isBlank '.' := isTail.char (by decide)
    revert dot
    decide
  · intro closes
    have closed := closes " note ".toList
      " .Env.DC \x7d\x7db\x7b\x7b/* end */\x7d\x7d".toList rfl first
    revert closed
    rw [closesComment_iff]
    decide +kernel

end Packfile.Template
