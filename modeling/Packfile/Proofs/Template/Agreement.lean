import Packfile.Proofs.Template.Extent
import Packfile.Proofs.Template.Meaning

/-!
# The scanner and the tokens

The scanner decides where an action ends before anything is known of its tokens, and the tokens are
read after markers and blanks have been taken off its ends. Both count quotes the same way: what is
left of an action that ends in a plain surrounding still does, and every quoted or raw text that a
token begins with is closed in it. So no token is ever found to be cut off, and an action of a
template that can be read holds the tokens of exactly one command.
-/

namespace Packfile.Template

variable {s inside after rest : List Char} {c : Char} {body : String} {context : Context}

/-! ## The body of an action -/

theorem Written.Side.inert_front (side : Written.Side) : ∀ c ∈ side.front, Inert c := by
  cases side with
  | padded blanks => exact fun c member => inert_of_isBlank (blanks.blank c member)
  | marked gap =>
      exact List.forall_mem_cons.mpr
        ⟨by simp [Inert], fun c member => inert_of_isBlank (gap.blank c member)⟩

theorem Written.Side.inert_back (side : Written.Side) : ∀ c ∈ side.back, Inert c := by
  cases side with
  | padded blanks => exact fun c member => inert_of_isBlank (blanks.blank c member)
  | marked gap =>
      exact List.forall_mem_append.mpr
        ⟨fun c member => inert_of_isBlank (gap.blank c member), by simp [Inert]⟩

/-- A text is its body with blanks around it. There are blanks on a side if the text has one at its
end there. -/
theorem exists_padding (filled : Text.trim s ≠ []) :
    ∃ lead trail : Written.Blanks, s = lead.text ++ Text.trim s ++ trail.text ∧
      (s.head?.any Text.isBlank → lead.text ≠ []) ∧
      (s.getLast?.any Text.isBlank → trail.text ≠ []) := by
  obtain ⟨lead, leadBlank, front⟩ := Text.exists_trimStart s
  obtain ⟨trail, trailBlank, back⟩ := Text.exists_trimEnd (Text.trimStart s)
  have split : s = lead ++ Text.trim s ++ trail := by
    rw [List.append_assoc, Text.trim, ← back, ← front]
  refine ⟨⟨lead, leadBlank⟩, ⟨trail, trailBlank⟩, split, ?_, ?_⟩
  · rintro first rfl
    obtain ⟨c, more, same⟩ := List.exists_cons_of_ne_nil filled
    have solid : Text.isBlank c = false := Text.isBlank_of_head?_trim (s := s) (by simp [same])
    rw [split] at first
    simp [same, solid] at first
  · rintro last rfl
    have solid : Text.isBlank ((Text.trim s).getLast filled) = false :=
      Text.isBlank_of_getLast?_trim (List.getLast?_eq_some_getLast filled)
    rw [split] at last
    simp [List.getLast?_append, List.getLast?_eq_some_getLast filled, solid] at last

theorem splitFront_cases (inside : List Char) :
    Action.splitFront inside = (false, inside) ∨
      ∃ rest, Action.splitFront inside = (true, rest) ∧ inside = '-' :: rest ∧
        rest.head?.any Text.isBlank := by
  unfold Action.splitFront
  split
  · next rest =>
      by_cases blank : rest.head?.any Text.isBlank
      · exact .inr ⟨rest, if_pos blank, rfl, blank⟩
      · exact .inl (if_neg blank)
  · exact .inl rfl

theorem splitEnd_cases (inside : List Char) :
    Action.splitEnd inside = (false, inside) ∨
      ∃ rest, Action.splitEnd inside = (true, rest) ∧ inside = rest ++ ['-'] ∧
        rest.getLast?.any Text.isBlank := by
  by_cases marked : inside.getLast? = some '-' ∧ inside.dropLast.getLast?.any Text.isBlank
  · refine .inr ⟨inside.dropLast, by simp [Action.splitEnd, marked.1, marked.2], ?_, marked.2⟩
    exact (List.dropLast_append_getLast? '-' marked.1).symm
  · left
    have unmarked : ¬ (decide (inside.getLast? = some '-') &&
        inside.dropLast.getLast?.any Text.isBlank) = true := by simpa using marked
    rw [Action.splitEnd, if_neg unmarked]

/-- Behind its front an action holds its body and a side, with blanks before the body. -/
theorem exists_back (filled : Text.trim (Action.splitEnd s).2 ≠ []) :
    ∃ (lead : Written.Blanks) (after : Written.Side),
      s = lead.text ++ Text.trim (Action.splitEnd s).2 ++ after.back ∧
      (s.head?.any Text.isBlank → lead.text ≠ []) := by
  obtain ⟨lead, trail, split, first, last⟩ := exists_padding filled
  rcases splitEnd_cases s with unmarked | ⟨rest, marked, rfl, blank⟩
  · rw [unmarked] at split first ⊢
    exact ⟨lead, .padded trail, split, first⟩
  · rw [marked] at filled split first last ⊢
    refine ⟨lead, .marked ⟨trail, last blank⟩, ?_, fun head => first ?_⟩
    · have whole : rest ++ ['-'] = lead.text ++ Text.trim rest ++ trail.text ++ ['-'] :=
        congrArg (· ++ ['-']) split
      rw [whole]
      exact List.append_assoc _ _ _
    · cases rest with
      | nil => exact absurd rfl filled
      | cons c rest => exact head

/-- What an action holds is its body between two sides, each with a marker or padding. -/
theorem exists_sides (filled : (Action.ofInside inside).body ≠ []) :
    ∃ before after : Written.Side,
      inside = before.front ++ (Action.ofInside inside).body ++ after.back := by
  have body : (Action.ofInside inside).body =
      Text.trim (Action.splitEnd (Action.splitFront inside).2).2 := rfl
  rw [body] at filled ⊢
  obtain ⟨lead, after, split, first⟩ := exists_back filled
  rcases splitFront_cases inside with unmarked | ⟨rest, marked, rfl, blank⟩
  · rw [unmarked] at split ⊢
    exact ⟨.padded lead, after, split⟩
  · rw [marked] at split first ⊢
    exact ⟨.marked ⟨lead, first blank⟩, after, congrArg ('-' :: ·) split⟩

/-- Taking markers and blanks off an action does not open a quote. -/
theorem past_body (plain : Surrounding.past .plain inside = .plain) :
    Surrounding.past .plain (Action.ofInside inside).body = .plain := by
  by_cases filled : (Action.ofInside inside).body = []
  · rw [filled]
    rfl
  · obtain ⟨before, after, split⟩ := exists_sides filled
    rw [split, Surrounding.past_append, Surrounding.past_append,
      Surrounding.past_of_inert before.inert_front] at plain
    exact Surrounding.eq_plain_of_past after.inert_back plain

/-- The end of an action may lose a marker, but not what its body begins with. -/
theorem splitEnd_append_cons (other : c ≠ '-') (front : List Char) (rest : List Char) :
    ∃ rest', (Action.splitEnd (front ++ c :: rest)).2 = front ++ c :: rest' := by
  rcases splitEnd_cases (front ++ c :: rest) with unmarked | ⟨shorter, marked, split, -⟩
  · exact ⟨rest, by rw [unmarked]⟩
  · rw [marked]
    rcases List.eq_nil_or_concat rest with rfl | ⟨rest, last, rfl⟩
    · exact absurd (List.append_inj_right' split rfl) (by simpa using other)
    · refine ⟨rest, ?_⟩
      have same : (front ++ c :: rest) ++ [last] = shorter ++ ['-'] := by simpa using split
      exact (List.append_inj_left' same rfl).symm

/-- An action that opens like a comment has a body that does, or a marker that is none since no
blank follows it. -/
theorem body_of_opening {opening : List Char} (isOpening : CommentOpening opening)
    (more : List Char) :
    (∃ rest, (Action.ofInside (opening ++ more)).body = '/' :: '*' :: rest) ∨
      ∃ rest, (Action.ofInside (opening ++ more)).body = '-' :: rest := by
  have body : (Action.ofInside (opening ++ more)).body =
      Text.trim (Action.splitEnd (Action.splitFront (opening ++ more)).2).2 := rfl
  rw [body]
  -- a side before the comment is taken off, and the end of the action leaves its opening alone
  have afterSide : ∀ side : Written.Side, ∃ rest,
      Text.trim (Action.splitEnd (Action.splitFront (side.front ++ '/' :: '*' :: more)).2).2 =
        '/' :: '*' :: rest := by
    intro side
    rw [splitFront_front side ⟨'/', _, rfl, by decide⟩]
    obtain ⟨rest, kept⟩ := splitEnd_append_cons (show '*' ≠ '-' by decide)
      (side.blanks.text ++ ['/']) more
    refine ⟨Text.trimEnd rest, ?_⟩
    have same : side.blanks.text ++ '/' :: '*' :: more =
        (side.blanks.text ++ ['/']) ++ '*' :: more := by simp
    rw [same, kept, List.append_assoc, Text.trim,
      Text.trimStart_append_of_blank side.blanks.blank, List.singleton_append,
      Text.trimStart_cons_of_not_blank (by decide)]
    exact Text.trimEnd_append_cons (by decide) ['/'] rest
  obtain ⟨blanks, rfl | rfl⟩ := isOpening
  · left
    simpa [Written.Side.front] using afterSide (.padded blanks)
  · by_cases none : blanks.text = []
    · right
      have unmarked : Action.splitFront ('-' :: '/' :: '*' :: more) =
          (false, '-' :: '/' :: '*' :: more) := by
        simp [Action.splitFront, show Text.isBlank '/' = false by decide]
      obtain ⟨rest, kept⟩ := splitEnd_append_cons (show '*' ≠ '-' by decide) ['-', '/'] more
      refine ⟨'/' :: '*' :: Text.trimEnd rest, ?_⟩
      have same : '-' :: blanks.text ++ ['/', '*'] ++ more = '-' :: '/' :: '*' :: more := by
        simp [none]
      rw [same, unmarked]
      change Text.trim (Action.splitEnd (['-', '/'] ++ '*' :: more)).2 = _
      rw [kept]
      exact Text.trimEnd_append_cons (by decide) ['-', '/'] rest
    · left
      simpa [Written.Side.front] using afterSide (.marked ⟨blanks, none⟩)

/-! ## Tokens -/

/-- A fault of a quoted or raw text that does not end. -/
def ParseFault.IsUnterminated (fault : ParseFault) : Prop :=
  fault = .unterminatedString ∨ fault = .unterminatedRawString

theorem Surrounding.past_raw (open' : '\x60' ∉ s) : Surrounding.past .raw s = .raw := by
  induction s with
  | nil => rfl
  | cons c s ih =>
      have different : c ≠ '\x60' := (List.ne_of_not_mem_cons open').symm
      rw [Surrounding.past_cons, Surrounding.next, if_neg different]
      exact ih (List.not_mem_of_not_mem_cons open')

namespace Token

variable {text : List Char} {path known : List String} {fault : ParseFault}

theorem past_quotedText (read : quotedText s = .ok (text, rest)) :
    Surrounding.past .quoted s = Surrounding.past .plain rest := by
  fun_induction quotedText s generalizing text with
  | case1 => cases read
  | case2 => cases read; rfl
  | case3 => cases read
  | case4 c more d escaped ih =>
      obtain ⟨⟨text, after⟩, later, same⟩ := map_eq_ok.mp read
      cases same
      exact ih later
  | case5 => cases read
  | case6 c more notQuote notBackslash ih =>
      obtain ⟨⟨text, after⟩, later, same⟩ := map_eq_ok.mp read
      cases same
      rw [Surrounding.past_cons, Surrounding.next, if_neg notQuote, if_neg notBackslash]
      exact ih later

/-- A quoted text is cut off only where the quote is still open at the end. -/
theorem quotedText_terminated (closed : Surrounding.past .quoted s = .plain)
    (refused : quotedText s = .error fault) : ¬ fault.IsUnterminated := by
  fun_induction quotedText s with
  | case1 => cases closed
  | case2 => cases refused
  | case3 => cases closed
  | case4 c more d escaped ih => exact ih closed (map_eq_error.mp refused)
  | case5 => cases refused; simp [ParseFault.IsUnterminated]
  | case6 c more notQuote notBackslash ih =>
      rw [Surrounding.past_cons, Surrounding.next, if_neg notQuote, if_neg notBackslash] at closed
      exact ih closed (map_eq_error.mp refused)

theorem past_rawText (read : rawText s = .ok (text, rest)) :
    Surrounding.past .raw s = Surrounding.past .plain rest := by
  unfold rawText at read
  split at read
  · next found split =>
      cases read
      obtain ⟨rfl, absent⟩ := Text.splitAtFirst_eq_some.mp split
      rw [Surrounding.past_append, Surrounding.past_raw absent]
      rfl
  · cases read

theorem rawText_terminated (closed : Surrounding.past .raw s = .plain) :
    rawText s ≠ .error fault := by
  unfold rawText
  split
  · simp
  · next none =>
      rw [Surrounding.past_raw (Text.splitAtFirst_eq_none.mp none)] at closed
      cases closed

theorem past_isNameChar (s : List Char) :
    Surrounding.past .plain s = Surrounding.past .plain (s.dropWhile isNameChar) := by
  have names : Surrounding.past .plain (s.takeWhile isNameChar) = .plain :=
    Surrounding.past_of_inert fun _ member => inert_of_isNameChar (List.mem_takeWhile_imp member)
  conv_lhs => rw [← List.takeWhile_append_dropWhile (p := isNameChar) (l := s)]
  rw [Surrounding.past_append, names]

/-- There are no quotes in a chain of fields. -/
theorem past_fieldPath (read : fieldPath body known s = .ok (path, rest)) :
    Surrounding.past .plain s = Surrounding.past .plain rest := by
  fun_induction fieldPath body known s with
  | case1 => exact (Prod.mk.inj (Except.ok.inj read)).2 ▸ past_isNameChar _
  | case2 => cases read
  | case3 => cases read
  | case4 known s name after named started more dot shorter ih =>
      rw [past_isNameChar, show s.dropWhile isNameChar = '.' :: more from dot]
      exact ih read
  | case5 => exact (Prod.mk.inj (Except.ok.inj read)).2 ▸ past_isNameChar _

theorem fieldPath_terminated (refused : fieldPath body known s = .error fault) :
    ¬ fault.IsUnterminated := by
  fun_induction fieldPath body known s with
  | case1 => cases refused
  | case2 => cases refused; simp [ParseFault.IsUnterminated]
  | case3 => cases refused; simp [ParseFault.IsUnterminated]
  | case4 known s name after named started more dot shorter ih => exact ih refused
  | case5 => cases refused

/-- No token is cut off in a text after which the surrounding is plain: between tokens it is plain
as well, and what a token begins with a quote ends before the text does. -/
theorem tokens_terminated (closed : Surrounding.past .plain s = .plain)
    (refused : tokens body s = .error fault) : ¬ fault.IsUnterminated := by
  fun_induction tokens body s with
  | case1 => cases refused
  | case2 c rest blank ih =>
      rw [Surrounding.past_cons, Surrounding.next_of_inert (inert_of_isBlank blank)] at closed
      exact ih closed refused
  | case3 rest e found => cases refused; exact fieldPath_terminated found
  | case4 rest path after read _ _ ih =>
      have later : Surrounding.past .plain after = .plain := (past_fieldPath read).symm.trans closed
      exact ih later (map_eq_error.mp refused)
  | case5 rest e found => cases refused; exact quotedText_terminated closed found
  | case6 rest text after read _ _ _ ih =>
      have later : Surrounding.past .plain after = .plain :=
        (past_quotedText read).symm.trans closed
      exact ih later (map_eq_error.mp refused)
  | case7 rest e found => exact absurd found (rawText_terminated closed)
  | case8 rest text after read _ _ _ _ ih =>
      have later : Surrounding.past .plain after = .plain := (past_rawText read).symm.trans closed
      exact ih later (map_eq_error.mp refused)
  | case9 c rest _ _ _ _ start _ ih =>
      rw [Surrounding.past_cons,
        Surrounding.next_of_inert (inert_of_isNameChar (isNameChar_of_isNameStart start)),
        past_isNameChar] at closed
      exact ih closed (map_eq_error.mp refused)
  | case10 => cases refused; simp [ParseFault.IsUnterminated]

theorem tokens_marker (rest : List Char) :
    tokens body ('-' :: rest) = .error (.unexpectedCharacter '-') := by
  rw [tokens, if_neg (by decide), if_neg (by decide), if_neg (by decide), if_neg (by decide),
    if_neg (by decide)]

end Token

/-! ## Commands -/

theorem parse_eq_ok {text : List Char} {command : Command} :
    Command.parse text = .ok command ↔
      ∃ tokens, Token.tokens (String.ofList text) text = .ok tokens ∧
        Command.ofTokens (String.ofList text) tokens = .ok command :=
  bind_eq_ok

theorem ofTokens_terminated {tokens : List Token} {fault : ParseFault}
    (refused : Command.ofTokens body tokens = .error fault) : ¬ fault.IsUnterminated := by
  unfold Command.ofTokens at refused
  split at refused
  · cases refused; simp [ParseFault.IsUnterminated]
  · split at refused
    · split at refused
      · cases refused; simp [ParseFault.IsUnterminated]
      · split at refused <;> cases refused
        simp [ParseFault.IsUnterminated]
    · cases refused; simp [ParseFault.IsUnterminated]
  · cases refused
  · cases refused; simp [ParseFault.IsUnterminated]

theorem parse_terminated {text : List Char} {fault : ParseFault}
    (closed : Surrounding.past .plain text = .plain)
    (refused : Command.parse text = .error fault) : ¬ fault.IsUnterminated := by
  rcases bind_eq_error.mp refused with refused | ⟨tokens, -, refused⟩
  · exact Token.tokens_terminated closed refused
  · exact ofTokens_terminated refused

theorem parse_marker (rest : List Char) :
    Command.parse ('-' :: rest) = .error (.unexpectedCharacter '-') := by
  rw [Command.parse, Token.tokens_marker]
  rfl

/-- An action is read as a comment or as a command, depending on how its body begins. -/
theorem command?_eq (action : Action) :
    (∃ comment, action.body = '/' :: '*' :: comment ∧
      action.command? =
        if ['*', '/'].isSuffixOf comment then .ok none else .error .unclosedComment) ∨
    (¬ ['/', '*'] <+: action.body ∧ action.command? = some <$> Command.parse action.body) := by
  unfold Action.command?
  split
  · next comment same => exact .inl ⟨comment, same, rfl⟩
  · next other =>
      refine .inr ⟨?_, rfl⟩
      rintro ⟨comment, same⟩
      exact other comment same.symm

/-- An action that the scanner took for a comment is one or is refused. -/
theorem command?_of_opening {opening : List Char} (isOpening : CommentOpening opening)
    (more : List Char) :
    (Action.ofInside (opening ++ more)).command? = .ok none ∨
      (Action.ofInside (opening ++ more)).command? = .error .unclosedComment ∨
      (Action.ofInside (opening ++ more)).command? = .error (.unexpectedCharacter '-') := by
  rcases command?_eq (Action.ofInside (opening ++ more)) with ⟨comment, -, read⟩ | ⟨other, read⟩
  · rw [read]
    split
    · exact .inl rfl
    · exact .inr (.inl rfl)
  · rcases body_of_opening isOpening more with ⟨rest, body⟩ | ⟨rest, body⟩
    · exact absurd ⟨rest, body.symm⟩ other
    · rw [read, body, parse_marker]
      exact .inr (.inr rfl)

/-- Whatever template an action is found in, its command is not refused for a text that is cut
off. -/
theorem command?_terminated {fault : ParseFault} (found : inside? s = some (inside, after))
    (refused : (Action.ofInside inside).command? = .error fault) : ¬ fault.IsUnterminated := by
  rcases inside?_cases found with ⟨opening, rest, comment, opened, -, rfl⟩ | ⟨-, closed⟩
  · obtain ⟨-, isOpening⟩ := commentOpening?_eq_some.mp opened
    rcases command?_of_opening isOpening comment with read | read | read <;>
      rw [read] at refused <;> cases refused <;> simp [ParseFault.IsUnterminated]
  · rcases command?_eq (Action.ofInside inside) with ⟨comment, -, read⟩ | ⟨-, read⟩
    · rw [read] at refused
      split at refused <;> cases refused
      simp [ParseFault.IsUnterminated]
    · rw [read] at refused
      exact parse_terminated (past_body (closes_of_untilClosing closed).2.plain)
        (map_eq_error.mp refused)

/-- An action that is read as a command was not taken for a comment. -/
theorem untilClosing_of_command {command : Command} (found : inside? s = some (inside, after))
    (read : (Action.ofInside inside).command? = .ok (some command)) :
    untilClosing .plain s = some (inside, after) := by
  rcases inside?_cases found with ⟨opening, rest, comment, opened, -, rfl⟩ | ⟨-, closed⟩
  · obtain ⟨-, isOpening⟩ := commentOpening?_eq_some.mp opened
    rcases command?_of_opening isOpening comment with read' | read' | read' <;>
      rw [read'] at read <;> cases read
  · exact closed

/-! ## Reading the parts of a template -/

theorem checkText_eq_ok {trimsStart trimsEnd : Bool} {text trimmed : List Char} :
    checkText trimsStart trimsEnd text = .ok trimmed ↔
      ¬ ['{', '{'] <:+: text ∧ trimmed = Written.trimmed trimsStart trimsEnd text := by
  by_cases opened : ['{', '{'] <:+: text
  · simp [checkText, Text.occursIn_iff.mpr opened, opened]
  · rw [checkText_of_plain opened]
    simp [opened, eq_comm]

theorem checkText_eq_error {trimsStart trimsEnd : Bool} {text : List Char} {fault : ParseFault}
    (refused : checkText trimsStart trimsEnd text = .error fault) : fault = .unclosedAction := by
  unfold checkText at refused
  split at refused <;> cases refused
  rfl

/-- No text of a template holds opening braces, and every action is a comment or a command. -/
def Accepted (actions : List (List Char × List Char)) (tail : List Char) : Prop :=
  ¬ ['{', '{'] <:+: tail ∧ ∀ action ∈ actions, ¬ ['{', '{'] <:+: action.1 ∧
    ∃ command?, (Action.ofInside action.2).command? = .ok command?

section Nodes

variable {text tail : List Char} {actions : List (List Char × List Char)} {trimsStart : Bool}
variable {result : List Node}

theorem nodes_nil_eq_ok :
    nodes tail trimsStart [] = .ok result ↔
      ¬ ['{', '{'] <:+: tail ∧ result = [.text (Written.trimmed trimsStart false tail)] := by
  rw [nodes, bind_eq_ok]
  simp only [checkText_eq_ok, Except.ok.injEq]
  constructor
  · rintro ⟨_, ⟨plain, rfl⟩, rfl⟩
    exact ⟨plain, rfl⟩
  · rintro ⟨plain, rfl⟩
    exact ⟨_, ⟨plain, rfl⟩, rfl⟩

theorem nodes_cons_eq_ok :
    nodes tail trimsStart ((text, inside) :: actions) = .ok result ↔
      ∃ command? others, ¬ ['{', '{'] <:+: text ∧
        (Action.ofInside inside).command? = .ok command? ∧
        nodes tail (Action.ofInside inside).trimsAfter actions = .ok others ∧
        result = .text (Written.trimmed trimsStart (Action.ofInside inside).trimsBefore text) ::
          (command?.toList.map Node.action ++ others) := by
  simp only [nodes, bind_eq_ok, checkText_eq_ok]
  constructor
  · rintro ⟨_, ⟨plain, rfl⟩, command?, read, later⟩
    cases command? with
    | none =>
        obtain ⟨others, rest, rfl⟩ := map_eq_ok.mp later
        exact ⟨none, others, plain, read, rest, rfl⟩
    | some command =>
        obtain ⟨others, rest, rfl⟩ := map_eq_ok.mp later
        exact ⟨some command, others, plain, read, rest, rfl⟩
  · rintro ⟨command?, others, plain, read, later, rfl⟩
    refine ⟨_, ⟨plain, rfl⟩, command?, read, ?_⟩
    cases command? <;> exact map_eq_ok.mpr ⟨others, later, rfl⟩

theorem accepted_of_nodes (read : nodes tail trimsStart actions = .ok result) :
    Accepted actions tail := by
  induction actions generalizing trimsStart result with
  | nil => exact ⟨(nodes_nil_eq_ok.mp read).1, List.forall_mem_nil _⟩
  | cons action actions ih =>
      obtain ⟨command?, others, plain, first, later, -⟩ := nodes_cons_eq_ok.mp read
      obtain ⟨last, rest⟩ := ih later
      exact ⟨last, List.forall_mem_cons.mpr ⟨⟨plain, command?, first⟩, rest⟩⟩

theorem nodes_eq_error {fault : ParseFault}
    (refused : nodes tail trimsStart actions = .error fault) :
    fault = .unclosedAction ∨
      ∃ action ∈ actions, (Action.ofInside action.2).command? = .error fault := by
  induction actions generalizing trimsStart with
  | nil =>
      rw [nodes] at refused
      rcases bind_eq_error.mp refused with refused | ⟨_, -, refused⟩
      · exact .inl (checkText_eq_error refused)
      · cases refused
  | cons action actions ih =>
      simp only [nodes] at refused
      rcases bind_eq_error.mp refused with refused | ⟨_, -, refused⟩
      · exact .inl (checkText_eq_error refused)
      · rcases bind_eq_error.mp refused with refused | ⟨command?, -, refused⟩
        · exact .inr ⟨action, List.mem_cons_self, refused⟩
        · have later : nodes tail (Action.ofInside action.2).trimsAfter actions = .error fault := by
            cases command? <;> exact map_eq_error.mp refused
          rcases ih later with same | ⟨other, member, refused⟩
          · exact .inl same
          · exact .inr ⟨other, List.mem_cons_of_mem _ member, refused⟩

end Nodes

theorem Cut.found {tail : List Char} {actions : List (List Char × List Char)}
    (cut : Cut s actions tail) : ∀ action ∈ actions, ∃ rest after,
      inside? rest = some (action.2, after) := by
  induction cut with
  | tail => exact List.forall_mem_nil _
  | action first found later ih => exact List.forall_mem_cons.mpr ⟨⟨_, _, found⟩, ih⟩

/-! ## Names -/

/-- The tokens that are evaluated for a command. -/
def Command.tokens : Command → List Token
  | .operand token => [token]
  | .index target keys => target :: keys

/-- Reading a command leaves no name among its tokens. -/
theorem nameless_of_ofTokens {tokens : List Token} {command : Command}
    (made : Command.ofTokens body tokens = .ok command) :
    ∀ token ∈ command.tokens, token.name? = none := by
  unfold Command.ofTokens at made
  split at made
  · cases made
  · split at made
    · split at made
      · cases made
      · split at made
        · cases made
        · next nameless => cases made; exact List.findSome?_eq_none_iff.mp nameless
    · cases made
  · cases made; exact List.forall_mem_singleton.mpr rfl
  · cases made

namespace Value

variable {name : String}

theorem field_ne_undefined (field : String) (value : Value) :
    value.field context field ≠ .error (.undefinedFunction name) := by
  cases value with
  | root =>
      simp only [Value.field]
      split
      · simp
      · split <;> simp
  | environment => simp only [Value.field]; split <;> simp
  | allVariables => simp [Value.field]
  | text value => simp [Value.field]
  | missing => simp [Value.field]

theorem key_ne_undefined (value : Value) : value.key ≠ .error (.undefinedFunction name) := by
  cases value <;> simp [key]

theorem index_ne_undefined (key : String) (value : Value) :
    value.index context key ≠ .error (.undefinedFunction name) := by
  cases value <;> simp [index]

/-- A fault that no step has is not one of all steps either. -/
theorem foldlM_ne_error {α : Type} {f : Value → α → Except ExecuteFault Value}
    {fault : ExecuteFault} {xs : List α} (step : ∀ x ∈ xs, ∀ value, f value x ≠ .error fault)
    (value : Value) : xs.foldlM f value ≠ .error fault := by
  induction xs generalizing value with
  | nil => simp [pure, Except.pure]
  | cons x xs ih =>
      obtain ⟨first, others⟩ := List.forall_mem_cons.mp step
      intro refused
      rw [List.foldlM_cons] at refused
      rcases bind_eq_error.mp refused with refused | ⟨next, -, refused⟩
      · exact first value refused
      · exact ih others next refused

end Value

theorem Token.evaluate_ne_undefined {token : Token} (nameless : token.name? = none)
    (name : String) : token.evaluate context ≠ .error (.undefinedFunction name) := by
  cases token with
  | name function => cases nameless
  | operand operand =>
      cases operand with
      | text value => simp [Token.evaluate, Operand.evaluate]
      | field path =>
          exact Value.foldlM_ne_error (fun field _ value => value.field_ne_undefined field) .root

/-- Where no token is a name, no function is missed. -/
theorem Command.evaluate_ne_undefined {command : Command}
    (nameless : ∀ token ∈ command.tokens, token.name? = none) (name : String) :
    command.evaluate context ≠ .error (.undefinedFunction name) := by
  cases command with
  | operand token => exact Token.evaluate_ne_undefined (nameless _ List.mem_cons_self) name
  | index target keys =>
      obtain ⟨first, others⟩ := List.forall_mem_cons.mp nameless
      intro refused
      rcases bind_eq_error.mp refused with refused | ⟨start, -, refused⟩
      · exact Token.evaluate_ne_undefined first name refused
      · refine Value.foldlM_ne_error (fun token member value refused => ?_) start refused
        rcases bind_eq_error.mp refused with refused | ⟨inner, -, refused⟩
        · exact Token.evaluate_ne_undefined (others token member) name refused
        · rcases bind_eq_error.mp refused with refused | ⟨key, -, refused⟩
          · exact inner.key_ne_undefined refused
          · exact value.index_ne_undefined key refused

theorem Command.evaluate_ne_undefined_of_parse {text : List Char} {command : Command}
    (read : Command.parse text = .ok command) (name : String) :
    command.evaluate context ≠ .error (.undefinedFunction name) := by
  obtain ⟨tokens, -, made⟩ := parse_eq_ok.mp read
  exact Command.evaluate_ne_undefined (nameless_of_ofTokens made) name

/-- Every command among the nodes of a template was read from a text. -/
theorem parsed_of_nodes {tail : List Char} {actions : List (List Char × List Char)}
    {trimsStart : Bool} {result : List Node} {command : Command}
    (read : nodes tail trimsStart actions = .ok result) (member : .action command ∈ result) :
    ∃ text, Command.parse text = .ok command := by
  induction actions generalizing trimsStart result with
  | nil =>
      obtain ⟨-, rfl⟩ := nodes_nil_eq_ok.mp read
      simp at member
  | cons action actions ih =>
      obtain ⟨command?, others, -, first, later, rfl⟩ := nodes_cons_eq_ok.mp read
      have source : command? = some command ∨ .action command ∈ others := by
        simpa using member
      rcases source with rfl | member
      · rcases command?_eq (Action.ofInside action.2) with ⟨comment, -, read⟩ | ⟨-, read⟩
        · rw [read] at first
          split at first <;> cases first
        · obtain ⟨command', parsed, same⟩ := map_eq_ok.mp (read.symm.trans first)
          exact ⟨_, Option.some.inj same ▸ parsed⟩
      · exact ih later member

/-- Rendering fails with the fault of a command. -/
theorem render_eq_error {nodes : List Node} {fault : ExecuteFault}
    (refused : render context nodes = .error fault) :
    ∃ command, .action command ∈ nodes ∧ command.evaluate context = .error fault := by
  induction nodes with
  | nil => cases refused
  | cons node nodes ih =>
      rcases bind_eq_error.mp refused with refused | ⟨text, -, refused⟩
      · cases node with
        | text literal => cases refused
        | action command =>
            rcases bind_eq_error.mp refused with refused | ⟨value, -, refused⟩
            · exact ⟨command, List.mem_cons_self, refused⟩
            · cases refused
      · rcases bind_eq_error.mp refused with refused | ⟨others, -, refused⟩
        · obtain ⟨command, member, refused⟩ := ih refused
          exact ⟨command, List.mem_cons_of_mem _ member, refused⟩
        · cases refused

/-- Resolving a template misses no function. -/
theorem resolve_ne_undefined {template reported : String} {fault : ExecuteFault} (name : String)
    (failed : resolve context template = .error (.execute reported fault)) :
    fault ≠ .undefinedFunction name := by
  rintro rfl
  unfold resolve at failed
  split at failed
  · cases failed
  · next nodes read =>
      split at failed
      · next refused =>
          cases failed
          obtain ⟨command, member, refused⟩ := render_eq_error refused
          obtain ⟨text, parsed⟩ := parsed_of_nodes read member
          exact Command.evaluate_ne_undefined_of_parse parsed name refused
      · cases failed

theorem head?_append_of_head? {text : String} (start : text.toList.head? = some c)
    (rest : String) : (text ++ rest).toList.head? = some c := by
  rw [String.toList_append, List.head?_append, start]
  rfl

/-- No other fault of an evaluation speaks of a function that is missed. -/
theorem ExecuteFault.message_ne_undefined {fault : ExecuteFault}
    (defined : ∀ name, fault ≠ .undefinedFunction name) (name : String) :
    fault.message ≠ (ParseFault.undefinedFunction name).message := by
  have function : (ParseFault.undefinedFunction name).message.toList.head? = some 'f' := by
    have text : (ParseFault.undefinedFunction name).message =
        "function " ++ (Text.quoted name ++ " not defined") := String.append_assoc
    rw [text]
    exact head?_append_of_head? (by decide) _
  have other : fault.message.toList.head? = some 'c' := by
    cases fault with
    | fieldOfString field =>
        have text : (fieldOfString field).message =
            "can't evaluate field " ++ (field ++ " in type string") := String.append_assoc
        rw [text]
        exact head?_append_of_head? (by decide) _
    | indexOf type => exact head?_append_of_head? (by decide) _
    | indexBy type => exact head?_append_of_head? (by decide) _
    | undefinedFunction missed => exact absurd rfl (defined missed)
  intro same
  rw [← same, other] at function
  cases function

/-- The scanner and the tokens agree. A template that can be read is its texts and actions written
one after the other; no text holds opening braces, and an action that is no comment ends at the
first closing braces which are neither quoted nor raw, with the tokens of one command in it. Whether
a template can be read or not, resolving it never reports a quoted or raw text that is cut off, nor
a function that is missed when an action is evaluated: no action that can be read evaluates to that,
whatever the context. -/
theorem actions_of_parse (template : String) :
    let segments := Segments.ofText template.toList
    (∀ nodes, parse template.toList = .ok nodes →
      segments.text = template.toList ∧ (∀ text ∈ segments.texts, ¬ ['{', '{'] <:+: text) ∧
      ∀ action ∈ segments.actions,
        let text := (Action.ofInside action.2).body
        ¬ ['/', '*'] <+: text →
          Closes .plain action.2 ∧
          ∃ tokens command, Token.tokens (String.ofList text) text = .ok tokens ∧
            Command.ofTokens (String.ofList text) tokens = .ok command) ∧
    (∀ context reported,
      resolve context template ≠ .error (.parse reported .unterminatedString) ∧
      resolve context template ≠ .error (.parse reported .unterminatedRawString)) ∧
    (∀ context reported fault name, resolve context template = .error (.execute reported fault) →
      fault.message ≠ (ParseFault.undefinedFunction name).message) ∧
    ∀ action ∈ segments.actions, ∀ command,
      Command.parse (Action.ofInside action.2).body = .ok command →
      ∀ context name, command.evaluate context ≠ .error (.undefinedFunction name) := by
  intro segments
  have cut := cut_ofText template.toList
  refine ⟨?_, ?_, ?_, fun _ _ _ read _ name => Command.evaluate_ne_undefined_of_parse read name⟩
  · intro nodes read
    obtain ⟨last, accepted⟩ := accepted_of_nodes read
    refine ⟨text_ofText _, ?_, ?_⟩
    · rintro text member
      rcases List.mem_append.mp member with member | member
      · obtain ⟨action, member', rfl⟩ := List.mem_map.mp member
        exact (accepted action member').1
      · exact List.mem_singleton.mp member ▸ last
    · intro action member text other
      obtain ⟨rest, after, found⟩ := cut.found action member
      obtain ⟨-, command?, made⟩ := accepted action member
      rcases command?_eq (Action.ofInside action.2) with ⟨comment, body, -⟩ | ⟨-, read⟩
      · exact absurd ⟨comment, body.symm⟩ other
      · obtain ⟨command, parsed, rfl⟩ := map_eq_ok.mp (read.symm.trans made)
        obtain ⟨tokens, split, made'⟩ := parse_eq_ok.mp parsed
        exact ⟨(closes_of_untilClosing (untilClosing_of_command found made)).2, tokens, command,
          split, made'⟩
  · have terminated : ∀ context reported fault,
        resolve context template = .error (.parse reported fault) → ¬ fault.IsUnterminated := by
      intro context reported fault failed
      unfold resolve at failed
      split at failed
      · next refused =>
          cases failed
          rcases nodes_eq_error refused with rfl | ⟨action, member, refused⟩
          · simp [ParseFault.IsUnterminated]
          · obtain ⟨rest, after, found⟩ := cut.found action member
            exact command?_terminated found refused
      · split at failed <;> cases failed
    intro context reported
    exact ⟨fun failed => terminated context reported _ failed (.inl rfl),
      fun failed => terminated context reported _ failed (.inr rfl)⟩
  · intro context reported fault name failed
    exact ExecuteFault.message_ne_undefined (fun missed => resolve_ne_undefined missed failed) name

/-- Closing braces in a quoted text behind an escaped quote, in a comment and in a raw text. -/
theorem actions_of_parse_hidden :
    let template := "a \x7b\x7b- \"\\\"\x7d\x7d\" -\x7d\x7d b\x7b\x7b/* \x7d\x7d */\x7d\x7d" ++
      "\x7b\x7bindex .Env \x60\x7d\x7d\x60\x7d\x7d"
    let quoted := "- \"\\\"\x7d\x7d\" -".toList
    let raw := "index .Env \x60\x7d\x7d\x60".toList
    let segments := Segments.ofText template.toList
    parse template.toList = .ok
      [.text "a".toList, .action (.operand (.operand (.text "\"\x7d\x7d"))), .text "b".toList,
        .text [], .action (.index (.operand (.field ["Env"])) [.operand (.text "\x7d\x7d")]),
        .text []] ∧
      segments.text = template.toList ∧
      segments.actions.map Prod.snd = [quoted, "/* \x7d\x7d */".toList, raw] ∧
      Closes .plain quoted ∧ Closes .plain raw := by
  intro template quoted raw segments
  have read : parse template.toList = .ok
      [.text "a".toList, .action (.operand (.operand (.text "\"\x7d\x7d"))), .text "b".toList,
        .text [], .action (.index (.operand (.field ["Env"])) [.operand (.text "\x7d\x7d")]),
        .text []] := by decide +kernel
  obtain ⟨whole, -, commands⟩ := (actions_of_parse template).1 _ read
  have first : ("a ".toList, quoted) ∈ segments.actions := by decide +kernel
  have last : ([], raw) ∈ segments.actions := by decide +kernel
  exact ⟨read, whole, by decide +kernel, (commands _ first (by decide +kernel)).1,
    (commands _ last (by decide +kernel)).1⟩

end Packfile.Template
