import Packfile.Proofs.Text
import Packfile.Proofs.Template.Written

/-!
# Finding the actions of a written template

The scanner walks through an action in one of four surroundings and stops at the first closing
braces that are neither quoted nor raw. The parts of a command are passed one after the other: each
leads from a surrounding to the next and hides the braces in it. A comment is passed up to its own
end. So the scanner cuts a written template exactly into the texts and actions that it consists of.
-/

namespace Packfile.Template

variable {s t rest : List Char} {start middle stop : Surrounding} {c : Char}

/-! ## Passing the parts of a command -/

/-- The scanner walks over a text from one surrounding into another without stopping in it. -/
def Passes (start : Surrounding) (s : List Char) (stop : Surrounding) : Prop :=
  ∀ rest, untilClosing start (s ++ rest) =
    (untilClosing stop rest).map fun found => (s ++ found.1, found.2)

theorem passes_nil (start : Surrounding) : Passes start [] start := by
  intro rest
  simp

theorem Passes.append (first : Passes start s middle) (later : Passes middle t stop) :
    Passes start (s ++ t) stop := by
  intro rest
  rw [List.append_assoc, first, later, Option.map_map]
  simp [Function.comp_def]

/-- A character that means nothing outside quoted and raw texts. -/
def Inert (c : Char) : Prop :=
  c ≠ '}' ∧ c ≠ '"' ∧ c ≠ '\x60'

theorem inert_of_isBlank (blank : Text.isBlank c) : Inert c := by
  refine ⟨?_, ?_, ?_⟩ <;> rintro rfl <;> revert blank <;> decide

theorem inert_of_isNameChar (name : Token.isNameChar c) : Inert c := by
  refine ⟨?_, ?_, ?_⟩ <;> rintro rfl <;> revert name <;> decide

theorem isNameChar_of_isNameStart (start : Token.isNameStart c) : Token.isNameChar c := by
  simp only [Token.isNameStart, Token.isNameChar, Char.isAlphanum, Bool.or_eq_true] at start ⊢
  rcases start with letter | underscore
  · exact .inl (.inl letter)
  · exact .inr underscore

theorem passes_inert (inert : ∀ c ∈ s, Inert c) : Passes .plain s .plain := by
  induction s with
  | nil => exact passes_nil _
  | cons c s ih =>
      obtain ⟨brace, quote, raw⟩ := inert c List.mem_cons_self
      intro rest
      have later := ih (fun d member => inert d (List.mem_cons_of_mem _ member)) rest
      have opened : afterClosing? (c :: (s ++ rest)) = none := by
        unfold afterClosing?
        split
        · next same => exact absurd (List.cons.inj same).1 brace
        · rfl
      simp only [List.cons_append, untilClosing, opened, if_neg quote, if_neg raw, later]
      simp [push, Function.comp_def]

theorem passes_openingQuote : Passes .plain ['"'] .quoted := by
  intro rest
  rfl

theorem passes_closingQuote : Passes .quoted ['"'] .plain := by
  intro rest
  rfl

theorem passes_openingRaw : Passes .plain ['\x60'] .raw := by
  intro rest
  rfl

theorem passes_closingRaw : Passes .raw ['\x60'] .plain := by
  intro rest
  rfl

theorem passes_raw (closed : '\x60' ∉ s) : Passes .raw s .raw := by
  induction s with
  | nil => exact passes_nil _
  | cons c s ih =>
      have different : c ≠ '\x60' := (List.ne_of_not_mem_cons closed).symm
      intro rest
      have later := ih (List.not_mem_of_not_mem_cons closed) rest
      simp only [List.cons_append, untilClosing, if_neg different, later]
      simp [push, Function.comp_def]

/-- A backslash hides the character after it, be it a quote. -/
theorem passes_escape (c : Char) : Passes .quoted ['\\', c] .quoted := by
  intro rest
  simp [untilClosing, push, Function.comp_def]

theorem passes_quotedChar (char : Written.QuotedChar) : Passes .quoted char.text .quoted := by
  cases char with
  | plain c notQuote notBackslash =>
      intro rest
      simp only [Written.QuotedChar.text, List.cons_append, untilClosing, if_neg notQuote,
        if_neg notBackslash]
      rfl
  | newline => exact passes_escape 'n'
  | tab => exact passes_escape 't'
  | backslash => exact passes_escape '\\'
  | quote => exact passes_escape '"'

theorem passes_flatMap {α : Type} {f : α → List Char} {xs : List α}
    (each : ∀ x ∈ xs, Passes start (f x) start) : Passes start (xs.flatMap f) start := by
  induction xs with
  | nil => exact passes_nil _
  | cons x xs ih =>
      rw [List.flatMap_cons]
      exact (each x List.mem_cons_self).append
        (ih fun y member => each y (List.mem_cons_of_mem _ member))

theorem passes_blanks (blanks : Written.Blanks) : Passes .plain blanks.text .plain :=
  passes_inert fun _ member => inert_of_isBlank (blanks.blank _ member)

theorem Written.Name.isNameStart (name : Written.Name) : Token.isNameStart name.first := by
  simpa [Token.isNameStart] using name.start

theorem Written.Name.isNameChar (name : Written.Name) (member : c ∈ name.text) :
    Token.isNameChar c := by
  rcases List.mem_cons.mp member with rfl | member
  · exact isNameChar_of_isNameStart name.isNameStart
  · simpa [Token.isNameChar] using name.others c member

theorem passes_dot : Passes .plain ['.'] .plain :=
  passes_inert (by simp [Inert])

theorem passes_names (names : List Written.Name) :
    Passes .plain (names.flatMap fun name => '.' :: name.text) .plain := by
  refine passes_flatMap fun name _ => ?_
  exact passes_dot.append
    (passes_inert fun c member => inert_of_isNameChar (name.isNameChar member))

theorem passes_operand (operand : Written.Operand) : Passes .plain operand.text .plain := by
  cases operand with
  | chain names =>
      cases names with
      | nil => exact passes_dot
      | cons name names => exact passes_names (name :: names)
  | quoted chars =>
      exact passes_openingQuote.append
        ((passes_flatMap fun char _ => passes_quotedChar char).append passes_closingQuote)
  | raw text closed =>
      exact passes_openingRaw.append ((passes_raw closed).append passes_closingRaw)

theorem isNameChar_index : ∀ c ∈ ['i', 'n', 'd', 'e', 'x'], Token.isNameChar c := by
  intro c member
  simp only [List.mem_cons, List.not_mem_nil, or_false] at member
  rcases member with rfl | rfl | rfl | rfl | rfl <;> decide

theorem passes_command (command : Written.Command) : Passes .plain command.text .plain := by
  cases command with
  | operand operand => exact passes_operand operand
  | index gap target keys =>
      have name : Passes .plain ['i', 'n', 'd', 'e', 'x'] .plain :=
        passes_inert fun c member => inert_of_isNameChar (isNameChar_index c member)
      refine ((name.append (passes_blanks gap.toBlanks)).append (passes_operand target)).append ?_
      exact passes_flatMap fun key _ => (passes_blanks key.1.toBlanks).append (passes_operand key.2)

theorem passes_marker : Passes .plain ['-'] .plain :=
  passes_inert (by simp [Inert])

theorem passes_front (side : Written.Side) : Passes .plain side.front .plain := by
  cases side with
  | padded blanks => exact passes_blanks blanks
  | marked gap => exact passes_marker.append (passes_blanks gap.toBlanks)

theorem passes_back (side : Written.Side) : Passes .plain side.back .plain := by
  cases side with
  | padded blanks => exact passes_blanks blanks
  | marked gap => exact (passes_blanks gap.toBlanks).append passes_marker

/-- A text that is passed ends at the closing braces after it. -/
theorem Passes.untilClosing (passed : Passes .plain s .plain) (rest : List Char) :
    Template.untilClosing .plain (s ++ '}' :: '}' :: rest) = some (s, rest) := by
  rw [passed]
  simp [Template.untilClosing, afterClosing?]

/-! ## The ends of what an action holds -/

/-- A character that is neither blank nor a marker. -/
def Solid (c : Char) : Prop :=
  Text.isBlank c = false ∧ c ≠ '-'

instance : Decidable (Solid c) :=
  inferInstanceAs (Decidable (_ ∧ _))

/-- The text begins with such a character. -/
def SolidStart (s : List Char) : Prop :=
  ∃ c rest, s = c :: rest ∧ Solid c

/-- The text ends with such a character. -/
def SolidEnd (s : List Char) : Prop :=
  ∃ init c, s = init ++ [c] ∧ Solid c

theorem SolidEnd.append (final : SolidEnd t) (s : List Char) : SolidEnd (s ++ t) := by
  obtain ⟨init, c, rfl, solid⟩ := final
  exact ⟨s ++ init, c, (List.append_assoc ..).symm, solid⟩

theorem solidEnd_singleton (solid : Solid c) (s : List Char) : SolidEnd (s ++ [c]) :=
  ⟨s, c, rfl, solid⟩

theorem solidEnd_flatMap {α : Type} {f : α → List Char} {xs : List α} (nonempty : xs ≠ [])
    (each : ∀ x ∈ xs, SolidEnd (f x)) : SolidEnd (xs.flatMap f) := by
  induction xs with
  | nil => exact absurd rfl nonempty
  | cons x xs ih =>
      rw [List.flatMap_cons]
      by_cases single : xs = []
      · rw [single, List.flatMap_nil, List.append_nil]
        exact each x List.mem_cons_self
      · exact (ih single fun y member => each y (List.mem_cons_of_mem _ member)).append _

theorem isBlank_of_isNameChar (name : Token.isNameChar c) : Text.isBlank c = false := by
  rcases Bool.or_eq_true_iff.mp name with ascii | underscore
  · exact Text.isBlank_of_isAlphanum ascii
  · obtain rfl := of_decide_eq_true underscore
    decide

theorem solid_of_isNameChar (name : Token.isNameChar c) : Solid c := by
  refine ⟨isBlank_of_isNameChar name, ?_⟩
  rintro rfl
  revert name
  decide

namespace Written

theorem Name.solidEnd (name : Name) : SolidEnd name.text := by
  have nonempty : name.text ≠ [] := List.cons_ne_nil _ _
  exact ⟨_, _, (List.dropLast_concat_getLast nonempty).symm,
    solid_of_isNameChar (name.isNameChar (List.getLast_mem nonempty))⟩

theorem Operand.solidEnd (operand : Operand) : SolidEnd operand.text := by
  cases operand with
  | chain names =>
      cases names with
      | nil => exact solidEnd_singleton (by decide) []
      | cons name names =>
          refine solidEnd_flatMap (List.cons_ne_nil name names) fun other _ => ?_
          exact other.solidEnd.append ['.']
  | quoted chars => exact solidEnd_singleton (by decide) _
  | raw text closed => exact solidEnd_singleton (by decide) _

theorem Command.solidEnd (command : Command) : SolidEnd command.text := by
  cases command with
  | operand operand => exact operand.solidEnd
  | index gap target keys =>
      by_cases none : keys = []
      · subst none
        simp only [Command.text, List.flatMap_nil, List.append_nil]
        exact target.solidEnd.append _
      · refine (solidEnd_flatMap none fun key _ => ?_).append _
        exact key.2.solidEnd.append _

theorem Content.solidEnd (content : Content) : SolidEnd content.text := by
  cases content with
  | comment text unended =>
      exact (solidEnd_singleton (by decide) ['*']).append ('/' :: '*' :: text)
  | command command => exact command.solidEnd

/-- A command begins with a dot, a quote or the name of a function. -/
theorem Command.text_start (command : Command) :
    ∃ c rest, command.text = c :: rest ∧ Solid c ∧ c ≠ '/' := by
  cases command with
  | operand operand =>
      cases operand with
      | chain names =>
          cases names with
          | nil => exact ⟨'.', _, rfl, by decide⟩
          | cons name names => exact ⟨'.', _, rfl, by decide⟩
      | quoted chars => exact ⟨'"', _, rfl, by decide⟩
      | raw text closed => exact ⟨'\x60', _, rfl, by decide⟩
  | index gap target keys => exact ⟨'i', _, rfl, by decide⟩

theorem Content.solidStart (content : Content) : SolidStart content.text := by
  cases content with
  | comment text unended => exact ⟨'/', _, rfl, by decide⟩
  | command command =>
      obtain ⟨c, rest, written, solid, _⟩ := command.text_start
      exact ⟨c, rest, written, solid⟩

end Written

/-! ## Comments -/

theorem takeWhile_blanks (blanks : Written.Blanks) (solid : Text.isBlank c = false) :
    (blanks.text ++ c :: rest).takeWhile Text.isBlank = blanks.text := by
  rw [List.takeWhile_append_of_pos blanks.blank]
  simp [solid]

theorem dropWhile_blanks (blanks : Written.Blanks) (solid : Text.isBlank c = false) :
    (blanks.text ++ c :: rest).dropWhile Text.isBlank = c :: rest := by
  rw [List.dropWhile_append_of_pos blanks.blank]
  simp [solid]

theorem marker_of_ne (other : c ≠ '-') : marker (c :: rest) = ([], c :: rest) := by
  unfold marker
  split
  · next same => exact absurd (List.cons.inj same).1 other
  · rfl

theorem marker_blanks (blanks : Written.Blanks) (other : c ≠ '-') :
    marker (blanks.text ++ c :: rest) = ([], blanks.text ++ c :: rest) := by
  obtain ⟨text, blank⟩ := blanks
  cases text with
  | nil => exact marker_of_ne other
  | cons d text =>
      refine marker_of_ne ?_
      rintro rfl
      have := blank '-' List.mem_cons_self
      revert this
      decide

theorem commentTail?_blanks (blanks : Written.Blanks) (rest : List Char) :
    commentTail? (blanks.text ++ '}' :: '}' :: rest) = some (blanks.text, rest) := by
  simp only [commentTail?, takeWhile_blanks blanks (show Text.isBlank '}' = false by decide),
    dropWhile_blanks blanks (show Text.isBlank '}' = false by decide)]
  simp [marker_of_ne, afterClosing?]

theorem commentTail?_marked (blanks : Written.Blanks) (rest : List Char) :
    commentTail? (blanks.text ++ ['-'] ++ '}' :: '}' :: rest) =
      some (blanks.text ++ ['-'], rest) := by
  simp only [commentTail?, List.append_assoc, List.singleton_append,
    takeWhile_blanks blanks (show Text.isBlank '-' = false by decide),
    dropWhile_blanks blanks (show Text.isBlank '-' = false by decide)]
  simp [marker, afterClosing?]

theorem commentTail?_back (side : Written.Side) (rest : List Char) :
    commentTail? (side.back ++ '}' :: '}' :: rest) = some (side.back, rest) := by
  cases side with
  | padded blanks => exact commentTail?_blanks blanks rest
  | marked gap => exact commentTail?_marked gap.toBlanks rest

theorem commentOpening?_blanks (blanks : Written.Blanks) (rest : List Char) :
    commentOpening? (blanks.text ++ '/' :: '*' :: rest) =
      some (blanks.text ++ ['/', '*'], rest) := by
  simp only [commentOpening?, marker_blanks blanks (show '/' ≠ '-' by decide),
    takeWhile_blanks blanks (show Text.isBlank '/' = false by decide),
    dropWhile_blanks blanks (show Text.isBlank '/' = false by decide), List.nil_append]

theorem commentOpening?_marked (blanks : Written.Blanks) (rest : List Char) :
    commentOpening? ('-' :: blanks.text ++ '/' :: '*' :: rest) =
      some ('-' :: blanks.text ++ ['/', '*'], rest) := by
  simp only [commentOpening?, List.cons_append, marker,
    takeWhile_blanks blanks (show Text.isBlank '/' = false by decide),
    dropWhile_blanks blanks (show Text.isBlank '/' = false by decide), List.nil_append]

theorem commentOpening?_front (side : Written.Side) (rest : List Char) :
    commentOpening? (side.front ++ '/' :: '*' :: rest) = some (side.front ++ ['/', '*'], rest) := by
  cases side with
  | padded blanks => exact commentOpening?_blanks blanks rest
  | marked gap => exact commentOpening?_marked gap.toBlanks rest

theorem commentOpening?_of_solid (side : Written.Side) (solid : Solid c) (other : c ≠ '/')
    (rest : List Char) : commentOpening? (side.front ++ c :: rest) = none := by
  cases side with
  | padded blanks =>
      simp only [commentOpening?, Written.Side.front, marker_blanks blanks solid.2,
        dropWhile_blanks blanks solid.1]
      split
      · next same => exact absurd (List.cons.inj same).1 other
      · rfl
  | marked gap =>
      simp only [commentOpening?, Written.Side.front, List.cons_append, marker,
        dropWhile_blanks gap.toBlanks solid.1]
      split
      · next same => exact absurd (List.cons.inj same).1 other
      · rfl

/-- The end of a comment is found at its first occurrence. -/
theorem untilCommentClosing_text {text : List Char} (unended : ¬ ['*', '/'] <:+: text)
    (side : Written.Side) (rest : List Char) :
    untilCommentClosing (text ++ '*' :: '/' :: (side.back ++ '}' :: '}' :: rest)) =
      some (text ++ '*' :: '/' :: side.back, rest) := by
  induction text with
  | nil => simp [untilCommentClosing, commentTail?_back]
  | cons c text ih =>
      have later := ih fun found => unended (List.infix_cons found)
      -- a star at the end of the body is followed by the star of the end, not by its slash
      have early : ∀ more, c = '*' →
          text ++ '*' :: '/' :: (side.back ++ '}' :: '}' :: rest) ≠ '/' :: more := by
        rintro more rfl same
        cases text with
        | nil => cases same
        | cons d text =>
            obtain rfl : d = '/' := (List.cons.inj same).1
            exact unended (List.IsPrefix.isInfix (List.prefix_append ['*', '/'] text))
      rw [List.cons_append, untilCommentClosing, later]
      · rfl
      · exact early

/-! ## Actions and texts -/

/-- The scanner finds the inside of an action, whatever follows the action. -/
theorem inside?_action (action : Written.Action) (rest : List Char) :
    inside? (action.inside ++ '}' :: '}' :: rest) = some (action.inside, rest) := by
  obtain ⟨before, content, after⟩ := action
  cases content with
  | comment text unended =>
      have split : Written.Action.inside ⟨before, .comment text unended, after⟩ ++
          '}' :: '}' :: rest =
          before.front ++ '/' :: '*' ::
            (text ++ '*' :: '/' :: (after.back ++ '}' :: '}' :: rest)) := by
        simp [Written.Action.inside, Written.Content.text]
      simp only [inside?, split, commentOpening?_front, untilCommentClosing_text unended]
      simp [Written.Action.inside, Written.Content.text]
  | command command =>
      have passed : Passes .plain
          (Written.Action.inside ⟨before, .command command, after⟩) .plain :=
        ((passes_front before).append (passes_command command)).append (passes_back after)
      obtain ⟨c, other, written, solid, different⟩ := command.text_start
      have opening : commentOpening?
          (Written.Action.inside ⟨before, .command command, after⟩ ++ '}' :: '}' :: rest) =
            none := by
        simp only [Written.Action.inside, Written.Content.text, written, List.append_assoc,
          List.cons_append]
        exact commentOpening?_of_solid before solid different _
      simp only [inside?, opening]
      exact passed.untilClosing rest

theorem firstAction_cons (unopened : c = '{' → insideBrace? rest = none) :
    firstAction (c :: rest) = (c :: (firstAction rest).1, (firstAction rest).2) := by
  rw [firstAction]
  split
  · next found opened =>
      split at opened
      · next brace =>
          rw [unopened brace] at opened
          cases opened
      · cases opened
  · rfl

theorem insideBrace?_cons (other : c ≠ '{') : insideBrace? (c :: rest) = none := by
  unfold insideBrace?
  split
  · next same => exact absurd (List.cons.inj same).1 other
  · rfl

/-- No action opens inside a text. -/
theorem ne_brace_of_plain {d : Char} (plain : ¬ ['{', '{'] <:+: '{' :: d :: s) : d ≠ '{' := by
  rintro rfl
  exact plain (List.prefix_append ['{', '{'] s).isInfix

/-- The text before the first action, when that action opens right after it. -/
theorem firstAction_text {text : List Char} (plain : ¬ ['{', '{'] <:+: text)
    (closed : text.getLast? ≠ some '{') {found : List Char × List Char}
    (action : inside? rest = some found) :
    firstAction (text ++ '{' :: '{' :: rest) = (text, some found) := by
  induction text with
  | nil => simp [firstAction, insideBrace?, action]
  | cons c text ih =>
      -- a brace of the text is not its last character, so the text goes on after it
      have unopened : c = '{' → insideBrace? (text ++ '{' :: '{' :: rest) = none := by
        rintro rfl
        cases text with
        | nil => exact absurd rfl closed
        | cons d text => exact insideBrace?_cons (ne_brace_of_plain plain)
      have closed' : text.getLast? ≠ some '{' := by
        intro last
        refine closed ?_
        cases text with
        | nil => cases last
        | cons d text => rwa [List.getLast?_cons_cons]
      rw [List.cons_append, firstAction_cons unopened,
        ih (fun inner => plain (List.infix_cons inner)) closed']

/-- A text without opening braces holds no action. -/
theorem firstAction_tail {text : List Char} (plain : ¬ ['{', '{'] <:+: text) :
    firstAction text = (text, none) := by
  induction text with
  | nil => rfl
  | cons c text ih =>
      have unopened : c = '{' → insideBrace? text = none := by
        rintro rfl
        cases text with
        | nil => rfl
        | cons d text => exact insideBrace?_cons (ne_brace_of_plain plain)
      rw [firstAction_cons unopened, ih fun inner => plain (List.infix_cons inner)]

/-! ## Segments -/

theorem ofText_of_none {text : List Char} (none : firstAction s = (text, none)) :
    Segments.ofText s = ⟨[], text⟩ := by
  rw [Segments.ofText]
  split
  · next other found =>
      rw [none] at found
      cases found
      rfl
  · next other inside after found =>
      rw [none] at found
      cases found

theorem ofText_of_some {text inside after : List Char}
    (first : firstAction s = (text, some (inside, after))) :
    Segments.ofText s =
      ⟨(text, inside) :: (Segments.ofText after).actions, (Segments.ofText after).tail⟩ := by
  rw [Segments.ofText]
  split
  · next other found =>
      rw [first] at found
      cases found
  · next other inside after found =>
      rw [first] at found
      cases found
      rfl

namespace Written.Source

/-- The texts before actions, each with what stands inside the action after it. -/
def segments : Source → List (List Char × List Char)
  | .tail _ _ => []
  | .segment text _ _ action rest => (text, action.inside) :: rest.segments

/-- The text after the last action. -/
def lastText : Source → List Char
  | .tail text _ => text
  | .segment _ _ _ _ rest => rest.lastText

end Written.Source

/-- The scanner cuts a written template into the parts that it consists of. -/
theorem ofText_written (source : Written.Source) :
    Segments.ofText source.text = ⟨source.segments, source.lastText⟩ := by
  induction source with
  | tail text plain => exact ofText_of_none (firstAction_tail plain)
  | segment text plain closed action rest ih =>
      have written : (Written.Source.segment text plain closed action rest).text =
          text ++ '{' :: '{' :: (action.inside ++ '}' :: '}' :: rest.text) := by
        simp [Written.Source.text, Written.Action.text]
      rw [written,
        ofText_of_some (firstAction_text plain closed (inside?_action action rest.text)), ih]
      rfl

end Packfile.Template
