import Packfile.Proofs.Template.Tokens
import Packfile.Proofs.Traversal

/-!
# Resolving a written template

Reading a written template gives its texts and commands back: markers and padding are told from the
content of an action, since this begins and ends with other characters. The value that a command is
evaluated to stands for the place in the tree of data that the written command leads to. So
resolving the template gives its meaning, and it fails exactly where a command leads nowhere.
-/

namespace Packfile.Template

variable {s rest : List Char} {c : Char} {context : Context}

/-! ## Markers -/

theorem ne_marker_of_isBlank (blank : Text.isBlank c) : c ≠ '-' := by
  rintro rfl
  exact absurd blank (by decide)

theorem SolidStart.append (first : SolidStart s) (t : List Char) : SolidStart (s ++ t) := by
  obtain ⟨c, rest, rfl, solid⟩ := first
  exact ⟨c, rest ++ t, rfl, solid⟩

theorem splitFront_of_ne (other : ∀ rest, s ≠ '-' :: rest) : Action.splitFront s = (false, s) := by
  unfold Action.splitFront
  split
  · next rest => exact absurd rfl (other rest)
  · rfl

/-- At the front, a marker is told from the content after it. -/
theorem splitFront_front (side : Written.Side) (content : SolidStart s) :
    Action.splitFront (side.front ++ s) = (side.isMarked, side.blanks.text ++ s) := by
  obtain ⟨c, rest, rfl, solid⟩ := content
  cases side with
  | padded blanks =>
      refine splitFront_of_ne ?_
      obtain ⟨text, blank⟩ := blanks
      intro more same
      cases text with
      | nil => exact solid.2 (List.cons.inj same).1
      | cons d text => exact ne_marker_of_isBlank (blank d List.mem_cons_self) (List.cons.inj same).1
  | marked gap =>
      obtain ⟨⟨text, blank⟩, nonempty⟩ := gap
      cases text with
      | nil => exact absurd rfl nonempty
      | cons d text =>
          have first : Text.isBlank d := blank d List.mem_cons_self
          simp [Action.splitFront, Written.Side.front, Written.Side.isMarked, Written.Side.blanks,
            first]

theorem getLast?_append_gap (s : List Char) (gap : Written.Gap) :
    ∃ c, (s ++ gap.text).getLast? = some c ∧ Text.isBlank c := by
  have last := List.getLast?_eq_some_getLast gap.nonempty
  refine ⟨gap.text.getLast gap.nonempty, ?_, gap.blank _ (List.getLast_mem gap.nonempty)⟩
  rw [List.getLast?_append, last]
  rfl

theorem splitEnd_of_ne (other : s.getLast? ≠ some '-') : Action.splitEnd s = (false, s) := by
  simp [Action.splitEnd, other]

/-- At the end, a marker is told from the content before it. -/
theorem splitEnd_back (side : Written.Side) (content : SolidEnd s) :
    Action.splitEnd (s ++ side.back) = (side.isMarked, s ++ side.blanks.text) := by
  cases side with
  | padded blanks =>
      refine splitEnd_of_ne ?_
      by_cases none : blanks.text = []
      · obtain ⟨init, c, rfl, solid⟩ := content
        simpa [Written.Side.back, none] using solid.2
      · obtain ⟨c, last, blank⟩ := getLast?_append_gap s ⟨blanks, none⟩
        intro same
        exact ne_marker_of_isBlank blank (Option.some.inj (last.symm.trans same))
  | marked gap =>
      obtain ⟨c, last, blank⟩ := getLast?_append_gap s gap
      have split : s ++ (Written.Side.marked gap).back = (s ++ gap.text) ++ ['-'] :=
        (List.append_assoc _ _ _).symm
      rw [split]
      simp only [Action.splitEnd, List.getLast?_concat, List.dropLast_concat, last]
      simp [blank, Written.Side.isMarked, Written.Side.blanks]

/-- Reading the inside of a written action gives its markers and its content back. -/
theorem ofInside_written (action : Written.Action) :
    Action.ofInside action.inside =
      ⟨action.before.isMarked, action.after.isMarked, action.content.text⟩ := by
  obtain ⟨before, content, after⟩ := action
  have start : SolidStart (content.text ++ after.back) := content.solidStart.append _
  have final : SolidEnd (before.blanks.text ++ content.text) := content.solidEnd.append _
  have padded : Text.trim (before.blanks.text ++ content.text ++ after.blanks.text) =
      content.text := by
    obtain ⟨c, rest, first, solid⟩ := content.solidStart
    obtain ⟨init, d, last, solid'⟩ := content.solidEnd
    exact Text.trim_padded before.blanks.blank after.blanks.blank ⟨c, rest, first, solid.1⟩
      ⟨init, d, last, solid'.1⟩
  simp only [Action.ofInside, Written.Action.inside, List.append_assoc,
    splitFront_front before start]
  rw [← List.append_assoc, splitEnd_back after final]
  simp only [padded]

/-! ## Nodes -/

namespace Written

/-- The nodes of a template. -/
def Source.nodes (trimsStart : Bool) : Source → List Node
  | .tail text _ => [.text (trimmed trimsStart false text)]
  | .segment text _ _ action rest =>
    .text (trimmed trimsStart action.before.isMarked text) ::
      (match action.content with
        | .comment _ _ => rest.nodes action.after.isMarked
        | .command command => .action command.command :: rest.nodes action.after.isMarked)

end Written

theorem checkText_of_plain {text : List Char} (plain : ¬ ['{', '{'] <:+: text)
    (trimsStart trimsEnd : Bool) :
    checkText trimsStart trimsEnd text = .ok (Written.trimmed trimsStart trimsEnd text) := by
  have absent : Text.occursIn ['{', '{'] text = false :=
    Bool.eq_false_iff.mpr fun found => plain (Text.occursIn_iff.mp found)
  simp [checkText, absent, Written.trimmed]

theorem command?_comment (before after : Bool) (text : List Char) :
    Action.command? ⟨before, after, '/' :: '*' :: text ++ ['*', '/']⟩ = .ok none := by
  simp [Action.command?, List.isSuffixOf_iff_suffix]

theorem command?_command (before after : Bool) (command : Written.Command) :
    Action.command? ⟨before, after, command.text⟩ = .ok (some command.command) := by
  obtain ⟨c, rest, written, solid, other⟩ := command.text_start
  unfold Action.command?
  split
  · next comment same => exact absurd (List.cons.inj (written.symm.trans same)).1 other
  · rw [parse_written]
    rfl

/-- Reading the segments of a written template gives its nodes. -/
theorem nodes_written (source : Written.Source) (trimsStart : Bool) :
    nodes source.lastText trimsStart source.segments = .ok (source.nodes trimsStart) := by
  induction source generalizing trimsStart with
  | tail text plain =>
      simp only [Written.Source.segments, Written.Source.lastText, nodes,
        checkText_of_plain plain]
      rfl
  | segment text plain closed action rest ih =>
      obtain ⟨before, content, after⟩ := action
      simp only [Written.Source.segments, Written.Source.lastText, nodes, ofInside_written,
        checkText_of_plain plain]
      cases content with
      | comment comment unended =>
          simp only [Written.Content.text, command?_comment, ih]
          rfl
      | command command =>
          simp only [Written.Content.text, command?_command, ih]
          rfl

/-! ## Values -/

/-- The value of a written operand stands for its data. -/
theorem evaluate_token_written (operand : Written.Operand) :
    operand.data context = Value.data context <$> operand.token.evaluate context := by
  cases operand with
  | chain names => exact Value.walk_data _ .root
  | quoted chars => rfl
  | raw text closed => rfl

/-- Keys that are looked up one after the other lead to the same place. -/
theorem foldlM_index_written (keys : List (Written.Gap × Written.Operand)) (value : Value) :
    Written.Command.lookUp context keys (value.data context) =
      Value.data context <$> (keys.map fun key => key.2.token).foldlM
        (fun value token => do value.index context (← (← token.evaluate context).key)) value := by
  induction keys generalizing value with
  | nil => rfl
  | cons key keys ih =>
      rw [Written.Command.lookUp, List.map_cons, List.foldlM_cons, evaluate_token_written]
      cases key.2.token.evaluate context with
      | error fault => rfl
      | ok inner =>
          simp only [Functor.map, Except.map, bind, Except.bind, Value.asKey_data]
          cases inner.key with
          | error fault => rfl
          | ok text =>
              simp only [Value.entry_data]
              cases value.index context text with
              | error fault => rfl
              | ok next => exact ih next

/-- The value of a written command stands for its data. -/
theorem evaluate_written (command : Written.Command) :
    command.data context = Value.data context <$> command.command.evaluate context := by
  cases command with
  | operand operand => exact evaluate_token_written operand
  | index gap target keys =>
      simp only [Written.Command.data, Written.Command.command, Command.evaluate,
        evaluate_token_written target]
      cases target.token.evaluate context with
      | error fault => rfl
      | ok start => exact foldlM_index_written keys start

/-- A command is rendered as what it stands for. -/
theorem value_written (command : Written.Command) :
    (Written.Content.command command).value context =
      (Node.action command.command).render context := by
  simp only [Written.Content.value, Node.render, evaluate_written]
  cases command.command.evaluate context with
  | error fault => rfl
  | ok value => exact congrArg (fun text => Except.ok text.toList) (Value.shown_data value)

/-- Rendering the nodes of a written template gives its meaning. -/
theorem render_written (source : Written.Source) (trimsStart : Bool) :
    render context (source.nodes trimsStart) = source.meaning context trimsStart := by
  induction source generalizing trimsStart with
  | tail text plain =>
      simp [Written.Source.nodes, Written.Source.meaning, render, Node.render, pure, Except.pure,
        bind, Except.bind]
  | segment text plain closed action rest ih =>
      obtain ⟨before, content, after⟩ := action
      cases content with
      | comment comment unended =>
          simp only [Written.Source.nodes, Written.Source.meaning, Written.Content.value, render,
            Node.render, ih]
          cases rest.meaning context after.isMarked with
          | error fault => rfl
          | ok others => simp [pure, Except.pure, bind, Except.bind]
      | command command =>
          simp only [Written.Source.nodes, Written.Source.meaning, value_written, render, ih]
          cases (Node.action command.command).render context with
          | error fault => rfl
          | ok value =>
              cases rest.meaning context after.isMarked with
              | error fault => rfl
              | ok others => simp [Node.render, pure, Except.pure, bind, Except.bind]

/-- Printing a template and resolving it gives its meaning: the texts, trimmed where markers ask for
it, with the data that each command stands for shown in its place. Where a command stands for none,
the error is that of the first such command and carries the printed template. Every text can stand
in quotes, those with braces and quotes in them included. -/
theorem resolve_written (context : Context) (source : Written.Source) :
    (resolve context (String.ofList source.text) =
      match source.meaning context false with
      | .ok text => .ok (String.ofList text)
      | .error fault => .error (.execute (String.ofList source.text) fault)) ∧
    ∀ value, ∃ chars, (Written.Operand.quoted chars).data context = .ok (.text value) := by
  refine ⟨?_, Written.Operand.exists_quoted context⟩
  have read : parse source.text = .ok (source.nodes false) := by
    simp only [parse, ofText_written]
    exact nodes_written source false
  rw [resolve, String.toList_ofList, read]
  simp only [render_written]
  cases source.meaning context false <;> rfl

namespace Written

/-- One blank. -/
def Gap.single : Gap where
  text := [' ']
  blank := List.forall_mem_singleton.mpr rfl
  nonempty := List.cons_ne_nil _ _

/-- The variables. -/
def Name.variables : Name where
  first := 'E'
  rest := ['n', 'v']
  start := .inl rfl
  others := List.forall_mem_cons.mpr ⟨.inl rfl, List.forall_mem_singleton.mpr (.inl rfl)⟩

/-- A variable. -/
def Name.key : Name where
  first := 'K'
  rest := ['E', 'Y']
  start := .inl rfl
  others := List.forall_mem_cons.mpr ⟨.inl rfl, List.forall_mem_singleton.mpr (.inl rfl)⟩

/-- A template with braces and quotes in a text between markers, braces in a comment, a look-up
whose key is looked up, the whole context, and an escape that is none in a raw text. -/
def Source.intricate : Source :=
  let padded : Side := .padded Gap.single.toBlanks
  let bare : Side := .padded ⟨[], List.forall_mem_nil _⟩
  let marked : Side := .marked .single
  let quoted : Operand := .quoted ("\x7d\x7d \"\x7b\x7b\"".toList.map QuotedChar.ofChar)
  let lookUp : Command := .index .single (.chain [.variables])
    [(.single, .chain [.variables, .key])]
  .segment "a ".toList (by decide +kernel) (by decide +kernel)
    ⟨marked, .command (.operand quoted), marked⟩ <|
  .segment " b".toList (by decide +kernel) (by decide +kernel)
    ⟨bare, .comment " \x7d\x7d ".toList (by decide +kernel), padded⟩ <|
  .segment "/".toList (by decide +kernel) (by decide +kernel) ⟨padded, .command lookUp, padded⟩ <|
  .segment "/".toList (by decide +kernel) (by decide +kernel)
    ⟨bare, .command (.operand (.chain [])), bare⟩ <|
  .segment [] (by decide +kernel) (by decide +kernel)
    ⟨bare, .command (.operand (.raw "\\n".toList (by decide +kernel))), bare⟩ <|
  .tail "\n".toList (by decide +kernel)

end Written

/-- Each action of the template gives the text that it stands for. -/
theorem resolve_written_intricate :
    let context : Context := ⟨"prod", .ofList [("KEY", "a-b"), ("a-b", "c")]⟩
    let template := "a \x7b\x7b- \"\x7d\x7d \\\"\x7b\x7b\\\"\" -\x7d\x7d b" ++
      "\x7b\x7b/* \x7d\x7d */ \x7d\x7d/\x7b\x7b index .Env .Env.KEY \x7d\x7d/" ++
      "\x7b\x7b.\x7d\x7d\x7b\x7b\x60\\n\x60\x7d\x7d\n"
    let text := "a\x7d\x7d \"\x7b\x7b\"b/c/\x7b\x7bprod\x7d map[KEY:a-b a-b:c]\x7d\\n\n"
    String.ofList Written.Source.intricate.text = template ∧
      resolve context template = .ok text := by
  intro context template text
  have written : String.ofList Written.Source.intricate.text = template := by decide +kernel
  have meaning : Written.Source.intricate.meaning context false = .ok text.toList := by
    decide +kernel
  have resolved := (resolve_written context Written.Source.intricate).1
  rw [written, meaning] at resolved
  exact ⟨written, resolved.trans (congrArg Except.ok String.ofList_toList)⟩

end Packfile.Template
