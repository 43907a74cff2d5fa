import Mathlib.Data.List.Infix
import Packfile.Executor.NomadPack
import Packfile.Proofs.Text

/-!
# Command lines as they are shown

A command line is shown for the eye: every argument stands behind a space, those with a space or an
equals sign are put in single quotes, and nothing is escaped. What such a text tells for certain is
its words, that is what stands between the spaces. Which words make up an argument is lost where a
quote that is part of an argument looks like one around it: in quotes, a quote before a space looks
like the closing one, and without quotes, a quote at the beginning looks like an opening one. Where
no argument has such a quote, the text tells the arguments apart as well.
-/

namespace Packfile.NomadPack

/-- An argument is shown in quotes. -/
def IsQuoted (arg : String) : Prop :=
  ' ' ∈ arg.toList ∨ '=' ∈ arg.toList

instance (arg : String) : Decidable (IsQuoted arg) :=
  inferInstanceAs (Decidable (_ ∨ _))

/-- An argument as it is shown, character by character. -/
def shown (arg : String) : List Char :=
  (formatArg arg).toList

/-- The words of an argument as they are shown. -/
def words (arg : String) : List (List Char) :=
  Text.fields ' ' (shown arg)

/-- No quote of the argument looks like one around an argument: in quotes, none stands before a
space, and without quotes, none stands at the beginning unless another one stands at the end. -/
def Legible (arg : String) : Prop :=
  (IsQuoted arg → ¬ ['\'', ' '] <:+: arg.toList) ∧
    (¬ IsQuoted arg → arg.toList.head? = some '\'' → arg.toList.tail.getLast? = some '\'')

instance (arg : String) : Decidable (Legible arg) :=
  inferInstanceAs (Decidable (_ ∧ _))

variable {tool : NomadPack} {arg other : String} {args others : List String} {w : List Char}

/-! ## One argument -/

theorem legible_of_not_mem (plain : '\'' ∉ arg.toList) : Legible arg := by
  constructor
  · intro _ inside
    exact plain (inside.subset List.mem_cons_self)
  · intro _ opens
    exact absurd (List.mem_of_mem_head? opens) plain

theorem shown_of_isQuoted (quoted : IsQuoted arg) : shown arg = '\'' :: (arg.toList ++ ['\'']) := by
  have found : (arg.toList.contains ' ' || arg.toList.contains '=') = true := by
    simpa [IsQuoted] using quoted
  rw [shown, formatArg, if_pos found]
  simp

theorem shown_of_not_isQuoted (bare : ¬ IsQuoted arg) : shown arg = arg.toList := by
  have absent : ¬ (arg.toList.contains ' ' || arg.toList.contains '=') = true := by
    simpa [IsQuoted] using bare
  rw [shown, formatArg, if_neg absent]

/-- Whether there are quotes around an argument can be seen from what is shown of it. -/
theorem isQuoted_iff_shown : IsQuoted arg ↔ ' ' ∈ shown arg ∨ '=' ∈ shown arg := by
  by_cases quoted : IsQuoted arg
  · rw [shown_of_isQuoted quoted]
    simp only [quoted, List.mem_cons, List.mem_append, true_iff]
    exact quoted.imp (fun space => .inr (.inl space)) (fun equals => .inr (.inl equals))
  · rw [shown_of_not_isQuoted quoted, IsQuoted]

/-- Single arguments are shown differently if they are different. -/
theorem shown_injective (same : shown arg = shown other) : arg = other := by
  have kind : IsQuoted arg ↔ IsQuoted other := by
    rw [isQuoted_iff_shown, isQuoted_iff_shown, same]
  by_cases quoted : IsQuoted arg
  · rw [shown_of_isQuoted quoted, shown_of_isQuoted (kind.mp quoted)] at same
    exact String.toList_inj.mp (List.append_cancel_right (List.cons.inj same).2)
  · rw [shown_of_not_isQuoted quoted, shown_of_not_isQuoted (mt kind.mpr quoted)] at same
    exact String.toList_inj.mp same

/-- What is shown of a legible argument ends with a quote if it begins with one. -/
theorem exists_of_shown_eq_cons (legible : Legible arg) (opens : shown arg = '\'' :: w) :
    ∃ inner, w = inner ++ ['\''] := by
  by_cases quoted : IsQuoted arg
  · rw [shown_of_isQuoted quoted] at opens
    exact ⟨arg.toList, (List.cons.inj opens).2.symm⟩
  · rw [shown_of_not_isQuoted quoted] at opens
    have closes := legible.2 quoted
    rw [opens] at closes
    exact List.getLast?_eq_some_iff.mp (closes rfl)

/-- What is shown of a legible argument does not go on, behind a space, to what is shown of another
one. -/
theorem shown_ne_append (legible : Legible arg) (legible' : Legible other) (rest : List Char) :
    shown other ≠ shown arg ++ ' ' :: rest := by
  intro goesOn
  have quoted : IsQuoted other := isQuoted_iff_shown.mpr (.inl (by simp [goesOn]))
  rw [shown_of_isQuoted quoted] at goesOn
  cases begins : shown arg with
  | nil =>
      rw [begins] at goesOn
      exact absurd (List.cons.inj goesOn).1 (by decide)
  | cons c w =>
      rw [begins, List.cons_append] at goesOn
      obtain ⟨quote, inside⟩ := List.cons.inj goesOn
      obtain ⟨inner, rfl⟩ := exists_of_shown_eq_cons legible (quote ▸ begins)
      -- The quote that ends `arg` comes before the space, unless the space ends what is shown.
      rcases rest.eq_nil_or_concat with rfl | ⟨more, last, rfl⟩
      · exact absurd (List.append_inj' inside rfl).2 (by decide)
      · have front : other.toList = inner ++ ['\''] ++ ' ' :: more := by
          rw [List.concat_eq_append, ← List.cons_append, ← List.append_assoc] at inside
          exact (List.append_inj' inside rfl).1
        exact legible'.1 quoted ⟨inner, more, by simp [front]⟩

/-! ## The whole line -/

/-- The shown arguments, each behind a space. -/
def line (args : List String) : List Char :=
  args.flatMap fun arg => ' ' :: shown arg

@[simp]
theorem line_nil : line [] = [] := rfl

@[simp]
theorem line_cons (arg : String) (args : List String) :
    line (arg :: args) = ' ' :: (shown arg ++ line args) := rfl

theorem toList_formatCommand (tool : NomadPack) (args : List String) :
    (tool.formatCommand args).toList = tool.binary.toList ++ line args := by
  rw [formatCommand, String.toList_append]
  congr 1
  induction args with
  | nil => rfl
  | cons arg args ih => simp [← ih, shown]

theorem formatCommand_eq_iff_line :
    tool.formatCommand args = tool.formatCommand others ↔ line args = line others := by
  rw [← String.toList_inj, toList_formatCommand, toList_formatCommand, List.append_cancel_left_eq]

/-- A line is its words, each behind a space. -/
theorem line_eq_words (args : List String) :
    line args = (args.flatMap words).flatMap fun word => ' ' :: word := by
  simp only [List.flatMap_assoc, words, Text.flatMap_fields]
  rfl

theorem fields_append_line (front : List Char) (args : List String) :
    Text.fields ' ' (front ++ line args) = Text.fields ' ' front ++ args.flatMap words := by
  induction args generalizing front with
  | nil => simp
  | cons arg args ih =>
      rw [line_cons, Text.fields_append, ih, List.flatMap_cons]
      rfl

theorem line_eq_iff_words :
    line args = line others ↔ args.flatMap words = others.flatMap words := by
  constructor
  · intro same
    have cut := congrArg (Text.fields ' ') same
    rw [← List.nil_append (line args), ← List.nil_append (line others), fields_append_line,
      fields_append_line] at cut
    exact List.append_cancel_left cut
  · intro same
    rw [line_eq_words, line_eq_words, same]

/-- If what is shown of one argument begins with what is shown of another, there is no more to it:
a line goes on with a space there, and no legible argument does. -/
theorem eq_nil_of_shown_append {more rest : List Char} (legible : Legible arg)
    (legible' : Legible other) (goesOn : shown other = shown arg ++ more)
    (left : line args = more ++ rest) : more = [] := by
  cases more with
  | nil => rfl
  | cons c more =>
      have space : c = ' ' := by
        cases args with
        | nil => cases left
        | cons next args => exact (List.cons.inj left).1.symm
      rw [space] at goesOn
      exact absurd goesOn (shown_ne_append legible legible' more)

/-- Legible arguments are told apart one after the other. -/
theorem line_injective (legible : ∀ arg ∈ args, Legible arg)
    (legible' : ∀ arg ∈ others, Legible arg) (same : line args = line others) : args = others := by
  induction args generalizing others with
  | nil =>
      cases others with
      | nil => rfl
      | cons other others => cases same
  | cons arg args ih =>
      cases others with
      | nil => cases same
      | cons other others =>
          obtain ⟨first, legible⟩ := List.forall_mem_cons.mp legible
          obtain ⟨first', legible'⟩ := List.forall_mem_cons.mp legible'
          have aligned : shown arg = shown other ∧ line args = line others := by
            rcases List.append_eq_append_iff.mp (List.cons.inj same).2 with
              ⟨more, goesOn, left⟩ | ⟨more, goesOn, left⟩
            · obtain rfl := eq_nil_of_shown_append first first' goesOn left
              exact ⟨by simpa using goesOn.symm, left⟩
            · obtain rfl := eq_nil_of_shown_append first' first goesOn left
              exact ⟨by simpa using goesOn, left.symm⟩
          rw [shown_injective aligned.1, ih legible legible' aligned.2]

/-- Two command lines are shown alike exactly if they have the same words. If all their arguments
are legible, as they are where no argument has a single quote, then only equal ones are. -/
theorem formatCommand_eq_iff (tool : NomadPack) (args others : List String) :
    (tool.formatCommand args = tool.formatCommand others ↔
      args.flatMap words = others.flatMap words) ∧
    ((∀ arg ∈ args ++ others, Legible arg) →
      (tool.formatCommand args = tool.formatCommand others ↔ args = others)) ∧
    ∀ arg, '\'' ∉ arg.toList → Legible arg := by
  rw [formatCommand_eq_iff_line]
  refine ⟨line_eq_iff_words, fun legible => ⟨fun same => ?_, congrArg line⟩, ?_⟩
  · obtain ⟨legible, legible'⟩ := List.forall_mem_append.mp legible
    exact line_injective legible legible' same
  · intro arg plain
    exact legible_of_not_mem plain

/-- Apostrophes do no harm within a word, nor around one. -/
theorem formatCommand_eq_iff_apostrophes :
    let tool : NomadPack := { binary := "nomad-pack" }
    let one := ["run", "-var", "motd=it's up", "'web'"]
    let two := ["run", "-var", "motd=it's", "up", "'web'"]
    (∀ arg ∈ one ++ two, Legible arg) ∧ tool.formatCommand one ≠ tool.formatCommand two := by
  intro tool one two
  have legible : ∀ arg ∈ one ++ two, Legible arg := by decide
  have different : one ≠ two := by decide
  exact ⟨legible, mt ((formatCommand_eq_iff tool one two).2.1 legible).mp different⟩

/-- A release whose one variable has a value that looks like two, and one that has two variables. -/
def lookalikes : Invocation × Invocation :=
  ({ workDir := ".", vars := [("motd", "hi' -var 'replicas=2")], packArgs := ["web"] },
    { workDir := ".", vars := [("motd", "hi"), ("replicas", "2")], packArgs := ["web"] })

/-- Different commands that are shown alike: once a quote before a space is taken for a closing one,
and once a quote at the beginning for an opening one. -/
theorem formatCommand_lookalikes :
    let tool : NomadPack := { binary := "nomad-pack" }
    let one := releaseArgs .run lookalikes.1
    let two := releaseArgs .run lookalikes.2
    (one ≠ two ∧ tool.formatCommand one = tool.formatCommand two) ∧
      ["run", "my pack"] ≠ ["run", "'my", "pack'"] ∧
      tool.formatCommand ["run", "my pack"] = tool.formatCommand ["run", "'my", "pack'"] := by
  decide

end Packfile.NomadPack
