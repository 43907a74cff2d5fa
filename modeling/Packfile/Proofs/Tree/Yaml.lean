import Packfile.Proofs.Text
import Packfile.Tree.Yaml

/-!
# Writing YAML

The writer only adds to what has been written. So the names of its fields can be found in what a
record is written as, and this is never blank.
-/

namespace Packfile.Tree

namespace YamlWriter

/-- What one writer has written is the beginning of what another one has. -/
def Extends (before after : YamlWriter) : Prop :=
  before.text <:+ after.text

variable {w v u : YamlWriter}

theorem Extends.refl (w : YamlWriter) : Extends w w :=
  List.suffix_rfl

theorem Extends.trans (first : Extends w v) (second : Extends v u) : Extends w u :=
  List.IsSuffix.trans first second

/-- Only the text counts, not where the writing stands. -/
theorem Extends.of_text (step : Extends v u) (same : w.text = v.text) : Extends w u := by
  rw [Extends, same]
  exact step

theorem Extends.ite (condition : Prop) [Decidable condition] (step : Extends w v) :
    Extends w (if condition then v else w) := by
  split
  · exact step
  · exact .refl w

theorem extends_put (w : YamlWriter) (c : Char) : Extends w (w.put c) :=
  List.suffix_cons c w.text

theorem extends_putBreak (w : YamlWriter) (c : Char) : Extends w (w.putBreak c) :=
  List.suffix_cons c w.text

theorem extends_puts (w : YamlWriter) (characters : List Char) : Extends w (w.puts characters) := by
  induction characters generalizing w with
  | nil => exact .refl w
  | cons c characters ih => exact (extends_put w c).trans (ih (w.put c))

theorem extends_startLine (w : YamlWriter) (indent : Nat) : Extends w (w.startLine indent) :=
  (Extends.ite _ (extends_putBreak w '\n')).trans (extends_puts _ _)

theorem extends_sign (w : YamlWriter) (text : String) (spaced inIndent : Bool) :
    Extends w (w.sign text spaced inIndent) :=
  (Extends.ite _ (extends_put w ' ')).trans (extends_puts _ _)

theorem extends_plain (w : YamlWriter) (text : List Char) : Extends w (w.plain text) :=
  (Extends.ite _ (extends_put w ' ')).trans (extends_puts _ _)

theorem extends_quotedLines (indent : Nat) (afterBreak : Bool) (w : YamlWriter)
    (text : List Char) : Extends w (quotedLines indent afterBreak w text) := by
  induction text generalizing afterBreak w with
  | nil => exact .ite _ (extends_startLine w indent)
  | cons c text ih =>
      rw [quotedLines]
      split
      · exact (extends_putBreak w c).trans (.of_text (ih _ _) rfl)
      · have started := Extends.ite (afterBreak = true) (extends_startLine w indent)
        have doubled := Extends.ite (c = '\'')
          (extends_put (if afterBreak then w.startLine indent else w) '\'')
        exact ((started.trans doubled).trans (extends_put _ c)).trans (.of_text (ih _ _) rfl)

theorem extends_singleQuoted (w : YamlWriter) (indent : Nat) (text : List Char) :
    Extends w (w.singleQuoted indent text) :=
  ((extends_sign w "'" true false).trans (extends_quotedLines _ _ _ _)).trans (extends_put _ _)

theorem extends_doubleQuoted (w : YamlWriter) (text : List Char) :
    Extends w (w.doubleQuoted text) :=
  ((extends_sign w "\"" true false).trans (extends_puts _ _)).trans (extends_put _ _)

theorem extends_blockLines (indent : Nat) (afterBreak : Bool) (w : YamlWriter)
    (text : List Char) : Extends w (blockLines indent afterBreak w text) := by
  induction text generalizing afterBreak w with
  | nil => exact .refl w
  | cons c text ih =>
      rw [blockLines]
      split
      · exact (extends_putBreak w c).trans (.of_text (ih _ _) rfl)
      · have started := Extends.ite (afterBreak = true) (extends_startLine w indent)
        exact (started.trans (extends_put _ c)).trans (.of_text (ih _ _) rfl)

theorem extends_literal (w : YamlWriter) (indent : Nat) (text : List Char) :
    Extends w (w.literal indent text) :=
  ((extends_sign w (blockHeader text) true false).trans (extends_putBreak _ '\n')).trans
    (.of_text (extends_blockLines indent true _ text) rfl)

theorem extends_scalar (w : YamlWriter) (indent : Nat) (text : String) :
    Extends w (w.scalar indent text) := by
  unfold scalar
  cases TextStyle.of text with
  | plain => exact extends_plain _ _
  | singleQuoted => exact extends_singleQuoted _ _ _
  | doubleQuoted => exact extends_doubleQuoted _ _
  | literal => exact extends_literal _ _ _

theorem extends_fieldName (w : YamlWriter) (indent : Nat) (name : String) :
    Extends w (w.fieldName indent name) := by
  unfold fieldName
  have started := extends_startLine w indent
  split
  · exact (started.trans (extends_scalar _ _ _)).trans (extends_sign _ _ _ _)
  · exact (((started.trans (extends_sign _ _ _ _)).trans (extends_scalar _ _ _)).trans
      (extends_startLine _ _)).trans (extends_sign _ _ _ _)

mutual

theorem extends_tree (w : YamlWriter) (indent : Option Nat) (inField : Bool) (tree : Tree) :
    Extends w (YamlWriter.tree w indent inField tree) := by
  cases tree with
  | null => exact extends_plain _ _
  | bool value => exact extends_plain _ _
  | number numeral => exact extends_plain _ _
  | text value => exact extends_scalar _ _ _
  | list values =>
      simp only [YamlWriter.tree]
      split
      · exact extends_sign _ _ _ _
      · exact extends_items _ _ values
  | record named =>
      simp only [YamlWriter.tree]
      split
      · exact extends_sign _ _ _ _
      · exact extends_fields _ _ named

theorem extends_items (w : YamlWriter) (indent : Nat) (values : List Tree) :
    Extends w (items w indent values) := by
  cases values with
  | nil => exact .refl w
  | cons item rest =>
      have dashed := (extends_startLine w indent).trans (extends_sign _ "-" true true)
      exact (dashed.trans (extends_tree _ (some indent) false item)).trans (extends_items _ _ rest)

theorem extends_fields (w : YamlWriter) (indent : Nat) (named : List (String × Tree)) :
    Extends w (fields w indent named) := by
  cases named with
  | nil => exact .refl w
  | cons field rest =>
      obtain ⟨name, value⟩ := field
      have titled := extends_fieldName w indent name
      exact (titled.trans (extends_tree _ (some indent) true value)).trans (extends_fields _ _ rest)

end

theorem mem_puts (w : YamlWriter) {c : Char} {characters : List Char} (member : c ∈ characters) :
    c ∈ (w.puts characters).text := by
  have written : (w.puts characters).text = characters.reverse ++ w.text := by
    clear member
    induction characters generalizing w with
    | nil => rfl
    | cons d characters ih =>
        rw [puts, List.foldl_cons, List.reverse_cons, List.append_assoc]
        exact ih (w.put d)
  rw [written]
  exact List.mem_append_left _ (List.mem_reverse.mpr member)

end YamlWriter

/-- What the name of a first field consists of can be found in the document. -/
theorem mem_toYaml {name : String} {value : Tree} {others : List (String × Tree)} {c : Char}
    (plain : TextStyle.of name = .plain) (simple : YamlWriter.isSimpleName name)
    (member : c ∈ name.toList) : c ∈ (Tree.record ((name, value) :: others)).toYaml.toList := by
  have named : c ∈ (YamlWriter.fieldName {} 0 name).text := by
    rw [YamlWriter.fieldName, if_pos simple, YamlWriter.scalar, plain]
    exact (YamlWriter.extends_sign _ ":" false false).subset (YamlWriter.mem_puts _ member)
  have valued := YamlWriter.extends_tree (YamlWriter.fieldName {} 0 name) (some 0) true value
  have ended := (valued.trans (YamlWriter.extends_fields _ 0 others)).trans
    (YamlWriter.extends_startLine _ 0)
  rw [toYaml, String.toList_ofList, List.mem_reverse]
  exact ended.subset named

end Packfile.Tree
