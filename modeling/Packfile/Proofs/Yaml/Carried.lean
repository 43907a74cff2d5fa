import Mathlib.Data.List.Forall2
import Packfile.Tree.Basic
import Packfile.Yaml.Decode

/-!
# Reading what a tree was written as

A document carries a tree if its nodes are those of the tree: records are mappings in the same
order, lists are sequences, and a text is a scalar that cannot be taken for anything else. Nothing
is said of where the document comes from. Readers find in it what the tree was made from: each lemma
here is about one reader, and turns it into what it gives.
-/

namespace Packfile.Yaml

namespace Node

mutual

/-- Whether a node has the form that a tree of records, lists, texts and nulls is written in. -/
def carries : Node → Tree → Bool
  | .scalar properties plain text, .null =>
    properties.tag = none && plain && Plain.isNull text
  | .scalar properties plain text, .text value =>
    properties.tag = none && text = value && (!plain || Plain.ofText value = .text)
  | .sequence properties nodes, .list items => properties.tag = none && carriesItems nodes items
  | .mapping properties entries, .record fields =>
    properties.tag = none && carriesFields entries fields
  | _, _ => false

/-- Whether nodes have the form of trees, one by one. -/
def carriesItems : List Node → List Tree → Bool
  | [], [] => true
  | node :: nodes, item :: items => node.carries item && carriesItems nodes items
  | _, _ => false

/-- Whether the entries of a mapping have the form of the fields of a record, one by one. -/
def carriesFields : List (Node × Node) → List (String × Tree) → Bool
  | [], [] => true
  | (key, node) :: entries, (name, tree) :: fields =>
    key.carries (.text name) && node.carries tree && carriesFields entries fields
  | _, _ => false

end

variable {node : Node} {value : String} {items : List Tree} {fields : List (String × Tree)}

theorem exists_of_carries_text (carried : node.carries (.text value)) :
    ∃ properties plain, node = .scalar properties plain value ∧ properties.tag = none ∧
      (plain → Plain.ofText value = .text) := by
  cases node with
  | scalar properties plain text =>
      simp only [carries, Bool.and_eq_true, Bool.or_eq_true, decide_eq_true_eq] at carried
      obtain ⟨⟨untagged, rfl⟩, read⟩ := carried
      refine ⟨properties, plain, rfl, untagged, ?_⟩
      rintro rfl
      simpa using read
  | _ => simp [carries] at carried

theorem exists_of_carries_list (carried : node.carries (.list items)) :
    ∃ properties nodes, node = .sequence properties nodes ∧
      List.Forall₂ (fun node item => node.carries item) nodes items := by
  cases node with
  | sequence properties nodes =>
      simp only [carries, Bool.and_eq_true] at carried
      refine ⟨properties, nodes, rfl, ?_⟩
      have each := carried.2
      clear carried
      induction nodes generalizing items with
      | nil => cases items <;> simp [carriesItems] at each ⊢
      | cons node nodes ih =>
          cases items with
          | nil => simp [carriesItems] at each
          | cons item items =>
              simp only [carriesItems, Bool.and_eq_true] at each
              exact .cons each.1 (ih each.2)
  | _ => simp [carries] at carried

theorem exists_of_carries_record (carried : node.carries (.record fields)) :
    ∃ properties entries, node = .mapping properties entries ∧
      List.Forall₂ (fun entry field => entry.1.carries (.text field.1) ∧ entry.2.carries field.2)
        entries fields := by
  cases node with
  | mapping properties entries =>
      simp only [carries, Bool.and_eq_true] at carried
      refine ⟨properties, entries, rfl, ?_⟩
      have each := carried.2
      clear carried
      induction entries generalizing fields with
      | nil => cases fields <;> simp [carriesFields] at each ⊢
      | cons entry entries ih =>
          cases fields with
          | nil => simp [carriesFields] at each
          | cons field fields =>
              simp only [carriesFields, Bool.and_eq_true] at each
              exact .cons each.1 (ih each.2)
  | _ => simp [carries] at carried

end Node

/-- Whether a document is well formed and has the form that a tree is written in. -/
def Document.carries (document : Document) (tree : Tree) : Bool :=
  document.complete && document.root.any (·.carries tree)

/-! ## Readers -/

namespace Decoder

variable {α β σ : Type} {node : Node} {depth : Nat} {value : String}

theorem text_of_carries (carried : node.carries (.text value)) : text node = pure value := by
  obtain ⟨properties, plain, rfl, -, -⟩ := Node.exists_of_carries_text carried
  rfl

theorem value_of_carries (carried : node.carries (.text value)) :
    Decoder.value depth node = pure (.text value) := by
  obtain ⟨properties, plain, rfl, untagged, read⟩ := Node.exists_of_carries_text carried
  have untaggedText : untaggedValue plain value = pure (.text value) := by
    unfold untaggedValue
    cases plain with
    | false => rfl
    | true => rw [read rfl]; rfl
  have follows : follow (.scalar properties plain value) =
      pure (.scalar properties plain value) := rfl
  rw [Decoder.value, follows, pure_bind]
  simp only [scalarValue, untagged]
  exact untaggedText

/-! ### Optional values -/

theorem plain_ne_null (read : Plain.ofText value = .text) :
    ¬ (value = "" || Plain.isNull value) := by
  intro null
  have same : Plain.ofText value = .null := if_pos null
  rw [read] at same
  cases same

/-- A text is there, even if it is empty or a word for nothing. -/
theorem optional_of_text {inner : Nat → Node → Decoder α} (carried : node.carries (.text value)) :
    optional inner depth node = some <$> inner depth node := by
  obtain ⟨⟨tag, slot⟩, plain, rfl, untagged, read⟩ := Node.exists_of_carries_text carried
  obtain rfl : tag = none := untagged
  cases plain with
  | false => rfl
  | true =>
      have filled := plain_ne_null (read rfl)
      have follows : follow (.scalar ⟨none, slot⟩ true value) =
          pure (.scalar ⟨none, slot⟩ true value) := rfl
      rw [optional, follows, pure_bind]
      exact if_neg filled

theorem optional_of_list {inner : Nat → Node → Decoder α} {items : List Tree}
    (carried : node.carries (.list items)) :
    optional inner depth node = some <$> inner depth node := by
  obtain ⟨properties, nodes, rfl, -⟩ := Node.exists_of_carries_list carried
  rfl

theorem optional_of_record {inner : Nat → Node → Decoder α} {fields : List (String × Tree)}
    (carried : node.carries (.record fields)) :
    optional inner depth node = some <$> inner depth node := by
  obtain ⟨properties, entries, rfl, -⟩ := Node.exists_of_carries_record carried
  rfl

/-! ### Lists -/

/-- Items that are read one by one are read as a list. -/
theorem list_of_carries {item : Nat → Node → Decoder α} {toTree : β → Tree} {f : β → α}
    {xs : List β} (each : ∀ x ∈ xs, ∀ node : Node, node.carries (toTree x) →
      item depth node = pure (f x))
    (carried : node.carries (.list (xs.map toTree))) :
    list item (depth + 1) node = pure (xs.map f) := by
  obtain ⟨properties, nodes, rfl, forms⟩ := Node.exists_of_carries_list carried
  have items : nodes.mapM (item depth) = pure (xs.map f) := by
    clear carried
    induction xs generalizing nodes with
    | nil =>
        cases forms
        rfl
    | cons x xs ih =>
        rw [List.map_cons, List.forall₂_cons_right_iff] at forms
        obtain ⟨node, nodes, first, others, rfl⟩ := forms
        obtain ⟨eachFirst, eachOther⟩ := List.forall_mem_cons.mp each
        rw [List.mapM_cons, eachFirst node first, pure_bind, ih eachOther nodes others, pure_bind]
        rfl
  exact items

/-! ### Mappings -/

/-- Going through the entries that the fields of a record are written as, one field at a time. -/
inductive Folds (step : σ → Node × Node → Decoder σ) : σ → List (String × Tree) → σ → Prop
  | nil (soFar : σ) : Folds step soFar [] soFar
  | cons {soFar next final : σ} {name : String} {tree : Tree} {fields : List (String × Tree)}
      (taken : ∀ key node : Node, key.carries (.text name) → node.carries tree →
        step soFar (key, node) = pure next)
      (later : Folds step next fields final) : Folds step soFar ((name, tree) :: fields) final

theorem entries_of_folds {step : Nat → σ → Node × Node → Decoder σ} {start final : σ}
    {fields : List (String × Tree)} (folds : Folds (step depth) start fields final)
    (carried : node.carries (.record fields)) :
    entries step start (depth + 1) node = pure final := by
  obtain ⟨properties, entries, rfl, forms⟩ := Node.exists_of_carries_record carried
  have taken : entries.foldlM (step depth) start = pure final := by
    clear carried
    induction folds generalizing entries with
    | nil soFar =>
        cases forms
        rfl
    | cons taken later ih =>
        rw [List.forall₂_cons_right_iff] at forms
        obtain ⟨entry, entries, ⟨key, node⟩, others, rfl⟩ := forms
        rw [List.foldlM_cons, taken entry.1 entry.2 key node, pure_bind]
        exact ih entries others
  exact taken

/-! ### Records -/

/-- The fields of a record, each taken up into what has been read so far. -/
abbrev Collects (field : σ → String → Node → Decoder σ) : σ → List (String × Tree) → σ → Prop :=
  Folds fun soFar entry => do field soFar (← text entry.1) entry.2

theorem Collects.field {field : σ → String → Node → Decoder σ} {soFar next final : σ}
    {name : String} {tree : Tree} {fields : List (String × Tree)}
    (taken : ∀ node : Node, node.carries tree → field soFar name node = pure next)
    (later : Collects field next fields final) :
    Collects field soFar ((name, tree) :: fields) final := by
  refine .cons (fun key node isKey carried => ?_) later
  simp only [text_of_carries isKey, pure_bind]
  exact taken node carried

theorem record_of_carries {field : Nat → σ → String → Node → Decoder σ} {start final : σ}
    {fields : List (String × Tree)} (collects : Collects (field depth) start fields final)
    (carried : node.carries (.record fields)) :
    record field start (depth + 1) node = pure final :=
  entries_of_folds collects carried

/-! ### Maps -/

theorem folds_insert {inner : Node → Decoder α} {toTree : β → Tree} {f : β → α}
    {soFar final : OrderedMap α} {rest : List (String × β)}
    (each : ∀ entry ∈ rest, ∀ node : Node, node.carries (toTree entry.2) →
      inner node = pure (f entry.2))
    (whole : final.entries = soFar.entries ++ rest.map fun entry => (entry.1, f entry.2)) :
    Folds (fun soFar entry => do
        let key ← text entry.1
        return soFar.insert key (← inner entry.2))
      soFar (rest.map fun entry => (entry.1, toTree entry.2)) final := by
  induction rest generalizing soFar with
  | nil =>
      obtain rfl : final = soFar := OrderedMap.ext (by simpa using whole)
      exact .nil final
  | cons entry rest ih =>
      obtain ⟨eachFirst, eachOther⟩ := List.forall_mem_cons.mp each
      have new : entry.1 ∉ soFar.entries.map Prod.fst := by
        have nodup := final.nodup
        rw [whole, List.map_append, List.nodup_append] at nodup
        exact fun member => nodup.2.2 entry.1 member entry.1 (by simp) rfl
      have whole' : final.entries = (soFar.insert entry.1 (f entry.2)).entries ++
          rest.map fun entry => (entry.1, f entry.2) := by
        rw [OrderedMap.entries_insert, OrderedMap.upsert_of_not_mem new, whole, List.map_cons,
          List.append_assoc]
        rfl
      refine .cons (fun key node isKey carried => ?_) (ih eachOther whole')
      simp only [text_of_carries isKey, eachFirst node carried, pure_bind]

/-- Values that are read one by one are read as a map, in the same order. -/
theorem map_of_carries {inner : Nat → Node → Decoder α} {toTree : β → Tree} {f : β → α}
    {m : OrderedMap β} (each : ∀ entry ∈ m.entries, ∀ node : Node, node.carries (toTree entry.2) →
      inner depth node = pure (f entry.2))
    (carried : node.carries (.record (m.entries.map fun entry => (entry.1, toTree entry.2)))) :
    map inner (depth + 1) node = pure (m.map f) :=
  entries_of_folds (folds_insert each rfl) carried

end Decoder

/-- What is found in the nodes of a document is found in the document. -/
theorem Document.decode_of_carries {α : Type} {reader : Nat → Node → Decoder α}
    {document : Document} {tree : Tree} {value : α}
    (read : ∀ node : Node, node.carries tree → reader maxDepth node = pure value)
    (carried : document.carries tree) : document.decode reader = .ok value := by
  obtain ⟨root, complete⟩ := document
  simp only [Document.carries, Bool.and_eq_true, Option.any_eq_true] at carried
  obtain ⟨rfl, node, rfl, form⟩ := carried
  simp only [Document.decode, Option.getD_some, read node form]
  rfl

end Packfile.Yaml
