import Packfile.Template.Basic

/-!
# The data that templates see

What a template can refer to is a tree. At its root is a record with the current environment, a
record itself, and with the variables, a map. A chain of fields walks down the tree, `index` looks
entries up in it, and whatever is found there is shown as text: a text as it is, a map with its
entries, a record with its fields. Where the tree has nothing, nothing is found below and nothing is
shown.

Evaluating a command does not build the tree. It works on values, each of which stands for a place
in it, and every step on a value is the step at that place.
-/

namespace Packfile.Template

/-! ## The tree -/

/-- A tree of data. -/
inductive Data where
  | nothing
  | text (value : String)
  | map (entries : List (String × String))
  | record (fields : List (String × Data))

namespace Data

/-- The kind of data, for messages. -/
def type : Data → ValueType
  | .nothing => .nil
  | .text _ => .string
  | .map _ => .map
  | .record _ => .struct

/-- What a map has under a key. -/
def ofEntry (entries : List (String × String)) (key : String) : Data :=
  match entries.lookup key with
  | some value => .text value
  | none => .nothing

/-- The field of a name. The fields of a map are its entries; a text has none. -/
def field (name : String) : Data → Except ExecuteFault Data
  | .nothing => .ok .nothing
  | .text _ => .error (.fieldOfString name)
  | .map entries => .ok (ofEntry entries name)
  | .record fields => .ok ((fields.lookup name).getD .nothing)

/-- The data that a chain of fields leads to. -/
def walk : List String → Data → Except ExecuteFault Data
  | [], data => .ok data
  | name :: names, data => do walk names (← data.field name)

/-- The data as a key; nothing is the empty one. -/
def asKey : Data → Except ExecuteFault String
  | .nothing => .ok ""
  | .text value => .ok value
  | other => .error (.indexBy other.type)

/-- The entry under a key. Only maps have entries. -/
def entry (key : String) : Data → Except ExecuteFault Data
  | .nothing => .ok .nothing
  | .map entries => .ok (ofEntry entries key)
  | other => .error (.indexOf other.type)

mutual

/-- The data as text. -/
def shown : Data → String
  | .nothing => ""
  | .text value => value
  | .map entries =>
    "map[" ++ " ".intercalate (entries.map fun entry => entry.1 ++ ":" ++ entry.2) ++ "]"
  | .record fields => "\x7b" ++ " ".intercalate (shownFields fields) ++ "\x7d"

/-- The fields of a record, which are shown without their names. -/
def shownFields : List (String × Data) → List String
  | [] => []
  | (_, data) :: rest => data.shown :: shownFields rest

end

end Data

namespace Context

/-- The current environment. -/
def environmentData (context : Context) : Data :=
  .record [("Name", .text context.environment)]

/-- All that a template can refer to. -/
def data (context : Context) : Data :=
  .record [("Environment", context.environmentData), ("Env", .map context.store.entries)]

end Context

/-! ## Values as places -/

theorem lookup_cons {α : Type} (name key : String) (x : α) (rest : List (String × α)) :
    ((key, x) :: rest).lookup name = if name = key then some x else rest.lookup name := by
  rw [List.lookup_cons]
  by_cases same : name = key
  · rw [if_pos same, beq_iff_eq.mpr same]
  · rw [if_neg same, beq_eq_false_iff_ne.mpr same]

theorem lookup_entries (store : EnvironmentStore) (name : String) :
    store.entries.lookup name = store.get? name := by
  unfold EnvironmentStore.get?
  induction store.entries with
  | nil => rfl
  | cons entry entries ih =>
      rw [lookup_cons, ih, List.find?_cons]
      by_cases same : name = entry.1
      · simp [same]
      · simp [same, Ne.symm same]

namespace Value

variable {context : Context}

/-- The place in the tree that a value stands for. -/
def data (context : Context) : Value → Data
  | .root => context.data
  | .environment => context.environmentData
  | .allVariables => .map context.store.entries
  | .text value => .text value
  | .missing => .nothing

theorem data_ofVariable (name : String) :
    (ofVariable context name).data context = .ofEntry context.store.entries name := by
  rw [Data.ofEntry, lookup_entries, ofVariable]
  cases context.store.get? name <;> rfl

theorem field_data (name : String) (value : Value) :
    (value.data context).field name = data context <$> value.field context name := by
  cases value with
  | root =>
      simp only [data, Context.data, Data.field, lookup_cons, List.lookup_nil, field]
      split
      · rfl
      · split <;> rfl
  | environment =>
      simp only [data, Context.environmentData, Data.field, lookup_cons, List.lookup_nil, field]
      split <;> rfl
  | allVariables => exact congrArg Except.ok (data_ofVariable name).symm
  | text value => rfl
  | missing => rfl

theorem asKey_data (value : Value) : (value.data context).asKey = value.key := by
  cases value <;> rfl

theorem entry_data (key : String) (value : Value) :
    (value.data context).entry key = data context <$> value.index context key := by
  cases value with
  | allVariables => exact congrArg Except.ok (data_ofVariable key).symm
  | root => rfl
  | environment => rfl
  | text value => rfl
  | missing => rfl

/-- A chain of fields leads to the same place. -/
theorem walk_data (names : List String) (value : Value) :
    (value.data context).walk names =
      data context <$> names.foldlM (fun value name => value.field context name) value := by
  induction names generalizing value with
  | nil => rfl
  | cons name names ih =>
      rw [Data.walk, field_data, List.foldlM_cons]
      cases value.field context name with
      | error fault => rfl
      | ok next => exact ih next

theorem shown_data (value : Value) : (value.data context).shown = value.render context := by
  cases value with
  | root =>
      have fields : (data context .root).shown =
          "\x7b" ++ ("\x7b" ++ context.environment ++ "\x7d" ++ " " ++
            renderVariables context.store) ++ "\x7d" := rfl
      rw [fields, render, ← String.toList_inj]
      simp
  | environment => rfl
  | allVariables => rfl
  | text value => rfl
  | missing => rfl

end Value

end Packfile.Template
