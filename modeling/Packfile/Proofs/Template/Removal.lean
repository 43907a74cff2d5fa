import Packfile.Proofs.Environment.Growth
import Packfile.Proofs.Template.Concatenation

/-!
# Fewer variables

A template that has a value keeps one when variables are taken away. Taking variables away makes
values that are texts go missing, and a missing value is never refused: it has every field, every
entry, and is a key itself. As a key it stands for the variable without a name, so there must not be
such a variable; then a missing key leads to a missing value, whatever the key has been before.
-/

namespace Packfile.Template

/-- A value is left as it is or, if it is a text, goes missing. -/
inductive Value.Fades : Value → Value → Prop
  | same (value : Value) : Fades value value
  | gone (text : String) : Fades (.text text) .missing

variable {few many : EnvironmentStore} {environment name : String} {value value' result : Value}

/-! ## Steps of an evaluation -/

namespace Value

theorem ofVariable_fades (grows : few.Grows many) (environment name : String) :
    Fades (ofVariable ⟨environment, many⟩ name) (ofVariable ⟨environment, few⟩ name) := by
  simp only [ofVariable]
  cases kept : few.get? name with
  | some text => rw [grows name text kept]; exact .same _
  | none =>
      cases many.get? name with
      | none => exact .same _
      | some text => exact .gone text

/-- A text has no fields, so what has one has not faded. -/
theorem field_fades (grows : few.Grows many) (fades : value.Fades value')
    (found : value.field ⟨environment, many⟩ name = .ok result) :
    ∃ result', value'.field ⟨environment, few⟩ name = .ok result' ∧ result.Fades result' := by
  cases fades with
  | gone text => cases found
  | same =>
      cases value with
      | text text => cases found
      | allVariables =>
          cases found
          exact ⟨_, rfl, ofVariable_fades grows environment name⟩
      | root => exact ⟨result, found, .same result⟩
      | environment => exact ⟨result, found, .same result⟩
      | missing => exact ⟨result, found, .same result⟩

/-- A key stays as it is or becomes the empty one. -/
theorem key_fades {key : String} (fades : value.Fades value') (found : value.key = .ok key) :
    ∃ key', value'.key = .ok key' ∧ (key' = key ∨ key' = "") := by
  cases fades with
  | same => exact ⟨key, found, .inl rfl⟩
  | gone text => exact ⟨"", rfl, .inr rfl⟩

theorem index_fades (grows : few.Grows many) (unnamed : many.get? "" = none) {key key' : String}
    (fades : value.Fades value') (keys : key' = key ∨ key' = "")
    (found : value.index ⟨environment, many⟩ key = .ok result) :
    ∃ result', value'.index ⟨environment, few⟩ key' = .ok result' ∧ result.Fades result' := by
  cases fades with
  | gone text => cases found
  | same =>
      cases value with
      | root => cases found
      | environment => cases found
      | text text => cases found
      | missing => exact ⟨result, found, .same result⟩
      | allVariables =>
          cases found
          refine ⟨_, rfl, ?_⟩
          rcases keys with rfl | rfl
          · exact ofVariable_fades grows environment key'
          · have none : few.get? "" = none := by
              rw [Option.eq_none_iff_forall_ne_some]
              intro text kept
              rw [grows "" text kept] at unnamed
              cases unnamed
            simp only [ofVariable, none]
            cases many.get? key with
            | none => exact .same _
            | some text => exact .gone text

/-- What each step keeps is kept by all of them. -/
theorem foldlM_fades {α : Type} {f f' : Value → α → Except ExecuteFault Value}
    (step : ∀ value value' x result, Fades value value' → f value x = .ok result →
      ∃ result', f' value' x = .ok result' ∧ Fades result result')
    {xs : List α} (fades : value.Fades value') (found : xs.foldlM f value = .ok result) :
    ∃ result', xs.foldlM f' value' = .ok result' ∧ result.Fades result' := by
  induction xs generalizing value value' with
  | nil =>
      cases found
      exact ⟨value', rfl, fades⟩
  | cons x xs ih =>
      rw [List.foldlM_cons] at found ⊢
      obtain ⟨next, first, others⟩ := bind_eq_ok.mp found
      obtain ⟨next', first', fades'⟩ := step value value' x next fades first
      obtain ⟨result', others', fades''⟩ := ih fades' others
      exact ⟨result', bind_eq_ok.mpr ⟨next', first', others'⟩, fades''⟩

end Value

/-! ## Commands -/

theorem Token.evaluate_fades (grows : few.Grows many) {token : Token}
    (found : token.evaluate ⟨environment, many⟩ = .ok value) :
    ∃ value', token.evaluate ⟨environment, few⟩ = .ok value' ∧ value.Fades value' := by
  cases token with
  | name function => cases found
  | operand operand =>
      cases operand with
      | text text => exact ⟨value, found, .same value⟩
      | field path =>
          have step : ∀ (value value' : Value) (name : String) (result : Value),
              value.Fades value' → value.field ⟨environment, many⟩ name = .ok result →
              ∃ result', value'.field ⟨environment, few⟩ name = .ok result' ∧
                result.Fades result' :=
            fun _ _ _ _ fades found => Value.field_fades grows fades found
          exact Value.foldlM_fades step (.same .root) found

theorem Command.evaluate_fades (grows : few.Grows many) (unnamed : many.get? "" = none)
    {command : Command} (found : command.evaluate ⟨environment, many⟩ = .ok value) :
    ∃ value', command.evaluate ⟨environment, few⟩ = .ok value' ∧ value.Fades value' := by
  cases command with
  | operand token => exact Token.evaluate_fades grows found
  | index target keys =>
      obtain ⟨start, first, others⟩ := bind_eq_ok.mp found
      obtain ⟨start', first', fades⟩ := Token.evaluate_fades grows first
      have step : ∀ (value value' : Value) (token : Token) (result : Value),
          value.Fades value' →
          (token.evaluate ⟨environment, many⟩ >>= fun inner =>
            inner.key >>= fun key => value.index ⟨environment, many⟩ key) = .ok result →
          ∃ result', (token.evaluate ⟨environment, few⟩ >>= fun inner =>
            inner.key >>= fun key => value'.index ⟨environment, few⟩ key) = .ok result' ∧
              result.Fades result' := by
        intro value value' token result fades found
        obtain ⟨inner, evaluated, found⟩ := bind_eq_ok.mp found
        obtain ⟨key, isKey, found⟩ := bind_eq_ok.mp found
        obtain ⟨inner', evaluated', fades'⟩ := Token.evaluate_fades grows evaluated
        obtain ⟨key', isKey', keys⟩ := Value.key_fades fades' isKey
        obtain ⟨result', found', fades''⟩ := Value.index_fades grows unnamed fades keys found
        exact ⟨result', bind_eq_ok.mpr ⟨inner', evaluated',
          bind_eq_ok.mpr ⟨key', isKey', found'⟩⟩, fades''⟩
      obtain ⟨value', others', fades'⟩ := Value.foldlM_fades step fades others
      exact ⟨value', bind_eq_ok.mpr ⟨start', first', others'⟩, fades'⟩

/-! ## Templates -/

/-- Nodes have a text if all commands among them have a value. -/
theorem exists_render_iff {context : Context} {nodes : List Node} :
    (∃ text, render context nodes = .ok text) ↔
      ∀ command, .action command ∈ nodes → ∃ value, command.evaluate context = .ok value := by
  induction nodes with
  | nil => simp [render]
  | cons node nodes ih =>
      cases node with
      | text literal =>
          simp only [render_text_eq_ok, List.mem_cons, reduceCtorEq, false_or, ← ih]
          constructor
          · rintro ⟨_, text, later, -⟩
            exact ⟨text, later⟩
          · rintro ⟨text, later⟩
            exact ⟨_, text, later, rfl⟩
      | action command =>
          simp only [render, Node.render, bind_eq_ok, List.mem_cons, Node.action.injEq]
          constructor
          · rintro ⟨_, _, ⟨value, evaluated, _⟩, text, later, _⟩ other (rfl | member)
            · exact ⟨value, evaluated⟩
            · exact ih.mp ⟨text, later⟩ other member
          · intro evaluates
            obtain ⟨value, evaluated⟩ := evaluates command (.inl rfl)
            obtain ⟨text, later⟩ := ih.mpr fun other member => evaluates other (.inr member)
            exact ⟨_, _, ⟨value, evaluated, rfl⟩, text, later, rfl⟩

/-- Taking variables away never makes a template fail. Each of its commands keeps its value, or has
a text for its value that goes missing and so renders as nothing. -/
theorem resolve_of_grows {few many : EnvironmentStore} (grows : few.Grows many)
    (unnamed : many.get? "" = none) {environment template text : String}
    (resolved : resolve ⟨environment, many⟩ template = .ok text) :
    ∃ text', resolve ⟨environment, few⟩ template = .ok text' ∧
      ∀ nodes, parse template.toList = .ok nodes → ∀ command, .action command ∈ nodes →
        ∃ value value', command.evaluate ⟨environment, many⟩ = .ok value ∧
          command.evaluate ⟨environment, few⟩ = .ok value' ∧ value.Fades value' := by
  obtain ⟨nodes, read, rendered⟩ := resolve_eq_ok.mp resolved
  have fades : ∀ command, .action command ∈ nodes →
      ∃ value value', command.evaluate ⟨environment, many⟩ = .ok value ∧
        command.evaluate ⟨environment, few⟩ = .ok value' ∧ value.Fades value' := by
    intro command member
    obtain ⟨value, evaluated⟩ := exists_render_iff.mp ⟨_, rendered⟩ command member
    obtain ⟨value', evaluated', fades⟩ := Command.evaluate_fades grows unnamed evaluated
    exact ⟨value, value', evaluated, evaluated', fades⟩
  obtain ⟨text', rendered'⟩ : ∃ text', render ⟨environment, few⟩ nodes = .ok text' := by
    rw [exists_render_iff]
    intro command member
    obtain ⟨-, value', -, evaluated', -⟩ := fades command member
    exact ⟨value', evaluated'⟩
  refine ⟨String.ofList text', resolve_eq_ok.mpr ⟨nodes, read, by simpa using rendered'⟩, ?_⟩
  intro nodes' read'
  rw [read] at read'
  cases read'
  exact fades

/-- The key of a look-up goes missing along with other variables. -/
theorem resolve_of_grows_nested :
    let many := EnvironmentStore.ofList [("DC", "dc1"), ("KEY", "DC"), ("dc1", "eu")]
    let few := EnvironmentStore.ofList [("dc1", "eu")]
    let template := "\x7b\x7b index .Env .Env.KEY \x7d\x7d/\x7b\x7b .Env.DC \x7d\x7d/" ++
      "\x7b\x7b index .Env \"dc1\" \x7d\x7d"
    few.Grows many ∧ many.get? "" = none ∧
      resolve ⟨"prod", many⟩ template = .ok "dc1/dc1/eu" ∧
      resolve ⟨"prod", few⟩ template = .ok "//eu" := by
  intro many few template
  have grows : few.Grows many := by
    have kept : ∀ entry ∈ few.entries, many.get? entry.1 = some entry.2 := by decide +kernel
    intro name value found
    exact kept (name, value) ((few.get?_eq_some_iff name value).mp found)
  have unnamed : many.get? "" = none := by decide +kernel
  have resolved : resolve ⟨"prod", many⟩ template = .ok "dc1/dc1/eu" := by decide +kernel
  have left : resolve ⟨"prod", few⟩ template = .ok "//eu" := by decide +kernel
  obtain ⟨text', same, -⟩ := resolve_of_grows grows unnamed resolved
  obtain rfl : text' = "//eu" := Except.ok.inj (same.symm.trans left)
  exact ⟨grows, unnamed, resolved, same⟩

-- A variable without a name is what a missing key leads to, and a text has no entries.
example :
    let template := "\x7b\x7b index .Env .Env.KEY \"x\" \x7d\x7d"
    resolve ⟨"prod", .ofList [("", "v"), ("KEY", "k")]⟩ template = .ok "" ∧
      resolve ⟨"prod", .ofList [("", "v")]⟩ template =
        .error (.execute template (.indexOf .string)) := by
  decide +kernel

end Packfile.Template
