import Mathlib.Data.List.Forall2
import Packfile.OrderedMap

/-!
# Going through a list up to the first failure

Compiling is a sequence of steps that can fail, many of them over lists. The outcome of such a
sequence has one of two shapes: every step was accepted, or some step was refused and every step
before it was accepted. Both shapes are stated here without reference to the order in which a
program computes them.
-/

namespace Packfile

section Steps

variable {ε ε' α β : Type}

theorem bind_eq_ok {step : Except ε α} {next : α → Except ε β} {result : β} :
    (step >>= next) = .ok result ↔ ∃ value, step = .ok value ∧ next value = .ok result := by
  cases step with
  | error e => simp [bind, Except.bind]
  | ok value => simp [bind, Except.bind]

theorem bind_eq_error {step : Except ε α} {next : α → Except ε β} {e : ε} :
    (step >>= next) = .error e ↔
      step = .error e ∨ ∃ value, step = .ok value ∧ next value = .error e := by
  cases step with
  | error e' => simp [bind, Except.bind]
  | ok value => simp [bind, Except.bind]

theorem map_eq_ok {step : Except ε α} {f : α → β} {result : β} :
    f <$> step = .ok result ↔ ∃ value, step = .ok value ∧ f value = result := by
  cases step with
  | error e => simp [Functor.map, Except.map]
  | ok value => simp [Functor.map, Except.map]

theorem map_eq_error {step : Except ε α} {f : α → β} {e : ε} :
    f <$> step = .error e ↔ step = .error e := by
  cases step with
  | error e' => simp [Functor.map, Except.map]
  | ok value => simp [Functor.map, Except.map]

theorem mapError_eq_ok {step : Except ε α} {f : ε → ε'} {value : α} :
    step.mapError f = .ok value ↔ step = .ok value := by
  cases step with
  | error e => simp [Except.mapError]
  | ok value' => simp [Except.mapError]

theorem mapError_eq_error {step : Except ε α} {f : ε → ε'} {e : ε'} :
    step.mapError f = .error e ↔ ∃ cause, step = .error cause ∧ f cause = e := by
  cases step with
  | error e' => simp [Except.mapError]
  | ok value => simp [Except.mapError]

/-- A step that is refused only where an accepted one is refused is accepted too. -/
theorem exists_ok_of_ok {step : Except ε α} {other : Except ε β} {value : α}
    (accepted : step = .ok value) (errors : ∀ e, other = .error e → step = .error e) :
    ∃ result, other = .ok result := by
  cases other with
  | error e =>
      rw [errors e rfl] at accepted
      cases accepted
  | ok result => exact ⟨result, rfl⟩

end Steps

section Lists

variable {ε α β : Type} {f : α → Except ε β} {x y : α} {xs : List α} {e : ε} {v : β}

/-- Every element is accepted, with these values in order. -/
def Accepts (f : α → Except ε β) : List α → List β → Prop :=
  List.Forall₂ fun x v => f x = .ok v

/-- The element `x` is refused with `e`, and every element before it is accepted. -/
def FirstFault (f : α → Except ε β) (xs : List α) (x : α) (e : ε) : Prop :=
  ∃ before after, xs = before ++ x :: after ∧ (∀ y ∈ before, ∃ v, f y = .ok v) ∧ f x = .error e

theorem accepts_cons {vs : List β} :
    Accepts f (x :: xs) vs ↔ ∃ v rest, f x = .ok v ∧ Accepts f xs rest ∧ vs = v :: rest := by
  constructor
  · rintro (_ | ⟨head, tail⟩)
    exact ⟨_, _, head, tail, rfl⟩
  · rintro ⟨v, rest, head, tail, rfl⟩
    exact .cons head tail

theorem not_firstFault_nil : ¬ FirstFault f [] x e := by
  rintro ⟨before, after, split, _⟩
  simp at split

/-- Behind an accepted element the search goes on. -/
theorem firstFault_cons_of_ok (accepted : f y = .ok v) :
    FirstFault f (y :: xs) x e ↔ FirstFault f xs x e := by
  constructor
  · rintro ⟨before, after, split, earlier, refused⟩
    cases before with
    | nil =>
        obtain ⟨rfl, rfl⟩ := List.cons.inj split
        rw [accepted] at refused
        cases refused
    | cons z before =>
        obtain ⟨rfl, rfl⟩ := List.cons.inj split
        exact ⟨before, after, rfl, fun w hw => earlier w (List.mem_cons_of_mem _ hw), refused⟩
  · rintro ⟨before, after, rfl, earlier, refused⟩
    refine ⟨y :: before, after, rfl, ?_, refused⟩
    intro w hw
    rcases List.mem_cons.mp hw with rfl | hw
    · exact ⟨v, accepted⟩
    · exact earlier w hw

/-- A refused element ends the search. -/
theorem firstFault_cons_of_error {e' : ε} (refused : f y = .error e') :
    FirstFault f (y :: xs) x e ↔ x = y ∧ e = e' := by
  constructor
  · rintro ⟨before, after, split, earlier, refused'⟩
    cases before with
    | nil =>
        obtain ⟨rfl, rfl⟩ := List.cons.inj split
        rw [refused] at refused'
        exact ⟨rfl, (Except.error.inj refused').symm⟩
    | cons z before =>
        obtain ⟨rfl, rfl⟩ := List.cons.inj split
        obtain ⟨v, accepted⟩ := earlier y List.mem_cons_self
        rw [refused] at accepted
        cases accepted
  · rintro ⟨rfl, rfl⟩
    exact ⟨[], xs, rfl, by simp, refused⟩

end Lists

namespace OrderedMap

variable {ε α β : Type} {f : String → α → Except ε β}

theorem traverseEntries_eq_ok {entries : List (String × α)} {results : List (String × β)} :
    traverseEntries f entries = .ok results ↔
      List.Forall₂ (fun entry result => result.1 = entry.1 ∧ f entry.1 entry.2 = .ok result.2)
        entries results := by
  induction entries generalizing results with
  | nil => simp [traverseEntries, eq_comm]
  | cons entry rest ih =>
      simp only [traverseEntries, bind_eq_ok, List.forall₂_cons_left_iff, ih, Except.ok.injEq]
      constructor
      · rintro ⟨value, accepted, others, tail, rfl⟩
        exact ⟨(entry.1, value), others, ⟨rfl, accepted⟩, tail, rfl⟩
      · rintro ⟨⟨name, value⟩, others, ⟨rfl, accepted⟩, tail, rfl⟩
        exact ⟨value, accepted, others, tail, rfl⟩

theorem traverseEntries_eq_error {entries : List (String × α)} {e : ε} :
    traverseEntries f entries = .error e ↔
      ∃ entry, FirstFault (fun entry => f entry.1 entry.2) entries entry e := by
  induction entries with
  | nil => simp [traverseEntries, not_firstFault_nil]
  | cons entry rest ih =>
      simp only [traverseEntries, bind_eq_error]
      cases result : f entry.1 entry.2 with
      | error e' =>
          simp [firstFault_cons_of_error (f := fun entry : String × α => f entry.1 entry.2) result,
            eq_comm]
      | ok value =>
          simp [firstFault_cons_of_ok (f := fun entry : String × α => f entry.1 entry.2) result,
            ih]

/-- Changing the values keeps the names in their order. -/
theorem traverse_eq_ok {m : OrderedMap α} {n : OrderedMap β} :
    m.traverse f = .ok n ↔
      List.Forall₂ (fun entry result => result.1 = entry.1 ∧ f entry.1 entry.2 = .ok result.2)
        m.entries n.entries := by
  rw [← traverseEntries_eq_ok]
  unfold traverse
  split
  · next e refused => simp [refused]
  · next entries accepted =>
      constructor
      · intro same
        cases same
        exact accepted
      · intro same
        have entriesEq : entries = n.entries := Except.ok.inj (accepted.symm.trans same)
        exact congrArg Except.ok (ext entriesEq)

theorem traverse_eq_error {m : OrderedMap α} {e : ε} :
    m.traverse f = .error e ↔
      ∃ entry, FirstFault (fun entry => f entry.1 entry.2) m.entries entry e := by
  rw [← traverseEntries_eq_error]
  unfold traverse
  split
  · next e' refused => simp [refused]
  · next entries accepted => simp [accepted]

end OrderedMap

end Packfile
