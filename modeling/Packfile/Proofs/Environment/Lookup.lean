import Packfile.Dotenv.Entry
import Packfile.Dotenv.Expansion
import Packfile.Proofs.Traversal

/-!
# What references find

The references in a value decide what its text is and nothing else: whether the value is refused,
and with which fault, is the same for all look-ups, under the plain rules and when it is expanded. A
value without a dollar has no references, so its text is the same as well.
-/

namespace Packfile.Dotenv

variable {lookup other : String → Option String} {value : List Char}

namespace Value

/-- Whether a reference is being read. -/
def Mode.isReference : Mode → Bool
  | .name .. | .braced .. => true
  | _ => false

@[simp] theorem Mode.isReference_outer (inDouble : Bool) :
    (Mode.outer inDouble).isReference = false := by
  cases inDouble <;> rfl

theorem decodeFrom_eq_error {fault : Fault} (mode : Mode) (i : Nat) (s : List Char) :
    decodeFrom lookup mode i s = .error fault ↔ decodeFrom other mode i s = .error fault := by
  fun_induction decodeFrom lookup mode i s
  case case20 inDouble name i c rest stop opening dollar ih =>
    have opening' : ¬ (c = '{' ∧ name = []) := by simpa using opening
    simp [decodeFrom, stop, opening', dollar, map_eq_error, ih]
  all_goals simp_all [decodeFrom, map_eq_error]

theorem decode_eq_error {fault : Fault} :
    decode lookup value = .error fault ↔ decode other value = .error fault :=
  decodeFrom_eq_error .bare 0 value

theorem exists_decode_eq_ok {text : List Char} (other : String → Option String)
    (decoded : decode lookup value = .ok text) : ∃ text', decode other value = .ok text' :=
  exists_ok_of_ok decoded fun _ => decode_eq_error.mp

/-- Outside of a reference only a dollar starts one. -/
theorem decodeFrom_of_not_mem {mode : Mode} (outside : mode.isReference = false) (i : Nat)
    {s : List Char} (absent : '$' ∉ s) :
    decodeFrom lookup mode i s = decodeFrom other mode i s := by
  fun_induction decodeFrom lookup mode i s
  case case13 inDouble i c rest d found ih =>
    rw [decodeFrom, found, ih (Mode.isReference_outer _) (List.not_mem_of_not_mem_cons absent)]
  all_goals simp_all [decodeFrom, Mode.isReference]

theorem decode_of_not_mem (absent : '$' ∉ value) : decode lookup value = decode other value :=
  decodeFrom_of_not_mem rfl 0 absent

end Value

namespace Expansion

theorem expandFrom_eq_error {fault : Fault} (quote : Option Quote) (s : List Char) :
    expandFrom lookup quote s = .error fault ↔ expandFrom other quote s = .error fault := by
  fun_induction expandFrom lookup quote s
  case case1 | case2 => rw [expandFrom]
  case case5 unquoted _ refused => rw [expandFrom_escape unquoted, refused]
  case case6 unquoted _ _ read _ ih =>
    rw [expandFrom_escape unquoted, read, map_eq_error, map_eq_error, ih]
  case case7 unquoted _ refused _ => rw [expandFrom_reference unquoted, refused]
  case case8 unquoted _ _ read _ _ ih =>
    rw [expandFrom_reference unquoted, read, map_eq_error, map_eq_error, ih]
  all_goals
    rw [expandFrom]
    simp_all [map_eq_error]

theorem expand_eq_error {fault : Fault} :
    expand lookup value = .error fault ↔ expand other value = .error fault :=
  expandFrom_eq_error none value

theorem exists_expand_eq_ok {text : List Char} (other : String → Option String)
    (expanded : expand lookup value = .ok text) : ∃ text', expand other value = .ok text' :=
  exists_ok_of_ok expanded fun _ => expand_eq_error.mp

end Expansion

namespace Entry

variable {assignment : Assignment}

theorem ofAssignment_eq_error {e : LineError} :
    ofAssignment lookup assignment = .error e ↔ ofAssignment other assignment = .error e := by
  unfold ofAssignment
  cases decoded : Value.decode lookup assignment.value with
  | error fault => rw [Value.decode_eq_error.mp decoded]
  | ok text =>
      obtain ⟨text', decoded'⟩ := Value.exists_decode_eq_ok other decoded
      simp [decoded']

theorem exists_ofAssignment_eq_ok {entry : String × String} (other : String → Option String)
    (read : ofAssignment lookup assignment = .ok entry) :
    ∃ entry', ofAssignment other assignment = .ok entry' :=
  exists_ok_of_ok read fun _ => ofAssignment_eq_error.mp

theorem key_of_ofAssignment {entry : String × String}
    (read : ofAssignment lookup assignment = .ok entry) : entry.1 = assignment.key := by
  unfold ofAssignment at read
  split at read <;> cases read
  rfl

theorem ofAssignment_of_not_mem (lookup other : String → Option String)
    (absent : '$' ∉ assignment.value) :
    ofAssignment lookup assignment = ofAssignment other assignment := by
  rw [ofAssignment, ofAssignment, Value.decode_of_not_mem absent]

end Entry

end Packfile.Dotenv
