import Packfile.Proofs.Environment.Quoted

/-!
# The two readers of a value

A value is read under the plain rules, and expanded if it holds a dollar. Both readers follow quotes
and escapes in the same way, but they part at three places. Under the plain rules the character after
a name outside braces is literal, even if it is a quote, a backslash or the blank that would end the
value; a backslash at the very end of a bare value is dropped; and between a bare value and its
comment only spaces and tabs are passed over. Away from these places the readers refuse the same
values, and find the same text where there is no reference.
-/

namespace Packfile.Dotenv

variable {lookup other : String → Option String} {s rest name after : List Char} {c : Char}

namespace Value

/-! ## Where the readers agree -/

/-- What surrounds the character after another one, as long as nothing is refused. -/
def Mode.next : Mode → Char → Mode
  | .bare, c =>
    if c = '$' then .name false []
    else if c = '\'' then .single
    else if c = '"' then .double
    else if c = '\\' then .escape false
    else if c = ' ' || c = '\t' then .ended
    else .bare
  | .single, c => if c = '\'' then .bare else .single
  | .double, c =>
    if c = '$' then .name true []
    else if c = '"' then .bare
    else if c = '\\' then .escape true
    else .double
  | .escape inDouble, _ => .outer inDouble
  | .name inDouble name, c =>
    if Text.isAlphanumeric c then .name inDouble (name ++ [c])
    else if c = '{' && name.isEmpty then .braced inDouble []
    else if c = '$' then .name inDouble []
    else .outer inDouble
  | .braced inDouble name, c => if c = '}' then .outer inDouble else .braced inDouble (name ++ [c])
  | .ended, _ => .ended

/-- Whether the character means nothing else where the name before it ends. -/
def endsName (inDouble : Bool) (c : Char) : Bool :=
  c ≠ '"' && c ≠ '\\' && (inDouble || (c ≠ '\'' && c ≠ ' ' && c ≠ '\t'))

/-- Whether the character ends a bare value. -/
def isGap (c : Char) : Bool :=
  c = ' ' || c = '\t'

/-- Whether the readers stay together from here on: no name outside braces is followed directly by a
character that means something there, no backslash ends a bare value, and only spaces and tabs are
between such a value and what comes after it. -/
def steady : Mode → List Char → Bool
  | .ended, s => Text.trimStart s = s.dropWhile isGap
  | mode, [] => mode ≠ .escape false
  | .name inDouble name, c :: rest =>
    endsName inDouble c && steady (Mode.next (.name inDouble name) c) rest
  | mode, c :: rest => steady (mode.next c) rest

end Value

/-- Two readers refuse a value, or both accept it, with the same text if it has no reference. -/
def Agree (plain : Prop) {ε ε' : Type} : Except ε (List Char) → Except ε' (List Char) → Prop
  | .ok a, .ok b => plain → a = b
  | .error _, .error _ => True
  | _, _ => False

section Agree

variable {ε ε' : Type} {plain plain' : Prop} {x : Except ε (List Char)} {y : Except ε' (List Char)}

theorem Agree.map {f g : List Char → List Char} (agree : Agree plain' x y)
    (same : plain → plain' ∧ f = g) : Agree plain (f <$> x) (g <$> y) := by
  cases x <;> cases y
  · exact trivial
  · exact agree
  · exact agree
  · intro holds
    obtain ⟨holds', rfl⟩ := same holds
    exact congrArg f (agree holds')

theorem Agree.mono (agree : Agree plain' x y) (weaker : plain → plain') : Agree plain x y := by
  cases x <;> cases y
  · exact trivial
  · exact agree
  · exact agree
  · exact fun holds => agree (weaker holds)

theorem Agree.accepted (agree : Agree plain x y) : (∃ a, x = .ok a) ↔ ∃ b, y = .ok b := by
  cases x <;> cases y <;> simp_all [Agree]

end Agree

/-! ## Literal characters -/

namespace Value

/-- A character that means nothing outside of single quotes, or in double ones. -/
structure Literal (inDouble : Bool) (c : Char) : Prop where
  dollar : c ≠ '$'
  quote : c ≠ '"'
  backslash : c ≠ '\\'
  bare : inDouble = false → c ≠ '\'' ∧ c ≠ ' ' ∧ c ≠ '\t'

variable {inDouble : Bool} {i : Nat}

theorem literal_of_isNameChar (named : Expansion.isNameChar c) : Literal inDouble c := by
  refine ⟨?_, ?_, ?_, fun _ => ⟨?_, ?_, ?_⟩⟩ <;> rintro rfl <;> revert named <;> decide

theorem literal_of_endsName (ends : endsName inDouble c) (dollar : c ≠ '$') :
    Literal inDouble c := by
  simp only [endsName, Bool.and_eq_true, Bool.or_eq_true, decide_eq_true_eq] at ends
  refine ⟨dollar, ends.1.1, ends.1.2, ?_⟩
  rintro rfl
  simpa [and_assoc] using ends.2

theorem decodeFrom_literal (literal : Literal inDouble c) (i : Nat) (rest : List Char) :
    decodeFrom lookup (.outer inDouble) i (c :: rest) =
      (c :: ·) <$> decodeFrom lookup (.outer inDouble) (i + 1) rest := by
  obtain ⟨dollar, quote, backslash, bare⟩ := literal
  cases inDouble with
  | false =>
      obtain ⟨single, space, tab⟩ := bare rfl
      simp [Mode.outer, decodeFrom, dollar, quote, backslash, single, space, tab]
  | true => simp [Mode.outer, decodeFrom, dollar, quote, backslash]

theorem steady_literal (literal : Literal inDouble c) :
    steady (.outer inDouble) (c :: rest) = steady (.outer inDouble) rest := by
  obtain ⟨dollar, quote, backslash, bare⟩ := literal
  cases inDouble with
  | false =>
      obtain ⟨single, space, tab⟩ := bare rfl
      simp [Mode.outer, steady, Mode.next, dollar, quote, backslash, single, space, tab]
  | true => simp [Mode.outer, steady, Mode.next, dollar, quote, backslash]

theorem decodeFrom_nameChars (names : ∀ c ∈ name, Expansion.isNameChar c) (i : Nat)
    (after : List Char) :
    decodeFrom lookup (.outer inDouble) i (name ++ after) =
      (name ++ ·) <$> decodeFrom lookup (.outer inDouble) (i + name.length) after := by
  induction name generalizing i with
  | nil => exact (id_map _).symm
  | cons c name ih =>
      obtain ⟨first, others⟩ := List.forall_mem_cons.mp names
      have index : i + 1 + name.length = i + (c :: name).length := by
        rw [List.length_cons]
        omega
      rw [List.cons_append, decodeFrom_literal (literal_of_isNameChar first), ih others, index,
        Functor.map_map]
      rfl

theorem steady_nameChars (names : ∀ c ∈ name, Expansion.isNameChar c) :
    steady (.outer inDouble) (name ++ after) = steady (.outer inDouble) after := by
  induction name with
  | nil => rfl
  | cons c name ih =>
      obtain ⟨first, others⟩ := List.forall_mem_cons.mp names
      rw [List.cons_append, steady_literal (literal_of_isNameChar first), ih others]

/-! ## References -/

/-- What stands after a name is read like after any other part of the value, if it ends the name for
both readers. -/
theorem decodeFrom_leave {known : List Char}
    (stop : ∀ c ∈ s.head?, Text.isAlphanumeric c = false ∧ (c = '{' → known ≠ []) ∧
      endsName inDouble c) :
    decodeFrom lookup (.name inDouble known) i s =
      (referenced lookup known ++ ·) <$> decodeFrom lookup (.outer inDouble) i s := by
  cases s with
  | nil => cases inDouble <;> simp [decodeFrom, Mode.outer]
  | cons c rest =>
      obtain ⟨other, brace, ends⟩ := stop c rfl
      have unbraced : ¬ (c = '{' && known.isEmpty) = true := by
        simpa using brace
      by_cases dollar : c = '$'
      · subst dollar
        cases inDouble <;> simp [decodeFrom, Mode.outer, other]
      · rw [decodeFrom_literal (literal_of_endsName ends dollar)]
        have read : decodeFrom lookup (.name inDouble known) i (c :: rest) =
            (referenced lookup known ++ c :: ·) <$>
              decodeFrom lookup (.outer inDouble) (i + 1) rest := by
          simp [decodeFrom, other, unbraced, dollar]
        rw [read, Functor.map_map]

theorem steady_leave {known : List Char}
    (stop : ∀ c ∈ s.head?, Text.isAlphanumeric c = false ∧ (c = '{' → known ≠ []))
    (steadily : steady (.name inDouble known) s) :
    steady (.outer inDouble) s ∧ ∀ c ∈ s.head?, endsName inDouble c := by
  cases s with
  | nil => cases inDouble <;> exact ⟨rfl, by simp⟩
  | cons c rest =>
      obtain ⟨other, brace⟩ := stop c rfl
      have unbraced : ¬ (c = '{' && known.isEmpty) = true := by
        simpa using brace
      rw [steady, Bool.and_eq_true] at steadily
      obtain ⟨ends, later⟩ := steadily
      refine ⟨?_, by simpa using ends⟩
      by_cases dollar : c = '$'
      · subst dollar
        simp only [Mode.next, other, unbraced, Bool.false_eq_true, if_false, if_true] at later
        cases inDouble <;> simpa [Mode.outer, steady, Mode.next] using later
      · simp only [Mode.next, other, unbraced, dollar, Bool.false_eq_true, if_false] at later
        rwa [steady_literal (literal_of_endsName ends dollar)]

/-- A name outside braces is passed by both readers, though they may end it at different places: an
underscore belongs to it for one of them and is literal for the other. -/
theorem decodeFrom_name {known : List Char} (lookup : String → Option String) (i : Nat)
    (names : ∀ c ∈ name, Expansion.isNameChar c)
    (stop : ∀ c ∈ after.head?, Expansion.isNameChar c = false)
    (brace : known = [] → name = [] → after.head? ≠ some '{')
    (steadily : steady (.name inDouble known) (name ++ after)) :
    steady (.outer inDouble) after ∧
      ∃ f, decodeFrom lookup (.name inDouble known) i (name ++ after) =
        f <$> decodeFrom lookup (.outer inDouble) (i + name.length) after := by
  induction name generalizing known i with
  | nil =>
      have leaves : ∀ c ∈ after.head?, Text.isAlphanumeric c = false ∧ (c = '{' → known ≠ []) := by
        intro c head
        have other := stop c head
        rw [Expansion.isNameChar, Bool.or_eq_false_iff] at other
        refine ⟨other.1, ?_⟩
        rintro rfl none
        exact brace none rfl head
      obtain ⟨steadily', ends⟩ := steady_leave leaves steadily
      exact ⟨steadily', _, decodeFrom_leave fun c head =>
        ⟨(leaves c head).1, (leaves c head).2, ends c head⟩⟩
  | cons c name ih =>
      obtain ⟨first, others⟩ := List.forall_mem_cons.mp names
      by_cases letter : Text.isAlphanumeric c
      · have index : i + 1 + name.length = i + (c :: name).length := by
          rw [List.length_cons]
          omega
        rw [List.cons_append, steady, Mode.next, if_pos letter, Bool.and_eq_true] at steadily
        obtain ⟨steadily', f, read⟩ := ih (i + 1) others (by simp) steadily.2
        refine ⟨steadily', f, ?_⟩
        rw [List.cons_append, decodeFrom, if_pos letter, read, index]
      · have leaves : ∀ d ∈ (c :: name ++ after).head?, Text.isAlphanumeric d = false ∧
            (d = '{' → known ≠ []) := by
          intro d head
          obtain rfl : c = d := Option.some.inj head
          refine ⟨by simpa using letter, ?_⟩
          rintro rfl
          exact absurd first (by decide)
        obtain ⟨steadily', ends⟩ := steady_leave leaves steadily
        rw [steady_nameChars names] at steadily'
        refine ⟨steadily', fun text => referenced lookup known ++ (c :: name ++ text), ?_⟩
        rw [decodeFrom_leave fun d head => ⟨(leaves d head).1, (leaves d head).2, ends d head⟩,
          decodeFrom_nameChars names, Functor.map_map]

/-- A name in braces is the same for both readers. -/
theorem decodeFrom_braced {known : List Char} (open' : '}' ∉ name) (i : Nat) (after : List Char) :
    decodeFrom lookup (.braced inDouble known) i (name ++ '}' :: after) =
      (referenced lookup (known ++ name) ++ ·) <$>
        decodeFrom lookup (.outer inDouble) (i + name.length + 1) after := by
  induction name generalizing known i with
  | nil => simp [decodeFrom]
  | cons c name ih =>
      have different : c ≠ '}' := (List.ne_of_not_mem_cons open').symm
      have index : i + 1 + name.length + 1 = i + (c :: name).length + 1 := by
        rw [List.length_cons]
        omega
      rw [List.cons_append, decodeFrom, if_neg different,
        ih (List.not_mem_of_not_mem_cons open'), index, List.append_assoc]
      rfl

theorem steady_braced {known : List Char} (open' : '}' ∉ name) (after : List Char) :
    steady (.braced inDouble known) (name ++ '}' :: after) = steady (.outer inDouble) after := by
  induction name generalizing known with
  | nil => simp [steady, Mode.next]
  | cons c name ih =>
      have different : c ≠ '}' := (List.ne_of_not_mem_cons open').symm
      have step : steady (.braced inDouble known) (c :: (name ++ '}' :: after)) =
          steady (.braced inDouble (known ++ [c])) (name ++ '}' :: after) := by
        simp [steady, Mode.next, different]
      rw [List.cons_append, step, ih (List.not_mem_of_not_mem_cons open')]

theorem decodeFrom_unbraced {known : List Char} (open' : '}' ∉ s) :
    decodeFrom lookup (.braced inDouble known) i s = .error .unterminated := by
  induction s generalizing known i with
  | nil => rfl
  | cons c s ih =>
      have different : c ≠ '}' := (List.ne_of_not_mem_cons open').symm
      rw [decodeFrom, if_neg different, ih (List.not_mem_of_not_mem_cons open')]

/-! ## After the value -/

theorem decodeFrom_gaps (lookup : String → Option String) (i : Nat) (s : List Char) :
    ∃ j, decodeFrom lookup .ended i s = decodeFrom lookup .ended j (s.dropWhile isGap) := by
  induction s generalizing i with
  | nil => exact ⟨i, rfl⟩
  | cons c s ih =>
      by_cases gap : isGap c
      · obtain ⟨j, same⟩ := ih (i + 1)
        exact ⟨j, by rw [decodeFrom, ← isGap, if_pos gap, same, List.dropWhile_cons_of_pos gap]⟩
      · exact ⟨i, by rw [List.dropWhile_cons_of_neg gap]⟩

/-- After the blank that ends a bare value both readers look for the same thing, if only spaces and
tabs come before it. -/
theorem agree_checkEnd {plain : Prop} (i : Nat)
    (steadily : Text.trimStart s = s.dropWhile isGap) :
    Agree plain (decodeFrom lookup .ended i s)
      ((fun _ => []) <$> Expansion.checkEnd s : Except Expansion.Fault (List Char)) := by
  obtain ⟨j, same⟩ := decodeFrom_gaps lookup i s
  rw [same, Expansion.checkEnd, steadily]
  have head := List.head?_dropWhile_not isGap s
  cases dropped : s.dropWhile isGap with
  | nil => exact fun _ => rfl
  | cons c rest =>
      rw [dropped] at head
      have solid : ¬ isGap c := by simpa using head
      rw [decodeFrom, ← isGap, if_neg solid]
      by_cases comment : c = '#'
      · simp only [if_pos comment]
        exact fun _ => rfl
      · simp only [if_neg comment]
        exact trivial

/-! ## One escape, one reference -/

theorem decodeFrom_backslash (i : Nat) (rest : List Char) :
    decodeFrom lookup (.outer inDouble) i ('\\' :: rest) =
      decodeFrom lookup (.escape inDouble) (i + 1) rest := by
  cases inDouble <;> simp [Mode.outer, decodeFrom]

theorem steady_backslash :
    steady (.outer inDouble) ('\\' :: rest) = steady (.escape inDouble) rest := by
  cases inDouble <;> simp [Mode.outer, steady, Mode.next]

theorem decodeFrom_dollar (i : Nat) (rest : List Char) :
    decodeFrom lookup (.outer inDouble) i ('$' :: rest) =
      decodeFrom lookup (.name inDouble []) (i + 1) rest := by
  cases inDouble <;> simp [Mode.outer, decodeFrom]

theorem steady_dollar :
    steady (.outer inDouble) ('$' :: rest) = steady (.name inDouble []) rest := by
  cases inDouble <;> simp [Mode.outer, steady, Mode.next]

/-- A backslash that escapes nothing is refused by both readers, unless it ends a bare value. -/
theorem decodeFrom_of_escaped_error {fault : Expansion.Fault} (lookup : String → Option String)
    (i : Nat)
    (steadily : steady (.escape inDouble) s) (refused : Expansion.escaped s = .error fault) :
    ∃ fault', decodeFrom lookup (.escape inDouble) i s = .error fault' := by
  cases s with
  | nil =>
      cases inDouble with
      | false => cases steadily
      | true => exact ⟨_, rfl⟩
  | cons c rest =>
      rw [Expansion.escaped] at refused
      rw [decodeFrom]
      cases stands : unescape c with
      | none => exact ⟨_, rfl⟩
      | some d =>
          rw [stands] at refused
          cases refused

theorem decodeFrom_of_escaped {d : Char} (lookup : String → Option String) (inDouble : Bool)
    (i : Nat) (read : Expansion.escaped s = .ok (d, after)) :
    ∃ c, s = c :: after ∧ decodeFrom lookup (.escape inDouble) i s =
      (d :: ·) <$> decodeFrom lookup (.outer inDouble) (i + 1) after := by
  cases s with
  | nil => cases read
  | cons c rest =>
      rw [Expansion.escaped] at read
      rw [decodeFrom]
      cases stands : unescape c with
      | none =>
          rw [stands] at read
          cases read
      | some d' =>
          rw [stands] at read
          cases read
          exact ⟨c, rfl, rfl⟩

theorem reference_cases (s : List Char) :
    (∃ rest, s = '{' :: rest ∧ '}' ∉ rest ∧
      Expansion.reference s = .error .unterminatedReference) ∨
    (∃ name after, s = '{' :: (name ++ '}' :: after) ∧ '}' ∉ name ∧
      Expansion.reference s = .ok (name, after)) ∨
    (s.head? ≠ some '{' ∧ Expansion.reference s =
      .ok (s.takeWhile Expansion.isNameChar, s.dropWhile Expansion.isNameChar)) := by
  unfold Expansion.reference
  split
  · next rest =>
      split
      · next found split =>
          obtain ⟨name, after⟩ := found
          obtain ⟨rfl, absent⟩ := Text.splitAtFirst_eq_some.mp split
          exact .inr (.inl ⟨name, after, rfl, absent, rfl⟩)
      · next none => exact .inl ⟨rest, rfl, Text.splitAtFirst_eq_none.mp none, rfl⟩
  · next other =>
      refine .inr (.inr ⟨?_, rfl⟩)
      intro head
      obtain ⟨rest, rfl⟩ := List.head?_eq_some_iff.mp head
      exact other rest rfl

theorem decodeFrom_of_reference_error {fault : Expansion.Fault}
    (lookup : String → Option String) (inDouble : Bool) (i : Nat)
    (refused : Expansion.reference s = .error fault) :
    ∃ fault', decodeFrom lookup (.name inDouble []) i s = .error fault' := by
  rcases reference_cases s with ⟨rest, rfl, absent, -⟩ | ⟨_, _, -, -, read⟩ | ⟨-, read⟩
  · refine ⟨.unterminated, ?_⟩
    have opened : Text.isAlphanumeric '{' = false := by decide
    simp [decodeFrom, opened, decodeFrom_unbraced absent]
  · rw [read] at refused
    cases refused
  · rw [read] at refused
    cases refused

/-- A reference is passed by both readers. -/
theorem decodeFrom_of_reference (lookup : String → Option String) (i : Nat)
    (steadily : steady (.name inDouble []) s)
    (read : Expansion.reference s = .ok (name, after)) :
    steady (.outer inDouble) after ∧ ∃ f j, decodeFrom lookup (.name inDouble []) i s =
      f <$> decodeFrom lookup (.outer inDouble) j after := by
  rcases reference_cases s with
    ⟨rest, rfl, -, refused⟩ | ⟨_, _, rfl, absent, read'⟩ | ⟨other, read'⟩
  · rw [refused] at read
    cases read
  · rw [read'] at read
    cases read
    have opened : Text.isAlphanumeric '{' = false := by decide
    rw [steady, Bool.and_eq_true] at steadily
    have later : steady (.outer inDouble) after := by
      simpa [Mode.next, opened, steady_braced absent] using steadily.2
    have inside : decodeFrom lookup (.name inDouble []) i ('{' :: (name ++ '}' :: after)) =
        decodeFrom lookup (.braced inDouble []) (i + 1) (name ++ '}' :: after) := by
      simp [decodeFrom, opened]
    exact ⟨later, _, _, inside.trans (decodeFrom_braced absent (i + 1) after)⟩
  · rw [read'] at read
    cases read
    have split := List.takeWhile_append_dropWhile (p := Expansion.isNameChar) (l := s)
    have names : ∀ c ∈ s.takeWhile Expansion.isNameChar, Expansion.isNameChar c := fun _ =>
      List.mem_takeWhile_imp
    have stop : ∀ c ∈ (s.dropWhile Expansion.isNameChar).head?, Expansion.isNameChar c = false := by
      intro c head
      have first := List.head?_dropWhile_not Expansion.isNameChar s
      rw [head] at first
      simpa using first
    have brace : s.takeWhile Expansion.isNameChar = [] →
        (s.dropWhile Expansion.isNameChar).head? ≠ some '{' := by
      intro none
      rw [none, List.nil_append] at split
      rwa [split]
    rw [← split] at steadily
    obtain ⟨later, f, passed⟩ :=
      decodeFrom_name lookup i names stop (fun _ => brace) steadily
    rw [split] at passed
    exact ⟨later, f, _, passed⟩

/-! ## Whole values -/

/-- What surrounds a character for one reader, given the quotes around it for the other. -/
def Mode.ofQuote : Option Expansion.Quote → Mode
  | none => .bare
  | some .single => .single
  | some .double => .double

theorem Mode.ofQuote_of_unquoted {quote : Option Expansion.Quote}
    (unquoted : quote ≠ some .single) :
    ∃ inDouble, Mode.ofQuote quote = .outer inDouble := by
  rcases quote with _ | _ | _
  · exact ⟨false, rfl⟩
  · exact absurd rfl unquoted
  · exact ⟨true, rfl⟩

theorem eq_none_of_ne {quote : Option Expansion.Quote} (single : quote ≠ some .single)
    (double : quote ≠ some .double) : quote = none := by
  rcases quote with _ | _ | _
  · rfl
  · exact absurd rfl single
  · exact absurd rfl double

theorem not_mem_tail (absent : '$' ∉ c :: s) : '$' ∉ s :=
  List.not_mem_of_not_mem_cons absent

/-- Where the readers stay together, they accept the same values, and read the same text where there
is no reference. -/
theorem agree_expandFrom (quote : Option Expansion.Quote) (s : List Char) (i : Nat)
    (steadily : steady (.ofQuote quote) s) :
    Agree ('$' ∉ s) (decodeFrom lookup (.ofQuote quote) i s)
      (Expansion.expandFrom other quote s) := by
  fun_induction Expansion.expandFrom other quote s generalizing i with
  | case1 => exact fun _ => rfl
  | case2 quote => cases quote <;> exact trivial
  | case3 rest ih =>
      have steadily' : steady .bare rest := by
        simpa [Mode.ofQuote, steady, Mode.next] using steadily
      exact (ih (i + 1) steadily').mono not_mem_tail
  | case4 c rest notQuote ih =>
      have steadily' : steady .single rest := by
        simpa [Mode.ofQuote, steady, Mode.next, notQuote] using steadily
      rw [Mode.ofQuote, decodeFrom, if_neg notQuote]
      exact (ih (i + 1) steadily').map fun absent => ⟨not_mem_tail absent, rfl⟩
  | case5 quote rest unquoted fault refused =>
      obtain ⟨inDouble, outer⟩ := Mode.ofQuote_of_unquoted unquoted
      rw [outer, steady_backslash] at steadily
      obtain ⟨fault', refused'⟩ := decodeFrom_of_escaped_error lookup (i + 1) steadily refused
      rw [outer, decodeFrom_backslash, refused']
      exact trivial
  | case6 quote rest unquoted d after read _ ih =>
      obtain ⟨inDouble, outer⟩ := Mode.ofQuote_of_unquoted unquoted
      obtain ⟨c, rfl, read'⟩ := decodeFrom_of_escaped lookup inDouble (i + 1) read
      rw [outer] at steadily ih ⊢
      rw [steady_backslash] at steadily
      have steadily' : steady (.outer inDouble) after := steadily
      rw [decodeFrom_backslash, read']
      exact (ih _ steadily').map fun absent => ⟨not_mem_tail (not_mem_tail absent), rfl⟩
  | case7 quote rest unquoted fault refused =>
      obtain ⟨inDouble, outer⟩ := Mode.ofQuote_of_unquoted unquoted
      obtain ⟨fault', refused'⟩ := decodeFrom_of_reference_error lookup inDouble (i + 1) refused
      rw [outer, decodeFrom_dollar, refused']
      exact trivial
  | case8 quote rest unquoted name after read _ _ ih =>
      obtain ⟨inDouble, outer⟩ := Mode.ofQuote_of_unquoted unquoted
      rw [outer] at steadily ih ⊢
      rw [steady_dollar] at steadily
      obtain ⟨steadily', f, j, read'⟩ := decodeFrom_of_reference lookup (i + 1) steadily read
      rw [decodeFrom_dollar, read']
      exact (ih j steadily').map fun absent => absurd List.mem_cons_self absent
  | case9 rest _ _ _ ih =>
      have steadily' : steady .bare rest := by
        simpa [Mode.ofQuote, steady, Mode.next] using steadily
      exact (ih (i + 1) steadily').mono not_mem_tail
  | case10 c rest backslash dollar quote _ ih =>
      have literal : Literal true c := ⟨dollar, quote, backslash, by simp⟩
      have same : Mode.ofQuote (some .double) = .outer true := rfl
      rw [same] at steadily ih ⊢
      rw [steady_literal literal] at steadily
      rw [decodeFrom_literal literal]
      exact (ih (i + 1) steadily).map fun absent => ⟨not_mem_tail absent, rfl⟩
  | case11 quote rest notSingle notDouble _ _ ih =>
      obtain rfl := eq_none_of_ne notSingle notDouble
      have steadily' : steady .single rest := by
        simpa [Mode.ofQuote, steady, Mode.next] using steadily
      exact (ih (i + 1) steadily').mono not_mem_tail
  | case12 quote rest notSingle notDouble _ _ _ ih =>
      obtain rfl := eq_none_of_ne notSingle notDouble
      have steadily' : steady .double rest := by
        simpa [Mode.ofQuote, steady, Mode.next] using steadily
      exact (ih (i + 1) steadily').mono not_mem_tail
  | case13 quote c rest notSingle backslash dollar notDouble single double gap =>
      obtain rfl := eq_none_of_ne notSingle notDouble
      have steadily' : steady .ended rest := by
        simpa [Mode.ofQuote, steady, Mode.next, backslash, dollar, single, double, gap]
          using steadily
      have read : decodeFrom lookup .bare i (c :: rest) =
          decodeFrom lookup .ended (i + 1) rest := by
        simp [decodeFrom, backslash, dollar, single, double, gap]
      rw [Mode.ofQuote, read]
      exact agree_checkEnd (i + 1) (by simpa [steady] using steadily')
  | case14 quote c rest notSingle backslash dollar notDouble single double gap ih =>
      obtain rfl := eq_none_of_ne notSingle notDouble
      have literal : Literal false c :=
        ⟨dollar, double, backslash, fun _ => ⟨single, by simpa using gap⟩⟩
      have same : Mode.ofQuote none = .outer false := rfl
      rw [same] at steadily ih ⊢
      rw [steady_literal literal] at steadily
      rw [decodeFrom_literal literal]
      exact (ih (i + 1) steadily).map fun absent => ⟨not_mem_tail absent, rfl⟩

/-- A value on which the readers stay together is refused by both or by none, and without a
reference it has one text. -/
theorem agree_expand (steadily : steady .bare s) :
    Agree ('$' ∉ s) (decode lookup s) (Expansion.expand other s) :=
  agree_expandFrom none s 0 steadily

end Value

/-! ## Files with one assignment -/

/-- What a line with an assignment gives: the value has to be accepted under the plain rules, and is
expanded if it holds a dollar. -/
theorem readLine_assignment {key : String} {value : List Char} (named : Quoted.isKey key)
    (isValue : Quoted.IsValue value) :
    readLine lookup (key.toList ++ '=' :: value) =
      match Value.decode (fun _ => none) value with
      | .error fault => .error (.line ⟨String.ofList value, Entry.faultIndex value fault⟩)
      | .ok text =>
        if '$' ∈ value then
          match Expansion.expand lookup value with
          | .ok expanded => .ok (some (key, String.ofList expanded))
          | .error fault => .error (.expansion key fault)
        else .ok (some (key, String.ofList text)) := by
  simp only [readLine, Quoted.parse_assignment named isValue, Entry.ofAssignment]
  cases Value.decode (fun _ => none) value with
  | error fault => rfl
  | ok text =>
      by_cases dollar : '$' ∈ value
      · cases Expansion.expand lookup value <;> simp only [List.contains_iff_mem, if_pos dollar]
      · simp only [List.contains_iff_mem, if_neg dollar]

theorem assignmentLines_assignment {key ending : String} {value : List Char}
    (named : Quoted.isKey key) (isValue : Quoted.IsValue value) (oneLine : '\n' ∉ value)
    (ends : ending = "" ∨ ending = "\n") :
    assignmentLines (key ++ "=" ++ String.ofList value ++ ending) =
      [key.toList ++ '=' :: value] := by
  have assigns := Line.isAssignment_of_parse (Quoted.parse_assignment named isValue)
  have newline : '\n' ∉ key.toList ++ '=' :: value := by
    simp [Quoted.newline_not_mem_key named, oneLine]
  have lines : Text.lines (key ++ "=" ++ String.ofList value ++ ending).toList =
      [key.toList ++ '=' :: value] := by
    have whole : (key ++ "=" ++ String.ofList value ++ ending).toList =
        (key.toList ++ '=' :: value) ++ ending.toList := by
      simp
    rw [whole]
    rcases ends with rfl | rfl
    · rw [String.toList_empty, List.append_nil]
      exact Text.lines_of_not_mem newline (by simp)
    · refine Text.lines_append newline ?_ []
      have last : (key.toList ++ '=' :: value).getLast? = value.getLast? := by
        obtain ⟨v, more, rfl⟩ := List.exists_cons_of_ne_nil isValue.nonempty
        simp [List.getLast?_append, List.getLast?_cons]
      intro carriage
      have solid : Text.isBlank '\r' = false := by
        apply Text.isBlank_of_getLast?_trim (s := value)
        rw [isValue.trimmed, ← last, carriage]
      revert solid
      decide
  rw [assignmentLines, lines, List.filter_cons_of_pos assigns]
  rfl

section OneLine

variable {fs : FileSystem} {store : EnvironmentStore} {path text key value : String}
variable {line : List Char}

theorem load_of_readLine (process : ProcessEnvironment) (found : fs.readText path = .ok text)
    (lines : assignmentLines text = [line])
    (read : readLine store.get? line = .ok (some (key, value))) :
    (∃ count, (load fs process store path).1 = .ok count) ∧
      (store.get? key = none → (load fs process store path).2.get? key = some value) := by
  have reads : Reads store (assignmentLines text) [(key, value)] := by
    rw [lines]
    exact Reads.nil.snoc read
  obtain ⟨count, accepted, -, takesUp⟩ := loadText_of_reads process reads
  refine ⟨⟨count, load_eq_ok.mpr ⟨text, found, accepted⟩⟩, fun absent => ?_⟩
  rw [load_store_of_readText found, takesUp key, absent]
  simp [firstValue?]

theorem load_of_readLine_error {fault : Fault} (process : ProcessEnvironment)
    (found : fs.readText path = .ok text) (lines : assignmentLines text = [line])
    (refused : readLine store.get? line = .error fault) :
    ¬ ∃ count, (load fs process store path).1 = .ok count := by
  rintro ⟨count, accepted⟩
  obtain ⟨text', found', accepted'⟩ := load_eq_ok.mp accepted
  obtain rfl : text = text' := Except.ok.inj (found.symm.trans found')
  have split : assignmentLines text = [] ++ line :: [] := lines
  rw [(loadText_of_refused process split .nil refused).1] at accepted'
  cases accepted'

end OneLine

section Assignment

variable {fs : FileSystem} {store : EnvironmentStore} {path key ending : String}
variable {value : List Char}

/-- Whether a file with one assignment loads, and what it gives to a variable that was not set. -/
theorem load_assignment_cases (process : ProcessEnvironment) (named : Quoted.isKey key)
    (isValue : Quoted.IsValue value) (oneLine : '\n' ∉ value)
    (ends : ending = "" ∨ ending = "\n")
    (found : fs.readText path = .ok (key ++ "=" ++ String.ofList value ++ ending)) :
    ((∃ count, (load fs process store path).1 = .ok count) ↔
      (∃ text, Value.decode (fun _ => none) value = .ok text) ∧
      ('$' ∈ value → ∃ text, Expansion.expand store.get? value = .ok text)) ∧
    ((∃ count, (load fs process store path).1 = .ok count) → store.get? key = none →
      ∃ text, (load fs process store path).2.get? key = some (String.ofList text) ∧
        ('$' ∈ value → Expansion.expand store.get? value = .ok text) ∧
        ('$' ∉ value → Value.decode (fun _ => none) value = .ok text)) := by
  have lines := assignmentLines_assignment named isValue oneLine ends
  have read : readLine store.get? (key.toList ++ '=' :: value) = _ :=
    readLine_assignment named isValue
  cases decoded : Value.decode (fun _ => none) value with
  | error fault =>
      rw [decoded] at read
      have refused := load_of_readLine_error process found lines read
      exact ⟨by simp [refused], fun loaded => absurd loaded refused⟩
  | ok text =>
      simp only [decoded] at read
      by_cases dollar : '$' ∈ value
      · rw [if_pos dollar] at read
        cases expanded : Expansion.expand store.get? value with
        | error fault =>
            rw [expanded] at read
            have refused := load_of_readLine_error process found lines read
            exact ⟨by simp [refused, dollar], fun loaded => absurd loaded refused⟩
        | ok text' =>
            rw [expanded] at read
            obtain ⟨accepted, stored⟩ := load_of_readLine process found lines read
            exact ⟨by simp [accepted], fun _ absent =>
              ⟨text', stored absent, fun _ => rfl, fun without => absurd dollar without⟩⟩
      · rw [if_neg dollar] at read
        obtain ⟨accepted, stored⟩ := load_of_readLine process found lines read
        exact ⟨by simp [accepted, dollar], fun _ absent =>
          ⟨text, stored absent, fun within => absurd within dollar, fun _ => rfl⟩⟩

end Assignment

/-- Loading a file with one assignment takes both readers: the value has to be accepted under the
plain rules, and by the expansion as well if it holds a dollar. A variable that was not set then has
the text of the expansion, or the plain one where there is no dollar. So a value on which the
readers stay together loads exactly if it can be expanded, and the variable has the text of the
expansion, with or without a dollar. -/
theorem load_assignment (fs : FileSystem) (process : ProcessEnvironment)
    (store : EnvironmentStore) (path : String) {key ending : String} {value : List Char}
    (named : Quoted.isKey key) (isValue : Quoted.IsValue value) (oneLine : '\n' ∉ value)
    (ends : ending = "" ∨ ending = "\n")
    (found : fs.readText path = .ok (key ++ "=" ++ String.ofList value ++ ending)) :
    let loaded := load fs process store path
    let decoded := Value.decode (fun _ => none) value
    let expanded := Expansion.expand store.get? value
    ((∃ count, loaded.1 = .ok count) ↔
      (∃ text, decoded = .ok text) ∧ ('$' ∈ value → ∃ text, expanded = .ok text)) ∧
    ((∃ count, loaded.1 = .ok count) → store.get? key = none →
      ∃ text, loaded.2.get? key = some (String.ofList text) ∧
        ('$' ∈ value → expanded = .ok text) ∧ ('$' ∉ value → decoded = .ok text)) ∧
    (Value.steady .bare value →
      ((∃ count, loaded.1 = .ok count) ↔ ∃ text, expanded = .ok text) ∧
      ∀ text, expanded = .ok text → store.get? key = none →
        loaded.2.get? key = some (String.ofList text)) := by
  intro loaded decoded expanded
  have agree : Value.steady .bare value → Agree ('$' ∉ value) decoded expanded :=
    Value.agree_expand
  obtain ⟨loads, stores⟩ := load_assignment_cases process named isValue oneLine ends found
  refine ⟨loads, stores, fun steadily => ?_⟩
  have both := (agree steadily).accepted
  have loads' : (∃ count, loaded.1 = .ok count) ↔ ∃ text, expanded = .ok text :=
    ⟨fun accepted => both.mp (loads.mp accepted).1,
      fun accepted => loads.mpr ⟨both.mpr accepted, fun _ => accepted⟩⟩
  refine ⟨loads', fun text expands absent => ?_⟩
  obtain ⟨text', stored, within, without⟩ := stores (loads'.mpr ⟨text, expands⟩) absent
  suffices same : text' = text by rw [← same]; exact stored
  by_cases dollar : '$' ∈ value
  · exact Except.ok.inj ((within dollar).symm.trans expands)
  · have decodes : decoded = .ok text' := without dollar
    have agreed := agree steadily
    rw [decodes, expands] at agreed
    exact agreed dollar

/-- A file whose one value is in double quotes, with a reference that a blank follows. -/
def spacedReference : FileSystem where
  entries := [(["a.env"], .file "K=\"$A b\"\n".toUTF8 0o644)]
  current := []

/-- A file whose one value is in double quotes, with a reference that the closing quote follows. -/
def closingReference : FileSystem where
  entries := [(["a.env"], .file "K=\"$A\"\n".toUTF8 0o644)]
  current := []

/-- The blank after the name is literal in double quotes, for both readers. -/
theorem load_assignment_spaced :
    let store := EnvironmentStore.ofList [("A", "1")]
    Quoted.isKey "K" ∧ Quoted.IsValue "\"$A b\"".toList ∧ '\n' ∉ "\"$A b\"".toList ∧
    spacedReference.readText "a.env" = .ok "K=\"$A b\"\n" ∧
    Value.steady .bare "\"$A b\"".toList ∧ store.get? "K" = none ∧
    (∃ count, (load spacedReference [] store "a.env").1 = .ok count) ∧
    (load spacedReference [] store "a.env").2.get? "K" = some "1 b" := by
  intro store
  have named : Quoted.isKey "K" := by decide
  have isValue : Quoted.IsValue "\"$A b\"".toList := ⟨by decide, by decide, by decide⟩
  have oneLine : '\n' ∉ "\"$A b\"".toList := by decide
  have found : spacedReference.readText "a.env" = .ok "K=\"$A b\"\n" := by decide +kernel
  have steadily : Value.steady .bare "\"$A b\"".toList := by decide +kernel
  have absent : store.get? "K" = none := by decide +kernel
  have expands : Expansion.expand store.get? "\"$A b\"".toList = .ok "1 b".toList := by
    decide +kernel
  have ends : "\n" = "" ∨ "\n" = "\n" := .inr rfl
  obtain ⟨-, -, together⟩ :=
    load_assignment spacedReference [] store "a.env" named isValue oneLine ends found
  obtain ⟨loads, stored⟩ := together steadily
  exact ⟨named, isValue, oneLine, found, steadily, absent, loads.mpr ⟨_, expands⟩,
    stored _ expands absent⟩

/-- The closing quote after the name is literal under the plain rules, so a value that can be
expanded is refused. -/
theorem load_closingReference :
    let store := EnvironmentStore.ofList [("A", "1")]
    closingReference.readText "a.env" = .ok "K=\"$A\"\n" ∧
    Expansion.expand store.get? "\"$A\"".toList = .ok "1".toList ∧
    ¬ ∃ count, (load closingReference [] store "a.env").1 = .ok count := by
  intro store
  have found : closingReference.readText "a.env" = .ok "K=\"$A\"\n" := by decide +kernel
  have expands : Expansion.expand store.get? "\"$A\"".toList = .ok "1".toList := by decide +kernel
  have refused : (load closingReference [] store "a.env").1.toOption = none := by decide +kernel
  refine ⟨found, expands, ?_⟩
  rintro ⟨count, accepted⟩
  rw [accepted] at refused
  cases refused

end Packfile.Dotenv
