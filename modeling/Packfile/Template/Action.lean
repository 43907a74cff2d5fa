import Packfile.Template.Command

/-!
# Where actions begin and end

An action opens with two braces. If a comment follows, perhaps after a marker and blanks, the
action ends at the first end of a comment that is followed by two closing braces, with blanks and a
marker allowed between. Otherwise it ends at the first two closing braces outside quoted and raw
texts. Braces that open no action belong to the text.
-/

namespace Packfile.Template

/-- What surrounds a character inside an action. -/
inductive Surrounding where
  | plain
  | quoted
  /-- After a backslash in a quoted text. -/
  | escaped
  | raw
  deriving DecidableEq, Repr

/-- Puts a character in front of the first part. -/
def push (c : Char) (found : List Char × List Char) : List Char × List Char :=
  (c :: found.1, found.2)

/-- What follows the closing braces, if the text begins with them. -/
def afterClosing? : List Char → Option (List Char)
  | '}' :: '}' :: rest => some rest
  | _ => none

/-- The inside of an action up to its closing braces, and what follows them. -/
def untilClosing : Surrounding → List Char → Option (List Char × List Char)
  | _, [] => none
  | .plain, c :: rest =>
    match afterClosing? (c :: rest) with
    | some after => some ([], after)
    | none =>
      if c = '"' then push c <$> untilClosing .quoted rest
      else if c = '\x60' then push c <$> untilClosing .raw rest
      else push c <$> untilClosing .plain rest
  | .quoted, c :: rest =>
    if c = '"' then push c <$> untilClosing .plain rest
    else if c = '\\' then push c <$> untilClosing .escaped rest
    else push c <$> untilClosing .quoted rest
  | .escaped, c :: rest => push c <$> untilClosing .quoted rest
  | .raw, c :: rest =>
    if c = '\x60' then push c <$> untilClosing .plain rest
    else push c <$> untilClosing .raw rest

/-- A marker at the front of a text, if there is one, and the rest. -/
def marker : List Char → List Char × List Char
  | '-' :: rest => (['-'], rest)
  | other => ([], other)

/-- After the end of a comment: blanks and a marker, and what follows the closing braces. -/
def commentTail? (s : List Char) : Option (List Char × List Char) :=
  let unblanked := s.dropWhile Text.isBlank
  (afterClosing? (marker unblanked).2).map fun after =>
    (s.takeWhile Text.isBlank ++ (marker unblanked).1, after)

/-- The rest of a comment action, from inside the comment, and what follows its closing braces. -/
def untilCommentClosing : List Char → Option (List Char × List Char)
  | [] => none
  | c :: rest =>
    let ending :=
      match c, rest with
      | '*', '/' :: more => (commentTail? more).map fun (tail, after) => ('*' :: '/' :: tail, after)
      | _, _ => none
    match ending with
    | some found => some found
    | none => push c <$> untilCommentClosing rest

/-- The marker, blanks and comment opening that a comment action begins with, and the rest. -/
def commentOpening? (s : List Char) : Option (List Char × List Char) :=
  let unmarked := (marker s).2
  match unmarked.dropWhile Text.isBlank with
  | '/' :: '*' :: rest =>
    some ((marker s).1 ++ unmarked.takeWhile Text.isBlank ++ ['/', '*'], rest)
  | _ => none

/-- The inside of an action after its opening braces, and what follows its closing ones. -/
def inside? (s : List Char) : Option (List Char × List Char) :=
  let comment :=
    match commentOpening? s with
    | some (opening, rest) =>
      (untilCommentClosing rest).map fun (inside, after) => (opening ++ inside, after)
    | none => none
  match comment with
  | some found => some found
  | none => untilClosing .plain s

/-- The inside of an action that begins with the second opening brace. -/
def insideBrace? : List Char → Option (List Char × List Char)
  | '{' :: rest => inside? rest
  | _ => none

/-- The text before the first action, and that action's inside with what follows it. -/
def firstAction : List Char → List Char × Option (List Char × List Char)
  | [] => ([], none)
  | c :: rest =>
    match if c = '{' then insideBrace? rest else none with
    | some found => ([], some found)
    | none =>
      let (text, found) := firstAction rest
      (c :: text, found)

theorem length_afterClosing? {s after : List Char} (h : afterClosing? s = some after) :
    after.length < s.length := by
  unfold afterClosing? at h
  split at h
  · cases h; simp only [List.length_cons]; omega
  · cases h

theorem length_untilClosing {mode : Surrounding} {s inside after : List Char}
    (h : untilClosing mode s = some (inside, after)) : after.length < s.length := by
  induction s generalizing mode inside with
  | nil => simp [untilClosing] at h
  | cons c rest ih =>
    have step : ∀ {mode}, push c <$> untilClosing mode rest = some (inside, after) →
        after.length < (c :: rest).length := by
      intro mode h
      obtain ⟨⟨i, a⟩, hi, e⟩ := Option.map_eq_some_iff.1 h
      cases e
      exact Nat.lt_succ_of_lt (ih hi)
    cases mode with
    | plain =>
      simp only [untilClosing] at h
      split at h
      · next after' e => cases h; exact length_afterClosing? e
      · split at h
        · exact step h
        · split at h <;> exact step h
    | quoted =>
      simp only [untilClosing] at h
      split at h
      · exact step h
      · split at h <;> exact step h
    | escaped => exact step h
    | raw =>
      simp only [untilClosing] at h
      split at h <;> exact step h

theorem length_marker (s : List Char) : (marker s).2.length ≤ s.length := by
  unfold marker
  split <;> simp

theorem length_commentTail? {s tail after : List Char} (h : commentTail? s = some (tail, after)) :
    after.length < s.length := by
  have shorter := (List.dropWhile_suffix Text.isBlank (l := s)).length_le
  have le := length_marker (s.dropWhile Text.isBlank)
  obtain ⟨a, ha, e⟩ := Option.map_eq_some_iff.1 h
  cases e
  have := length_afterClosing? ha
  omega

theorem length_untilCommentClosing {s inside after : List Char}
    (h : untilCommentClosing s = some (inside, after)) : after.length < s.length := by
  induction s generalizing inside with
  | nil => simp [untilCommentClosing] at h
  | cons c rest ih =>
    simp only [untilCommentClosing] at h
    split at h
    · next found e =>
      cases h
      split at e
      · next more =>
        obtain ⟨⟨tail, a⟩, ha, e'⟩ := Option.map_eq_some_iff.1 e
        cases e'
        have := length_commentTail? ha
        simp only [List.length_cons]
        omega
      · cases e
    · obtain ⟨⟨i, a⟩, hi, e⟩ := Option.map_eq_some_iff.1 h
      cases e
      exact Nat.lt_succ_of_lt (ih hi)

theorem length_commentOpening? {s opening rest : List Char}
    (h : commentOpening? s = some (opening, rest)) : rest.length < s.length := by
  have shorter := (List.dropWhile_suffix Text.isBlank (l := (marker s).2)).length_le
  have le := length_marker s
  simp only [commentOpening?] at h
  split at h
  · next r e =>
    cases h
    rw [e] at shorter
    simp only [List.length_cons] at shorter
    omega
  · cases h

theorem length_inside? {s inside after : List Char} (h : inside? s = some (inside, after)) :
    after.length < s.length := by
  simp only [inside?] at h
  split at h
  · next found e =>
    cases h
    split at e
    · next opening rest ho =>
      obtain ⟨⟨i, a⟩, hi, e'⟩ := Option.map_eq_some_iff.1 e
      cases e'
      exact Nat.lt_trans (length_untilCommentClosing hi) (length_commentOpening? ho)
    · cases e
  · exact length_untilClosing h

theorem length_firstAction {s text inside after : List Char}
    (h : firstAction s = (text, some (inside, after))) : after.length < s.length := by
  induction s generalizing text with
  | nil => simp [firstAction] at h
  | cons c rest ih =>
    simp only [firstAction] at h
    split at h
    · next found e =>
      cases h
      split at e
      · unfold insideBrace? at e
        split at e
        · have := length_inside? e
          simp only [List.length_cons]
          omega
        · cases e
      · cases e
    · cases h' : firstAction rest with
      | mk t f =>
        rw [h'] at h
        cases h
        exact Nat.lt_succ_of_lt (ih h')

/-- A template as texts and the insides of the actions after them, and the text after the last. -/
structure Segments where
  actions : List (List Char × List Char)
  tail : List Char
  deriving DecidableEq, Repr

/-- Cuts a template at its actions. -/
def Segments.ofText (s : List Char) : Segments :=
  match h : firstAction s with
  | (text, none) => ⟨[], text⟩
  | (text, some (inside, after)) =>
    have := length_firstAction h
    let others := Segments.ofText after
    ⟨(text, inside) :: others.actions, others.tail⟩
  termination_by s.length

end Packfile.Template
