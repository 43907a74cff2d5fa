import Packfile.Template.Error
import Packfile.Text.Blank
import Packfile.Text.Lines

/-!
# Tokens of an action

The inside of an action is a sequence of operands and names with blanks around them. An operand is
a chain of fields such as `.Env.HOME`, the bare dot, a text in double quotes with the escapes `\n`,
`\t`, `\\` and `\"`, or a text in backquotes, which is literal.
-/

namespace Packfile.Template

/-- What a command can work on. -/
inductive Operand where
  /-- A chain of fields; the empty chain is the bare dot. -/
  | field (path : List String)
  | text (value : String)
  deriving DecidableEq, Repr

/-- A token of an action. -/
inductive Token where
  | operand (operand : Operand)
  | name (name : String)
  deriving DecidableEq, Repr

namespace Token

/-- The name that a token is, if it is one. -/
def name? : Token → Option String
  | .name text => some text
  | .operand _ => none

/-- A character that starts a name. -/
def isNameStart (c : Char) : Bool :=
  c.isAlpha || c = '_'

/-- A character of a name. -/
def isNameChar (c : Char) : Bool :=
  c.isAlphanum || c = '_'

/-- The character that an escape in a quoted text stands for. -/
def unescape (c : Char) : Option Char :=
  if c = 'n' then some '\n'
  else if c = 't' then some '\t'
  else if c = '\\' || c = '"' then some c
  else none

/-- A quoted text after its opening quote, and what follows the closing one. -/
def quotedText : List Char → Except ParseFault (List Char × List Char)
  | [] => .error .unterminatedString
  | '"' :: rest => .ok ([], rest)
  | '\\' :: rest =>
    match rest with
    | [] => .error .unterminatedString
    | c :: more =>
      match unescape c with
      | some d => (fun (text, after) => (d :: text, after)) <$> quotedText more
      | none => .error (.invalidEscape c)
  | c :: rest => (fun (text, after) => (c :: text, after)) <$> quotedText rest

/-- A raw text after its opening backquote, and what follows the closing one. -/
def rawText (s : List Char) : Except ParseFault (List Char × List Char) :=
  match Text.splitAtFirst '\x60' s with
  | some found => .ok found
  | none => .error .unterminatedRawString

/-- A chain of fields after its first dot, and what follows it. `body` is the whole action, for
messages; `known` holds the fields before this dot. -/
def fieldPath (body : String) (known : List String) (s : List Char) :
    Except ParseFault (List String × List Char) :=
  let name := s.takeWhile isNameChar
  let after := s.dropWhile isNameChar
  if name.isEmpty then
    -- the bare dot stands alone
    if known.isEmpty && after.head?.all Text.isBlank then .ok ([], after)
    else .error (.badFieldReference body)
  else if !name.head?.all isNameStart then .error (.badFieldName (String.ofList name))
  else
    match h : after with
    | '.' :: more =>
      have : more.length < s.length :=
        Nat.lt_of_lt_of_le (by rw [show s.dropWhile isNameChar = _ from h]; simp)
          (List.dropWhile_suffix isNameChar).length_le
      fieldPath body (known ++ [String.ofList name]) more
    | other => .ok (known ++ [String.ofList name], other)
  termination_by s.length

theorem length_quotedText {s text after : List Char} (h : quotedText s = .ok (text, after)) :
    after.length < s.length := by
  fun_induction quotedText s generalizing text with
  | case1 => simp at h
  | case2 rest => cases h; simp
  | case3 => simp at h
  | case4 c more d hd ih =>
    cases hq : quotedText more with
    | error e => rw [hq] at h; cases h
    | ok found =>
      rw [hq] at h; cases h
      have := ih hq
      simp only [List.length_cons]; omega
  | case5 => simp at h
  | case6 c rest _ _ ih =>
    cases hq : quotedText rest with
    | error e => rw [hq] at h; cases h
    | ok found =>
      rw [hq] at h; cases h
      have := ih hq
      simp only [List.length_cons]; omega

theorem length_rawText {s text after : List Char} (h : rawText s = .ok (text, after)) :
    after.length < s.length := by
  have shorter : ∀ {s text after : List Char}, Text.splitAtFirst '\x60' s = some (text, after) →
      after.length < s.length := by
    intro s
    induction s with
    | nil => intro _ _ h; simp [Text.splitAtFirst] at h
    | cons c rest ih =>
      intro _ _ h
      simp only [Text.splitAtFirst] at h
      split at h
      · cases h; simp
      · obtain ⟨⟨_, _⟩, hb, e⟩ := Option.map_eq_some_iff.1 h
        cases e
        exact Nat.lt_succ_of_lt (ih hb)
  simp only [rawText] at h
  split at h
  · next found e => cases h; exact shorter e
  · cases h

theorem length_fieldPath {body : String} {known path : List String} {s after : List Char}
    (h : fieldPath body known s = .ok (path, after)) : after.length ≤ s.length := by
  have shorter := (List.dropWhile_suffix isNameChar (l := s)).length_le
  fun_induction fieldPath body known s with
  | case1 => simp only [Except.ok.injEq, Prod.mk.injEq] at h; exact h.2 ▸ shorter
  | case2 => cases h
  | case3 => cases h
  | case4 known s name after' h1 h2 more e lt ih =>
    have := ih h (List.dropWhile_suffix isNameChar).length_le
    omega
  | case5 => simp only [Except.ok.injEq, Prod.mk.injEq] at h; exact h.2 ▸ shorter

/-- The tokens of an action. -/
def tokens (body : String) (s : List Char) : Except ParseFault (List Token) :=
  match s with
  | [] => .ok []
  | c :: rest =>
    if Text.isBlank c then tokens body rest
    else if c = '.' then
      match h : fieldPath body [] rest with
      | .error e => .error e
      | .ok (path, after) =>
        have := length_fieldPath h
        (.operand (.field path) :: ·) <$> tokens body after
    else if c = '"' then
      match h : quotedText rest with
      | .error e => .error e
      | .ok (text, after) =>
        have := length_quotedText h
        (.operand (.text (String.ofList text)) :: ·) <$> tokens body after
    else if c = '\x60' then
      match h : rawText rest with
      | .error e => .error e
      | .ok (text, after) =>
        have := length_rawText h
        (.operand (.text (String.ofList text)) :: ·) <$> tokens body after
    else if isNameStart c then
      have := (List.dropWhile_suffix isNameChar (l := rest)).length_le
      (.name (String.ofList (c :: rest.takeWhile isNameChar)) :: ·)
        <$> tokens body (rest.dropWhile isNameChar)
    else .error (.unexpectedCharacter c)
  termination_by s.length
  decreasing_by all_goals simp_all only [List.length_cons]; omega

end Token

end Packfile.Template
