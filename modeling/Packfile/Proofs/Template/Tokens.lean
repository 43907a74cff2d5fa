import Packfile.Proofs.Template.Scan

/-!
# Reading the commands of a written template

A token is read whole whenever a blank or the end of the action follows it. So the tokens of a
written command are its operands, with the name of the function before them if there is one, and
from these the command is put together.
-/

namespace Packfile.Template

variable {s rest : List Char} {c : Char} {body : String}

namespace Written

/-- The token that is read from a written operand. -/
def Operand.token : Operand → Token
  | .chain names => .operand (.field (names.map fun name => String.ofList name.text))
  | .quoted chars => .operand (.text (String.ofList (chars.map QuotedChar.value)))
  | .raw text _ => .operand (.text (String.ofList text))

theorem Operand.name?_token (written : Operand) : written.token.name? = none := by
  cases written <;> rfl

/-- The command that is read from a written one. -/
def Command.command : Command → Template.Command
  | .operand single => .operand single.token
  | .index _ target keys => .index target.token (keys.map fun key => key.2.token)

end Written

/-- A token may end here: nothing follows or a blank does. -/
def TokenEnds (rest : List Char) : Prop :=
  ∀ c, rest.head? = some c → Text.isBlank c

theorem tokenEnds_nil : TokenEnds [] := by
  intro c head
  cases head

theorem tokenEnds_gap (gap : Written.Gap) (rest : List Char) : TokenEnds (gap.text ++ rest) := by
  obtain ⟨⟨text, blank⟩, nonempty⟩ := gap
  cases text with
  | nil => exact absurd rfl nonempty
  | cons d text =>
      intro c head
      cases head
      exact blank d List.mem_cons_self

theorem takeWhile_isNameChar (name : ∀ c ∈ s, Token.isNameChar c)
    (ends : ∀ c, rest.head? = some c → Token.isNameChar c = false) :
    (s ++ rest).takeWhile Token.isNameChar = s ∧
      (s ++ rest).dropWhile Token.isNameChar = rest := by
  rw [List.takeWhile_append_of_pos name, List.dropWhile_append_of_pos name]
  cases rest with
  | nil => simp
  | cons c rest => simp [ends c rfl]

theorem isNameChar_of_isBlank (blank : Text.isBlank c) : Token.isNameChar c = false := by
  rw [← Bool.not_eq_true]
  intro name
  rw [isBlank_of_isNameChar name] at blank
  cases blank

theorem TokenEnds.isNameChar (ends : TokenEnds rest) :
    ∀ c, rest.head? = some c → Token.isNameChar c = false :=
  fun c head => isNameChar_of_isBlank (ends c head)

namespace Token

/-! ## Quoted and raw texts -/

theorem quotedText_escaped {d : Char} {text after : List Char} (meant : unescape c = some d)
    (read : quotedText rest = .ok (text, after)) :
    quotedText ('\\' :: c :: rest) = .ok (d :: text, after) := by
  simp only [quotedText, meant, read]
  rfl

theorem quotedText_written (chars : List Written.QuotedChar) (rest : List Char) :
    quotedText (chars.flatMap Written.QuotedChar.text ++ '"' :: rest) =
      .ok (chars.map Written.QuotedChar.value, rest) := by
  induction chars with
  | nil => rfl
  | cons char chars ih =>
      rw [List.flatMap_cons, List.append_assoc, List.map_cons]
      cases char with
      | plain c notQuote notBackslash =>
          simp only [Written.QuotedChar.text, List.singleton_append]
          rw [quotedText, ih]
          · rfl
          · exact notQuote
          · exact notBackslash
      | newline => exact quotedText_escaped rfl ih
      | tab => exact quotedText_escaped rfl ih
      | backslash => exact quotedText_escaped rfl ih
      | quote => exact quotedText_escaped rfl ih

theorem rawText_written {text : List Char} (closed : '\x60' ∉ text) (rest : List Char) :
    rawText (text ++ '\x60' :: rest) = .ok (text, rest) := by
  rw [rawText, Text.splitAtFirst_of_not_mem closed]

/-! ## Chains of fields -/

theorem fieldPath_dot (ends : TokenEnds rest) : fieldPath body [] rest = .ok ([], rest) := by
  obtain ⟨taken, dropped⟩ := takeWhile_isNameChar (s := []) (by simp) ends.isNameChar
  rw [List.nil_append] at taken dropped
  have bare : rest.head?.all Text.isBlank := by
    cases rest with
    | nil => rfl
    | cons c rest => exact ends c rfl
  rw [fieldPath]
  simp [taken, dropped, bare]

/-- A name is the last of its chain where a blank follows. -/
theorem fieldPath_last (known : List String) (name : Written.Name) (ends : TokenEnds rest) :
    fieldPath body known (name.text ++ rest) = .ok (known ++ [String.ofList name.text], rest) := by
  obtain ⟨taken, dropped⟩ := takeWhile_isNameChar (fun _ => name.isNameChar) ends.isNameChar
  rw [fieldPath]
  simp only [taken]
  rw [if_neg (by simp [Written.Name.text]), if_neg (by simp [Written.Name.text, name.isNameStart])]
  split
  · next more dot =>
      rw [dropped] at dot
      have blank := ends '.' (by simp [dot])
      exact absurd blank (by decide)
  · rw [dropped]

/-- After a dot the chain goes on. -/
theorem fieldPath_next (known : List String) (name : Written.Name) (rest : List Char) :
    fieldPath body known (name.text ++ '.' :: rest) =
      fieldPath body (known ++ [String.ofList name.text]) rest := by
  have ends : ∀ c, ('.' :: rest).head? = some c → isNameChar c = false := by
    intro c head
    cases head
    decide
  obtain ⟨taken, dropped⟩ := takeWhile_isNameChar (fun _ => name.isNameChar) ends
  rw [fieldPath]
  simp only [taken]
  rw [if_neg (by simp [Written.Name.text]), if_neg (by simp [Written.Name.text, name.isNameStart])]
  split
  · next more dot =>
      rw [dropped] at dot
      cases dot
      rfl
  · next absent => exact absurd dropped (absent rest)

theorem fieldPath_names (known : List String) (name : Written.Name) (names : List Written.Name)
    (ends : TokenEnds rest) :
    fieldPath body known
        (name.text ++ (names.flatMap (fun name => '.' :: name.text) ++ rest)) =
      .ok (known ++ (name :: names).map (fun name => String.ofList name.text), rest) := by
  induction names generalizing known name with
  | nil => exact fieldPath_last known name ends
  | cons next names ih =>
      rw [List.flatMap_cons, List.cons_append, List.cons_append, List.append_assoc,
        fieldPath_next, ih]
      simp

/-! ## Tokens -/

theorem tokens_nil : tokens body [] = .ok [] := by
  rw [tokens]

theorem tokens_blanks (blanks : Written.Blanks) (rest : List Char) :
    tokens body (blanks.text ++ rest) = tokens body rest := by
  obtain ⟨text, blank⟩ := blanks
  induction text with
  | nil => rfl
  | cons c text ih =>
      have first : Text.isBlank c := blank c List.mem_cons_self
      have later := ih fun d member => blank d (List.mem_cons_of_mem _ member)
      rw [List.cons_append, tokens, if_pos first]
      exact later

theorem tokens_field {path : List String} (read : fieldPath body [] s = .ok (path, rest)) :
    tokens body ('.' :: s) = (.operand (.field path) :: ·) <$> tokens body rest := by
  rw [tokens, if_neg (by decide), if_pos rfl]
  split
  · next e refused =>
      rw [read] at refused
      cases refused
  · next path after found =>
      rw [read] at found
      cases found
      rfl

theorem tokens_quoted {text : List Char} (read : quotedText s = .ok (text, rest)) :
    tokens body ('"' :: s) =
      (.operand (.text (String.ofList text)) :: ·) <$> tokens body rest := by
  rw [tokens, if_neg (by decide), if_neg (by decide), if_pos rfl]
  split
  · next e refused =>
      rw [read] at refused
      cases refused
  · next text after found =>
      rw [read] at found
      cases found
      rfl

theorem tokens_raw {text : List Char} (read : rawText s = .ok (text, rest)) :
    tokens body ('\x60' :: s) =
      (.operand (.text (String.ofList text)) :: ·) <$> tokens body rest := by
  rw [tokens, if_neg (by decide), if_neg (by decide), if_neg (by decide), if_pos rfl]
  split
  · next e refused =>
      rw [read] at refused
      cases refused
  · next text after found =>
      rw [read] at found
      cases found
      rfl

/-- A written operand is read whole where a blank or nothing follows. -/
theorem tokens_operand (operand : Written.Operand) (ends : TokenEnds rest) :
    tokens body (operand.text ++ rest) =
      (operand.token :: ·) <$> tokens body rest := by
  cases operand with
  | chain names =>
      cases names with
      | nil => exact tokens_field (fieldPath_dot ends)
      | cons name names =>
          have written : (Written.Operand.chain (name :: names)).text ++ rest =
              '.' :: (name.text ++ (names.flatMap (fun name => '.' :: name.text) ++ rest)) := by
            simp [Written.Operand.text]
          rw [written]
          exact tokens_field (fieldPath_names [] name names ends)
  | quoted chars =>
      have written : (Written.Operand.quoted chars).text ++ rest =
          '"' :: (chars.flatMap Written.QuotedChar.text ++ '"' :: rest) := by
        simp [Written.Operand.text]
      rw [written]
      exact tokens_quoted (quotedText_written chars rest)
  | raw text closed =>
      have written : (Written.Operand.raw text closed).text ++ rest =
          '\x60' :: (text ++ '\x60' :: rest) := by
        simp [Written.Operand.text]
      rw [written]
      exact tokens_raw (rawText_written closed rest)

/-- The name of the one function. -/
theorem tokens_index (ends : TokenEnds rest) :
    tokens body (['i', 'n', 'd', 'e', 'x'] ++ rest) =
      (.name "index" :: ·) <$> tokens body rest := by
  have name : ∀ c ∈ ['n', 'd', 'e', 'x'], isNameChar c := fun c member =>
    isNameChar_index c (List.mem_cons_of_mem _ member)
  obtain ⟨taken, dropped⟩ := takeWhile_isNameChar name ends.isNameChar
  rw [List.cons_append, tokens, if_neg (by decide), if_neg (by decide), if_neg (by decide),
    if_neg (by decide), if_pos (by decide), taken, dropped]

theorem tokenEnds_keys (keys : List (Written.Gap × Written.Operand)) :
    TokenEnds (keys.flatMap fun key => key.1.text ++ key.2.text) := by
  cases keys with
  | nil => exact tokenEnds_nil
  | cons key keys =>
      rw [List.flatMap_cons, List.append_assoc]
      exact tokenEnds_gap key.1 _

/-- Keys of an index, each after its blanks. -/
theorem tokens_keys (keys : List (Written.Gap × Written.Operand)) :
    tokens body (keys.flatMap fun key => key.1.text ++ key.2.text) =
      .ok (keys.map fun key => key.2.token) := by
  induction keys with
  | nil => exact tokens_nil
  | cons key keys ih =>
      rw [List.flatMap_cons, List.append_assoc, tokens_blanks,
        tokens_operand key.2 (tokenEnds_keys keys), ih]
      rfl

end Token

/-! ## Commands -/

theorem ofTokens_index (body : String) {target : Token} {keys : List Token}
    (nameless : ∀ token ∈ target :: keys, token.name? = none) :
    Command.ofTokens body (.name "index" :: target :: keys) = .ok (.index target keys) := by
  simp only [Command.ofTokens, if_true, List.findSome?_eq_none_iff.mpr nameless]

/-- Reading a written command gives the command that is meant. -/
theorem parse_written (command : Written.Command) :
    Command.parse command.text = .ok command.command := by
  cases command with
  | operand operand =>
      have read (body : String) : Token.tokens body operand.text = .ok [operand.token] := by
        rw [← List.append_nil operand.text, Token.tokens_operand operand tokenEnds_nil,
          Token.tokens_nil]
        rfl
      simp only [Command.parse, Written.Command.text, read]
      cases operand <;> rfl
  | index gap target keys =>
      have read (body : String) : Token.tokens body (Written.Command.index gap target keys).text =
          .ok (.name "index" :: target.token :: keys.map fun key => key.2.token) := by
        rw [Written.Command.text, List.append_assoc, List.append_assoc,
          Token.tokens_index (tokenEnds_gap gap _), Token.tokens_blanks,
          Token.tokens_operand target (Token.tokenEnds_keys keys), Token.tokens_keys]
        rfl
      have nameless : ∀ token ∈ target.token :: keys.map fun key => key.2.token,
          token.name? = none := by
        rw [List.forall_mem_cons, List.forall_mem_map]
        exact ⟨target.name?_token, fun key _ => key.2.name?_token⟩
      simp only [Command.parse, read]
      exact ofTokens_index (String.ofList (Written.Command.index gap target keys).text) nameless

end Packfile.Template
