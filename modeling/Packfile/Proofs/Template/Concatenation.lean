import Packfile.Proofs.Template.Agreement

/-!
# Templates one after the other

What follows a template that can be read does not change where its actions end: the closing braces
of a command were the first ones, and a comment that was left open would have been refused. So the
scanner cuts two templates written one after the other like each of them alone, with the last text
of the first and the first text of the second made into one. Where no marker trims that text and no
braces meet in it, the two templates also resolve to their values one after the other.
-/

namespace Packfile.Template

variable {s t u inside after rest tail : List Char} {c : Char} {context : Context}
variable {actions : List (List Char × List Char)}

/-! ## One action -/

theorem Written.Side.commentTail_back (side : Written.Side) : CommentTail side.back := by
  cases side with
  | padded blanks => exact ⟨blanks, .inl rfl⟩
  | marked gap => exact ⟨gap.toBlanks, .inr rfl⟩

/-- A text in front of closing braces that has none in it is all within the action. -/
theorem exists_of_split {front more : List Char}
    (same : inside ++ '}' :: '}' :: after = front ++ more) (absent : '}' ∉ front) :
    ∃ rest, inside = front ++ rest ∧ more = rest ++ '}' :: '}' :: after := by
  rcases List.append_eq_append_iff.mp same with ⟨beyond, split, braces⟩ | ⟨rest, split, rest'⟩
  · cases beyond with
    | nil => exact ⟨[], by simpa using split.symm, braces.symm⟩
    | cons c beyond =>
        obtain ⟨rfl, -⟩ := List.cons.inj braces
        exact absurd (split ▸ List.mem_append_right inside List.mem_cons_self) absent
  · exact ⟨rest, split, rest'⟩

/-- An action that can be read and begins like a comment ends like one, so the comment is found. -/
theorem untilCommentClosing_of_command {opening : List Char} {command? : Option Command}
    (isOpening : CommentOpening opening)
    (read : (Action.ofInside (opening ++ rest)).command? = .ok command?) (after : List Char) :
    untilCommentClosing (rest ++ '}' :: '}' :: after) ≠ none := by
  have isComment : (Action.ofInside (opening ++ rest)).command? = .ok none := by
    rcases command?_of_opening isOpening rest with same | same | same <;> rw [same] at read
    · exact same
    · cases read
    · cases read
  rcases command?_eq (Action.ofInside (opening ++ rest)) with ⟨comment, body, same⟩ | ⟨-, same⟩
  · rw [isComment] at same
    have ends : ['*', '/'] <:+ comment := by
      rw [← List.isSuffixOf_iff_suffix]
      by_contra unended
      rw [if_neg unended] at same
      cases same
    obtain ⟨text, rfl⟩ := ends
    have filled : (Action.ofInside (opening ++ rest)).body ≠ [] := by simp [body]
    obtain ⟨before, back, split⟩ := exists_sides filled
    have found : commentOpening? (opening ++ rest) = some (opening, rest) :=
      commentOpening?_eq_some.mpr ⟨rfl, isOpening⟩
    rw [split, body, List.append_assoc, List.cons_append, List.cons_append,
      commentOpening?_front] at found
    obtain ⟨-, rfl⟩ := Prod.mk.inj (Option.some.inj found)
    have closed := untilCommentClosing_isSome back.commentTail_back text after
    intro unended
    have whole : text ++ ['*', '/'] ++ back.back ++ '}' :: '}' :: after =
        text ++ '*' :: '/' :: (back.back ++ '}' :: '}' :: after) := by simp
    rw [← whole, unended] at closed
    cases closed
  · rw [isComment] at same
    cases parsed : Command.parse (Action.ofInside (opening ++ rest)).body <;>
      rw [parsed] at same <;> cases same

/-- Where an action that can be read ends does not depend on what follows it. -/
theorem inside?_append {command? : Option Command} (found : inside? s = some (inside, after))
    (read : (Action.ofInside inside).command? = .ok command?) (t : List Char) :
    inside? (s ++ t) = some (inside, after ++ t) := by
  have split := split_of_inside? found
  rcases inside?_cases found with ⟨opening, rest, body, opened, closed, rfl⟩ | ⟨unended, closed⟩
  · exact inside?_of_comment (commentOpening?_append opened t) (untilCommentClosing_append closed t)
  · have refused : commentOpening? s = none := by
      refine Option.eq_none_iff_forall_ne_some.mpr fun ⟨opening, rest⟩ opened => ?_
      obtain ⟨split', isOpening⟩ := commentOpening?_eq_some.mp opened
      have absent : '}' ∉ opening := fun member => (isOpening.inert _ member).1 rfl
      obtain ⟨more, rfl, rfl⟩ := exists_of_split (split.symm.trans split') absent
      exact untilCommentClosing_of_command isOpening read after (unended _ _ opened)
    have brace : '}' ∈ s := by
      rw [split]
      exact List.mem_append_right inside List.mem_cons_self
    rw [inside?_of_not_comment]
    · exact untilClosing_append closed t
    · intro opening rest opened
      rw [commentOpening?_append_eq_none refused brace t] at opened
      cases opened

/-! ## Segments -/

namespace Segments

/-- Segments with a text put in front of the first one. -/
def precede (text : List Char) (segments : Segments) : Segments :=
  match segments.actions with
  | [] => ⟨[], text ++ segments.tail⟩
  | (first, inside) :: others => ⟨(text ++ first, inside) :: others, segments.tail⟩

/-- The segments of two templates one after the other. -/
def append (first second : Segments) : Segments where
  actions := first.actions ++ (second.precede first.tail).actions
  tail := (second.precede first.tail).tail

end Segments

/-- No braces meet where a text is followed by another one. -/
def Apart (s t : List Char) : Prop :=
  ¬ (s.getLast? = some '{' ∧ t.head? = some '{')

theorem Apart.of_suffix (apart : Apart s t) (suffix : u <:+ s) : Apart u t := by
  rintro ⟨last, first⟩
  obtain ⟨front, rfl⟩ := suffix
  refine apart ⟨?_, first⟩
  rw [List.getLast?_append, last]
  rfl

theorem Apart.of_append (apart : Apart s (t ++ u)) : Apart s t := by
  rintro ⟨last, first⟩
  refine apart ⟨last, ?_⟩
  rw [List.head?_append, first]
  rfl

theorem plain_append (plain : ¬ ['{', '{'] <:+: s) (plain' : ¬ ['{', '{'] <:+: t)
    (apart : Apart s t) : ¬ ['{', '{'] <:+: s ++ t := by
  induction s with
  | nil => exact plain'
  | cons c s ih =>
      rw [List.cons_append, List.infix_cons_iff, not_or]
      refine ⟨?_, ih (fun inner => plain (List.infix_cons inner))
        (apart.of_suffix (List.suffix_cons c s))⟩
      intro opened
      obtain ⟨rfl, second⟩ := List.cons_prefix_cons.mp opened
      cases s with
      | nil =>
          refine apart ⟨rfl, ?_⟩
          obtain ⟨more, rfl⟩ := second
          rfl
      | cons d s =>
          obtain ⟨rfl, -⟩ := List.cons_prefix_cons.mp second
          exact ne_brace_of_plain plain rfl

/-- A text in front of a template belongs to the text before its first action. -/
theorem firstAction_append (plain : ¬ ['{', '{'] <:+: s) (apart : Apart s t) :
    firstAction (s ++ t) = (s ++ (firstAction t).1, (firstAction t).2) := by
  induction s with
  | nil => rfl
  | cons c s ih =>
      have unopened : c = '{' → insideBrace? (s ++ t) = none := by
        rintro rfl
        cases s with
        | nil =>
            cases t with
            | nil => rfl
            | cons d t =>
                refine insideBrace?_cons ?_
                rintro rfl
                exact apart ⟨rfl, rfl⟩
        | cons d s => exact insideBrace?_cons (ne_brace_of_plain plain)
      rw [List.cons_append, firstAction_cons unopened,
        ih (fun inner => plain (List.infix_cons inner)) (apart.of_suffix (List.suffix_cons c s))]
      rfl

theorem ofText_precede (plain : ¬ ['{', '{'] <:+: s) (apart : Apart s t) :
    Segments.ofText (s ++ t) = (Segments.ofText t).precede s := by
  have whole := firstAction_append plain apart
  cases first : firstAction t with
  | mk text found =>
      rw [first] at whole
      cases found with
      | none => rw [ofText_of_none whole, ofText_of_none first]; rfl
      | some found => rw [ofText_of_some whole, ofText_of_some first]; rfl

theorem Cut.suffix (cut : Cut s actions tail) : tail <:+ s := by
  rw [← cut.text]
  exact List.suffix_append _ _

/-- Two templates one after the other are cut like each of them alone. -/
theorem Cut.append (cut : Cut s actions tail) (accepted : Accepted actions tail)
    (braces : ¬ ['{', '{', '{'] <:+: s) (apart : Apart s t) :
    Segments.ofText (s ++ t) = (Segments.mk actions tail).append (Segments.ofText t) := by
  induction cut with
  | tail => exact ofText_precede accepted.1 apart
  | @action text inside after tail actions first found later ih =>
      obtain ⟨⟨plain, command?, read⟩, others⟩ := List.forall_mem_cons.mp accepted.2
      have closed : text.getLast? ≠ some '{' := by
        intro last
        obtain ⟨front, rfl⟩ := List.getLast?_eq_some_iff.mp last
        refine braces ⟨front, inside ++ '}' :: '}' :: after, ?_⟩
        simp
      have shorter : after <:+ text ++ '{' :: '{' :: (inside ++ '}' :: '}' :: after) :=
        ⟨text ++ '{' :: '{' :: (inside ++ ['}', '}']), by simp⟩
      have later' := ih ⟨accepted.1, others⟩ (fun inner => braces (inner.trans shorter.isInfix))
        (apart.of_suffix shorter)
      have found' := inside?_append found read t
      have whole : text ++ '{' :: '{' :: (inside ++ '}' :: '}' :: after) ++ t =
          text ++ '{' :: '{' :: (inside ++ '}' :: '}' :: after ++ t) := by simp
      rw [whole, ofText_of_some (firstAction_text plain closed found'), later']
      rfl

/-! ## Rendering -/

theorem render_append_eq_ok {xs ys : List Node} {text : List Char} :
    render context (xs ++ ys) = .ok text ↔
      ∃ a b, render context xs = .ok a ∧ render context ys = .ok b ∧ text = a ++ b := by
  induction xs generalizing text with
  | nil => simp [render]
  | cons x xs ih =>
      simp only [List.cons_append, render, bind_eq_ok, ih]
      constructor
      · rintro ⟨value, first, _, ⟨a, b, later, last, rfl⟩, same⟩
        cases same
        exact ⟨value ++ a, b, ⟨value, first, a, later, rfl⟩, last, by simp⟩
      · rintro ⟨_, b, ⟨value, first, a, later, same⟩, last, rfl⟩
        cases same
        exact ⟨value, first, a ++ b, ⟨a, b, later, last, rfl⟩, by simp [pure, Except.pure]⟩

theorem render_nil_eq_ok {text : List Char} : render context [] = .ok text ↔ text = [] := by
  simp [render, eq_comm]

theorem render_text_eq_ok {text literal : List Char} {others : List Node} :
    render context (.text literal :: others) = .ok text ↔
      ∃ b, render context others = .ok b ∧ text = literal ++ b := by
  simp only [render, Node.render, bind_eq_ok]
  constructor
  · rintro ⟨_, same, b, later, whole⟩
    cases same
    cases whole
    exact ⟨b, later, rfl⟩
  · rintro ⟨b, later, rfl⟩
    exact ⟨literal, rfl, b, later, rfl⟩

/-- A text put in front of segments is put in front of what they render to, unless a marker trims
it. -/
theorem nodes_precede {segments : Segments} {ys : List Node} {text b : List Char}
    (read : nodes segments.tail false segments.actions = .ok ys)
    (rendered : render context ys = .ok b)
    (untrimmed : ∀ action, segments.actions.head? = some action →
      (Action.ofInside action.2).trimsBefore = false)
    (plain : ¬ ['{', '{'] <:+: text) (apart : Apart text segments.text) :
    ∃ zs, nodes (segments.precede text).tail false (segments.precede text).actions = .ok zs ∧
      render context zs = .ok (text ++ b) := by
  obtain ⟨actions, tail⟩ := segments
  cases actions with
  | nil =>
      obtain ⟨plain', rfl⟩ := nodes_nil_eq_ok.mp read
      obtain ⟨_, none, rfl⟩ := render_text_eq_ok.mp rendered
      refine ⟨_, nodes_nil_eq_ok.mpr ⟨plain_append plain plain' apart, rfl⟩, ?_⟩
      exact render_text_eq_ok.mpr ⟨_, none, (List.append_assoc _ _ _).symm⟩
  | cons action actions =>
      obtain ⟨first, inside⟩ := action
      obtain ⟨command?, others, plain', made, later, rfl⟩ := nodes_cons_eq_ok.mp read
      obtain ⟨rest, rendered', rfl⟩ := render_text_eq_ok.mp rendered
      have kept : (Action.ofInside inside).trimsBefore = false := untrimmed _ rfl
      have apart' : Apart text first := by
        simp only [Segments.text, List.flatMap_cons, List.append_assoc] at apart
        exact apart.of_append
      refine ⟨_, nodes_cons_eq_ok.mpr
        ⟨command?, others, plain_append plain plain' apart', made, later, rfl⟩, ?_⟩
      rw [kept]
      exact render_text_eq_ok.mpr ⟨rest, rendered', (List.append_assoc _ _ _).symm⟩

/-- Segments that end in a text which no marker trims go on with what that text goes on with. -/
theorem nodes_append {segments : Segments} {trimsStart : Bool} {xs zs : List Node}
    {a b : List Char} (read : nodes tail trimsStart actions = .ok xs)
    (rendered : render context xs = .ok a)
    (untrimmed : (actions.getLast?.elim trimsStart fun action =>
      (Action.ofInside action.2).trimsAfter) = false)
    (joined : nodes segments.tail false segments.actions = .ok zs)
    (rendered' : render context zs = .ok (tail ++ b)) :
    ∃ ws, nodes segments.tail trimsStart (actions ++ segments.actions) = .ok ws ∧
      render context ws = .ok (a ++ b) := by
  induction actions generalizing trimsStart xs a with
  | nil =>
      obtain rfl : trimsStart = false := untrimmed
      obtain ⟨-, rfl⟩ := nodes_nil_eq_ok.mp read
      obtain ⟨_, none, rfl⟩ := render_text_eq_ok.mp rendered
      obtain rfl := render_nil_eq_ok.mp none
      refine ⟨zs, joined, ?_⟩
      rw [rendered', List.append_nil]
      rfl
  | cons action actions ih =>
      obtain ⟨command?, others, plain, made, later, rfl⟩ := nodes_cons_eq_ok.mp read
      obtain ⟨_, behind, rfl⟩ := render_text_eq_ok.mp rendered
      obtain ⟨value, rest, evaluated, others, rfl⟩ := render_append_eq_ok.mp behind
      have untrimmed' : (actions.getLast?.elim (Action.ofInside action.2).trimsAfter fun action =>
          (Action.ofInside action.2).trimsAfter) = false := by
        rw [List.getLast?_cons] at untrimmed
        cases last : actions.getLast? <;> rw [last] at untrimmed <;> exact untrimmed
      obtain ⟨ws, read', whole⟩ := ih later others untrimmed'
      refine ⟨_, nodes_cons_eq_ok.mpr ⟨command?, ws, plain, made, read', rfl⟩, ?_⟩
      refine render_text_eq_ok.mpr ⟨_, render_append_eq_ok.mpr
        ⟨value, _, evaluated, whole, rfl⟩, ?_⟩
      simp only [List.append_assoc]

theorem resolve_eq_ok {template text : String} :
    resolve context template = .ok text ↔
      ∃ nodes, parse template.toList = .ok nodes ∧ render context nodes = .ok text.toList := by
  unfold resolve
  cases parse template.toList with
  | error fault => simp
  | ok nodes =>
      simp only [Except.ok.injEq, exists_eq_left']
      cases render context nodes with
      | error fault => simp
      | ok chars => simp [String.ext_iff, eq_comm]

/-- Templates resolve one after the other: what follows a template that has a value does not change
how it is read. Where the two meet, no braces may come together, and no marker may trim the text
between the last action of the first template and the first action of the second, comments
included. A text that ends in a brace before an action would give that brace to the action. -/
theorem resolve_append (context : Context) {s t a b : String}
    (first : resolve context s = .ok a) (second : resolve context t = .ok b)
    (braces : ¬ ['{', '{', '{'] <:+: s.toList)
    (apart : ¬ (s.toList.getLast? = some '{' ∧ t.toList.head? = some '{'))
    (right : ∀ action, (Segments.ofText s.toList).actions.getLast? = some action →
      (Action.ofInside action.2).trimsAfter = false)
    (left : ∀ action, (Segments.ofText t.toList).actions.head? = some action →
      (Action.ofInside action.2).trimsBefore = false) :
    resolve context (s ++ t) = .ok (a ++ b) := by
  obtain ⟨xs, readFirst, rendered⟩ := resolve_eq_ok.mp first
  obtain ⟨ys, readSecond, rendered'⟩ := resolve_eq_ok.mp second
  have cut := cut_ofText s.toList
  have accepted := accepted_of_nodes readFirst
  have apart' : Apart (Segments.ofText s.toList).tail (Segments.ofText t.toList).text := by
    rw [text_ofText]
    exact Apart.of_suffix apart cut.suffix
  obtain ⟨zs, joined, follows⟩ := nodes_precede readSecond rendered' left accepted.1 apart'
  have untrimmed : ((Segments.ofText s.toList).actions.getLast?.elim false fun action =>
      (Action.ofInside action.2).trimsAfter) = false := by
    cases last : (Segments.ofText s.toList).actions.getLast? with
    | none => rfl
    | some action => exact right action last
  obtain ⟨ws, read, whole⟩ := nodes_append readFirst rendered untrimmed joined follows
  refine resolve_eq_ok.mpr ⟨ws, ?_, by rw [whole, String.toList_append]⟩
  rw [parse, String.toList_append, cut.append accepted braces apart]
  exact read

/-- The end of a comment in the second template is not taken for that of the comment before it. -/
theorem resolve_append_comment :
    let context : Context := ⟨"prod", EnvironmentStore.empty⟩
    let s := "\x7b\x7b/* a */\x7d\x7d\x7b"
    let t := " */\x7d\x7d\x7b\x7b.Environment.Name -\x7d\x7d "
    resolve context s = .ok "\x7b" ∧ resolve context t = .ok " */\x7d\x7dprod" ∧
      ¬ ['{', '{', '{'] <:+: s.toList ∧ resolve context (s ++ t) = .ok "\x7b */\x7d\x7dprod" := by
  intro context s t
  have first : resolve context s = .ok "\x7b" := by decide +kernel
  have second : resolve context t = .ok " */\x7d\x7dprod" := by decide +kernel
  have braces : ¬ ['{', '{', '{'] <:+: s.toList := by decide +kernel
  have last : (Segments.ofText s.toList).actions.getLast? = some ([], "/* a */".toList) := by
    decide +kernel
  have head : (Segments.ofText t.toList).actions.head? =
      some (" */\x7d\x7d".toList, ".Environment.Name -".toList) := by decide +kernel
  refine ⟨first, second, braces, resolve_append context first second braces ?_ ?_ ?_⟩
  · decide +kernel
  · intro action same
    rw [last] at same
    cases same
    decide +kernel
  · intro action same
    rw [head] at same
    cases same
    decide +kernel

end Packfile.Template
