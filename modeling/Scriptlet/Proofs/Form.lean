import Scriptlet.Engine
import Scriptlet.Proofs.Likeness.Running
import Scriptlet.Proofs.Printing
import Scriptlet.Proofs.Scanning.Written
import Scriptlet.Proofs.Stages

/-!
# The prefix form determines the program

A prefix form neither escapes texts nor tells prefix operators from infix ones, so it does not
determine a tree that was built by hand. For trees that sources spell it does, up to lines. Forms
can be read from the left: a form starts with a parenthesis unless it is a literal's; the word
behind the parenthesis ends at the first space; a text ends at the next quotation mark; and any
other literal ends before a space or a parenthesis. So if two forms start one text, and a space, a
closing parenthesis or nothing follows each of them, then the trees are alike and nothing is left
over. The induction is over the first tree; an operator that can take one operand or two shows by
what follows the first.
-/

namespace Scriptlet

namespace Expr

theorem form_literal (value : Option Value) (line : Int) :
    (literal value line).form = literalForm value := by
  rw [form_eq_bracketed]
  cases value <;> rfl

theorem form_group_append (inner : Expr) (rest : Text) :
    (group inner).form ++ rest =
      byte '(' :: (text "group" ++ byte ' ' :: (inner.form ++ byte ')' :: rest)) := by
  simp only [form_eq_bracketed, bracketed, List.append_assoc]
  rfl

theorem form_unary_append (operator : Token) (operand : Expr) (rest : Text) :
    (unary operator operand).form ++ rest =
      byte '(' :: (operator.lexeme ++ byte ' ' :: (operand.form ++ byte ')' :: rest)) := by
  simp only [form_eq_bracketed, bracketed, List.append_assoc]
  rfl

theorem form_binary_append (left : Expr) (operator : Token) (right : Expr) (rest : Text) :
    (binary left operator right).form ++ rest =
      byte '(' :: (operator.lexeme ++
        byte ' ' :: (left.form ++ byte ' ' :: (right.form ++ byte ')' :: rest))) := by
  simp only [form_eq_bracketed, bracketed, List.append_assoc]
  rfl

end Expr

/-- What follows a form inside another one: nothing, a space or a closing parenthesis. -/
def Text.Stops (rest : Text) : Prop :=
  ∀ first more, rest = first :: more → first = byte ' ' ∨ first = byte ')'

theorem Text.stops_space (rest : Text) : Stops (byte ' ' :: rest) := by
  rintro first more ⟨⟩
  exact .inl rfl

theorem Text.stops_paren (rest : Text) : Stops (byte ')' :: rest) := by
  rintro first more ⟨⟩
  exact .inr rfl

/-- A word is known by where it ends. -/
theorem Text.append_inj_of_ends {ends : UInt8 → Prop} {front other rest otherRest : Text}
    (free : ∀ item ∈ front, ¬ends item) (otherFree : ∀ item ∈ other, ¬ends item)
    (stops : ∀ first more, rest = first :: more → ends first)
    (otherStops : ∀ first more, otherRest = first :: more → ends first)
    (same : front ++ rest = other ++ otherRest) : front = other ∧ rest = otherRest := by
  induction front generalizing other with
  | nil =>
      cases other with
      | nil => exact ⟨rfl, same⟩
      | cons first more => exact absurd (stops _ _ same) (otherFree first (.head more))
  | cons item front ih =>
      cases other with
      | nil => exact absurd (otherStops _ _ same.symm) (free item (.head front))
      | cons first more =>
          rw [List.cons_append, List.cons_append] at same
          rcases List.cons.inj same with ⟨rfl, later⟩
          rw [List.forall_mem_cons] at free otherFree
          rcases ih free.2 otherFree.2 later with ⟨rfl, rests⟩
          exact ⟨rfl, rests⟩

theorem Text.append_inj_of_not_mem {mark : UInt8} {front other rest otherRest : Text}
    (free : mark ∉ front) (otherFree : mark ∉ other)
    (same : front ++ mark :: rest = other ++ mark :: otherRest) :
    front = other ∧ rest = otherRest := by
  have plain {word : Text} (free : mark ∉ word) : ∀ item ∈ word, ¬item = mark := by
    rintro item member rfl
    exact free member
  have ends (rest : Text) : ∀ first more, mark :: rest = first :: more → first = mark := by
    rintro first more ⟨⟩
    rfl
  rcases append_inj_of_ends (plain free) (plain otherFree) (ends rest) (ends otherRest) same
    with ⟨fronts, rests⟩
  exact ⟨fronts, (List.cons.inj rests).2⟩

theorem nodup_vocabulary : (vocabulary.map Prod.snd).Nodup := by
  decide +kernel

theorem text_of_mem_vocabulary :
    ∀ entry ∈ vocabulary, byte ' ' ∉ text entry.2 ∧ text entry.2 ≠ text "group" := by
  decide +kernel

namespace Token.IsWord

theorem space_not_mem {token : Token} (isWord : token.IsWord) : byte ' ' ∉ token.lexeme := by
  rcases isWord with ⟨spelling, known, lexeme, -⟩
  rw [lexeme]
  exact (text_of_mem_vocabulary _ known).1

theorem lexeme_ne_group {token : Token} (isWord : token.IsWord) :
    token.lexeme ≠ Scriptlet.text "group" := by
  rcases isWord with ⟨spelling, known, lexeme, -⟩
  rw [lexeme]
  exact (text_of_mem_vocabulary _ known).2

theorem upToLines {token other : Token} (isWord : token.IsWord) (otherIsWord : other.IsWord)
    (same : token.lexeme = other.lexeme) : Likeness.upToLines.token token other := by
  rcases isWord with ⟨spelling, known, lexeme, literal⟩
  rcases otherIsWord with ⟨otherSpelling, otherKnown, otherLexeme, otherLiteral⟩
  have sameSpelling : spelling = otherSpelling := by
    apply text_injective
    rw [← lexeme, ← otherLexeme, same]
  have sameEntry := List.inj_on_of_nodup_map nodup_vocabulary known otherKnown sameSpelling
  exact ⟨congrArg Prod.fst sameEntry, same, literal.trans otherLiteral.symm⟩

end Token.IsWord

/-- The bytes that delimit the parts of a form. -/
def Text.Delimits (item : UInt8) : Prop :=
  item ∈ [byte ' ', byte '(', byte ')', byte '"']

instance (item : UInt8) : Decidable (Text.Delimits item) :=
  inferInstanceAs (Decidable (_ ∈ _))

theorem Text.Stops.delimits {rest : Text} (stops : Stops rest) :
    ∀ first more, rest = first :: more → Delimits first := by
  intro first more same
  rcases stops first more same with rfl | rfl <;> decide

theorem Number.Unsigned.not_delimits {number : Number} (unsigned : number.Unsigned) :
    number.text ≠ [] ∧ ∀ item ∈ number.text, ¬Text.Delimits item := by
  rcases unsigned.text_cases with ⟨-, spelled⟩ | ⟨decimal, plain, -⟩
  · rw [spelled]
    decide +kernel
  · rcases plain.exists_cons with ⟨first, rest, spelled, -⟩
    refine ⟨by simp [spelled], ?_⟩
    intro item member delimits
    have others : ∀ delimiter ∈ [byte ' ', byte '(', byte ')', byte '"'],
        Numeral.isDigit delimiter = false ∧ delimiter ≠ byte '.' := by decide +kernel
    exact plain.not_mem (others item delimits).1 (others item delimits).2 member

theorem Number.Unsigned.text_ne {number : Number} (unsigned : number.Unsigned) {first : UInt8}
    {rest : Text} (noDigit : Numeral.isDigit first = false)
    (other : first :: rest ≠ Scriptlet.text "inf") : number.text ≠ first :: rest := by
  intro same
  rcases unsigned.text_cases with ⟨-, spelled⟩ | ⟨decimal, plain, -⟩
  · exact other (same.symm.trans spelled)
  · rcases plain.exists_cons with ⟨digit, digits, spelled, isDigit⟩
    rw [same] at spelled
    cases spelled
    rw [noDigit] at isDigit
    cases isDigit

namespace Value

/-- Literals that are written without quotation marks. -/
inductive Bare : Value → Prop where
  | nil : Bare .nil
  | bool (truth : Bool) : Bare (.bool truth)
  | number {amount : Number} (unsigned : amount.Unsigned) : Bare (.number amount)

theorem Written.cases_bare {value : Value} (written : value.Written) :
    value.Bare ∨ ∃ content, byte '"' ∉ content ∧ value = .string content := by
  cases written with
  | nil => exact .inl .nil
  | bool truth => exact .inl (.bool truth)
  | number unsigned => exact .inl (.number unsigned)
  | string unquoted => exact .inr ⟨_, unquoted, rfl⟩

theorem Bare.not_delimits {value : Value} (bare : value.Bare) :
    value.inspect ≠ [] ∧ ∀ item ∈ value.inspect, ¬Text.Delimits item := by
  cases bare with
  | nil => decide +kernel
  | bool truth => cases truth <;> decide +kernel
  | number unsigned => exact unsigned.not_delimits

theorem Bare.inspect_injective {value other : Value} (bare : value.Bare) (otherBare : other.Bare)
    (same : value.inspect = other.inspect) : value = other := by
  have distinct {number : Number} (unsigned : number.Unsigned) :
      number.text ≠ Scriptlet.text "nil" ∧ ∀ truth, number.text ≠ Value.text (.bool truth) := by
    refine ⟨unsigned.text_ne (by decide) (by decide), ?_⟩
    rintro (_ | _)
    · exact unsigned.text_ne (by decide) (by decide)
    · exact unsigned.text_ne (by decide) (by decide)
  cases bare with
  | nil =>
      cases otherBare with
      | nil => rfl
      | bool truth => cases truth <;> cases same
      | number unsigned => exact absurd same.symm (distinct unsigned).1
  | bool truth =>
      cases otherBare with
      | nil => cases truth <;> cases same
      | bool otherTruth => cases truth <;> cases otherTruth <;> first | rfl | cases same
      | number unsigned => exact absurd same.symm ((distinct unsigned).2 truth)
  | number unsigned =>
      cases otherBare with
      | nil => exact absurd same (distinct unsigned).1
      | bool truth => exact absurd same ((distinct unsigned).2 truth)
      | number otherUnsigned => rw [Number.text_injective same]

/-- A literal does not start like a composed form. -/
theorem Written.exists_cons {value : Value} (written : value.Written) :
    ∃ first more, value.inspect = first :: more ∧ first ≠ byte '(' := by
  rcases written.cases_bare with bare | ⟨content, -, rfl⟩
  · rcases List.exists_cons_of_ne_nil bare.not_delimits.1 with ⟨first, more, spelled⟩
    refine ⟨first, more, spelled, ?_⟩
    rintro rfl
    exact bare.not_delimits.2 (byte '(') (by simp [spelled]) (by decide)
  · exact ⟨byte '"', _, rfl, by decide⟩

/-- A literal's form is known by where it ends. -/
theorem Written.append_inj {value other : Value} (written : value.Written)
    (otherWritten : other.Written) {rest otherRest : Text} (stops : rest.Stops)
    (otherStops : otherRest.Stops) (same : value.inspect ++ rest = other.inspect ++ otherRest) :
    value = other ∧ rest = otherRest := by
  -- A bare literal cannot start with the quotation mark of a text.
  have unlike {bare : Value} (isBare : bare.Bare) (content rest otherRest : Text) :
      bare.inspect ++ rest ≠ Value.inspect (.string content) ++ otherRest := by
    intro same
    rcases List.exists_cons_of_ne_nil isBare.not_delimits.1 with ⟨first, more, spelled⟩
    rw [spelled] at same
    have quote : first = byte '"' := (List.cons.inj same).1
    exact isBare.not_delimits.2 first (by simp [spelled]) (by rw [quote]; decide)
  rcases written.cases_bare with bare | ⟨content, unquoted, rfl⟩
  · rcases otherWritten.cases_bare with otherBare | ⟨otherContent, -, rfl⟩
    · rcases Text.append_inj_of_ends bare.not_delimits.2 otherBare.not_delimits.2 stops.delimits
        otherStops.delimits same with ⟨spelled, rests⟩
      exact ⟨bare.inspect_injective otherBare spelled, rests⟩
    · exact absurd same (unlike bare otherContent rest otherRest)
  · rcases otherWritten.cases_bare with otherBare | ⟨otherContent, otherUnquoted, rfl⟩
    · exact absurd same.symm (unlike otherBare content otherRest rest)
    · have inside : content ++ byte '"' :: rest = otherContent ++ byte '"' :: otherRest := by
        simpa [inspect] using same
      rcases Text.append_inj_of_not_mem unquoted otherUnquoted inside with ⟨rfl, rests⟩
      exact ⟨rfl, rests⟩

end Value

namespace Expr

/-- The operator of a composed form is known by the space behind it. -/
theorem opening_inj {head otherHead rest otherRest : Text} (free : byte ' ' ∉ head)
    (otherFree : byte ' ' ∉ otherHead)
    (same : byte '(' :: (head ++ byte ' ' :: rest) =
      byte '(' :: (otherHead ++ byte ' ' :: otherRest)) :
    head = otherHead ∧ rest = otherRest :=
  Text.append_inj_of_not_mem free otherFree (List.cons.inj same).2

theorem literalForm_ne_opening {value : Value} (written : value.Written) (rest more : Text) :
    literalForm (some value) ++ rest ≠ byte '(' :: more := by
  intro same
  rcases written.exists_cons with ⟨first, others, spelled, noParen⟩
  rw [literalForm, Option.getD_some, spelled] at same
  exact noParen (List.cons.inj same).1

theorem Written.form_cases {expr : Expr} (written : expr.Written) :
    (∃ value line, value.Written ∧ expr = .literal (some value) line) ∨
      ∀ rest, ∃ more, expr.form ++ rest = byte '(' :: more := by
  cases written with
  | literal denoted line => exact .inl ⟨_, line, denoted, rfl⟩
  | group inside => exact .inr fun rest => ⟨_, form_group_append _ rest⟩
  | unary known spelled operand => exact .inr fun rest => ⟨_, form_unary_append _ _ rest⟩
  | binary known spelled left right => exact .inr fun rest => ⟨_, form_binary_append _ _ _ rest⟩

/-- Trees that sources spell are alike if their forms start one text and stop there. -/
theorem Written.alike_of_form {expr other : Expr} (written : expr.Written)
    (otherWritten : other.Written) {rest otherRest : Text} (stops : rest.Stops)
    (otherStops : otherRest.Stops) (same : expr.form ++ rest = other.form ++ otherRest) :
    expr.Alike Likeness.upToLines other ∧ rest = otherRest := by
  have groupFree : byte ' ' ∉ text "group" := by decide
  induction written generalizing other rest otherRest with
  | literal denoted line =>
      rw [form_literal] at same
      rcases otherWritten.form_cases with ⟨value, otherLine, otherDenoted, rfl⟩ | opens
      · rw [form_literal] at same
        rcases denoted.append_inj otherDenoted stops otherStops same with ⟨rfl, rests⟩
        exact ⟨.literal (.some rfl) trivial, rests⟩
      · rcases opens otherRest with ⟨more, opened⟩
        exact absurd (same.trans opened) (literalForm_ne_opening denoted _ _)
  | group inside ih =>
      rw [form_group_append] at same
      cases otherWritten with
      | literal otherDenoted otherLine =>
          rw [form_literal] at same
          exact absurd same.symm (literalForm_ne_opening otherDenoted _ _)
      | group otherInside =>
          rw [form_group_append] at same
          have inner := (opening_inj groupFree groupFree same).2
          rcases ih otherInside (Text.stops_paren _) (Text.stops_paren _) inner with ⟨alike, rests⟩
          exact ⟨.group alike, (List.cons.inj rests).2⟩
      | unary otherKnown otherSpelled otherOperand =>
          have otherWord := Token.IsWord.of_unary otherKnown otherSpelled
          rw [form_unary_append] at same
          have heads := (opening_inj groupFree otherWord.space_not_mem same).1
          exact absurd heads.symm otherWord.lexeme_ne_group
      | binary otherKnown otherSpelled otherLeft otherRight =>
          have otherWord := Token.IsWord.of_binary otherKnown otherSpelled
          rw [form_binary_append] at same
          have heads := (opening_inj groupFree otherWord.space_not_mem same).1
          exact absurd heads.symm otherWord.lexeme_ne_group
  | unary known spelled operand ih =>
      have isWord := Token.IsWord.of_unary known spelled
      rw [form_unary_append] at same
      cases otherWritten with
      | literal otherDenoted otherLine =>
          rw [form_literal] at same
          exact absurd same.symm (literalForm_ne_opening otherDenoted _ _)
      | group otherInside =>
          rw [form_group_append] at same
          have heads := (opening_inj isWord.space_not_mem groupFree same).1
          exact absurd heads isWord.lexeme_ne_group
      | unary otherKnown otherSpelled otherOperand =>
          have otherWord := Token.IsWord.of_unary otherKnown otherSpelled
          rw [form_unary_append] at same
          rcases opening_inj isWord.space_not_mem otherWord.space_not_mem same with ⟨heads, bodies⟩
          rcases ih otherOperand (Text.stops_paren _) (Text.stops_paren _) bodies with
            ⟨alike, rests⟩
          exact ⟨.unary (isWord.upToLines otherWord heads) alike, (List.cons.inj rests).2⟩
      | binary otherKnown otherSpelled otherLeft otherRight =>
          -- The parenthesis behind the only operand is no space.
          have otherWord := Token.IsWord.of_binary otherKnown otherSpelled
          rw [form_binary_append] at same
          have bodies := (opening_inj isWord.space_not_mem otherWord.space_not_mem same).2
          have rests := (ih otherLeft (Text.stops_paren _) (Text.stops_space _) bodies).2
          exact absurd (List.cons.inj rests).1 (by decide)
  | binary known spelled left right leftIh rightIh =>
      have isWord := Token.IsWord.of_binary known spelled
      rw [form_binary_append] at same
      cases otherWritten with
      | literal otherDenoted otherLine =>
          rw [form_literal] at same
          exact absurd same.symm (literalForm_ne_opening otherDenoted _ _)
      | group otherInside =>
          rw [form_group_append] at same
          have heads := (opening_inj isWord.space_not_mem groupFree same).1
          exact absurd heads isWord.lexeme_ne_group
      | unary otherKnown otherSpelled otherOperand =>
          have otherWord := Token.IsWord.of_unary otherKnown otherSpelled
          rw [form_unary_append] at same
          have bodies := (opening_inj isWord.space_not_mem otherWord.space_not_mem same).2
          have rests := (leftIh otherOperand (Text.stops_space _) (Text.stops_paren _) bodies).2
          exact absurd (List.cons.inj rests).1 (by decide)
      | binary otherKnown otherSpelled otherLeft otherRight =>
          have otherWord := Token.IsWord.of_binary otherKnown otherSpelled
          rw [form_binary_append] at same
          rcases opening_inj isWord.space_not_mem otherWord.space_not_mem same with ⟨heads, bodies⟩
          rcases leftIh otherLeft (Text.stops_space _) (Text.stops_space _) bodies with
            ⟨lefts, afterLeft⟩
          rcases rightIh otherRight (Text.stops_paren _) (Text.stops_paren _)
            (List.cons.inj afterLeft).2 with ⟨rights, rests⟩
          exact ⟨.binary lefts (isWord.upToLines otherWord heads) rights, (List.cons.inj rests).2⟩

/-- The form of a tree that a source spells determines the tree up to lines. -/
theorem Written.form_injective {expr other : Expr} (written : expr.Written)
    (otherWritten : other.Written) (same : expr.form = other.form) :
    expr.Alike Likeness.upToLines other := by
  have stops : Text.Stops [] := by
    rintro first more ⟨⟩
  exact (written.alike_of_form otherWritten stops stops (congrArg (· ++ []) same)).1

end Expr

namespace Engine

theorem expression_of_form {engine : Engine} {source form : Text}
    (formed : engine.form source = .ok form) :
    ∃ expr, engine.expression source = .ok expr ∧ expr.form = form := by
  unfold Engine.form at formed
  split at formed
  · rename_i expr read
    exact ⟨expr, read, Except.ok.inj formed⟩
  · cases formed

/-- Sources with the same prefix form are read as the same tree, up to lines. So they evaluate to
the same value and print the same, or they fail at runtime with faults that differ in lines only. -/
theorem form_determines_program (engine : Engine) {source other form : Text}
    (formed : engine.form source = .ok form) (otherFormed : engine.form other = .ok form) :
    (∃ expr otherExpr, engine.expression source = .ok expr ∧
      engine.expression other = .ok otherExpr ∧ expr.Alike Likeness.upToLines otherExpr) ∧
    ∀ sink : Sink,
      (engine.evaluate source sink).1 = (engine.evaluate other sink).1 ∧
      FailsAtRuntime (engine.evaluate source sink).2 ∧
      Concur (fun failure otherFailure => failure.unnumbered = otherFailure.unnumbered) Eq
        (engine.evaluate source sink).2 (engine.evaluate other sink).2 := by
  rcases expression_of_form formed with ⟨expr, read, isForm⟩
  rcases expression_of_form otherFormed with ⟨otherExpr, otherRead, otherIsForm⟩
  have alike := (written_of_expression read).form_injective (written_of_expression otherRead)
    (isForm.trans otherIsForm.symm)
  refine ⟨⟨expr, otherExpr, read, otherRead, alike⟩, fun sink => ?_⟩
  simp only [evaluate, read, otherRead]
  rcases Expr.runPrinted_alike Likeness.faithful_upToLines alike sink with ⟨sinks, results⟩
  refine ⟨sinks, expr.failsAtRuntime_runPrinted sink, ?_⟩
  generalize (expr.runPrinted sink).2 = result, (otherExpr.runPrinted sink).2 = otherResult
    at results
  cases results with
  | ok same => exact .ok same
  | error failures => exact .error (Failure.unnumbered_eq_of_alike failures)

/-- A difference of texts that hold a space, a line feed and brackets. -/
def difference : Text :=
  text "-(\"(a \n\" - \"b)\")"

/-- The same difference, written over several lines. -/
def spreadDifference : Text :=
  text "- ( // outer\n\"(a \n\"\n - \"b)\" ) ;"

theorem form_determines_program_difference :
    (form {} difference = .ok (text "(- (group (- \"(a \n\" \"b)\")))") ∧
      form {} spreadDifference = .ok (text "(- (group (- \"(a \n\" \"b)\")))")) ∧
    (evaluate {} difference {}).1 = (evaluate {} spreadDifference {}).1 ∧
      FailsAtRuntime (evaluate {} difference {}).2 ∧
      Concur (fun failure otherFailure => failure.unnumbered = otherFailure.unnumbered) Eq
        (evaluate {} difference {}).2 (evaluate {} spreadDifference {}).2 := by
  have formed : form {} difference = .ok (text "(- (group (- \"(a \n\" \"b)\")))") := by
    decide +kernel
  have otherFormed :
      form {} spreadDifference = .ok (text "(- (group (- \"(a \n\" \"b)\")))") := by
    decide +kernel
  exact ⟨⟨formed, otherFormed⟩, (form_determines_program {} formed otherFormed).2 {}⟩

end Engine

end Scriptlet
