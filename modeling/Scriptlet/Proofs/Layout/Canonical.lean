import Scriptlet.Proofs.Layout.Tidying

/-!
# Laid out texts are canonical

A canonical text is empty, or it has no carriage returns, no space or tab right before a line feed,
and one line feed at its end, behind something else. Layout makes every text canonical and leaves
canonical texts as they are. Hence what is laid out once is not changed again.
-/

namespace Scriptlet.Layout

/-- The texts that need no layout. -/
inductive Canonical : Text → Prop where
  | empty : Canonical []
  | lines {body : Text} {last : UInt8}
      (noReturn : Text.carriageReturn ∉ body ++ [last, Text.newline])
      (neat : Neat (body ++ [last, Text.newline])) (ends : last ≠ Text.newline) :
      Canonical (body ++ [last, Text.newline])

theorem return_not_mem_unixLines (source : Text) : Text.carriageReturn ∉ unixLines source := by
  fun_induction unixLines source with
  | case1 rest ih => exact List.not_mem_cons_of_ne_of_not_mem (by decide) ih
  | case2 rest _ ih => exact List.not_mem_cons_of_ne_of_not_mem (by decide) ih
  | case3 item rest _ noReturn ih =>
      exact List.not_mem_cons_of_ne_of_not_mem (Ne.symm noReturn) ih
  | case4 => exact List.not_mem_nil

theorem trimLines_sublist (source : Text) : (trimLines source).Sublist source := by
  induction source with
  | nil => exact List.Sublist.refl []
  | cons item rest ih =>
      by_cases isNewline : item = Text.newline
      · rw [isNewline, trimLines_newline]
        exact ih.cons_cons _
      · rw [trimLines_cons isNewline]
        split
        · exact ih.cons item
        · exact ih.cons_cons item

theorem format_eq (source : Text) :
    format source =
      if (Text.trimEnd (· = Text.newline) (trimLines (unixLines source))).isEmpty then []
      else Text.trimEnd (· = Text.newline) (trimLines (unixLines source)) ++ [Text.newline] :=
  rfl

theorem format_cases (source : Text) :
    format source = [] ∨ ∃ body last, format source = body ++ [last, Text.newline] ∧
      last ≠ Text.newline ∧ (body ++ [last]).Sublist (unixLines source) := by
  have kept : (Text.trimEnd (· = Text.newline) (trimLines (unixLines source))).Sublist
      (unixLines source) :=
    (List.rdropWhile_prefix _ _).sublist.trans (trimLines_sublist _)
  have ends : ∀ nonempty : Text.trimEnd (· = Text.newline) (trimLines (unixLines source)) ≠ [],
      ¬decide (List.getLast _ nonempty = Text.newline) :=
    List.rdropWhile_last_not _ _
  rw [format_eq]
  generalize Text.trimEnd (· = Text.newline) (trimLines (unixLines source)) = front at kept ends
  rcases List.eq_nil_or_concat' front with rfl | ⟨body, last, rfl⟩
  · exact .inl rfl
  · refine .inr ⟨body, last, by simp, ?_, kept⟩
    simpa using ends (by simp)

theorem canonical_format (source : Text) : Canonical (format source) := by
  have neat := neat_format source
  rcases format_cases source with empty | ⟨body, last, laidOut, ends, kept⟩
  · rw [empty]
    exact .empty
  · rw [laidOut] at neat ⊢
    refine .lines ?_ neat ends
    rw [List.append_cons, List.mem_append, List.mem_singleton, not_or]
    refine ⟨?_, by decide⟩
    intro member
    exact return_not_mem_unixLines source (kept.subset member)

theorem unixLines_eq_self {source : Text} (noReturn : Text.carriageReturn ∉ source) :
    unixLines source = source := by
  fun_induction unixLines source with
  | case1 rest ih => exact absurd (List.mem_cons_self ..) noReturn
  | case2 rest _ ih => exact absurd (List.mem_cons_self ..) noReturn
  | case3 item rest _ _ ih => rw [ih (List.not_mem_of_not_mem_cons noReturn)]
  | case4 => rfl

/-- In a neat text no line ends in gaps, so none consists of them. -/
theorem not_all_isGap_of_neat {item : UInt8} {rest : Text}
    (neat : Neat (item :: rest ++ [Text.newline])) :
    ¬(item :: rest.takeWhile (· ≠ Text.newline)).all isGap := by
  rw [List.all_cons, Bool.and_eq_true]
  rintro ⟨gap, gaps⟩
  induction rest generalizing item with
  | nil => exact neat.rel gap rfl
  | cons next more ih =>
      have noNewline : next ≠ Text.newline := neat.rel gap
      rw [List.takeWhile_cons_of_pos (by simpa using noNewline), List.all_cons,
        Bool.and_eq_true] at gaps
      exact ih neat.tail gaps.1 gaps.2

theorem trimLines_eq_self {source : Text} (neat : Neat (source ++ [Text.newline])) :
    trimLines source = source := by
  induction source with
  | nil => rfl
  | cons item rest ih =>
      by_cases isNewline : item = Text.newline
      · rw [isNewline, trimLines_newline, ih neat.tail]
      · rw [trimLines_cons isNewline, if_neg (not_all_isGap_of_neat neat), ih neat.tail]

theorem format_of_canonical {source : Text} (canonical : Canonical source) :
    format source = source := by
  cases canonical with
  | empty => rfl
  | @lines body last noReturn neat ends =>
      -- Another line feed behind the last one does no harm, and `trimLines_eq_self` wants it.
      have still : Neat (body ++ [last, Text.newline] ++ [Text.newline]) := by
        have pair : Neat ([Text.newline] ++ [Text.newline]) :=
          .cons_cons (by decide) (.singleton _)
        rw [List.append_cons body last] at neat ⊢
        exact neat.append_overlap pair (by simp)
      have trimmed : trimLines (unixLines (body ++ [last, Text.newline])) =
          body ++ [last, Text.newline] := by
        rw [unixLines_eq_self noReturn, trimLines_eq_self still]
      have front : Text.trimEnd (· = Text.newline) (body ++ [last, Text.newline]) =
          body ++ [last] := by
        rw [List.append_cons]
        exact (List.rdropWhile_concat_pos _ _ _ (by simp)).trans
          (List.rdropWhile_concat_neg _ _ _ (by simpa using ends))
      rw [format_eq, trimmed, front]
      simp

theorem format_format (source : Text) : format (format source) = format source :=
  format_of_canonical (canonical_format source)

theorem format_eq_self_iff {source : Text} : format source = source ↔ Canonical source := by
  constructor
  · intro settled
    rw [← settled]
    exact canonical_format source
  · exact format_of_canonical

end Scriptlet.Layout
