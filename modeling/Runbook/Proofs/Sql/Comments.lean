import Mathlib.Data.List.Infix
import Runbook.Proofs.Sql.Numbering

namespace Runbook.Sql

namespace Lexeme

/-- The text goes on in as many comments as are told, closes them and those that it opens itself,
and ends with the last of them. -/
inductive Closes : Nat → List Char → Prop where
  | done : Closes 0 []
  | opening {depth : Nat} {body : List Char} (rest : Closes (depth + 2) body) :
    Closes (depth + 1) ('/' :: '*' :: body)
  | closing {depth : Nat} {body : List Char} (rest : Closes depth body) :
    Closes (depth + 1) ('*' :: '/' :: body)
  | inside {depth : Nat} {c : Char} {body : List Char} (opens : ¬['/', '*'] <+: c :: body)
      (closes : ¬['*', '/'] <+: c :: body) (rest : Closes (depth + 1) body) :
    Closes (depth + 1) (c :: body)

/-- The elements that the database reads between the text before them and the place that they lead
to. A block comment takes with it the comments that are opened in it. -/
inductive LeadsTo (place : List Char) : List Char → List Lexeme → List Char → Prop where
  | here {before : List Char} : LeadsTo place before [] place
  | comment {before body after : List Char} {lexemes : List Lexeme} (closes : Closes 1 body)
      (later : LeadsTo place (before ++ '/' :: '*' :: body) lexemes after) :
    LeadsTo place before (.verbatim ('/' :: '*' :: body) :: lexemes) ('/' :: '*' :: body ++ after)
  | other {before after : List Char} {lexeme : Lexeme} {lexemes : List Lexeme}
      (element : Element before lexeme after) (outside : ¬['/', '*'] <+: lexeme.source)
      (later : LeadsTo place (before ++ lexeme.source) lexemes after) :
    LeadsTo place before (lexeme :: lexemes) (lexeme.source ++ after)

/-- If the element is a block comment, no other comment is opened in it. -/
def Flat (lexeme : Lexeme) : Prop :=
  ∀ body, lexeme.source = '/' :: '*' :: body → ¬['/', '*'] <:+: body

theorem Closes.occurs {depth : Nat} {body : List Char} (h : Closes (depth + 1) body) :
    ['*', '/'] <:+: body := by
  generalize same : depth + 1 = n at h
  induction h generalizing depth with
  | done => cases same
  | opening _ ih => exact List.infix_cons (List.infix_cons (ih rfl))
  | closing => exact (List.prefix_append ['*', '/'] _).isInfix
  | inside _ _ _ ih => exact List.infix_cons (ih rfl)

theorem Closes.ne_nil {depth : Nat} {body : List Char} (h : Closes (depth + 1) body) :
    body ≠ [] := by
  rintro rfl
  cases h

theorem Closes.occurs_early {depth : Nat} {body : List Char} (h : Closes (depth + 1) body)
    (more : depth ≠ 0 ∨ ['/', '*'] <:+: body) : ['*', '/'] <:+: body.dropLast := by
  generalize same : depth + 1 = n at h
  induction h generalizing depth with
  | done => cases same
  | opening rest ih =>
    have inner := ih (Or.inl (Nat.succ_ne_zero _)) rfl
    rw [List.dropLast_cons_of_ne_nil (List.cons_ne_nil _ _),
      List.dropLast_cons_of_ne_nil rest.ne_nil]
    exact List.infix_cons (List.infix_cons inner)
  | @closing depth' body rest =>
    obtain rfl : depth = depth' := Nat.succ.inj same
    cases rest with
    | done => exact absurd more (by decide)
    | _ =>
      rw [List.dropLast_cons_of_ne_nil (List.cons_ne_nil _ _),
        List.dropLast_cons_of_ne_nil (List.cons_ne_nil _ _)]
      exact (List.prefix_append ['*', '/'] _).isInfix
  | @inside depth' c body opens closes rest ih =>
    obtain rfl : depth = depth' := Nat.succ.inj same
    rw [List.dropLast_cons_of_ne_nil rest.ne_nil]
    refine List.infix_cons (ih (more.imp_right fun found => ?_) rfl)
    exact (List.infix_cons_iff.mp found).resolve_left opens

theorem Closes.opens_of_occurs_early {body : List Char} (h : Closes 1 body)
    (early : ['*', '/'] <:+: body.dropLast) : ['/', '*'] <:+: body := by
  generalize same : 1 = n at h
  induction h with
  | done => cases same
  | opening => exact (List.prefix_append ['/', '*'] _).isInfix
  | closing rest =>
    obtain rfl := Nat.succ.inj same
    cases rest
    exact absurd early (by decide)
  | @inside depth c body opens closes rest ih =>
    rw [List.dropLast_cons_of_ne_nil rest.ne_nil, List.infix_cons_iff] at early
    refine List.infix_cons (ih (early.resolve_left fun here => closes ?_) same)
    exact here.trans ((List.prefix_cons_inj c).mpr (List.dropLast_prefix body))

/-- A comment has a closing sign before its last one exactly when another is opened in it. -/
theorem Closes.occurs_early_iff {body : List Char} (h : Closes 1 body) :
    ['*', '/'] <:+: body.dropLast ↔ ['/', '*'] <:+: body :=
  ⟨h.opens_of_occurs_early, fun nested => h.occurs_early (Or.inr nested)⟩

theorem flat_blockComment_iff {body : List Char} :
    Flat (.verbatim ('/' :: '*' :: body)) ↔ ¬['/', '*'] <:+: body := by
  refine ⟨fun flat => flat body rfl, ?_⟩
  rintro absent _ same
  cases same
  exact absent

theorem exists_upToFirst {close body : List Char} (nonempty : close ≠ [])
    (occurs : close <:+: body) :
    ∃ kept inner, body = kept ++ inner ∧ close <:+ kept ∧ ¬close <:+: kept.dropLast ∧
      (inner = [] ↔ ¬close <:+: body.dropLast) := by
  have whole := throughText_append close body
  have read := upToFirst_throughText nonempty body
  generalize (throughText close body).1 = kept at whole read
  generalize (throughText close body).2 = inner at whole read
  subst whole
  cases read with
  | closed found first =>
    refine ⟨kept, inner, rfl, found, first, fun nothing => ?_, fun late => ?_⟩
    · rwa [nothing, List.append_nil]
    · by_contra more
      rw [List.dropLast_append_of_ne_nil more] at late
      exact late (found.isInfix.trans (List.prefix_append _ _).isInfix)
  | unterminated absent =>
    rw [List.append_nil] at occurs
    exact absurd occurs absent

theorem Closes.upToFirst {body : List Char} (h : Closes 1 body) (flat : ¬['/', '*'] <:+: body)
    (after : List Char) : UpToFirst ['*', '/'] body after := by
  obtain ⟨kept, inner, rfl, found, first, ends⟩ := exists_upToFirst (List.cons_ne_nil _ _) h.occurs
  obtain rfl := ends.mpr (h.occurs_early_iff.not.mpr flat)
  rw [List.append_nil]
  exact .closed found first

/-- If no comment before the place is opened in another one, the scan reads what the database
reads. -/
theorem LeadsTo.cut {place before s : List Char} {earlier later : List Lexeme}
    (h : LeadsTo place before earlier s) (flat : ∀ lexeme ∈ earlier, lexeme.Flat)
    (rest : Cut (before ++ earlier.flatMap Lexeme.source) later place) :
    Cut before (earlier ++ later) s := by
  induction h with
  | here => simpa using rest
  | @comment before body after lexemes closes _ ih =>
    obtain ⟨first, others⟩ := List.forall_mem_cons.mp flat
    have upTo := closes.upToFirst (flat_blockComment_iff.mp first) after
    exact .next (.formed (.blockComment upTo)) (ih others (by simpa [Lexeme.source] using rest))
  | other element _ _ ih =>
    obtain ⟨_, others⟩ := List.forall_mem_cons.mp flat
    exact .next element (ih others (by simpa using rest))

end Lexeme

namespace Scan

open Lexeme

/-- A comment is kept up to the first sign that closes one, and the scan goes on behind that sign:
at the end of the comment if no other is opened in it, and within it otherwise. -/
theorem comment_kept {sql : String} {earlier : List Lexeme} {body after : List Char}
    (outside : LeadsTo ('/' :: '*' :: body ++ after) [] earlier sql.toList)
    (closes : Closes 1 body) (flat : ∀ lexeme ∈ earlier, lexeme.Flat) :
    ∃ (kept inner : List Char) (later : List Lexeme), body = kept ++ inner ∧
      ['*', '/'] <:+ kept ∧ ¬['*', '/'] <:+: kept.dropLast ∧
      (inner = [] ↔ Flat (.verbatim ('/' :: '*' :: body))) ∧
      Cut (earlier.flatMap source ++ '/' :: '*' :: kept) later (inner ++ after) ∧
      (ofText sql).text.toList = earlier.flatMap (shown (ofText sql).names) ++
        '/' :: '*' :: kept ++ later.flatMap (shown (ofText sql).names) ∧
      ∀ name, name ∈ (ofText sql).names ↔
        Lexeme.parameter name.toList ∈ earlier ∨ Lexeme.parameter name.toList ∈ later := by
  obtain ⟨kept, inner, rfl, found, first, ends⟩ :=
    exists_upToFirst (List.cons_ne_nil _ _) closes.occurs
  have comment : Element (earlier.flatMap source) (.verbatim ('/' :: '*' :: kept))
      (inner ++ after) := .formed (.blockComment (.closed found first))
  have rest := cut_all (earlier.flatMap source ++ '/' :: '*' :: kept) (inner ++ after)
  generalize all _ (inner ++ after) = later at rest
  have cut : Cut [] (earlier ++ .verbatim ('/' :: '*' :: kept) :: later) sql.toList := by
    refine outside.cut flat ?_
    have whole := Cut.next comment rest
    simpa [Lexeme.source] using whole
  have lexemes : _ = Lexeme.ofText sql := cut_iff.mp cut
  have complete := ends.trans (closes.occurs_early_iff.not.trans flat_blockComment_iff.symm)
  refine ⟨kept, inner, later, rfl, found, first, complete, rest, ?_, fun name => ?_⟩
  · rw [ofText_text, ← lexemes]
    simp [Lexeme.shown]
  · rw [mem_ofText_names, ← lexemes]
    simp

/-- Behind a comment that is opened in another one, the rest of the outer comment is read. -/
theorem comment_kept_nested :
    LeadsTo "/*/**/@b*/".toList [] [.parameter ['a']] "@a/*/**/@b*/".toList ∧
      Closes 1 "/**/@b*/".toList ∧ ofText "@a/*/**/@b*/" = ⟨"$1/*/**/$2*/", ["a", "b"]⟩ ∧
      ∃ kept inner later, "/**/@b*/".toList = kept ++ inner ∧ inner ≠ [] ∧
        Cut ("@a/*".toList ++ kept) later inner ∧ Lexeme.parameter ['b'] ∈ later := by
  have named : IsName ['a'] := ⟨'a', [], rfl, by decide, by simp⟩
  have ends : EndsName "/*/**/@b*/".toList := by
    intro c hc
    cases Option.some.inj hc
    rfl
  have leads : LeadsTo "/*/**/@b*/".toList [] [.parameter ['a']] "@a/*/**/@b*/".toList :=
    .other (.formed (.parameter named ends)) (by decide) .here
  have closes : Closes 1 "/**/@b*/".toList :=
    .opening (.closing (.inside (by decide) (by decide)
      (.inside (by decide) (by decide) (.closing .done))))
  have flat : ∀ lexeme ∈ [Lexeme.parameter ['a']], lexeme.Flat := by
    intro lexeme member body same
    cases List.mem_singleton.mp member
    cases same
  have scan : ofText "@a/*/**/@b*/" = ⟨"$1/*/**/$2*/", ["a", "b"]⟩ := by decide +kernel
  obtain ⟨kept, inner, later, split, -, -, whole, cut, -, names⟩ :=
    @comment_kept "@a/*/**/@b*/" [.parameter ['a']] "/**/@b*/".toList [] leads closes flat
  rw [scan] at names
  refine ⟨leads, closes, scan, kept, inner, later, split, fun nothing => ?_, ?_, ?_⟩
  · exact whole.mp nothing _ rfl (by decide)
  · simpa [Lexeme.source] using cut
  · exact ((names "b").mp (by decide)).resolve_left (by decide)

/-- The text is one comment, and yet a parameter is found in it. -/
theorem nested_comment_read :
    LeadsTo "/*/**/@c*/".toList [] [] "/*/**/@c*/".toList ∧ Closes 1 "/**/@c*/".toList ∧
      ofText "/*/**/@c*/" = ⟨"/*/**/$1*/", ["c"]⟩ := by
  refine ⟨.here, ?_, by decide +kernel⟩
  exact .opening (.closing (.inside (by decide) (by decide)
    (.inside (by decide) (by decide) (.closing .done))))

end Scan

end Runbook.Sql
