import MediaShelf.Proofs.Script.Extension
import Mathlib.Data.List.DropRight

/-!
# Substitution is one pass

A template can be cut in two, and each part written for itself, unless a placeholder starts in the
first part and ends in the second one (`PlaceholdersApart`). So what a placeholder is replaced by
has no effect on the rest of the template, and is not looked at again.

There are two places where cutting does no harm. Behind three characters that are no `%`, no
placeholder can still be open. And in front of a `%` none is open either, because a `%` is no
letter or digit. The second is why a placeholder is found whatever stands in front of it, a stray
`%` included.

`ReplacesOnce` collects what this says about substituting, and it says everything: no other
function does the same.
-/

namespace MediaShelf

/-! ## Names of tokens -/

theorem Token.named?_eq_some_iff {token : Token} {name : List Char} :
    Token.named? name = some token ↔ token.name.toList = name := by
  constructor
  · intro h
    have hfound := List.find?_some h
    exact beq_iff_eq.1 hfound
  · rintro rfl
    cases token <;> decide

theorem Token.named?_eq_none_iff {name : List Char} :
    Token.named? name = none ↔ ∀ token : Token, token.name.toList ≠ name := by
  simp only [Option.eq_none_iff_forall_ne_some, Ne, Token.named?_eq_some_iff]

theorem Token.all_name (token : Token) : token.name.toList.all Text.isAsciiAlphanumeric = true := by
  cases token <;> decide

theorem Token.isTokenName_of_name {token : Token} {x y z : Char}
    (h : token.name.toList = [x, y, z]) : isTokenName x y z = true := by
  have hname := token.all_name
  rw [h, List.all_cons, List.all_cons, List.all_cons, List.all_nil, Bool.and_true,
    ← Bool.and_assoc] at hname
  exact hname

theorem percent_not_mem_of_isTokenName {x y z : Char} (h : isTokenName x y z = true) :
    '%' ∉ [x, y, z] := by
  intro hmem
  simp only [isTokenName, Bool.and_eq_true] at h
  simp only [List.mem_cons, List.not_mem_nil, or_false] at hmem
  rcases hmem with rfl | rfl | rfl
  · exact absurd h.1.1 (by decide)
  · exact absurd h.1.2 (by decide)
  · exact absurd h.2 (by decide)

/-! ## Pieces from left to right -/

/-- A text starts with a `%` and three ASCII letters or digits. -/
def StartsPlaceholder (cs : List Char) : Prop :=
  ∃ x y z rest, cs = '%' :: x :: y :: z :: rest ∧ isTokenName x y z = true

theorem templatePieces_placeholder {x y z : Char} (h : isTokenName x y z = true)
    (rest : List Char) :
    templatePieces ('%' :: x :: y :: z :: rest) =
      TemplatePiece.ofPlaceholder x y z ++ templatePieces rest := by
  rw [templatePieces, if_pos h]

theorem templatePieces_cons {c : Char} {rest : List Char} (h : ¬ StartsPlaceholder (c :: rest)) :
    templatePieces (c :: rest) = .literal c :: templatePieces rest := by
  rw [templatePieces.eq_def]
  split
  · next x y z rest heq =>
      obtain ⟨rfl, rfl⟩ := List.cons.inj heq
      rw [if_neg fun hname => h ⟨x, y, z, rest, rfl, hname⟩]
  · next heq =>
      obtain ⟨rfl, rfl⟩ := List.cons.inj heq
      rfl
  · next heq => cases heq

/-- No placeholder starts in the first text and ends in the second one. -/
def PlaceholdersApart (a b : List Char) : Prop :=
  ∀ front back, a = front ++ '%' :: back → back.length < 3 → ¬ StartsPlaceholder ('%' :: back ++ b)

theorem PlaceholdersApart.of_append (front : List Char) {a b : List Char}
    (h : PlaceholdersApart (front ++ a) b) : PlaceholdersApart a b := by
  rintro before back rfl hback
  exact h (front ++ before) back (List.append_assoc ..).symm hback

theorem PlaceholdersApart.not_starts {c : Char} {rest b : List Char}
    (h : PlaceholdersApart (c :: rest) b) (hstarts : ¬ StartsPlaceholder (c :: rest)) :
    ¬ StartsPlaceholder (c :: rest ++ b) := by
  rintro ⟨x, y, z, tail, heq, hname⟩
  rw [List.cons_append, List.cons.injEq] at heq
  obtain ⟨rfl, htail⟩ := heq
  by_cases hlength : rest.length < 3
  · exact h [] rest rfl hlength ⟨x, y, z, tail, congrArg _ htail, hname⟩
  · -- The placeholder would lie in the first text as a whole.
    match rest with
    | p :: q :: r :: rest =>
        simp only [List.cons_append, List.cons.injEq] at htail
        obtain ⟨rfl, rfl, rfl, -⟩ := htail
        exact hstarts ⟨p, q, r, rest, rfl, hname⟩
    | [] | [_] | [_, _] => simp at hlength

theorem templatePieces_append {a b : List Char} (h : PlaceholdersApart a b) :
    templatePieces (a ++ b) = templatePieces a ++ templatePieces b := by
  by_cases hstarts : StartsPlaceholder a
  · obtain ⟨x, y, z, rest, rfl, hname⟩ := hstarts
    have ih := templatePieces_append (PlaceholdersApart.of_append ['%', x, y, z] h)
    simp only [List.cons_append]
    rw [templatePieces_placeholder hname, templatePieces_placeholder hname, ih, List.append_assoc]
  · cases a with
    | nil => rfl
    | cons c rest =>
        have ih := templatePieces_append (PlaceholdersApart.of_append [c] h)
        have hwhole := h.not_starts hstarts
        rw [List.cons_append] at hwhole ⊢
        rw [templatePieces_cons hwhole, templatePieces_cons hstarts, ih, List.cons_append]
termination_by a.length

/-! ## Where a template can be cut -/

theorem apart_of_not_mem {a : List Char} (h : '%' ∉ a.rtake 3) (b : List Char) :
    PlaceholdersApart a b := by
  rintro front back rfl hback
  refine absurd ?_ h
  have hlength : (front ++ '%' :: back).length - 3 ≤ front.length := by
    rw [List.length_append, List.length_cons]
    omega
  rw [List.rtake, List.drop_append_of_le_length hlength]
  exact List.mem_append_right _ List.mem_cons_self

theorem apart_percent (a b : List Char) : PlaceholdersApart a ('%' :: b) := by
  rintro front back - hback ⟨x, y, z, rest, heq, hname⟩
  have hpercent := percent_not_mem_of_isTokenName hname
  simp only [List.mem_cons, List.not_mem_nil, or_false, not_or] at hpercent
  match back with
  | [] | [_] | [_, _] => simp_all
  | _ :: _ :: _ :: _ =>
      simp only [List.length_cons] at hback
      omega

/-! ## Substituting -/

section Substitute

variable (ctx : NamingContext) (options : NamingOptions)

theorem substitute_append {a b : List Char} (h : PlaceholdersApart a b) :
    substitute ctx options (a ++ b) = substitute ctx options a ++ substitute ctx options b := by
  rw [substitute, templatePieces_append h, List.flatMap_append, substitute, substitute]

theorem substitute_cons {c : Char} {rest : List Char} (h : ¬ StartsPlaceholder (c :: rest)) :
    substitute ctx options (c :: rest) = c :: substitute ctx options rest := by
  rw [substitute, templatePieces_cons h, List.flatMap_cons, TemplatePiece.value,
    List.singleton_append, substitute]

theorem substitute_known {token : Token} {x y z : Char} (h : token.name.toList = [x, y, z])
    (rest : List Char) :
    substitute ctx options ('%' :: x :: y :: z :: rest) =
      (token.value ctx options).toList ++ substitute ctx options rest := by
  rw [substitute, templatePieces_placeholder (Token.isTokenName_of_name h), List.flatMap_append,
    TemplatePiece.ofPlaceholder, Token.named?_eq_some_iff.2 h, List.flatMap_singleton,
    TemplatePiece.value, substitute]

theorem substitute_unknown {x y z : Char} (hname : isTokenName x y z = true)
    (h : ∀ token : Token, token.name.toList ≠ [x, y, z]) (rest : List Char) :
    substitute ctx options ('%' :: x :: y :: z :: rest) =
      '%' :: x :: y :: z :: substitute ctx options rest := by
  rw [substitute, templatePieces_placeholder hname, List.flatMap_append,
    TemplatePiece.ofPlaceholder, Token.named?_eq_none_iff.2 h, substitute]
  rfl

theorem substitute_of_not_mem {template : List Char} (h : '%' ∉ template) :
    substitute ctx options template = template := by
  induction template with
  | nil => rfl
  | cons c rest ih =>
      rw [List.mem_cons, not_or] at h
      have hplain : ¬ StartsPlaceholder (c :: rest) := by
        rintro ⟨x, y, z, tail, heq, -⟩
        exact h.1 (List.cons.inj heq).1.symm
      rw [substitute_cons ctx options hplain, ih h.2]

end Substitute

/-- `f` replaces the placeholders of a template by the values of their tokens, once and wherever
they stand. -/
structure ReplacesOnce (value : Token → List Char) (f : List Char → List Char) : Prop where
  /-- A template without `%` stays as it is. -/
  plain : ∀ template, '%' ∉ template → f template = template
  /-- A placeholder of a token is replaced. The texts around it make no difference to the value, and
  the value makes none to them. -/
  known : ∀ token : Token, ∀ x y z, token.name.toList = [x, y, z] →
    ∀ a b, f (a ++ '%' :: x :: y :: z :: b) = f a ++ (value token ++ f b)
  /-- A placeholder that names no token stays. -/
  unknown : ∀ x y z, isTokenName x y z = true → (∀ token : Token, token.name.toList ≠ [x, y, z]) →
    ∀ a b, f (a ++ '%' :: x :: y :: z :: b) = f a ++ '%' :: x :: y :: z :: f b
  /-- A `%` that starts no placeholder stays, and what follows it is read on its own. -/
  stray : ∀ rest, ¬ StartsPlaceholder ('%' :: rest) → f ('%' :: rest) = '%' :: f rest
  /-- Behind three characters that are no `%` a template can be cut. -/
  append : ∀ a b, '%' ∉ a.rtake 3 → f (a ++ b) = f a ++ f b

theorem ReplacesOnce.unique {value : Token → List Char} {f g : List Char → List Char}
    (hf : ReplacesOnce value f) (hg : ReplacesOnce value g) (template : List Char) :
    f template = g template := by
  by_cases hstarts : StartsPlaceholder template
  · obtain ⟨x, y, z, rest, rfl, hname⟩ := hstarts
    have ih := ReplacesOnce.unique hf hg rest
    have hnil : f [] = g [] := by rw [hf.plain [] (by simp), hg.plain [] (by simp)]
    cases htoken : Token.named? [x, y, z] with
    | some token =>
        have h := Token.named?_eq_some_iff.1 htoken
        have hwhole := hf.known token x y z h [] rest
        rwa [hnil, ih, ← hg.known token x y z h [] rest] at hwhole
    | none =>
        have h := Token.named?_eq_none_iff.1 htoken
        have hwhole := hf.unknown x y z hname h [] rest
        rwa [hnil, ih, ← hg.unknown x y z hname h [] rest] at hwhole
  · match template with
    | [] => rw [hf.plain [] (by simp), hg.plain [] (by simp)]
    | c :: rest =>
        have ih := ReplacesOnce.unique hf hg rest
        by_cases hc : c = '%'
        · subst hc
          rw [hf.stray rest hstarts, hg.stray rest hstarts, ih]
        · have hone : '%' ∉ [c] := fun hmem => hc (List.mem_singleton.1 hmem).symm
          have hcut : '%' ∉ [c].rtake 3 := hone
          rw [← List.singleton_append, hf.append _ _ hcut, hg.append _ _ hcut, hf.plain _ hone,
            hg.plain _ hone, ih]
termination_by template.length

/-- Substituting replaces every placeholder once, and nothing else does what it does. -/
theorem substitute_replacesOnce (ctx : NamingContext) (options : NamingOptions) :
    ReplacesOnce (fun token => (token.value ctx options).toList) (substitute ctx options) ∧
      ∀ f, ReplacesOnce (fun token => (token.value ctx options).toList) f →
        f = substitute ctx options := by
  have hsubstitute :
      ReplacesOnce (fun token => (token.value ctx options).toList) (substitute ctx options) :=
    { plain := fun template h => substitute_of_not_mem ctx options h
      known := fun token x y z h a b => by
        rw [substitute_append ctx options (apart_percent a _), substitute_known ctx options h]
      unknown := fun x y z hname h a b => by
        rw [substitute_append ctx options (apart_percent a _),
          substitute_unknown ctx options hname h]
      stray := fun rest h => substitute_cons ctx options h
      append := fun a b h => substitute_append ctx options (apart_of_not_mem h b) }
  exact ⟨hsubstitute, fun f hf => funext (hf.unique hsubstitute)⟩

/-- The first `%` starts no placeholder, and the last one starts one that names no token. -/
theorem substitute_replacesOnce_stray :
    ¬ StartsPlaceholder "%%enr %xyz".toList ∧ Token.episodeNumber.name.toList = ['e', 'n', 'r'] ∧
      (∀ token : Token, token.name.toList ≠ ['x', 'y', 'z']) ∧ '%' ∉ " ".toList.rtake 3 ∧
      substitute sampleContext {} "%%enr %xyz".toList = "%1 %xyz".toList := by
  have hstray : ¬ StartsPlaceholder "%%enr %xyz".toList := by
    rintro ⟨x, y, z, rest, heq, hname⟩
    cases heq
    exact absurd hname (by decide)
  have hunknown : ∀ token : Token, token.name.toList ≠ ['x', 'y', 'z'] := by
    intro token
    cases token <;> decide
  have hblank : '%' ∉ " ".toList.rtake 3 := by decide
  have hvalue : (Token.episodeNumber.value sampleContext {}).toList = ['1'] := by decide +kernel
  obtain ⟨hlaws, -⟩ := substitute_replacesOnce sampleContext {}
  refine ⟨hstray, rfl, hunknown, hblank, ?_⟩
  calc substitute sampleContext {} "%%enr %xyz".toList
      = '%' :: substitute sampleContext {} "%enr %xyz".toList := hlaws.stray _ hstray
    _ = '%' :: '1' :: substitute sampleContext {} " %xyz".toList := by
        have h := hlaws.known .episodeNumber 'e' 'n' 'r' rfl [] " %xyz".toList
        rw [hvalue, hlaws.plain [] (by simp)] at h
        exact congrArg _ h
    _ = '%' :: '1' :: ' ' :: substitute sampleContext {} "%xyz".toList := by
        have h := hlaws.append " ".toList "%xyz".toList hblank
        rw [hlaws.plain " ".toList (by decide)] at h
        exact congrArg (fun rest => '%' :: '1' :: rest) h
    _ = "%1 %xyz".toList := by
        have h := hlaws.unknown 'x' 'y' 'z' (by decide) hunknown [] []
        rw [hlaws.plain [] (by simp)] at h
        exact congrArg (fun rest => '%' :: '1' :: ' ' :: rest) h

end MediaShelf
