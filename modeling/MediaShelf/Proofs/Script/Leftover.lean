import MediaShelf.Proofs.Script.Substitution

/-!
# What substituting leaves

A `%` in a substituted text has come from one of three places: from a placeholder that names no
token, from a stray `%` of the template, or from a value. Only the first kind is harmless. The other
two can run into what follows them and make up a placeholder that nobody wrote, as in `%%cen`.

Where the template has no stray `%` and the values have none at all, the first kind is all there is.
Each `%` of the result is then still followed by the three characters that it was followed by in the
template, and they name no token. This is what `PercentsName` keeps through the pieces of a template,
and it says at once that no placeholder of a token is left and that a second pass finds nothing to do.
-/

namespace MediaShelf

/-- Behind every `%` of a text stand three characters with a property. -/
def PercentsName (p : Char → Char → Char → Prop) (cs : List Char) : Prop :=
  ∀ front rest, cs = front ++ '%' :: rest → ∃ x y z tail, rest = x :: y :: z :: tail ∧ p x y z

/-- Three characters that can be the name of a token, and are not. -/
def NamesNothing (x y z : Char) : Prop :=
  isTokenName x y z = true ∧ ∀ token : Token, token.name.toList ≠ [x, y, z]

namespace PercentsName

variable {p : Char → Char → Char → Prop}

theorem of_not_mem {cs : List Char} (h : '%' ∉ cs) : PercentsName p cs := by
  rintro front rest rfl
  exact absurd (List.mem_append_right front List.mem_cons_self) h

theorem append {a b : List Char} (ha : PercentsName p a) (hb : PercentsName p b) :
    PercentsName p (a ++ b) := by
  intro front rest h
  rcases List.append_eq_append_iff.1 h with ⟨middle, rfl, hb'⟩ | ⟨middle, rfl, hrest⟩
  · exact hb middle rest hb'
  · cases middle with
    | nil => exact hb [] rest hrest.symm
    | cons c middle =>
        rw [List.cons_append, List.cons.injEq] at hrest
        obtain ⟨rfl, rfl⟩ := hrest
        obtain ⟨x, y, z, tail, rfl, hname⟩ := ha front middle rfl
        exact ⟨x, y, z, tail ++ b, rfl, hname⟩

theorem of_append {a b : List Char} (h : PercentsName p (a ++ b)) : PercentsName p b := by
  rintro front rest rfl
  exact h (a ++ front) rest (List.append_assoc ..).symm

theorem placeholder {x y z : Char} (hname : isTokenName x y z = true) (h : p x y z) :
    PercentsName p ['%', x, y, z] := by
  intro front rest heq
  cases front with
  | nil =>
      obtain ⟨-, rfl⟩ := List.cons.inj heq
      exact ⟨x, y, z, [], rfl, h⟩
  | cons c front =>
      -- Another `%` would be one of the three characters.
      obtain ⟨-, htail⟩ := List.cons.inj heq
      refine absurd ?_ (percent_not_mem_of_isTokenName hname)
      rw [htail]
      exact List.mem_append_right front List.mem_cons_self

/-- Such a text is read placeholder by placeholder, and character by character in between. -/
theorem induction {motive : List Char → Prop} (nil : motive [])
    (placeholder : ∀ x y z rest, p x y z → motive rest → motive ('%' :: x :: y :: z :: rest))
    (literal : ∀ c rest, c ≠ '%' → motive rest → motive (c :: rest)) {cs : List Char}
    (h : PercentsName p cs) : motive cs := by
  match cs with
  | [] => exact nil
  | c :: rest =>
      by_cases hc : c = '%'
      · subst hc
        obtain ⟨x, y, z, tail, rfl, hname⟩ := h [] rest rfl
        exact placeholder x y z tail hname
          (induction nil placeholder literal (of_append (a := ['%', x, y, z]) h))
      · exact literal c rest hc (induction nil placeholder literal (of_append (a := [c]) h))
termination_by cs.length

/-- No placeholder of a token is in such a text. -/
theorem not_infix {cs : List Char} (h : PercentsName NamesNothing cs) (token : Token) :
    ¬ token.placeholder.toList <:+: cs := by
  rintro ⟨front, back, rfl⟩
  have hsplit : front ++ token.placeholder.toList ++ back =
      front ++ '%' :: (token.name.toList ++ back) := by
    rw [Token.placeholder, String.toList_append, List.append_assoc]
    rfl
  obtain ⟨x, y, z, tail, htail, -, hnone⟩ := h front _ hsplit
  obtain ⟨u, v, w, htoken⟩ : ∃ u v w, token.name.toList = [u, v, w] := by
    cases token <;> exact ⟨_, _, _, rfl⟩
  rw [htoken] at htail
  simp only [List.cons_append, List.cons.injEq] at htail
  obtain ⟨rfl, rfl, rfl, -⟩ := htail
  exact hnone token htoken

end PercentsName

section Substitute

variable (ctx : NamingContext) (options : NamingOptions)

theorem substitute_literal {c : Char} (h : c ≠ '%') (rest : List Char) :
    substitute ctx options (c :: rest) = c :: substitute ctx options rest := by
  refine substitute_cons ctx options ?_
  rintro ⟨x, y, z, tail, heq, -⟩
  exact h (List.cons.inj heq).1

theorem substitute_of_namesNothing {cs : List Char} (h : PercentsName NamesNothing cs) :
    substitute ctx options cs = cs := by
  refine h.induction (motive := fun cs => substitute ctx options cs = cs) rfl ?_ ?_
  · intro x y z rest hnothing ih
    rw [substitute_unknown ctx options hnothing.1 hnothing.2, ih]
  · intro c rest hc ih
    rw [substitute_literal ctx options hc, ih]

/-- A placeholder of a token makes room for a value without `%`, and any other one stays. -/
theorem namesNothing_substitute {template : List Char}
    (h : PercentsName (fun x y z => isTokenName x y z = true) template)
    (hvalues : ∀ token : Token, token.placeholder.toList <:+: template →
      '%' ∉ (token.value ctx options).toList) :
    PercentsName NamesNothing (substitute ctx options template) := by
  revert hvalues
  refine h.induction (motive := fun template =>
    (∀ token : Token, token.placeholder.toList <:+: template →
      '%' ∉ (token.value ctx options).toList) →
    PercentsName NamesNothing (substitute ctx options template)) ?_ ?_ ?_
  · exact fun _ => PercentsName.of_not_mem List.not_mem_nil
  · intro x y z rest hname ih hvalues
    have ih := ih fun token hinside =>
      hvalues token (hinside.trans (List.suffix_append ['%', x, y, z] rest).isInfix)
    cases htoken : Token.named? [x, y, z] with
    | some token =>
        have hletters := Token.named?_eq_some_iff.1 htoken
        have hvalue : '%' ∉ (token.value ctx options).toList := by
          refine hvalues token (List.IsPrefix.isInfix ⟨rest, ?_⟩)
          rw [Token.placeholder, String.toList_append, hletters]
          rfl
        rw [substitute_known ctx options hletters]
        exact (PercentsName.of_not_mem hvalue).append ih
    | none =>
        have hnone := Token.named?_eq_none_iff.1 htoken
        rw [substitute_unknown ctx options hname hnone]
        exact (PercentsName.placeholder hname ⟨hname, hnone⟩).append ih
  · intro c rest hc ih hvalues
    have ih := ih fun token hinside => hvalues token (hinside.trans (List.suffix_cons c rest).isInfix)
    have hone : '%' ∉ [c] := fun hmem => hc (List.mem_singleton.1 hmem).symm
    rw [substitute_literal ctx options hc]
    exact (PercentsName.of_not_mem hone).append ih

end Substitute

/-- If every `%` of a template starts a placeholder and the tokens that the template names have
values without `%`, then no placeholder of a token is left, and substituting again changes
nothing. -/
theorem substitute_leaves_no_placeholder (ctx : NamingContext) (options : NamingOptions)
    (template : List Char) (hstarts : PercentsName (fun x y z => isTokenName x y z = true) template)
    (hvalues : ∀ token : Token, token.placeholder.toList <:+: template →
      '%' ∉ (token.value ctx options).toList) :
    (∀ token : Token, ¬ token.placeholder.toList <:+: substitute ctx options template) ∧
      ∀ (ctx' : NamingContext) (options' : NamingOptions),
        substitute ctx' options' (substitute ctx options template) =
          substitute ctx options template := by
  have hleft := namesNothing_substitute ctx options hstarts hvalues
  exact ⟨hleft.not_infix, fun ctx' options' => substitute_of_namesNothing ctx' options' hleft⟩

/-- A censored file, for which `%cen` stands for the name of its own token. -/
def censoredContext : NamingContext :=
  { sampleContext with
    file := { sampleContext.file with release := some { id := 9, censored := true } } }

/-- The value comes to stand behind a `%` and three characters that have no token. -/
theorem substitute_leaves_no_placeholder_censored :
    PercentsName (fun x y z => isTokenName x y z = true) "%xyz%cen".toList ∧
      (∀ token : Token, token.placeholder.toList <:+: "%xyz%cen".toList →
        '%' ∉ (token.value censoredContext {}).toList) ∧
      substitute censoredContext {} "%xyz%cen".toList = "%xyzcen".toList ∧
      (∀ token : Token, ¬ token.placeholder.toList <:+: "%xyzcen".toList) ∧
      substitute censoredContext {} "%xyzcen".toList = "%xyzcen".toList := by
  have hstarts : PercentsName (fun x y z => isTokenName x y z = true) "%xyz%cen".toList :=
    (PercentsName.placeholder (x := 'x') (by decide) (by decide)).append
      (PercentsName.placeholder (x := 'c') (by decide) (by decide))
  have hvalues : ∀ token : Token, token.placeholder.toList <:+: "%xyz%cen".toList →
      '%' ∉ (token.value censoredContext {}).toList := by
    intro token _
    cases token <;> decide +kernel
  have hresult : substitute censoredContext {} "%xyz%cen".toList = "%xyzcen".toList := by
    decide +kernel
  obtain ⟨hnone, hagain⟩ := substitute_leaves_no_placeholder censoredContext {} _ hstarts hvalues
  rw [hresult] at hnone hagain
  exact ⟨hstarts, hvalues, hresult, hnone, hagain censoredContext {}⟩

/-- A stray `%` makes up a placeholder with the value behind it. -/
example : substitute censoredContext {} "%%cen".toList = "%cen".toList := by decide +kernel

end MediaShelf
