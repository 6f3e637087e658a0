import ChatEmbed.Proofs.Classification

/-!
# How placeholders are declared

The argument of a declaration is trimmed, cut at its first space, and what stands before the space
loses one question mark; only then is it checked.  The text of a default may hold spaces and
question marks again, and an empty one disappears in trimming.  What all of this comes to has a
description that needs no order of steps.

* `IsToken` is what can be a token.
* `Declares` says what a trimmed argument declares, and `Replacement.read?_eq_some_iff` that it is
  read so.
* `Replacement.write` is the plainest declaration of a placeholder, and `Replacement.read?_write`
  reads it back.
-/

set_option autoImplicit false

namespace ChatEmbed

/-- A text without a character does not end with it. -/
theorem Text.dropEnd?_of_not_mem {c : Char} {s : Text} (h : c ∉ s) : dropEnd? [c] s = none :=
  dropEnd?_eq_none (List.cons_ne_nil c []) fun hlast ↦ h (List.mem_of_getLast? hlast)

/-- A text that can be a token: it is not empty, and has neither a space nor a question mark. -/
structure IsToken (token : Text) : Prop where
  nonempty : token ≠ []
  space : ' ' ∉ token
  mark : '?' ∉ token

theorem IsToken.space_not_mem_marked {token : Text} (h : IsToken token) : ' ' ∉ token ++ ['?'] := by
  simp [h.space]

/-- What a trimmed argument declares.  After a question mark the declaration ends, or there is a
space, and all that follows the space is the default. -/
inductive Declares : Text → Replacement → Prop
  | bare {token : Text} (h : IsToken token) : Declares token ⟨token, none⟩
  | marked {token : Text} (h : IsToken token) : Declares (token ++ ['?']) ⟨token, some []⟩
  | valued {token : Text} (h : IsToken token) (rest : Text) :
      Declares (token ++ '?' :: ' ' :: rest) ⟨token, some (Text.trim rest)⟩

theorem Declares.isToken {argument : Text} {r : Replacement} (h : Declares argument r) :
    IsToken r.token := by
  cases h with
  | bare h | marked h | valued h => exact h

namespace Replacement

/-- A placeholder with a token that is checked at the end of reading. -/
theorem filter_token_eq_some_iff {declared : Option Replacement} {r : Replacement} :
    (declared.filter fun r ↦ !r.token.isEmpty && !r.token.contains '?') = some r ↔
      declared = some r ∧ r.token ≠ [] ∧ '?' ∉ r.token := by
  simp [Option.filter_eq_some_iff]

theorem declares_of_read? {argument : Text} {r : Replacement} (h : read? argument = some r) :
    Declares (Text.trim argument) r := by
  rw [read?] at h
  generalize Text.trim argument = a at h
  cases hcut : Text.cut? ' ' a with
  | none =>
    have hspace : ' ' ∉ a := Text.cut?_eq_none_iff.mp hcut
    rw [hcut] at h
    obtain ⟨hread, hne, hmark⟩ := filter_token_eq_some_iff.mp h
    cases hdrop : Text.dropEnd? ['?'] a with
    | none =>
      rw [hdrop] at hread
      cases hread
      exact .bare ⟨hne, hspace, hmark⟩
    | some token =>
      obtain rfl := Text.dropEnd?_eq_some_iff.mp hdrop
      rw [hdrop] at hread
      cases hread
      exact .marked ⟨hne, fun hmem ↦ hspace (List.mem_append_left _ hmem), hmark⟩
  | some parts =>
    obtain ⟨head, rest⟩ := parts
    obtain ⟨rfl, hspace⟩ := Text.cut?_eq_some_iff.mp hcut
    rw [hcut] at h
    obtain ⟨hread, hne, hmark⟩ := filter_token_eq_some_iff.mp h
    cases hdrop : Text.dropEnd? ['?'] head with
    | none =>
      -- a default without the question mark before it
      rw [hdrop] at hread
      cases hread
    | some token =>
      obtain rfl := Text.dropEnd?_eq_some_iff.mp hdrop
      rw [hdrop] at hread
      cases hread
      rw [List.append_assoc]
      exact .valued ⟨hne, fun hmem ↦ hspace (List.mem_append_left _ hmem), hmark⟩ rest

theorem read?_of_declares {argument : Text} {r : Replacement}
    (h : Declares (Text.trim argument) r) : read? argument = some r := by
  have hchecked := filter_token_eq_some_iff.mpr ⟨rfl, h.isToken.nonempty, h.isToken.mark⟩
  rw [← hchecked, read?]
  generalize Text.trim argument = a at h
  cases h with
  | bare h =>
    rw [Text.cut?_eq_none_iff.mpr h.space]
    dsimp only
    rw [Text.dropEnd?_of_not_mem h.mark]
  | @marked token h =>
    rw [Text.cut?_eq_none_iff.mpr h.space_not_mem_marked]
    dsimp only
    rw [Text.dropEnd?_append]
    rfl
  | @valued token h rest =>
    have hcut : Text.cut? ' ' (token ++ '?' :: ' ' :: rest) = some (token ++ ['?'], rest) :=
      Text.cut?_eq_some_iff.mpr ⟨by simp, h.space_not_mem_marked⟩
    rw [hcut]
    dsimp only
    rw [Text.dropEnd?_append]
    rfl

/-- **What an argument declares** is what is read from it, and from other arguments nothing is
read. -/
theorem read?_eq_some_iff {argument : Text} {r : Replacement} :
    read? argument = some r ↔ Declares (Text.trim argument) r :=
  ⟨declares_of_read?, read?_of_declares⟩

/-! ## Declarations written -/

/-- The plainest declaration of a placeholder: its token, and its default after a question mark and
a space. -/
def write : Replacement → Text
  | ⟨token, none⟩ => token
  | ⟨token, some value⟩ => token ++ '?' :: ' ' :: value

/-- **A declaration that is written is read as what it was.** -/
theorem read?_write {r : Replacement} (htoken : IsToken r.token) (visible : Text.Trimmed r.token)
    (given : ∀ value ∈ r.default?, Text.Trimmed value) : read? r.write = some r := by
  refine read?_of_declares ?_
  obtain ⟨token, default?⟩ := r
  cases default? with
  | none =>
    rw [write, visible.trim_eq]
    exact .bare htoken
  | some value =>
    have hvalue : Text.Trimmed value := given value rfl
    by_cases hempty : value = []
    · -- the space at the end is trimmed, and so is the reason to think of a default
      subst hempty
      have hmarked : Text.Trimmed (token ++ ['?']) :=
        visible.append (Text.trimmed_singleton (by decide)) htoken.nonempty
          (List.cons_ne_nil _ _) []
      have hspace : Text.trim ([] ++ (token ++ ['?'] ++ [' '])) = Text.trim (token ++ ['?']) :=
        Text.trim_surrounded (List.forall_mem_nil _) (List.forall_mem_singleton.mpr (by decide))
      rw [List.nil_append, List.append_assoc, hmarked.trim_eq] at hspace
      rw [write, show Text.trim (token ++ ['?', ' ']) = token ++ ['?'] from hspace]
      exact .marked htoken
    · have hwritten : Text.Trimmed (token ++ '?' :: ' ' :: value) :=
        visible.append hvalue htoken.nonempty hempty ['?', ' ']
      rw [write, hwritten.trim_eq]
      have hdeclares := Declares.valued htoken value
      rwa [hvalue.trim_eq] at hdeclares

end Replacement

namespace Command

theorem decode_replace_eq (argument : Text) :
    decode "replace".toList argument =
      match Replacement.read? argument with
      | some declaration => .ok (.replace declaration)
      | none => .error .replacement :=
  rfl

/-- **How placeholders are declared.**  The command is understood exactly if its argument, trimmed,
declares a placeholder: a token, a token with a question mark, or these with a space and any default
after them, which is trimmed again.  If it does not, that is the fault that is found.

Any token and any default without blanks at their ends can be declared: they are read back from the
declaration that is written for them. -/
theorem decode_replace :
    (∀ argument command, decode "replace".toList argument = .ok command ↔
      ∃ r, Declares (Text.trim argument) r ∧ command = .replace r) ∧
    (∀ argument, (¬∃ r, Declares (Text.trim argument) r) →
      decode "replace".toList argument = .error .replacement) ∧
    ∀ r : Replacement, IsToken r.token → Text.Trimmed r.token →
      (∀ value ∈ r.default?, Text.Trimmed value) →
      decode "replace".toList r.write = .ok (.replace r) := by
  simp only [← Replacement.read?_eq_some_iff, decode_replace_eq]
  refine ⟨fun argument command ↦ ?_, fun argument h ↦ ?_, fun r htoken visible given ↦ ?_⟩
  · cases Replacement.read? argument <;> simp [eq_comm]
  · cases hread : Replacement.read? argument with
    | none => rfl
    | some r => exact absurd ⟨r, hread⟩ h
  · rw [Replacement.read?_write htoken visible given]

/-- A token with a blank in it that is no space, a default with a question mark, an empty default,
and one question mark too many. -/
theorem decode_replace_widespace :
    (Declares (Text.trim "\ta\u2003b?  x ? y ") ⟨"a\u2003b", some "x ? y"⟩ ∧
      decode "replace".toList "\ta\u2003b?  x ? y " = .ok (.replace ⟨"a\u2003b", some "x ? y"⟩)) ∧
    ((¬∃ r, Declares (Text.trim "a?? b") r) ∧
      decode "replace".toList "a?? b" = .error .replacement) ∧
    IsToken "a\u2003b" ∧ Text.Trimmed "a\u2003b" ∧ Text.Trimmed [] ∧
      decode "replace".toList "a\u2003b? " = .ok (.replace ⟨"a\u2003b", some []⟩) := by
  obtain ⟨hdecode, hfault, hwritten⟩ := decode_replace
  have hdeclares : Declares (Text.trim "\ta\u2003b?  x ? y ") ⟨"a\u2003b", some "x ? y"⟩ :=
    Replacement.read?_eq_some_iff.mp (by decide)
  have hnone : ¬∃ r, Declares (Text.trim "a?? b") r := by
    rintro ⟨r, hr⟩
    have hread : none = some r := Replacement.read?_eq_some_iff.mpr hr
    cases hread
  have htoken : IsToken "a\u2003b" := ⟨by decide, by decide, by decide⟩
  have htrimmed : Text.Trimmed "a\u2003b" := Text.trimmed_trim "a\u2003b"
  refine ⟨⟨hdeclares, (hdecode _ _).mpr ⟨_, hdeclares, rfl⟩⟩, ⟨hnone, hfault _ hnone⟩, htoken,
    htrimmed, Text.trimmed_trim [], ?_⟩
  exact hwritten ⟨"a\u2003b", some []⟩ htoken htrimmed fun _ hvalue ↦
    Option.some.inj hvalue ▸ Text.trimmed_trim []

end Command
end ChatEmbed
