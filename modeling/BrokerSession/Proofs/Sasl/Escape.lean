import BrokerSession.Proofs.Sasl.Messages

namespace BrokerSession.Scram

/-!
# Escaped names

A name is escaped before it stands in a list of attributes: its equals signs
first and then its commas, so that no escape is escaped again.  What comes out
has no comma, and each of its equals signs begins an escape.  Every text of this
kind is the escaped form of one name, which is found in a single pass.
-/

/-- A text with every occurrence of a character replaced. -/
def substitute (char : Char) (replacement text : List Char) : List Char :=
  text.flatMap fun other => if other = char then replacement else [other]

/-- Put the separators back for their escapes, in one pass from the left. -/
def unescape : List Char → List Char
  | [] => []
  | '=' :: '3' :: 'D' :: rest => '=' :: unescape rest
  | '=' :: '2' :: 'C' :: rest => ',' :: unescape rest
  | char :: rest => char :: unescape rest

/-- Whether a text has no separators but the equals signs of its escapes. -/
structure IsEscaped (text : List Char) : Prop where
  noComma : ',' ∉ text
  begins :
    ∀ after, '=' :: after <:+ text →
      ['3', 'D'] <+: after ∨ ['2', 'C'] <+: after

/-! ## One character at a time -/

/-- An equals sign is escaped by three characters. -/
theorem escape_equals (rest : List Char) :
    escape ('=' :: rest) = '=' :: '3' :: 'D' :: escape rest :=
  rfl

/-- A comma is escaped by three characters. -/
theorem escape_comma (rest : List Char) :
    escape (',' :: rest) = '=' :: '2' :: 'C' :: escape rest :=
  rfl

/-- Other characters stand for themselves. -/
theorem escape_cons_of_ne {char : Char} (notEquals : char ≠ '=')
    (notComma : char ≠ ',') (rest : List Char) :
    escape (char :: rest) = char :: escape rest := by
  rw [escape, List.flatMap_cons, escapeChar, if_neg notEquals,
    if_neg notComma]
  rfl

/-- Only an equals sign begins an escape. -/
theorem unescape_cons_of_ne {char : Char} (notEquals : char ≠ '=')
    (rest : List Char) : unescape (char :: rest) = char :: unescape rest := by
  rw [unescape]
  all_goals exact fun _ isEquals => absurd isEquals notEquals

/-- The commas are replaced after the equals signs, which leaves the escapes. -/
theorem escape_eq_substitute (name : List Char) :
    escape name =
      substitute ',' ['=', '2', 'C']
        (substitute '=' ['=', '3', 'D'] name) := by
  rw [escape, substitute, substitute, List.flatMap_assoc]
  congr 1
  funext char
  rw [escapeChar]
  split
  · rfl
  · rw [List.flatMap_singleton]

/-! ## Escaping and back -/

/-- A name comes back from its escaped form. -/
theorem unescape_escape (name : List Char) : unescape (escape name) = name := by
  induction name with
  | nil =>
      rfl
  | cons char rest inductionHypothesis =>
      rcases eq_or_ne char '=' with rfl | notEquals
      · rw [escape_equals, unescape, inductionHypothesis]
      · rcases eq_or_ne char ',' with rfl | notComma
        · rw [escape_comma, unescape, inductionHypothesis]
        · rw [escape_cons_of_ne notEquals notComma,
            unescape_cons_of_ne notEquals, inductionHypothesis]

/-- The rest of an escaped text is escaped. -/
theorem IsEscaped.of_append (before : List Char) {rest : List Char}
    (escaped : IsEscaped (before ++ rest)) : IsEscaped rest where
  noComma := fun comma => escaped.noComma (List.mem_append_right before comma)
  begins := fun after isLater =>
    escaped.begins after (isLater.trans (List.suffix_append before rest))

/-- An escaped text comes back from the name that it escapes. -/
theorem escape_unescape {text : List Char} (escaped : IsEscaped text) :
    escape (unescape text) = text := by
  fun_induction unescape text with
  | case1 =>
      rfl
  | case2 rest inductionHypothesis =>
      rw [escape_equals,
        inductionHypothesis (.of_append ['=', '3', 'D'] escaped)]
  | case3 rest inductionHypothesis =>
      rw [escape_comma,
        inductionHypothesis (.of_append ['=', '2', 'C'] escaped)]
  | case4 char rest notSign notSeparator inductionHypothesis =>
      have notComma : char ≠ ',' := by
        rintro rfl
        exact escaped.noComma List.mem_cons_self
      -- An equals sign here would begin an escape, which was read before.
      have notEquals : char ≠ '=' := by
        rintro rfl
        rcases escaped.begins rest List.suffix_rfl with
          ⟨later, rfl⟩ | ⟨later, rfl⟩
        · exact notSign later rfl rfl
        · exact notSeparator later rfl rfl
      rw [escape_cons_of_ne notEquals notComma,
        inductionHypothesis (.of_append [char] escaped)]

/-- From an escape on, the next equals sign is its own or comes after it. -/
theorem eq_or_suffix_of_suffix {letter other : Char}
    (letterNe : letter ≠ '=') (otherNe : other ≠ '=')
    {after rest : List Char}
    (isLater : '=' :: after <:+ '=' :: letter :: other :: rest) :
    after = letter :: other :: rest ∨ '=' :: after <:+ rest := by
  simp only [List.suffix_cons_iff, List.cons.injEq] at isLater
  rcases isLater with ⟨-, here⟩ | ⟨same, -⟩ | ⟨same, -⟩ | inRest
  · exact .inl here
  · exact absurd same.symm letterNe
  · exact absurd same.symm otherNe
  · exact .inr inRest

/-- An equals sign of an escaped name begins an escape. -/
theorem begins_of_suffix_escape {name after : List Char}
    (isLater : '=' :: after <:+ escape name) :
    ['3', 'D'] <+: after ∨ ['2', 'C'] <+: after := by
  induction name with
  | nil =>
      cases List.suffix_nil.mp isLater
  | cons char rest inductionHypothesis =>
      rcases eq_or_ne char '=' with rfl | notEquals
      · rcases eq_or_suffix_of_suffix (by decide) (by decide) isLater with
          rfl | inRest
        · exact .inl (List.prefix_append ['3', 'D'] (escape rest))
        · exact inductionHypothesis inRest
      · rcases eq_or_ne char ',' with rfl | notComma
        · rcases eq_or_suffix_of_suffix (by decide) (by decide) isLater with
            rfl | inRest
          · exact .inr (List.prefix_append ['2', 'C'] (escape rest))
          · exact inductionHypothesis inRest
        · rw [escape_cons_of_ne notEquals notComma,
            List.suffix_cons_iff] at isLater
          rcases isLater with here | inRest
          · exact absurd (List.cons.inj here).1.symm notEquals
          · exact inductionHypothesis inRest

/-- The escaped names are the texts that hold separators in escapes only. -/
theorem isEscaped_iff_exists_escape {text : List Char} :
    IsEscaped text ↔ ∃ name, escape name = text := by
  constructor
  · intro escaped
    exact ⟨unescape text, escape_unescape escaped⟩
  · rintro ⟨name, rfl⟩
    exact ⟨not_mem_escape name, fun _ => begins_of_suffix_escape⟩

/-! ## Names in a message -/

/--
A name survives escaping.

Its escaped form has no comma, and each equals sign in it begins one of the two
escapes; replacing these in one pass gives the name back, so no other name has
the same escaped form.  Whatever the name is, a client's first message is read
as the escaped name and the nonce, as long as the nonce has no comma.
-/
theorem names_survive_escaping (username : String) :
    escape username.toList =
        substitute ',' ['=', '2', 'C']
          (substitute '=' ['=', '3', 'D'] username.toList) ∧
      IsEscaped (escape username.toList) ∧
      unescape (escape username.toList) = username.toList ∧
      (∀ other : String,
        escape other.toList = escape username.toList → other = username) ∧
      (∀ nonce : String, ',' ∉ nonce.toList →
        attributes (clientFirstBare username nonce) =
          .ok [('n', escape username.toList), ('r', nonce.toList)]) := by
  have recovered := unescape_escape username.toList
  refine ⟨escape_eq_substitute _, isEscaped_iff_exists_escape.mpr ⟨_, rfl⟩,
    recovered, ?_, ?_⟩
  · intro other same
    apply String.toList_injective
    rw [← recovered, ← same, unescape_escape]
  · intro nonce separate
    exact attributes_eq_ok_iff.mpr (lists_clientFirstBare username separate)

/-- A name that looks escaped before it is, and a nonce with an equals sign. -/
theorem names_survive_escaping_of_written_escapes :
    let escaped := "=3D2C=2C=3D".toList
    ',' ∉ "x=y".toList ∧ escape "=2C,=".toList = escaped ∧
      unescape escaped = "=2C,=".toList ∧
      attributes (clientFirstBare "=2C,=" "x=y") =
        .ok [('n', escaped), ('r', "x=y".toList)] := by
  intro escaped
  have separate : ',' ∉ "x=y".toList := by
    decide
  have isEscape : escape "=2C,=".toList = escaped := by
    decide
  obtain ⟨-, -, recovered, -, reads⟩ := names_survive_escaping "=2C,="
  rw [isEscape] at recovered reads
  exact ⟨separate, isEscape, recovered, reads "x=y" separate⟩

end BrokerSession.Scram
