import FluentRegex.Proofs.Chain.Names
import FluentRegex.Proofs.Syntax.Repetition

/-!
# Where the written form of a draft ends

The written form of a draft is its text between two delimiters. A reader that takes a backslash and
the character after it together finds out where it ends: what structured calls append is `Sealed`
against the delimiter, that is, made of such pairs and of single characters other than the
delimiter, and stays so however the pieces are put together.

> `written_ends_at_delimiter`: the delimiter stands by itself at the two ends only.

That needs a delimiter that can be escaped and that no call writes by itself (`signs`).
-/

namespace FluentRegex

open Text

/-! ## Texts with pairs -/

/-- A text as it is read from left to right: a backslash takes the next character with it. -/
def units : List Char → List (List Char)
  | [] => []
  | [c] => [[c]]
  | c :: d :: cs => if c = '\\' then [c, d] :: units cs else [c] :: units (d :: cs)

theorem units_pair (c : Char) (cs : List Char) : units ('\\' :: c :: cs) = ['\\', c] :: units cs :=
  if_pos rfl

theorem units_cons {c : Char} (hc : c ≠ '\\') (cs : List Char) :
    units (c :: cs) = [c] :: units cs := by
  cases cs with
  | nil => rfl
  | cons d cs => exact if_neg hc

/-- Nothing of the text is left out. -/
theorem flatten_units (text : List Char) : (units text).flatten = text := by
  fun_induction units text with
  | case1 => rfl
  | case2 c => rfl
  | case3 d cs ih =>
    rw [List.flatten_cons, ih]
    rfl
  | case4 c d cs hc ih =>
    rw [List.flatten_cons, ih]
    rfl

/-- A text of pairs and of single characters other than the delimiter. -/
inductive Sealed (delimiter : Char) : List Char → Prop
  | nil : Sealed delimiter []
  | pair (c : Char) {cs : List Char} (h : Sealed delimiter cs) : Sealed delimiter ('\\' :: c :: cs)
  | single {c : Char} {cs : List Char} (hdelimiter : c ≠ delimiter) (hescape : c ≠ '\\')
      (h : Sealed delimiter cs) : Sealed delimiter (c :: cs)

namespace Sealed

variable {delimiter : Char} {x y : List Char}

theorem append (hx : Sealed delimiter x) (hy : Sealed delimiter y) :
    Sealed delimiter (x ++ y) := by
  induction hx with
  | nil => exact hy
  | pair c h ih => exact .pair c ih
  | single hdelimiter hescape h ih => exact .single hdelimiter hescape ih

/-- No pair reaches beyond the end of the text. -/
theorem units_append (hx : Sealed delimiter x) (y : List Char) :
    units (x ++ y) = units x ++ units y := by
  induction hx with
  | nil => rfl
  | pair c h ih =>
    rw [List.cons_append, List.cons_append, units_pair, units_pair, ih, List.cons_append]
  | single hdelimiter hescape h ih =>
    rw [List.cons_append, units_cons hescape, units_cons hescape, ih, List.cons_append]

/-- The delimiter does not stand by itself. -/
theorem not_mem_units (hx : Sealed delimiter x) : [delimiter] ∉ units x := by
  induction hx with
  | nil => exact List.not_mem_nil
  | pair c h ih =>
    rw [units_pair, List.mem_cons, not_or]
    exact ⟨by simp, ih⟩
  | single hdelimiter hescape h ih =>
    rw [units_cons hescape, List.mem_cons, not_or]
    exact ⟨fun heq => hdelimiter (List.singleton_inj.1 heq).symm, ih⟩

theorem of_forall (h : ∀ c ∈ x, c ≠ delimiter ∧ c ≠ '\\') : Sealed delimiter x := by
  induction x with
  | nil => exact .nil
  | cons c cs ih =>
    rw [List.forall_mem_cons] at h
    exact .single h.1.1 h.1.2 (ih h.2)

/-- Escaped text is sealed against a delimiter that can be escaped. -/
theorem escapeChars (hdelimiter : isEscapable delimiter = true) (text : List Char) :
    Sealed delimiter (escapeChars delimiter text) := by
  induction text with
  | nil => exact .nil
  | cons c cs ih =>
    rw [FluentRegex.escapeChars]
    by_cases hc : needsEscape delimiter c = true
    · rw [if_pos hc]
      exact .pair c ih
    · rw [if_neg hc]
      have hnot : needsEscape delimiter c = false := Bool.eq_false_iff.2 hc
      refine .single ?_ (ne_of_isMeta (isMeta_eq_false_of_needsEscape hnot) rfl) ih
      intro heq
      refine hc ?_
      rw [heq, needsEscape, hdelimiter, beq_self_eq_true, Bool.and_true, Bool.or_true]

end Sealed

/-! ## What calls write -/

/-- The characters that calls write by themselves, other than letters, digits and angle brackets. -/
def signs : List Char :=
  ['(', ')', '?', '.', '*', '+', '[', ']', '^', '$', '{', '}', ',', '_', '\\']

/-- Whether a character can be written by a call and takes no other character with it. -/
def isBare (c : Char) : Bool :=
  c != '\\' && (signs.contains c || c.isAlphanum || c == '<' || c == '>')

theorem toNat_of_isEscapable {c : Char} (h : isEscapable c = true) : c.toNat < 0x80 := by
  rw [isEscapable, Bool.or_eq_true] at h
  rcases h with h | h
  · rw [isMeta, List.contains_iff_mem] at h
    simp only [List.mem_cons, List.not_mem_nil, or_false] at h
    rcases h with h | h | h | h | h | h | h | h | h | h | h | h | h | h | h | h | h | h
    all_goals
      rw [h]
      decide
  · simp only [Bool.and_eq_true, decide_eq_true_eq] at h
    exact h.1.1.1

/-- A delimiter that can be escaped and that no call writes by itself. -/
structure Delimits (delimiter : Char) : Prop where
  escapable : isEscapable delimiter = true
  not_mem_signs : delimiter ∉ signs

namespace Delimits

variable {delimiter : Char} (h : Delimits delimiter) {c : Call} {d : Draft}

include h

/-- Signs, letters, digits and angle brackets are sealed against the delimiter. -/
theorem sealed_bare {x : List Char} (hx : x.all isBare = true) : Sealed delimiter x := by
  refine Sealed.of_forall fun c hc => ?_
  have hbare := List.all_eq_true.1 hx c hc
  rw [isBare, Bool.and_eq_true, bne_iff_ne] at hbare
  refine ⟨?_, hbare.1⟩
  rintro rfl
  simp only [Bool.or_eq_true, List.contains_iff_mem, beq_iff_eq] at hbare
  rcases hbare.2 with ((hsign | hletter) | rfl) | rfl
  · exact h.not_mem_signs hsign
  · rw [isAlphanum_of_isEscapable h.escapable] at hletter
    exact Bool.false_ne_true hletter
  · exact absurd h.escapable (by decide)
  · exact absurd h.escapable (by decide)

/-- Neither the delimiter nor a backslash stands in a name. -/
theorem sealed_name {name : List Char} (hname : Syntax.isName name = true) :
    Sealed delimiter name := by
  refine Sealed.of_forall fun c hc => ⟨?_, ?_⟩
  · rintro rfl
    refine not_mem_name hname (toNat_of_isEscapable h.escapable)
      (isAlphanum_of_isEscapable h.escapable) (fun hsign => h.not_mem_signs ?_) hc
    simp only [Bool.or_eq_true, beq_iff_eq] at hsign
    rcases hsign with ((rfl | rfl) | rfl) | rfl
    all_goals decide
  · rintro rfl
    exact not_mem_name hname (by decide) rfl (by decide) hc

theorem sealed_openingText {name : Option String}
    (hname : ∀ n ∈ name, Syntax.isName n.toList = true) :
    Sealed delimiter (Syntax.openingText name) := by
  cases name with
  | none => exact h.sealed_bare rfl
  | some n =>
    have hmark : Sealed delimiter ['(', '?', 'P', '<'] := h.sealed_bare rfl
    have hclose : Sealed delimiter ['>'] := h.sealed_bare rfl
    exact hmark.append ((h.sealed_name (hname n rfl)).append hclose)

theorem sealed_digits (n : Nat) : Sealed delimiter (toString n).toList := by
  refine h.sealed_bare (List.all_eq_true.2 fun c hc => ?_)
  rw [toList_toString] at hc
  have hdigit := Nat.isDigit_of_mem_toDigits (by omega) (Nat.le_refl 10) hc
  have hescape : c ≠ '\\' := by
    rintro rfl
    exact absurd hdigit (by decide)
  rw [isBare, Char.isAlphanum, hdigit, bne_iff_ne.2 hescape]
  simp

theorem sealed_counted (n : Nat) : Sealed delimiter (counted n).toList := by
  rw [counted, String.toList_append, String.toList_append]
  refine (Sealed.append ?_ (h.sealed_digits n)).append ?_
  · exact h.sealed_bare rfl
  · exact h.sealed_bare rfl

theorem sealed_countedBetween (low high : Nat) :
    Sealed delimiter (countedBetween low high).toList := by
  unfold countedBetween
  simp only [String.toList_append]
  refine ((((Sealed.append ?_ (h.sealed_digits low)).append ?_).append
    (h.sealed_digits high)).append ?_)
  · exact h.sealed_bare rfl
  · exact h.sealed_bare rfl
  · exact h.sealed_bare rfl

theorem sealed_rounds (count : Option Nat) : Sealed delimiter (rounds count).toList := by
  unfold rounds
  split
  · split
    · exact h.sealed_bare rfl
    · exact h.sealed_counted _
  · exact h.sealed_bare rfl

theorem sealed_classOf {chars : String} (hchars : Sealed delimiter chars.toList) :
    Sealed delimiter (classOf chars).toList := by
  rw [classOf, String.toList_append, String.toList_append]
  refine (Sealed.append ?_ hchars).append ?_
  · exact h.sealed_bare rfl
  · exact h.sealed_bare rfl

theorem sealed_escape (text : String) : Sealed delimiter (escape text delimiter).toList := by
  rw [escape, String.toList_ofList]
  exact .escapeChars h.escapable _

/-- What stands between the parentheses of a capturing call is sealed. -/
theorem sealed_inside (c : Call) : Sealed delimiter (c.inside delimiter).toList := by
  have hforms := c.inside_cases delimiter
  generalize (c.inside delimiter).toList = text at hforms
  have hopen : Sealed delimiter ['[', '^'] := h.sealed_bare rfl
  cases hforms with
  | text text => exact .escapeChars h.escapable text
  | dot hsign =>
    rcases hsign with rfl | rfl
    · exact h.sealed_bare rfl
    · exact h.sealed_bare rfl
  | @without chars sign hsign =>
    have hclose : Sealed delimiter [']', sign] := by
      rcases hsign with rfl | rfl
      · exact h.sealed_bare rfl
      · exact h.sealed_bare rfl
    exact hopen.append ((Sealed.escapeChars h.escapable chars).append hclose)
  | letter hletter count =>
    have hbracket : Sealed delimiter ['['] := h.sealed_bare rfl
    have hclose : Sealed delimiter [']'] := h.sealed_bare rfl
    exact hbracket.append (.pair _ (hclose.append (h.sealed_rounds count)))

/-- What a structured call appends is sealed. -/
theorem sealed_addition (hraw : c.isRaw = false) (hd : d.settings.delimiter = delimiter) :
    Sealed delimiter (c.addition d).text.toList := by
  cases hcaptures : c.captures? with
  | some asked =>
    have hclose : Sealed delimiter (')' :: if c.isOptional then ['?'] else []) := by
      cases c.isOptional
      · exact h.sealed_bare rfl
      · exact h.sealed_bare rfl
    rw [Draft.addition_of_captures hcaptures, hd]
    refine (h.sealed_openingText fun n hn => ?_).append ((h.sealed_inside c).append hclose)
    refine Draft.isName_of_given (d := d) (c := c) ?_
    rw [Draft.given, hcaptures]
    exact hn
  | none =>
    cases hrepeats : c.repeats? with
    | some bounds =>
      cases c with
      | times n => exact h.sealed_counted n
      | between m n => exact h.sealed_countedBetween _ _
      | _ => exact absurd hrepeats (by simp [Call.repeats?])
    | none =>
      rcases Call.plain_cases hraw hrepeats hcaptures with
        ⟨text, rfl⟩ | ⟨chars, rfl⟩ | rfl | rfl | rfl
      · rw [Call.addition, Draft.escaped, hd]
        exact h.sealed_escape text
      · rw [Call.addition, Draft.escaped, hd]
        dsimp only
        split
        · exact .nil
        · exact h.sealed_classOf (h.sealed_escape chars)
      · show Sealed delimiter "^".toList
        exact h.sealed_bare rfl
      · show Sealed delimiter "$".toList
        exact h.sealed_bare rfl
      · exact .nil

/-! ## Along a chain of calls -/

theorem sealed_call (hraw : c.isRaw = false) (hd : d.settings.delimiter = delimiter)
    (hsealed : Sealed delimiter d.text.toList) : Sealed delimiter (d.call c).text.toList := by
  by_cases hclear : c = .clear
  · rw [hclear]
    exact .nil
  · rw [Draft.call_of_ne_clear hclear, String.toList_append]
    exact hsealed.append (h.sealed_addition hraw hd)

/-- The text of a draft stays sealed along a chain of structured calls. -/
theorem sealed_calls {cs : List Call} (hraw : ∀ c ∈ cs, c.isRaw = false)
    (hd : d.settings.delimiter = delimiter) (hsealed : Sealed delimiter d.text.toList) :
    Sealed delimiter (d.calls cs).text.toList := by
  induction cs generalizing d with
  | nil => exact hsealed
  | cons c cs ih =>
    rw [List.forall_mem_cons] at hraw
    refine ih hraw.2 ?_ (h.sealed_call hraw.1 hd hsealed)
    rw [Draft.settings_call, hd]

end Delimits

/-- Read from left to right, where a backslash takes the next character with it, the written form of
a draft made by structured calls has the delimiter by itself exactly twice, at its beginning and at
its end, and the text of the draft between them. This holds of every delimiter that can be escaped
and that no call writes by itself, whatever texts, characters and names the calls are given. -/
theorem written_ends_at_delimiter (s : Settings) (hescapable : isEscapable s.delimiter = true)
    (hsigns : s.delimiter ∉ signs) (cs : List Call) (hraw : ∀ c ∈ cs, c.isRaw = false) :
    ∃ between, units ((Draft.withSettings s).calls cs).written.toList =
        [s.delimiter] :: (between ++ [[s.delimiter]]) ∧
      [s.delimiter] ∉ between ∧
      between.flatten = ((Draft.withSettings s).calls cs).text.toList := by
  have h : Delimits s.delimiter := ⟨hescapable, hsigns⟩
  have hsealed : Sealed s.delimiter ((Draft.withSettings s).calls cs).text.toList :=
    h.sealed_calls hraw rfl .nil
  have hescape : s.delimiter ≠ '\\' := fun heq => hsigns (by rw [heq]; decide)
  refine ⟨units ((Draft.withSettings s).calls cs).text.toList, ?_, hsealed.not_mem_units,
    flatten_units _⟩
  have hwritten : ((Draft.withSettings s).calls cs).written.toList =
      s.delimiter :: (((Draft.withSettings s).calls cs).text.toList ++ [s.delimiter]) := by
    rw [Draft.written, Draft.settings_calls]
    simp [Draft.withSettings]
  rw [hwritten, units_cons hescape, hsealed.units_append, units]

/-- Backslashes before a delimiter, and a delimiter at the end of the text. -/
theorem written_with_backslashes : ∃ between,
    units ((Draft.withSettings {}).calls [.find "a\\/" (some "_"), .anyOf "/\\",
      .search "/"]).written.toList = ['/'] :: (between ++ [['/']]) ∧
    ['/'] ∉ between ∧ between.flatten = "(?P<_>a\\\\\\/)[\\/\\\\]\\/".toList := by
  obtain ⟨between, hunits, hnot, htext⟩ := written_ends_at_delimiter {} (by decide) (by decide)
    [.find "a\\/" (some "_"), .anyOf "/\\", .search "/"] (by decide)
  exact ⟨between, hunits, hnot, htext.trans (by decide)⟩

end FluentRegex
