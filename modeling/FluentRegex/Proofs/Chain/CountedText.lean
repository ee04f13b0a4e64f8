import FluentRegex.Machine.Estimate
import FluentRegex.Proofs.Chain.Repeated

/-!
# A count behind a text

A text that is not captured is written without parentheses, so what stands before a count behind it
is its last character. Between the beginning and the end of a line, that chain matches the text with
its last character so many times, where the text so many times was asked for.

> `matches_last_character_repeated`: this is what it matches, and it is the text so many times only
> if that is once, or if the text has a single character.
-/

namespace FluentRegex

open Machine

/-! ## The words of a text -/

/-- Letters one after the other have a single word. -/
theorem prod_letters (cs : List Char) : (cs.map fun c => ({[c]} : Language Char)).prod = {cs} := by
  induction cs with
  | nil => rfl
  | cons c cs ih =>
    rw [List.map_cons, List.prod_cons, ih, Language.mul_def]
    exact Set.image2_singleton

theorem pow_letter (c : Char) (n : Nat) :
    ({[c]} : Language Char) ^ n = {List.replicate n c} := by
  rw [← prod_letters (List.replicate n c), List.map_replicate, List.prod_replicate]

section

variable {s : Settings} (hcase : s.caseInsensitive = false)

include hcase

/-- Where case counts, a character stands for itself alone. -/
theorem words_literal (c : Char) : (Part.literal s.modes c).expr.words = {[c]} := by
  have hset : (Part.literal s.modes c).expr = .set (CharSet.singleton c) :=
    congrArg Expr.set (folded_eq hcase _)
  rw [hset]
  ext w
  constructor
  · rintro ⟨d, hd, rfl⟩
    rw [CharSet.mem_singleton.1 hd]
    rfl
  · rintro rfl
    exact ⟨c, CharSet.mem_singleton.2 rfl, rfl⟩

/-- Characters of which the last is repeated match themselves with the last so many times. -/
theorem hasMatch_counted (hlines : s.multiLine = false) (init : List Char) (last : Char) (n : Nat)
    (subject : List Char) :
    hasMatch (Part.inSequence (Part.anchor s.modes .lineStart :: (init.map (Part.literal s.modes) ++
        [(Part.literal s.modes last).repeated n (some n)]) ++
        [Part.anchor s.modes .lineEnd])).expr.program subject.toArray = true ↔
      subject = init ++ List.replicate n last := by
  have hrounds : (Expr.rep n (some n) true (Part.literal s.modes last).expr).words =
      {List.replicate n last} := by
    rw [← pow_letter, ← words_literal hcase]
    ext w
    constructor
    · rintro ⟨k, hlow, hhigh, hw⟩
      have hmost := hhigh n rfl
      obtain rfl : k = n := by omega
      exact hw
    · intro hw
      exact ⟨n, Nat.le_refl n, fun k hk => by omega, hw⟩
  have htext : ((init.map (Part.literal s.modes)).map Part.expr).map Expr.words =
      init.map fun c => ({[c]} : Language Char) := by
    rw [List.map_map, List.map_map]
    exact List.map_congr_left fun c _ => words_literal hcase c
  have hpasses : (testing subject).PassesAll
      ((init.map (Part.literal s.modes)).map Part.expr ++
        [Expr.rep n (some n) true (Part.literal s.modes last).expr])
      (0, ()) (subject.length, ()) ↔ subject = init ++ List.replicate n last := by
    rw [passesAll_iff_takes, takes_whole_iff, List.map_append, List.prod_append, htext, prod_letters,
      List.map_singleton, List.prod_singleton, hrounds, Language.mul_def]
    · exact Set.ext_iff.1 Set.image2_singleton subject
    · rw [List.forall_mem_append, List.forall_mem_singleton, List.map_map]
      exact ⟨List.forall_mem_map.2 fun c _ => rfl, rfl⟩
  rw [hasMatch_between hlines, ← hpasses, List.map_append, passesAll_append, passesAll_append]
  refine exists_congr fun z => and_congr_right fun _ => ?_
  rw [List.map_singleton, passesAll_singleton, passesAll_singleton]
  exact passes_repeated n (some n) true _

end

/-! ## The chain with the count -/

/-- A text with a count behind it matches the text with its last character so many times. -/
theorem isMatch_counted_text [Sizing] {s : Settings} (hcase : s.caseInsensitive = false)
    (hlines : s.multiLine = false) {text : String} {init : List Char} {last : Char}
    (htext : text.toList = init ++ [last]) {n : Nat} {r : Regex}
    (hr : (Draft.line s [.search text, .times n]).regex.value = .ok r) (subject : String) :
    ∃ b, ((Draft.line s [.search text, .times n]).isMatch subject).value = .ok b ∧
      (b = true ↔ subject.toList = init ++ List.replicate n last) := by
  have hparts : (Call.search text).partsAfter s.modes [] =
      init.map (Part.literal s.modes) ++ [Part.literal s.modes last] := by
    show text.toList.map (Part.literal s.modes) = _
    rw [htext, List.map_append, List.map_singleton]
  have hcompile := (Draft.value_regex _).symm.trans hr
  have hprogram := program_of_count ⟨rfl, rfl, by simp⟩ hparts rfl hcompile
  refine ⟨r.isMatch subject, by rw [Draft.value_isMatch, hr]; rfl, ?_⟩
  rw [Regex.isMatch, hprogram]
  exact hasMatch_counted hcase hlines init last n subject.toList

/-- The last character so many times is the whole text so many times if that is once, or if there is
nothing before that character. -/
theorem last_repeated_eq_iff (init : List Char) (last : Char) (n : Nat) :
    init ++ List.replicate n last = (List.replicate n (init ++ [last])).flatten ↔
      n = 1 ∨ init = [] := by
  constructor
  · intro h
    have hlength := congrArg List.length h
    rw [List.length_append, List.length_replicate, List.length_flatten, List.map_replicate,
      List.sum_replicate_nat, List.length_append, List.length_singleton, Nat.mul_add,
      Nat.mul_one] at hlength
    have hprod : init.length = n * init.length := by omega
    rcases Nat.eq_zero_or_pos init.length with hnil | hpos
    · exact .inr (List.length_eq_zero_iff.1 hnil)
    · exact .inl (Nat.eq_of_mul_eq_mul_right hpos (by omega))
  · rintro (rfl | rfl)
    · simp
    · simp

/-- Between the beginning and the end of a line, a count behind a text that is not captured repeats
the last character of the text only. So it repeats the text exactly if it stands for once, or if the
text has no other character. -/
theorem matches_last_character_repeated [Sizing] (text : String) (htext : text ≠ "") (n : Nat)
    {r : Regex} (hr : (Draft.line {} [.search text, .times n]).regex.value = .ok r) :
    (∀ subject : String, ∃ b,
      ((Draft.line {} [.search text, .times n]).isMatch subject).value = .ok b ∧
        (b = true ↔ ∃ init last, text.toList = init ++ [last] ∧
          subject.toList = init ++ List.replicate n last)) ∧
    ((∀ subject : String, ((Draft.line {} [.search text, .times n]).isMatch subject).value =
        .ok true ↔ subject = String.join (List.replicate n text)) ↔ n = 1 ∨ text.length = 1) := by
  obtain ⟨init, last, hlast⟩ : ∃ init last, text.toList = init ++ [last] := by
    have hne : text.toList ≠ [] := fun h => htext (String.toList_eq_nil_iff.1 h)
    exact ⟨_, _, (List.dropLast_append_getLast hne).symm⟩
  have hmatch := fun subject => isMatch_counted_text (s := {}) rfl rfl hlast hr subject
  refine ⟨fun subject => ?_, ?_⟩
  · obtain ⟨b, hb, hiff⟩ := hmatch subject
    refine ⟨b, hb, hiff.trans ⟨fun h => ⟨init, last, hlast, h⟩, fun h => ?_⟩⟩
    obtain ⟨init', last', hlast', h⟩ := h
    obtain ⟨rfl, hsame⟩ := List.append_inj' (hlast.symm.trans hlast') rfl
    rw [List.singleton_inj.1 hsame]
    exact h
  · have hrepeated : (String.join (List.replicate n text)).toList =
        (List.replicate n (init ++ [last])).flatten := by
      rw [String.toList_join, List.flatMap_def, List.map_replicate, hlast]
    have hsingle : text.length = 1 ↔ init = [] := by
      rw [← String.length_toList, hlast, List.length_append, List.length_singleton,
        Nat.add_eq_right, List.length_eq_zero_iff]
    have hvalue : ∀ subject : String,
        ((Draft.line {} [.search text, .times n]).isMatch subject).value = .ok true ↔
          subject.toList = init ++ List.replicate n last := by
      intro subject
      obtain ⟨b, hb, hiff⟩ := hmatch subject
      rw [hb, Except.ok.injEq, hiff]
    rw [hsingle, ← last_repeated_eq_iff]
    constructor
    · -- the text with its last character repeated is a subject of its own
      intro h
      have hself := (h (String.ofList (init ++ List.replicate n last))).1
        ((hvalue _).2 String.toList_ofList)
      rw [← hrepeated, ← hself, String.toList_ofList]
    · intro h subject
      rw [hvalue, h, ← hrepeated, String.toList_inj]

section

attribute [local instance] Sizing.estimate

/-- The count leaves the first character of the text as it is. -/
theorem matches_last_of_two : "ab" ≠ "" ∧
    ((Draft.line {} [.search "ab", .times 2]).isMatch "abb").value = .ok true := by
  obtain ⟨r, hr⟩ : ∃ r, (Draft.line {} [.search "ab", .times 2]).regex.value = .ok r := ⟨_, rfl⟩
  obtain ⟨b, hb, hiff⟩ := (matches_last_character_repeated "ab" (by simp) 2 hr).1 "abb"
  exact ⟨by simp, hb.trans (congrArg Except.ok (hiff.2 ⟨['a'], 'b', rfl, rfl⟩))⟩

/-- The text twice is not matched where it is asked for twice. -/
theorem text_twice_not_matched :
    (∃ r, (Draft.line {} [.search "ab", .times 2]).regex.value = .ok r) ∧
    "abab" = String.join (List.replicate 2 "ab") ∧
    ((Draft.line {} [.search "ab", .times 2]).isMatch "abab").value = .ok false := by
  obtain ⟨r, hr⟩ : ∃ r, (Draft.line {} [.search "ab", .times 2]).regex.value = .ok r := ⟨_, rfl⟩
  have htext : "ab".toList = ['a'] ++ ['b'] := rfl
  obtain ⟨b, hb, hiff⟩ := isMatch_counted_text (s := {}) rfl rfl htext hr "abab"
  have hfalse : b = false := Bool.eq_false_iff.2 fun h => absurd (hiff.1 h) (by decide)
  exact ⟨⟨r, hr⟩, rfl, hb.trans (congrArg Except.ok hfalse)⟩

end

end FluentRegex
