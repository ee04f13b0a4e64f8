import FluentRegex.Proofs.Chain.Calls

/-!
# The names that a draft gives

Whether a name is in use is asked of the text of a draft alone. The answer is right
(`hasName_iff`) because every `(?` in the text of structured calls opens a named group: in escaped
text there is none, no addition begins with a question mark, and neither a parenthesis nor an angle
bracket can stand in a name.
-/

namespace FluentRegex

open Text

/-! ## Openings in a text -/

/-- What follows each `(?` in a text. -/
def openings : List Char → List (List Char)
  | [] => []
  | c :: cs => if c = '(' ∧ cs.head? = some '?' then cs.tail :: openings cs else openings cs

theorem openings_append (x : List Char) {y : List Char} (hy : y.head? ≠ some '?') :
    openings (x ++ y) = (openings x).map (· ++ y) ++ openings y := by
  induction x with
  | nil => rfl
  | cons c cs ih =>
    rw [List.cons_append, openings, openings, ih]
    cases cs with
    | nil =>
      rw [List.nil_append, if_neg fun h => hy h.2, if_neg fun h => absurd h.2 (by simp)]
    | cons d ds =>
      rw [List.cons_append, List.head?_cons, List.head?_cons, List.tail_cons, List.tail_cons]
      split
      · rfl
      · rfl

theorem openings_of_not_mem {x : List Char} (h : '(' ∉ x) : openings x = [] := by
  induction x with
  | nil => rfl
  | cons c cs ih =>
    rw [List.mem_cons, not_or] at h
    obtain ⟨hc, hcs⟩ := h
    rw [openings, if_neg fun heq => hc heq.1.symm]
    exact ih hcs

/-- A text stands behind a `(?` if it begins what follows one of them. -/
theorem occursIn_opening (t x : List Char) :
    occursIn ('(' :: '?' :: t) x = true ↔ ∃ o ∈ openings x, t <+: o := by
  induction x with
  | nil => simp [occursIn, openings]
  | cons c cs ih =>
    rw [occursIn, Bool.or_eq_true, ih, openings, List.isPrefixOf_iff_prefix]
    by_cases hc : c = '(' ∧ cs.head? = some '?'
    · obtain ⟨rfl, hhead⟩ := hc
      obtain ⟨ds, rfl⟩ : ∃ ds, cs = '?' :: ds := List.head?_eq_some_iff.1 hhead
      rw [if_pos ⟨rfl, hhead⟩, List.exists_mem_cons_iff, List.prefix_cons_inj,
        List.prefix_cons_inj, List.tail_cons]
    · rw [if_neg hc, or_iff_right]
      intro h
      obtain ⟨r, hr⟩ := h
      injection hr with h1 h2
      exact hc ⟨h1.symm, by rw [← h2]; rfl⟩

/-- Escaped text opens nothing. -/
theorem openings_escapeChars (delimiter : Char) (text : List Char) :
    openings (escapeChars delimiter text) = [] := by
  induction text with
  | nil => rfl
  | cons c cs ih =>
    have hhead : (escapeChars delimiter cs).head? ≠ some '?' := by
      have h := head_escapeChars_ne delimiter (d := '?') rfl (by decide) cs []
        (by simp)
      rwa [List.append_nil] at h
    rw [escapeChars]
    cases h : needsEscape delimiter c with
    | true =>
      rw [if_pos rfl, openings, if_neg (by simp), openings, if_neg fun h => hhead h.2, ih]
    | false =>
      rw [if_neg Bool.false_ne_true, openings, if_neg fun h => hhead h.2, ih]

/-! ## Openings in what calls append -/

theorem not_mem_toDigits (n : Nat) : '(' ∉ Nat.toDigits 10 n := by
  intro h
  have := Nat.isDigit_of_mem_toDigits (by omega) (Nat.le_refl 10) h
  exact absurd this (by decide)

theorem openings_rounds (count : Option Nat) : openings (rounds count).toList = [] := by
  apply openings_of_not_mem
  unfold rounds
  split
  · split
    · decide
    · simp [counted, not_mem_toDigits]
  · decide

/-- Two texts open nothing together if neither does, and no question mark follows the first. -/
theorem openings_append_eq_nil {x y : List Char} (hx : openings x = []) (hy : openings y = [])
    (hhead : y.head? ≠ some '?') : openings (x ++ y) = [] := by
  rw [openings_append x hhead, hx, hy]
  rfl

/-- Between the parentheses of a capturing call nothing opens. -/
theorem openings_inside (c : Call) (delimiter : Char) :
    openings (c.inside delimiter).toList = [] ∧
      (c.inside delimiter).toList.head? ≠ some '?' := by
  have hforms := c.inside_cases delimiter
  generalize (c.inside delimiter).toList = text at hforms
  have hhead : ∀ (text rest : List Char), rest.head? ≠ some '?' →
      (escapeChars delimiter text ++ rest).head? ≠ some '?' :=
    fun text rest hrest => head_escapeChars_ne _ rfl (by decide) _ _ hrest
  cases hforms with
  | text text =>
    have h := hhead text [] (by simp)
    rw [List.append_nil] at h
    exact ⟨openings_escapeChars delimiter text, h⟩
  | @dot sign hsign =>
    refine ⟨openings_of_not_mem ?_, by simp⟩
    rcases hsign with rfl | rfl
    · decide
    · decide
  | @without chars sign hsign =>
    have hclose : openings [']', sign] = [] := by
      refine openings_of_not_mem ?_
      rcases hsign with rfl | rfl
      · decide
      · decide
    have htext := openings_append_eq_nil (openings_escapeChars delimiter chars) hclose (by simp)
    have hopen : openings ['[', '^'] = [] := openings_of_not_mem (by decide)
    refine ⟨?_, by simp⟩
    show openings (['[', '^'] ++ (escapeChars delimiter chars ++ [']', sign])) = []
    exact openings_append_eq_nil hopen htext (hhead chars _ (by simp))
  | @letter letter hletter count =>
    have hclass : openings ['[', '\\', letter, ']'] = [] := by
      refine openings_of_not_mem ?_
      rcases hletter with rfl | rfl
      · decide
      · decide
    refine ⟨?_, by simp⟩
    show openings (['[', '\\', letter, ']'] ++ (rounds count).toList) = []
    refine openings_append_eq_nil hclass (openings_rounds count) ?_
    unfold rounds
    split
    · split
      · simp
      · simp [counted]
    · simp

/-- The opening of a group, up to the end of its name. -/
def namePart (name : String) : List Char := 'P' :: '<' :: (name.toList ++ ['>'])

theorem not_mem_name {name : List Char} (h : Syntax.isName name = true) {d : Char}
    (hascii : d.toNat < 0x80) (hd : d.isAlphanum = false)
    (hsigns : ¬ (d == '_' || d == '.' || d == '[' || d == ']') = true) : d ∉ name := by
  intro hmem
  have hchar := Syntax.isNameChar_of_isName h hmem
  rw [Syntax.isNameChar_eq_false hascii hd hsigns] at hchar
  exact Bool.false_ne_true hchar

/-- The name that a call gives to a group. -/
def Draft.given (d : Draft) (c : Call) : Option String := c.captures?.bind d.granted

theorem Draft.isName_of_given {d : Draft} {c : Call} {name : String}
    (h : d.given c = some name) : Syntax.isName name.toList = true := by
  obtain ⟨asked, -, hasked⟩ := Option.bind_eq_some_iff.1 h
  cases asked with
  | none => exact absurd hasked (by simp [granted])
  | some n =>
    rw [granted] at hasked
    split at hasked
    · next hvalid =>
      obtain rfl := Option.some.inj hasked
      exact hvalid.1
    · exact absurd hasked (by simp)

/-- A capturing call opens a named group if it is given a name, and nothing else. -/
theorem openings_captured {c : Call} {asked : Option String} (hcap : c.captures? = some asked)
    (d : Draft) : ∃ r, openings (c.addition d).text.toList =
      ((d.given c).map fun name => namePart name ++ r).toList := by
  rw [Draft.addition_of_captures hcap]
  obtain ⟨hin, hhead⟩ := openings_inside c d.settings.delimiter
  have hgiven : d.given c = d.granted asked := by rw [Draft.given, hcap]; rfl
  generalize hr : (c.inside d.settings.delimiter).toList ++
    (')' :: if c.isOptional then ['?'] else []) = r
  have hrest : openings r = [] := by
    rw [← hr]
    refine openings_append_eq_nil hin (openings_of_not_mem ?_) (by simp)
    split <;> decide
  have hrhead : r.head? ≠ some '?' := by
    rw [← hr]
    cases hinside : (c.inside d.settings.delimiter).toList with
    | nil => simp
    | cons x xs => rwa [hinside] at hhead
  refine ⟨r, ?_⟩
  cases hg : d.granted asked with
  | none =>
    rw [hgiven, hg, Syntax.openingText, openings_append_eq_nil (by decide) hrest hrhead]
    rfl
  | some n =>
    have hopen : Syntax.openingText (some n) ++ r = '(' :: (('?' :: namePart n) ++ r) := by
      simp [Syntax.openingText, namePart]
    -- no parenthesis can stand in the name itself
    have hname : openings ('?' :: namePart n) = [] := by
      have hnot := not_mem_name (Draft.isName_of_given (hgiven.trans hg)) (d := '(')
        (by decide) rfl (by decide)
      exact openings_of_not_mem (by simp [namePart, hnot])
    rw [hgiven, hg, hopen, openings, if_pos ⟨rfl, rfl⟩,
      openings_append_eq_nil hname hrest hrhead]
    rfl

/-- Other calls open nothing. -/
theorem openings_plain {c : Call} (hraw : c.isRaw = false) (hcap : c.captures? = none)
    (d : Draft) : openings (c.addition d).text.toList = [] := by
  cases c with
  | search text =>
    rw [Call.addition, Draft.escaped, escape, String.toList_ofList, openings_escapeChars]
  | anyOf chars =>
    rw [Call.addition]
    dsimp only
    split
    · exact openings_of_not_mem (by simp)
    · have hlist : (classOf (d.escaped chars)).toList =
          ['['] ++ (escapeChars d.settings.delimiter chars.toList ++ [']']) := by
        simp [classOf, Draft.escaped, escape]
      rw [hlist]
      refine openings_append_eq_nil (by decide) (openings_append_eq_nil
        (openings_escapeChars _ _) (by decide) (by simp)) ?_
      exact head_escapeChars_ne _ rfl (by decide) _ _ (by simp)
  | times n =>
    exact openings_of_not_mem (by simp [Call.addition, counted, not_mem_toDigits])
  | between m n =>
    exact openings_of_not_mem (by simp [Call.addition, countedBetween, not_mem_toDigits])
  | startOfLine => exact openings_of_not_mem (by simp [Call.addition])
  | endOfLine => exact openings_of_not_mem (by simp [Call.addition])
  | clear => exact openings_of_not_mem (by simp [Call.addition])
  | range lo hi => exact absurd hraw (by simp [Call.isRaw])
  | startsWith fragment => exact absurd hraw (by simp [Call.isRaw])
  | endsWith fragment => exact absurd hraw (by simp [Call.isRaw])
  | raw fragment => exact absurd hraw (by simp [Call.isRaw])
  | _ => exact absurd hcap (by simp [Call.captures?])

theorem openings_addition {c : Call} (hraw : c.isRaw = false) (d : Draft) :
    ∃ r, openings (c.addition d).text.toList =
      ((d.given c).map fun name => namePart name ++ r).toList := by
  cases hcap : c.captures? with
  | some asked => exact openings_captured hcap d
  | none =>
    have hgiven : d.given c = none := by rw [Draft.given, hcap]; rfl
    refine ⟨[], ?_⟩
    rw [openings_plain hraw hcap, hgiven]
    rfl

/-! ## The names in use -/

namespace Draft

/-- The text of a draft gives exactly these names to groups. -/
structure Gives (d : Draft) (names : List (Option String)) : Prop where
  known : ∀ o ∈ openings d.text.toList, ∃ n, some n ∈ names ∧ namePart n <+: o
  found : ∀ n, some n ∈ names → ∃ o ∈ openings d.text.toList, namePart n <+: o
  valid : ∀ n, some n ∈ names → Syntax.isName n.toList = true

theorem gives_nil (s : Settings) : (withSettings s).Gives [] :=
  ⟨fun _ h => absurd h List.not_mem_nil, fun _ h => absurd h List.not_mem_nil,
    fun _ h => absurd h List.not_mem_nil⟩

/-- The names after a call are those before and the one that the call is given. -/
theorem Gives.call {d : Draft} {names : List (Option String)} (h : d.Gives names) {c : Call}
    (hraw : c.isRaw = false) (hc : c ≠ .clear) : (d.call c).Gives (names ++ [d.given c]) := by
  obtain ⟨r, hr⟩ := openings_addition hraw d
  have hhead : (c.addition d).text.toList.head? ≠ some '?' := by
    have hrest : ([] : List Char).head? ≠ some '?' := by simp
    have h := head_addition hraw d hrest
    rwa [List.append_nil] at h
  have hall : openings (d.call c).text.toList =
      (openings d.text.toList).map (· ++ (c.addition d).text.toList) ++
        ((d.given c).map fun name => namePart name ++ r).toList := by
    rw [call_of_ne_clear hc, String.toList_append, openings_append _ hhead, hr]
  refine ⟨fun o ho => ?_, fun n hn => ?_, fun n hn => ?_⟩
  · rw [hall, List.mem_append, List.mem_map, Option.mem_toList, Option.map_eq_some_iff] at ho
    rcases ho with ⟨o, ho, rfl⟩ | ⟨n, hn, rfl⟩
    · obtain ⟨n, hn, hpre⟩ := h.known o ho
      exact ⟨n, List.mem_append_left _ hn, hpre.trans (List.prefix_append _ _)⟩
    · refine ⟨n, ?_, List.prefix_append _ _⟩
      rw [hn]
      exact List.mem_append_right _ (List.mem_singleton_self _)
  · rw [hall]
    rcases List.mem_append.1 hn with hn | hn
    · obtain ⟨o, ho, hpre⟩ := h.found n hn
      exact ⟨_, List.mem_append_left _ (List.mem_map_of_mem ho),
        hpre.trans (List.prefix_append _ _)⟩
    · rw [← List.mem_singleton.1 hn]
      exact ⟨_, List.mem_append_right _ (List.mem_singleton_self _), List.prefix_append _ _⟩
  · rcases List.mem_append.1 hn with hn | hn
    · exact h.valid n hn
    · exact isName_of_given (List.mem_singleton.1 hn).symm

/-- Two names whose openings begin one text are the same: a name ends at the angle bracket. -/
theorem eq_of_namePart {n n' : String} (hn : Syntax.isName n.toList = true)
    (hn' : Syntax.isName n'.toList = true) {o : List Char} (h : namePart n <+: o)
    (h' : namePart n' <+: o) : n = n' := by
  -- so a name is what stands before the first angle bracket
  have hends : ∀ {name : String}, Syntax.isName name.toList = true → ∀ r,
      ((name.toList ++ ['>']) ++ r).takeWhile (· != '>') = name.toList := by
    intro name hname r
    have hnot := not_mem_name hname (d := '>') (by decide) rfl (by decide)
    rw [List.append_assoc, List.takeWhile_append_of_pos]
    · simp
    · intro d hd
      exact bne_iff_ne.2 fun heq => hnot (heq ▸ hd)
  obtain ⟨r, rfl⟩ := h
  obtain ⟨r', hr'⟩ := h'
  simp only [namePart, List.cons_append, List.cons.injEq, true_and] at hr'
  have hlists : n.toList = n'.toList := by rw [← hends hn r, ← hr', hends hn' r']
  exact String.toList_injective hlists

/-- A valid name is found in the text of a draft if it is one of those that the text gives. -/
theorem Gives.hasName_iff {d : Draft} {names : List (Option String)} (h : d.Gives names)
    {name : String} (hname : Syntax.isName name.toList = true) :
    d.hasName name = true ↔ some name ∈ names := by
  have hlong : ("(?P<" ++ name ++ ">").toList = '(' :: '?' :: namePart name := by simp [namePart]
  have hshort : ("(?<" ++ name ++ ">").toList = '(' :: '?' :: ('<' :: (name.toList ++ ['>'])) := by
    simp
  rw [hasName, Bool.or_eq_true, hlong, hshort, occursIn_opening, occursIn_opening]
  constructor
  · intro h
    rcases h with ⟨o, ho, hpre⟩ | ⟨o, ho, hpre⟩
    · obtain ⟨n, hn, hpre'⟩ := h.known o ho
      rwa [eq_of_namePart hname (h.valid n hn) hpre hpre']
    · -- every opening goes on with the letter, so the short form does not occur
      obtain ⟨n, -, r', hr'⟩ := h.known o ho
      obtain ⟨r, hr⟩ := hpre
      rw [← hr', namePart] at hr
      simp at hr
  · intro hn
    exact .inl (h.found name hn)

end Draft

end FluentRegex
