import FluentRegex.Draft.Basic
import FluentRegex.Proofs.Syntax.Group
import FluentRegex.Proofs.Syntax.Literal
import Mathlib.Data.List.DropRight

/-!
# What calls append

Of a chain of calls only those since the last `clear` count (`calls_sinceClear`). A call that
captures appends its text between parentheses, of which the opening one may be followed by a name
(`addition_of_captures`); no call but a raw one begins with a question mark, so none can change how
a parenthesis or a repetition before it is read (`head_addition`).
-/

namespace FluentRegex

open Text

namespace Call

/-! ## Kinds of calls -/

/-- Whether the call takes text as it is. -/
def isRaw : Call → Bool
  | .range _ _ | .startsWith _ | .endsWith _ | .raw _ => true
  | _ => false

/-- The bounds of a call that repeats what was said last. -/
def repeats? : Call → Option (Nat × Nat)
  | .times n => some (n, n)
  | .between m n => some (Nat.min m n, Nat.max m n)
  | _ => none

/-- The name that a capturing call asks for, if it asks for one. -/
def captures? : Call → Option (Option String)
  | .find _ name | .maybe _ name | .anything name | .anythingBut _ name | .something name
  | .somethingBut _ name | .words name _ | .decimals name _ => some name
  | _ => none

/-- Whether what the call says may be left out. -/
def isOptional : Call → Bool
  | .maybe _ _ => true
  | _ => false

/-- The largest count that the call gives. -/
def largest : Call → Nat
  | .words _ (some n) | .decimals _ (some n) | .times n => n
  | .between m n => Nat.max m n
  | _ => 0

/-- What a capturing call writes between its parentheses. -/
def inside (delimiter : Char) : Call → String
  | .find text _ | .maybe text _ => escape text delimiter
  | .anything _ => ".*"
  | .anythingBut chars _ =>
    if chars.isEmpty then ".*" else classWithout (escape chars delimiter) ++ "*"
  | .something _ => ".+"
  | .somethingBut chars _ =>
    if chars.isEmpty then ".+" else classWithout (escape chars delimiter) ++ "+"
  | .words _ count => classOf "\\w" ++ rounds count
  | .decimals _ count => classOf "\\d" ++ rounds count
  | _ => ""

/-- The forms of what is written between parentheses: escaped text, a dot or a class without some
characters that is repeated, and a class of one letter with a count. -/
inductive Inside (delimiter : Char) : List Char → Prop
  | text (text : List Char) : Inside delimiter (escapeChars delimiter text)
  | dot {sign : Char} (hsign : sign = '*' ∨ sign = '+') : Inside delimiter ['.', sign]
  | without (chars : List Char) {sign : Char} (hsign : sign = '*' ∨ sign = '+') :
    Inside delimiter ('[' :: '^' :: (escapeChars delimiter chars ++ [']', sign]))
  | letter {letter : Char} (hletter : letter = 'w' ∨ letter = 'd') (count : Option Nat) :
    Inside delimiter ('[' :: '\\' :: letter :: ']' :: (rounds count).toList)

theorem inside_cases (c : Call) (delimiter : Char) :
    Inside delimiter (c.inside delimiter).toList := by
  have htext : ∀ text : String, Inside delimiter (escape text delimiter).toList := by
    intro text
    rw [escape, String.toList_ofList]
    exact .text _
  have hwithout : ∀ (chars : String) {sign : String} {d : Char}, sign.toList = [d] →
      d = '*' ∨ d = '+' →
      Inside delimiter (classWithout (escape chars delimiter) ++ sign).toList := by
    intro chars sign d hsign hd
    have hlist : (classWithout (escape chars delimiter) ++ sign).toList =
        '[' :: '^' :: (escapeChars delimiter chars.toList ++ [']', d]) := by
      simp [classWithout, classOf, escape, hsign]
    rw [hlist]
    exact .without _ hd
  have hletter : ∀ {letters : String} {d : Char} (count : Option Nat), letters.toList = ['\\', d] →
      d = 'w' ∨ d = 'd' → Inside delimiter (classOf letters ++ rounds count).toList := by
    intro letters d count hletters hd
    have hlist : (classOf letters ++ rounds count).toList =
        '[' :: '\\' :: d :: ']' :: (rounds count).toList := by
      simp [classOf, hletters]
    rw [hlist]
    exact .letter hd count
  cases c with
  | find text n | maybe text n => exact htext text
  | anything n =>
    rw [inside]
    exact .dot (.inl rfl)
  | something n =>
    rw [inside]
    exact .dot (.inr rfl)
  | anythingBut chars n =>
    rw [inside]
    split
    · exact .dot (.inl rfl)
    · exact hwithout chars rfl (.inl rfl)
  | somethingBut chars n =>
    rw [inside]
    split
    · exact .dot (.inr rfl)
    · exact hwithout chars rfl (.inr rfl)
  | words n count => exact hletter count rfl (.inl rfl)
  | decimals n count => exact hletter count rfl (.inr rfl)
  | _ => exact .text []

theorem captures_of_repeats {c : Call} {bounds : Nat × Nat} (h : c.repeats? = some bounds) :
    c.captures? = none := by
  cases c with
  | times n => rfl
  | between m n => rfl
  | _ => exact absurd h (by simp [repeats?])

theorem repeats_of_captures {c : Call} {asked : Option String} (h : c.captures? = some asked) :
    c.repeats? = none := by
  cases hrepeats : c.repeats? with
  | none => rfl
  | some bounds =>
    rw [captures_of_repeats hrepeats] at h
    exact absurd h (by simp)

/-- The calls that neither take text as it is nor repeat nor capture. -/
theorem plain_cases {c : Call} (hraw : c.isRaw = false) (hrepeats : c.repeats? = none)
    (hcaptures : c.captures? = none) : (∃ text, c = .search text) ∨ (∃ chars, c = .anyOf chars) ∨
      c = .startOfLine ∨ c = .endOfLine ∨ c = .clear := by
  cases c with
  | search text => exact .inl ⟨text, rfl⟩
  | anyOf chars => exact .inr (.inl ⟨chars, rfl⟩)
  | startOfLine => exact .inr (.inr (.inl rfl))
  | endOfLine => exact .inr (.inr (.inr (.inl rfl)))
  | clear => exact .inr (.inr (.inr (.inr rfl)))
  | times n => exact absurd hrepeats (by simp [repeats?])
  | between m n => exact absurd hrepeats (by simp [repeats?])
  | range lo hi => exact absurd hraw (by simp [isRaw])
  | startsWith fragment => exact absurd hraw (by simp [isRaw])
  | endsWith fragment => exact absurd hraw (by simp [isRaw])
  | raw fragment => exact absurd hraw (by simp [isRaw])
  | _ => exact absurd hcaptures (by simp [captures?])

end Call

/-- The calls that count: those after the last `clear`. -/
def sinceClear (cs : List Call) : List Call := cs.rtakeWhile (· ≠ .clear)

theorem suffix_sinceClear (cs : List Call) : sinceClear cs <:+ cs := List.rtakeWhile_suffix _ _

theorem ne_clear_of_mem {cs : List Call} {c : Call} (h : c ∈ sinceClear cs) : c ≠ .clear := by
  simpa using List.mem_rtakeWhile_imp h

theorem sinceClear_eq_self {cs : List Call} (h : ∀ c ∈ cs, c ≠ .clear) : sinceClear cs = cs := by
  rw [sinceClear, List.rtakeWhile_eq_self_iff]
  exact fun c hc => decide_eq_true (h c hc)

namespace Draft

/-! ## Chains -/

theorem call_of_ne_clear {d : Draft} {c : Call} (hc : c ≠ .clear) :
    d.call c = { d with text := d.text ++ (c.addition d).text } := by
  cases c with
  | clear => exact absurd rfl hc
  | _ => rfl

theorem settings_call (d : Draft) (c : Call) : (d.call c).settings = d.settings := by
  cases c <;> rfl

theorem settings_calls (d : Draft) (cs : List Call) : (d.calls cs).settings = d.settings := by
  induction cs generalizing d with
  | nil => rfl
  | cons c cs ih => exact (ih (d.call c)).trans (settings_call d c)

theorem calls_append (d : Draft) (cs ds : List Call) :
    d.calls (cs ++ ds) = (d.calls cs).calls ds := List.foldl_append

/-- An empty draft is empty again after the last `clear`. -/
theorem calls_untilClear (s : Settings) (cs : List Call) :
    (withSettings s).calls (cs.rdropWhile (· ≠ .clear)) = withSettings s := by
  induction cs using List.reverseRecOn with
  | nil => rfl
  | append_singleton cs c ih =>
    by_cases hc : c = .clear
    · subst hc
      rw [List.rdropWhile_concat_neg _ _ _ (by simp), calls_append]
      exact congrArg withSettings (settings_calls (withSettings s) cs)
    · rw [List.rdropWhile_concat_pos _ _ _ (by simpa using hc), ih]

/-- An empty draft says after a chain of calls what was said since the last `clear`. -/
theorem calls_sinceClear (s : Settings) (cs : List Call) :
    (withSettings s).calls cs = (withSettings s).calls (sinceClear cs) := by
  -- the calls up to the last `clear` leave an empty draft behind
  conv => lhs; rw [← List.rdropWhile_append_rtakeWhile (p := (· ≠ .clear)) (l := cs)]
  rw [calls_append, calls_untilClear]
  rfl

/-! ## Capturing calls -/

/-- The name that a group gets when it is asked for: one that can be a name and is not in use. -/
def granted (d : Draft) : Option String → Option String
  | none => none
  | some name => if Syntax.isName name.toList ∧ d.hasName name = false then some name else none

theorem captured_text (d : Draft) (fragment : String) (name : Option String) :
    (d.captured fragment name).text.toList =
      Syntax.openingText (d.granted name) ++ (fragment.toList ++ [')']) := by
  cases name with
  | none => simp [captured, granted, Syntax.openingText]
  | some n =>
    rw [captured, granted]
    by_cases hempty : n.isEmpty = true
    · have hn : n.toList = [] := by
        rw [String.isEmpty_iff] at hempty
        rw [hempty]
        rfl
      simp [hempty, hn, Syntax.isName, Syntax.openingText]
    · by_cases hvalid : Syntax.isName n.toList = true
      · by_cases htaken : d.hasName n = true
        · simp [hempty, hvalid, htaken, Syntax.openingText]
        · simp [hempty, hvalid, htaken, Syntax.openingText]
      · simp [hempty, hvalid, Syntax.openingText]

/-- What a capturing call appends. -/
theorem addition_of_captures {c : Call} {name : Option String} (hc : c.captures? = some name)
    (d : Draft) : (c.addition d).text.toList =
      Syntax.openingText (d.granted name) ++ ((c.inside d.settings.delimiter).toList ++
        (')' :: if c.isOptional then ['?'] else [])) := by
  cases c with
  | find text n =>
    cases hc
    exact captured_text d _ name
  | maybe text n =>
    cases hc
    rw [Call.addition]
    dsimp only
    rw [String.toList_append, captured_text]
    simp [Call.inside, Call.isOptional, escaped]
  | anything n =>
    cases hc
    exact captured_text d _ name
  | anythingBut chars n =>
    cases hc
    rw [Call.addition, Call.inside]
    split
    · exact captured_text d _ name
    · exact captured_text d _ name
  | something n =>
    cases hc
    exact captured_text d _ name
  | somethingBut chars n =>
    cases hc
    rw [Call.addition, Call.inside]
    split
    · exact captured_text d _ name
    · exact captured_text d _ name
  | words n count =>
    cases hc
    exact captured_text d _ name
  | decimals n count =>
    cases hc
    exact captured_text d _ name
  | _ => exact absurd hc (by simp [Call.captures?])

end Draft

/-! ## How additions begin -/

theorem head_escapeChars_ne (delimiter : Char) {d : Char} (hd : isMeta d = true) (hne : d ≠ '\\')
    (text rest : List Char) (hrest : rest.head? ≠ some d) :
    (escapeChars delimiter text ++ rest).head? ≠ some d := by
  cases text with
  | nil => exact hrest
  | cons c cs =>
    obtain ⟨x, r, hx, hstart⟩ := head_escapeChars delimiter c cs
    rw [hx, List.cons_append, List.head?_cons]
    intro h
    obtain rfl := Option.some.inj h
    rcases hstart with rfl | hstart
    · exact hne rfl
    · rw [hd] at hstart
      exact Bool.false_ne_true hstart.symm

/-- What a call that is not raw appends does not begin with a question mark. -/
theorem head_addition {c : Call} (hc : c.isRaw = false) (d : Draft) {rest : List Char}
    (hrest : rest.head? ≠ some '?') : ((c.addition d).text.toList ++ rest).head? ≠ some '?' := by
  cases hcap : c.captures? with
  | some name =>
    rw [Draft.addition_of_captures hcap]
    cases d.granted name <;> simp [Syntax.openingText]
  | none =>
    cases c with
    | search text =>
      rw [Call.addition, Draft.escaped, escape, String.toList_ofList]
      exact head_escapeChars_ne _ rfl (by decide) _ _ hrest
    | anyOf chars =>
      rw [Call.addition]
      dsimp only
      split
      · simpa using hrest
      · simp [classOf]
    | times n => simp [Call.addition, counted]
    | between m n => simp [Call.addition, countedBetween]
    | startOfLine => simp [Call.addition]
    | endOfLine => simp [Call.addition]
    | clear => simpa [Call.addition] using hrest
    | range lo hi => exact absurd hc (by simp [Call.isRaw])
    | startsWith fragment => exact absurd hc (by simp [Call.isRaw])
    | endsWith fragment => exact absurd hc (by simp [Call.isRaw])
    | raw fragment => exact absurd hc (by simp [Call.isRaw])
    | _ => exact absurd hcap (by simp [Call.captures?])

end FluentRegex
