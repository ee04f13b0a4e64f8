import FluentRegex.Proofs.Syntax.Literal
import FluentRegex.Text.Fragment

/-!
# Reading classes

A class of escaped characters is read as the list of these characters (`adds_class`). None of its
items can be taken for a sign of negation, for an operator, for a range or for the end of the
class: each begins with a backslash or with a character without a meaning of its own, and so does
what follows it, up to the closing bracket. The classes of one letter are read in the same way
(`adds_shorthand`).
-/

namespace FluentRegex.Syntax

/-- What an item of a class may begin with: a backslash or a character without a meaning of its
own. -/
def StartsItem (x : Char) : Prop := x = '\\' ∨ isMeta x = false

theorem StartsItem.ne {x d : Char} (h : StartsItem x) (hd : isMeta d = true) (hne : d ≠ '\\') :
    x ≠ d := by
  rcases h with rfl | h
  · exact hne.symm
  · exact ne_of_isMeta h hd

/-! ## Items -/

theorem setOp?_of_startsItem {c : Cursor} {x : Char} {r : List Char} (hc : c.At (x :: r))
    (hx : StartsItem x) : setOp? c = none := by
  rw [setOp?, hc.rest]
  split
  · next h => exact absurd (List.cons.inj h).1 (hx.ne rfl (by decide))
  · next h => exact absurd (List.cons.inj h).1 (hx.ne rfl (by decide))
  · next h => exact absurd (List.cons.inj h).1 (hx.ne rfl (by decide))
  · rfl

/-- An atom without a hyphen after it is an item. -/
theorem bracketItem_of_atom (unclosed : Fault) (item : ClassTree) {c c' : Cursor} {a : Atom}
    {y : Char} {rest : List Char} (hatom : bracketAtom c = .ok (a, c'))
    (hc' : c'.At (y :: rest)) (hy : y ≠ '-')
    (hitem : classItem (c'.since c.pos) a = .ok item) :
    bracketItem unclosed c = .ok (item, c') := by
  have hpeek : c'.peek? ≠ some '-' := by
    rw [hc'.peek?]
    exact fun h => hy (Option.some.inj h)
  rw [bracketItem, hatom]
  dsimp only
  rw [hc'.skipBlanks, hc'.atEnd, hitem]
  simp only [List.isEmpty_cons, Bool.false_eq_true, if_false]
  rw [if_pos (.inl hpeek)]

/-- What may begin an item is read as one. -/
theorem bracketItems_of_startsItem {fuel : Nat} {b : Bracket} {outer : List Bracket} {c : Cursor}
    {x : Char} {r : List Char} (hc : c.At (x :: r)) (hx : StartsItem x) :
    bracketItems (fuel + 1) b outer c =
      match bracketItem ⟨.classUnclosed, b.opening, none⟩ c with
      | .error e => .error e
      | .ok (item, after) => bracketItems fuel (b.push item) outer after := by
  rw [bracketItems, hc.skipBlanks]
  simp only [hc.peek?, List.head?_cons]
  split
  · next h => exact absurd h (by simp)
  · next h => exact absurd (Option.some.inj h) (hx.ne rfl (by decide))
  · next h => exact absurd (Option.some.inj h) (hx.ne rfl (by decide))
  · split
    · next hop => exact absurd ((setOp?_of_startsItem hc hx).symm.trans hop) (by simp)
    · rfl

/-- An item is put before the items of the class. -/
theorem bracketItems_item {fuel : Nat} {b : Bracket} {outer : List Bracket} {c c' : Cursor}
    {x : Char} {r : List Char} {item : ClassTree} (hc : c.At (x :: r)) (hx : StartsItem x)
    (hitem : bracketItem ⟨.classUnclosed, b.opening, none⟩ c = .ok (item, c')) :
    bracketItems (fuel + 1) b outer c = bracketItems fuel (b.push item) outer c' := by
  rw [bracketItems_of_startsItem hc hx, hitem]

/-- The closing bracket of the outermost class. -/
theorem bracketItems_close {fuel : Nat} {b : Bracket} {c : Cursor} {rest : List Char}
    (hc : c.At (']' :: rest)) :
    bracketItems (fuel + 1) b [] c =
      .ok (.bracket (c.advance.since b.opening.start) b.negated b.inner, c.advance) := by
  rw [bracketItems, hc.skipBlanks]
  simp only [hc.peek?, List.head?_cons]

/-! ## Openings -/

theorem hyphens_of_startsItem {start fuel : Nat} {c : Cursor} {x : Char} {r : List Char}
    (hc : c.At (x :: r)) (hx : StartsItem x) (items : List ClassTree) :
    Bracket.hyphens start fuel c items = .ok (items, c) := by
  cases fuel with
  | zero => rfl
  | succ fuel =>
    have hne : ¬ some x = some '-' := fun h => hx.ne (d := '-') rfl (by decide) (Option.some.inj h)
    rw [Bracket.hyphens, hc.peek?, List.head?_cons, if_neg hne]

/-- The opening of a class, with or without a sign of negation. -/
theorem start_class (negate : Bool) {c : Cursor} {x : Char} {r : List Char}
    (hc : c.At ('[' :: ((if negate then ['^'] else []) ++ x :: r))) (hx : StartsItem x) :
    ∃ b c', Bracket.start c = .ok (b, c') ∧ c'.At (x :: r) ∧
      b.negated = negate ∧ b.pending = none ∧ b.items = [] := by
  have hclose : ¬ some x = some ']' :=
    fun h => hx.ne (d := ']') rfl (by decide) (Option.some.inj h)
  have hcaret : ¬ some x = some '^' :=
    fun h => hx.ne (d := '^') rfl (by decide) (Option.some.inj h)
  cases negate with
  | false =>
    have hfirst : c.advance.At (x :: r) := hc.advance
    refine ⟨⟨c.advance.since c.pos, false, none, c.advance.pos, []⟩, c.advance, ?_, hfirst,
      rfl, rfl, rfl⟩
    rw [Bracket.start, hc.next, hfirst.atEnd, hfirst.peek?]
    simp only [List.isEmpty_cons, Bool.false_eq_true, if_false, List.head?_cons, hcaret,
      hfirst.atEnd, hyphens_of_startsItem hfirst hx, hfirst.peek?, hclose, and_false,
      decide_false]
  | true =>
    have hfirst : c.advance.At ('^' :: x :: r) := hc.advance
    have hbody : c.advance.advance.At (x :: r) := hfirst.advance
    refine ⟨⟨c.advance.advance.since c.pos, true, none, c.advance.advance.pos, []⟩,
      c.advance.advance, ?_, hbody, rfl, rfl, rfl⟩
    rw [Bracket.start, hc.next, hfirst.atEnd, hfirst.peek?]
    simp only [List.isEmpty_cons, Bool.false_eq_true, if_false, List.head?_cons, if_true,
      hfirst.next, hbody.atEnd, hyphens_of_startsItem hbody hx, hbody.peek?, hclose, and_false,
      decide_true]

/-! ## Lists of characters -/

/-- A character without a backslash is an atom of its own. -/
theorem bracketAtom_of_ne {ch : Char} (hne : ch ≠ '\\') {c : Cursor} (hc : c.peek? = some ch) :
    bracketAtom c = .ok (.literal ch false, c.advance) := by
  rw [bracketAtom, hc]
  split
  · next heq => exact absurd (Option.some.inj heq) hne
  · next heq => rw [Option.some.inj heq]
  · next heq => exact absurd heq (by simp)

/-- An escaped character is an atom of its own. -/
theorem bracketAtom_escaped {delimiter ch : Char} {c : Cursor} {rest : List Char}
    (hc : c.At (escapeChars delimiter [ch] ++ rest)) :
    ∃ c', bracketAtom c = .ok (.literal ch false, c') ∧ c'.At rest := by
  rw [escapeChars] at hc
  cases h : needsEscape delimiter ch with
  | true =>
    rw [h, if_pos rfl, escapeChars, List.cons_append, List.singleton_append] at hc
    refine ⟨c.advance.advance, ?_, hc.advance.advance⟩
    rw [bracketAtom, hc.peek?]
    exact escapeSequence_of_isEscapable hc.advance.peek? (isEscapable_of_needsEscape h)
  | false =>
    rw [h, if_neg Bool.false_ne_true, escapeChars, List.singleton_append] at hc
    have hne : ch ≠ '\\' := ne_of_isMeta (isMeta_eq_false_of_needsEscape h) (by decide)
    exact ⟨c.advance, bracketAtom_of_ne hne hc.peek?, hc.advance⟩

/-- What follows an item of a list of characters does not begin with a hyphen. -/
theorem exists_head_escaped (delimiter : Char) (chars rest : List Char) :
    ∃ y r, escapeChars delimiter chars ++ ']' :: rest = y :: r ∧ y ≠ '-' := by
  cases chars with
  | nil => exact ⟨']', rest, rfl, by decide⟩
  | cons ch chars =>
    obtain ⟨y, r, heq, hy⟩ := head_escapeChars delimiter ch chars
    have hstart : StartsItem y := hy
    exact ⟨y, r ++ ']' :: rest, by rw [heq, List.cons_append], hstart.ne rfl (by decide)⟩

/-- A literal of a class that is the given character. -/
def ClassTree.IsChar (t : ClassTree) (ch : Char) : Prop := ∃ span, t = .literal ⟨span, ch, false⟩

/-- A list of escaped characters up to the closing bracket. -/
theorem bracketItems_escaped (delimiter : Char) (chars : List Char) {fuel : Nat} {b : Bracket}
    {c : Cursor} {rest : List Char} (hfuel : chars.length < fuel)
    (hc : c.At (escapeChars delimiter chars ++ ']' :: rest)) :
    ∃ items span c', bracketItems fuel b [] c =
        .ok (.bracket span b.negated ({ b with items := items ++ b.items } : Bracket).inner, c') ∧
      c'.At rest ∧ List.Forall₂ ClassTree.IsChar items chars.reverse := by
  induction chars generalizing fuel b c with
  | nil =>
    obtain ⟨fuel, rfl⟩ : ∃ n, fuel = n + 1 := ⟨fuel - 1, by omega⟩
    exact ⟨[], _, _, bracketItems_close hc, hc.advance, .nil⟩
  | cons ch chars ih =>
    -- one character is read as an item, and the rest with that item pushed
    obtain ⟨fuel, rfl⟩ : ∃ n, fuel = n + 1 := ⟨fuel - 1, by omega⟩
    obtain ⟨x, r, hx, hstart⟩ := head_escapeChars delimiter ch chars
    have hsplit : escapeChars delimiter (ch :: chars) =
        escapeChars delimiter [ch] ++ escapeChars delimiter chars :=
      escapeChars_append delimiter [ch] chars
    have hc' := hc
    rw [hsplit, List.append_assoc] at hc'
    obtain ⟨after, hatom, hafter⟩ := bracketAtom_escaped hc'
    obtain ⟨y, s, hy, hyne⟩ := exists_head_escaped delimiter chars rest
    have hitem := bracketItem_of_atom ⟨.classUnclosed, b.opening, none⟩
      (.literal ⟨after.since c.pos, ch, false⟩) hatom (hy ▸ hafter) hyne rfl
    rw [hx, List.cons_append] at hc
    obtain ⟨items, span, c', hread, hat, hitems⟩ := ih (Nat.lt_of_succ_lt_succ hfuel) hafter
      (b := b.push (.literal ⟨after.since c.pos, ch, false⟩))
    refine ⟨items ++ [.literal ⟨after.since c.pos, ch, false⟩], span, c', ?_, hat, ?_⟩
    · rw [bracketItems_item hc hstart hitem, hread, Bracket.push, List.append_assoc]
      rfl
    · rw [List.reverse_cons]
      exact List.rel_append hitems (.cons ⟨_, rfl⟩ .nil)

/-! ## What a class means -/

section

variable {m : Modes}

theorem ClassTree.IsChar.members (hm : m.unicode = true) {t : ClassTree} {ch : Char}
    (h : t.IsChar ch) : t.members m = .ok (CharSet.singleton ch) := by
  obtain ⟨span, rfl⟩ := h
  rw [ClassTree.members, Literal.resolve, hm]
  rfl

theorem ClassTree.IsChar.tooDeep? {t : ClassTree} {ch : Char} (h : t.IsChar ch) (room : Nat) :
    t.tooDeep? room = none := by
  obtain ⟨span, rfl⟩ := h
  rw [ClassTree.tooDeep?]
  all_goals simp

theorem allMembers_of_isChar (hm : m.unicode = true) {items : List ClassTree} {chars : List Char}
    (h : List.Forall₂ ClassTree.IsChar items chars) :
    ClassTree.allMembers m items =
      .ok (chars.foldr (fun d s => (CharSet.singleton d).union s) CharSet.empty) := by
  induction h with
  | nil => rfl
  | cons ht _ ih =>
    rw [ClassTree.allMembers, ht.members hm]
    dsimp only
    rw [ih]
    rfl

theorem anyTooDeep_of_isChar {items : List ClassTree} {chars : List Char}
    (h : List.Forall₂ ClassTree.IsChar items chars) (room : Nat) :
    ClassTree.anyTooDeep? room items = none := by
  induction h with
  | nil => rfl
  | cons ht _ ih => rw [ClassTree.anyTooDeep?, ht.tooDeep?, ih]; rfl

/-- The items of a class of characters have these characters, and two levels if there is more
than one. -/
theorem current_of_isChar (hm : m.unicode = true) {b : Bracket} {chars : List Char}
    (hne : chars ≠ []) (h : List.Forall₂ ClassTree.IsChar b.items chars.reverse) :
    b.current.members m = .ok (Part.listed chars) ∧
      ∀ room, b.current.tooDeep? room = none ↔ chars.length ≤ 1 ∨ 1 ≤ room := by
  have hrev : List.Forall₂ ClassTree.IsChar b.items.reverse chars := by
    have := List.rel_reverse h
    rwa [List.reverse_reverse] at this
  match chars with
  | [] => exact absurd rfl hne
  | [ch] =>
    rw [List.reverse_singleton] at h
    generalize hitems : b.items = items at h
    cases h with
    | cons ht hnil =>
      cases hnil
      rw [Bracket.current, hitems]
      exact ⟨ht.members hm, fun room => by simp [ht.tooDeep?]⟩
  | ch :: ch' :: chars =>
    -- more than one item is a union, and so one level more
    have hlen := h.length_eq
    rw [List.length_reverse, List.length_cons, List.length_cons] at hlen
    obtain ⟨t, u, ts, hitems⟩ : ∃ t u ts, b.items = t :: u :: ts := by
      match hts : b.items with
      | [] => rw [hts] at hlen; simp at hlen
      | [_] => rw [hts] at hlen; simp at hlen
      | t :: u :: ts => exact ⟨t, u, ts, rfl⟩
    rw [Bracket.current, hitems]
    dsimp only
    rw [← hitems]
    refine ⟨?_, fun room => ?_⟩
    · rw [ClassTree.members, allMembers_of_isChar hm hrev]
      rfl
    · cases room with
      | zero => simp [ClassTree.tooDeep?]
      | succ room => simp [ClassTree.tooDeep?, anyTooDeep_of_isChar hrev]

/-- A class in brackets is one level deeper than what stands in it. -/
theorem isItem_bracket (hm : m.unicode = true) {inner : ClassTree} {s : CharSet} {k : Nat}
    (hmembers : inner.members m = .ok s) (hdepth : ∀ room, inner.tooDeep? room = none ↔ k ≤ room)
    (span : Span) (negate : Bool) :
    (Tree.bracket span negate inner).IsItem m
      ⟨.set (if negate then (folded m s).compl else folded m s), k + 1⟩ where
  expr := by
    rw [Tree.expr, hmembers]
    dsimp only
    rw [negated, hm]
    cases negate <;> rfl
  depth := fun room => by
    cases room with
    | zero => simp [Tree.tooDeep?]
    | succ room =>
      rw [Tree.tooDeep?, hdepth]
      exact Nat.succ_le_succ_iff.symm
  solid := rfl

/-- A class of one or more escaped characters, or of all but these. -/
theorem adds_class (hm : m.unicode = true) (delimiter : Char) (negate : Bool) {chars : List Char}
    (hne : chars ≠ []) {p : Progress} {rest : List Char}
    (hp : p.cursor.At ('[' :: ((if negate then ['^'] else []) ++
      (escapeChars delimiter chars ++ ']' :: rest)))) :
    ∃ q, p.Adds m [Part.ofChars m negate chars] p.groups rest q := by
  obtain ⟨ch, tail, htail⟩ : ∃ ch tail, chars = ch :: tail := List.exists_cons_of_ne_nil hne
  obtain ⟨x, r, hx, hstart⟩ := head_escapeChars delimiter ch tail
  rw [← htail] at hx
  have hopen := hp
  rw [hx, List.cons_append] at hopen
  obtain ⟨b, c, hb, hc, rfl, hpending, hitems⟩ := start_class negate hopen hstart
  rw [← List.cons_append, ← hx] at hc
  -- an escaped character takes up one place at least, so the text bounds the items
  have hfuel : chars.length < c.rest.length + 1 := by
    rw [hc.rest, List.length_append]
    exact Nat.lt_succ_of_le (Nat.le_trans (length_le_escapeChars delimiter chars)
      (Nat.le_add_right _ _))
  obtain ⟨items, span, c', hread, hat, hchars⟩ :=
    bracketItems_escaped delimiter chars hfuel hc (b := b)
  rw [hitems, List.append_nil, Bracket.inner] at hread
  dsimp only at hread
  rw [hpending] at hread
  obtain ⟨hmembers, hdepth⟩ :=
    current_of_isChar hm (b := { b with items := items }) hne hchars
  have hstep : p.step '[' = .ok (p.push
      (.bracket span b.negated ({ b with items := items } : Bracket).current) c') := by
    rw [Progress.step, bracketClass, hb]
    dsimp only
    rw [hread]
    simp only [hpending]
  have hlevels : ∀ room, ({ b with items := items } : Bracket).current.tooDeep? room = none ↔
      (if chars.length ≤ 1 then 0 else 1) ≤ room := by
    intro room
    rw [hdepth]
    split
    · omega
    · omega
  have hpart : Part.ofChars m b.negated chars = ⟨.set (if b.negated then
      (folded m (Part.listed chars)).compl else folded m (Part.listed chars)),
      (if chars.length ≤ 1 then 0 else 1) + 1⟩ := by
    rw [Part.ofChars]
    congr 1
    split <;> rfl
  rw [hpart]
  refine ⟨_, Progress.adds_push hp hstep hat ?_ (isItem_bracket hm hmembers hlevels span b.negated)⟩
  rw [List.length_append, List.length_append, List.length_cons]
  omega

/-! ## Classes of one letter -/

theorem escapeSequence_shorthand {letter : Char} {s : Shorthand}
    (hs : shorthand? letter = some (false, s)) {c : Cursor} (hc : c.advance.peek? = some letter) :
    escapeSequence c = .ok (.shorthand false s, c.advance.advance) := by
  rw [escapeSequence, hc]
  dsimp only
  rw [hs]
  unfold shorthand? at hs
  split at hs
  all_goals first
    | rfl
    | exact absurd hs (by simp)

/-- A class of one letter in brackets. -/
theorem adds_shorthand (hm : m.unicode = true) {letter : Char} {s : Shorthand}
    (hs : shorthand? letter = some (false, s)) {p : Progress} {rest : List Char}
    (hp : p.cursor.At ('[' :: '\\' :: letter :: ']' :: rest)) :
    ∃ q, p.Adds m [Part.shorthand m s] p.groups rest q := by
  obtain ⟨b, c, hb, hc, hnegated, hpending, hitems⟩ := start_class false hp (.inl rfl)
  have hatom : bracketAtom c = .ok (.shorthand false s, c.advance.advance) := by
    rw [bracketAtom, hc.peek?]
    exact escapeSequence_shorthand hs hc.advance.peek?
  have hitem := bracketItem_of_atom ⟨.classUnclosed, b.opening, none⟩
    (.shorthand (c.advance.advance.since c.pos) false s) hatom hc.advance.advance (by decide) rfl
  have hfuel : c.rest.length + 1 = (c.rest.length - 1) + 1 + 1 := by
    rw [hc.rest, List.length_cons]
    omega
  have hstep : p.step '[' = .ok (p.push (.bracket
      (c.advance.advance.advance.since b.opening.start) b.negated
      (.shorthand (c.advance.advance.since c.pos) false s)) c.advance.advance.advance) := by
    rw [Progress.step, bracketClass, hb]
    dsimp only
    rw [hfuel, bracketItems_item hc (.inl rfl) hitem, bracketItems_close hc.advance.advance,
      Bracket.inner, Bracket.push]
    dsimp only
    rw [hpending, Bracket.current]
    dsimp only
    rw [hitems]
  have hmembers : (ClassTree.shorthand (c.advance.advance.since c.pos) false s).members m =
      .ok (s.members true) := by
    rw [ClassTree.members, shorthandSet, negated, if_neg Bool.false_ne_true, hm]
  rw [hnegated] at hstep
  refine ⟨_, Progress.adds_push hp hstep hc.advance.advance.advance ?_
    (isItem_bracket hm hmembers (k := 0) (fun room => ?_) _ false)⟩
  · rw [List.length_cons, List.length_cons, List.length_cons]
    omega
  · simp [ClassTree.tooDeep?]

end

end FluentRegex.Syntax
