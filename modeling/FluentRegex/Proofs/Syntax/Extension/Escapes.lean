import FluentRegex.Proofs.Syntax.Extension.Places
import FluentRegex.Syntax.Count

/-!
# Reading escapes and counts where more text follows

An escape, a count and the sign of a repetition are read in the same way where more text follows
that is `Apart`. Each of them is followed by what ends it, or ends with a character that no others
can follow. A word boundary may be followed by a count, and remains one.
-/

namespace FluentRegex.Syntax

open Cursor

variable {c c' : Cursor} {more : List Char}

/-! ## Code points -/

theorem extends_hexDigits {n : Nat} {ds : List Char} (h : hexDigits n c = .ok (ds, c')) :
    Extends (hexDigits n) c ds c' := by
  induction n generalizing c ds with
  | zero =>
    obtain ⟨rfl, rfl⟩ := Prod.mk.inj (Except.ok.inj h)
    exact ⟨.refl c, .of_extend fun more _ => rfl⟩
  | succ n ih =>
    rw [hexDigits] at h
    split at h
    · exact absurd h (by simp)
    · next d hd =>
      split at h
      · next hhex =>
        split at h
        · next ds' c'' hrest =>
          obtain ⟨rfl, rfl⟩ := Prod.mk.inj (Except.ok.inj h)
          have hagain : ∀ more x, hexDigits n (c.extend more).next = .ok (ds', x) →
              hexDigits (n + 1) (c.extend more) = .ok (d :: ds', x) := by
            intro more x hx
            rw [hexDigits, peek?_extend hd]
            dsimp only
            rw [if_pos hhex, hx]
          have hend := atEnd_of_peek? hd
          cases hnext : c.next.atEnd with
          | false =>
            have hread := ih hrest
            refine ⟨(later_next c).trans hread.later,
              (hread.becomes (later_next c)).imp fun more x _ hx => ?_⟩
            rw [← next_extend hend hnext] at hx
            exact hagain more x hx
          | true =>
            -- the last digit
            cases n with
            | succ n =>
              rw [hexDigits, peek?, List.isEmpty_iff.1 hnext] at hrest
              exact absurd hrest (by simp)
            | zero =>
              obtain ⟨rfl, rfl⟩ := Prod.mk.inj (Except.ok.inj hrest)
              refine ⟨later_next c, (becomes_next hend).imp fun more x _ hx => ?_⟩
              exact hagain more x (by rw [hx]; rfl)
        · exact absurd h (by simp)
      · exact absurd h (by simp)

theorem extends_fixedHex {length : Nat} {d : Char} (h : fixedHex length c = .ok (d, c')) :
    Extends (fixedHex length) c d c' := by
  rw [fixedHex] at h
  split at h
  · exact absurd h (by simp)
  · next ds c'' hdigits =>
    obtain ⟨hlater, hagain⟩ := extends_hexDigits hdigits
    split at h
    · next hscalar =>
      obtain ⟨rfl, rfl⟩ := Prod.mk.inj (Except.ok.inj h)
      refine ⟨hlater, hagain.imp fun more x _ hx => ?_⟩
      rw [fixedHex, hx]
      dsimp only
      rw [hscalar]
    · exact absurd h (by simp)

theorem extends_bracedHex {d : Char} (hend : c.atEnd = false)
    (h : bracedHex c = .ok (d, c')) : Extends bracedHex c d c' := by
  rw [bracedHex] at h
  generalize hdigits : Cursor.takeWhile isHexDigit c.rest.length c.next = r at h
  obtain ⟨ds, after⟩ := r
  dsimp only at h
  split at h
  · exact absurd h (by simp)
  · next b hb =>
    have hafter := atEnd_of_peek? hb
    have hlater : c.Later after := later_takeWhile (later_next c) hdigits
    have hnext := (later_takeWhile (.refl c.next) hdigits).atEnd hafter
    have hagain := takeWhile_extend (later_next c) hdigits hafter
    split at h
    · next hbrace =>
      split at h
      · exact absurd h (by simp)
      · next hne =>
        split at h
        · next ch hscalar =>
          obtain ⟨rfl, rfl⟩ := Prod.mk.inj (Except.ok.inj h)
          refine ⟨hlater.trans (later_next after),
            (hlater.becomes_next hafter).imp fun more x _ hx => ?_⟩
          rw [bracedHex, next_extend hend hnext, hagain]
          dsimp only
          rw [peek?_extend hb]
          dsimp only
          rw [if_pos hbrace, if_neg hne, hscalar, hx]
        · exact absurd h (by simp)
    · exact absurd h (by simp)

/-- What is a literal once a code point is read. -/
theorem extends_hexEscape {letter : Char} {a : Atom} (hend : c.atEnd = false)
    (h : hexEscape letter c = .ok (a, c')) : Extends (hexEscape letter) c a c' := by
  rw [hexEscape] at h
  split at h
  · exact absurd h (by simp)
  · next d hd =>
    have hnext := atEnd_of_peek? hd
    split at h
    · next hbrace =>
      split at h
      · next ch after hread =>
        obtain ⟨rfl, rfl⟩ := Prod.mk.inj (Except.ok.inj h)
        have hagain := extends_bracedHex hnext hread
        refine ⟨(later_next c).trans hagain.later,
          (hagain.becomes (later_next c)).imp fun more x _ hx => ?_⟩
        rw [hexEscape, next_extend hend hnext, peek?_extend hd]
        dsimp only
        rw [if_pos hbrace, hx]
      · exact absurd h (by simp)
    · next hbrace =>
      split at h
      · next ch after hread =>
        obtain ⟨rfl, rfl⟩ := Prod.mk.inj (Except.ok.inj h)
        have hagain := extends_fixedHex hread
        refine ⟨(later_next c).trans hagain.later,
          (hagain.becomes (later_next c)).imp fun more x _ hx => ?_⟩
        rw [hexEscape, next_extend hend hnext, peek?_extend hd]
        dsimp only
        rw [if_neg hbrace, hx]
      · exact absurd h (by simp)

/-! ## Other escapes -/

theorem extends_propertyEscape {negated : Bool} {a : Atom} (hend : c.atEnd = false)
    (h : propertyEscape negated c = .ok (a, c')) : Extends (propertyEscape negated) c a c' := by
  rw [propertyEscape] at h
  dsimp only at h
  split at h
  · exact absurd h (by simp)
  · next d hd =>
    have hnext := atEnd_of_peek? hd
    split at h
    · next hbrace =>
      generalize htext : Cursor.takeWhile (· != '}') c.next.rest.length c.next.next = r at h
      obtain ⟨text, after⟩ := r
      dsimp only at h
      split at h
      · exact absurd h (by simp)
      · next hafter =>
        have hafter : after.atEnd = false := Bool.eq_false_iff.2 hafter
        have hlater := later_takeWhile (later_next c.next) htext
        have hbody := (later_takeWhile (.refl c.next.next) htext).atEnd hafter
        have hagain := takeWhile_extend (later_next c.next) htext hafter
        obtain ⟨rfl, rfl⟩ := Prod.mk.inj (Except.ok.inj h)
        refine ⟨((later_next c).trans hlater).trans (later_advanceBy after 1),
          .of_extend fun more _ => ?_⟩
        rw [propertyEscape, next_extend hend hnext]
        dsimp only
        rw [peek?_extend hd]
        dsimp only
        rw [if_pos hbrace, next_extend hnext hbody, hagain, atEnd_extend hafter,
          if_neg Bool.false_ne_true, advance_extend hafter]
    · next hbrace =>
      split at h
      · exact absurd h (by simp)
      · next hslash =>
        obtain ⟨rfl, rfl⟩ := Prod.mk.inj (Except.ok.inj h)
        refine ⟨(later_next c).trans (later_next c.next),
          ((later_next c).becomes_next hnext).imp fun more x _ hx => ?_⟩
        rw [propertyEscape, next_extend hend hnext]
        dsimp only
        rw [peek?_extend hd]
        dsimp only
        rw [if_neg hbrace, if_neg hslash, hx]

theorem extends_wordBoundary {start : Nat} {a : Atom} (hend : c.atEnd = false)
    (h : wordBoundary start c = .ok (a, c')) : Extends (wordBoundary start) c a c' := by
  rw [wordBoundary] at h
  dsimp only at h
  split at h
  · exact absurd h (by simp)
  · next d hd =>
    have hnext := atEnd_of_peek? hd
    split at h
    · next hname =>
      generalize htext : Cursor.takeWhile (fun d => d.isAlpha || d == '-') c.next.rest.length
        c.next = r at h
      obtain ⟨text, after⟩ := r
      dsimp only at h
      split at h
      · next hclose =>
        have hafter := atEnd_of_peek? hclose
        have hlater := later_takeWhile (.refl c.next) htext
        have hagain := takeWhile_extend (.refl c.next) htext hafter
        have hstop := (later_next c).trans (hlater.trans (later_advanceBy after 1))
        -- each of the four names stands for a condition of its own
        split at h
        case h_5 => exact absurd h (by simp)
        all_goals
          next hkind =>
          obtain ⟨rfl, rfl⟩ := Prod.mk.inj (Except.ok.inj h)
          refine ⟨hstop, .of_extend fun more _ => ?_⟩
          rw [wordBoundary, next_extend hend hnext]
          dsimp only
          rw [peek?_extend hd]
          dsimp only
          rw [if_pos hname, hagain]
          dsimp only
          rw [if_pos (peek?_extend hclose), hkind, advance_extend hafter]
          rfl
      · exact absurd h (by simp)
    · next hname =>
      obtain ⟨rfl, rfl⟩ := Prod.mk.inj (Except.ok.inj h)
      refine ⟨.refl c, .of_extend fun more _ => ?_⟩
      rw [wordBoundary, next_extend hend hnext]
      dsimp only
      rw [peek?_extend hd]
      dsimp only
      rw [if_neg hname]

theorem isAlpha_of_isDigit {d : Char} (hd : d.isDigit = true) : d.isAlpha = false := by
  have hhigh : d.toNat ≤ 57 := (Char.isDigit_iff_toNat.1 hd).2
  rw [Bool.eq_false_iff]
  intro h
  rcases Bool.or_eq_true_iff.1 h with hupper | hlower
  · have hlow : 65 ≤ d.toNat := UInt32.le_iff_toNat_le.1 (of_decide_eq_true hupper).1
    omega
  · have hlow : 97 ≤ d.toNat :=
      UInt32.le_iff_toNat_le.1 (of_decide_eq_true (Bool.and_eq_true_iff.1 hlower).1)
    omega

/-- A count is no name of a word boundary. -/
theorem wordBoundary_of_digit {start : Nat} {d : Char} (h : c.next.peek? = some d)
    (hd : d.isDigit = true) : wordBoundary start c = .ok (.anchor .wordBoundary, c) := by
  have hname : ¬ (d.isAlpha || d == '-') = true := by
    rw [isAlpha_of_isDigit hd, Bool.false_or, beq_iff_eq]
    rintro rfl
    exact absurd hd (by decide)
  rw [wordBoundary]
  dsimp only
  rw [h]
  dsimp only
  rw [if_neg hname]

/-- A brace behind the pattern begins a count. -/
theorem peek?_next_of_apart (hmore : Apart c.verbose more) (hend : c.peek? ≠ some '\x7b')
    (hbrace : (c.extend more).peek? = some '\x7b') :
    ∃ d, (c.extend more).next.peek? = some d ∧ d.isDigit = true := by
  have hnil : c.rest = [] := by
    cases hatEnd : c.atEnd with
    | true => exact List.isEmpty_iff.1 hatEnd
    | false => exact absurd (peek?_extend_of_atEnd hatEnd ▸ hbrace) hend
  rw [peek?, extend, hnil, List.nil_append, List.head?_eq_some_iff] at hbrace
  obtain ⟨ds, rfl⟩ := hbrace
  obtain ⟨d, hd, hdigit, hblank⟩ := hmore.brace ds rfl
  have hadvance : (c.extend ('\x7b' :: ds)).advance.rest = ds := by
    rw [advance, advanceBy, extend, hnil]
    rfl
  refine ⟨d, ?_, hdigit⟩
  rw [next, skipBlanks]
  split
  · have hsign : d ≠ '#' := by
      rintro rfl
      exact absurd hdigit (by decide)
    have hsolid : ∀ e ∈ ds.head?, isBlank e = false ∧ e ≠ '#' := fun e he =>
      Option.some.inj (hd.symm.trans he) ▸ ⟨hblank, hsign⟩
    dsimp only
    rw [hadvance, skipFrom_eq hsolid]
    exact hd
  · rw [peek?, hadvance]
    exact hd

/-- An escape is read to its end; a word boundary may be followed by a count. -/
theorem advances_escapeSequence {a : Atom} (hend : c.atEnd = false)
    (h : escapeSequence c = .ok (a, c')) : Advances escapeSequence c a c' := by
  have hletter : c.Later c.advance := later_advanceBy c 1
  have hafter : c.advance.Later c.advance.advance := later_advanceBy c.advance 1
  rw [escapeSequence] at h
  split at h
  · exact absurd h (by simp)
  · next d hd =>
    have hd' := atEnd_of_peek? hd
    -- the letter after the backslash decides what is read
    rw [advances_iff]
    simp only [escapeSequence, advance_extend hend, peek?_extend hd, advance_extend hd']
    split at h
    · exact absurd h (by simp)
    · next hdigit =>
      simp only [if_neg hdigit]
      split at h
      · next hhex =>
        simp only [if_pos hhex]
        have hread := extends_hexEscape hd' h
        exact ⟨hread.later, hread.becomes hletter⟩
      · next hhex =>
        simp only [if_neg hhex]
        split at h
        · next hproperty =>
          simp only [if_pos hproperty]
          have hread := extends_propertyEscape hd' h
          exact ⟨hread.later, hread.becomes hletter⟩
        · next hproperty =>
          simp only [if_neg hproperty]
          split at h
          · next negated s hshorthand =>
            obtain ⟨rfl, rfl⟩ := Prod.mk.inj (Except.ok.inj h)
            exact ⟨hafter, .of_extend fun more _ => rfl⟩
          · split at h
            · next hescapable =>
              obtain ⟨rfl, rfl⟩ := Prod.mk.inj (Except.ok.inj h)
              simp only [if_pos hescapable]
              exact ⟨hafter, .of_extend fun more _ => rfl⟩
            · next hescapable =>
              simp only [if_neg hescapable]
              split at h
              · next a' hletterEscape =>
                split at h
                · next hboundary =>
                  have hread := extends_wordBoundary (atEnd_of_peek? hboundary.2) h
                  refine ⟨hafter.trans hread.later,
                    (hread.becomes (hletter.trans hafter)).imp fun more x _ hx => ?_⟩
                  rw [if_pos ⟨hboundary.1, peek?_extend hboundary.2⟩]
                  exact hx
                · next hboundary =>
                  obtain ⟨rfl, rfl⟩ := Prod.mk.inj (Except.ok.inj h)
                  refine ⟨hafter, .of_extend fun more hmore => ?_⟩
                  split
                  · next hbrace =>
                    obtain ⟨d', hd', hdigit'⟩ := peek?_next_of_apart (c := c.advance.advance)
                      hmore (fun hpeek => hboundary ⟨hbrace.1, hpeek⟩) hbrace.2
                    rw [hbrace.1] at hletterEscape
                    obtain rfl := Option.some.inj hletterEscape
                    exact wordBoundary_of_digit hd' hdigit'
                  · rfl
              · exact absurd h (by simp)

/-! ## Repetitions -/

/-- The end of a repetition is behind a question mark if one follows. -/
theorem later_lazily (c : Cursor) : c.Later (if c.peek? = some '?' then c.advance else c) := by
  split
  · exact later_advanceBy c 1
  · exact .refl c

theorem extends_closeCount {start min : Nat} {max : Option Nat} {q : Quantifier}
    (h : closeCount start min max c = .ok (q, c')) : Extends (closeCount start min max) c q c' := by
  rw [closeCount] at h
  split at h
  · exact absurd h (by simp)
  · next hclose =>
    rw [Classical.not_not] at hclose
    have hend := atEnd_of_peek? hclose
    have hlater := (later_next c).trans (later_lazily c.next)
    -- the place behind the brace, or behind the question mark
    have hstop : (if c.next.peek? = some '?' then c.next.advance else c.next).Becomes c.verbose
        fun more x => (decide ((c.extend more).next.peek? = some '?'),
          if (c.extend more).next.peek? = some '?' then (c.extend more).next.advance
          else (c.extend more).next) = (decide (c.next.peek? = some '?'), x) := by
      by_cases hlazily : c.next.peek? = some '?'
      · have hnext := atEnd_of_peek? hlazily
        rw [if_pos hlazily]
        refine .of_extend fun more _ => ?_
        rw [next_extend hend hnext, peek?_extend hlazily, if_pos rfl, advance_extend hnext, hlazily]
      · rw [if_neg hlazily]
        obtain ⟨swallowed, hswallowed, hbecomes⟩ := becomes_next hend
        refine ⟨swallowed, hswallowed, fun more hmore => ?_⟩
        have hpeek := peek?_onto_ne hswallowed ((later_next c).mode.symm ▸ hmore) hlazily
        have hnext : (c.extend more).next = _ := hbecomes more hmore
        dsimp only
        rw [hnext, decide_eq_false hpeek, if_neg hpeek, decide_eq_false hlazily]
    dsimp only at h
    rw [extends_iff]
    simp only [closeCount, peek?_extend hclose, not_true_eq_false, ne_eq, if_false]
    split at h
    · split at h
      · next hle =>
        obtain ⟨rfl, rfl⟩ := Prod.mk.inj (Except.ok.inj h)
        refine ⟨hlater, hstop.imp fun more x _ hx => ?_⟩
        obtain ⟨hlazily, hx⟩ := Prod.mk.inj hx
        rw [if_pos hle, hlazily, hx]
      · exact absurd h (by simp)
    · obtain ⟨rfl, rfl⟩ := Prod.mk.inj (Except.ok.inj h)
      refine ⟨hlater, hstop.imp fun more x _ hx => ?_⟩
      obtain ⟨hlazily, hx⟩ := Prod.mk.inj hx
      rw [hlazily, hx]

theorem advances_simpleQuantifier {min : Nat} {max : Option Nat} {q : Quantifier}
    (hmore : Apart c.verbose more) (hend : c.atEnd = false)
    (h : simpleQuantifier c min max = (q, c')) :
    c.advance.Later c' ∧ simpleQuantifier (c.extend more) min max = (q, c'.extend more) := by
  rw [simpleQuantifier] at h ⊢
  rw [advance_extend hend]
  split at h
  · next hlazily =>
    obtain ⟨rfl, rfl⟩ := Prod.mk.inj h
    rw [if_pos (peek?_extend hlazily), advance_extend (atEnd_of_peek? hlazily)]
    exact ⟨later_advanceBy c.advance 1, rfl⟩
  · next hlazily =>
    obtain ⟨rfl, rfl⟩ := Prod.mk.inj h
    rw [if_neg fun hq => hlazily ((peek?_extend_iff hmore.no_question).1 hq)]
    exact ⟨.refl c.advance, rfl⟩

/-- A count ends with a brace, or with a question mark behind the brace. -/
theorem eq_of_closeCount {start min : Nat} {max : Option Nat} {q : Quantifier}
    (h : closeCount start min max c = .ok (q, c')) : c.peek? = some '\x7d' ∧
      c' = if c.next.peek? = some '?' then c.next.advance else c.next := by
  rw [closeCount] at h
  split at h
  · exact absurd h (by simp)
  · next hclose =>
    refine ⟨Classical.not_not.1 hclose, ?_⟩
    dsimp only at h
    split at h
    · split at h
      · exact (Prod.mk.inj (Except.ok.inj h)).2.symm
      · exact absurd h (by simp)
    · exact (Prod.mk.inj (Except.ok.inj h)).2.symm

theorem dropBlanks_extend (hend : c.dropBlanks.atEnd = false) :
    (c.extend more).dropBlanks = c.dropBlanks.extend more := by
  have hdrop : c.rest.drop (c.rest.takeWhile isBlank).length ≠ [] :=
    List.isEmpty_eq_false_iff.1 hend
  rw [dropBlanks, dropBlanks,
    show (c.extend more).rest.takeWhile isBlank = _ from takeWhile_append_of_drop hdrop more,
    advanceBy_extend (List.takeWhile_prefix _).length_le]

theorem later_count (c : Cursor) : c.Later (count c).2 := by
  have hfirst : c.Later c.dropBlanks := later_advanceBy c _
  exact hfirst.trans ((later_takeWhile_fuel _ _ _).trans (later_takeWhile_fuel _ _ _))

/-- A count is all there if something follows it and the blanks around it. -/
theorem count_extend {n : Except Fault Nat} (h : count c = (n, c')) (hend : c'.atEnd = false) :
    count (c.extend more) = (n, c'.extend more) := by
  rw [count] at h
  generalize hdigits :
    Cursor.takeWhile Char.isDigit c.dropBlanks.rest.length c.dropBlanks = r at h
  obtain ⟨ds, after⟩ := r
  dsimp only at h
  generalize hblanks : Cursor.takeWhile isBlank after.rest.length after = r at h
  obtain ⟨bs, stop⟩ := r
  obtain ⟨rfl, rfl⟩ := Prod.mk.inj h
  have hafter := later_takeWhile (.refl c.dropBlanks) hdigits
  have hend' := (later_takeWhile (.refl after) hblanks).atEnd hend
  rw [count, dropBlanks_extend (hafter.atEnd hend')]
  dsimp only
  rw [takeWhile_extend (.refl c.dropBlanks) hdigits hend' more]
  dsimp only
  rw [takeWhile_extend (.refl after) hblanks hend more]
  rfl

theorem advances_countedQuantifier {q : Quantifier} (hend : c.atEnd = false)
    (h : countedQuantifier c = .ok (q, c')) : Advances countedQuantifier c q c' := by
  have hfirst : c.Later c.next := later_next c
  rw [countedQuantifier] at h
  dsimp only at h
  split at h
  · exact absurd h (by simp)
  · next hnext =>
    have hnext : c.next.atEnd = false := Bool.eq_false_iff.2 hnext
    have hstart : c.advance.Later c.next := later_skipBlanks c.advance
    rw [advances_iff]
    simp only [countedQuantifier, next_extend hend hnext, atEnd_extend hnext,
      if_neg Bool.false_ne_true]
    generalize hlow : count c.next = low at h
    obtain ⟨n, after⟩ := low
    have hlater : c.next.Later after := by
      have hcount := later_count c.next
      rwa [hlow] at hcount
    dsimp only at h
    split at h
    · exact absurd h (by simp)
    · next hcomma =>
      have hafter := atEnd_of_peek? hcomma
      have hsecond := hlater.trans (later_next after)
      simp only [count_extend hlow hafter, peek?_extend hcomma]
      split at h
      · exact absurd h (by simp)
      · next hmiddle =>
        have hmiddle : after.next.atEnd = false := Bool.eq_false_iff.2 hmiddle
        simp only [next_extend hafter hmiddle, atEnd_extend hmiddle, if_neg Bool.false_ne_true]
        split at h
        · exact absurd h (by simp)
        · next min =>
          split at h
          · next hclose =>
            have hread := extends_closeCount h
            simp only [peek?_extend hclose, if_true]
            exact ⟨hstart.trans (hsecond.trans hread.later), hread.becomes (hfirst.trans hsecond)⟩
          · next hclose =>
            simp only [peek?_extend_of_atEnd hmiddle, if_neg hclose]
            generalize hhigh : count after.next = high at h
            obtain ⟨n', after'⟩ := high
            have hlater' : after.next.Later after' := by
              have hcount := later_count after.next
              rwa [hhigh] at hcount
            dsimp only at h
            split at h
            · exact absurd h (by simp)
            · next max =>
              simp only [count_extend hhigh (atEnd_of_peek? (eq_of_closeCount h).1)]
              have hread := extends_closeCount h
              have hall := hsecond.trans hlater'
              exact ⟨hstart.trans (hall.trans hread.later), hread.becomes (hfirst.trans hall)⟩
    · next d hcomma hd =>
      have hafter := atEnd_of_peek? hd
      simp only [count_extend hlow hafter, peek?_extend hd]
      split at h
      · exact absurd h (by simp)
      · next k =>
        have hread := extends_closeCount h
        exact ⟨hstart.trans (hlater.trans hread.later), hread.becomes (hfirst.trans hlater)⟩

/-- A counted repetition ends as its count does. -/
theorem exists_close_of_countedQuantifier {q : Quantifier}
    (h : countedQuantifier c = .ok (q, c')) : ∃ d, c.Later d ∧ d.peek? = some '\x7d' ∧
      c' = if d.next.peek? = some '?' then d.next.advance else d.next := by
  have hlow : c.Later (count c.next).2 := (later_next c).trans (later_count c.next)
  have hsecond : c.Later (count c.next).2.next := hlow.trans (later_next _)
  rw [countedQuantifier] at h
  dsimp only at h
  split at h
  · exact absurd h (by simp)
  · split at h
    · exact absurd h (by simp)
    · split at h
      · exact absurd h (by simp)
      · split at h
        · exact absurd h (by simp)
        · split at h
          · exact ⟨_, hsecond, eq_of_closeCount h⟩
          · split at h
            · exact absurd h (by simp)
            · exact ⟨_, hsecond.trans (later_count _), eq_of_closeCount h⟩
    · split at h
      · exact absurd h (by simp)
      · exact ⟨_, hlow, eq_of_closeCount h⟩

end FluentRegex.Syntax
