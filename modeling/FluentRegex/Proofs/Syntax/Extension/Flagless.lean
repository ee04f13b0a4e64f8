import FluentRegex.Proofs.Syntax.Extension.Modes
import FluentRegex.Proofs.Syntax.Extension.Steps
import FluentRegex.Proofs.Syntax.Steps

/-!
# Patterns without flags

A pattern that sets no flags is read up to its end in the same way where more text follows that is
`Apart` (`readsUp_of_run`). What it leaves behind keeps the modes as they are (`Flagless`), and has
no other names than those that stand in the pattern behind the mark of a name.
-/

namespace FluentRegex.Syntax

namespace Progress

/-! ## Steps -/

/-- What a pattern without flags leaves behind: blanks count, and all that was read leaves the modes
as they are. -/
structure Flagless (p : Progress) : Prop where
  plain : p.cursor.verbose = false
  level : p.level.KeepsModes
  opened : ∀ g ∈ p.opened, g.verbose = false ∧ g.before.KeepsModes

theorem Flagless.start (pattern : List Char) : (Progress.start pattern).Flagless :=
  ⟨rfl, .fresh 0, fun _ hg => absurd hg List.not_mem_nil⟩

/-- A text begins with the opening of a group with a name. -/
def Names (n : String) (cs : List Char) : Prop :=
  '(' :: '?' :: 'P' :: '<' :: (n.toList ++ ['>']) <+: cs ∨
    '(' :: '?' :: '<' :: (n.toList ++ ['>']) <+: cs

/-- A step sets no flags, and enters no name that does not stand at the cursor. -/
structure SetsNoFlags (p q : Progress) : Prop where
  flagless : q.Flagless
  names : ∀ n ∈ q.groups.names.map Prod.fst,
    n ∈ p.groups.names.map Prod.fst ∨ Names n p.cursor.rest

variable {p q : Progress}

theorem setsNoFlags_push {t : Tree} {c : Cursor} (hp : p.Flagless) (ht : t.KeepsModes)
    (hlater : p.cursor.advance.Later c) : p.SetsNoFlags (p.push t c) where
  flagless := ⟨hlater.mode.trans hp.plain, hp.level.push ht, hp.opened⟩
  names _ hn := .inl hn

theorem setsNoFlags_openGroup (hp : p.Flagless) (hpeek : p.cursor.peek? = some '(')
    (hfree : FreeOfFlags p.cursor.rest) (h : p.openGroup = .ok q) : p.SetsNoFlags q := by
  obtain ⟨kind, g, c, hreads, rfl⟩ := reads_of_openGroup hpeek hp.plain hfree h
  have hlater := (advances_groupOpening (Cursor.atEnd_of_peek? hpeek)
    (groupOpening_of_reads hreads)).later
  have hplain : c.verbose = false := hlater.mode.trans hp.plain
  refine ⟨⟨hplain, .fresh _, ?_⟩, fun n hn => hreads.names hpeek hp.plain hn⟩
  exact List.forall_mem_cons.2 ⟨⟨hplain, hp.level⟩, hp.opened⟩

theorem setsNoFlags_closeGroup (hp : p.Flagless) (h : p.closeGroup = .ok q) : p.SetsNoFlags q := by
  rw [closeGroup] at h
  split at h
  · exact absurd h (by simp)
  · next g opened hopened =>
    obtain ⟨hplain, hkeeps⟩ := hp.opened g (by rw [hopened]; exact List.mem_cons_self)
    rw [← Except.ok.inj h]
    refine ⟨⟨hplain, hkeeps.push (keepsModes_group _ _ _), fun f hf => ?_⟩, fun _ hn => .inl hn⟩
    exact hp.opened f (by rw [hopened]; exact List.mem_cons_of_mem _ hf)

theorem setsNoFlags_quantify {r : Reading Quantifier} (hp : p.Flagless)
    (hr : ∀ x c, r = .ok (x, c) → p.cursor.advance.Later c) (h : p.quantify r = .ok q) :
    p.SetsNoFlags q := by
  rw [quantify] at h
  split at h
  · exact absurd h (by simp)
  · exact absurd h (by simp)
  · exact absurd h (by simp)
  · next t ts hempty hflags hitems =>
    split at h
    · exact absurd h (by simp)
    · next x c =>
      rw [← Except.ok.inj h]
      have hall := hp.level.items
      rw [hitems, List.forall_mem_cons] at hall
      refine ⟨⟨(hr x c rfl).mode.trans hp.plain, ⟨hp.level.branches, ?_⟩, hp.opened⟩,
        fun _ hn => .inl hn⟩
      exact List.forall_mem_cons.2 ⟨hall.1.repetition _ _ _ _, hall.2⟩

theorem setsNoFlags_of_step {d : Char} (hp : p.Flagless) (hpeek : p.cursor.peek? = some d)
    (hfree : FreeOfFlags p.cursor.rest) (h : p.step d = .ok q) : p.SetsNoFlags q := by
  have hend := Cursor.atEnd_of_peek? hpeek
  have hnext := Cursor.Later.refl p.cursor.advance
  have hsimple : ∀ min max x c, (Except.ok (simpleQuantifier p.cursor min max) :
      Reading Quantifier) = .ok (x, c) → p.cursor.advance.Later c :=
    fun min max x c hx => (advances_simpleQuantifier (.nil _) hend (Except.ok.inj hx)).1
  unfold step at h
  dsimp only at h
  split at h
  · exact setsNoFlags_openGroup hp hpeek hfree h
  · exact setsNoFlags_closeGroup hp h
  · rw [← Except.ok.inj h]
    exact ⟨⟨hp.plain, hp.level.bar _, hp.opened⟩, fun _ hn => .inl hn⟩
  · split at h
    · exact absurd h (by simp)
    · next t c hclass =>
      rw [← Except.ok.inj h]
      obtain ⟨span, negate, inner, rfl⟩ := bracket_of_bracketClass hclass
      exact setsNoFlags_push hp (keepsModes_bracket _ _ _) (advances_bracketClass hend hclass).later
  · exact setsNoFlags_quantify hp (hsimple 0 (some 1)) h
  · exact setsNoFlags_quantify hp (hsimple 0 none) h
  · exact setsNoFlags_quantify hp (hsimple 1 none) h
  · exact setsNoFlags_quantify hp
      (fun x c hcount => (advances_countedQuantifier hend hcount).later) h
  · split at h
    · exact absurd h (by simp)
    · next a c hescape =>
      rw [← Except.ok.inj h]
      exact setsNoFlags_push hp (keepsModes_atom _ _) (advances_escapeSequence hend hescape).later
  all_goals
    rw [← Except.ok.inj h]
    exact setsNoFlags_push hp (keepsModes_atom _ _) hnext

/-! ## Whole patterns -/

/-- What has been read up to the end of a pattern without flags, from some place on: it is read in
the same way where more text follows, and its names stand in the pattern. -/
structure ReadsUp (more : List Char) (p q : Progress) : Prop where
  atEnd : q.cursor.At []
  flagless : q.Flagless
  names : ∀ n ∈ q.groups.names.map Prod.fst,
    n ∈ p.groups.names.map Prod.fst ∨ ∃ rest, rest <:+ p.cursor.rest ∧ Names n rest
  leads : (p.extend more).Leads (q.extend more)

theorem readsUp_of_run {more : List Char} {fuel : Nat} (hmore : Apart false more)
    (hp : p.Flagless) (hfree : FreeOfFlags p.cursor.rest) (hfuel : p.cursor.rest.length < fuel)
    (h : run fuel p = .ok q) : ReadsUp more p q := by
  induction fuel generalizing p with
  | zero => exact absurd hfuel (Nat.not_lt_zero _)
  | succ fuel ih =>
    rw [run, Cursor.skipBlanks_eq hp.plain] at h
    dsimp only at h
    split at h
    · next hpeek =>
      rw [← Except.ok.inj h]
      rw [Cursor.peek?, List.head?_eq_none_iff] at hpeek
      exact ⟨⟨hpeek, hp.plain⟩, hp, fun n hn => .inl hn, .refl _⟩
    · next d hpeek =>
      split at h
      · exact absurd h (by simp)
      · next p' hstep =>
        obtain ⟨hflagless, hnames⟩ := setsNoFlags_of_step hp hpeek hfree hstep
        have hresumes := resumes_of_step hpeek hstep
        have hagain : (p.extend more).step d = .ok (p'.extend more) := by
          cases hresumes.persists with
          | same hsame => exact hsame more (hp.plain ▸ hmore)
          | commented hv _ _ => exact absurd hv (Bool.eq_false_iff.1 hp.plain)
        obtain ⟨ds, hrest⟩ := List.head?_eq_some_iff.1 hpeek
        have hds : p.cursor.advance.rest = ds := by
          rw [Cursor.advance, Cursor.advanceBy, hrest]
          rfl
        have hsuffix : p'.cursor.rest <:+ p.cursor.rest :=
          hresumes.suffix.trans (List.drop_suffix 1 _)
        have hlen : p'.cursor.rest.length ≤ ds.length := hds ▸ hresumes.suffix.length_le
        have hat : (p.extend more).cursor.At (d :: (ds ++ more)) :=
          ⟨by rw [extend, Cursor.extend, hrest]; rfl, hp.plain⟩
        have hrest' := ih hflagless (hfree.suffix hsuffix) (by
          rw [hrest, List.length_cons] at hfuel
          omega) h
        refine ⟨hrest'.atEnd, hrest'.flagless, fun n hn => ?_, ?_⟩
        · rcases hrest'.names n hn with hn | ⟨rest, hrest, hn⟩
          · exact (hnames n hn).imp_right fun h => ⟨_, List.suffix_refl _, h⟩
          · exact .inr ⟨rest, hrest.trans hsuffix, hn⟩
        · refine (leads_step hat hagain ?_).trans hrest'.leads
          rw [extend, Cursor.extend, List.length_append, List.length_append]
          exact Nat.add_le_add_right hlen _

end Progress

end FluentRegex.Syntax
