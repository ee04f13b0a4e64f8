import FluentRegex.Proofs.Syntax.Group

/-!
# What a step of reading can do

A step of reading adds an item, opens a group, closes one, ends a branch, or puts the latest item
under a repetition (`Progress.Moves`). `moves_of_step` says so once for all characters and for every
pattern, so what holds of all that was read is proved by cases on these five.

The numbers and the names of groups are given out where groups are opened, and nowhere else
(`Groups.Opens`).
-/

namespace FluentRegex.Syntax

/-! ## Openings -/

/-- Opening a group takes the next number if the group captures, and a name that is valid and free if
it has one. -/
inductive Groups.Opens (g : Groups) : GroupKind → Groups → Prop
  | plain (items : List FlagItem) : Opens g (.plain items) g
  | capture : Opens g (.capture (g.count + 1)) { g with count := g.count + 1 }
  | named (name : String) (span : Span) (free : g.names.lookup name = none)
    (valid : isName name.toList = true) :
    Opens g (.named (g.count + 1) name) ⟨g.count + 1, (name, span) :: g.names⟩

theorem opens_of_groupName {g g' : Groups} {c c' : Cursor} {kind : GroupKind}
    (h : groupName g c = .ok ((kind, g'), c')) : g.Opens kind g' := by
  obtain ⟨name, hname, hne, hfree, rfl, rfl, -⟩ := groupName_eq_ok_iff.1 h
  refine .named _ _ hfree ?_
  rw [String.toList_ofList]
  exact isName_of_groupNameChars hne hname

/-- Flags are no group, or open one that does not capture. -/
theorem opens_of_flagOpening {openAt : Nat} {g g' : Groups} {c c' : Cursor} {o : Opening}
    (h : flagOpening openAt g c = .ok ((o, g'), c')) :
    (∃ items, o = .flags items ∧ g' = g) ∨ ∃ kind, o = .group kind ∧ g.Opens kind g' := by
  rw [flagOpening] at h
  split at h
  · exact absurd h (by simp)
  · split at h
    · exact absurd h (by simp)
    · dsimp only at h
      split at h
      · split at h
        · exact absurd h (by simp)
        · obtain ⟨⟨rfl, rfl⟩, -⟩ := by simpa using h
          exact .inl ⟨_, rfl, rfl⟩
      · obtain ⟨⟨rfl, rfl⟩, -⟩ := by simpa using h
        exact .inr ⟨_, rfl, .plain _⟩

theorem opens_of_groupOpening {g g' : Groups} {c c' : Cursor} {o : Opening}
    (h : groupOpening g c = .ok ((o, g'), c')) :
    (∃ items, o = .flags items ∧ g' = g) ∨ ∃ kind, o = .group kind ∧ g.Opens kind g' := by
  rw [groupOpening] at h
  dsimp only at h
  split at h
  · exact absurd h (by simp)
  · split at h
    · split at h
      · next hname =>
        obtain ⟨⟨rfl, rfl⟩, -⟩ := by simpa using h
        exact .inr ⟨_, rfl, opens_of_groupName hname⟩
      · exact absurd h (by simp)
    · split at h
      · next hname =>
        obtain ⟨⟨rfl, rfl⟩, -⟩ := by simpa using h
        exact .inr ⟨_, rfl, opens_of_groupName hname⟩
      · exact absurd h (by simp)
    · exact opens_of_flagOpening h
    · obtain ⟨⟨rfl, rfl⟩, -⟩ := by simpa using h
      exact .inr ⟨_, rfl, .capture⟩

/-! ## Items -/

/-- A tree with no tree in it: an atom, a class in brackets, or flags. -/
def Tree.isLeaf : Tree → Bool
  | .flags _ _ => true
  | .atom _ _ => true
  | .bracket _ _ _ => true
  | _ => false

theorem bracket_of_bracketItems {fuel : Nat} {b : Bracket} {outer : List Bracket} {c c' : Cursor}
    {t : Tree} (h : bracketItems fuel b outer c = .ok (t, c')) :
    ∃ span negated inner, t = .bracket span negated inner := by
  induction fuel generalizing b outer c with
  | zero => exact absurd h (by simp [bracketItems])
  | succ fuel ih =>
    rw [bracketItems] at h
    dsimp only at h
    split at h
    · exact absurd h (by simp)
    · split at h
      · exact ih h
      · split at h
        · exact absurd h (by simp)
        · exact ih h
    · split at h
      · obtain ⟨rfl, -⟩ := by simpa using h
        exact ⟨_, _, _, rfl⟩
      · exact ih h
    · split at h
      · exact ih h
      · split at h
        · exact absurd h (by simp)
        · exact ih h

theorem bracket_of_bracketClass {c c' : Cursor} {t : Tree} (h : bracketClass c = .ok (t, c')) :
    ∃ span negated inner, t = .bracket span negated inner := by
  rw [bracketClass] at h
  split at h
  · exact absurd h (by simp)
  · exact bracket_of_bracketItems h

/-! ## Steps -/

namespace Progress

/-- What a step of reading can make of what was read before. -/
inductive Moves (p : Progress) : Progress → Prop
  | item (t : Tree) (c : Cursor) (leaf : t.isLeaf = true) : Moves p (p.push t c)
  | opened (kind : GroupKind) (groups : Groups) (c : Cursor) (g : OpenGroup) (start : Nat)
    (kept : g.kind = kind ∧ g.before = p.level) (opens : p.groups.Opens kind groups) :
    Moves p { cursor := c, level := Level.fresh start, opened := g :: p.opened, groups := groups }
  | closed (g : OpenGroup) (opened : List OpenGroup) (c : Cursor) (span : Span) (stop : Nat)
    (waiting : p.opened = g :: opened) :
    Moves p { p with
      cursor := c, level := g.before.push (.group span g.kind (p.level.tree stop)),
      opened := opened }
  | bar (c : Cursor) (stop : Nat) : Moves p { p with cursor := c, level := p.level.bar stop }
  | repeated (t : Tree) (ts : List Tree) (q : Quantifier) (c : Cursor) (span : Span)
    (latest : p.level.items = t :: ts) :
    Moves p { p with
      cursor := c,
      level := { p.level with items := .repetition span q.min q.max q.lazily t :: ts } }

variable {p q : Progress}

theorem moves_of_openGroup (h : p.openGroup = .ok q) : p.Moves q := by
  rw [openGroup] at h
  split at h
  · exact absurd h (by simp)
  · next items groups c hopening =>
    rcases opens_of_groupOpening hopening with ⟨items', -, rfl⟩ | ⟨kind, hkind, -⟩
    · rw [← Except.ok.inj h]
      exact .item _ _ rfl
    · exact absurd hkind (by simp)
  · next kind groups c hopening =>
    rcases opens_of_groupOpening hopening with ⟨items', hkind, -⟩ | ⟨kind', hkind, hopens⟩
    · exact absurd hkind (by simp)
    · obtain rfl : kind = kind' := by simpa using hkind
      rw [← Except.ok.inj h]
      exact .opened kind groups _ _ _ ⟨rfl, rfl⟩ hopens

theorem moves_of_closeGroup (h : p.closeGroup = .ok q) : p.Moves q := by
  rw [closeGroup] at h
  split at h
  · exact absurd h (by simp)
  · next g opened hwaiting =>
    rw [← Except.ok.inj h]
    exact .closed g opened _ _ _ hwaiting

theorem moves_of_quantify {reading : Reading Quantifier} (h : p.quantify reading = .ok q) :
    p.Moves q := by
  rw [quantify] at h
  split at h
  · exact absurd h (by simp)
  · exact absurd h (by simp)
  · exact absurd h (by simp)
  · next t ts _ _ hitems =>
    split at h
    · exact absurd h (by simp)
    · rw [← Except.ok.inj h]
      exact .repeated t ts _ _ _ hitems

/-- Whatever character a step begins with, it makes one of the moves. -/
theorem moves_of_step {d : Char} (h : p.step d = .ok q) : p.Moves q := by
  have hpush : ∀ {t : Tree} {c : Cursor}, t.isLeaf = true →
      (Except.ok (p.push t c) : Except Fault Progress) = .ok q → p.Moves q := by
    intro t c ht h
    rw [← Except.ok.inj h]
    exact .item t c ht
  unfold step at h
  dsimp only at h
  split at h
  · exact moves_of_openGroup h
  · exact moves_of_closeGroup h
  · rw [← Except.ok.inj h]
    exact .bar _ _
  · split at h
    · exact absurd h (by simp)
    · next hclass =>
      obtain ⟨span, negated, inner, rfl⟩ := bracket_of_bracketClass hclass
      exact hpush rfl h
  · exact moves_of_quantify h
  · exact moves_of_quantify h
  · exact moves_of_quantify h
  · exact moves_of_quantify h
  · split at h
    · exact absurd h (by simp)
    · exact hpush rfl h
  · exact hpush rfl h
  · exact hpush rfl h
  · exact hpush rfl h
  · exact hpush rfl h

/-- What the moves keep, whatever they do to the cursor, holds of all that is read. -/
theorem run_induction {P : Progress → Prop}
    (hcursor : ∀ p c, P p → P { p with cursor := c }) (hmoves : ∀ p q, Moves p q → P p → P q)
    {fuel : Nat} (hp : P p) (h : run fuel p = .ok q) : P q := by
  induction fuel generalizing p with
  | zero =>
    rw [← Except.ok.inj h]
    exact hp
  | succ fuel ih =>
    have hskip := hcursor p p.cursor.skipBlanks hp
    rw [run] at h
    dsimp only at h
    split at h
    · rw [← Except.ok.inj h]
      exact hskip
    · split at h
      · exact absurd h (by simp)
      · next hstep => exact ih (hmoves _ _ (moves_of_step hstep) hskip) h

end Progress

end FluentRegex.Syntax
